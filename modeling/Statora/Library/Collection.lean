import Mathlib.Data.List.Nodup
import Mathlib.Data.List.Lattice

/-!
# Document collections with a unique key

A collection is a list of documents in natural order, no two with the same
key. Every operation keeps the keys distinct, so an update that selects by key
touches at most one document, and a lookup by key is the only document that
bears it. Nothing here depends on what the documents are.
-/

namespace Statora.Library

class Keyed (α : Type) (κ : outParam Type) where
  key : α → κ

structure Collection (α : Type) {κ : Type} [Keyed α κ] where
  docs : List α
  nodup : (docs.map Keyed.key).Nodup

/-- Rewrites the first document that satisfies `p`, in place. -/
def updateFirst {α : Type} (p : α → Bool) (f : α → α) : List α → List α
  | [] => []
  | a :: as => if p a then f a :: as else a :: updateFirst p f as

section Lists
variable {α κ : Type} [Keyed α κ]

theorem updateFirst_map_key (p : α → Bool) (f : α → α)
    (hf : ∀ a, Keyed.key (f a) = Keyed.key a) (as : List α) :
    (updateFirst p f as).map Keyed.key = as.map Keyed.key := by
  induction as with
  | nil => rfl
  | cons a as ih =>
    simp only [updateFirst]
    split_ifs
    · simp [hf]
    · simp [ih]

theorem updateFirst_of_forall_not {p : α → Bool} {f : α → α} {as : List α}
    (h : ∀ a ∈ as, p a = false) : updateFirst p f as = as := by
  induction as with
  | nil => rfl
  | cons a as ih =>
    have ha : p a = false := h a (by simp)
    simp [updateFirst, ha, ih (fun b hb => h b (by simp [hb]))]

theorem forall_mem_updateFirst {α : Type} {P : α → Prop} {p : α → Bool} {f : α → α}
    {as : List α} (h : ∀ a ∈ as, P a) (hf : ∀ a, P a → P (f a)) :
    ∀ a ∈ updateFirst p f as, P a := by
  induction as with
  | nil => exact h
  | cons first as ih =>
    rw [List.forall_mem_cons] at h
    rw [updateFirst]
    split
    · exact List.forall_mem_cons.mpr ⟨hf first h.1, h.2⟩
    · exact List.forall_mem_cons.mpr ⟨h.1, ih h.2⟩

theorem filter_updateFirst {p : α → Bool} {f : α → α} (hf : ∀ a, p a = true → p (f a) = true)
    (as : List α) : (updateFirst p f as).filter p = (as.filter p).modifyHead f := by
  induction as with
  | nil => rfl
  | cons a as ih =>
    cases ha : p a with
    | true => simp [updateFirst, ha, hf a ha]
    | false => simp [updateFirst, ha, ih]

theorem updateFirst_key_and_eq_map [DecidableEq κ] (k : κ) (q : α → Bool) (f : α → α)
    {as : List α} (h : (as.map Keyed.key).Nodup) :
    updateFirst (fun a => decide (Keyed.key a = k) && q a) f as =
      as.map (fun a => if Keyed.key a = k then if q a then f a else a else a) := by
  induction as with
  | nil => rfl
  | cons a as ih =>
    rw [List.map_cons, List.nodup_cons] at h
    rw [updateFirst, List.map_cons]
    by_cases ha : Keyed.key a = k
    · have hrest : ∀ b ∈ as, Keyed.key b ≠ k := fun b hb hbk =>
        h.1 (by rw [ha, ← hbk]; exact List.mem_map_of_mem hb)
      have hmap : as.map (fun b => if Keyed.key b = k then if q b then f b else b else b) = as :=
        (List.map_congr_left fun b hb => if_neg (hrest b hb)).trans (List.map_id' as)
      have hsame : updateFirst (fun b => decide (Keyed.key b = k) && q b) f as = as :=
        updateFirst_of_forall_not fun b hb => by simp [hrest b hb]
      rw [hmap, hsame]
      cases q a <;> simp [ha]
    · simp [ha, ih h.2]

theorem updateFirst_key_eq_map [DecidableEq κ] (k : κ) (f : α → α) {as : List α}
    (h : (as.map Keyed.key).Nodup) :
    updateFirst (fun a => decide (Keyed.key a = k)) f as =
      as.map (fun a => if Keyed.key a = k then f a else a) := by
  simpa using updateFirst_key_and_eq_map k (fun _ => true) f h

theorem sublist_eq_of_mem_iff {L l l' : List α} (hL : L.Nodup) (h : l.Sublist L)
    (h' : l'.Sublist L) (hmem : ∀ a, a ∈ l ↔ a ∈ l') : l = l' := by
  induction L generalizing l l' with
  | nil => rw [List.sublist_nil.mp h, List.sublist_nil.mp h']
  | cons a L ih =>
    obtain ⟨ha, hL⟩ := List.nodup_cons.mp hL
    cases h with
    | cons _ h =>
      cases h' with
      | cons _ h' => exact ih hL h h' hmem
      | cons_cons _ h' => exact absurd (h.subset ((hmem a).mpr List.mem_cons_self)) ha
    | cons_cons _ h =>
      cases h' with
      | cons _ h' => exact absurd (h'.subset ((hmem a).mp List.mem_cons_self)) ha
      | cons_cons _ h' =>
        refine congrArg (List.cons a) (ih hL h h' fun b => ⟨fun hb => ?_, fun hb => ?_⟩)
        · exact ((List.mem_cons.mp ((hmem b).mp (List.mem_cons_of_mem a hb))).resolve_left
            fun hba => ha (hba ▸ h.subset hb))
        · exact ((List.mem_cons.mp ((hmem b).mpr (List.mem_cons_of_mem a hb))).resolve_left
            fun hba => ha (hba ▸ h'.subset hb))

end Lists

namespace Collection
variable {α κ : Type} [Keyed α κ]

def empty : Collection α := ⟨[], List.nodup_nil⟩

def find (c : Collection α) (p : α → Bool) : List α := c.docs.filter p

def findOne (c : Collection α) (p : α → Bool) : Option α := c.docs.find? p

def countDocuments (c : Collection α) (p : α → Bool) : ℕ := (c.docs.filter p).length

def updateOne (c : Collection α) (p : α → Bool) (f : α → α)
    (hf : ∀ a, Keyed.key (f a) = Keyed.key a := by intro a; rfl) : Collection α :=
  ⟨updateFirst p f c.docs, by rw [updateFirst_map_key p f hf]; exact c.nodup⟩

def updateMany (c : Collection α) (p : α → Bool) (f : α → α)
    (hf : ∀ a, Keyed.key (f a) = Keyed.key a := by intro a; rfl) : Collection α :=
  ⟨c.docs.map fun a => if p a then f a else a, by
    have hkey : (c.docs.map fun a => if p a then f a else a).map Keyed.key =
        c.docs.map Keyed.key := by
      rw [List.map_map]
      refine List.map_congr_left fun a _ => ?_
      simp only [Function.comp_apply]
      split_ifs
      · exact hf a
      · rfl
    rw [hkey]
    exact c.nodup⟩

def deleteMany (c : Collection α) (p : α → Bool) : Collection α :=
  ⟨c.docs.filter (fun a => !p a), (List.filter_sublist.map _).nodup c.nodup⟩

variable [DecidableEq κ]

/-- The key index rejects a second document with the same key. -/
def insertOne (c : Collection α) (a : α) : Collection α :=
  if h : Keyed.key a ∈ c.docs.map Keyed.key then c
  else ⟨c.docs ++ [a], by
    rw [List.map_append, List.nodup_append]
    exact ⟨c.nodup, by simp, fun x hx y hy hxy => h (by simp_all)⟩⟩

def contains (c : Collection α) (k : κ) : Bool := decide (k ∈ c.docs.map Keyed.key)

def findByKey (c : Collection α) (k : κ) : Option α :=
  c.findOne (fun a => decide (Keyed.key a = k))

def updateByKey (c : Collection α) (k : κ) (f : α → α)
    (hf : ∀ a, Keyed.key (f a) = Keyed.key a := by intro a; rfl) : Collection α :=
  c.updateOne (fun a => decide (Keyed.key a = k)) f hf

def deleteByKey (c : Collection α) (k : κ) : Collection α :=
  c.deleteMany (fun a => decide (Keyed.key a = k))

omit [DecidableEq κ] in
@[ext] theorem ext {c d : Collection α} (h : c.docs = d.docs) : c = d := by
  cases c; cases d; simp_all

theorem insertOne_docs_of_fresh {c : Collection α} {a : α} (h : c.contains (Keyed.key a) = false) :
    (c.insertOne a).docs = c.docs ++ [a] := by
  have h' : Keyed.key a ∉ c.docs.map Keyed.key := by simpa [contains] using h
  simp [insertOne, h']

theorem insertOne_of_contains {c : Collection α} {a : α} (h : c.contains (Keyed.key a) = true) :
    c.insertOne a = c := by
  have h' : Keyed.key a ∈ c.docs.map Keyed.key := by simpa [contains] using h
  simp only [insertOne, h', dif_pos]

theorem mem_insertOne_of_mem {c : Collection α} {a b : α} (h : b ∈ c.docs) :
    b ∈ (c.insertOne a).docs := by
  cases hfresh : c.contains (Keyed.key a) with
  | true => rwa [insertOne_of_contains hfresh]
  | false =>
    rw [insertOne_docs_of_fresh hfresh]
    exact List.mem_append_left _ h

theorem mem_of_mem_insertOne {c : Collection α} {a b : α} (h : b ∈ (c.insertOne a).docs) :
    b ∈ c.docs ∨ b = a := by
  cases hfresh : c.contains (Keyed.key a) with
  | true =>
    rw [insertOne_of_contains hfresh] at h
    exact Or.inl h
  | false =>
    rw [insertOne_docs_of_fresh hfresh, List.mem_append, List.mem_singleton] at h
    exact h

theorem mem_foldl_insertOne {as : List α} (has : (as.map Keyed.key).Nodup) {c : Collection α}
    {b : α} : b ∈ (as.foldl insertOne c).docs ↔
      b ∈ c.docs ∨ b ∈ as ∧ c.contains (Keyed.key b) = false := by
  induction as generalizing c with
  | nil => simp
  | cons a as ih =>
    obtain ⟨ha, has⟩ := List.nodup_cons.mp has
    rw [List.foldl_cons, ih has, List.mem_cons]
    cases hfresh : c.contains (Keyed.key a) with
    | true =>
      have hne : c.contains (Keyed.key b) = false → b ≠ a := by
        rintro hb rfl
        rw [hfresh] at hb
        cases hb
      rw [insertOne_of_contains hfresh]
      refine or_congr_right ⟨fun h => ⟨Or.inr h.1, h.2⟩, fun h => ?_⟩
      exact ⟨h.1.resolve_left (hne h.2), h.2⟩
    | false =>
      have hkey : b ∈ as → Keyed.key b ≠ Keyed.key a := fun hb hab =>
        ha (hab ▸ List.mem_map_of_mem hb)
      have hcontains : (c.insertOne a).contains (Keyed.key b) = false ↔
          c.contains (Keyed.key b) = false ∧ Keyed.key b ≠ Keyed.key a := by
        simp only [contains, insertOne_docs_of_fresh hfresh, List.map_append, List.map_singleton,
          List.mem_append, List.mem_singleton, decide_eq_false_iff_not, not_or, ne_eq]
      rw [hcontains, insertOne_docs_of_fresh hfresh, List.mem_append, List.mem_singleton, or_assoc]
      refine or_congr_right ⟨?_, ?_⟩
      · rintro (rfl | ⟨hb, hnew, -⟩)
        · exact ⟨Or.inl rfl, hfresh⟩
        · exact ⟨Or.inr hb, hnew⟩
      · rintro ⟨rfl | hb, hnew⟩
        · exact Or.inl rfl
        · exact Or.inr ⟨hb, hnew, hkey hb⟩

def Exclusive (clash : α → α → Prop) (c : Collection α) : Prop :=
  ∀ a ∈ c.docs, ∀ b ∈ c.docs, clash a b → a = b

instance [DecidableEq α] (clash : α → α → Prop) [∀ a b, Decidable (clash a b)]
    (c : Collection α) : Decidable (c.Exclusive clash) :=
  inferInstanceAs (Decidable (∀ a ∈ c.docs, ∀ b ∈ c.docs, clash a b → a = b))

omit [DecidableEq κ] in
theorem Exclusive.mono {clash : α → α → Prop} {c d : Collection α} (h : c.Exclusive clash)
    (hleft : ∀ a ∈ d.docs, ∀ b ∈ d.docs, clash a b → a ∈ c.docs)
    (hright : ∀ a ∈ d.docs, ∀ b ∈ d.docs, clash a b → b ∈ c.docs) : d.Exclusive clash :=
  fun a ha b hb hclash => h a (hleft a ha b hb hclash) b (hright a ha b hb hclash) hclash

/-- An insert keeps the documents exclusive exactly when it is refused or clashes
with none of them. -/
theorem exclusive_insertOne (clash : α → α → Prop) (hsymm : ∀ a b, clash a b → clash b a)
    {c : Collection α} (h : c.Exclusive clash) (a : α) :
    (c.insertOne a).Exclusive clash ↔
      (c.contains (Keyed.key a) = false → ∀ b ∈ c.docs, ¬ clash a b) := by
  cases hfresh : c.contains (Keyed.key a) with
  | true =>
    rw [insertOne_of_contains hfresh]
    exact iff_of_true h fun hne => absurd hne (by simp)
  | false =>
    have hne : ∀ b ∈ c.docs, a ≠ b := fun b hb hab => by
      have hkey : Keyed.key a ∉ c.docs.map Keyed.key := by simpa [contains] using hfresh
      exact hkey (hab ▸ List.mem_map_of_mem hb)
    unfold Exclusive
    rw [insertOne_docs_of_fresh hfresh]
    constructor
    · exact fun hall _ b hb hclash =>
        hne b hb (hall a (by simp) b (List.mem_append_left _ hb) hclash)
    · intro hnone b hb b' hb' hclash
      rw [List.mem_append, List.mem_singleton] at hb hb'
      rcases hb with hb | rfl <;> rcases hb' with hb' | rfl
      · exact h b hb b' hb' hclash
      · exact absurd (hsymm _ _ hclash) (hnone rfl b hb)
      · exact absurd hclash (hnone rfl b' hb')
      · rfl

@[simp] theorem updateByKey_docs (c : Collection α) (k : κ) (f : α → α)
    (hf : ∀ a, Keyed.key (f a) = Keyed.key a) :
    (c.updateByKey k f hf).docs = c.docs.map (fun a => if Keyed.key a = k then f a else a) :=
  updateFirst_key_eq_map k f c.nodup

omit [DecidableEq κ] in
theorem eq_of_key_eq {c : Collection α} {a b : α} (ha : a ∈ c.docs) (hb : b ∈ c.docs)
    (h : Keyed.key a = Keyed.key b) : a = b :=
  List.inj_on_of_nodup_map c.nodup ha hb h

theorem findByKey_eq_none {c : Collection α} {k : κ} :
    c.findByKey k = none ↔ ∀ a ∈ c.docs, Keyed.key a ≠ k := by
  simp [findByKey, findOne, List.find?_eq_none]

theorem mem_of_findByKey {c : Collection α} {k : κ} {a : α} (h : c.findByKey k = some a) :
    a ∈ c.docs ∧ Keyed.key a = k :=
  ⟨List.mem_of_find?_eq_some h, by simpa using List.find?_some h⟩

theorem findByKey_of_mem {c : Collection α} {a : α} (ha : a ∈ c.docs) :
    c.findByKey (Keyed.key a) = some a := by
  cases hb : c.findByKey (Keyed.key a) with
  | none => exact absurd rfl (findByKey_eq_none.mp hb a ha)
  | some b =>
    have h := mem_of_findByKey hb
    rw [eq_of_key_eq h.1 ha h.2]

theorem forall_insertOne_iff {P : α → Prop} {c : Collection α} {a : α}
    (h : ∀ stored ∈ c.docs, P stored) :
    (∀ stored ∈ (c.insertOne a).docs, P stored) ↔ (c.contains (Keyed.key a) = false → P a) := by
  cases hfresh : c.contains (Keyed.key a) with
  | true =>
    rw [insertOne_of_contains hfresh]
    exact ⟨fun _ hno => absurd hno (by simp), fun _ => h⟩
  | false =>
    rw [insertOne_docs_of_fresh hfresh]
    constructor
    · exact fun hall _ => hall a (by simp)
    · intro hnew stored hmem
      rcases List.mem_append.mp hmem with hold | hlast
      · exact h stored hold
      · rw [List.mem_singleton.mp hlast]
        exact hnew rfl

theorem forall_updateByKey_iff {P : α → Prop} {c : Collection α} {k : κ} {f : α → α}
    {hf : ∀ a, Keyed.key (f a) = Keyed.key a} (h : ∀ stored ∈ c.docs, P stored) :
    (∀ stored ∈ (c.updateByKey k f hf).docs, P stored) ↔
      ∀ a, c.findByKey k = some a → P (f a) := by
  rw [updateByKey_docs]
  constructor
  · intro hall a hfound
    obtain ⟨hmem, hkey⟩ := mem_of_findByKey hfound
    have hset := hall _ (List.mem_map_of_mem hmem)
    rwa [if_pos hkey] at hset
  · intro hset stored hmem
    obtain ⟨a, hold, rfl⟩ := List.mem_map.mp hmem
    split_ifs with hkey
    · exact hset a (hkey ▸ findByKey_of_mem hold)
    · exact h a hold

theorem findByKey_insertOne_of_some {c : Collection α} {a b : α} {k : κ}
    (h : c.findByKey k = some b) : (c.insertOne a).findByKey k = some b := by
  obtain ⟨hmem, rfl⟩ := mem_of_findByKey h
  exact findByKey_of_mem (mem_insertOne_of_mem hmem)

theorem findByKey_insertOne_self {c : Collection α} {a : α}
    (h : c.contains (Keyed.key a) = false) :
    (c.insertOne a).findByKey (Keyed.key a) = some a := by
  refine findByKey_of_mem ?_
  rw [insertOne_docs_of_fresh h]
  exact List.mem_append_right _ (List.mem_singleton_self a)

theorem findByKey_isSome {c : Collection α} {k : κ} :
    (c.findByKey k).isSome = c.contains k := by
  rw [Bool.eq_iff_iff, contains, decide_eq_true_iff, List.mem_map, Option.isSome_iff_exists]
  constructor
  · rintro ⟨a, ha⟩
    exact ⟨a, mem_of_findByKey ha⟩
  · rintro ⟨a, ha, rfl⟩
    exact ⟨a, findByKey_of_mem ha⟩

theorem contains_insertOne {c : Collection α} {a : α} {k : κ} (h : c.contains k = true) :
    (c.insertOne a).contains k = true := by
  unfold contains at h ⊢
  rw [decide_eq_true_iff] at h ⊢
  obtain ⟨b, hb, hkey⟩ := List.mem_map.mp h
  exact List.mem_map.mpr ⟨b, mem_insertOne_of_mem hb, hkey⟩

theorem contains_insertOne_eq (c : Collection α) (a : α) (k : κ) :
    (c.insertOne a).contains k = (c.contains k || decide (Keyed.key a = k)) := by
  cases hfresh : c.contains (Keyed.key a) with
  | true =>
    rw [insertOne_of_contains hfresh]
    by_cases hkey : Keyed.key a = k
    · simp [← hkey, hfresh]
    · simp [hkey]
  | false =>
    unfold contains
    rw [insertOne_docs_of_fresh hfresh]
    simp [eq_comm]

theorem contains_updateByKey (c : Collection α) (k k' : κ) (f : α → α)
    (hf : ∀ a, Keyed.key (f a) = Keyed.key a) :
    (c.updateByKey k f hf).contains k' = c.contains k' := by
  unfold contains
  exact congrArg (fun keys : List κ => decide (k' ∈ keys)) (updateFirst_map_key _ f hf c.docs)

theorem updateByKey_of_findByKey_eq_none {c : Collection α} {k : κ} (f : α → α)
    (hf : ∀ a, Keyed.key (f a) = Keyed.key a) (h : c.findByKey k = none) :
    c.updateByKey k f hf = c := by
  apply ext
  rw [updateByKey_docs]
  exact (List.map_congr_left fun a ha => if_neg (findByKey_eq_none.mp h a ha)).trans
    (List.map_id' _)

theorem mem_deleteByKey {c : Collection α} {k : κ} {a : α} :
    a ∈ (c.deleteByKey k).docs ↔ a ∈ c.docs ∧ Keyed.key a ≠ k := by
  change a ∈ c.docs.filter _ ↔ _
  rw [List.mem_filter, Bool.not_eq_true', decide_eq_false_iff_not]

theorem deleteByKey_of_not_contains {c : Collection α} {k : κ} (h : c.contains k = false) :
    c.deleteByKey k = c := by
  have hne : ∀ a ∈ c.docs, Keyed.key a ≠ k := by
    rw [← findByKey_eq_none, ← Option.isNone_iff_eq_none, ← Option.not_isSome,
      findByKey_isSome, h, Bool.not_false]
  apply ext
  exact List.filter_eq_self.mpr fun a ha => by simp [hne a ha]

theorem findByKey_updateByKey (c : Collection α) (k k' : κ) (f : α → α)
    (hf : ∀ a, Keyed.key (f a) = Keyed.key a) :
    (c.updateByKey k f hf).findByKey k' =
      (c.findByKey k').map (fun a => if k' = k then f a else a) := by
  have hkey : ∀ a, Keyed.key (if Keyed.key a = k then f a else a) = Keyed.key a := fun a => by
    split_ifs
    · exact hf a
    · rfl
  simp only [findByKey, findOne, updateByKey_docs, List.find?_map, Function.comp_def, hkey]
  refine Option.map_congr fun a ha => ?_
  have hk : Keyed.key a = k' := by simpa using List.find?_some ha
  rw [hk]

theorem findByKey_updateByKey_self (c : Collection α) (k : κ) (f : α → α)
    (hf : ∀ a, Keyed.key (f a) = Keyed.key a) :
    (c.updateByKey k f hf).findByKey k = (c.findByKey k).map f := by
  simp only [findByKey_updateByKey, if_true]

theorem map_findByKey_updateByKey {β : Type} (c : Collection α) (k k' : κ) (f : α → α)
    (hf : ∀ a, Keyed.key (f a) = Keyed.key a) (field : α → β) (change : β → β)
    (hchange : ∀ a, field (f a) = change (field a)) :
    ((c.updateByKey k f hf).findByKey k').map field =
      if k' = k then ((c.findByKey k').map field).map change else (c.findByKey k').map field := by
  rw [findByKey_updateByKey, Option.map_map]
  split_ifs <;> cases c.findByKey k' <;> simp [hchange]

theorem updateOne_key_and (c : Collection α) (k : κ) (q : α → Bool) (f : α → α)
    (hf : ∀ a, Keyed.key (f a) = Keyed.key a) :
    c.updateOne (fun a => decide (Keyed.key a = k) && q a) f hf =
      c.updateByKey k (fun a => if q a then f a else a)
        (fun a => by split_ifs <;> simp [hf]) := by
  apply ext
  rw [updateByKey_docs]
  exact updateFirst_key_and_eq_map k q f c.nodup

end Collection
end Statora.Library
