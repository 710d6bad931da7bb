import Statora.Library.Collection

/-!
# References between collections

Documents of one collection refer to documents of another. `refers a r` says
that the document `a` holds the reference `r`, and `names r b` that `r` stands
for the document `b`. Every reference resolves when it names a stored document.
Inserts on either side are harmless up to the new document's own references; a
delete on the far side breaks exactly the references to what it deletes.
-/

namespace Statora.Library
variable {α β κ ν ρ : Type} [Keyed α κ] [Keyed β ν]

def HasKey (k : ν) (b : β) : Prop := Keyed.key b = k

/-- Every reference of the first collection names a document of the second. -/
def Resolves (refers : α → ρ → Prop) (names : ρ → β → Prop) (c : Collection α)
    (d : Collection β) : Prop :=
  ∀ a ∈ c.docs, ∀ r, refers a r → ∃ b ∈ d.docs, names r b

def ResolvesOne (refers : α → ρ → Prop) (names : ρ → β → Prop) (a : α) (d : Collection β) : Prop :=
  ∀ r, refers a r → ∃ b ∈ d.docs, names r b

section Rules
variable {refers : α → ρ → Prop} {names : ρ → β → Prop} {c : Collection α} {d : Collection β}

theorem resolves_empty : Resolves refers names (.empty : Collection α) d :=
  fun _ ha => absurd ha List.not_mem_nil

theorem Resolves.far_mono (h : Resolves refers names c d) {d' : Collection β}
    (hd : ∀ b ∈ d.docs, ∀ r, names r b → ∃ b' ∈ d'.docs, names r b') :
    Resolves refers names c d' := by
  intro a ha r hr
  obtain ⟨b, hb, hname⟩ := h a ha r hr
  exact hd b hb r hname

theorem Resolves.far_insertOne [DecidableEq ν] (h : Resolves refers names c d) (b : β) :
    Resolves refers names c (d.insertOne b) :=
  h.far_mono fun b' hb' _ hname => ⟨b', Collection.mem_insertOne_of_mem hb', hname⟩

theorem Resolves.far_updateByKey [DecidableEq ν] (h : Resolves refers names c d) (k : ν)
    (f : β → β) (hf : ∀ b, Keyed.key (f b) = Keyed.key b)
    (hname : ∀ b ∈ d.docs, Keyed.key b = k → ∀ r, names r b → names r (f b)) :
    Resolves refers names c (d.updateByKey k f hf) := by
  refine h.far_mono fun b hb r hr => ⟨if Keyed.key b = k then f b else b, ?_, ?_⟩
  · rw [Collection.updateByKey_docs]
    exact List.mem_map_of_mem hb
  · split_ifs with hkey
    · exact hname b hb hkey r hr
    · exact hr

theorem resolves_far_updateByKey_iff [DecidableEq ν] (h : Resolves refers names c d) (k : ν)
    (f : β → β) (hf : ∀ b, Keyed.key (f b) = Keyed.key b)
    (hname : ∀ r, ∀ b ∈ d.docs, ∀ b' ∈ d.docs, names r b → names r b' → b = b') :
    Resolves refers names c (d.updateByKey k f hf) ↔ ∀ b ∈ d.docs, Keyed.key b = k →
      ∀ a ∈ c.docs, ∀ r, refers a r → names r b → names r (f b) := by
  constructor
  · intro hall b hb hkey a ha r hr hbname
    obtain ⟨b', hb', hname'⟩ := hall a ha r hr
    rw [Collection.updateByKey_docs] at hb'
    obtain ⟨old, hold, rfl⟩ := List.mem_map.mp hb'
    split_ifs at hname' with hkey'
    · obtain rfl := Collection.eq_of_key_eq hold hb (hkey'.trans hkey.symm)
      exact hname'
    · obtain rfl := hname r b hb old hold hbname hname'
      exact absurd hkey hkey'
  · intro hkeep a ha r hr
    obtain ⟨b, hb, hbname⟩ := h a ha r hr
    refine ⟨if Keyed.key b = k then f b else b, ?_, ?_⟩
    · rw [Collection.updateByKey_docs]
      exact List.mem_map_of_mem hb
    · split_ifs with hkey
      · exact hkeep b hb hkey a ha r hr hbname
      · exact hbname

theorem Resolves.near_mono (h : Resolves refers names c d) {c' : Collection α}
    (hc : ∀ a' ∈ c'.docs, ∀ r, refers a' r → ∃ a ∈ c.docs, refers a r) :
    Resolves refers names c' d := by
  intro a' ha' r hr
  obtain ⟨a, ha, hr⟩ := hc a' ha' r hr
  exact h a ha r hr

theorem Resolves.near_deleteByKey [DecidableEq κ] (h : Resolves refers names c d) (k : κ) :
    Resolves refers names (c.deleteByKey k) d :=
  h.near_mono fun a ha _ hr => ⟨a, (Collection.mem_deleteByKey.mp ha).1, hr⟩

theorem resolves_insertOne_iff [DecidableEq κ] (h : Resolves refers names c d) (a : α) :
    Resolves refers names (c.insertOne a) d ↔
      (c.contains (Keyed.key a) = false → ResolvesOne refers names a d) := by
  constructor
  · intro hall hfresh
    refine hall a ?_
    rw [Collection.insertOne_docs_of_fresh hfresh]
    exact List.mem_append_right _ (List.mem_singleton_self a)
  · intro hnew a' ha'
    cases hfresh : c.contains (Keyed.key a) with
    | true =>
      rw [Collection.insertOne_of_contains hfresh] at ha'
      exact h a' ha'
    | false =>
      rcases Collection.mem_of_mem_insertOne ha' with hold | rfl
      · exact h a' hold
      · exact hnew hfresh

theorem resolves_updateByKey_iff [DecidableEq κ] (h : Resolves refers names c d) (k : κ)
    (f : α → α) (hf : ∀ a, Keyed.key (f a) = Keyed.key a) :
    Resolves refers names (c.updateByKey k f hf) d ↔
      ∀ a, c.findByKey k = some a → ResolvesOne refers names (f a) d := by
  rw [Resolves, Collection.updateByKey_docs]
  constructor
  · intro hall a hfound
    obtain ⟨ha, hkey⟩ := Collection.mem_of_findByKey hfound
    have hset := hall _ (List.mem_map_of_mem ha)
    rwa [if_pos hkey] at hset
  · intro hset a' ha'
    obtain ⟨a, ha, rfl⟩ := List.mem_map.mp ha'
    split_ifs with hkey
    · exact hset a (hkey ▸ Collection.findByKey_of_mem ha)
    · exact h a ha

/-- A delete on the far side breaks exactly the references that name only the deleted
document. -/
theorem resolves_far_deleteByKey_iff [DecidableEq ν] (h : Resolves refers names c d) (k : ν)
    (hname : ∀ r, ∀ b ∈ d.docs, ∀ b' ∈ d.docs, names r b → names r b' → b = b') :
    Resolves refers names c (d.deleteByKey k) ↔
      ∀ b ∈ d.docs, Keyed.key b = k → ∀ a ∈ c.docs, ∀ r, refers a r → ¬ names r b := by
  constructor
  · intro hall b hb hkey a ha r hr hbname
    obtain ⟨b', hb', hname'⟩ := hall a ha r hr
    obtain ⟨hmem, hne⟩ := Collection.mem_deleteByKey.mp hb'
    obtain rfl := hname r b hb b' hmem hbname hname'
    exact hne hkey
  · intro hnone a ha r hr
    obtain ⟨b, hb, hbname⟩ := h a ha r hr
    exact ⟨b, Collection.mem_deleteByKey.mpr ⟨hb, fun hkey => hnone b hb hkey a ha r hr hbname⟩,
      hbname⟩

end Rules

section Keys
variable {refers : α → ν → Prop} {c : Collection α} {d : Collection β}

theorem resolvesOne_hasKey_iff [DecidableEq ν] {a : α} :
    ResolvesOne refers HasKey a d ↔ ∀ k, refers a k → d.contains k = true := by
  refine forall₂_congr fun k _ => ?_
  rw [Collection.contains, decide_eq_true_iff, List.mem_map]
  rfl

theorem Resolves.far_updateKey [DecidableEq ν] (h : Resolves refers HasKey c d) (k : ν)
    (f : β → β) (hf : ∀ b, Keyed.key (f b) = Keyed.key b) :
    Resolves refers HasKey c (d.updateByKey k f hf) :=
  h.far_updateByKey k f hf fun b _ _ _ hkey => (hf b).trans hkey

theorem resolves_deleteKey_iff [DecidableEq ν] (h : Resolves refers HasKey c d) (k : ν) :
    Resolves refers HasKey c (d.deleteByKey k) ↔
      (d.contains k = true → ∀ a ∈ c.docs, ¬ refers a k) := by
  rw [resolves_far_deleteByKey_iff h k fun _ _ hb _ hb' hkey hkey' =>
    Collection.eq_of_key_eq hb hb' (hkey.trans hkey'.symm)]
  rw [Collection.contains, decide_eq_true_iff, List.mem_map]
  constructor
  · rintro hnone ⟨b, hb, hkey⟩ a ha hr
    exact hnone b hb hkey a ha k hr hkey
  · rintro hnone b hb hkey a ha r hr rfl
    exact hnone ⟨b, hb, hkey⟩ a ha (hkey ▸ hr)

end Keys
end Statora.Library
