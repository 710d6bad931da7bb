import Mathlib.Data.List.Induction
import Mathlib.Data.List.Nodup
import Mathlib.Logic.Function.Basic

/-!
# Lookup tables built by a loop

A table is a function to `Option`. `mapOf` fills one from a list, a later entry
replacing an earlier one of the same key, and `groupBy` collects the entries of
each key in order.
-/

namespace Statora.Library
variable {α κ β : Type} [DecidableEq κ]

def mapOf (key : α → κ) (val : α → β) (l : List α) : κ → Option β :=
  l.foldl (fun m a => Function.update m (key a) (some (val a))) (fun _ => none)

def groupBy (key : α → κ) (val : α → β) (l : List α) (k : κ) : List β :=
  (l.filter (fun a => key a = k)).map val

def overwrite (key : α → κ) (val : α → Option β) (m : κ → Option β) (a : α) : κ → Option β :=
  match val a with
  | none => m
  | some b => Function.update m (key a) (some b)

section Lemmas
variable {key : α → κ} {val : α → β}

theorem mapOf_append_singleton (l : List α) (a : α) :
    mapOf key val (l ++ [a]) = Function.update (mapOf key val l) (key a) (some (val a)) := by
  simp [mapOf]

theorem mapOf_isSome (val : α → β) {l : List α} {k : κ} :
    (mapOf key val l k).isSome ↔ k ∈ l.map key := by
  induction l using List.reverseRecOn with
  | nil => simp [mapOf]
  | append_singleton l a ih =>
    rw [mapOf_append_singleton]
    by_cases hk : k = key a
    · simp [hk]
    · simp [hk, ih]

theorem mapOf_eq_none {l : List α} {k : κ} : mapOf key val l k = none ↔ k ∉ l.map key := by
  rw [← mapOf_isSome val, Option.not_isSome_iff_eq_none]

theorem mapOf_of_mem {l : List α} (hnodup : (l.map key).Nodup) {a : α} (ha : a ∈ l) :
    mapOf key val l (key a) = some (val a) := by
  induction l using List.reverseRecOn with
  | nil => simp at ha
  | append_singleton l b ih =>
    rw [mapOf_append_singleton]
    rw [List.map_append, List.nodup_append] at hnodup
    obtain ⟨hl, -, hdisj⟩ := hnodup
    rcases List.mem_append.mp ha with ha | ha
    · have hne : key a ≠ key b := hdisj _ (List.mem_map_of_mem ha) _ (by simp)
      rw [Function.update_of_ne hne, ih hl ha]
    · rw [List.mem_singleton.mp ha, Function.update_self]

theorem mapOf_perm {l l' : List α} (hnodup : (l.map key).Nodup) (h : l.Perm l') :
    mapOf key val l = mapOf key val l' := by
  funext k
  by_cases hk : k ∈ l.map key
  · obtain ⟨a, ha, rfl⟩ := List.mem_map.mp hk
    rw [mapOf_of_mem hnodup ha, mapOf_of_mem ((h.map key).nodup_iff.mp hnodup) (h.mem_iff.mp ha)]
  · rw [mapOf_eq_none.mpr hk, mapOf_eq_none.mpr (fun h' => hk ((h.map key).mem_iff.mpr h'))]

theorem overwrite_of_ne {val : α → Option β} {m : κ → Option β} {a : α} {k : κ} (h : k ≠ key a) :
    overwrite key val m a k = m k := by
  unfold overwrite
  cases val a with
  | none => rfl
  | some b => exact Function.update_of_ne h _ _

theorem overwrite_self (val : α → Option β) (m : κ → Option β) (a : α) :
    overwrite key val m a (key a) = (val a).or (m (key a)) := by
  unfold overwrite
  cases val a with
  | none => rfl
  | some b => simp

theorem foldl_overwrite_of_not_mem {val : α → Option β} {l : List α} {m : κ → Option β} {k : κ}
    (h : k ∉ l.map key) : l.foldl (overwrite key val) m k = m k := by
  induction l generalizing m with
  | nil => rfl
  | cons a l ih =>
    rw [List.map_cons, List.mem_cons, not_or] at h
    rw [List.foldl_cons, ih h.2, overwrite_of_ne h.1]

theorem foldl_overwrite_of_mem {val : α → Option β} {l : List α} (hnodup : (l.map key).Nodup)
    {m : κ → Option β} {a : α} (ha : a ∈ l) :
    l.foldl (overwrite key val) m (key a) = (val a).or (m (key a)) := by
  induction l generalizing m with
  | nil => simp at ha
  | cons b l ih =>
    obtain ⟨hb, hl⟩ := List.nodup_cons.mp hnodup
    rw [List.foldl_cons]
    rcases List.mem_cons.mp ha with rfl | ha
    · rw [foldl_overwrite_of_not_mem hb, overwrite_self]
    · have hne : key a ≠ key b := fun h => hb (List.mem_map.mpr ⟨a, ha, h⟩)
      rw [ih hl ha, overwrite_of_ne hne]

theorem mem_groupBy {l : List α} {k : κ} {b : β} :
    b ∈ groupBy key val l k ↔ ∃ a ∈ l, key a = k ∧ val a = b := by
  simp [groupBy, and_assoc]

/-- The groups of distinct keys share out the entries that have one of the keys. -/
theorem flatMap_groupBy_perm (key : α → κ) {keys : List κ} (hnodup : keys.Nodup) (l : List α) :
    (keys.flatMap (groupBy key id l)).Perm (l.filter (fun a => key a ∈ keys)) := by
  induction keys with
  | nil => simp
  | cons k keys ih =>
    obtain ⟨hk, hkeys⟩ := List.nodup_cons.mp hnodup
    have hfirst : (l.filter (fun a => key a ∈ k :: keys)).filter (fun a => key a = k) =
        groupBy key id l k := by
      rw [groupBy, List.map_id, List.filter_filter]
      exact List.filter_congr fun a _ => by by_cases ha : key a = k <;> simp [ha]
    have hrest : (l.filter (fun a => key a ∈ k :: keys)).filter (fun a => !decide (key a = k)) =
        l.filter (fun a => key a ∈ keys) := by
      rw [List.filter_filter]
      exact List.filter_congr fun a _ => by by_cases ha : key a = k <;> simp [ha, hk]
    have hsplit := List.filter_append_perm (fun a => decide (key a = k))
      (l.filter (fun a => key a ∈ k :: keys))
    rw [hfirst, hrest] at hsplit
    rw [List.flatMap_cons]
    exact ((ih hkeys).append_left _).trans hsplit

end Lemmas
end Statora.Library
