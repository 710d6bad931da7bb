import Mathlib.Data.List.Induction
import Mathlib.Data.Set.Function
import Mathlib.Order.Defs.LinearOrder
import Statora.Library.SortSlice

/-!
# Folds that keep the highest rank

`keepMax` keeps its first argument when the ranks are equal, so a fold of it
picks an element of the highest rank. Where the rank separates the candidates
the result depends only on which elements occur, not on their order.
-/

namespace Statora.Library
variable {α β : Type} [LinearOrder β] {rank : α → β}

def keepMax (rank : α → β) (a b : α) : α := if rank a ≥ rank b then a else b

/-- `m` belongs to `A` and no element of `A` ranks above it. -/
def IsWorst (rank : α → β) (A : Set α) (m : α) : Prop := m ∈ A ∧ ∀ a ∈ A, rank a ≤ rank m

theorem rank_keepMax (rank : α → β) (a b : α) :
    rank (keepMax rank a b) = max (rank a) (rank b) := by
  unfold keepMax
  split_ifs with h
  · exact (max_eq_left h).symm
  · exact (max_eq_right (le_of_not_ge h)).symm

theorem keepMax_eq_or (rank : α → β) (a b : α) : keepMax rank a b = a ∨ keepMax rank a b = b := by
  unfold keepMax
  split_ifs
  · exact .inl rfl
  · exact .inr rfl

theorem isWorst_singleton (m : α) : IsWorst rank {x | x = m} m :=
  ⟨rfl, fun _ ha => (congrArg rank ha).le⟩

theorem IsWorst.insert {A B : Set α} {m a : α} (h : IsWorst rank A m)
    (hB : ∀ x, x ∈ B ↔ x ∈ A ∨ x = a) : IsWorst rank B (keepMax rank m a) := by
  constructor
  · rcases keepMax_eq_or rank m a with hm | hm
    · rw [hm]
      exact (hB m).mpr (Or.inl h.1)
    · rw [hm]
      exact (hB a).mpr (Or.inr rfl)
  · intro x hx
    rw [rank_keepMax rank]
    rcases (hB x).mp hx with hx | rfl
    · exact (h.2 x hx).trans (le_max_left _ _)
    · exact le_max_right _ _

theorem isWorst_foldl (rank : α → β) (floor : α) (l : List α) :
    IsWorst rank {x | x = floor ∨ x ∈ l} (l.foldl (keepMax rank) floor) := by
  induction l using List.reverseRecOn with
  | nil => simpa using isWorst_singleton floor
  | append_singleton l a ih =>
    rw [List.foldl_append]
    exact ih.insert fun x => by simp [or_assoc]

theorem IsWorst.rank_le_iff {A : Set α} {m : α} (h : IsWorst rank A m) (b : β) :
    rank m ≤ b ↔ ∀ a ∈ A, rank a ≤ b :=
  ⟨fun hm a ha => (h.2 a ha).trans hm, fun hall => hall m h.1⟩

theorem IsWorst.rank_eq {A : Set α} {m n : α} (hm : IsWorst rank A m) (hn : IsWorst rank A n) :
    rank m = rank n :=
  le_antisymm (hn.2 m hm.1) (hm.2 n hn.1)

theorem IsWorst.unique {A : Set α} {m n : α} (hinj : Set.InjOn rank A) (hm : IsWorst rank A m)
    (hn : IsWorst rank A n) : m = n :=
  hinj hm.1 hn.1 (hm.rank_eq hn)

theorem IsWorst.union {A B : Set α} {m n : α} (hm : IsWorst rank A m) (hn : IsWorst rank B n) :
    IsWorst rank {x | x ∈ A ∨ x ∈ B} (keepMax rank m n) := by
  constructor
  · rcases keepMax_eq_or rank m n with h | h
    · exact Or.inl (by rw [h]; exact hm.1)
    · exact Or.inr (by rw [h]; exact hn.1)
  · intro x hx
    rw [rank_keepMax rank]
    rcases hx with hx | hx
    · exact (hm.2 x hx).trans (le_max_left _ _)
    · exact (hn.2 x hx).trans (le_max_right _ _)

theorem IsWorst.groups {ι : Type} {I : Set ι} {A : Set α} {B : ι → Set α} {f : ι → α} {m : α}
    (hf : ∀ i ∈ I, IsWorst rank (B i) (f i))
    (hm : IsWorst rank {x | x ∈ A ∨ ∃ i ∈ I, f i = x} m) :
    IsWorst rank {x | x ∈ A ∨ ∃ i ∈ I, x ∈ B i} m := by
  constructor
  · refine hm.1.imp_right fun ⟨i, hi, hx⟩ => ⟨i, hi, ?_⟩
    rw [← hx]
    exact (hf i hi).1
  · rintro x (hx | ⟨i, hi, hx⟩)
    · exact hm.2 x (Or.inl hx)
    · exact ((hf i hi).2 x hx).trans (hm.2 (f i) (Or.inr ⟨i, hi, rfl⟩))

theorem head?_sortSlice (rank : α → β) (a : α) (l : List α) :
    (sortSlice (fun x y => decide (rank x > rank y)) (a :: l)).head? =
      some (((sortSlice (fun x y => decide (rank x > rank y)) l).head?).elim a
        (keepMax rank a)) := by
  change (List.orderedInsert _ a (sortSlice _ l)).head? = _
  cases sortSlice (fun x y => decide (rank x > rank y)) l with
  | nil => rfl
  | cons b l =>
    by_cases h : rank b ≤ rank a
    · simp [List.orderedInsert, keepMax, h]
    · simp [List.orderedInsert, keepMax, h]

end Statora.Library
