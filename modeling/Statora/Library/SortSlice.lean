import Mathlib.Data.List.Sort
import Mathlib.Order.RelClasses

/-!
# Sorting by a strict comparison

`sortSlice less l` orders `l` so that no element is less than an earlier one,
and keeps the order of elements neither of which is less than the other.
-/

namespace Statora.Library
variable {α β : Type}

def sortSlice (less : α → α → Bool) (l : List α) : List α :=
  l.insertionSort (fun a b => less b a = false)

theorem sortSlice_perm (less : α → α → Bool) (l : List α) : (sortSlice less l).Perm l :=
  List.perm_insertionSort _ l

@[simp] theorem mem_sortSlice {less : α → α → Bool} {l : List α} {a : α} :
    a ∈ sortSlice less l ↔ a ∈ l := (sortSlice_perm less l).mem_iff

theorem sortSlice_pairwise [LinearOrder β] {less : α → α → Bool} (key : α → β)
    (hless : ∀ a b, less a b = true ↔ key a < key b) (l : List α) :
    (sortSlice less l).Pairwise (fun a b => key a ≤ key b) := by
  have hle : ∀ a b, less b a = false ↔ key a ≤ key b := fun a b => by
    rw [← not_lt, ← hless, Bool.not_eq_true]
  have : Std.Total (fun a b => less b a = false) :=
    ⟨fun a b => by simpa only [hle] using le_total (key a) (key b)⟩
  have : IsTrans α (fun a b => less b a = false) :=
    ⟨fun a b c => by simpa only [hle] using le_trans⟩
  exact (List.pairwise_insertionSort (fun a b => less b a = false) l).imp fun h => (hle _ _).mp h

theorem sortSlice_lt_pairwise [LinearOrder α] (l : List α) :
    (sortSlice (fun a b => decide (a < b)) l).Pairwise (· ≤ ·) :=
  sortSlice_pairwise id (fun a b => by simp) l

theorem sortSlice_eq_reverse {less : α → α → Bool} {l : List α}
    (h : l.Pairwise (fun a b => less b a = true)) : sortSlice less l = l.reverse := by
  have hlast : ∀ (a : α) (as : List α), (∀ b ∈ as, less b a = true) →
      as.orderedInsert (fun a b => less b a = false) a = as ++ [a] := by
    intro a as has
    induction as with
    | nil => rfl
    | cons b as ih =>
      have hb : less b a = true := has b List.mem_cons_self
      rw [List.orderedInsert_cons, if_neg (by simp [hb]),
        ih fun b hb => has b (List.mem_cons_of_mem _ hb), List.cons_append]
  induction l with
  | nil => rfl
  | cons a as ih =>
    rw [List.pairwise_cons] at h
    change (sortSlice less as).orderedInsert _ a = _
    rw [ih h.2, List.reverse_cons]
    exact hlast a as.reverse fun b hb => h.1 b (List.mem_reverse.mp hb)

end Statora.Library
