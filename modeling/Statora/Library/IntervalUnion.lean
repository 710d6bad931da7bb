import Mathlib.Order.Interval.Finset.Basic
import Mathlib.Algebra.BigOperators.Group.List.Basic
import Mathlib.Data.Int.ConditionallyCompleteOrder
import Mathlib.Data.Int.Interval

/-!
# Lengths of unions of half-open spans

`coalesce` runs once over spans that are sorted by start and joins each one
that begins no later than the current one stops. The lengths of its result add
up to the number of points that the input covers, each counted once. A span
that stops before it starts covers nothing and changes nothing.
-/

namespace Statora.Library

structure Span (α : Type) where
  start : α
  stop : α
  deriving DecidableEq, Repr

section Order
variable {α : Type} [LinearOrder α]

def coalesce : Span α → List (Span α) → List (Span α)
  | cur, [] => [cur]
  | cur, s :: l =>
    if s.start ≤ cur.stop then coalesce ⟨cur.start, max cur.stop s.stop⟩ l
    else cur :: coalesce s l

variable [LocallyFiniteOrder α]

def Span.points (s : Span α) : Finset α := Finset.Ico s.start s.stop

def covered : List (Span α) → Finset α
  | [] => ∅
  | s :: l => s.points ∪ covered l

@[simp] theorem mem_points {s : Span α} {x : α} :
    x ∈ s.points ↔ s.start ≤ x ∧ x < s.stop := Finset.mem_Ico

@[simp] theorem mem_covered {l : List (Span α)} {x : α} :
    x ∈ covered l ↔ ∃ s ∈ l, s.start ≤ x ∧ x < s.stop := by
  induction l with
  | nil => simp [covered]
  | cons s l ih => simp [covered, ih]

theorem covered_perm {l m : List (Span α)} (h : l.Perm m) : covered l = covered m := by
  ext x
  simp [h.mem_iff]

theorem covered_subset {l m : List (Span α)} (h : l ⊆ m) : covered l ⊆ covered m := by
  intro x hx
  obtain ⟨s, hs, hx⟩ := mem_covered.mp hx
  exact mem_covered.mpr ⟨s, h hs, hx⟩

theorem card_covered_le (l : List (Span α)) :
    (covered l).card ≤ (l.map fun s => s.points.card).sum := by
  induction l with
  | nil => simp [covered]
  | cons s l ih =>
    rw [covered, List.map_cons, List.sum_cons]
    exact (Finset.card_union_le _ _).trans (Nat.add_le_add_left ih _)

theorem points_union_of_touch {s t : Span α} (hst : s.start ≤ t.start) (ht : t.start ≤ s.stop) :
    s.points ∪ t.points = (⟨s.start, max s.stop t.stop⟩ : Span α).points := by
  ext x
  simp only [Finset.mem_union, mem_points, lt_max_iff]
  constructor
  · rintro (⟨h1, h2⟩ | ⟨h1, h2⟩)
    · exact ⟨h1, Or.inl h2⟩
    · exact ⟨hst.trans h1, Or.inr h2⟩
  · rintro ⟨h1, h2 | h2⟩
    · exact Or.inl ⟨h1, h2⟩
    · rcases lt_or_ge x s.stop with h | h
      · exact Or.inl ⟨h1, h⟩
      · exact Or.inr ⟨ht.trans h, h2⟩

theorem sum_card_coalesce (cur : Span α) (l : List (Span α))
    (h : (cur :: l).Pairwise (fun a b => a.start ≤ b.start)) :
    ((coalesce cur l).map (fun s => s.points.card)).sum = (covered (cur :: l)).card := by
  induction l generalizing cur with
  | nil => simp [coalesce, covered]
  | cons s l ih =>
    obtain ⟨hcur, hl⟩ := List.pairwise_cons.mp h
    have hs := hcur s (by simp)
    simp only [coalesce]
    split_ifs with htouch
    · have hmerged : (⟨cur.start, max cur.stop s.stop⟩ :: l).Pairwise
          (fun a b : Span α => a.start ≤ b.start) :=
        List.pairwise_cons.mpr ⟨fun b hb => hcur b (by simp [hb]), hl.of_cons⟩
      rw [ih _ hmerged]
      simp only [covered, ← Finset.union_assoc, points_union_of_touch hs htouch]
    · have hdisj : Disjoint cur.points (covered (s :: l)) := by
        rw [Finset.disjoint_left]
        intro x hx hx'
        obtain ⟨t, ht, hts, -⟩ := mem_covered.mp hx'
        have hst : s.start ≤ t.start := by
          rcases List.mem_cons.mp ht with rfl | ht
          · exact le_rfl
          · exact (List.pairwise_cons.mp hl).1 t ht
        exact htouch ((hst.trans hts).trans (mem_points.mp hx).2.le)
      rw [List.map_cons, List.sum_cons, ih s hl]
      exact (Finset.card_union_of_disjoint hdisj).symm

end Order

def totalLength (l : List (Span ℤ)) : ℤ :=
  (l.map fun s => if s.start < s.stop then s.stop - s.start else 0).sum

theorem totalLength_eq_sum_card (l : List (Span ℤ)) :
    totalLength l = ((l.map (fun s => s.points.card)).sum : ℕ) := by
  induction l with
  | nil => rfl
  | cons s l ih =>
    have hlen : (if s.start < s.stop then s.stop - s.start else 0) = (s.points.card : ℤ) := by
      rw [Span.points, Int.card_Ico]
      split_ifs <;> omega
    simp only [totalLength, List.map_cons, List.sum_cons, Nat.cast_add] at ih ⊢
    rw [hlen, ih]

theorem totalLength_coalesce (cur : Span ℤ) (l : List (Span ℤ))
    (h : (cur :: l).Pairwise (fun a b => a.start ≤ b.start)) :
    totalLength (coalesce cur l) = ((covered (cur :: l)).card : ℤ) := by
  rw [totalLength_eq_sum_card, sum_card_coalesce cur l h]

end Statora.Library
