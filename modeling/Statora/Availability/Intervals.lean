import Mathlib.Data.Prod.Lex
import Statora.Domain
import Statora.Library.IntervalUnion
import Statora.Library.SortSlice

/-!
# Clipping and merging downtime intervals

`mergeIntervals` keeps the list built so far and the interval still open, as
the loop of the source does. Its total duration is the number of instants the
input intervals cover.
-/

namespace Statora.Availability
open Library (Span sortSlice coalesce covered totalLength)

abbrev Interval := Span ℤ

def clipInterval (iv : Interval) (periodStart periodEnd : ℤ) : Option Interval :=
  let start := if periodStart > iv.start then periodStart else iv.start
  let stop := if periodEnd < iv.stop then periodEnd else iv.stop
  if ¬ start < stop then none else some ⟨start, stop⟩

def intervalLess (a b : Interval) : Bool :=
  if a.start = b.start then decide (a.stop < b.stop) else decide (a.start < b.start)

def mergeStep (acc : List Interval × Interval) (next : Interval) : List Interval × Interval :=
  if ¬ next.start > acc.2.stop then
    if next.stop > acc.2.stop then (acc.1, ⟨acc.2.start, next.stop⟩) else acc
  else (acc.1 ++ [acc.2], next)

def mergeIntervals (intervals : List Interval) : List Interval :=
  match sortSlice intervalLess intervals with
  | [] => []
  | current :: rest =>
    let acc := rest.foldl mergeStep ([], current)
    acc.1 ++ [acc.2]

def totalDuration (intervals : List Interval) : ℤ :=
  intervals.foldl (fun total iv => if iv.stop > iv.start then total + (iv.stop - iv.start)
    else total) 0

/-- `math.Round`: halves go away from zero. -/
def mathRound (x : ℚ) : ℤ := if 0 ≤ x then ⌊x + 1 / 2⌋ else -⌊-x + 1 / 2⌋

def availabilityPercent (totalMinutes downtimeMinutes : ℚ) : ℚ :=
  if totalMinutes ≤ 0 then 100
  else
    let percent := (totalMinutes - downtimeMinutes) / totalMinutes * 100
    let percent : ℚ := mathRound (percent * 10000) / 10000
    if percent < 0 then 0 else if percent > 100 then 100 else percent

theorem clipInterval_eq_some {iv c : Interval} {periodStart periodEnd : ℤ} :
    clipInterval iv periodStart periodEnd = some c ↔
      c = ⟨max periodStart iv.start, min periodEnd iv.stop⟩ ∧ c.start < c.stop := by
  have hstart : (if periodStart > iv.start then periodStart else iv.start) =
      max periodStart iv.start := by
    split_ifs <;> omega
  have hstop : (if periodEnd < iv.stop then periodEnd else iv.stop) =
      min periodEnd iv.stop := by
    split_ifs <;> omega
  unfold clipInterval
  dsimp only
  rw [hstart, hstop]
  by_cases h : max periodStart iv.start < min periodEnd iv.stop
  · rw [if_neg (not_not.mpr h), Option.some.injEq]
    constructor
    · rintro rfl
      exact ⟨rfl, h⟩
    · exact fun hc => hc.1.symm
  · rw [if_pos h]
    constructor
    · rintro ⟨⟩
    · rintro ⟨rfl, hlt⟩
      exact absurd hlt h

theorem intervalLess_iff (a b : Interval) :
    intervalLess a b = true ↔ toLex (a.start, a.stop) < toLex (b.start, b.stop) := by
  simp only [intervalLess, Prod.Lex.toLex_lt_toLex]
  split_ifs with h
  · simp [h]
  · simp [h]

theorem sorted_start (intervals : List Interval) :
    (sortSlice intervalLess intervals).Pairwise (fun a b => a.start ≤ b.start) := by
  refine (Library.sortSlice_pairwise (fun a : Interval => toLex (a.start, a.stop))
    intervalLess_iff intervals).imp ?_
  intro a b hab
  rcases Prod.Lex.toLex_le_toLex.mp hab with h | h
  · exact h.le
  · exact h.1.le

theorem foldl_mergeStep (merged : List Interval) (current : Interval) (rest : List Interval) :
    (rest.foldl mergeStep (merged, current)).1 ++ [(rest.foldl mergeStep (merged, current)).2] =
      merged ++ coalesce current rest := by
  induction rest generalizing merged current with
  | nil => rfl
  | cons next rest ih =>
    simp only [List.foldl_cons, mergeStep, coalesce, not_lt]
    split_ifs with htouch hlonger
    · rw [ih, max_eq_right hlonger.le]
    · rw [ih, max_eq_left (not_lt.mp hlonger)]
    · rw [ih, List.append_assoc, List.singleton_append]

theorem totalDuration_eq_totalLength (intervals : List Interval) :
    totalDuration intervals = totalLength intervals := by
  have hacc : ∀ total : ℤ, intervals.foldl (fun total iv => if iv.stop > iv.start
      then total + (iv.stop - iv.start) else total) total = total + totalLength intervals := by
    induction intervals with
    | nil => simp [totalLength]
    | cons iv intervals ih =>
      intro total
      rw [List.foldl_cons, ih]
      simp only [totalLength, List.map_cons, List.sum_cons]
      split_ifs <;> omega
  simpa [totalDuration] using hacc 0

/-- The merged intervals last as long as the input covers, each instant counted once. -/
theorem totalDuration_mergeIntervals (intervals : List Interval) :
    totalDuration (mergeIntervals intervals) = (covered intervals).card := by
  have hperm := Library.sortSlice_perm intervalLess intervals
  have hsorted := sorted_start intervals
  rw [totalDuration_eq_totalLength, ← Library.covered_perm hperm]
  unfold mergeIntervals
  cases hs : sortSlice intervalLess intervals with
  | nil => rfl
  | cons current rest =>
    rw [hs] at hsorted
    simp only [foldl_mergeStep, List.nil_append]
    exact Library.totalLength_coalesce current rest hsorted

end Statora.Availability
