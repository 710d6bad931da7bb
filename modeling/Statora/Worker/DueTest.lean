import Statora.Monitors.WellFormed
import Statora.Numbers
import Statora.Worker.Scheduler

/-!
# The due test

A monitor is due when its interval has passed since its last check. The interval
is multiplied into nanoseconds of 64 bits, and nothing bounds what is stored: a
longer one than a duration holds comes out as another duration.
-/

namespace Statora.Worker
open Library (run)
open Monitors (buildMonitor quietAddresses quietRuntime tcpMonitor)

def dueMonitors (clock : ℕ → ℤ) (monitors : List Monitor) : List Monitor :=
  monitors.zipIdx.foldl (fun due (mon, k) =>
    if !shouldRunMonitor mon (clock k) then due else due ++ [mon]) []

variable {clock : ℕ → ℤ} {mon : Monitor} {lastCheckedAt now : ℤ}

def foundDue (clock : ℕ → ℤ) (monitors : List Monitor) (k : ℕ) : List Monitor :=
  ((monitors.zipIdx k).filter fun examined => shouldRunMonitor examined.1 (clock examined.2)).map
    Prod.fst

theorem foundDue_cons (clock : ℕ → ℤ) (mon : Monitor) (monitors : List Monitor) (k : ℕ) :
    foundDue clock (mon :: monitors) k = (if shouldRunMonitor mon (clock k) then [mon] else []) ++
      foundDue clock monitors (k + 1) := by
  unfold foundDue
  rw [List.zipIdx_cons, List.filter_cons]
  split_ifs <;> rfl

theorem dueMonitors_eq (clock : ℕ → ℤ) (monitors : List Monitor) :
    dueMonitors clock monitors = foundDue clock monitors 0 := by
  have hloop : ∀ (k : ℕ) (due : List Monitor),
      (monitors.zipIdx k).foldl (fun due (mon, k) =>
        if !shouldRunMonitor mon (clock k) then due else due ++ [mon]) due =
          due ++ foundDue clock monitors k := by
    induction monitors with
    | nil => simp [foundDue]
    | cons mon monitors ih =>
      intro k due
      rw [List.zipIdx_cons, List.foldl_cons, ih, foundDue_cons]
      cases hruns : shouldRunMonitor mon (clock k) with
      | true => simp [hruns]
      | false => simp [hruns]
  exact hloop 0 []

theorem Scheduler.cycle_examine {s : Scheduler} {rest due : List Monitor}
    (hcycle : s.cycle = .running (mon :: rest) due) (now : ℤ) :
    (s.step (.examine now)).cycle =
      .running rest (due ++ if shouldRunMonitor mon now then [mon] else []) := by
  unfold Scheduler.step
  simp only [hcycle]
  split_ifs with hruns
  · rfl
  · rw [List.append_nil]

theorem run_examine (s : Scheduler) (clock : ℕ → ℤ) (monitors : List Monitor)
    (hcycle : s.cycle = .running monitors []) :
    (run Scheduler.step s ((List.range monitors.length).map fun k => .examine (clock k))).cycle =
      .running [] (dueMonitors clock monitors) := by
  have hloop : ∀ (s : Scheduler) (k : ℕ) (due : List Monitor), s.cycle = .running monitors due →
      (run Scheduler.step s
        ((List.range' k monitors.length).map fun k => .examine (clock k))).cycle =
          .running [] (due ++ foundDue clock monitors k) := by
    clear hcycle
    induction monitors with
    | nil =>
      intro s k due hcycle
      simpa [foundDue] using hcycle
    | cons mon monitors ih =>
      intro s k due hcycle
      rw [List.length_cons, List.range'_succ, List.map_cons, Library.run_cons,
        ih _ (k + 1) _ (Scheduler.cycle_examine hcycle (clock k)), foundDue_cons,
        List.append_assoc]
  rw [List.range_eq_range', dueMonitors_eq]
  exact hloop s 0 [] hcycle

/-- The interval is a duration, or it has passed anyway, or what it comes out as has not. -/
def KeepsInterval (mon : Monitor) (elapsed : ℤ) : Prop :=
  interval mon ≤ maxInt ∨ interval mon ≤ elapsed ∨
    (interval mon % 18446744073709551616 ≤ maxInt ∧
      elapsed < interval mon % 18446744073709551616)

instance (mon : Monitor) (elapsed : ℤ) : Decidable (KeepsInterval mon elapsed) :=
  inferInstanceAs (Decidable (_ ∨ _))

theorem shouldRunMonitor_eq_true_iff (hlast : mon.lastCheckedAt = some lastCheckedAt) :
    shouldRunMonitor mon now = true ↔ wrapInt (interval mon) ≤ now - lastCheckedAt := by
  have hduration : durationOfSeconds (effectiveIntervalSeconds mon.intervalSeconds) =
      wrapInt (interval mon) := rfl
  unfold shouldRunMonitor
  simp only [hlast, hduration, Bool.not_eq_true', decide_eq_false_iff_not, not_lt]
  omega

theorem wrapInt_le_iff_keepsInterval {elapsed : ℤ} (helapsed : 0 ≤ elapsed) :
    (wrapInt (interval mon) ≤ elapsed ↔ interval mon ≤ elapsed) ↔ KeepsInterval mon elapsed := by
  have hpos := interval_pos mon
  have hrest := Int.emod_nonneg (interval mon) (show (18446744073709551616 : ℤ) ≠ 0 by decide)
  have hlt := Int.emod_lt_of_pos (interval mon) (show (0 : ℤ) < 18446744073709551616 by decide)
  unfold KeepsInterval
  rcases le_or_gt (interval mon) maxInt with hfits | hlong
  · rw [wrapInt_of_le hpos.le hfits]
    exact iff_of_true Iff.rfl (Or.inl hfits)
  · rw [wrapInt_eq]
    have hmax : maxInt = 9223372036854775807 := rfl
    split_ifs with hlow <;> omega

/-- What the due test is to say of a monitor that has been checked, and what a cycle is to
take of its monitors. -/
structure ExactDueTest (mon : Monitor) (lastCheckedAt now : ℤ) : Prop where
  due : shouldRunMonitor mon now = true ↔
    effectiveIntervalSeconds mon.intervalSeconds * second ≤ now - lastCheckedAt
  selects : ∀ (clock : ℕ → ℤ) (monitors : List Monitor), dueMonitors clock monitors =
    (monitors.zipIdx.filter fun examined =>
      shouldRunMonitor examined.1 (clock examined.2)).map Prod.fst

theorem dueTest_exact_iff (mon : Monitor) (lastCheckedAt now : ℤ)
    (hlast : mon.lastCheckedAt = some lastCheckedAt) (hnow : lastCheckedAt ≤ now) :
    ExactDueTest mon lastCheckedAt now ↔ KeepsInterval mon (now - lastCheckedAt) := by
  rw [← wrapInt_le_iff_keepsInterval (sub_nonneg.mpr hnow), ← shouldRunMonitor_eq_true_iff hlast]
  exact ⟨fun hexact => hexact.due, fun hdue => ⟨hdue, dueMonitors_eq⟩⟩

def checkedMonitor (intervalSeconds : ℤ) : Monitor :=
  { tcpMonitor 255 intervalSeconds with lastCheckedAt := some 0 }

theorem dueTest_exact_iff_minute :
    ExactDueTest (checkedMonitor 60) 0 (59 * second) ↔
      KeepsInterval (checkedMonitor 60) (59 * second - 0) :=
  dueTest_exact_iff (checkedMonitor 60) 0 (59 * second) rfl (by decide)

theorem longInterval_due :
    buildMonitor quietAddresses
        { name := "db", type := .tcp, target := "db:5432",
          componentID := "0000000000000000000000ff", intervalSeconds := 9223372037 }
        quietRuntime = .ok (tcpMonitor 255 9223372037) ∧
    shouldRunMonitor (checkedMonitor 9223372037) second = true ∧
    ¬ ExactDueTest (checkedMonitor 9223372037) 0 second := by
  refine ⟨by decide +kernel, by decide +kernel, fun hexact => ?_⟩
  exact absurd (hexact.due.mp (by decide +kernel)) (by decide)

theorem interval_le_maxInt_iff (mon : Monitor) :
    interval mon ≤ maxInt ↔ mon.intervalSeconds ≤ 9223372036 := by
  unfold interval effectiveIntervalSeconds defaultMonitorIntervalSeconds second maxInt
  split_ifs <;> omega

theorem dueTest_always_exact_iff (hlast : mon.lastCheckedAt = some lastCheckedAt) :
    (∀ now, lastCheckedAt ≤ now →
      (shouldRunMonitor mon now = true ↔ interval mon ≤ now - lastCheckedAt)) ↔
    mon.intervalSeconds ≤ 9223372036 := by
  rw [← interval_le_maxInt_iff]
  constructor
  · intro hexact
    by_contra hlong
    have hwrap := wrapInt_le_maxInt (interval mon)
    have hdue : shouldRunMonitor mon (lastCheckedAt + maxInt) = true := by
      rw [shouldRunMonitor_eq_true_iff hlast, add_sub_cancel_left]
      exact hwrap
    have hpassed := (hexact (lastCheckedAt + maxInt) (by unfold maxInt; omega)).mp hdue
    rw [add_sub_cancel_left] at hpassed
    exact hlong hpassed
  · intro hfits now hnow
    rw [shouldRunMonitor_eq_true_iff hlast, wrapInt_of_le (interval_pos mon).le hfits]

end Statora.Worker
