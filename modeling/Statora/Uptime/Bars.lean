import Mathlib.Algebra.Order.BigOperators.Group.List
import Statora.Calendar
import Statora.Library.LookupMap

/-!
# Thirty-day bars

`build30DayBars` as the loops of the source run: every day is compared with
every record by the text of its date. The read models use the bars over day
numbers, of which these are the text.
-/

namespace Statora.Uptime
open Library (groupBy)

structure DailyBar where
  date : String
  uptimePercent : ℚ
  status : ComponentStatus
  deriving DecidableEq, Repr

structure DayTotals where
  totalChecks : ℤ
  successfulChecks : ℤ
  deriving DecidableEq, Repr

def addRecord (dayKey : String) (totals : DayTotals) (record : DailyUptime) : DayTotals :=
  if formatDate (calendarDate record.date) = dayKey then
    ⟨totals.totalChecks + record.totalChecks, totals.successfulChecks + record.successfulChecks⟩
  else totals

def dayTotals (monitorIDs : List ObjectID) (uptimeByMonitorID : ObjectID → List DailyUptime)
    (dayKey : String) : DayTotals :=
  monitorIDs.foldl (fun totals monitorID =>
    (uptimeByMonitorID monitorID).foldl (addRecord dayKey) totals) ⟨0, 0⟩

def barOf (monitorIDs : List ObjectID) (uptimeByMonitorID : ObjectID → List DailyUptime)
    (dayStart : ℤ) : DailyBar :=
  let dayKey := formatDate (calendarDate dayStart)
  let totals := dayTotals monitorIDs uptimeByMonitorID dayKey
  if totals.totalChecks > 0 then
    let uptimePercent : ℚ := totals.successfulChecks / totals.totalChecks * 100
    ⟨dayKey, uptimePercent, barStatus uptimePercent⟩
  else ⟨dayKey, 100, .operational⟩

def build30DayBars (now : ℤ) (monitorIDs : List ObjectID)
    (uptimeByMonitorID : ObjectID → List DailyUptime) : List DailyBar :=
  if monitorIDs = [] then []
  else (List.range 30).reverse.map fun i : ℕ =>
    barOf monitorIDs uptimeByMonitorID (addDays now (-i))

def recordsOn (monitorIDs : List ObjectID) (uptimeByMonitorID : ObjectID → List DailyUptime)
    (date : ℤ) : List DailyUptime :=
  groupBy (fun record => calendarDate record.date) id (monitorIDs.flatMap uptimeByMonitorID) date

def pooledPercent (records : List DailyUptime) : ℚ :=
  if (records.map (·.totalChecks)).sum = 0 then 100
  else 100 * (records.map (·.successfulChecks)).sum / (records.map (·.totalChecks)).sum

variable {monitorIDs : List ObjectID} {uptimeByMonitorID : ObjectID → List DailyUptime}

theorem foldl_addRecord (date : ℤ) (totals : DayTotals) (records : List DailyUptime) :
    records.foldl (addRecord (formatDate date)) totals =
      ⟨totals.totalChecks +
          ((records.filter (fun r => calendarDate r.date = date)).map
            (·.totalChecks)).sum,
        totals.successfulChecks +
          ((records.filter (fun r => calendarDate r.date = date)).map
            (·.successfulChecks)).sum⟩ := by
  induction records generalizing totals with
  | nil => simp
  | cons record records ih =>
    rw [List.foldl_cons, ih, addRecord]
    by_cases h : calendarDate record.date = date
    · simp [h, add_assoc]
    · simp [formatDate_injective.ne h, h]

theorem dayTotals_eq (date : ℤ) : dayTotals monitorIDs uptimeByMonitorID (formatDate date) =
    ⟨((recordsOn monitorIDs uptimeByMonitorID date).map (·.totalChecks)).sum,
      ((recordsOn monitorIDs uptimeByMonitorID date).map (·.successfulChecks)).sum⟩ := by
  unfold dayTotals recordsOn groupBy
  rw [← List.foldl_flatMap, foldl_addRecord]
  simp

def render (bar : Statora.DailyBar) : DailyBar :=
  ⟨formatDate bar.date, bar.uptimePercent, bar.status⟩

theorem barOf_eq_render (dayStart : ℤ) : barOf monitorIDs uptimeByMonitorID dayStart =
    render (dailyBar (monitorIDs.flatMap uptimeByMonitorID) (calendarDate dayStart)) := by
  unfold barOf dailyBar
  dsimp only
  rw [dayTotals_eq]
  simp only [recordsOn, groupBy, List.map_id_fun, id_eq]
  split_ifs
  · rfl
  · rfl

theorem date_barOf (dayStart : ℤ) : (barOf monitorIDs uptimeByMonitorID dayStart).date =
    formatDate (calendarDate dayStart) := by
  unfold barOf
  dsimp only
  split_ifs
  · rfl
  · rfl

theorem reverse_range_thirty :
    (List.range 30).reverse = (List.range 30).map fun k => 29 - k := by decide

theorem build30DayBars_eq_render (now : ℤ) :
    build30DayBars now monitorIDs uptimeByMonitorID =
      (Statora.build30DayBars now monitorIDs uptimeByMonitorID).map render := by
  unfold build30DayBars Statora.build30DayBars
  split_ifs
  · rfl
  · rw [reverse_range_thirty, List.bind_eq_flatMap]
    simp only [List.pure_def, List.map_map, ← List.map_eq_flatMap]
    refine List.map_congr_left fun k hk => ?_
    have hk := List.mem_range.mp hk
    have hindex : -((29 - k : ℕ) : ℤ) = k - 29 := by omega
    simp only [Function.comp_apply, barOf_eq_render, hindex]

theorem sum_nonneg_recordsOn
    (hcounters : ∀ id ∈ monitorIDs, ∀ record ∈ uptimeByMonitorID id, 0 ≤ record.totalChecks)
    (date : ℤ) :
    0 ≤ ((recordsOn monitorIDs uptimeByMonitorID date).map (·.totalChecks)).sum := by
  refine List.sum_nonneg fun checks hchecks => ?_
  obtain ⟨record, hrecord, rfl⟩ := List.mem_map.mp hchecks
  obtain ⟨_, hlisted, -, rfl⟩ := Library.mem_groupBy.mp hrecord
  obtain ⟨monitorID, hid, hmem⟩ := List.mem_flatMap.mp hlisted
  exact hcounters monitorID hid _ hmem

theorem uptimePercent_barOf
    (hcounters : ∀ id ∈ monitorIDs, ∀ record ∈ uptimeByMonitorID id, 0 ≤ record.totalChecks)
    (dayStart : ℤ) :
    (barOf monitorIDs uptimeByMonitorID dayStart).uptimePercent =
      pooledPercent (recordsOn monitorIDs uptimeByMonitorID (calendarDate dayStart)) := by
  have hsum := sum_nonneg_recordsOn hcounters (calendarDate dayStart)
  unfold barOf pooledPercent
  dsimp only
  rw [dayTotals_eq]
  dsimp only
  split_ifs with hpos hzero hzero
  · omega
  · dsimp only
    ring
  · rfl
  · omega

/-- A record is in the window when its date is one of the thirty days up to today. -/
def InWindow (now : ℤ) (record : DailyUptime) : Prop :=
  calendarDate now - 29 ≤ calendarDate record.date ∧ calendarDate record.date ≤ calendarDate now

instance (now : ℤ) (record : DailyUptime) : Decidable (InWindow now record) :=
  inferInstanceAs (Decidable (_ ∧ _))

def barDate (now : ℤ) (k : ℕ) : ℤ := calendarDate now - 29 + k

theorem flatMap_recordsOn_perm (now : ℤ) :
    ((List.range 30).flatMap fun k => recordsOn monitorIDs uptimeByMonitorID (barDate now k)).Perm
      ((monitorIDs.flatMap uptimeByMonitorID).filter (fun record => InWindow now record)) := by
  have hdates : ((List.range 30).map (barDate now)).Nodup := by
    refine List.nodup_range.map fun k k' h => ?_
    unfold barDate at h
    omega
  have hshare := Library.flatMap_groupBy_perm (fun r : DailyUptime => calendarDate r.date) hdates
    (monitorIDs.flatMap uptimeByMonitorID)
  rw [List.flatMap_map] at hshare
  refine hshare.trans (List.Perm.of_eq (List.filter_congr fun record _ => ?_))
  rw [decide_eq_decide, List.mem_map, InWindow]
  constructor
  · rintro ⟨k, hk, hdate⟩
    have hk := List.mem_range.mp hk
    unfold barDate at hdate
    omega
  · rintro ⟨hfirst, hlast⟩
    refine ⟨(calendarDate record.date - (calendarDate now - 29)).toNat, ?_, ?_⟩
    · rw [List.mem_range]
      omega
    · unfold barDate
      omega

theorem build30DayBars_eq_map (now : ℤ) (hmonitors : monitorIDs ≠ []) :
    build30DayBars now monitorIDs uptimeByMonitorID = (List.range 30).map fun k : ℕ =>
      barOf monitorIDs uptimeByMonitorID (addDays now (k - 29)) := by
  unfold build30DayBars
  rw [if_neg hmonitors, reverse_range_thirty, List.map_map]
  refine List.map_congr_left fun k hk => ?_
  have hk := List.mem_range.mp hk
  have hindex : -((29 - k : ℕ) : ℤ) = k - 29 := by omega
  simp only [Function.comp_apply, hindex]

/-- There is a bar for each of the thirty days up to today. The records of the listed
monitors that are dated in the window are shared out among the bars, each going to the
bar of its date, and a bar shows the pooled share of the records that it has. -/
theorem build30DayBars_pools (now : ℤ) (monitorIDs : List ObjectID)
    (uptimeByMonitorID : ObjectID → List DailyUptime) (hmonitors : monitorIDs ≠ [])
    (hcounters : ∀ id ∈ monitorIDs, ∀ record ∈ uptimeByMonitorID id, 0 ≤ record.totalChecks) :
    let bars := build30DayBars now monitorIDs uptimeByMonitorID
    let pool := fun k => recordsOn monitorIDs uptimeByMonitorID (barDate now k)
    bars.length = 30 ∧
      bars.map (·.date) =
        (List.range 30).map (fun k : ℕ => formatDate (calendarDate now - 29 + k)) ∧
      (bars.map (·.date)).getLast? = some (formatDate (calendarDate now)) ∧
      bars.map (·.uptimePercent) = (List.range 30).map (fun k => pooledPercent (pool k)) ∧
      (∀ k, ∀ record ∈ pool k, calendarDate record.date = calendarDate now - 29 + k) ∧
      ((List.range 30).flatMap pool).Perm
        ((monitorIDs.flatMap uptimeByMonitorID).filter (fun record => InWindow now record)) := by
  intro bars pool
  have hbars : bars = (List.range 30).map fun k : ℕ =>
      barOf monitorIDs uptimeByMonitorID (addDays now (k - 29)) :=
    build30DayBars_eq_map now hmonitors
  have hday : ∀ k : ℕ, calendarDate (addDays now (k - 29)) = calendarDate now - 29 + k := by
    intro k
    rw [calendarDate_addDays]
    omega
  have hdates : bars.map (·.date) =
      (List.range 30).map (fun k : ℕ => formatDate (calendarDate now - 29 + k)) := by
    rw [hbars, List.map_map]
    refine List.map_congr_left fun k _ => ?_
    rw [Function.comp_apply, date_barOf, hday]
  refine ⟨by rw [hbars, List.length_map, List.length_range], hdates, ?_, ?_, ?_,
    flatMap_recordsOn_perm now⟩
  · rw [hdates, List.getLast?_map, List.getLast?_range]
    norm_num
  · rw [hbars, List.map_map]
    refine List.map_congr_left fun k _ => ?_
    rw [Function.comp_apply, uptimePercent_barOf hcounters, hday]
    rfl
  · intro k record hrecord
    obtain ⟨_, -, hdate, rfl⟩ := Library.mem_groupBy.mp hrecord
    exact hdate

def leapMonth : ObjectID → List DailyUptime := fun id =>
  [⟨id, id, dateUTC 2024 2 29, 10, 9, 90⟩, ⟨id, id, dateUTC 2024 3 1, 5, 5, 100⟩,
    ⟨id, id, dateUTC 2024 1 1, 7, 0, 0⟩]

theorem build30DayBars_pools_leapMonth :
    let bars := build30DayBars (dateUTC 2024 3 10) [1, 2] leapMonth
    let pool := fun k => recordsOn [1, 2] leapMonth (barDate (dateUTC 2024 3 10) k)
    bars.length = 30 ∧
      bars.map (·.date) = (List.range 30).map
        (fun k : ℕ => formatDate (calendarDate (dateUTC 2024 3 10) - 29 + k)) ∧
      (bars.map (·.date)).getLast? = some (formatDate (calendarDate (dateUTC 2024 3 10))) ∧
      bars.map (·.uptimePercent) = (List.range 30).map (fun k => pooledPercent (pool k)) ∧
      (∀ k, ∀ record ∈ pool k,
        calendarDate record.date = calendarDate (dateUTC 2024 3 10) - 29 + k) ∧
      ((List.range 30).flatMap pool).Perm
        (([1, 2].flatMap leapMonth).filter
          (fun record => InWindow (dateUTC 2024 3 10) record)) :=
  build30DayBars_pools (dateUTC 2024 3 10) [1, 2] leapMonth (by decide) (by
    intro id _ record hrecord
    simp only [leapMonth, List.mem_cons, List.not_mem_nil, or_false] at hrecord
    rcases hrecord with rfl | rfl | rfl <;> norm_num)

end Statora.Uptime
