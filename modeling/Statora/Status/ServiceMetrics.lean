import Mathlib.Data.List.Dedup
import Mathlib.Data.List.GetD
import Statora.Calendar
import Statora.Library.NearestRank
import Statora.Status.Repository

/-!
# Service metrics

`buildServiceMetrics` groups the logs of the last three calendar months by
month. The repository is a parameter, so that the results hold for whatever
logs it returns; `mongoMetricsRepository` is the one behind the handler. The
source ranges over the map of months in an unspecified order and sorts them
afterwards.
-/

namespace Statora.Status
open Library (sortSlice groupBy IsPercentile Reaches)

structure ServiceLatencyMetrics where
  p90 : ℚ
  p99 : ℚ
  deriving DecidableEq, Repr

structure ServiceAvailabilityMetrics where
  last30Days : ℚ
  deriving DecidableEq, Repr

structure ServiceMetricsHistoryEntry where
  month : String
  latency : ServiceLatencyMetrics
  availability : ℚ
  deriving DecidableEq, Repr

structure ServiceMetrics where
  latency : Option ServiceLatencyMetrics := none
  availability : Option ServiceAvailabilityMetrics := none
  history : List ServiceMetricsHistoryEntry
  deriving DecidableEq, Repr

structure MetricsRepository where
  listMonitorsByServiceID : ObjectID → Except ServiceError (List Monitor)
  listMonitorLogsByMonitorIDsSince : List ObjectID → ℤ → Except ServiceError (List MonitorLog)

def mongoMetricsRepository (db : Database) : MetricsRepository where
  listMonitorsByServiceID serviceID := .ok <| db.monitors.find fun monitor =>
    (!monitor.componentID.isZero && decide (monitor.componentID = serviceID)) ||
      (!monitor.subComponentID.isZero && decide (monitor.subComponentID = serviceID))
  listMonitorLogsByMonitorIDsSince monitorIDs since :=
    if monitorIDs.length = 0 then .ok []
    else .ok <| sortSlice (fun a b => decide (a.checkedAt < b.checkedAt)) <|
      db.monitorLogs.find fun log => log.monitorID ∈ monitorIDs && decide (since ≤ log.checkedAt)

structure MonthOrder where
  keys : List ℤ → List ℤ
  perm : ∀ l, (keys l).Perm l

def historyStart (now : ℤ) : ℤ :=
  if monthOf now > 2 then dateUTC (yearOf now) (monthOf now - 2) 1
  else dateUTC (yearOf now - 1) (monthOf now + 10) 1

def monthStart (t : ℤ) : ℤ := dateUTC (yearOf t) (monthOf t) 1

def percentile (values : List ℤ) (p : ℚ) : ℚ :=
  if values.length = 0 then 0
  else
    let ordered := sortSlice (fun a b => decide (a < b)) values
    let rank := ⌈p / 100 * ordered.length⌉
    let rank := if rank < 1 then 1 else rank
    let rank := if rank > ordered.length then (ordered.length : ℤ) else rank
    ordered.getD (rank - 1).toNat 0

def latencyOf (logs : List MonitorLog) : ServiceLatencyMetrics :=
  ⟨percentile (logs.map (·.responseTime)) 90, percentile (logs.map (·.responseTime)) 99⟩

def upCount (logs : List MonitorLog) : ℕ := logs.countP (·.status = .up)

def monthEntry (monthToLogs : ℤ → List MonitorLog) (month : ℤ) : ServiceMetricsHistoryEntry :=
  let monthlyLogs := monthToLogs month
  ⟨formatMonth (calendarDate month), latencyOf monthlyLogs,
    (upCount monthlyLogs : ℚ) / monthlyLogs.length * 100⟩

def sortedMonths (order : MonthOrder) (logs : List MonitorLog) : List ℤ :=
  sortSlice (fun a b => decide (a < b))
    (order.keys (logs.map fun log => monthStart log.checkedAt).dedup)

def metricsOf (order : MonthOrder) (now : ℤ) (logs : List MonitorLog) : ServiceMetrics :=
  let last30Cutoff := now - 30 * 24 * hour
  let last30 := logs.filter (fun log => ¬ log.checkedAt < last30Cutoff)
  let monthToLogs := groupBy (fun log => monthStart log.checkedAt) id logs
  { latency := if logs.length > 0 then some (latencyOf logs) else none
    availability :=
      if last30.length > 0 then some ⟨(upCount last30 : ℚ) / last30.length * 100⟩ else none
    history := (sortedMonths order logs).map (monthEntry monthToLogs) }

def buildServiceMetrics (order : MonthOrder) (repo : MetricsRepository) (serviceID : ObjectID)
    (now : ℤ) : Except ServiceError ServiceMetrics := do
  let monitors ← repo.listMonitorsByServiceID serviceID
  if monitors.length = 0 then return { history := [] }
  let logs ← repo.listMonitorLogsByMonitorIDsSince (monitors.map (·.id)) (historyStart now)
  if logs.length = 0 then return { history := [] }
  return metricsOf order now logs

/-- The reported number is a nearest-rank percentile of the response times. -/
def ReportsPercentile (logs : List MonitorLog) (p value : ℚ) : Prop :=
  ∃ responseTime : ℤ, value = responseTime ∧
    IsPercentile p (logs.map (·.responseTime)) responseTime

structure ReportsLatency (logs : List MonitorLog) (latency : ServiceLatencyMetrics) : Prop where
  p90 : ReportsPercentile logs 90 latency.p90
  p99 : ReportsPercentile logs 99 latency.p99
  ordered : latency.p90 ≤ latency.p99

def calendarMonth (log : MonitorLog) : ℤ ×ₗ ℕ := toLex (yearOf log.checkedAt, monthOf log.checkedAt)

/-- An entry reports on the logs of one calendar month. -/
structure ReportsMonth (logs : List MonitorLog) (entry : ServiceMetricsHistoryEntry) : Prop where
  nonempty : logs ≠ []
  sameMonth : ∀ log ∈ logs, ∀ log' ∈ logs, calendarMonth log = calendarMonth log'
  label : ∀ log ∈ logs, entry.month = formatMonth (calendarDate log.checkedAt)
  latency : ReportsLatency logs entry.latency
  availability : entry.availability = 100 * upCount logs / logs.length

/-- The metrics report on the logs and, in the entries, on their calendar months. -/
structure Reports (logs : List MonitorLog) (months : List (List MonitorLog))
    (latency : ServiceLatencyMetrics) (history : List ServiceMetricsHistoryEntry) : Prop where
  overall : ReportsLatency logs latency
  entries : List.Forall₂ ReportsMonth months history
  partition : months.flatten.Perm logs
  ascending : months.Pairwise fun earlier later =>
    ∀ log ∈ earlier, ∀ log' ∈ later, calendarMonth log < calendarMonth log'
  p90_ge : ∃ entry ∈ history, entry.latency.p90 ≤ latency.p90
  p90_le : ∃ entry ∈ history, latency.p90 ≤ entry.latency.p90
  p99_ge : ∃ entry ∈ history, entry.latency.p99 ≤ latency.p99
  p99_le : ∃ entry ∈ history, latency.p99 ≤ entry.latency.p99
  weightedAverage : (List.zipWith (fun month entry => (month.length : ℚ) * entry.availability)
    months history).sum / logs.length = 100 * upCount logs / logs.length

theorem percentile_isPercentile {values : List ℤ} (hvalues : values ≠ []) {p : ℚ} (hp : 0 < p)
    (hp' : p ≤ 100) : ∃ v : ℤ, percentile values p = v ∧ IsPercentile p values v := by
  have hperm := Library.sortSlice_perm (fun a b : ℤ => decide (a < b)) values
  have hsorted := Library.sortSlice_lt_pairwise values
  have hlength : values.length ≠ 0 := fun h => hvalues (List.eq_nil_of_length_eq_zero h)
  unfold percentile
  rw [if_neg hlength]
  dsimp only
  rw [← hperm.length_eq] at hlength
  generalize sortSlice (fun a b : ℤ => decide (a < b)) values = ordered at hperm hsorted hlength ⊢
  have hpos : (0 : ℚ) < ordered.length := by exact_mod_cast Nat.pos_of_ne_zero hlength
  have hshare : p / 100 * ordered.length ≤ (ordered.length : ℤ) := by
    push_cast
    nlinarith
  have hrank : 1 ≤ ⌈p / 100 * ordered.length⌉ := Int.one_le_ceil_iff.mpr (by positivity)
  have hrank' : ⌈p / 100 * ordered.length⌉ ≤ ordered.length := Int.ceil_le.mpr hshare
  have hlow := Int.ceil_lt_add_one (p / 100 * ordered.length)
  have hhigh := Int.le_ceil (p / 100 * ordered.length)
  generalize ⌈p / 100 * ordered.length⌉ = rank at hrank hrank' hlow hhigh ⊢
  rw [if_neg hrank.not_gt, if_neg hrank'.not_gt]
  have hindex : ((rank - 1).toNat : ℤ) = rank - 1 := Int.toNat_of_nonneg (by omega)
  have hindex' : (((rank - 1).toNat : ℕ) : ℚ) = rank - 1 := by exact_mod_cast hindex
  have hi : (rank - 1).toNat < ordered.length := by omega
  refine ⟨ordered[(rank - 1).toNat], by rw [List.getD_eq_getElem _ _ hi], ?_⟩
  refine (Library.isPercentile_getElem hsorted hi ?_ ?_).perm hperm
  · rw [hindex']
    linarith
  · push_cast
    rw [hindex']
    linarith

theorem latencyOf_reports {logs : List MonitorLog} (hlogs : logs ≠ []) :
    ReportsLatency logs (latencyOf logs) := by
  have hvalues : logs.map (·.responseTime) ≠ [] := by simpa using hlogs
  obtain ⟨v90, h90, hv90⟩ := percentile_isPercentile hvalues (p := 90) (by norm_num) (by norm_num)
  obtain ⟨v99, h99, hv99⟩ := percentile_isPercentile hvalues (p := 99) (by norm_num) (by norm_num)
  refine ⟨⟨v90, h90, hv90⟩, ⟨v99, h99, hv99⟩, ?_⟩
  have hle : v90 ≤ v99 := hv90.le_of_le hv99 (by norm_num)
  simp only [latencyOf, h90, h99]
  exact_mod_cast hle

theorem isPercentile_floor {values : List ℤ} (hvalues : values ≠ []) {p : ℚ} (hp : 0 < p)
    (hp' : p ≤ 100) : (⌊percentile values p⌋ : ℚ) = percentile values p ∧
      IsPercentile p values ⌊percentile values p⌋ := by
  obtain ⟨v, hv, hpercentile⟩ := percentile_isPercentile hvalues hp hp'
  rw [hv, Int.floor_intCast]
  exact ⟨rfl, hpercentile⟩

theorem percentile_between {logs : List MonitorLog} {parts : List (List MonitorLog)}
    (hlogs : logs ≠ []) (hparts : ∀ part ∈ parts, part ≠ []) (hperm : parts.flatten.Perm logs)
    {p : ℚ} (hp : 0 < p) (hp' : p ≤ 100) :
    (∃ part ∈ parts, percentile (part.map (·.responseTime)) p ≤
        percentile (logs.map (·.responseTime)) p) ∧
      ∃ part ∈ parts, percentile (logs.map (·.responseTime)) p ≤
        percentile (part.map (·.responseTime)) p := by
  have htimes : ∀ {logs : List MonitorLog}, logs ≠ [] → logs.map (·.responseTime) ≠ [] :=
    fun h => by simpa using h
  obtain ⟨hoverall, hv⟩ := isPercentile_floor (htimes hlogs) hp hp'
  have hflatten : (parts.map (List.map (·.responseTime))).flatten.Perm
      (logs.map (·.responseTime)) := by
    rw [← List.map_flatten]
    exact hperm.map _
  have hne : parts.map (List.map (·.responseTime)) ≠ [] := by
    rintro h
    rw [List.map_eq_nil_iff] at h
    subst h
    exact hlogs hperm.nil_eq.symm
  have hf : ∀ times ∈ parts.map (List.map (·.responseTime)),
      IsPercentile p times ⌊percentile times p⌋ := by
    intro times htimes'
    obtain ⟨part, hpart, rfl⟩ := List.mem_map.mp htimes'
    exact (isPercentile_floor (htimes (hparts part hpart)) hp hp').2
  have hcast : ∀ part ∈ parts, (⌊percentile (part.map (·.responseTime)) p⌋ : ℚ) =
      percentile (part.map (·.responseTime)) p := fun part hpart =>
    (isPercentile_floor (htimes (hparts part hpart)) hp hp').1
  have hoverall' := hv.perm hflatten.symm
  constructor
  · obtain ⟨_, hmem, hle⟩ := hoverall'.exists_le hne hf
    obtain ⟨part, hpart, rfl⟩ := List.mem_map.mp hmem
    refine ⟨part, hpart, ?_⟩
    rw [← hoverall, ← hcast part hpart]
    exact_mod_cast hle
  · obtain ⟨_, hmem, hle⟩ := hoverall'.exists_ge hne hf
    obtain ⟨part, hpart, rfl⟩ := List.mem_map.mp hmem
    refine ⟨part, hpart, ?_⟩
    rw [← hoverall, ← hcast part hpart]
    exact_mod_cast hle

theorem monthStart_lt_iff (log log' : MonitorLog) :
    monthStart log.checkedAt < monthStart log'.checkedAt ↔
      calendarMonth log < calendarMonth log' :=
  dateUTC_month_lt_iff (monthOf_bounds _).1 (monthOf_bounds _).1 (monthOf_bounds _).2
    (monthOf_bounds _).2

theorem monthStart_eq_iff (log log' : MonitorLog) :
    monthStart log.checkedAt = monthStart log'.checkedAt ↔
      calendarMonth log = calendarMonth log' := by
  rw [← not_iff_not, ← ne_eq, ← ne_eq, ne_iff_lt_or_gt, ne_iff_lt_or_gt,
    monthStart_lt_iff, monthStart_lt_iff]

theorem formatMonth_monthStart (t : ℤ) :
    formatMonth (calendarDate (monthStart t)) = formatMonth (calendarDate t) := by
  have hbounds := monthOf_bounds t
  unfold monthStart formatMonth
  rw [calendarDate_dateUTC, yearOfDay_firstOfMonth _ hbounds.1 hbounds.2,
    monthOfDay_firstOfMonth hbounds.1 hbounds.2]
  rfl

variable {order : MonthOrder} {logs : List MonitorLog}

theorem sortedMonths_perm : (sortedMonths order logs).Perm
    (logs.map fun log => monthStart log.checkedAt).dedup :=
  (Library.sortSlice_perm _ _).trans (order.perm _)

theorem mem_sortedMonths {month : ℤ} :
    month ∈ sortedMonths order logs ↔ ∃ log ∈ logs, monthStart log.checkedAt = month := by
  rw [sortedMonths_perm.mem_iff, List.mem_dedup, List.mem_map]

theorem nodup_sortedMonths (order : MonthOrder) (logs : List MonitorLog) :
    (sortedMonths order logs).Nodup :=
  sortedMonths_perm.nodup_iff.mpr (List.nodup_dedup _)

theorem sortedMonths_ascending : (sortedMonths order logs).Pairwise (· < ·) := by
  have hsorted := Library.sortSlice_lt_pairwise
    (order.keys (logs.map fun log => monthStart log.checkedAt).dedup)
  exact (List.Pairwise.and hsorted (nodup_sortedMonths order logs)).imp
    fun h => lt_of_le_of_ne h.1 h.2

def monthLogs (logs : List MonitorLog) (month : ℤ) : List MonitorLog :=
  groupBy (fun log => monthStart log.checkedAt) id logs month

theorem mem_monthLogs {month : ℤ} {log : MonitorLog} :
    log ∈ monthLogs logs month ↔ log ∈ logs ∧ monthStart log.checkedAt = month := by
  simp [monthLogs, Library.mem_groupBy]

theorem monthEntry_reports {month : ℤ} (hmonth : month ∈ sortedMonths order logs) :
    ReportsMonth (monthLogs logs month) (monthEntry (monthLogs logs) month) := by
  obtain ⟨log, hlog, rfl⟩ := mem_sortedMonths.mp hmonth
  have hne : monthLogs logs (monthStart log.checkedAt) ≠ [] :=
    List.ne_nil_of_mem (mem_monthLogs.mpr ⟨hlog, rfl⟩)
  refine ⟨hne, ?_, ?_, latencyOf_reports hne, ?_⟩
  · intro a ha b hb
    rw [← monthStart_eq_iff, (mem_monthLogs.mp ha).2, (mem_monthLogs.mp hb).2]
  · intro a ha
    rw [← formatMonth_monthStart, (mem_monthLogs.mp ha).2]
    rfl
  · simp only [monthEntry]
    ring

theorem flatten_monthLogs_perm (order : MonthOrder) (logs : List MonitorLog) :
    ((sortedMonths order logs).map (monthLogs logs)).flatten.Perm logs := by
  have hshare := Library.flatMap_groupBy_perm (fun log : MonitorLog => monthStart log.checkedAt)
    (nodup_sortedMonths order logs) logs
  have hall : logs.filter (fun log => monthStart log.checkedAt ∈ sortedMonths order logs) =
      logs := by
    refine List.filter_eq_self.mpr fun log hlog => ?_
    exact decide_eq_true (mem_sortedMonths.mpr ⟨log, hlog, rfl⟩)
  rw [hall] at hshare
  exact hshare

theorem sum_weighted {months : List (List MonitorLog)}
    {history : List ServiceMetricsHistoryEntry} (h : List.Forall₂ ReportsMonth months history) :
    (List.zipWith (fun month entry => (month.length : ℚ) * entry.availability)
      months history).sum = 100 * upCount months.flatten := by
  induction h with
  | nil => simp [upCount]
  | cons hmonth _ ih =>
    have hlength : (0 : ℚ) < _ := Nat.cast_pos.mpr (List.length_pos_iff.mpr hmonth.nonempty)
    rw [List.zipWith_cons_cons, List.sum_cons, ih, hmonth.availability, List.flatten_cons]
    unfold upCount
    rw [List.countP_append]
    push_cast
    field_simp

theorem metricsOf_reports (order : MonthOrder) (now : ℤ) (logs : List MonitorLog)
    (hlogs : logs ≠ []) :
    (metricsOf order now logs).latency = some (latencyOf logs) ∧
      Reports logs ((sortedMonths order logs).map (monthLogs logs)) (latencyOf logs)
        (metricsOf order now logs).history := by
  have hlength : logs.length > 0 := List.length_pos_iff.mpr hlogs
  have hhistory : (metricsOf order now logs).history =
      (sortedMonths order logs).map (monthEntry (monthLogs logs)) := rfl
  have hentries : List.Forall₂ ReportsMonth ((sortedMonths order logs).map (monthLogs logs))
      ((sortedMonths order logs).map (monthEntry (monthLogs logs))) := by
    rw [List.forall₂_map_left_iff, List.forall₂_map_right_iff, List.forall₂_same]
    exact fun month hmonth => monthEntry_reports hmonth
  have hparts : ∀ part ∈ (sortedMonths order logs).map (monthLogs logs), part ≠ [] := by
    intro part hpart
    obtain ⟨month, hmonth, rfl⟩ := List.mem_map.mp hpart
    exact (monthEntry_reports hmonth).nonempty
  have hperm := flatten_monthLogs_perm order logs
  have h90 := percentile_between hlogs hparts hperm (p := 90) (by norm_num) (by norm_num)
  have h99 := percentile_between hlogs hparts hperm (p := 99) (by norm_num) (by norm_num)
  simp only [List.mem_map, exists_exists_and_eq_and] at h90 h99
  refine ⟨if_pos hlength, ?_⟩
  rw [hhistory]
  refine ⟨latencyOf_reports hlogs, hentries, hperm, ?_, ?_, ?_, ?_, ?_, ?_⟩
  · rw [List.pairwise_map]
    refine sortedMonths_ascending.imp fun {month month'} hlt log hlog log' hlog' => ?_
    rw [← monthStart_lt_iff, (mem_monthLogs.mp hlog).2, (mem_monthLogs.mp hlog').2]
    exact hlt
  · simp only [List.mem_map, exists_exists_and_eq_and]
    exact h90.1
  · simp only [List.mem_map, exists_exists_and_eq_and]
    exact h90.2
  · simp only [List.mem_map, exists_exists_and_eq_and]
    exact h99.1
  · simp only [List.mem_map, exists_exists_and_eq_and]
    exact h99.2
  · rw [sum_weighted hentries]
    unfold upCount
    rw [hperm.countP_eq]

/-- For whatever logs the repository returns, unless there are none, the metrics report on
them and, month by month in ascending order, on a partition of them. -/
theorem buildServiceMetrics_reports (order : MonthOrder) (repo : MetricsRepository)
    (serviceID : ObjectID) (now : ℤ) (monitors : List Monitor) (logs : List MonitorLog)
    (hmonitors : repo.listMonitorsByServiceID serviceID = .ok monitors) (hsome : monitors ≠ [])
    (hrepo : repo.listMonitorLogsByMonitorIDsSince (monitors.map (·.id)) (historyStart now) =
      .ok logs) (hlogs : logs ≠ []) :
    ∃ metrics latency months, buildServiceMetrics order repo serviceID now = .ok metrics ∧
      metrics.latency = some latency ∧ Reports logs months latency metrics.history := by
  obtain ⟨hlatency, hreports⟩ := metricsOf_reports order now logs hlogs
  refine ⟨metricsOf order now logs, latencyOf logs, _, ?_, hlatency, hreports⟩
  have hmonitors' : monitors.length ≠ 0 := fun h => hsome (List.eq_nil_of_length_eq_zero h)
  have hlogs' : logs.length ≠ 0 := fun h => hlogs (List.eq_nil_of_length_eq_zero h)
  simp [buildServiceMetrics, hmonitors, hrepo, hmonitors', hlogs', Bind.bind, Except.bind]
  rfl

def twoMonths : List MonitorLog :=
  [{ id := 1, monitorID := 1, status := .up, responseTime := 100,
     checkedAt := dateUTC 2026 2 28 },
   { id := 2, monitorID := 1, status := .down, responseTime := 300,
     checkedAt := dateUTC 2026 3 1 }]

theorem buildServiceMetrics_reports_twoMonths :
    ∃ metrics latency months,
      buildServiceMetrics ⟨id, fun _ => List.Perm.refl _⟩
          ⟨fun _ => .ok [{ id := 1, name := "API", type := .http }], fun _ _ => .ok twoMonths⟩ 7
          (dateUTC 2026 3 31) = .ok metrics ∧
        metrics.latency = some latency ∧ Reports twoMonths months latency metrics.history :=
  buildServiceMetrics_reports ⟨id, fun _ => List.Perm.refl _⟩
    ⟨fun _ => .ok [{ id := 1, name := "API", type := .http }], fun _ _ => .ok twoMonths⟩ 7
    (dateUTC 2026 3 31) _ _ rfl (List.cons_ne_nil _ _) rfl (List.cons_ne_nil _ _)

end Statora.Status
