import Mathlib.Algebra.Order.Round
import Mathlib.Tactic.Linarith
import Mathlib.Tactic.FieldSimp
import Statora.Availability.Exactness

/-!
# The reported percentages

Downtime is the size of a set of instants of the period, so that it lies between
zero and the length of the period and grows with the set of incidents. Rounding
keeps the order, and the clamps of `availabilityPercent` have nothing to do.
-/

namespace Statora.Availability
open Library (covered)

def roundedPercent (totalMinutes downtimeMinutes : ℚ) : ℚ :=
  mathRound ((totalMinutes - downtimeMinutes) / totalMinutes * 100 * 10000) / 10000

/-- A reported availability is the rounded percentage, and no branch of
`availabilityPercent` but the last is taken. -/
structure Faithful (totalMinutes downtimeMinutes availability : ℚ) : Prop where
  monitored : 0 < totalMinutes
  unclamped : 0 ≤ roundedPercent totalMinutes downtimeMinutes ∧
    roundedPercent totalMinutes downtimeMinutes ≤ 100
  rounded : availability = roundedPercent totalMinutes downtimeMinutes
  bounded : 0 ≤ availability ∧ availability ≤ 100
  close : |availability - 100 * (1 - downtimeMinutes / totalMinutes)| ≤ 5 / 100000

section Rounding

theorem mathRound_of_nonneg {x : ℚ} (h : 0 ≤ x) : mathRound x = round x := by
  rw [mathRound, if_pos h, round_eq]

theorem mathRound_le_mathRound {x y : ℚ} (hx : 0 ≤ x) (hxy : x ≤ y) :
    mathRound x ≤ mathRound y := by
  rw [mathRound, mathRound, if_pos hx, if_pos (hx.trans hxy)]
  exact Int.floor_le_floor (by linarith)

theorem mathRound_natCast (n : ℕ) : mathRound n = n := by
  rw [mathRound_of_nonneg n.cast_nonneg, round_natCast]

variable {total downtime : ℚ}

theorem scaledPercent_mem (htotal : 0 < total) (hzero : 0 ≤ downtime) (hle : downtime ≤ total) :
    0 ≤ (total - downtime) / total * 100 * 10000 ∧
      (total - downtime) / total * 100 * 10000 ≤ 1000000 := by
  have hlow : 0 ≤ (total - downtime) / total := div_nonneg (by linarith) htotal.le
  have hhigh : (total - downtime) / total ≤ 1 := (div_le_one htotal).mpr (by linarith)
  constructor <;> linarith

theorem roundedPercent_mem (htotal : 0 < total) (hzero : 0 ≤ downtime) (hle : downtime ≤ total) :
    0 ≤ roundedPercent total downtime ∧ roundedPercent total downtime ≤ 100 := by
  obtain ⟨hlow, hhigh⟩ := scaledPercent_mem htotal hzero hle
  have hround : (0 : ℤ) ≤ mathRound ((total - downtime) / total * 100 * 10000) := by
    have h := mathRound_le_mathRound le_rfl hlow
    rwa [show mathRound 0 = 0 from mathRound_natCast 0] at h
  have hround' : mathRound ((total - downtime) / total * 100 * 10000) ≤ 1000000 := by
    have h := mathRound_le_mathRound hlow hhigh
    rwa [show mathRound 1000000 = 1000000 from mathRound_natCast 1000000] at h
  have hcast : (0 : ℚ) ≤ mathRound ((total - downtime) / total * 100 * 10000) := by
    exact_mod_cast hround
  have hcast' : (mathRound ((total - downtime) / total * 100 * 10000) : ℚ) ≤ 1000000 := by
    exact_mod_cast hround'
  rw [roundedPercent]
  constructor
  · exact div_nonneg hcast (by norm_num)
  · rw [div_le_iff₀ (by norm_num)]
    linarith

theorem availabilityPercent_eq (htotal : 0 < total) (hzero : 0 ≤ downtime)
    (hle : downtime ≤ total) :
    availabilityPercent total downtime = roundedPercent total downtime := by
  obtain ⟨hlow, hhigh⟩ := roundedPercent_mem htotal hzero hle
  rw [availabilityPercent, if_neg (not_le.mpr htotal)]
  change (if roundedPercent total downtime < 0 then 0
    else if roundedPercent total downtime > 100 then 100 else roundedPercent total downtime) = _
  rw [if_neg (not_lt.mpr hlow), if_neg (not_lt.mpr hhigh)]

theorem roundedPercent_close (htotal : 0 < total) (hzero : 0 ≤ downtime) (hle : downtime ≤ total) :
    |roundedPercent total downtime - 100 * (1 - downtime / total)| ≤ 5 / 100000 := by
  have hscaled := (scaledPercent_mem htotal hzero hle).1
  have hpercent : 100 * (1 - downtime / total) =
      (total - downtime) / total * 100 * 10000 / 10000 := by
    field_simp
  have herror := abs_sub_round ((total - downtime) / total * 100 * 10000)
  rw [roundedPercent, hpercent, mathRound_of_nonneg hscaled, ← sub_div, abs_div, abs_sub_comm]
  rw [show |(10000 : ℚ)| = 10000 by norm_num, div_le_iff₀ (by norm_num)]
  linarith

theorem faithful_availabilityPercent (htotal : 0 < total) (hzero : 0 ≤ downtime)
    (hle : downtime ≤ total) : Faithful total downtime (availabilityPercent total downtime) := by
  have hmem := roundedPercent_mem htotal hzero hle
  rw [availabilityPercent_eq htotal hzero hle]
  exact ⟨htotal, hmem, rfl, hmem, roundedPercent_close htotal hzero hle⟩

theorem availabilityPercent_anti {more : ℚ} (htotal : 0 < total) (hzero : 0 ≤ downtime)
    (hmore : downtime ≤ more) (hle : more ≤ total) :
    availabilityPercent total more ≤ availabilityPercent total downtime := by
  have hscaled := (scaledPercent_mem htotal (hzero.trans hmore) hle).1
  rw [availabilityPercent_eq htotal hzero (hmore.trans hle),
    availabilityPercent_eq htotal (hzero.trans hmore) hle, roundedPercent, roundedPercent]
  refine div_le_div_of_nonneg_right ?_ (by norm_num)
  refine Int.cast_le.mpr (mathRound_le_mathRound hscaled ?_)
  have hshare : (total - more) / total ≤ (total - downtime) / total :=
    div_le_div_of_nonneg_right (by linarith) htotal.le
  linarith

end Rounding

section Minutes

theorem minute_pos : (0 : ℚ) < minute := by
  rw [show minute = 60000000000 by decide]
  norm_num

theorem minutes_le_minutes {a b : ℤ} : minutes a ≤ minutes b ↔ a ≤ b := by
  rw [minutes, minutes, div_le_div_iff_of_pos_right minute_pos, Int.cast_le]

theorem minutes_nonneg {a : ℤ} (h : 0 ≤ a) : 0 ≤ minutes a :=
  div_nonneg (Int.cast_nonneg h) minute_pos.le

theorem minutes_pos {a : ℤ} (h : 0 < a) : 0 < minutes a :=
  div_pos (Int.cast_pos.mpr h) minute_pos

theorem sum_map_minutes {β : Type} (l : List β) (duration : β → ℤ) :
    (l.map fun b => minutes (duration b)).sum = minutes (l.map duration).sum := by
  induction l with
  | nil => simp [minutes]
  | cons b l ih =>
    rw [List.map_cons, List.sum_cons, ih, List.map_cons, List.sum_cons]
    simp only [minutes, Int.cast_add, add_div]

end Minutes

def Entry.Within (periodStart periodEnd : ℤ) (e : Entry) : Prop :=
  periodStart ≤ e.interval.start ∧ e.interval.start < e.interval.stop ∧
    e.interval.stop ≤ periodEnd

section Downtime
variable {periodStart periodEnd : ℤ}

theorem within_of_mem_entries {now : ℤ} {incidents : List Incident} {e : Entry}
    (h : e ∈ incidents.filterMap (entryOf now periodStart periodEnd)) :
    e.Within periodStart periodEnd := by
  obtain ⟨incident, -, hcounts, rfl⟩ := mem_entries.mp h
  exact ⟨le_max_left _ _, countsIn_iff.mp hcounts, min_le_left _ _⟩

theorem totalDuration_nonneg (intervals : List Interval) :
    0 ≤ totalDuration (mergeIntervals intervals) := by
  rw [totalDuration_mergeIntervals]
  exact Int.natCast_nonneg _

theorem totalDuration_le_of_subset {intervals intervals' : List Interval}
    (h : intervals ⊆ intervals') :
    totalDuration (mergeIntervals intervals) ≤ totalDuration (mergeIntervals intervals') := by
  rw [totalDuration_mergeIntervals, totalDuration_mergeIntervals]
  exact_mod_cast Finset.card_le_card (Library.covered_subset h)

theorem totalDuration_le_period {entries : List Entry} (hperiod : periodStart < periodEnd)
    (h : ∀ e ∈ entries, e.Within periodStart periodEnd) :
    totalDuration (mergeIntervals (entries.map (·.interval))) ≤ periodEnd - periodStart := by
  have hsubset : covered (entries.map (·.interval)) ⊆ Finset.Ico periodStart periodEnd := by
    intro x hx
    obtain ⟨iv, hiv, hx⟩ := Library.mem_covered.mp hx
    obtain ⟨e, he, rfl⟩ := List.mem_map.mp hiv
    obtain ⟨hstart, -, hstop⟩ := h e he
    exact Finset.mem_Ico.mpr ⟨hstart.trans hx.1, hx.2.trans_le hstop⟩
  have hcard := Finset.card_le_card hsubset
  rw [Int.card_Ico] at hcard
  rw [totalDuration_mergeIntervals]
  omega

theorem totalDuration_le_sum {entries : List Entry}
    (h : ∀ e ∈ entries, e.Within periodStart periodEnd) :
    totalDuration (mergeIntervals (entries.map (·.interval))) ≤
      (entries.map fun e => e.interval.stop - e.interval.start).sum := by
  have hlength : ∀ e ∈ entries, (e.interval.points.card : ℤ) =
      e.interval.stop - e.interval.start := fun e he => by
    obtain ⟨-, hlt, -⟩ := h e he
    rw [Library.Span.points, Int.card_Ico]
    omega
  rw [totalDuration_mergeIntervals, ← List.map_congr_left hlength]
  refine (Int.ofNat_le.mpr (Library.card_covered_le _)).trans_eq ?_
  rw [List.map_map]
  induction entries with
  | nil => rfl
  | cons e entries ih =>
    rw [List.map_cons, List.sum_cons, List.map_cons, List.sum_cons, Nat.cast_add,
      ih (fun e he => h e (List.mem_cons_of_mem _ he))
        fun e he => hlength e (List.mem_cons_of_mem _ he)]
    rfl

theorem componentIntervals_subset {entries entries' : List Entry} (h : entries ⊆ entries')
    (id : ObjectID) : componentIntervals entries id ⊆ componentIntervals entries' id :=
  List.map_subset _ fun e he => by
    obtain ⟨hmem, htargets⟩ := List.mem_filter.mp he
    exact List.mem_filter.mpr ⟨h hmem, htargets⟩

theorem componentIntervals_subset_map (entries : List Entry) (id : ObjectID) :
    componentIntervals entries id ⊆ entries.map (·.interval) :=
  List.map_subset _ (List.filter_subset_self _)

end Downtime

structure IsService (entries : List Entry) (components : List Component) (totalMinutes : ℚ)
    (s : ServiceAvailability) : Prop where
  listed : s.componentID ∈ components.map (·.id)
  affected : componentIntervals entries s.componentID ≠ []
  downtime : s.downtimeMinutes =
    minutes (totalDuration (mergeIntervals (componentIntervals entries s.componentID)))
  availability : s.availability = availabilityPercent totalMinutes s.downtimeMinutes

theorem downtime_serviceTotals (entries : List Entry) (components : List Component)
    (id : ObjectID) : (serviceTotals entries components).downtime id =
      if id ∈ components.map (·.id) ∧ (componentIntervals entries id).isEmpty = false then
        some (totalDuration (mergeIntervals (componentIntervals entries id)))
      else none :=
  downtime_foldl_addComponent entries components ⟨fun _ => none, fun _ => 0⟩ id

theorem isService_of_mem {entries : List Entry} {components : List Component} {totalMinutes : ℚ}
    {s : ServiceAvailability} (h : s ∈ components.filterMap
      (serviceOf totalMinutes (serviceTotals entries components))) :
    IsService entries components totalMinutes s := by
  obtain ⟨c, hc, hservice⟩ := List.mem_filterMap.mp h
  rw [serviceOf, downtime_serviceTotals] at hservice
  split_ifs at hservice with hcond
  · obtain rfl := Option.some.inj hservice
    exact ⟨hcond.1, by simpa using hcond.2, rfl, rfl⟩
  · cases hservice

theorem exists_service {entries : List Entry} {components : List Component} (totalMinutes : ℚ)
    {id : ObjectID} (hlisted : id ∈ components.map (·.id))
    (haffected : componentIntervals entries id ≠ []) :
    ∃ s ∈ components.filterMap (serviceOf totalMinutes (serviceTotals entries components)),
      s.componentID = id := by
  obtain ⟨c, hc, rfl⟩ := List.mem_map.mp hlisted
  have hcond : c.id ∈ components.map (·.id) ∧
      (componentIntervals entries c.id).isEmpty = false := ⟨hlisted, by simpa using haffected⟩
  have hservice : ∃ s, serviceOf totalMinutes (serviceTotals entries components) c = some s ∧
      s.componentID = c.id := by
    rw [serviceOf, downtime_serviceTotals, if_pos hcond]
    exact ⟨_, rfl, rfl⟩
  obtain ⟨s, hs, hid⟩ := hservice
  exact ⟨s, List.mem_filterMap.mpr ⟨c, hc, hs⟩, hid⟩

structure ConsistentPercentages (r : AvailabilityResult) : Prop where
  overall : Faithful r.overall.totalMinutes r.overall.downtimeMinutes r.overall.availability
  services : ∀ s ∈ r.services,
    Faithful r.overall.totalMinutes s.downtimeMinutes s.availability
  atLeastOverall : ∀ s ∈ r.services, r.overall.availability ≤ s.availability
  subadditive :
    r.overall.downtimeMinutes ≤ (r.incidents.map (·.effectiveDowntimeMinutes)).sum

structure NoneHigher (r more : AvailabilityResult) : Prop where
  overall : more.overall.availability ≤ r.overall.availability
  kept : ∀ s ∈ r.services, ∃ s' ∈ more.services, s'.componentID = s.componentID
  services : ∀ s ∈ r.services, ∀ s' ∈ more.services, s'.componentID = s.componentID →
    s'.availability ≤ s.availability

section Report
variable {components : List Component} {entries : List Entry} {periodStart periodEnd : ℤ}

theorem consistentPercentages_reportOf (hperiod : periodStart < periodEnd)
    (h : ∀ e ∈ entries, e.Within periodStart periodEnd) (label : String) :
    ConsistentPercentages (reportOf components entries periodStart periodEnd label) := by
  have htotal : 0 < minutes (periodEnd - periodStart) := minutes_pos (by omega)
  have hoverall := totalDuration_le_period hperiod h
  have hservice : ∀ id, totalDuration (mergeIntervals (componentIntervals entries id)) ≤
      totalDuration (mergeIntervals (entries.map (·.interval))) := fun id =>
    totalDuration_le_of_subset (componentIntervals_subset_map entries id)
  refine ⟨?_, fun s hs => ?_, fun s hs => ?_, ?_⟩
  · exact faithful_availabilityPercent htotal (minutes_nonneg (totalDuration_nonneg _))
      (minutes_le_minutes.mpr hoverall)
  · have hs := isService_of_mem hs
    rw [hs.availability, hs.downtime]
    exact faithful_availabilityPercent htotal (minutes_nonneg (totalDuration_nonneg _))
      (minutes_le_minutes.mpr ((hservice _).trans hoverall))
  · have hs := isService_of_mem hs
    rw [hs.availability, hs.downtime]
    exact availabilityPercent_anti htotal (minutes_nonneg (totalDuration_nonneg _))
      (minutes_le_minutes.mpr (hservice _)) (minutes_le_minutes.mpr hoverall)
  · have hsum : ((reportOf components entries periodStart periodEnd label).incidents.map
        (·.effectiveDowntimeMinutes)).sum =
        minutes (entries.map fun e => e.interval.stop - e.interval.start).sum := by
      rw [← sum_map_minutes]
      simp only [reportOf, List.map_map]
      exact ((Library.sortSlice_perm newerEntry entries).map _).sum_eq
    rw [hsum]
    exact minutes_le_minutes.mpr (totalDuration_le_sum h)

theorem noneHigher_reportOf {more : List Entry} (hperiod : periodStart < periodEnd)
    (hsubset : entries ⊆ more) (h : ∀ e ∈ more, e.Within periodStart periodEnd)
    (label : String) :
    NoneHigher (reportOf components entries periodStart periodEnd label)
      (reportOf components more periodStart periodEnd label) := by
  have htotal : 0 < minutes (periodEnd - periodStart) := minutes_pos (by omega)
  have hoverall := totalDuration_le_period hperiod h
  refine ⟨?_, fun s hs => ?_, fun s hs s' hs' hsame => ?_⟩
  · exact availabilityPercent_anti htotal (minutes_nonneg (totalDuration_nonneg _))
      (minutes_le_minutes.mpr (totalDuration_le_of_subset (List.map_subset _ hsubset)))
      (minutes_le_minutes.mpr hoverall)
  · have hs := isService_of_mem hs
    refine exists_service _ hs.listed fun hnone => hs.affected ?_
    exact List.subset_nil.mp (hnone ▸ componentIntervals_subset hsubset s.componentID)
  · have hs := isService_of_mem hs
    have hs' := isService_of_mem hs'
    have hgrows : totalDuration (mergeIntervals (componentIntervals entries s.componentID)) ≤
        totalDuration (mergeIntervals (componentIntervals more s.componentID)) :=
      totalDuration_le_of_subset (componentIntervals_subset hsubset s.componentID)
    have hle : totalDuration (mergeIntervals (componentIntervals more s.componentID)) ≤
        periodEnd - periodStart :=
      (totalDuration_le_of_subset (componentIntervals_subset_map more _)).trans hoverall
    rw [hs.availability, hs'.availability, hs.downtime, hs'.downtime, hsame]
    exact availabilityPercent_anti htotal (minutes_nonneg (totalDuration_nonneg _))
      (minutes_le_minutes.mpr hgrows) (minutes_le_minutes.mpr hle)

end Report

/-- The percentages of every report are consistent, and one more incident, wherever the
list has it, raises none of them. -/
theorem computeAvailability_percentages (components : List Component) (incidents : List Incident)
    (now periodStart periodEnd : ℤ) (label : String) (hperiod : periodStart < periodEnd) :
    ∃ r, computeAvailability components incidents now periodStart periodEnd label = .ok r ∧
      ConsistentPercentages r ∧
      ∀ before after incident, incidents = before ++ after →
        ∃ more, computeAvailability components (before ++ incident :: after) now periodStart
            periodEnd label = .ok more ∧ NoneHigher r more := by
  have hok : ∀ is : List Incident, computeAvailability components is now periodStart periodEnd
      label = .ok (reportOf components (is.filterMap (entryOf now periodStart periodEnd))
        periodStart periodEnd label) := fun is => by
    simp [computeAvailability, hperiod]
  refine ⟨_, hok incidents,
    consistentPercentages_reportOf hperiod (fun _ => within_of_mem_entries) label, ?_⟩
  rintro before after incident rfl
  refine ⟨_, hok _, noneHigher_reportOf hperiod ?_ (fun _ => within_of_mem_entries) label⟩
  refine List.filterMap_subset _ fun other hother => ?_
  rcases List.mem_append.mp hother with hother | hother
  · exact List.mem_append_left _ hother
  · exact List.mem_append_right _ (List.mem_cons_of_mem _ hother)

def shortOutage : Incident where
  id := 7
  title := "Outage"
  status := .resolved
  impact := .major
  affectedComponents := [1]
  createdAt := 0
  resolvedAt := some (20 * minute)

theorem computeAvailability_percentages_shortOutage :
    ∃ r, computeAvailability [⟨1, "API", "", .operational, 0, 0, 0⟩] [shortOutage] (50 * minute) 0
        (100 * minute) "today" = .ok r ∧
      ConsistentPercentages r ∧
      ∀ before after incident, [shortOutage] = before ++ after →
        ∃ more, computeAvailability [⟨1, "API", "", .operational, 0, 0, 0⟩]
            (before ++ incident :: after) (50 * minute) 0 (100 * minute) "today" = .ok more ∧
          NoneHigher r more :=
  computeAvailability_percentages _ _ (50 * minute) 0 (100 * minute) "today" (by decide)

end Statora.Availability
