import Statora.Availability.Exactness
import Statora.Availability.Period

/-!
# Reports on consecutive years

The report on a period takes its end as excluded, and a past year ends where its
last second begins. The downtime of that second is in the report on neither of
two consecutive years.
-/

namespace Statora.Availability
open Library (covered mem_covered)

/-- The incident lasts through an instant of the last second of the year. -/
def MeetsLastSecond (now year : ℤ) (incident : Incident) : Prop :=
  ((incidentWindow now incident).points ∩
    Finset.Ico (dateUTC (year + 1) 1 1 - second) (dateUTC (year + 1) 1 1)).Nonempty

/-- Both years and the two together are reported, and their downtimes add up. -/
def DowntimesAdd (components : List Component) (incidents : List Incident) (now : ℤ)
    (p p' : ResolvedPeriod) : Prop :=
  ∃ r r' r'', computeAvailability components incidents now p.start p.stop p.label = .ok r ∧
    computeAvailability components incidents now p'.start p'.stop p'.label = .ok r' ∧
    computeAvailability components incidents now p.start p'.stop p'.label = .ok r'' ∧
    r.overall.downtimeMinutes + r'.overall.downtimeMinutes = r''.overall.downtimeMinutes

variable {components : List Component} {incidents : List Incident} {now : ℤ}

theorem computeAvailability_downtime (components : List Component) (incidents : List Incident)
    (now : ℤ) {start stop : ℤ} (hperiod : start < stop) (label : String) :
    ∃ r, computeAvailability components incidents now start stop label = .ok r ∧
      r.overall.downtimeMinutes = minutes (downtimeInstants now start stop incidents).card := by
  refine ⟨_, by simp only [computeAvailability, hperiod, not_true_eq_false, if_false]; rfl, ?_⟩
  simp only [reportOf]
  rw [totalDuration_mergeIntervals, covered_entries]

theorem card_downtimeInstants_split (incidents : List Incident) (now : ℤ) {a b b' c : ℤ}
    (hab : a ≤ b) (hb : b ≤ b') (hbc : b' ≤ c) :
    (downtimeInstants now a c incidents).card = (downtimeInstants now a b incidents).card +
      (downtimeInstants now b b' incidents).card + (downtimeInstants now b' c incidents).card := by
  have hsplit : ∀ {x y z : ℤ}, x ≤ y → y ≤ z → (downtimeInstants now x z incidents).card =
      (downtimeInstants now x y incidents).card + (downtimeInstants now y z incidents).card := by
    intro x y z hxy hyz
    unfold downtimeInstants
    rw [← Finset.Ico_union_Ico_eq_Ico hxy hyz, Finset.inter_union_distrib_left,
      Finset.card_union_of_disjoint]
    exact (Finset.Ico_disjoint_Ico_consecutive x y z).mono Finset.inter_subset_right
      Finset.inter_subset_right
  rw [hsplit (hab.trans hb) hbc, hsplit hab hb]

theorem downtimeInstants_eq_empty_iff {start stop : ℤ} :
    downtimeInstants now start stop incidents = ∅ ↔ ∀ incident ∈ incidents,
      ¬ ((incidentWindow now incident).points ∩ Finset.Ico start stop).Nonempty := by
  simp only [downtimeInstants, Finset.eq_empty_iff_forall_notMem, Finset.mem_inter, mem_covered,
    List.mem_map, Finset.Nonempty, Library.mem_points]
  constructor
  · rintro h incident hincident ⟨t, hwindow, hperiod⟩
    exact h t ⟨⟨_, ⟨incident, hincident, rfl⟩, hwindow⟩, hperiod⟩
  · rintro h t ⟨⟨_, ⟨incident, hincident, rfl⟩, hwindow⟩, hperiod⟩
    exact h incident hincident ⟨t, hwindow, hperiod⟩

theorem minutes_add_eq_iff {a b c : ℤ} : minutes a + minutes b = minutes c ↔ a + b = c := by
  have hminute : (minute : ℚ) ≠ 0 := by unfold minute second; norm_num
  unfold minutes
  rw [← add_div, div_left_inj' hminute]
  norm_cast

theorem downtimesAdd_iff_gap {p p' : ResolvedPeriod} (hp : p.start < p.stop)
    (hgap : p.stop ≤ p'.start) (hp' : p'.start < p'.stop) :
    DowntimesAdd components incidents now p p' ↔
      downtimeInstants now p.stop p'.start incidents = ∅ := by
  obtain ⟨r, hr, hdown⟩ := computeAvailability_downtime components incidents now hp
    p.label
  obtain ⟨r', hr', hdown'⟩ := computeAvailability_downtime components incidents now hp'
    p'.label
  obtain ⟨r'', hr'', hdown''⟩ := computeAvailability_downtime components incidents now
    (show p.start < p'.stop by omega) p'.label
  have hsplit := card_downtimeInstants_split incidents now hp.le hgap hp'.le
  simp only [DowntimesAdd, hr, hr', hr'', Except.ok.injEq, exists_and_left, exists_eq_left']
  rw [hdown, hdown', hdown'', minutes_add_eq_iff, ← Finset.card_eq_zero]
  omega

theorem not_downtimesAdd {p p' : ResolvedPeriod} (hp' : ¬ p'.start < p'.stop) :
    ¬ DowntimesAdd components incidents now p p' := by
  rintro ⟨r, r', r'', -, hr', -⟩
  simp [computeAvailability, hp'] at hr'

theorem resolvePeriod_year {quote : String → String} {period text : String} {year : ℤ}
    (h : atoi text = some year) :
    resolvePeriod quote period text none none now = yearPeriod year now := by
  have htext : text ≠ "" := by
    rintro rfl
    cases h
  simp [resolvePeriod, htext, h]

/-- The downtimes of two consecutive years add up to that of both, as long as the second
has begun and no incident lasts through an instant of the last second of the first. -/
theorem consecutiveYears_add_iff (quote : String → String) (period period' text text' : String)
    (year now : ℤ) (p p' : ResolvedPeriod) (components : List Component)
    (incidents : List Incident) (hyear : atoi text = some year)
    (hnext : atoi text' = some (year + 1))
    (hp : resolvePeriod quote period text none none now = .ok p)
    (hp' : resolvePeriod quote period' text' none none now = .ok p') :
    DowntimesAdd components incidents now p p' ↔ now ≠ dateUTC (year + 1) 1 1 ∧
      ∀ incident ∈ incidents, ¬ MeetsLastSecond now year incident := by
  rw [resolvePeriod_year hyear, yearPeriod_eq_ok] at hp
  rw [resolvePeriod_year hnext, yearPeriod_eq_ok] at hp'
  obtain ⟨-, rfl⟩ := hp
  obtain ⟨⟨-, hpast⟩, rfl⟩ := hp'
  have hfirst := (usable_pastYear s!"{year} YTD" (show year < yearOf now by omega)).nonempty
  rw [if_neg (show year ≠ yearOf now by omega)]
  by_cases hbegun : now = dateUTC (year + 1) 1 1
  · have hcurrent : year + 1 = yearOf now := by
      by_contra hne
      have hlater := dateUTC_lt (show year + 1 < yearOf now by omega)
      have hnow := (yearOf_bounds now).1
      omega
    rw [if_pos hcurrent, ← hbegun]
    simp [not_downtimesAdd]
  · have hsecond : dateUTC (year + 1) 1 1 < (if year + 1 = yearOf now then now
        else lastSecondOf (year + 1)) := by
      split_ifs with hcurrent
      · have husable := (usable_currentYear_iff now "").mpr (hcurrent ▸ hbegun)
        rw [hcurrent]
        exact husable.nonempty
      · exact (usable_pastYear "" (show year + 1 < yearOf now by omega)).nonempty
    have hgap : lastSecondOf year ≤ dateUTC (year + 1) 1 1 := by
      rw [lastSecondOf_eq]
      unfold second
      omega
    rw [downtimesAdd_iff_gap hfirst hgap hsecond, downtimeInstants_eq_empty_iff]
    simp only [MeetsLastSecond, lastSecondOf_eq, ne_eq, hbegun, not_false_eq_true, true_and]

def summerIncident : Incident :=
  { id := 1, title := "summer", status := .resolved, impact := .major,
    createdAt := dateUTC 2024 7 1, resolvedAt := some (dateUTC 2024 7 1 + minute) }

theorem consecutiveYears_add_summer :
    DowntimesAdd [] [summerIncident] (dateUTC 2026 7 1)
        ⟨dateUTC 2024 1 1, lastSecondOf 2024, "2024 YTD"⟩
        ⟨dateUTC 2025 1 1, lastSecondOf 2025, "2025 YTD"⟩ ↔
      dateUTC 2026 7 1 ≠ dateUTC 2025 1 1 ∧
        ∀ incident ∈ [summerIncident], ¬ MeetsLastSecond (dateUTC 2026 7 1) 2024 incident :=
  consecutiveYears_add_iff id "" "" "2024" "2025" 2024 (dateUTC 2026 7 1) _ _ [] [summerIncident]
    (by decide +kernel) (by decide +kernel) (by decide +kernel) (by decide +kernel)

def newYearIncident : Incident :=
  { id := 1, title := "new year", status := .resolved, impact := .major,
    createdAt := dateUTC 2025 1 1 - minute, resolvedAt := some (dateUTC 2025 1 1 + minute) }

theorem consecutiveYears_newYear :
    ∃ p p', resolvePeriod id "" "2024" none none (dateUTC 2026 7 1) = .ok p ∧
      resolvePeriod id "" "2025" none none (dateUTC 2026 7 1) = .ok p' ∧
      ¬ DowntimesAdd [] [newYearIncident] (dateUTC 2026 7 1) p p' := by
  refine ⟨⟨dateUTC 2024 1 1, lastSecondOf 2024, "2024 YTD"⟩,
    ⟨dateUTC 2025 1 1, lastSecondOf 2025, "2025 YTD"⟩, by decide +kernel, by decide +kernel, ?_⟩
  rw [downtimesAdd_iff_gap (by decide +kernel) (by decide +kernel) (by decide +kernel),
    downtimeInstants_eq_empty_iff]
  intro h
  refine h newYearIncident List.mem_cons_self ⟨lastSecondOf 2024, ?_⟩
  rw [Finset.mem_inter, Library.mem_points, Finset.mem_Ico]
  decide +kernel

end Statora.Availability
