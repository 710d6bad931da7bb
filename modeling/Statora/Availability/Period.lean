import Statora.Availability.Service
import Statora.Calendar
import Statora.Numbers

/-!
# Reporting periods

`resolvePeriod` turns the query of the availability endpoint into a period. The
quoting of `fmt` is a parameter, because it needs the table of printable
characters; only an error text uses it. The custom range is checked for a zero
length and the other periods are not: one that starts with the current year is
empty at the first instant of that year.
-/

namespace Statora.Availability

def period24h : String := "24h"
def period7d : String := "7d"
def period30d : String := "30d"
def period90d : String := "90d"
def periodYTD : String := "ytd"

def maxCustomRange : ℤ := 3 * 365 * 24 * hour

def minYear : ℤ := 2000

structure ResolvedPeriod where
  start : ℤ
  stop : ℤ
  label : String
  deriving DecidableEq, Repr

def rangeLabel (start stop : ℤ) : String :=
  formatShortDate (calendarDate start) ++ " → " ++ formatShortDate (calendarDate stop)

def customPeriod (start stop now : ℤ) : Except ServiceError ResolvedPeriod :=
  if ¬ start < stop then .error (.invalidInput "from must be before to")
  else
    let stop := if stop > now then now else stop
    if ¬ start < stop then .error (.invalidInput "period must be longer than zero")
    else if stop - start > maxCustomRange then
      .error (.invalidInput "custom range must not exceed 3 years")
    else .ok ⟨start, stop, rangeLabel start stop⟩

def lastSecondOf (year : ℤ) : ℤ := dateUTC year 12 31 + 23 * hour + 59 * minute + 59 * second

def yearPeriod (parsedYear now : ℤ) : Except ServiceError ResolvedPeriod :=
  if parsedYear < minYear || parsedYear > yearOf now then
    .error (.invalidInput s!"year must be between {minYear} and {yearOf now}")
  else
    let stop := lastSecondOf parsedYear
    let stop := if parsedYear = yearOf now then now else stop
    .ok ⟨dateUTC parsedYear 1 1, stop, s!"{parsedYear} YTD"⟩

def presetPeriod (period : String) (now : ℤ) : Except ServiceError ResolvedPeriod :=
  if period = "" || period = period30d then .ok ⟨now - 30 * 24 * hour, now, "Last 30 Days"⟩
  else if period = period24h then .ok ⟨now - 24 * hour, now, "Last 24 Hours"⟩
  else if period = period7d then .ok ⟨now - 7 * 24 * hour, now, "Last 7 Days"⟩
  else if period = period90d then .ok ⟨now - 90 * 24 * hour, now, "Last 90 Days"⟩
  else if period = periodYTD then
    .ok ⟨dateUTC (yearOf now) 1 1, now, s!"{yearOf now} YTD"⟩
  else
    .error (.invalidInput ("invalid period: must be one of " ++ ", ".intercalate
      [period24h, period7d, period30d, period90d, periodYTD]))

/-- A custom range comes before a year, and a year before a preset. -/
def resolvePeriod (quote : String → String) (period year : String) (from_ to_ : Option ℤ)
    (now : ℤ) : Except ServiceError ResolvedPeriod :=
  match from_, to_ with
  | some start, some stop => customPeriod start stop now
  | some _, none => .error (.invalidInput "from and to must both be provided")
  | none, some _ => .error (.invalidInput "from and to must both be provided")
  | none, none =>
    if year ≠ "" then
      match atoi year with
      | none => .error (.invalidInput ("invalid year: " ++ quote year))
      | some parsedYear => yearPeriod parsedYear now
    else presetPeriod period now

/-- The period has an instant, all are past, and the report on it is made. -/
structure Usable (now : ℤ) (p : ResolvedPeriod) : Prop where
  nonempty : p.start < p.stop
  past : p.stop ≤ now
  accepted : ∀ (components : List Component) (incidents : List Incident),
    ∃ r, computeAvailability components incidents now p.start p.stop p.label = .ok r

def AsksForCurrentYear (period year : String) (from_ to_ : Option ℤ) (now : ℤ) : Prop :=
  from_ = none ∧ to_ = none ∧ (atoi year = some (yearOf now) ∨ year = "" ∧ period = periodYTD)

theorem usable_of_lt {now : ℤ} {p : ResolvedPeriod} (hlt : p.start < p.stop)
    (hpast : p.stop ≤ now) : Usable now p :=
  ⟨hlt, hpast, fun components incidents => by simp [computeAvailability, hlt]⟩

theorem usable_iff {now : ℤ} {p : ResolvedPeriod} :
    Usable now p ↔ p.start < p.stop ∧ p.stop ≤ now :=
  ⟨fun h => ⟨h.nonempty, h.past⟩, fun h => usable_of_lt h.1 h.2⟩

theorem customPeriod_usable {start stop now : ℤ} {p : ResolvedPeriod}
    (h : customPeriod start stop now = .ok p) : Usable now p := by
  unfold customPeriod at h
  dsimp only at h
  split_ifs at h with horder hclamp hnonempty hlong hlong
  · cases h
    exact usable_of_lt hnonempty le_rfl
  · cases h
    exact usable_of_lt horder (not_lt.mp hclamp)

theorem usable_sub {now length : ℤ} (label : String) (hlength : 0 < length) :
    Usable now ⟨now - length, now, label⟩ :=
  usable_of_lt (sub_lt_self now hlength) le_rfl

theorem lastSecondOf_eq (year : ℤ) : lastSecondOf year = dateUTC (year + 1) 1 1 - second := by
  have hdays : daysSinceEpoch (year + 1) 1 1 = daysSinceEpoch year 12 31 + 1 := by
    have hyear : ∀ leap : Bool,
        ((List.range 11).map fun k => monthLength leap (k + 1)).sum + 31 = 365 + leap.toNat := by
      decide
    have hbefore : daysBefore 12 year + 31 = 365 + (isLeap year).toNat := hyear (isLeap year)
    have hsucc := firstDayOfYear_succ year
    rw [daysSinceEpoch_eq year, show daysSinceEpoch (year + 1) 1 1 = firstDayOfYear (year + 1)
      from rfl]
    omega
  unfold lastSecondOf dateUTC
  rw [hdays]
  unfold day hour minute second
  omega

theorem yearPeriod_eq_ok {parsedYear now : ℤ} {p : ResolvedPeriod} :
    yearPeriod parsedYear now = .ok p ↔ (minYear ≤ parsedYear ∧ parsedYear ≤ yearOf now) ∧
      p = ⟨dateUTC parsedYear 1 1, if parsedYear = yearOf now then now else lastSecondOf parsedYear,
        s!"{parsedYear} YTD"⟩ := by
  unfold yearPeriod
  by_cases h : parsedYear < minYear ∨ parsedYear > yearOf now
  · have hnot : ¬ (minYear ≤ parsedYear ∧ parsedYear ≤ yearOf now) := by omega
    simp [h, hnot]
  · have hin : minYear ≤ parsedYear ∧ parsedYear ≤ yearOf now := by omega
    simp only [Bool.or_eq_true, decide_eq_true_eq, if_neg h, hin, true_and, and_self,
      Except.ok.injEq]
    exact eq_comm

theorem usable_currentYear_iff (now : ℤ) (label : String) :
    Usable now ⟨dateUTC (yearOf now) 1 1, now, label⟩ ↔ now ≠ dateUTC (yearOf now) 1 1 := by
  have hbounds := yearOf_bounds now
  rw [usable_iff]
  dsimp only
  omega

theorem usable_pastYear {year now : ℤ} (label : String) (h : year < yearOf now) :
    Usable now ⟨dateUTC year 1 1, lastSecondOf year, label⟩ := by
  have hlast := lastSecondOf_eq year
  have hlength : dateUTC year 1 1 + 365 * day ≤ dateUTC (year + 1) 1 1 := by
    have hsucc := firstDayOfYear_succ year
    unfold firstDayOfYear at hsucc
    unfold dateUTC
    rw [hsucc]
    unfold day hour minute second
    omega
  have hpast := dateUTC_le (show year + 1 ≤ yearOf now by omega)
  have hnow := (yearOf_bounds now).1
  unfold day hour minute second at hlength
  unfold second at hlast
  refine usable_of_lt ?_ ?_
  · dsimp only
    omega
  · dsimp only
    omega

theorem yearPeriod_usable_iff (parsedYear : ℤ) {now : ℤ} (hnow : minYear ≤ yearOf now) :
    (∀ p, yearPeriod parsedYear now = .ok p → Usable now p) ↔
      ¬ (parsedYear = yearOf now ∧ now = dateUTC (yearOf now) 1 1) := by
  simp only [yearPeriod_eq_ok]
  constructor
  · rintro h ⟨rfl, hfirst⟩
    have husable := h _ ⟨⟨hnow, le_rfl⟩, rfl⟩
    rw [if_pos rfl, usable_currentYear_iff] at husable
    exact husable hfirst
  · rintro h p ⟨⟨-, hpast⟩, rfl⟩
    split_ifs with hyear
    · subst hyear
      exact (usable_currentYear_iff _ _).mpr fun hfirst => h ⟨rfl, hfirst⟩
    · exact usable_pastYear _ (by omega)

theorem presetPeriod_ytd (now : ℤ) : presetPeriod periodYTD now =
    .ok ⟨dateUTC (yearOf now) 1 1, now, s!"{yearOf now} YTD"⟩ := rfl

theorem presetPeriod_usable {period : String} {now : ℤ} {p : ResolvedPeriod}
    (hperiod : period ≠ periodYTD) (h : presetPeriod period now = .ok p) : Usable now p := by
  have hhour := hour_pos
  unfold presetPeriod at h
  split_ifs at h with h30 h24 h7 h90
  · cases h
    exact usable_sub _ (by positivity)
  · cases h
    exact usable_sub _ (by positivity)
  · cases h
    exact usable_sub _ (by positivity)
  · cases h
    exact usable_sub _ (by positivity)

theorem presetPeriod_usable_iff {period : String} {now : ℤ} :
    (∀ p, presetPeriod period now = .ok p → Usable now p) ↔
      ¬ (period = periodYTD ∧ now = dateUTC (yearOf now) 1 1) := by
  by_cases hytd : period = periodYTD
  · subst hytd
    simp [presetPeriod_ytd, usable_currentYear_iff]
  · simp only [hytd, false_and, not_false_eq_true, iff_true]
    exact fun p => presetPeriod_usable hytd

theorem minYear_le_yearOf {now : ℤ} (hnow : dateUTC 2000 1 1 ≤ now) : minYear ≤ yearOf now := by
  by_contra hlt
  have hnext := dateUTC_le (show yearOf now + 1 ≤ 2000 by unfold minYear at hlt; omega)
  have hyear := (yearOf_bounds now).2
  omega

/-- A period that is resolved is usable, unless it was to start with the current year and
that year has just begun. -/
theorem resolvePeriod_usable_iff (quote : String → String) (period year : String)
    (from_ to_ : Option ℤ) (now : ℤ) (hnow : dateUTC 2000 1 1 ≤ now) :
    (∀ p, resolvePeriod quote period year from_ to_ now = .ok p → Usable now p) ↔
      ¬ (AsksForCurrentYear period year from_ to_ now ∧ now = dateUTC (yearOf now) 1 1) := by
  unfold AsksForCurrentYear
  match from_, to_ with
  | some start, some stop =>
    simp only [resolvePeriod, reduceCtorEq, false_and, not_false_eq_true, iff_true]
    exact fun p => customPeriod_usable
  | some _, none => simp [resolvePeriod]
  | none, some _ => simp [resolvePeriod]
  | none, none =>
    by_cases hyear : year = ""
    · have hnone : atoi "" = none := rfl
      simpa [resolvePeriod, hyear, hnone] using presetPeriod_usable_iff
    · cases hatoi : atoi year with
      | none => simp [resolvePeriod, hyear, hatoi]
      | some parsedYear =>
        simpa [resolvePeriod, hyear, hatoi] using
          yearPeriod_usable_iff parsedYear (minYear_le_yearOf hnow)

theorem resolvePeriod_usable_ytd :
    (∀ p, resolvePeriod id "ytd" "" none none (dateUTC 2026 7 1) = .ok p →
        Usable (dateUTC 2026 7 1) p) ↔
      ¬ (AsksForCurrentYear "ytd" "" none none (dateUTC 2026 7 1) ∧
        dateUTC 2026 7 1 = dateUTC (yearOf (dateUTC 2026 7 1)) 1 1) :=
  resolvePeriod_usable_iff id "ytd" "" none none (dateUTC 2026 7 1) (by decide +kernel)

theorem resolvePeriod_newYear :
    ∃ p, resolvePeriod id "ytd" "" none none (dateUTC 2026 1 1) = .ok p ∧
      ¬ Usable (dateUTC 2026 1 1) p ∧
      computeAvailability [] [] (dateUTC 2026 1 1) p.start p.stop p.label =
        .error (.invalidInput "period start must be before end") := by
  refine ⟨⟨dateUTC 2026 1 1, dateUTC 2026 1 1, "2026 YTD"⟩, by decide +kernel, ?_, rfl⟩
  intro h
  exact lt_irrefl _ h.nonempty

end Statora.Availability
