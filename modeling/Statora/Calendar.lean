import Mathlib.Data.Prod.Lex
import Statora.Time

/-!
# Calendar dates of instants

The year, month and day of an instant in UTC, `time.Date`, and the layouts of
`Time.Format` that the services use. A day is numbered from the epoch, as in
`daysSinceEpoch`, and the calendar is the proleptic Gregorian one.
-/

namespace Statora

def daysBefore (month : ℕ) (year : ℤ) : ℕ :=
  ((List.range (month - 1)).map fun k => daysIn (k + 1) year).sum

def firstDayOfYear (year : ℤ) : ℤ := daysSinceEpoch year 1 1

/-- `Time.Year`, through whole cycles of 400, 100, 4 and one years. -/
def yearOfDay (date : ℤ) : ℤ :=
  let days := date + 719162
  let inCycle := days % 146097
  let centuries := min 3 (inCycle / 36524)
  let inCentury := inCycle - 36524 * centuries
  let inFour := inCentury % 1461
  400 * (days / 146097) + 100 * centuries + 4 * (inCentury / 1461) + min 3 (inFour / 365) + 1

def dayOfYear (date : ℤ) : ℕ := (date - firstDayOfYear (yearOfDay date)).toNat

def monthOfDay (date : ℤ) : ℕ :=
  1 + (List.range 11).countP fun k => daysBefore (k + 2) (yearOfDay date) ≤ dayOfYear date

def dayOfMonth (date : ℤ) : ℕ := dayOfYear date - daysBefore (monthOfDay date) (yearOfDay date) + 1

def yearOf (t : ℤ) : ℤ := yearOfDay (calendarDate t)

def monthOf (t : ℤ) : ℕ := monthOfDay (calendarDate t)

def dateUTC (year : ℤ) (month dayOfMonth : ℕ) : ℤ := daysSinceEpoch year month dayOfMonth * day

theorem firstDayOfYear_eq (year : ℤ) : firstDayOfYear year =
    365 * (year - 1) + (year - 1) / 4 - (year - 1) / 100 + (year - 1) / 400 - 719162 := by
  simp [firstDayOfYear, daysSinceEpoch]

theorem daysSinceEpoch_eq (year : ℤ) (month dayOfMonth : ℕ) :
    daysSinceEpoch year month dayOfMonth =
      firstDayOfYear year + daysBefore month year + (dayOfMonth - 1) := by
  rw [firstDayOfYear_eq]
  simp only [daysSinceEpoch, daysBefore]
  omega

theorem isLeap_iff (year : ℤ) :
    isLeap year = true ↔ year % 4 = 0 ∧ (year % 100 ≠ 0 ∨ year % 400 = 0) := by
  simp [isLeap]

theorem firstDayOfYear_succ (year : ℤ) :
    firstDayOfYear (year + 1) = firstDayOfYear year + 365 + (isLeap year).toNat := by
  have hleap := isLeap_iff year
  rw [firstDayOfYear_eq, firstDayOfYear_eq]
  cases h : isLeap year
  · rw [h] at hleap
    simp only [Bool.false_eq_true, false_iff, not_and_or, not_or] at hleap
    simp only [Bool.toNat_false]
    omega
  · have hyear := hleap.mp h
    simp only [Bool.toNat_true]
    omega

theorem firstDayOfYear_lt {year year' : ℤ} (h : year < year') :
    firstDayOfYear year < firstDayOfYear year' := by
  rw [firstDayOfYear_eq, firstDayOfYear_eq]
  omega

theorem firstDayOfYear_le {year year' : ℤ} (h : year ≤ year') :
    firstDayOfYear year ≤ firstDayOfYear year' := by
  rcases h.eq_or_lt with rfl | hlt
  · exact le_rfl
  · exact (firstDayOfYear_lt hlt).le

theorem firstDayOfYear_cycles (cycles : ℤ) {centuries fours ones : ℤ} (hcenturies : 0 ≤ centuries)
    (hcenturies' : centuries ≤ 3) (hfours : 0 ≤ fours) (hfours' : fours ≤ 24) (hones : 0 ≤ ones)
    (hones' : ones ≤ 3) :
    firstDayOfYear (400 * cycles + 100 * centuries + 4 * fours + ones + 1) =
      146097 * cycles + 36524 * centuries + 1461 * fours + 365 * ones - 719162 := by
  rw [firstDayOfYear_eq, add_sub_cancel_right]
  have h4 : (400 * cycles + 100 * centuries + 4 * fours + ones) / 4 =
      100 * cycles + 25 * centuries + fours := by omega
  have h100 : (400 * cycles + 100 * centuries + 4 * fours + ones) / 100 =
      4 * cycles + centuries := by omega
  have h400 : (400 * cycles + 100 * centuries + 4 * fours + ones) / 400 = cycles := by omega
  rw [h4, h100, h400]
  ring

theorem isLeap_cycles (cycles : ℤ) {centuries fours ones : ℤ} (hcenturies : 0 ≤ centuries)
    (hcenturies' : centuries ≤ 3) (hfours : 0 ≤ fours) (hfours' : fours ≤ 24) (hones : 0 ≤ ones)
    (hones' : ones ≤ 3) :
    isLeap (400 * cycles + 100 * centuries + 4 * fours + ones + 1) = true ↔
      ones = 3 ∧ (fours < 24 ∨ centuries = 3) := by
  rw [isLeap_iff]
  omega

theorem yearOfDay_bounds (date : ℤ) :
    firstDayOfYear (yearOfDay date) ≤ date ∧ date < firstDayOfYear (yearOfDay date + 1) := by
  rw [firstDayOfYear_succ]
  unfold yearOfDay
  dsimp only
  generalize hcentury : min 3 ((date + 719162) % 146097 / 36524) = centuries
  generalize hinCentury : (date + 719162) % 146097 - 36524 * centuries = inCentury
  generalize hfour : inCentury / 1461 = fours
  generalize hone : min 3 (inCentury % 1461 / 365) = ones
  have hcenturies : 0 ≤ centuries ∧ centuries ≤ 3 := by omega
  have hfours : 0 ≤ fours ∧ fours ≤ 24 := by omega
  have hones : 0 ≤ ones ∧ ones ≤ 3 := by omega
  have hfirst := firstDayOfYear_cycles ((date + 719162) / 146097) hcenturies.1
    hcenturies.2 hfours.1 hfours.2 hones.1 hones.2
  have hleap := isLeap_cycles ((date + 719162) / 146097) hcenturies.1 hcenturies.2
    hfours.1 hfours.2 hones.1 hones.2
  rw [hfirst]
  cases h : isLeap (400 * ((date + 719162) / 146097) + 100 * centuries + 4 * fours + ones + 1)
  · rw [h] at hleap
    simp only [Bool.false_eq_true, false_iff, not_and_or, not_or] at hleap
    simp only [Bool.toNat_false]
    omega
  · have hlast := hleap.mp h
    simp only [Bool.toNat_true]
    omega

theorem yearOfDay_eq {date year : ℤ} (hfirst : firstDayOfYear year ≤ date)
    (hlast : date < firstDayOfYear (year + 1)) : yearOfDay date = year := by
  obtain ⟨h1, h2⟩ := yearOfDay_bounds date
  rcases lt_trichotomy (yearOfDay date) year with h | h | h
  · have := firstDayOfYear_le (show yearOfDay date + 1 ≤ year by omega)
    omega
  · exact h
  · have := firstDayOfYear_le (show year + 1 ≤ yearOfDay date by omega)
    omega

def monthLength (leap : Bool) (month : ℕ) : ℕ :=
  if month = 2 then if leap then 29 else 28 else if month ∈ [4, 6, 9, 11] then 30 else 31

theorem months_cover : ∀ leap : Bool, ∀ yday < 365 + leap.toNat,
    let before := fun month => ((List.range (month - 1)).map fun k => monthLength leap (k + 1)).sum
    let month := 1 + (List.range 11).countP fun k => before (k + 2) ≤ yday
    month ≤ 12 ∧ before month ≤ yday ∧ yday < before month + monthLength leap month := by
  decide +kernel

theorem monthOfDay_bounds (date : ℤ) :
    monthOfDay date ≤ 12 ∧ daysBefore (monthOfDay date) (yearOfDay date) ≤ dayOfYear date ∧
      dayOfYear date < daysBefore (monthOfDay date) (yearOfDay date) +
        daysIn (monthOfDay date) (yearOfDay date) := by
  have hyear := yearOfDay_bounds date
  rw [firstDayOfYear_succ] at hyear
  exact months_cover (isLeap (yearOfDay date)) (dayOfYear date) (by unfold dayOfYear; omega)

theorem dayOfMonth_bounds (date : ℤ) :
    1 ≤ dayOfMonth date ∧ dayOfMonth date ≤ daysIn (monthOfDay date) (yearOfDay date) := by
  have hmonth := monthOfDay_bounds date
  unfold dayOfMonth
  omega

theorem one_le_monthOfDay (date : ℤ) : 1 ≤ monthOfDay date := Nat.le_add_right 1 _

theorem daysIn_le (month : ℕ) (year : ℤ) : daysIn month year ≤ 31 := by
  unfold daysIn
  split_ifs <;> omega

theorem daysSinceEpoch_dateOf (date : ℤ) :
    daysSinceEpoch (yearOfDay date) (monthOfDay date) (dayOfMonth date) = date := by
  have hyear := yearOfDay_bounds date
  have hmonth := monthOfDay_bounds date
  rw [daysSinceEpoch_eq]
  unfold dayOfMonth
  have hday : (dayOfYear date : ℤ) = date - firstDayOfYear (yearOfDay date) := by
    unfold dayOfYear; omega
  omega

theorem daysBefore_succ {month : ℕ} (h : 1 ≤ month) (year : ℤ) :
    daysBefore (month + 1) year = daysBefore month year + daysIn month year := by
  obtain ⟨k, rfl⟩ := Nat.exists_eq_add_of_le' h
  simp [daysBefore, List.range_succ]

theorem daysIn_pos (month : ℕ) (year : ℤ) : 28 ≤ daysIn month year := by
  unfold daysIn
  split_ifs <;> omega

theorem daysBefore_lt {month month' : ℕ} (hmonth : 1 ≤ month) (h : month < month') (year : ℤ) :
    daysBefore month year < daysBefore month' year := by
  induction month', h using Nat.le_induction with
  | base =>
    have := daysIn_pos month year
    rw [daysBefore_succ hmonth]
    omega
  | succ m hm ih =>
    have := daysIn_pos m year
    rw [daysBefore_succ (by omega)]
    omega

theorem daysBefore_le {month month' : ℕ} (hmonth : 1 ≤ month) (h : month ≤ month') (year : ℤ) :
    daysBefore month year ≤ daysBefore month' year := by
  rcases h.eq_or_lt with rfl | hlt
  · exact le_rfl
  · exact (daysBefore_lt hmonth hlt year).le

theorem daysBefore_lt_year {month : ℕ} (h : 1 ≤ month) (h' : month ≤ 12) (year : ℤ) :
    daysBefore month year < 365 := by
  have hyear : daysBefore 12 year ≤ 335 := by
    have hdays : ∀ leap : Bool, ((List.range 11).map fun k => monthLength leap (k + 1)).sum ≤ 335 :=
      by decide
    exact hdays (isLeap year)
  have := daysBefore_le h h' year
  omega

theorem daysSinceEpoch_lt {year year' : ℤ} {month month' : ℕ} (hmonth : 1 ≤ month)
    (hlast : month ≤ 12) (h : year < year' ∨ year = year' ∧ month < month') :
    daysSinceEpoch year month 1 < daysSinceEpoch year' month' 1 := by
  rw [daysSinceEpoch_eq, daysSinceEpoch_eq]
  rcases h with h | ⟨rfl, h⟩
  · have hyears := firstDayOfYear_le (show year + 1 ≤ year' by omega)
    have hsucc := firstDayOfYear_succ year
    have hbefore := daysBefore_lt_year hmonth hlast year
    omega
  · have := daysBefore_lt hmonth h year
    omega

theorem yearOfDay_firstOfMonth (year : ℤ) {month : ℕ} (h : 1 ≤ month) (h' : month ≤ 12) :
    yearOfDay (daysSinceEpoch year month 1) = year := by
  have hbefore := daysBefore_lt_year h h' year
  have hsucc := firstDayOfYear_succ year
  rw [daysSinceEpoch_eq]
  exact yearOfDay_eq (by omega) (by omega)

theorem monthOfDay_firstOfMonth {year : ℤ} {month : ℕ} (h : 1 ≤ month) (h' : month ≤ 12) :
    monthOfDay (daysSinceEpoch year month 1) = month := by
  have hyear := yearOfDay_firstOfMonth year h h'
  have hbounds := monthOfDay_bounds (daysSinceEpoch year month 1)
  have hfirst := one_le_monthOfDay (daysSinceEpoch year month 1)
  have hyday : dayOfYear (daysSinceEpoch year month 1) = daysBefore month year := by
    unfold dayOfYear
    rw [hyear, daysSinceEpoch_eq]
    omega
  rw [hyear, hyday] at hbounds
  generalize monthOfDay (daysSinceEpoch year month 1) = found at hbounds hfirst ⊢
  rw [← daysBefore_succ hfirst] at hbounds
  rcases lt_trichotomy found month with hlt | heq | hgt
  · have := daysBefore_le (show 1 ≤ found + 1 by omega) (show found + 1 ≤ month by omega) year
    omega
  · exact heq
  · have := daysBefore_lt h hgt year
    omega

theorem calendarDate_addDays (t n : ℤ) : calendarDate (addDays t n) = calendarDate t + n :=
  Int.add_mul_ediv_right t n day_pos.ne'

theorem dateUTC_le_iff {year : ℤ} {month dayOfMonth : ℕ} {t : ℤ} :
    dateUTC year month dayOfMonth ≤ t ↔ daysSinceEpoch year month dayOfMonth ≤ calendarDate t :=
  (Int.le_ediv_iff_mul_le day_pos).symm

theorem yearOf_bounds (t : ℤ) : dateUTC (yearOf t) 1 1 ≤ t ∧ t < dateUTC (yearOf t + 1) 1 1 := by
  obtain ⟨h1, h2⟩ := yearOfDay_bounds (calendarDate t)
  refine ⟨dateUTC_le_iff.mpr h1, ?_⟩
  rw [← not_le, dateUTC_le_iff, not_le]
  exact h2

theorem dateUTC_lt {year year' : ℤ} (h : year < year') : dateUTC year 1 1 < dateUTC year' 1 1 :=
  Int.mul_lt_mul_of_pos_right (firstDayOfYear_lt h) day_pos

theorem dateUTC_le {year year' : ℤ} (h : year ≤ year') : dateUTC year 1 1 ≤ dateUTC year' 1 1 :=
  Int.mul_le_mul_of_nonneg_right (firstDayOfYear_le h) day_pos.le

theorem calendarDate_dateUTC (year : ℤ) (month dayOfMonth : ℕ) :
    calendarDate (dateUTC year month dayOfMonth) = daysSinceEpoch year month dayOfMonth :=
  Int.mul_ediv_cancel _ day_pos.ne'

theorem monthOf_bounds (t : ℤ) : 1 ≤ monthOf t ∧ monthOf t ≤ 12 :=
  ⟨one_le_monthOfDay _, (monthOfDay_bounds _).1⟩

theorem dateUTC_month_lt_iff {year year' : ℤ} {month month' : ℕ} (hmonth : 1 ≤ month)
    (hmonth' : 1 ≤ month') (hlast : month ≤ 12) (hlast' : month' ≤ 12) :
    dateUTC year month 1 < dateUTC year' month' 1 ↔
      toLex (year, month) < toLex (year', month') := by
  have hforward : ∀ {y y' : ℤ} {m m' : ℕ}, 1 ≤ m → m ≤ 12 → toLex (y, m) < toLex (y', m') →
      dateUTC y m 1 < dateUTC y' m' 1 := by
    intro y y' m m' hm hm' hlt
    exact Int.mul_lt_mul_of_pos_right
      (daysSinceEpoch_lt hm hm' (Prod.Lex.toLex_lt_toLex.mp hlt)) day_pos
  refine ⟨fun hlt => ?_, hforward hmonth hlast⟩
  rcases lt_trichotomy (toLex (year, month)) (toLex (year', month')) with h | h | h
  · exact h
  · obtain ⟨rfl, rfl⟩ := Prod.mk.inj (toLex_inj.mp h)
    exact absurd hlt (lt_irrefl _)
  · exact absurd (hforward hmonth' hlast' h) hlt.not_gt

def appendInt (x : ℤ) (width : ℕ) : List Char :=
  let digits := Nat.toDigits 10 x.natAbs
  (if x < 0 then ['-'] else []) ++ List.replicate (width - digits.length) '0' ++ digits

def longMonthNames : List String :=
  ["January", "February", "March", "April", "May", "June", "July", "August", "September",
    "October", "November", "December"]

def longMonth (month : ℕ) : String := longMonthNames.getD (month - 1) ""

/-- A day in the layout `2006-01-02`. -/
def formatDate (date : ℤ) : String :=
  String.ofList (appendInt (yearOfDay date) 4 ++ '-' :: appendInt (monthOfDay date) 2 ++
    '-' :: appendInt (dayOfMonth date) 2)

/-- A day in the layout `Jan 2, 2006`. -/
def formatShortDate (date : ℤ) : String :=
  String.ofList ((longMonth (monthOfDay date)).toList.take 3 ++
    ' ' :: appendInt (dayOfMonth date) 0 ++ ',' :: ' ' :: appendInt (yearOfDay date) 4)

/-- A day in the layout `January 2006`. -/
def formatMonth (date : ℤ) : String :=
  longMonth (monthOfDay date) ++ " " ++ String.ofList (appendInt (yearOfDay date) 4)

theorem ofDigitChars_padded (width n : ℕ) :
    Nat.ofDigitChars 10 (List.replicate width '0' ++ Nat.toDigits 10 n) 0 = n := by
  rw [Nat.ofDigitChars_append, Nat.ofDigitChars_replicate_zero, Nat.mul_zero,
    Nat.ofDigitChars_ten_toDigits]

theorem dash_not_mem_padded (width n : ℕ) :
    '-' ∉ List.replicate width '0' ++ Nat.toDigits 10 n := by
  intro h
  rcases List.mem_append.mp h with hpad | hdigit
  · cases (List.mem_replicate.mp hpad).2
  · cases Nat.isDigit_of_mem_toDigits (by decide) (by decide) hdigit

theorem appendInt_injective {x y : ℤ} (width : ℕ) (h : appendInt x width = appendInt y width) :
    x = y := by
  unfold appendInt at h
  dsimp only at h
  split_ifs at h with hx hy hy
  · have hdigits := congrArg (Nat.ofDigitChars 10 · 0) (List.cons.inj h).2
    simp only [List.append_eq, List.nil_append, ofDigitChars_padded] at hdigits
    omega
  · refine absurd ?_ (dash_not_mem_padded (width - (Nat.toDigits 10 y.natAbs).length) y.natAbs)
    rw [List.nil_append] at h
    rw [← h]
    exact List.mem_cons_self
  · refine absurd ?_ (dash_not_mem_padded (width - (Nat.toDigits 10 x.natAbs).length) x.natAbs)
    rw [List.nil_append] at h
    rw [h]
    exact List.mem_cons_self
  · have hdigits := congrArg (Nat.ofDigitChars 10 · 0) h
    simp only [List.nil_append, ofDigitChars_padded] at hdigits
    omega

theorem length_appendInt_two : ∀ n < 32, (appendInt (n : ℕ) 2).length = 2 := by decide

theorem formatDate_injective : Function.Injective formatDate := by
  intro date date' h
  have hmonth := length_appendInt_two (monthOfDay date) (by have := monthOfDay_bounds date; omega)
  have hmonth' :=
    length_appendInt_two (monthOfDay date') (by have := monthOfDay_bounds date'; omega)
  have hday := length_appendInt_two (dayOfMonth date) (by
    have := dayOfMonth_bounds date
    have := daysIn_le (monthOfDay date) (yearOfDay date)
    omega)
  have hday' := length_appendInt_two (dayOfMonth date') (by
    have := dayOfMonth_bounds date'
    have := daysIn_le (monthOfDay date') (yearOfDay date')
    omega)
  have htext := String.ofList_injective h
  obtain ⟨hfront, hdays⟩ := List.append_inj' htext (by simp [hday, hday'])
  obtain ⟨hyears, hmonths⟩ := List.append_inj' hfront (by simp [hmonth, hmonth'])
  have hy : yearOfDay date = yearOfDay date' := appendInt_injective 4 hyears
  have hm := appendInt_injective 2 (List.cons.inj hmonths).2
  have hd := appendInt_injective 2 (List.cons.inj hdays).2
  rw [← daysSinceEpoch_dateOf date, ← daysSinceEpoch_dateOf date', hy, Int.ofNat_inj.mp hm,
    Int.ofNat_inj.mp hd]

example : formatDate (daysSinceEpoch 2024 3 1 - 1) = "2024-02-29" := by decide +kernel

end Statora
