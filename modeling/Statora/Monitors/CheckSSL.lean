import Statora.Library.Binary64
import Statora.Library.SortSlice
import Statora.Monitors.Thresholds
import Statora.Numbers

/-!
# The certificate check

`checkSSL` after the handshake: the remaining time is a saturating duration, its
hours and days are computed in binary64 and cut off towards zero. So the days
of the last day before and of the first day after expiry are both zero, and the
check takes a certificate that expired within a day for a valid one.
-/

namespace Statora.Monitors
open Library (roundNearest roundNearest_mono roundNearest_intCast roundNearest_neg
  roundNearest_le le_roundNearest sortSlice)

structure Certificate where
  notAfter : ℤ
  verifyHostname : String → Except String Unit

/-- The packages `net` and `crypto/tls`, with the certificates that a peer presents. -/
structure TLS where
  splitHostPort : String → Option (String × String)
  joinHostPort : String → String → String
  dial : ℤ → String → String → Except String (List Certificate)

structure SSLCheckResult where
  daysRemaining : ℤ
  triggeredThreshold : ℤ
  warning : Bool
  deriving DecidableEq, Repr

/-- `Time.Sub`, which keeps to the range of a duration. -/
def timeSub (t u : ℤ) : ℤ := max minInt (min maxInt (t - u))

def durationHours (d : ℤ) : ℚ :=
  roundNearest (Int.tdiv d hour + roundNearest (Int.tmod d hour / hour))

def truncate (x : ℚ) : ℤ := if 0 ≤ x then ⌊x⌋ else ⌈x⌉

def daysOf (d : ℤ) : ℤ := truncate (roundNearest (durationHours d / 24))

def pickTriggeredThreshold (daysRemaining : ℤ) (thresholds : List ℤ) : ℤ :=
  if thresholds.length = 0 then 0
  else
    let valid := thresholds.filter (fun threshold => threshold > 0)
    if valid.length = 0 then 0
    else
      ((sortSlice (fun a b => decide (a < b)) valid).find?
        (fun threshold => daysRemaining ≤ threshold)).getD 0

def expiredError (days : ℤ) : String := s!"certificate expired {days} days ago"

def checkExpiry (notAfter now : ℤ) (thresholds : List ℤ) : Except String SSLCheckResult :=
  let daysRemaining := daysOf (timeSub notAfter now)
  if daysRemaining < 0 then .error (expiredError (-daysRemaining))
  else
    let triggered := pickTriggeredThreshold daysRemaining thresholds
    .ok ⟨daysRemaining, triggered, decide (triggered > 0)⟩

def hostPort (tls : TLS) (target : String) : String × String :=
  (tls.splitHostPort target).getD (target, "443")

def peerCertificates (tls : TLS) (target : String) (timeout : ℤ) :
    Except String (List Certificate) :=
  let timeout := if timeout = 0 then 30 * second else timeout
  let (host, port) := hostPort tls target
  tls.dial timeout (tls.joinHostPort host port) host

/-- The clock is read after the host name has been verified. -/
def checkSSL (tls : TLS) (target : String) (timeout now : ℤ) (thresholds : List ℤ) :
    Except String SSLCheckResult := do
  match ← peerCertificates tls target timeout with
  | [] => throw "no peer certificate presented"
  | leaf :: _ =>
    leaf.verifyHostname (hostPort tls target).1
    checkExpiry leaf.notAfter now thresholds

/-- The days come out as the next whole number, just before it is reached. -/
def RoundsUp (d : ℤ) : Prop := roundNearest (durationHours d / 24) = (d / day : ℤ) + 1

variable {d : ℤ}

theorem day_eq : day = 24 * hour := rfl

theorem durationHours_of_nonneg (hd : 0 ≤ d) :
    durationHours d = roundNearest ((d / hour : ℤ) + roundNearest ((d % hour : ℤ) / hour)) := by
  unfold durationHours
  rw [Int.tdiv_eq_ediv_of_nonneg hd, Int.tmod_eq_emod_of_nonneg hd]

theorem part_bounds (d : ℤ) :
    (0 : ℚ) ≤ (d % hour : ℤ) / hour ∧ ((d % hour : ℤ) : ℚ) / hour ≤ 1 := by
  have hpos : (0 : ℚ) < hour := by norm_num [hour, minute, second]
  have hlow : (0 : ℚ) ≤ (d % hour : ℤ) := by
    exact_mod_cast Int.emod_nonneg d (by decide)
  have hhigh : ((d % hour : ℤ) : ℚ) ≤ hour := by
    exact_mod_cast (Int.emod_lt_of_pos d (by decide)).le
  exact ⟨div_nonneg hlow hpos.le, (div_le_one hpos).mpr hhigh⟩

theorem hours_bounds (hd : 0 ≤ d) (hmax : d ≤ 2 ^ 63) : 0 ≤ d / hour ∧ d / hour < 2 ^ 30 := by
  unfold hour minute second
  omega

theorem durationHours_bounds (hd : 0 ≤ d) (hmax : d ≤ 2 ^ 63) :
    ((d / hour : ℤ) : ℚ) ≤ durationHours d ∧ durationHours d ≤ (d / hour : ℤ) + 1 := by
  obtain ⟨hlow, hhigh⟩ := part_bounds d
  obtain ⟨hh, hh'⟩ := hours_bounds hd hmax
  have hpart := le_roundNearest (m := 0) 0 (by norm_num) (by simpa using hlow)
  have hpart' := roundNearest_le (m := 1) 0 (by norm_num) (by simpa using hhigh)
  simp only [Int.cast_zero, Int.cast_one, pow_zero, div_one] at hpart hpart'
  rw [durationHours_of_nonneg hd]
  constructor
  · simpa using le_roundNearest (m := d / hour) 0 (by rw [abs_le]; omega) (by simpa using hpart)
  · simpa using roundNearest_le (m := d / hour + 1) 0 (by rw [abs_le]; omega)
      (by simpa using hpart')

theorem wholeDays_eq (d : ℤ) : d / day = d / hour / 24 := by
  rw [day_eq, mul_comm, Int.ediv_ediv_of_nonneg (by decide)]

theorem roundedDays_bounds (hd : 0 ≤ d) (hmax : d ≤ 2 ^ 63) :
    ((d / day : ℤ) : ℚ) ≤ roundNearest (durationHours d / 24) ∧
      roundNearest (durationHours d / 24) ≤ (d / day : ℤ) + 1 := by
  obtain ⟨hlow, hhigh⟩ := durationHours_bounds hd hmax
  obtain ⟨hh, hh'⟩ := hours_bounds hd hmax
  rw [wholeDays_eq]
  have hdays : 24 * (d / hour / 24) ≤ d / hour ∧ d / hour + 1 ≤ 24 * (d / hour / 24 + 1) := by omega
  have hdays1 : (24 : ℚ) * (d / hour / 24 : ℤ) ≤ (d / hour : ℤ) := by exact_mod_cast hdays.1
  have hdays2 : ((d / hour : ℤ) : ℚ) + 1 ≤ 24 * ((d / hour / 24 : ℤ) + 1) := by
    exact_mod_cast hdays.2
  constructor
  · simpa using le_roundNearest (m := d / hour / 24) 0 (by rw [abs_le]; omega)
      (by rw [pow_zero, div_one, le_div_iff₀ (by norm_num)]; linarith)
  · simpa using roundNearest_le (m := d / hour / 24 + 1) 0 (by rw [abs_le]; omega)
      (by rw [pow_zero, div_one, div_le_iff₀ (by norm_num)]; push_cast; linarith)

theorem daysOf_of_nonneg (hd : 0 ≤ d) (hmax : d ≤ 2 ^ 63) :
    (RoundsUp d → daysOf d = d / day + 1) ∧ (¬ RoundsUp d → daysOf d = d / day) := by
  obtain ⟨hlow, hhigh⟩ := roundedDays_bounds hd hmax
  have hnonneg : (0 : ℚ) ≤ (d / day : ℤ) := by
    exact_mod_cast Int.ediv_nonneg hd (by decide)
  unfold RoundsUp daysOf truncate
  rw [if_pos (hnonneg.trans hlow)]
  constructor
  · intro hup
    rw [hup]
    exact_mod_cast Int.floor_intCast (R := ℚ) (d / day + 1)
  · intro hup
    rw [Int.floor_eq_iff]
    exact ⟨hlow, lt_of_le_of_ne hhigh hup⟩

theorem roundNearest_le_succ_sub {x : ℚ} {n : ℤ} (j : ℕ) (hn : 0 ≤ n)
    (hbits : (n + 1) * 2 ^ j ≤ 2 ^ 53) (hx : x ≤ n + 1 - 1 / 2 ^ j) :
    roundNearest x ≤ n + 1 - 1 / 2 ^ j := by
  have hpow : (1 : ℤ) ≤ 2 ^ j := one_le_pow₀ (by norm_num)
  have hpow' : (0 : ℚ) < 2 ^ j := by positivity
  have hprod : 2 ^ j ≤ (n + 1) * 2 ^ j := le_mul_of_one_le_left (by omega) (by omega)
  have heq : (n : ℚ) + 1 - 1 / 2 ^ j = (((n + 1) * 2 ^ j - 1 : ℤ) : ℚ) / 2 ^ j := by
    push_cast
    field_simp
  rw [heq] at hx ⊢
  exact roundNearest_le j (by rw [abs_le]; omega) hx

theorem not_roundsUp (hd : 0 ≤ d) {j : ℕ} (hpart : ((d % hour : ℤ) : ℚ) / hour ≤ 1 - 1 / 2 ^ j)
    (hbits : (d / hour + 1) * 2 ^ (j + 5) ≤ 2 ^ 53) : ¬ RoundsUp d := by
  have hh : 0 ≤ d / hour := Int.ediv_nonneg hd (by decide)
  have hk : 0 ≤ d / day := Int.ediv_nonneg hd (by decide)
  have hpow : (0 : ℤ) < 2 ^ j := by positivity
  have hdays : d / day ≤ d / hour ∧ d / hour + 1 ≤ 24 * (d / day + 1) := by
    rw [wholeDays_eq]
    omega
  rw [pow_add] at hbits
  have hfew : (d / hour + 1) * 2 ^ j ≤ 2 ^ 53 := by nlinarith
  have hpart' : roundNearest ((d % hour : ℤ) / hour) ≤ 1 - 1 / 2 ^ j := by
    simpa using roundNearest_le_succ_sub (n := 0) j le_rfl (by nlinarith) (by simpa using hpart)
  have hhours : durationHours d ≤ (d / hour : ℤ) + 1 - 1 / 2 ^ j := by
    rw [durationHours_of_nonneg hd]
    exact roundNearest_le_succ_sub j hh hfew (by linarith)
  have hdays' : ((d / hour : ℤ) : ℚ) + 1 ≤ 24 * ((d / day : ℤ) + 1) := by exact_mod_cast hdays.2
  have hshare : (1 : ℚ) / 2 ^ (j + 5) ≤ 1 / 2 ^ j / 24 := by
    rw [pow_add, div_div]
    exact one_div_le_one_div_of_le (by positivity)
      (mul_le_mul_of_nonneg_left (by norm_num) (by positivity))
  have hrounded : roundNearest (durationHours d / 24) ≤ (d / day : ℤ) + 1 - 1 / 2 ^ (j + 5) :=
    roundNearest_le_succ_sub (j + 5) hk (by rw [pow_add]; nlinarith)
      (by rw [div_le_iff₀ (by norm_num)]; linarith)
  have hstrict : (0 : ℚ) < 1 / 2 ^ (j + 5) := by positivity
  unfold RoundsUp
  linarith

theorem daysOf_cases (hd : 0 ≤ d) (hmax : d ≤ 2 ^ 63) :
    daysOf d = d / day ∨ daysOf d = d / day + 1 := by
  by_cases hup : RoundsUp d
  · exact Or.inr ((daysOf_of_nonneg hd hmax).1 hup)
  · exact Or.inl ((daysOf_of_nonneg hd hmax).2 hup)

theorem daysOf_of_lt_day (hd : 0 ≤ d) (hday : d < day) : daysOf d = 0 := by
  have hwhole : d / day = 0 := Int.ediv_eq_zero_of_lt hd hday
  have hlast : d % hour ≤ 3600000000000 - 1 :=
    Int.le_sub_one_of_lt (Int.emod_lt_of_pos d (by decide))
  have hhours : d / hour ≤ 23 := by
    unfold day at hday
    unfold hour minute second at *
    omega
  have hup : ¬ RoundsUp d := by
    refine not_roundsUp (j := 42) hd ?_ (by omega)
    have hlast' : ((d % hour : ℤ) : ℚ) ≤ 3600000000000 - 1 := by exact_mod_cast hlast
    have hhour : (hour : ℚ) = 3600000000000 := by norm_num [hour, minute, second]
    rw [hhour, div_le_iff₀ (by norm_num)]
    refine hlast'.trans ?_
    norm_num
  rw [(daysOf_of_nonneg hd (hday.le.trans (by decide))).2 hup, hwhole]

theorem truncate_neg (x : ℚ) : truncate (-x) = -truncate x := by
  unfold truncate
  rcases lt_trichotomy x 0 with hx | rfl | hx
  · rw [if_pos (by linarith), if_neg (by linarith), Int.floor_neg]
  · simp
  · rw [if_neg (by linarith), if_pos hx.le, Int.ceil_neg]

theorem daysOf_neg (d : ℤ) : daysOf (-d) = -daysOf d := by
  have hhours : durationHours (-d) = -durationHours d := by
    unfold durationHours
    rw [Int.neg_tdiv, Int.neg_tmod, Int.cast_neg, Int.cast_neg, neg_div, roundNearest_neg,
      ← neg_add, roundNearest_neg]
  unfold daysOf
  rw [hhours, neg_div, roundNearest_neg, truncate_neg]

theorem daysOf_neg_iff (hmin : -2 ^ 63 ≤ d) (hmax : d ≤ 2 ^ 63) : daysOf d < 0 ↔ d ≤ -day := by
  have hday := day_pos
  rcases le_or_gt 0 d with hd | hd
  · have hwhole : 0 ≤ d / day := Int.ediv_nonneg hd (by decide)
    rcases daysOf_cases hd hmax with h | h <;> omega
  · have hflip := daysOf_neg (-d)
    rw [neg_neg] at hflip
    rcases lt_or_ge (-d) day with hlt | hge
    · have hzero := daysOf_of_lt_day (by omega) hlt
      omega
    · have hwhole : 1 ≤ -d / day := (Int.le_ediv_iff_mul_le day_pos).mpr (by omega)
      rcases daysOf_cases (d := -d) (by omega) (by omega) with h | h <;> omega

theorem daysOf_maxInt : daysOf maxInt = 106751 := by
  have hup : ¬ RoundsUp maxInt := by
    refine not_roundsUp (j := 3) (by decide) ?_ (by decide)
    have hpart : maxInt % hour = 2836854775807 := by decide
    rw [hpart]
    norm_num [hour, minute, second]
  exact (daysOf_of_nonneg (by decide) (by decide)).2 hup

end Statora.Monitors
