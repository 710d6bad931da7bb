import Mathlib.Algebra.Order.Field.Power
import Mathlib.Data.Int.Log
import Mathlib.Data.Rat.Floor
import Mathlib.Tactic.FieldSimp
import Mathlib.Tactic.Linarith
import Mathlib.Tactic.Positivity
import Mathlib.Tactic.Ring

/-!
# Rounding to binary64

`roundNearest x` is the binary64 number nearest to `x`, a tie going to the even
significand. Exponents are unbounded, which agrees with the format as long as
there is neither overflow nor underflow. Rounding is monotone and leaves
every number of at most 53 bits as it is.
-/

namespace Statora.Library

/-- The nearest integer, ties to even. -/
def roundEven (x : ℚ) : ℤ :=
  if 1 / 2 < x - ⌊x⌋ ∨ (x - ⌊x⌋ = 1 / 2 ∧ ⌊x⌋ % 2 = 1) then ⌊x⌋ + 1 else ⌊x⌋

def unitInLastPlace (x : ℚ) : ℚ := 2 ^ (Int.log 2 x - 52)

def roundMagnitude (x : ℚ) : ℚ := roundEven (x / unitInLastPlace x) * unitInLastPlace x

def roundNearest (x : ℚ) : ℚ := if x < 0 then -roundMagnitude (-x) else roundMagnitude x

theorem roundEven_le {x : ℚ} {n : ℤ} (h : x ≤ n) : roundEven x ≤ n := by
  have hfloor : ⌊x⌋ ≤ n := Int.floor_le_iff.mpr (by linarith)
  unfold roundEven
  split_ifs with hup
  · rcases hfloor.eq_or_lt with heq | hlt
    · have hle : x - ⌊x⌋ ≤ 0 := by
        rw [heq]
        linarith
      rcases hup with hup | hup
      · linarith
      · linarith [hup.1]
    · omega
  · exact hfloor

theorem le_roundEven {x : ℚ} {n : ℤ} (h : n ≤ x) : n ≤ roundEven x := by
  have hfloor : n ≤ ⌊x⌋ := Int.le_floor.mpr h
  unfold roundEven
  split_ifs
  · omega
  · exact hfloor

theorem roundEven_intCast (n : ℤ) : roundEven n = n :=
  le_antisymm (roundEven_le le_rfl) (le_roundEven le_rfl)

theorem roundEven_mono {x y : ℚ} (h : x ≤ y) : roundEven x ≤ roundEven y := by
  rcases (Int.floor_mono h).eq_or_lt with heq | hlt
  · unfold roundEven
    rw [← heq]
    split_ifs with hx hy hy
    · exact le_rfl
    · refine absurd ?_ hy
      rcases hx with hx | ⟨hx, hodd⟩
      · exact Or.inl (by linarith)
      · rcases h.eq_or_lt with rfl | hxy
        · exact Or.inr ⟨hx, hodd⟩
        · exact Or.inl (by linarith)
    · omega
    · exact le_rfl
  · calc roundEven x ≤ ⌊x⌋ + 1 := roundEven_le (by push_cast; exact (Int.lt_floor_add_one x).le)
      _ ≤ ⌊y⌋ := hlt
      _ ≤ roundEven y := le_roundEven (Int.floor_le y)

theorem abs_roundEven_sub_le (x : ℚ) : |(roundEven x : ℚ) - x| ≤ 1 / 2 := by
  have hfloor := Int.floor_le x
  have hnext := Int.lt_floor_add_one x
  unfold roundEven
  rw [abs_le]
  split_ifs with hup
  · push_cast
    rcases hup with hup | hup
    · constructor <;> linarith
    · constructor <;> linarith [hup.1]
  · rw [not_or] at hup
    constructor <;> linarith [hup.1]

theorem unitInLastPlace_pos (x : ℚ) : 0 < unitInLastPlace x := by
  unfold unitInLastPlace
  positivity

theorem scale_unitInLastPlace (x : ℚ) (k : ℕ) :
    ((2 ^ k : ℤ) : ℚ) * unitInLastPlace x = 2 ^ (Int.log 2 x - 52 + k) := by
  unfold unitInLastPlace
  rw [zpow_add₀ (by norm_num), zpow_natCast]
  push_cast
  ring

theorem roundMagnitude_le_pow (x : ℚ) : roundMagnitude x ≤ 2 ^ (Int.log 2 x + 1) := by
  have hscale := scale_unitInLastPlace x 53
  have hlt : x < 2 ^ (Int.log 2 x + 1) := Int.lt_zpow_succ_log_self (by norm_num) x
  rw [show Int.log 2 x - 52 + (53 : ℕ) = Int.log 2 x + 1 by push_cast; ring] at hscale
  have hround : roundEven (x / unitInLastPlace x) ≤ 2 ^ 53 := by
    refine roundEven_le ?_
    rw [div_le_iff₀ (unitInLastPlace_pos x), hscale]
    exact hlt.le
  rw [← hscale]
  exact mul_le_mul_of_nonneg_right (by exact_mod_cast hround) (unitInLastPlace_pos x).le

theorem pow_le_roundMagnitude {x : ℚ} (hx : 0 < x) : 2 ^ Int.log 2 x ≤ roundMagnitude x := by
  have hscale := scale_unitInLastPlace x 52
  have hle : (2 : ℚ) ^ Int.log 2 x ≤ x := Int.zpow_log_le_self (by norm_num) hx
  rw [show Int.log 2 x - 52 + (52 : ℕ) = Int.log 2 x by push_cast; ring] at hscale
  have hround : 2 ^ 52 ≤ roundEven (x / unitInLastPlace x) := by
    refine le_roundEven ?_
    rw [le_div_iff₀ (unitInLastPlace_pos x), hscale]
    exact hle
  rw [← hscale]
  exact mul_le_mul_of_nonneg_right (by exact_mod_cast hround) (unitInLastPlace_pos x).le

theorem roundMagnitude_pos {x : ℚ} (hx : 0 < x) : 0 < roundMagnitude x :=
  (zpow_pos (by norm_num) _).trans_le (pow_le_roundMagnitude hx)

@[simp] theorem roundMagnitude_zero : roundMagnitude 0 = 0 := by
  unfold roundMagnitude
  rw [zero_div, ← Int.cast_zero, roundEven_intCast]
  simp

theorem roundMagnitude_mono {x y : ℚ} (hx : 0 ≤ x) (h : x ≤ y) :
    roundMagnitude x ≤ roundMagnitude y := by
  rcases hx.eq_or_lt with rfl | hpos
  · rcases h.eq_or_lt with rfl | hy
    · exact le_rfl
    · rw [roundMagnitude_zero]
      exact (roundMagnitude_pos hy).le
  rcases (Int.log_mono_right hpos h : Int.log 2 x ≤ Int.log 2 y).eq_or_lt with heq | hlt
  · have hulp : unitInLastPlace x = unitInLastPlace y := by
      unfold unitInLastPlace
      rw [heq]
    unfold roundMagnitude
    rw [hulp]
    have hround := roundEven_mono (div_le_div_of_nonneg_right h (unitInLastPlace_pos y).le)
    exact mul_le_mul_of_nonneg_right (by exact_mod_cast hround) (unitInLastPlace_pos y).le
  · calc roundMagnitude x ≤ 2 ^ (Int.log 2 x + 1) := roundMagnitude_le_pow x
      _ ≤ 2 ^ Int.log 2 y := zpow_le_zpow_right₀ (by norm_num) hlt
      _ ≤ roundMagnitude y := pow_le_roundMagnitude (hpos.trans_le h)

theorem roundMagnitude_eq_of_lt {m : ℕ} (e : ℤ) (hm : m < 2 ^ 53) :
    roundMagnitude (m * 2 ^ e) = m * 2 ^ e := by
  rcases Nat.eq_zero_or_pos m with rfl | hpos
  · simp
  have hx : (0 : ℚ) < m * 2 ^ e := by positivity
  have hlog : Int.log 2 ((m : ℚ) * 2 ^ e) < 53 + e := by
    rw [← Int.lt_zpow_iff_log_lt (by norm_num) hx, Nat.cast_ofNat, zpow_add₀ (by norm_num)]
    exact mul_lt_mul_of_pos_right (by exact_mod_cast hm) (by positivity)
  -- the unit is a power of two that divides the number
  obtain ⟨k, hk⟩ := Int.eq_ofNat_of_zero_le
    (show 0 ≤ e - (Int.log 2 ((m : ℚ) * 2 ^ e) - 52) by omega)
  have hdiv : (m : ℚ) * 2 ^ e / unitInLastPlace (m * 2 ^ e) = ((m * 2 ^ k : ℤ) : ℚ) := by
    unfold unitInLastPlace
    rw [mul_div_assoc, ← zpow_sub₀ (by norm_num), hk, zpow_natCast]
    push_cast
    rfl
  unfold roundMagnitude
  rw [hdiv, roundEven_intCast, ← hdiv, div_mul_cancel₀ _ (unitInLastPlace_pos _).ne']

theorem roundMagnitude_eq {m : ℕ} (e : ℤ) (hm : m ≤ 2 ^ 53) :
    roundMagnitude (m * 2 ^ e) = m * 2 ^ e := by
  rcases hm.eq_or_lt with rfl | hlt
  · have hhalf := roundMagnitude_eq_of_lt (m := 2 ^ 52) (e + 1) (by norm_num)
    have hsame : ((2 ^ 52 : ℕ) : ℚ) * 2 ^ (e + 1) = ((2 ^ 53 : ℕ) : ℚ) * 2 ^ e := by
      rw [zpow_add_one₀ (by norm_num)]
      push_cast
      ring
    rwa [hsame] at hhalf
  · exact roundMagnitude_eq_of_lt e hlt

theorem abs_roundMagnitude_sub_le (x : ℚ) :
    |roundMagnitude x - x| ≤ unitInLastPlace x / 2 := by
  have hpos := unitInLastPlace_pos x
  have herror := abs_roundEven_sub_le (x / unitInLastPlace x)
  have hsplit : roundMagnitude x - x =
      (roundEven (x / unitInLastPlace x) - x / unitInLastPlace x) * unitInLastPlace x := by
    unfold roundMagnitude
    rw [sub_mul, div_mul_cancel₀ _ hpos.ne']
  rw [hsplit, abs_mul, abs_of_pos hpos]
  calc _ ≤ 1 / 2 * unitInLastPlace x := mul_le_mul_of_nonneg_right herror hpos.le
    _ = unitInLastPlace x / 2 := by ring

theorem roundNearest_mono {x y : ℚ} (h : x ≤ y) : roundNearest x ≤ roundNearest y := by
  unfold roundNearest
  split_ifs with hx hy hy
  · exact neg_le_neg (roundMagnitude_mono (by linarith) (by linarith))
  · have hneg := roundMagnitude_mono le_rfl (show (0 : ℚ) ≤ -x by linarith)
    have hpos := roundMagnitude_mono le_rfl (not_lt.mp hy)
    rw [roundMagnitude_zero] at hneg hpos
    linarith
  · linarith
  · exact roundMagnitude_mono (not_lt.mp hx) h

theorem roundNearest_neg (x : ℚ) : roundNearest (-x) = -roundNearest x := by
  unfold roundNearest
  rcases lt_trichotomy x 0 with hx | rfl | hx
  · rw [if_neg (by linarith), if_pos hx, neg_neg]
  · simp
  · rw [if_pos (by linarith), if_neg hx.not_gt, neg_neg]

theorem roundNearest_eq {m : ℤ} (e : ℤ) (hm : |m| ≤ 2 ^ 53) :
    roundNearest (m * 2 ^ e) = m * 2 ^ e := by
  have hpow : (0 : ℚ) < 2 ^ e := by positivity
  have hbits : m.natAbs ≤ 2 ^ 53 := by
    have habs := Int.abs_eq_natAbs m
    omega
  have hround := roundMagnitude_eq e hbits
  rw [← Int.cast_natCast, Int.natCast_natAbs] at hround
  unfold roundNearest
  split_ifs with hneg
  · have hm' : m < 0 := by
      by_contra hnonneg
      have hcast : (0 : ℚ) ≤ m := by exact_mod_cast not_lt.mp hnonneg
      exact absurd hneg (not_lt.mpr (mul_nonneg hcast hpow.le))
    rw [abs_of_neg hm', Int.cast_neg, neg_mul] at hround
    rw [hround, neg_neg]
  · have hm' : 0 ≤ m := by
      by_contra hm'
      have hcast : (m : ℚ) < 0 := by exact_mod_cast not_le.mp hm'
      exact hneg (mul_neg_of_neg_of_pos hcast hpow)
    rw [abs_of_nonneg hm'] at hround
    exact hround

theorem roundNearest_le {x : ℚ} {m : ℤ} (k : ℕ) (hm : |m| ≤ 2 ^ 53) (h : x ≤ m / 2 ^ k) :
    roundNearest x ≤ m / 2 ^ k := by
  have hfixed := roundNearest_eq (-k) hm
  rw [zpow_neg, zpow_natCast, ← div_eq_mul_inv] at hfixed
  rw [← hfixed]
  exact roundNearest_mono h

theorem le_roundNearest {x : ℚ} {m : ℤ} (k : ℕ) (hm : |m| ≤ 2 ^ 53) (h : m / 2 ^ k ≤ x) :
    m / 2 ^ k ≤ roundNearest x := by
  have hfixed := roundNearest_eq (-k) hm
  rw [zpow_neg, zpow_natCast, ← div_eq_mul_inv] at hfixed
  rw [← hfixed]
  exact roundNearest_mono h

theorem roundNearest_intCast {n : ℤ} (hn : |n| ≤ 2 ^ 53) : roundNearest n = n := by
  simpa using roundNearest_eq 0 hn

theorem lt_roundNearest_of_gap (gap : ℚ) {x c : ℚ} (hc : 0 ≤ c) (hgap : 0 < gap) (h : c + gap ≤ x)
    (hx : x ≤ 2 ^ 53 * gap) : c < roundNearest x := by
  have hpos : 0 < x := by linarith
  rw [roundNearest, if_neg hpos.not_gt]
  rcases lt_or_ge c (2 ^ Int.log 2 x) with hbelow | habove
  · exact hbelow.trans_le (pow_le_roundMagnitude hpos)
  · have herror := (abs_le.mp (abs_roundMagnitude_sub_le x)).1
    have hunit : unitInLastPlace x / 2 * 2 ^ 53 = 2 ^ Int.log 2 x := by
      have hscale := scale_unitInLastPlace x 52
      rw [show Int.log 2 x - 52 + (52 : ℕ) = Int.log 2 x by norm_num] at hscale
      rw [← hscale]
      push_cast
      ring
    linarith

end Statora.Library
