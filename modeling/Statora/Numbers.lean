import Mathlib.Algebra.Ring.Int.Defs

/-!
# Machine integers

The type `int` has 64 bits. `strconv.Atoi` refuses what it cannot hold, and
arithmetic wraps around.
-/

namespace Statora

def maxInt : ℤ := 2 ^ 63 - 1

def minInt : ℤ := -2 ^ 63

/-- `strconv.Atoi`: an optional sign and decimal digits. -/
def atoi (s : String) : Option ℤ :=
  let parsed : Bool × List Char := match s.toList with
    | '-' :: digits => (true, digits)
    | '+' :: digits => (false, digits)
    | digits => (false, digits)
  if parsed.2 = [] || !parsed.2.all Char.isDigit then none
  else
    let magnitude : ℤ := Nat.ofDigitChars 10 parsed.2 0
    let value := if parsed.1 then -magnitude else magnitude
    if value < minInt || value > maxInt then none else some value

theorem atoi_bounds {s : String} {value : ℤ} (h : atoi s = some value) :
    minInt ≤ value ∧ value ≤ maxInt := by
  unfold atoi at h
  grind

/-- The value of a machine integer whose exact value is `x`. -/
def wrapInt (x : ℤ) : ℤ := Int.bmod x 18446744073709551616

theorem wrapInt_eq (x : ℤ) : wrapInt x =
    if x % 18446744073709551616 ≤ maxInt then x % 18446744073709551616
    else x % 18446744073709551616 - 18446744073709551616 := by
  unfold wrapInt maxInt
  rw [Int.bmod_def]
  split_ifs <;> omega

theorem wrapInt_of_le {x : ℤ} (h : 0 ≤ x) (h' : x ≤ maxInt) : wrapInt x = x := by
  have hmod : x % 18446744073709551616 = x := by
    unfold maxInt at h'
    exact Int.emod_eq_of_lt h (by omega)
  rw [wrapInt_eq, hmod, if_pos h']

theorem wrapInt_le_maxInt (x : ℤ) : wrapInt x ≤ maxInt := by
  have hlt := Int.emod_lt_of_pos x (show (0 : ℤ) < 18446744073709551616 by decide)
  rw [wrapInt_eq]
  split_ifs with hlow
  · exact hlow
  · unfold maxInt
    omega

theorem wrapInt_neg {x : ℤ} (h : maxInt < x) (h' : x < 18446744073709551616) : wrapInt x < 0 := by
  have hpos : 0 ≤ x := by
    unfold maxInt at h
    omega
  rw [wrapInt_eq, Int.emod_eq_of_lt hpos h', if_neg (by omega)]
  omega

end Statora
