import Mathlib.Algebra.Order.Ring.Nat
import Mathlib.Data.List.Basic
import Statora.Library.Numerals
import Statora.Library.Trim

/-!
# Strings

The parts of the `strings` package that the services use.
-/

namespace Statora

def isSpace (c : Char) : Bool :=
  c = ' ' || ('\t' ≤ c && c ≤ '\r') || c = '\u0085' || c = '\u00A0' || c = '\u1680' ||
    ('\u2000' ≤ c && c ≤ '\u200A') || c = '\u2028' || c = '\u2029' || c = '\u202F' ||
    c = '\u205F' || c = '\u3000'

def trimSpace (s : String) : String :=
  String.ofList ((s.toList.dropWhile isSpace).reverse.dropWhile isSpace).reverse

theorem trimSpace_eq_trim (s : String) :
    trimSpace s = String.ofList (Library.trim isSpace s.toList) := rfl

theorem trimSpace_trimSpace (s : String) : trimSpace (trimSpace s) = trimSpace s := by
  rw [trimSpace_eq_trim, trimSpace_eq_trim, String.toList_ofList, Library.trim_trim]

/-- `unicode.ToLower`, up to letters whose lower case is not ASCII: besides A to
Z only the dotted capital I and the kelvin sign have an ASCII lower case. -/
def toLower (c : Char) : Char :=
  if c = '\u0130' then 'i' else if c = '\u212A' then 'k' else c.toLower

theorem toLower_of_not_isUpper {c : Char} (hdotted : c ≠ '\u0130') (hkelvin : c ≠ '\u212A')
    (hupper : c.isUpper = false) : toLower c = c := by
  rw [toLower, if_neg hdotted, if_neg hkelvin]
  exact dif_neg (of_decide_eq_false hupper)

theorem isUpper_cases {c : Char} (h : c.isUpper = true) : ∃ n < 26, c = Char.ofNat (65 + n) := by
  obtain ⟨hlow, hhigh⟩ : 65 ≤ c.toNat ∧ c.toNat ≤ 90 := of_decide_eq_true h
  refine ⟨c.toNat - 65, by omega, ?_⟩
  rw [Nat.add_sub_cancel' hlow, Char.ofNat_toNat]

theorem toLower_toLower (c : Char) : toLower (toLower c) = toLower c := by
  by_cases hdotted : c = '\u0130'
  · rw [hdotted]
    decide
  by_cases hkelvin : c = '\u212A'
  · rw [hkelvin]
    decide
  cases hupper : c.isUpper with
  | false =>
    have hsame := toLower_of_not_isUpper hdotted hkelvin hupper
    rw [hsame, hsame]
  | true =>
    obtain ⟨n, hn, rfl⟩ := isUpper_cases hupper
    have hletters : ∀ n < 26,
        toLower (toLower (Char.ofNat (65 + n))) = toLower (Char.ofNat (65 + n)) := by decide
    exact hletters n hn

theorem toLower_of_class {p : Char → Bool} (hdotted : p '\u0130' = false)
    (hkelvin : p '\u212A' = false) (hletters : ∀ n < 26, p (Char.ofNat (65 + n)) = false)
    {c : Char} (hc : p c = true) : toLower c = c := by
  have hne : ∀ d, p d = false → c ≠ d := by
    rintro d hd rfl
    exact Bool.false_ne_true (hd.symm.trans hc)
  refine toLower_of_not_isUpper (hne _ hdotted) (hne _ hkelvin) ?_
  cases hupper : c.isUpper with
  | false => rfl
  | true =>
    obtain ⟨n, hn, hletter⟩ := isUpper_cases hupper
    exact absurd hletter (hne _ (hletters n hn))

def hexDigit (c : Char) : Option ℕ :=
  if '0' ≤ c && c ≤ '9' then some (c.toNat - '0'.toNat)
  else if 'a' ≤ c && c ≤ 'f' then some (c.toNat - 'a'.toNat + 10)
  else if 'A' ≤ c && c ≤ 'F' then some (c.toNat - 'A'.toNat + 10)
  else none

def hexChar (digit : ℕ) : Char := "0123456789abcdef".toList.getD digit '0'

def hexDigits : ℕ → ℕ → List ℕ
  | 0, _ => []
  | n + 1, value => hexDigits n (value / 16) ++ [value % 16]

theorem hexDigit_hexChar : ∀ digit < 16, hexDigit (hexChar digit) = some digit := by decide

theorem mapM_hexDigit {digits : List ℕ} (h : ∀ digit ∈ digits, digit < 16) :
    (digits.map hexChar).mapM hexDigit = some digits := by
  induction digits with
  | nil => rfl
  | cons digit digits ih =>
    rw [List.forall_mem_cons] at h
    simp [hexDigit_hexChar digit h.1, ih h.2]

theorem isNumeral_hexDigits (n value : ℕ) :
    Library.IsNumeral 16 n (value % 16 ^ n) (hexDigits n value) := by
  induction n generalizing value with
  | zero => exact Library.isNumeral_nil 16 value
  | succ n ih => exact (ih (value / 16)).concat (by decide)

theorem hexDigits_lt {n value digit : ℕ} (h : digit ∈ hexDigits n value) : digit < 16 :=
  (isNumeral_hexDigits n value).lt digit h

theorem length_hexDigits (n value : ℕ) : (hexDigits n value).length = n :=
  (isNumeral_hexDigits n value).length

theorem foldl_hexDigits (n value : ℕ) :
    (hexDigits n value).foldl (fun value digit => 16 * value + digit) 0 = value % 16 ^ n := by
  rw [Library.foldl_eq_numberOf]
  exact (isNumeral_hexDigits n value).numberOf_eq

def fieldsFunc (separator : Char → Bool) (cs : List Char) : List (List Char) :=
  (cs.splitOnP separator).filter (fun part => !part.isEmpty)

end Statora
