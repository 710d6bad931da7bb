import Mathlib.Data.Nat.Digits.Defs

/-!
# Numerals

A list of digits, the most significant first, stands for a number. Digits of a
fixed number of places are determined by it.
-/

namespace Statora.Library
variable {base width value : ℕ} {digits digits' : List ℕ}

def numberOf (base : ℕ) (digits : List ℕ) : ℕ := Nat.ofDigits base digits.reverse

theorem foldl_eq_numberOf (base : ℕ) (digits : List ℕ) :
    digits.foldl (fun value digit => base * value + digit) 0 = numberOf base digits := by
  rw [numberOf, Nat.ofDigits_eq_foldr, List.foldr_reverse]
  simp only [Nat.cast_id, Nat.add_comm]

theorem numberOf_concat (base digit : ℕ) (digits : List ℕ) :
    numberOf base (digits ++ [digit]) = base * numberOf base digits + digit := by
  simp [← foldl_eq_numberOf]

theorem numberOf_lt (hbase : 1 < base) (h : ∀ digit ∈ digits, digit < base) :
    numberOf base digits < base ^ digits.length := by
  rw [← List.length_reverse]
  refine Nat.ofDigits_lt_base_pow_length hbase fun digit hdigit => ?_
  exact h digit (List.mem_reverse.mp hdigit)

structure IsNumeral (base width value : ℕ) (digits : List ℕ) : Prop where
  length : digits.length = width
  lt : ∀ digit ∈ digits, digit < base
  numberOf_eq : numberOf base digits = value

theorem IsNumeral.unique (hbase : 1 < base) (h : IsNumeral base width value digits)
    (h' : IsNumeral base width value digits') : digits = digits' := by
  have hreverse : digits.reverse = digits'.reverse := by
    refine Nat.ofDigits_inj_of_len_eq hbase ?_ (fun digit hdigit => ?_) (fun digit hdigit => ?_) ?_
    · rw [List.length_reverse, List.length_reverse, h.length, h'.length]
    · exact h.lt digit (List.mem_reverse.mp hdigit)
    · exact h'.lt digit (List.mem_reverse.mp hdigit)
    · exact h.numberOf_eq.trans h'.numberOf_eq.symm
  exact List.reverse_inj.mp hreverse

theorem isNumeral_nil (base value : ℕ) : IsNumeral base 0 (value % base ^ 0) [] := by
  refine ⟨rfl, List.forall_mem_nil _, ?_⟩
  rw [Nat.pow_zero, Nat.mod_one]
  rfl

theorem IsNumeral.concat (hbase : 0 < base)
    (h : IsNumeral base width (value / base % base ^ width) digits) :
    IsNumeral base (width + 1) (value % base ^ (width + 1)) (digits ++ [value % base]) := by
  refine ⟨by rw [List.length_append, h.length, List.length_singleton], fun digit hdigit => ?_, ?_⟩
  · rcases List.mem_append.mp hdigit with hdigit | hlast
    · exact h.lt digit hdigit
    · rw [List.mem_singleton.mp hlast]
      exact Nat.mod_lt value hbase
  · rw [numberOf_concat, h.numberOf_eq, Nat.pow_succ', Nat.mod_mul, Nat.add_comm]

theorem eq_replicate_of_numberOf_eq_zero (hbase : 1 < base) (h : ∀ digit ∈ digits, digit < base)
    (hzero : numberOf base digits = 0) : digits = List.replicate digits.length 0 := by
  refine IsNumeral.unique hbase ⟨rfl, h, hzero⟩ ⟨List.length_replicate, fun digit hdigit => ?_, ?_⟩
  · rw [(List.mem_replicate.mp hdigit).2]
    omega
  · rw [numberOf, List.reverse_replicate, Nat.ofDigits_replicate_zero]

def digitValue (c : Char) : ℕ := c.toNat - '0'.toNat

structure IsDecimal (width value : ℕ) (text : List Char) : Prop where
  isDigit : ∀ c ∈ text, c.isDigit = true
  numeral : IsNumeral 10 width value (text.map digitValue)

theorem isDigit_iff {c : Char} : c.isDigit = true ↔ 48 ≤ c.toNat ∧ c.toNat ≤ 57 := by
  rw [Char.isDigit, Bool.and_eq_true, decide_eq_true_eq, decide_eq_true_eq]
  rfl

theorem digitValue_inj {c d : Char} (hc : c.isDigit = true) (hd : d.isDigit = true)
    (h : digitValue c = digitValue d) : c = d := by
  have hc := isDigit_iff.mp hc
  have hd := isDigit_iff.mp hd
  have hzero : '0'.toNat = 48 := rfl
  unfold digitValue at h
  exact Char.toNat_inj.mp (by omega)

theorem map_digitValue_inj {text text' : List Char} (h : ∀ c ∈ text, c.isDigit = true)
    (h' : ∀ c ∈ text', c.isDigit = true) (heq : text.map digitValue = text'.map digitValue) :
    text = text' := by
  induction text generalizing text' with
  | nil => exact (List.map_eq_nil_iff.mp heq.symm).symm
  | cons c text ih =>
    cases text' with
    | nil => cases heq
    | cons d text' =>
      obtain ⟨hc, htext⟩ := List.forall_mem_cons.mp h
      obtain ⟨hd, htext'⟩ := List.forall_mem_cons.mp h'
      obtain ⟨hfirst, hrest⟩ := List.cons.inj heq
      rw [digitValue_inj hc hd hfirst, ih htext htext' hrest]

theorem IsDecimal.unique {text text' : List Char} (h : IsDecimal width value text)
    (h' : IsDecimal width value text') : text = text' :=
  map_digitValue_inj h.isDigit h'.isDigit (h.numeral.unique (by decide) h'.numeral)

theorem numberOf_map_digitValue (text : List Char) :
    numberOf 10 (text.map digitValue) = Nat.ofDigitChars 10 text 0 := by
  rw [← foldl_eq_numberOf, List.foldl_map, Nat.ofDigitChars_eq_foldl]
  rfl

theorem isDecimal_padded (hwidth : 0 < width) (h : value < 10 ^ width) : IsDecimal width value
    (List.replicate (width - (Nat.toDigits 10 value).length) '0' ++ Nat.toDigits 10 value) := by
  have hdigits : ∀ c ∈ List.replicate (width - (Nat.toDigits 10 value).length) '0' ++
      Nat.toDigits 10 value, c.isDigit = true := by
    intro c hc
    rcases List.mem_append.mp hc with hpad | hdigit
    · rw [(List.mem_replicate.mp hpad).2]
      rfl
    · exact Nat.isDigit_of_mem_toDigits (by decide) (by decide) hdigit
  have hlength := (Nat.length_toDigits_le_iff (by decide) hwidth).mpr h
  refine ⟨hdigits, ?_, fun digit hdigit => ?_, ?_⟩
  · rw [List.length_map, List.length_append, List.length_replicate]
    omega
  · obtain ⟨c, hc, rfl⟩ := List.mem_map.mp hdigit
    have hc := isDigit_iff.mp (hdigits c hc)
    have hzero : '0'.toNat = 48 := rfl
    unfold digitValue
    omega
  · rw [numberOf_map_digitValue, Nat.ofDigitChars_append, Nat.ofDigitChars_replicate_zero,
      Nat.mul_zero, Nat.ofDigitChars_ten_toDigits]

end Statora.Library
