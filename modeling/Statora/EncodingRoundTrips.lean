import Statora.Encoding

/-!
# Decoding what was encoded

Base64 and base32 give back the bytes. A last group that is not full is the full group
with zero bytes after it: its last digits are zero, and the decoder puts them back.
-/

namespace Statora

theorem valueOf_digitsOf {base n value : ℕ} (hbase : 0 < base) (h : value < base ^ n) :
    valueOf base (digitsOf base n value) = value := by
  unfold valueOf
  rw [Library.foldl_eq_numberOf, (isNumeral_digitsOf hbase n value).numberOf_eq,
    Nat.mod_eq_of_lt h]

theorem digitsOf_lt {base n value digit : ℕ} (hbase : 0 < base)
    (h : digit ∈ digitsOf base n value) : digit < base :=
  (isNumeral_digitsOf hbase n value).lt digit h

theorem valueOfBytes_lt (bytes : List UInt8) : valueOfBytes bytes < 256 ^ bytes.length := by
  have hlength : bytes.length = (bytes.map UInt8.toNat).length := (List.length_map _).symm
  unfold valueOfBytes valueOf
  rw [Library.foldl_eq_numberOf, hlength]
  refine Library.numberOf_lt (by decide) fun digit hdigit => ?_
  obtain ⟨byte, -, rfl⟩ := List.mem_map.mp hdigit
  exact byte.toNat_lt

theorem bytesOf_valueOfBytes (bytes : List UInt8) :
    bytesOf bytes.length (valueOfBytes bytes) = bytes := by
  have hdigits : digitsOf 256 bytes.length (valueOfBytes bytes) = bytes.map UInt8.toNat := by
    have hnumeral := isNumeral_digitsOf (show 0 < 256 by decide) bytes.length (valueOfBytes bytes)
    rw [Nat.mod_eq_of_lt (valueOfBytes_lt bytes)] at hnumeral
    refine hnumeral.unique (by decide) ⟨List.length_map _, fun digit hdigit => ?_, ?_⟩
    · obtain ⟨byte, -, rfl⟩ := List.mem_map.mp hdigit
      exact byte.toNat_lt
    · rw [← Library.foldl_eq_numberOf]
      rfl
  unfold bytesOf
  rw [hdigits, List.map_map]
  exact (List.map_congr_left fun byte _ => UInt8.ofNat_toNat).trans (List.map_id bytes)

theorem length_digitsOf (base n value : ℕ) : (digitsOf base n value).length = n := by
  simp [digitsOf]

theorem valueOfBytes_concat (bytes : List UInt8) (byte : UInt8) :
    valueOfBytes (bytes ++ [byte]) = 256 * valueOfBytes bytes + byte.toNat := by
  unfold valueOfBytes valueOf
  rw [List.map_append, List.foldl_append]
  rfl

theorem valueOfBytes_append_zeros (bytes : List UInt8) (k : ℕ) :
    valueOfBytes (bytes ++ List.replicate k 0) = valueOfBytes bytes * 256 ^ k := by
  induction k with
  | zero => simp
  | succ k ih =>
    rw [List.replicate_succ', ← List.append_assoc, valueOfBytes_concat, ih, Nat.pow_succ]
    change 256 * (valueOfBytes bytes * 256 ^ k) + 0 = _
    ring

theorem digitsOf_mul (base n k value : ℕ) (hbase : 0 < base) :
    digitsOf base (n + k) (value * base ^ k) = digitsOf base n value ++ List.replicate k 0 := by
  induction k with
  | zero => simp
  | succ k ih =>
    rw [← Nat.add_assoc, digitsOf_succ, Nat.pow_succ, ← Nat.mul_assoc, Nat.mul_div_cancel _ hbase,
      ih, Nat.mul_mod_left, List.append_assoc, ← List.replicate_succ']

theorem digitsOf_of_dvd {base n k value : ℕ} (hbase : 0 < base) (hk : k ≤ n)
    (h : base ^ k ∣ value) : digitsOf base n value =
      (digitsOf base n value).take (n - k) ++ List.replicate k 0 := by
  obtain ⟨m, rfl⟩ := h
  obtain ⟨first, rfl⟩ := Nat.exists_eq_add_of_le' hk
  rw [Nat.mul_comm, digitsOf_mul base first k m hbase, Nat.add_sub_cancel]
  rw [List.take_left' (length_digitsOf base first m)]

theorem mapM_findIdx_alphabet {alphabet : List Char} {default : Char} {digits : List ℕ}
    (halphabet : ∀ digit < alphabet.length,
      alphabet.findIdx? (· = alphabet.getD digit default) = some digit)
    (h : ∀ digit ∈ digits, digit < alphabet.length) :
    (digits.map fun digit => alphabet.getD digit default).mapM
      (fun c => alphabet.findIdx? (· = c)) = some digits := by
  induction digits with
  | nil => rfl
  | cons digit digits ih =>
    rw [List.forall_mem_cons] at h
    rw [List.map_cons, List.mapM_cons, halphabet digit h.1, ih h.2]
    rfl

theorem getD_mem {alphabet : List Char} {default : Char} {digit : ℕ} (h : digit < alphabet.length) :
    alphabet.getD digit default ∈ alphabet := by
  rw [List.getD_eq_getElem?_getD, List.getElem?_eq_getElem h]
  exact List.getElem_mem h

theorem findIdx_base64Alphabet : ∀ digit < base64Alphabet.length,
    base64Alphabet.findIdx? (· = base64Alphabet.getD digit '=') = some digit := by
  decide +kernel

theorem base64Bytes_base64Chars (bytes : List UInt8) (h : bytes.length = 3) :
    base64Bytes (base64Chars bytes) = some bytes := by
  unfold base64Bytes base64Chars
  have hlength : base64Alphabet.length = 64 := by decide
  rw [mapM_findIdx_alphabet findIdx_base64Alphabet fun digit hdigit => by
    rw [hlength]
    exact digitsOf_lt (by decide) hdigit]
  have hvalue : valueOfBytes bytes < 64 ^ 4 := by
    have hlt := valueOfBytes_lt bytes
    rwa [h] at hlt
  rw [Option.map_some, valueOf_digitsOf (by decide) hvalue, ← h, bytesOf_valueOfBytes]

theorem length_base64Chars (bytes : List UInt8) : (base64Chars bytes).length = 4 := by
  simp [base64Chars, digitsOf]

theorem mem_base64Chars {bytes : List UInt8} {c : Char} (h : c ∈ base64Chars bytes) :
    c ∈ base64Alphabet := by
  obtain ⟨digit, hdigit, rfl⟩ := List.mem_map.mp h
  have hlength : base64Alphabet.length = 64 := by decide
  refine getD_mem ?_
  rw [hlength]
  exact digitsOf_lt (by decide) hdigit

theorem padding_not_mem : '=' ∉ base64Alphabet := by decide

theorem exists_base64Chars (bytes : List UInt8) : ∃ w x y z, base64Chars bytes = [w, x, y, z] ∧
    w ≠ '=' ∧ x ≠ '=' ∧ y ≠ '=' ∧ z ≠ '=' := by
  have hlength := length_base64Chars bytes
  match hchars : base64Chars bytes, hlength with
  | [w, x, y, z], _ =>
    have hne : ∀ c ∈ base64Chars bytes, c ≠ '=' := by
      rintro c hc rfl
      exact padding_not_mem (mem_base64Chars hc)
    rw [hchars] at hne
    simp only [List.forall_mem_cons] at hne
    exact ⟨w, x, y, z, rfl, hne.1, hne.2.1, hne.2.2.1, hne.2.2.2.1⟩

theorem decodeBase64Chars_full {w x y z : Char} (hy : y ≠ '=') (hz : z ≠ '=')
    (rest : List Char) : decodeBase64Chars (w :: x :: y :: z :: rest) =
      (base64Bytes [w, x, y, z]).bind fun bytes =>
        (decodeBase64Chars rest).map (bytes ++ ·) := by
  rw [decodeBase64Chars.eq_def]
  split
  · next heq => cases heq
  · next heq =>
    cases heq
    exact absurd rfl hz
  · next heq =>
    cases heq
    exact absurd rfl hz
  · next heq =>
    cases heq
    cases base64Bytes [w, x, y, z] with
    | none => rfl
    | some bytes => cases decodeBase64Chars rest <;> rfl
  · next hother => exact absurd rfl (hother w x y z rest)

theorem base64Chars_zeros (bytes : List UInt8) {k : ℕ} (hk : k ≤ 4) :
    base64Chars (bytes ++ List.replicate k 0) =
      (base64Chars (bytes ++ List.replicate k 0)).take (4 - k) ++ List.replicate k 'A' := by
  have hdvd : 64 ^ k ∣ valueOfBytes (bytes ++ List.replicate k 0) := by
    rw [valueOfBytes_append_zeros]
    exact Dvd.dvd.mul_left (pow_dvd_pow_of_dvd (by decide) k) _
  unfold base64Chars
  rw [← List.map_take]
  conv_lhs => rw [digitsOf_of_dvd (by decide) hk hdvd]
  rw [List.map_append, List.map_replicate]
  rfl

theorem decodeBase64Chars_padded {w x y : Char} (hy : y ≠ '=') :
    decodeBase64Chars [w, x, y, '='] = (base64Bytes [w, x, y, 'A']).map (·.take 2) := by
  rw [decodeBase64Chars.eq_def]
  split
  · next heq => cases heq
  · next heq =>
    cases heq
    exact absurd rfl hy
  · next heq =>
    cases heq
    rfl
  · next hother heq =>
    cases heq
    exact absurd rfl (hother rfl)
  · next hother => exact absurd rfl (hother w x y '=' [])

theorem decodeBase64Chars_twicePadded (w x : Char) :
    decodeBase64Chars [w, x, '=', '='] = (base64Bytes [w, x, 'A', 'A']).map (·.take 1) := rfl

theorem decodeBase64Chars_encodeBase64Chars (bytes : List UInt8) :
    decodeBase64Chars (encodeBase64Chars bytes) = some bytes := by
  fun_induction encodeBase64Chars bytes with
  | case1 a b c rest ih =>
    obtain ⟨w, x, y, z, hchars, -, -, hy, hz⟩ := exists_base64Chars [a, b, c]
    have hbytes := base64Bytes_base64Chars [a, b, c] rfl
    rw [hchars] at hbytes ⊢
    change decodeBase64Chars (w :: x :: y :: z :: encodeBase64Chars rest) = _
    rw [decodeBase64Chars_full hy hz, hbytes, ih]
    rfl
  | case2 a b =>
    obtain ⟨w, x, y, z, hchars, -, -, hy, -⟩ := exists_base64Chars [a, b, 0]
    have hzeros := base64Chars_zeros [a, b] (k := 1) (by decide)
    have hbytes := base64Bytes_base64Chars [a, b, 0] rfl
    change base64Chars [a, b, 0] = (base64Chars [a, b, 0]).take 3 ++ ['A'] at hzeros
    rw [hchars] at hzeros hbytes ⊢
    obtain rfl : z = 'A' := by simpa using hzeros
    change decodeBase64Chars [w, x, y, '='] = _
    rw [decodeBase64Chars_padded hy, hbytes]
    rfl
  | case3 a =>
    obtain ⟨w, x, y, z, hchars, -⟩ := exists_base64Chars [a, 0, 0]
    have hzeros := base64Chars_zeros [a] (k := 2) (by decide)
    have hbytes := base64Bytes_base64Chars [a, 0, 0] rfl
    change base64Chars [a, 0, 0] = (base64Chars [a, 0, 0]).take 2 ++ ['A', 'A'] at hzeros
    rw [hchars] at hzeros hbytes ⊢
    obtain ⟨rfl, rfl⟩ : y = 'A' ∧ z = 'A' := by simpa using hzeros
    change decodeBase64Chars [w, x, '=', '='] = _
    rw [decodeBase64Chars_twicePadded, hbytes]
    rfl
  | case4 => rfl

theorem mem_encodeBase64Chars {bytes : List UInt8} {c : Char} (h : c ∈ encodeBase64Chars bytes) :
    c ∈ base64Alphabet ∨ c = '=' := by
  fun_induction encodeBase64Chars bytes with
  | case1 a b d rest ih =>
    rcases List.mem_append.mp h with hgroup | hrest
    · exact .inl (mem_base64Chars hgroup)
    · exact ih hrest
  | case2 a b =>
    rcases List.mem_append.mp h with hgroup | hpadding
    · exact .inl (mem_base64Chars (List.mem_of_mem_take hgroup))
    · exact .inr (List.mem_singleton.mp hpadding)
  | case3 a =>
    rcases List.mem_append.mp h with hgroup | hpadding
    · exact .inl (mem_base64Chars (List.mem_of_mem_take hgroup))
    · exact .inr (by simpa using hpadding)
  | case4 => cases h

theorem not_lineBreak_of_mem {alphabet : List Char}
    (h : alphabet.all (fun c => c ≠ '\r' && c ≠ '\n') = true) {c : Char} (hc : c ∈ alphabet) :
    c ≠ '\r' ∧ c ≠ '\n' := by
  simpa using List.all_eq_true.mp h c hc

theorem withoutLineBreaks_ofList {cs : List Char} (h : ∀ c ∈ cs, c ≠ '\r' ∧ c ≠ '\n') :
    withoutLineBreaks (String.ofList cs) = cs := by
  unfold withoutLineBreaks
  rw [String.toList_ofList, List.filter_eq_self]
  intro c hc
  simp [h c hc]

theorem decodeBase64_encodeBase64 (bytes : List UInt8) :
    decodeBase64 (encodeBase64 bytes) = some bytes := by
  unfold decodeBase64 encodeBase64
  rw [withoutLineBreaks_ofList, decodeBase64Chars_encodeBase64Chars]
  intro c hc
  rcases mem_encodeBase64Chars hc with hletter | rfl
  · exact not_lineBreak_of_mem (by decide) hletter
  · exact ⟨by decide, by decide⟩

theorem findIdx_base32Alphabet : ∀ digit < base32Alphabet.length,
    base32Alphabet.findIdx? (· = base32Alphabet.getD digit 'A') = some digit := by
  decide +kernel

def base32Digits (bytes : List UInt8) : List ℕ := digitsOf 32 8 (valueOfBytes bytes)

theorem length_base32Digits (bytes : List UInt8) : (base32Digits bytes).length = 8 :=
  length_digitsOf 32 8 _

theorem bytesOf_base32Digits (bytes : List UInt8) (h : bytes.length = 5) :
    bytesOf 5 (valueOf 32 (base32Digits bytes)) = bytes := by
  have hvalue : valueOfBytes bytes < 32 ^ 8 := by
    have hlt := valueOfBytes_lt bytes
    rwa [h] at hlt
  unfold base32Digits
  rw [valueOf_digitsOf (by decide) hvalue, ← h, bytesOf_valueOfBytes]

def encodedDigits : List UInt8 → List ℕ
  | a :: b :: c :: d :: e :: rest => base32Digits [a, b, c, d, e] ++ encodedDigits rest
  | [a, b, c, d] => (base32Digits [a, b, c, d, 0]).take 7
  | [a, b, c] => (base32Digits [a, b, c, 0, 0]).take 5
  | [a, b] => (base32Digits [a, b, 0, 0, 0]).take 4
  | [a] => (base32Digits [a, 0, 0, 0, 0]).take 2
  | [] => []

theorem encodeBase32Chars_eq (bytes : List UInt8) : encodeBase32Chars bytes =
    (encodedDigits bytes).map fun digit => base32Alphabet.getD digit 'A' := by
  fun_induction encodeBase32Chars bytes with
  | case1 a b c d e rest ih =>
    rw [ih, encodedDigits, List.map_append]
    rfl
  | case2 | case3 | case4 | case5 =>
    rw [encodedDigits, List.map_take]
    rfl
  | case6 => rfl

theorem encodedDigits_lt {bytes : List UInt8} {digit : ℕ} (h : digit ∈ encodedDigits bytes) :
    digit < base32Alphabet.length := by
  have hlength : base32Alphabet.length = 32 := by decide
  have hdigits : ∀ {group : List UInt8}, digit ∈ base32Digits group → digit < 32 :=
    digitsOf_lt (by decide)
  rw [hlength]
  fun_induction encodedDigits bytes with
  | case1 a b c d e rest ih => exact (List.mem_append.mp h).elim hdigits ih
  | case2 | case3 | case4 | case5 => exact hdigits (List.mem_of_mem_take h)
  | case6 => cases h

theorem base32Digits_zeros (bytes : List UInt8) {k n : ℕ} (hn : n ≤ 8) (h : 5 * n ≤ 8 * k) :
    base32Digits (bytes ++ List.replicate k 0) =
      (base32Digits (bytes ++ List.replicate k 0)).take (8 - n) ++ List.replicate n 0 := by
  have hdvd : 32 ^ n ∣ valueOfBytes (bytes ++ List.replicate k 0) := by
    rw [valueOfBytes_append_zeros, show (32 : ℕ) = 2 ^ 5 from rfl, show (256 : ℕ) = 2 ^ 8 from rfl,
      ← Nat.pow_mul, ← Nat.pow_mul]
    exact Dvd.dvd.mul_left (pow_dvd_pow 2 h) _
  exact digitsOf_of_dvd (by decide) hn hdvd

theorem base32Bytes_encodedDigits (bytes : List UInt8) :
    base32Bytes (encodedDigits bytes) = bytes := by
  have hgroup : ∀ group : List UInt8, group.length = 5 →
      ∃ s t u v w x y z, base32Digits group = [s, t, u, v, w, x, y, z] := by
    intro group _
    match hdigits : base32Digits group, length_base32Digits group with
    | [s, t, u, v, w, x, y, z], _ => exact ⟨s, t, u, v, w, x, y, z, rfl⟩
  fun_induction encodedDigits bytes with
  | case1 a b c d e rest ih =>
    obtain ⟨s, t, u, v, w, x, y, z, hdigits⟩ := hgroup [a, b, c, d, e] rfl
    have hbytes := bytesOf_base32Digits [a, b, c, d, e] rfl
    rw [hdigits] at hbytes ⊢
    change bytesOf 5 (valueOf 32 [s, t, u, v, w, x, y, z]) ++ base32Bytes (encodedDigits rest) = _
    rw [hbytes, ih]
    rfl
  | case2 a b c d =>
    obtain ⟨s, t, u, v, w, x, y, z, hdigits⟩ := hgroup [a, b, c, d, 0] rfl
    have hbytes := bytesOf_base32Digits [a, b, c, d, 0] rfl
    have hzeros := base32Digits_zeros [a, b, c, d] (k := 1) (n := 1) (by decide) (by decide)
    change base32Digits [a, b, c, d, 0] = (base32Digits [a, b, c, d, 0]).take 7 ++ [0] at hzeros
    rw [hdigits] at hzeros hbytes ⊢
    obtain rfl : z = 0 := by simpa using hzeros
    change (bytesOf 5 (valueOf 32 [s, t, u, v, w, x, y, 0])).take 4 = _
    rw [hbytes]
    rfl
  | case3 a b c =>
    obtain ⟨s, t, u, v, w, x, y, z, hdigits⟩ := hgroup [a, b, c, 0, 0] rfl
    have hbytes := bytesOf_base32Digits [a, b, c, 0, 0] rfl
    have hzeros := base32Digits_zeros [a, b, c] (k := 2) (n := 3) (by decide) (by decide)
    change base32Digits [a, b, c, 0, 0] =
      (base32Digits [a, b, c, 0, 0]).take 5 ++ [0, 0, 0] at hzeros
    rw [hdigits] at hzeros hbytes ⊢
    obtain ⟨rfl, rfl, rfl⟩ : x = 0 ∧ y = 0 ∧ z = 0 := by simpa using hzeros
    change (bytesOf 5 (valueOf 32 [s, t, u, v, w, 0, 0, 0])).take 3 = _
    rw [hbytes]
    rfl
  | case4 a b =>
    obtain ⟨s, t, u, v, w, x, y, z, hdigits⟩ := hgroup [a, b, 0, 0, 0] rfl
    have hbytes := bytesOf_base32Digits [a, b, 0, 0, 0] rfl
    have hzeros := base32Digits_zeros [a, b] (k := 3) (n := 4) (by decide) (by decide)
    change base32Digits [a, b, 0, 0, 0] =
      (base32Digits [a, b, 0, 0, 0]).take 4 ++ [0, 0, 0, 0] at hzeros
    rw [hdigits] at hzeros hbytes ⊢
    obtain ⟨rfl, rfl, rfl, rfl⟩ : w = 0 ∧ x = 0 ∧ y = 0 ∧ z = 0 := by simpa using hzeros
    change (bytesOf 5 (valueOf 32 [s, t, u, v, 0, 0, 0, 0])).take 2 = _
    rw [hbytes]
    rfl
  | case5 a =>
    obtain ⟨s, t, u, v, w, x, y, z, hdigits⟩ := hgroup [a, 0, 0, 0, 0] rfl
    have hbytes := bytesOf_base32Digits [a, 0, 0, 0, 0] rfl
    have hzeros := base32Digits_zeros [a] (k := 4) (n := 6) (by decide) (by decide)
    change base32Digits [a, 0, 0, 0, 0] =
      (base32Digits [a, 0, 0, 0, 0]).take 2 ++ [0, 0, 0, 0, 0, 0] at hzeros
    rw [hdigits] at hzeros hbytes ⊢
    obtain ⟨rfl, rfl, rfl, rfl, rfl, rfl⟩ :
        u = 0 ∧ v = 0 ∧ w = 0 ∧ x = 0 ∧ y = 0 ∧ z = 0 := by simpa using hzeros
    change (bytesOf 5 (valueOf 32 [s, t, 0, 0, 0, 0, 0, 0])).take 1 = _
    rw [hbytes]
    rfl
  | case6 => rfl

theorem mem_encodeBase32Chars {bytes : List UInt8} {c : Char} (h : c ∈ encodeBase32Chars bytes) :
    c ∈ base32Alphabet := by
  rw [encodeBase32Chars_eq] at h
  obtain ⟨digit, hdigit, rfl⟩ := List.mem_map.mp h
  exact getD_mem (encodedDigits_lt hdigit)

theorem decodeBase32_encodeBase32 (bytes : List UInt8) :
    decodeBase32 (encodeBase32 bytes) = some bytes := by
  unfold decodeBase32 encodeBase32
  rw [withoutLineBreaks_ofList fun c hc =>
      not_lineBreak_of_mem (by decide) (mem_encodeBase32Chars hc),
    encodeBase32Chars_eq, mapM_findIdx_alphabet findIdx_base32Alphabet fun _ => encodedDigits_lt,
    Option.map_some, base32Bytes_encodedDigits]

end Statora
