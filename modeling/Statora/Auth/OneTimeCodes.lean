import Statora.Auth.Crypto
import Statora.Library.HOTP

/-!
# One-time codes

A code is accepted when it is the one-time password of the current period, of the
one before or of the one after. The digest is never read past its end.
-/

namespace Statora.Auth
open Library (numberOf dynamicTruncation IsNumeral IsDecimal IsHOTP)

def readBinaryCode (hash : List UInt8) : Option ℕ := do
  let last ← hash[hash.length - 1]?
  let offset := (last &&& 0x0f).toNat
  let byte₀ ← hash[offset]?
  let byte₁ ← hash[offset + 1]?
  let byte₂ ← hash[offset + 2]?
  let byte₃ ← hash[offset + 3]?
  return (byte₀ &&& 0x7f).toNat <<< 24 ||| byte₁.toNat <<< 16 ||| byte₂.toNat <<< 8 ||| byte₃.toNat

theorem readBinaryCode_toList (hash : Vector UInt8 20) :
    readBinaryCode hash.toList = some (binaryCode hash) := by
  have hoffset : (hash[19] &&& 0x0f).toNat ≤ 15 := toNat_and_le hash[19] 0x0f
  have hread : ∀ (k : ℕ) (hk : k < 20), hash.toList[k]? = some hash[k] := by
    intro k hk
    rw [List.getElem?_eq_getElem (by simpa using hk), Vector.getElem_toList]
  unfold readBinaryCode binaryCode
  rw [Vector.length_toList, hread 19 (by decide)]
  simp only [Option.bind_eq_bind, Option.bind_some]
  rw [hread _ (by omega), hread _ (by omega), hread _ (by omega), hread _ (by omega)]
  rfl

theorem or_shiftLeft_eq {a b c d : ℕ} (hb : b < 256) (hc : c < 256) (hd : d < 256) :
    a <<< 24 ||| b <<< 16 ||| c <<< 8 ||| d = ((a * 256 + b) * 256 + c) * 256 + d := by
  rw [Nat.or_assoc, Nat.or_assoc, ← Nat.shiftLeft_add_eq_or_of_lt (i := 8) hd,
    ← Nat.shiftLeft_add_eq_or_of_lt (i := 16) (by omega),
    ← Nat.shiftLeft_add_eq_or_of_lt (i := 24) (by omega)]
  omega

theorem take_four {l : List UInt8} {k : ℕ} (h : k + 3 < l.length) :
    (l.drop k).take 4 = [l[k], l[k + 1], l[k + 2], l[k + 3]] := by
  rw [List.drop_eq_getElem_cons (by omega), List.drop_eq_getElem_cons (by omega),
    List.drop_eq_getElem_cons (by omega), List.drop_eq_getElem_cons h]
  rfl

theorem toNat_and_low (byte mask : UInt8) (bits : ℕ) (h : mask.toNat = 2 ^ bits - 1) :
    (byte &&& mask).toNat = byte.toNat % 2 ^ bits := by
  rw [UInt8.toNat_and, h, Nat.and_two_pow_sub_one_eq_mod]

theorem numberOf_four (a b c d : ℕ) :
    numberOf 256 [a, b, c, d] = ((a * 256 + b) * 256 + c) * 256 + d := by
  rw [← Library.foldl_eq_numberOf]
  simp only [List.foldl_cons, List.foldl_nil]
  omega

theorem binaryCode_eq_dynamicTruncation (hash : Vector UInt8 20) :
    binaryCode hash = dynamicTruncation hash := by
  have hlast : hash.back = hash[19] := rfl
  have hoffset : (hash[19] &&& 0x0f).toNat = hash[19].toNat % 16 :=
    toNat_and_low hash[19] 0x0f 4 rfl
  have hbound : hash[19].toNat % 16 + 3 < hash.toList.length := by
    rw [Vector.length_toList]
    omega
  unfold binaryCode dynamicTruncation
  rw [hlast, take_four hbound]
  simp only [hoffset, Vector.getElem_toList, List.map_cons, List.map_nil]
  have hbyte₁ := hash[hash[19].toNat % 16 + 1].toNat_lt
  have hbyte₂ := hash[hash[19].toNat % 16 + 2].toNat_lt
  have hbyte₃ := hash[hash[19].toNat % 16 + 3].toNat_lt
  rw [numberOf_four, toNat_and_low _ 0x7f 7 rfl, or_shiftLeft_eq hbyte₁ hbyte₂ hbyte₃]
  omega

variable {c : Primitives} {secret : String} {key : List UInt8} {now : ℤ}

theorem isNumeral_bytesOf (counter : BitVec 64) :
    IsNumeral 256 8 counter.toNat ((bytesOf 8 counter.toNat).map UInt8.toNat) := by
  have hnumeral := isNumeral_digitsOf (show 0 < 256 by decide) 8 counter.toNat
  have hcounter : counter.toNat < 256 ^ 8 := counter.isLt
  rwa [← map_toNat_bytesOf, Nat.mod_eq_of_lt hcounter] at hnumeral

theorem eq_zeroPadded_iff {width value : ℕ} (hwidth : 0 < width) (h : value < 10 ^ width)
    (code : String) : zeroPadded width value = code ↔ IsDecimal width value code.toList := by
  have hpadded : IsDecimal width value (zeroPadded width value).toList := by
    unfold zeroPadded
    rw [String.toList_ofList]
    exact Library.isDecimal_padded hwidth h
  constructor
  · rintro rfl
    exact hpadded
  · exact fun hdecimal => String.toList_injective (hpadded.unique hdecimal)

def Decodes (secret : String) (key : List UInt8) : Prop :=
  decodeBase32 (String.ofList ((trimSpace secret).toList.map toUpper)) = some key

instance (secret : String) (key : List UInt8) : Decidable (Decodes secret key) :=
  inferInstanceAs (Decidable (_ = _))

theorem generateTOTPCode_eq_some_iff (hsecret : Decodes secret key) (at_ : ℤ) (code : String) :
    generateTOTPCode c secret at_ = some code ↔
      IsHOTP c.hmacSHA1 totpDigits key (BitVec.ofInt 64 ((unix at_).tdiv totpPeriodSeconds))
        code := by
  rw [Library.isHOTP_iff (isNumeral_bytesOf _), generateTOTPCode, hsecret]
  simp only [Option.map_some, Option.some.injEq]
  rw [binaryCode_eq_dynamicTruncation]
  exact eq_zeroPadded_iff (by decide) (Nat.mod_lt _ (by decide)) code

theorem generateTOTPCode_ne_none (hsecret : Decodes secret key) (at_ : ℤ) :
    generateTOTPCode c secret at_ ≠ none := by
  rw [generateTOTPCode, hsecret]
  exact Option.some_ne_none _

theorem matchesCode_iff (hsecret : Decodes secret key) (code : String) (offsets : List ℤ) :
    matchesCode c secret code now offsets = true ↔ ∃ offset ∈ offsets,
      generateTOTPCode c secret (now + offset * totpPeriodSeconds * second) = some code := by
  induction offsets with
  | nil => exact iff_of_false Bool.false_ne_true fun ⟨_, hoffset, _⟩ => List.not_mem_nil hoffset
  | cons offset offsets ih =>
    rw [List.exists_mem_cons_iff]
    cases hcode : generateTOTPCode c secret (now + offset * totpPeriodSeconds * second) with
    | none => exact absurd hcode (generateTOTPCode_ne_none hsecret _)
    | some expected =>
      rw [matchesCode_cons c offsets code hcode, Bool.or_eq_true, decide_eq_true_eq, ih,
        Option.some.injEq]

theorem unix_add (now seconds : ℤ) : unix (now + seconds * second) = unix now + seconds :=
  Int.add_mul_ediv_right now seconds (by decide)

theorem tdiv_unix_add {offset : ℤ} (h : 0 ≤ unix now + offset * totpPeriodSeconds) :
    (unix (now + offset * totpPeriodSeconds * second)).tdiv totpPeriodSeconds =
      unix now / totpPeriodSeconds + offset := by
  rw [unix_add, Int.tdiv_eq_ediv_of_nonneg h]
  exact Int.add_mul_ediv_right _ _ (by decide)

theorem verifyTOTPCode_eq_true_iff (hsecret : Decodes secret key) (hnow : 30 ≤ unix now)
    (code : String) : verifyTOTPCode c secret code now = true ↔ ∃ offset ∈ [(-1 : ℤ), 0, 1],
      IsHOTP c.hmacSHA1 totpDigits key (BitVec.ofInt 64 (unix now / totpPeriodSeconds + offset))
        (trimSpace code) := by
  have hperiod : ∀ offset ∈ [(-1 : ℤ), 0, 1], 0 ≤ unix now + offset * totpPeriodSeconds := by
    intro offset hoffset
    simp only [List.mem_cons, List.not_mem_nil, or_false] at hoffset
    unfold totpPeriodSeconds
    omega
  have hcodes : matchesCode c secret (trimSpace code) now [-1, 0, 1] = true ↔
      ∃ offset ∈ [(-1 : ℤ), 0, 1], IsHOTP c.hmacSHA1 totpDigits key
        (BitVec.ofInt 64 (unix now / totpPeriodSeconds + offset)) (trimSpace code) := by
    rw [matchesCode_iff hsecret]
    refine exists_congr fun offset => and_congr_right fun hoffset => ?_
    rw [generateTOTPCode_eq_some_iff hsecret, tdiv_unix_add (hperiod offset hoffset)]
  unfold verifyTOTPCode
  dsimp only
  split_ifs with hsize
  · refine iff_of_false id ?_
    rintro ⟨offset, -, hcode⟩
    exact hsize hcode.utf8ByteSize
  · exact hcodes

/-- No digest is read outside. For a secret that decodes, a code is accepted exactly when it
is, without the white space around it, the six-digit password of the counter of the period of
30 seconds, of the one before or of the one after. -/
theorem verifyTOTPCode_hotp (c : Primitives) (secret code : String) (key : List UInt8) (now : ℤ)
    (hsecret : Decodes secret key) (hnow : 30 ≤ unix now) :
    (∀ digest : Vector UInt8 20, readBinaryCode digest.toList = some (dynamicTruncation digest)) ∧
    (verifyTOTPCode c secret code now = true ↔
      ∃ counter ∈ [unix now / 30 - 1, unix now / 30, unix now / 30 + 1],
        IsHOTP c.hmacSHA1 6 key (BitVec.ofInt 64 counter) (trimSpace code)) := by
  refine ⟨fun digest => ?_, ?_⟩
  · rw [readBinaryCode_toList, binaryCode_eq_dynamicTruncation]
  · rw [verifyTOTPCode_eq_true_iff hsecret hnow]
    simp only [List.exists_mem_cons_iff, List.not_mem_nil, false_and, exists_false, or_false]
    rw [← sub_eq_add_neg, add_zero]
    rfl

/-- HMAC-SHA1 of the counters 0, 1 and 2 under the key 12345678901234567890. -/
def firstDigests (block : List UInt8) : Vector UInt8 20 :=
  if block = bytesOf 8 0 then
    #v[0xcc, 0x93, 0xcf, 0x18, 0x50, 0x8d, 0x94, 0x93, 0x4c, 0x64, 0xb6, 0x5d, 0x8b, 0xa7, 0x66,
      0x7f, 0xb7, 0xcd, 0xe4, 0xb0]
  else if block = bytesOf 8 1 then
    #v[0x75, 0xa4, 0x8a, 0x19, 0xd4, 0xcb, 0xe1, 0x00, 0x64, 0x4e, 0x8a, 0xc1, 0x39, 0x7e, 0xea,
      0x74, 0x7a, 0x2d, 0x33, 0xab]
  else
    #v[0x0b, 0xac, 0xb7, 0xfa, 0x08, 0x2f, 0xef, 0x30, 0x78, 0x22, 0x11, 0x93, 0x8b, 0xc1, 0xc5,
      0xe7, 0x04, 0x16, 0xff, 0x44]

def sharedSecret : Primitives where
  bcrypt _ password := password
  compareHashAndPassword hash password := hash = password
  gcmSeal _ _ _ := []
  gcmOpen _ _ _ := none
  hmacSHA1 _ := firstDigests
  sha256 _ := Vector.replicate 32 0
  lower := toLower

theorem verifyTOTPCode_hotp_second :
    ∃ counter ∈ [unix (59 * second) / 30 - 1, unix (59 * second) / 30, unix (59 * second) / 30 + 1],
      IsHOTP sharedSecret.hmacSHA1 6 "12345678901234567890".toUTF8.data.toList
        (BitVec.ofInt 64 counter) (trimSpace " 359152\n") :=
  (verifyTOTPCode_hotp sharedSecret "gezdgnbvgy3tqojqgezdgnbvgy3tqojq" " 359152\n"
    "12345678901234567890".toUTF8.data.toList (59 * second) (by decide +kernel)
    (by decide)).2.mp (by decide +kernel)

end Statora.Auth
