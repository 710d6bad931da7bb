import Mathlib.Data.List.Basic
import Statora.Library.Numerals

/-!
# Counter-based one-time passwords

A keyed digest of a counter of eight bytes gives the password: the low half of its last
byte says where four bytes are read, their first bit is dropped, and the last decimal
digits of the rest are the password.
-/

namespace Statora.Library
variable {mac : List UInt8 → List UInt8 → Vector UInt8 20} {width : ℕ} {key : List UInt8}
  {counter : BitVec 64} {password : String}

def dynamicTruncation (digest : Vector UInt8 20) : ℕ :=
  numberOf 256 (((digest.toList.drop (digest.back.toNat % 16)).take 4).map UInt8.toNat) % 2 ^ 31

def IsHOTP (mac : List UInt8 → List UInt8 → Vector UInt8 20) (width : ℕ) (key : List UInt8)
    (counter : BitVec 64) (password : String) : Prop :=
  ∃ block : List UInt8, IsNumeral 256 8 counter.toNat (block.map UInt8.toNat) ∧
    IsDecimal width (dynamicTruncation (mac key block) % 10 ^ width) password.toList

theorem isNumeral_bytes_unique {value : ℕ} {bytes bytes' : List UInt8}
    (h : IsNumeral 256 width value (bytes.map UInt8.toNat))
    (h' : IsNumeral 256 width value (bytes'.map UInt8.toNat)) : bytes = bytes' :=
  List.map_injective_iff.mpr (fun _ _ => UInt8.toNat_inj.mp) (h.unique (by decide) h')

theorem isHOTP_iff {block : List UInt8}
    (hblock : IsNumeral 256 8 counter.toNat (block.map UInt8.toNat)) :
    IsHOTP mac width key counter password ↔
      IsDecimal width (dynamicTruncation (mac key block) % 10 ^ width) password.toList := by
  constructor
  · rintro ⟨block', hblock', hdecimal⟩
    rwa [isNumeral_bytes_unique hblock hblock']
  · exact fun hdecimal => ⟨block, hblock, hdecimal⟩

theorem utf8ByteSize_of_isDigit {text : List Char} (h : ∀ c ∈ text, c.isDigit = true) :
    (String.ofList text).utf8ByteSize = text.length := by
  induction text with
  | nil => rfl
  | cons c text ih =>
    obtain ⟨hc, htext⟩ := List.forall_mem_cons.mp h
    have hsize : c.utf8Size = 1 := by
      have hc := isDigit_iff.mp hc
      have hlow : c.val.toNat ≤ 127 := by
        change c.toNat ≤ 127
        omega
      exact Char.utf8Size_eq_one_iff.mpr (UInt32.le_iff_toNat_le.mpr hlow)
    rw [String.ofList_cons, String.utf8ByteSize_append, String.utf8ByteSize_singleton, ih htext,
      hsize, List.length_cons, Nat.add_comm]

theorem IsHOTP.utf8ByteSize (h : IsHOTP mac width key counter password) :
    password.utf8ByteSize = width := by
  obtain ⟨block, -, hdecimal⟩ := h
  have hsize := utf8ByteSize_of_isDigit hdecimal.isDigit
  rw [String.ofList_toList] at hsize
  rw [hsize, ← hdecimal.numeral.length, List.length_map]

end Statora.Library
