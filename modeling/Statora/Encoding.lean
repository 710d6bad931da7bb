import Mathlib.Data.List.Basic
import Statora.Library.Numerals
import Statora.Text

/-!
# Text encodings of bytes

Base64 with padding, base32 without padding, and the escapes of URLs.
-/

namespace Statora

/-- `strings.ToUpper` for texts that are decoded next: besides a to z only the
dotless i and the long s have an ASCII upper case. -/
def toUpper (c : Char) : Char :=
  if c = '\u0131' then 'I' else if c = '\u017F' then 'S' else c.toUpper

def withoutLineBreaks (s : String) : List Char :=
  s.toList.filter fun c => !(c = '\r' || c = '\n')

def digitsOf (base n value : ℕ) : List ℕ :=
  (List.range n).map fun k => value / base ^ (n - 1 - k) % base

def valueOf (base : ℕ) (digits : List ℕ) : ℕ :=
  digits.foldl (fun value digit => base * value + digit) 0

def bytesOf (n value : ℕ) : List UInt8 := (digitsOf 256 n value).map UInt8.ofNat

def valueOfBytes (bytes : List UInt8) : ℕ := valueOf 256 (bytes.map UInt8.toNat)

theorem digitsOf_succ (base n value : ℕ) :
    digitsOf base (n + 1) value = digitsOf base n (value / base) ++ [value % base] := by
  unfold digitsOf
  rw [List.range_succ, List.map_append, List.map_singleton]
  congr 1
  · refine List.map_congr_left fun k hk => ?_
    have hk := List.mem_range.mp hk
    rw [Nat.div_div_eq_div_mul, ← Nat.pow_succ']
    congr 3
    omega
  · simp

theorem isNumeral_digitsOf {base : ℕ} (hbase : 0 < base) (n value : ℕ) :
    Library.IsNumeral base n (value % base ^ n) (digitsOf base n value) := by
  induction n generalizing value with
  | zero => exact Library.isNumeral_nil base value
  | succ n ih =>
    rw [digitsOf_succ]
    exact (ih (value / base)).concat hbase

theorem map_toNat_bytesOf (n value : ℕ) :
    (bytesOf n value).map UInt8.toNat = digitsOf 256 n value := by
  have hdigits := (isNumeral_digitsOf (show 0 < 256 by decide) n value).lt
  calc ((digitsOf 256 n value).map UInt8.ofNat).map UInt8.toNat
      = (digitsOf 256 n value).map id := by
        rw [List.map_map]
        exact List.map_congr_left fun digit hdigit =>
          UInt8.toNat_ofNat_of_lt (hdigits digit hdigit)
    _ = digitsOf 256 n value := List.map_id _

def base64Alphabet : List Char :=
  "ABCDEFGHIJKLMNOPQRSTUVWXYZabcdefghijklmnopqrstuvwxyz0123456789+/".toList

def base64Chars (bytes : List UInt8) : List Char :=
  (digitsOf 64 4 (valueOfBytes bytes)).map fun digit => base64Alphabet.getD digit '='

def encodeBase64Chars : List UInt8 → List Char
  | a :: b :: c :: rest => base64Chars [a, b, c] ++ encodeBase64Chars rest
  | [a, b] => (base64Chars [a, b, 0]).take 3 ++ ['=']
  | [a] => (base64Chars [a, 0, 0]).take 2 ++ ['=', '=']
  | [] => []

def encodeBase64 (bytes : List UInt8) : String := String.ofList (encodeBase64Chars bytes)

def base64Bytes (cs : List Char) : Option (List UInt8) :=
  (cs.mapM fun c => base64Alphabet.findIdx? (· = c)).map fun digits =>
    bytesOf 3 (valueOf 64 digits)

def decodeBase64Chars : List Char → Option (List UInt8)
  | [] => some []
  | [a, b, '=', '='] => (base64Bytes [a, b, 'A', 'A']).map (·.take 1)
  | [a, b, c, '='] => (base64Bytes [a, b, c, 'A']).map (·.take 2)
  | a :: b :: c :: d :: rest => do
    let bytes ← base64Bytes [a, b, c, d]
    return bytes ++ (← decodeBase64Chars rest)
  | _ => none

def decodeBase64 (s : String) : Option (List UInt8) := decodeBase64Chars (withoutLineBreaks s)

def base32Alphabet : List Char := "ABCDEFGHIJKLMNOPQRSTUVWXYZ234567".toList

def base32Chars (bytes : List UInt8) : List Char :=
  (digitsOf 32 8 (valueOfBytes bytes)).map fun digit => base32Alphabet.getD digit 'A'

def encodeBase32Chars : List UInt8 → List Char
  | a :: b :: c :: d :: e :: rest => base32Chars [a, b, c, d, e] ++ encodeBase32Chars rest
  | [a, b, c, d] => (base32Chars [a, b, c, d, 0]).take 7
  | [a, b, c] => (base32Chars [a, b, c, 0, 0]).take 5
  | [a, b] => (base32Chars [a, b, 0, 0, 0]).take 4
  | [a] => (base32Chars [a, 0, 0, 0, 0]).take 2
  | [] => []

def encodeBase32 (bytes : List UInt8) : String := String.ofList (encodeBase32Chars bytes)

/-- A last group of one, three or six digits gives no byte. -/
def base32Bytes : List ℕ → List UInt8
  | a :: b :: c :: d :: e :: f :: g :: h :: rest =>
    bytesOf 5 (valueOf 32 [a, b, c, d, e, f, g, h]) ++ base32Bytes rest
  | [a, b, c, d, e, f, g] => (bytesOf 5 (valueOf 32 [a, b, c, d, e, f, g, 0])).take 4
  | [a, b, c, d, e] => (bytesOf 5 (valueOf 32 [a, b, c, d, e, 0, 0, 0])).take 3
  | [a, b, c, d] => (bytesOf 5 (valueOf 32 [a, b, c, d, 0, 0, 0, 0])).take 2
  | [a, b] => (bytesOf 5 (valueOf 32 [a, b, 0, 0, 0, 0, 0, 0])).take 1
  | _ => []

def decodeBase32 (s : String) : Option (List UInt8) :=
  ((withoutLineBreaks s).mapM fun c => base32Alphabet.findIdx? (· = c)).map base32Bytes

def isUnreserved (c : Char) : Bool :=
  c.isAlphanum || c = '-' || c = '_' || c = '.' || c = '~'

def percentEncode (byte : UInt8) : List Char :=
  '%' :: (digitsOf 16 2 byte.toNat).map fun digit => "0123456789ABCDEF".toList.getD digit '0'

def escapeWith (keeps : Char → Bool) (s : String) : String :=
  String.ofList <| s.toUTF8.data.toList.flatMap fun byte =>
    let c := Char.ofNat byte.toNat
    if byte < 128 && keeps c then [c] else percentEncode byte

def pathEscape (s : String) : String :=
  escapeWith (fun c => isUnreserved c || c ∈ ['$', '&', '+', ':', '=', '@']) s

def queryEscape (s : String) : String :=
  String.ofList <| (escapeWith (fun c => isUnreserved c || c = ' ') s).toList.map fun c =>
    if c = ' ' then '+' else c

end Statora
