import Statora.Domain
import Statora.Encoding

/-!
# Passwords, encrypted fields and second factors

The cryptographic primitives are parameters. Everything the services build from
them is here: the encrypted fields of a user, one-time codes and recovery codes.
-/

namespace Statora.Auth

/-- The packages `bcrypt`, `aes` with `cipher.NewGCM`, `hmac` with `sha1`, and `sha256`, and
`unicode.ToLower`. -/
structure Primitives where
  bcrypt : Vector UInt8 16 → String → String
  compareHashAndPassword : String → String → Bool
  gcmSeal : String → Vector UInt8 12 → String → List UInt8
  gcmOpen : String → List UInt8 → List UInt8 → Option String
  hmacSHA1 : List UInt8 → List UInt8 → Vector UInt8 20
  sha256 : List UInt8 → Vector UInt8 32
  lower : Char → Char

variable (c : Primitives)

/-- `bcrypt` refuses passwords of more than 72 bytes. -/
def generateFromPassword (salt : Vector UInt8 16) (password : String) : Option String :=
  if password.utf8ByteSize > 72 then none else some (c.bcrypt salt password)

def encrypt (nonce : Vector UInt8 12) (plain key : String) : Option String :=
  if key.utf8ByteSize ≠ 32 then none
  else some (encodeBase64 (nonce.toList ++ c.gcmSeal key nonce plain))

def decrypt (encoded key : String) : Option String :=
  if key.utf8ByteSize ≠ 32 then none
  else (decodeBase64 encoded).bind fun raw =>
    if raw.length < 12 then none else c.gcmOpen key (raw.take 12) (raw.drop 12)

def encryptMFASecret (nonce : Vector UInt8 12) (plain key : String) : Option String :=
  encrypt c nonce plain key

def decryptMFASecret (encoded key : String) : Option String := decrypt c encoded key

def decryptPII (value key : String) : Option String := decrypt c value key

/-- `pii.Normalize`, where `lower` stands for `unicode.ToLower`. -/
def normalizeEmail (lower : Char → Char) (value : String) : String :=
  String.ofList ((trimSpace value).toList.map lower)

def hashPII (normalized : String) : String :=
  String.ofList <| (c.sha256 normalized.toUTF8.data.toList).toList.flatMap fun byte =>
    (hexDigits 2 byte.toNat).map hexChar

def totpPeriodSeconds : ℤ := 30

def totpDigits : ℕ := 6

def unix (t : ℤ) : ℤ := t / second

theorem toNat_and_le (byte mask : UInt8) : (byte &&& mask).toNat ≤ mask.toNat := by
  rw [UInt8.toNat_and]
  exact Nat.and_le_right

def binaryCode (hash : Vector UInt8 20) : ℕ :=
  let offset := (hash[19] &&& 0x0f).toNat
  have hoffset : offset ≤ 15 := toNat_and_le hash[19] 0x0f
  (hash[offset] &&& 0x7f).toNat <<< 24 ||| hash[offset + 1].toNat <<< 16 |||
    hash[offset + 2].toNat <<< 8 ||| hash[offset + 3].toNat

def zeroPadded (width value : ℕ) : String :=
  let digits := Nat.toDigits 10 value
  String.ofList (List.replicate (width - digits.length) '0' ++ digits)

def generateTOTPCode (secret : String) (at_ : ℤ) : Option String :=
  (decodeBase32 (String.ofList ((trimSpace secret).toList.map toUpper))).map fun key =>
    let counter : BitVec 64 := BitVec.ofInt 64 (Int.tdiv (unix at_) totpPeriodSeconds)
    zeroPadded totpDigits (binaryCode (c.hmacSHA1 key (bytesOf 8 counter.toNat)) % 1000000)

def matchesCode (secret trimmedCode : String) (now : ℤ) : List ℤ → Bool
  | [] => false
  | offset :: offsets =>
    match generateTOTPCode c secret (now + offset * totpPeriodSeconds * second) with
    | none => false
    | some expected => expected = trimmedCode || matchesCode secret trimmedCode now offsets

-- Sealed, or the unfolding of the loop evaluates the code.
seal generateTOTPCode in
theorem matchesCode_cons {secret expected : String} {now offset : ℤ} (offsets : List ℤ)
    (code : String)
    (h : generateTOTPCode c secret (now + offset * totpPeriodSeconds * second) = some expected) :
    matchesCode c secret code now (offset :: offsets) =
      (decide (expected = code) || matchesCode c secret code now offsets) := by
  change (match generateTOTPCode c secret (now + offset * totpPeriodSeconds * second) with
    | none => false
    | some expected => expected = code || matchesCode c secret code now offsets) = _
  rw [h]

def verifyTOTPCode (secret code : String) (now : ℤ) : Bool :=
  let trimmedCode := trimSpace code
  if trimmedCode.utf8ByteSize ≠ totpDigits then false
  else matchesCode c secret trimmedCode now [-1, 0, 1]

def generateTOTPSecret (bytes : Vector UInt8 20) : String := encodeBase32 bytes.toList

/-- The account is the encrypted email of the user, as the caller passes it. -/
def buildOTPAuthURL (issuer accountName secret : String) : String :=
  let resolvedAccount := trimSpace accountName
  let resolvedAccount := if resolvedAccount = "" then "user" else resolvedAccount
  let label := pathEscape (issuer ++ ":" ++ resolvedAccount)
  "otpauth://totp/" ++ label ++ "?algorithm=SHA1&digits=6&issuer=" ++ queryEscape issuer ++
    "&period=30&secret=" ++ queryEscape secret

structure Entropy where
  secret : Vector UInt8 20
  nonce : Vector UInt8 12
  code : ℕ → Vector UInt8 10
  salt : ℕ → Vector UInt8 16

def recoveryAlphabet : List Char := "ABCDEFGHJKLMNPQRSTUVWXYZ23456789".toList

def generateRecoveryCode (bytes : Vector UInt8 10) : String :=
  let chars := bytes.toList.map fun byte =>
    recoveryAlphabet.getD (byte.toNat % recoveryAlphabet.length) 'A'
  String.ofList (chars.take 5 ++ '-' :: chars.drop 5)

def defaultRecoveryCodesCount : ℕ := 8

def generateRecoveryCodes (entropy : Entropy) (count : ℕ) : Option (List String × List String) :=
  ((List.range count).mapM fun k => do
    let code := generateRecoveryCode (entropy.code k)
    let hash ← generateFromPassword c (entropy.salt k) code
    return (code, hash)).map List.unzip

def consumeRecoveryCode (recoveryHashes : List String) (code : String) : List String × Bool :=
  recoveryHashes.foldl (fun (updated, consumed) hash =>
    if !consumed && c.compareHashAndPassword hash code then (updated, true)
    else (updated ++ [hash], consumed)) ([], false)

theorem consumeRecoveryCode_eq (hashes : List String) (code : String) :
    consumeRecoveryCode c hashes code =
      (hashes.eraseP fun hash => c.compareHashAndPassword hash code,
        (hashes.find? fun hash => c.compareHashAndPassword hash code).isSome) := by
  have hrest : ∀ (rest updated : List String), rest.foldl (fun (updated, consumed) hash =>
      if !consumed && c.compareHashAndPassword hash code then (updated, true)
      else (updated ++ [hash], consumed)) (updated, true) = (updated ++ rest, true) := by
    intro rest
    induction rest with
    | nil => simp
    | cons hash rest ih =>
      intro updated
      simp only [List.foldl_cons, Bool.not_true, Bool.false_and, Bool.false_eq_true, if_false]
      rw [ih, List.append_assoc, List.singleton_append]
  have hall : ∀ (rest updated : List String), rest.foldl (fun (updated, consumed) hash =>
      if !consumed && c.compareHashAndPassword hash code then (updated, true)
      else (updated ++ [hash], consumed)) (updated, false) =
        (updated ++ rest.eraseP (fun hash => c.compareHashAndPassword hash code),
          (rest.find? fun hash => c.compareHashAndPassword hash code).isSome) := by
    intro rest
    induction rest with
    | nil => simp
    | cons hash rest ih =>
      intro updated
      rw [List.foldl_cons, List.eraseP_cons, List.find?_cons]
      cases hmatch : c.compareHashAndPassword hash code with
      | true => simpa [hmatch] using hrest rest updated
      | false => simpa [hmatch] using ih (updated ++ [hash])
  exact hall hashes []

theorem consumeRecoveryCode_of_forall_not {recoveryHashes : List String} {code : String}
    (h : ∀ hash ∈ recoveryHashes, c.compareHashAndPassword hash code = false) :
    consumeRecoveryCode c recoveryHashes code = (recoveryHashes, false) := by
  have hnone : ∀ hash ∈ recoveryHashes, ¬ c.compareHashAndPassword hash code = true :=
    fun hash hmem => by simp [h hash hmem]
  rw [consumeRecoveryCode_eq, List.eraseP_of_forall_not hnone, List.find?_eq_none.mpr hnone,
    Option.isSome_none]

theorem utf8ByteSize_ofList_le (cs : List Char) :
    (String.ofList cs).utf8ByteSize ≤ 4 * cs.length := by
  induction cs with
  | nil => simp
  | cons char cs ih =>
    have hsize := char.utf8Size_le_four
    rw [String.ofList_cons, String.utf8ByteSize_append, String.utf8ByteSize_singleton,
      List.length_cons]
    omega

theorem generateRecoveryCode_size (bytes : Vector UInt8 10) :
    (generateRecoveryCode bytes).utf8ByteSize ≤ 72 := by
  unfold generateRecoveryCode
  refine (utf8ByteSize_ofList_le _).trans ?_
  simp

theorem generateRecoveryCodes_isSome (entropy : Entropy) (count : ℕ) :
    ∃ codes, generateRecoveryCodes c entropy count = some codes := by
  unfold generateRecoveryCodes
  generalize List.range count = places
  induction places with
  | nil => exact ⟨_, rfl⟩
  | cons k places ih =>
    obtain ⟨codes, hcodes⟩ := ih
    obtain ⟨pairs, hpairs, _⟩ := Option.map_eq_some_iff.mp hcodes
    have hsize := generateRecoveryCode_size (entropy.code k)
    have hhash : generateFromPassword c (entropy.salt k) (generateRecoveryCode (entropy.code k)) =
        some (c.bcrypt (entropy.salt k) (generateRecoveryCode (entropy.code k))) :=
      if_neg (by omega)
    rw [List.mapM_cons, hpairs]
    simp [hhash]

end Statora.Auth
