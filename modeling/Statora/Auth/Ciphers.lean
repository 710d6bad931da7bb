import Statora.Auth.Crypto
import Statora.EncodingRoundTrips

/-!
# Decrypting what was encrypted

GCM is a parameter. Where it opens what it sealed, an encrypted field gives its text back.
-/

namespace Statora.Auth

/-- `gcm.Open` gives back what `gcm.Seal` was given, under the same key and nonce. -/
def Primitives.OpensSealed (c : Primitives) : Prop :=
  ∀ key nonce plain, c.gcmOpen key nonce.toList (c.gcmSeal key nonce plain) = some plain

theorem decrypt_of_encrypt {c : Primitives} (hopens : c.OpensSealed) {nonce : Vector UInt8 12}
    {plain key ciphertext : String} (h : encrypt c nonce plain key = some ciphertext) :
    decrypt c ciphertext key = some plain := by
  unfold encrypt at h
  split_ifs at h with hkey
  obtain rfl := Option.some.inj h
  have hlength : nonce.toList.length = 12 := by simp
  have hraw : ¬ (nonce.toList ++ c.gcmSeal key nonce plain).length < 12 := by simp
  rw [decrypt, if_neg hkey, decodeBase64_encodeBase64, Option.bind_some, if_neg hraw,
    List.take_left' hlength, List.drop_left' hlength]
  exact hopens key nonce plain

theorem encrypt_isSome {c : Primitives} {key : String} (hkey : key.utf8ByteSize = 32)
    (nonce : Vector UInt8 12) (plain : String) :
    ∃ ciphertext, encrypt c nonce plain key = some ciphertext :=
  ⟨_, if_neg (not_not.mpr hkey)⟩

theorem trimSpace_ne_empty {s : String} {c : Char} (h : s.toList.head? = some c)
    (hc : isSpace c = false) : trimSpace s ≠ "" := by
  have hfind : s.toList.find? (fun c => !isSpace c) = some c := by
    obtain ⟨rest, hrest⟩ := List.head?_eq_some_iff.mp h
    rw [hrest, List.find?_cons, hc]
    rfl
  rw [trimSpace_eq_trim]
  intro hempty
  have hnil : Library.trim isSpace s.toList = [] := by
    simpa using congrArg String.toList hempty
  have hhead := Library.head?_trim isSpace s.toList
  rw [hnil, hfind] at hhead
  cases hhead

theorem isSpace_base64 : ∀ digit < 64, isSpace (base64Alphabet.getD digit '=') = false := by
  decide +kernel

theorem trimSpace_encodeBase64 {bytes : List UInt8} (h : 3 ≤ bytes.length) :
    trimSpace (encodeBase64 bytes) ≠ "" := by
  obtain ⟨a, b, c, rest, rfl⟩ : ∃ a b c rest, bytes = a :: b :: c :: rest := by
    match bytes, h with
    | a :: b :: c :: rest, _ => exact ⟨a, b, c, rest, rfl⟩
  have hdigit : valueOfBytes [a, b, c] / 64 ^ 3 % 64 < 64 := Nat.mod_lt _ (by decide)
  refine trimSpace_ne_empty (c := base64Alphabet.getD (valueOfBytes [a, b, c] / 64 ^ 3 % 64) '=')
    ?_ (isSpace_base64 _ hdigit)
  unfold encodeBase64
  rw [String.toList_ofList]
  rfl

theorem trimSpace_of_encrypt {c : Primitives} {nonce : Vector UInt8 12}
    {plain key ciphertext : String} (h : encrypt c nonce plain key = some ciphertext) :
    trimSpace ciphertext ≠ "" := by
  unfold encrypt at h
  split_ifs at h
  obtain rfl := Option.some.inj h
  refine trimSpace_encodeBase64 ?_
  rw [List.length_append, Vector.length_toList]
  omega

end Statora.Auth
