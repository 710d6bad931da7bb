import Statora.Auth.Ciphers
import Statora.Auth.OneTimeCodes
import Statora.Auth.SecondFactor

/-!
# Enrolling with an authenticator

The secret of an enrollment spells its random bytes. An authenticator that is given
these bytes makes exactly the codes that the enrollment is completed with.
-/

namespace Statora.Auth
open Library (Collection Fallible IsHOTP)

theorem base32Alphabet_plain {ch : Char} (h : ch ∈ base32Alphabet) :
    isSpace ch = false ∧ toUpper ch = ch := by
  have hall : base32Alphabet.all (fun ch => !isSpace ch && toUpper ch = ch) = true := by decide
  simpa using List.all_eq_true.mp hall ch h

theorem base64Alphabet_plain {ch : Char} (h : ch ∈ base64Alphabet) : isSpace ch = false := by
  have hall : base64Alphabet.all (fun ch => !isSpace ch) = true := by decide
  simpa using List.all_eq_true.mp hall ch h

theorem trimSpace_ofList {cs : List Char} (h : ∀ ch ∈ cs, isSpace ch = false) :
    trimSpace (String.ofList cs) = String.ofList cs := by
  rw [trimSpace_eq_trim, String.toList_ofList, Library.trim_of_forall h]

theorem decodes_generateTOTPSecret (bytes : Vector UInt8 20) :
    Decodes (generateTOTPSecret bytes) bytes.toList := by
  have hplain : ∀ ch ∈ encodeBase32Chars bytes.toList, isSpace ch = false ∧ toUpper ch = ch :=
    fun ch hch => base32Alphabet_plain (mem_encodeBase32Chars hch)
  unfold Decodes generateTOTPSecret encodeBase32
  rw [trimSpace_ofList fun ch hch => (hplain ch hch).1, String.toList_ofList,
    List.map_congr_left fun ch hch => (hplain ch hch).2, List.map_id']
  exact decodeBase32_encodeBase32 bytes.toList

theorem trimSpace_of_encryptMFASecret {c : Primitives} {nonce : Vector UInt8 12}
    {plain key ciphertext : String} (h : encryptMFASecret c nonce plain key = some ciphertext) :
    trimSpace ciphertext = ciphertext := by
  unfold encryptMFASecret encrypt at h
  split_ifs at h
  obtain rfl := Option.some.inj h
  refine trimSpace_ofList fun ch hch => ?_
  rcases mem_encodeBase64Chars hch with hletter | rfl
  · exact base64Alphabet_plain hletter
  · decide

section Enrollment
variable {c : Primitives} {cfg : Config} {id : String} {entropy : Entropy} {db db' : Database}
  {result : StartEnrollmentResult}

theorem startEnrollment_eq_ok
    (h : (startEnrollment c cfg id entropy).run db = (.ok result, db')) :
    ∃ (user : User) (encSecret : String), objectIDFromHex id = some user.id ∧
      encryptMFASecret c entropy.nonce (generateTOTPSecret entropy.secret) cfg.mfaSecretKey =
        some encSecret ∧
      result.secret = generateTOTPSecret entropy.secret ∧
      ∃ enrolled, db'.users.findByKey user.id = some enrolled ∧
        enrolled.mfaSecretEnc = encSecret := by
  obtain ⟨user, found, hfound, hrest⟩ := Fallible.run_bind_eq_ok h
  obtain ⟨hid, hstored, rfl⟩ := findByID_eq_ok hfound
  dsimp only at hrest
  split at hrest
  · cases hrest
  · next encSecret hencrypt =>
    split at hrest
    · cases hrest
    · next codes hashes hcodes =>
      obtain ⟨⟨⟩, written, hwrite, hlast⟩ := Fallible.run_bind_eq_ok hrest
      cases hlast
      unfold UserRepository.beginMFAEnrollment at hwrite
      rw [updateByID_eq hid] at hwrite
      cases hwrite
      refine ⟨user, encSecret, hid, hencrypt, rfl, ?_⟩
      rw [Collection.findByKey_updateByKey, hstored]
      exact ⟨_, rfl, by simp [UserRepository.enrolled]⟩

theorem returns_verifyEnrollment_iff {u : ObjectID} {user : User} {secret code : String}
    {rt : Runtime} (hid : objectIDFromHex id = some u) (hstored : db.users.findByKey u = some user)
    (hdecrypt : decryptMFASecret c (trimSpace user.mfaSecretEnc) cfg.mfaSecretKey = some secret) :
    (∃ verified, Fallible.Returns (verifyEnrollment c cfg id code rt) db verified) ↔
      verifyTOTPCode c secret code (rt.clock 0) = true := by
  unfold verifyEnrollment
  simp only [Fallible.returns_bind_of_ok (run_findByID hid hstored), hdecrypt]
  cases verifyTOTPCode c secret code (rt.clock 0) with
  | false => exact iff_of_false (fun ⟨_, hverified⟩ => Fallible.not_returns_throw hverified) nofun
  | true =>
    refine iff_of_true ⟨_, Fallible.returns_bind.mpr ⟨(), ?_, Fallible.returns_pure.mpr rfl⟩⟩ rfl
    unfold UserRepository.enableMFA
    rw [updateByID_eq hid]
    exact Fallible.returns_exec

/-- The secret that an enrollment hands out spells its random bytes, and the enrollment is
completed by their codes of the present period, of the one before and of the one after. -/
theorem verifyEnrollment_of_startEnrollment (hopens : c.OpensSealed)
    (h : (startEnrollment c cfg id entropy).run db = (.ok result, db')) (code : String)
    {rt : Runtime} (hnow : 30 ≤ unix (rt.clock 0)) :
    Decodes result.secret entropy.secret.toList ∧
    ((∃ verified, Fallible.Returns (verifyEnrollment c cfg id code rt) db' verified) ↔
      ∃ offset ∈ [(-1 : ℤ), 0, 1], IsHOTP c.hmacSHA1 totpDigits entropy.secret.toList
        (BitVec.ofInt 64 (unix (rt.clock 0) / totpPeriodSeconds + offset)) (trimSpace code)) := by
  obtain ⟨user, encSecret, hid, hencrypt, hresult, enrolled, hstored, hsecret⟩ :=
    startEnrollment_eq_ok h
  have hdecodes := decodes_generateTOTPSecret entropy.secret
  have hdecrypt : decryptMFASecret c (trimSpace enrolled.mfaSecretEnc) cfg.mfaSecretKey =
      some (generateTOTPSecret entropy.secret) := by
    rw [hsecret, trimSpace_of_encryptMFASecret hencrypt]
    exact decrypt_of_encrypt hopens hencrypt
  exact ⟨hresult ▸ hdecodes, (returns_verifyEnrollment_iff hid hstored hdecrypt).trans
    (verifyTOTPCode_eq_true_iff hdecodes hnow code)⟩

end Enrollment
end Statora.Auth
