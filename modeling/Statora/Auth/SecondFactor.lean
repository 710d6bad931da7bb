import Statora.Auth.Service
import Statora.Library.EventRun

/-!
# The second factor of one user

A party that knows passwords and every answer it got, but submits no code that
fits the enrolled factor, gets no verified token of the user and cannot change
the factor, except by starting a new enrollment: that asks for no code.
-/

namespace Statora.Auth
open Library (Fallible Collection AllSteps AllStates run allStates_iff_of_invariant
  allSteps_of_forall)

structure Factor where
  enabled : Bool
  secretEnc : String
  recoveryCodesHash : List String
  deriving DecidableEq, Repr

def User.factor (user : User) : Factor :=
  ⟨user.mfaEnabled, user.mfaSecretEnc, user.mfaRecoveryCodesHash⟩

def factorOf (u : ObjectID) (db : Database) : Option Factor :=
  (db.users.findByKey u).map User.factor

/-- The code fits the secret at this time or one of the recovery codes. -/
def FitsFactor (c : Primitives) (secret : String) (recoveryHashes : List String) (code : String)
    (now : ℤ) : Prop :=
  verifyTOTPCode c secret code now = true ∨
    ∃ hash ∈ recoveryHashes, c.compareHashAndPassword hash code = true

instance (c : Primitives) (secret : String) (recoveryHashes : List String) (code : String)
    (now : ℤ) : Decidable (FitsFactor c secret recoveryHashes code now) :=
  inferInstanceAs (Decidable (_ ∨ _))

def WithoutFactor (c : Primitives) (secret : String) (recoveryHashes : List String) :
    Request → Prop
  | .mfaVerify _ code rt => ¬ FitsFactor c secret recoveryHashes code (rt.clock 0)
  | .verifyEnrollment _ code rt => ¬ FitsFactor c secret recoveryHashes code (rt.clock 0)
  | .verifyChallenge _ code rt => ¬ FitsFactor c secret recoveryHashes code (rt.clock 0)
  | .disableMFA _ _ code rt => ¬ FitsFactor c secret recoveryHashes code (rt.clock 0)
  | .login .. | .startEnrollment .. | .updateProfile .. => True

instance (c : Primitives) (secret : String) (recoveryHashes : List String) :
    (request : Request) → Decidable (WithoutFactor c secret recoveryHashes request)
  | .mfaVerify _ code rt =>
    inferInstanceAs (Decidable (¬ FitsFactor c secret recoveryHashes code (rt.clock 0)))
  | .verifyEnrollment _ code rt =>
    inferInstanceAs (Decidable (¬ FitsFactor c secret recoveryHashes code (rt.clock 0)))
  | .verifyChallenge _ code rt =>
    inferInstanceAs (Decidable (¬ FitsFactor c secret recoveryHashes code (rt.clock 0)))
  | .disableMFA _ _ code rt =>
    inferInstanceAs (Decidable (¬ FitsFactor c secret recoveryHashes code (rt.clock 0)))
  | .login .. | .startEnrollment .. | .updateProfile .. => inferInstanceAs (Decidable True)

/-- No token of the user counts as verified. -/
def NoVerifiedToken (u : ObjectID) (issued : List TokenClaims) : Prop :=
  ∀ token ∈ issued, objectIDFromHex token.userID = some u → token.mfaVerified = false

/-- The user's factor stays enabled with its secret, and nobody passes for verified. -/
def Protected (u : ObjectID) (secretEnc : String) (st : State) : Prop :=
  (∃ user, st.db.users.findByKey u = some user ∧ user.mfaEnabled = true ∧
    user.mfaSecretEnc = secretEnc) ∧ NoVerifiedToken u st.issued

def LeavesEnrollment (u : ObjectID) (st : State) : Request → Prop
  | .startEnrollment token _ => st.admits token = true → objectIDFromHex token.userID ≠ some u
  | _ => True

section OtherUsers
variable {u : ObjectID} {id : String}

theorem findByID_eq (h : objectIDFromHex id = some u) :
    UserRepository.findByID id =
      Fallible.find .store .noDocuments fun db : Database => db.users.findByKey u := by
  unfold UserRepository.findByID
  rw [h]

theorem updateByID_eq (h : objectIDFromHex id = some u) (set : User → User)
    (hset : ∀ user, (set user).id = user.id) :
    UserRepository.updateByID id set hset =
      Fallible.exec .store fun db => { db with users := db.users.updateByKey u set hset } := by
  unfold UserRepository.updateByID
  rw [h]

theorem findByID_eq_ok {user : User} {db db' : Database}
    (h : (UserRepository.findByID id).run db = (.ok user, db')) :
    objectIDFromHex id = some user.id ∧ db.users.findByKey user.id = some user ∧ db' = db := by
  cases hid : objectIDFromHex id with
  | none => unfold UserRepository.findByID at h; rw [hid] at h; cases h
  | some objectID =>
    rw [findByID_eq hid] at h
    obtain ⟨hfound, hdb⟩ := Fallible.run_find_eq_ok h
    have hkey : user.id = objectID := (Collection.mem_of_findByKey hfound).2
    rw [hkey]
    exact ⟨rfl, hfound, hdb⟩

theorem leaves_findByID : (UserRepository.findByID id).Leaves (factorOf u) := by
  unfold UserRepository.findByID
  cases objectIDFromHex id with
  | none => exact Fallible.leaves_throw _
  | some objectID => exact Fallible.leaves_find _ _ _

theorem leaves_updateByID {set : User → User} {hset : ∀ user, (set user).id = user.id}
    (h : objectIDFromHex id ≠ some u ∨ ∀ user, User.factor (set user) = User.factor user) :
    (UserRepository.updateByID id set hset).Leaves (factorOf u) := by
  unfold UserRepository.updateByID
  cases hid : objectIDFromHex id with
  | none => exact Fallible.leaves_throw _
  | some objectID =>
    refine Fallible.leaves_exec _ fun db => ?_
    dsimp only [factorOf]
    rw [Collection.findByKey_updateByKey _ _ _ _ hset, Option.map_map]
    refine Option.map_congr fun user _ => ?_
    rw [Function.comp_apply]
    split_ifs with hu
    · exact h.resolve_left (fun hne => hne (hid.trans (congrArg some hu.symm))) user
    · rfl

variable (c : Primitives) (cfg : Config)

theorem leaves_verifyMFAFactor (hid : objectIDFromHex id ≠ some u) (secretEnc : String)
    (recoveryHashes : List String) (code : String) (now : ℤ) :
    (verifyMFAFactor c cfg id secretEnc recoveryHashes code now).Leaves (factorOf u) := by
  unfold verifyMFAFactor
  cases decryptMFASecret c (trimSpace secretEnc) cfg.mfaSecretKey with
  | none => exact Fallible.leaves_throw _
  | some secret =>
    dsimp only
    split_ifs
    · exact Fallible.leaves_pure _
    · rcases consumeRecoveryCode c recoveryHashes code with ⟨updatedHashes, _ | _⟩
      · exact Fallible.leaves_throw _
      · exact leaves_updateByID (Or.inl hid)

theorem leaves_startEnrollment (hid : objectIDFromHex id ≠ some u) (entropy : Entropy) :
    (startEnrollment c cfg id entropy).Leaves (factorOf u) := by
  refine leaves_findByID.bind fun user => ?_
  dsimp only
  split
  · exact Fallible.leaves_throw _
  · split
    · exact Fallible.leaves_throw _
    · exact Fallible.Leaves.bind (leaves_updateByID (Or.inl hid)) fun _ => Fallible.leaves_pure _

theorem leaves_verifyEnrollment (hid : objectIDFromHex id ≠ some u) (code : String)
    (rt : Runtime) : (verifyEnrollment c cfg id code rt).Leaves (factorOf u) := by
  refine leaves_findByID.bind fun user => ?_
  split
  · exact Fallible.leaves_throw _
  · split
    · exact Fallible.leaves_throw _
    · exact Fallible.Leaves.bind (leaves_updateByID (Or.inl hid)) fun _ => Fallible.leaves_pure _

theorem leaves_verifyChallenge (hid : objectIDFromHex id ≠ some u) (code : String)
    (rt : Runtime) : (verifyChallenge c cfg id code rt).Leaves (factorOf u) := by
  refine leaves_findByID.bind fun user => ?_
  split
  · exact Fallible.leaves_throw _
  · exact (leaves_verifyMFAFactor c cfg hid _ _ _ _).bind fun _ => Fallible.leaves_pure _

theorem leaves_decryptUserEmail (user : User) :
    (decryptUserEmail c cfg user).Leaves (factorOf u) := by
  unfold decryptUserEmail
  split
  · exact Fallible.leaves_throw _
  · exact Fallible.leaves_pure _

theorem leaves_mfaVerify (hid : objectIDFromHex id ≠ some u) (code : String) (rt : Runtime) :
    (mfaVerify c cfg id code rt).Leaves (factorOf u) := by
  refine (leaves_findByID.bind fun _ => leaves_decryptUserEmail c cfg _).bind fun user => ?_
  split
  · exact leaves_verifyChallenge c cfg hid code rt
  · exact leaves_verifyEnrollment c cfg hid code rt

theorem leaves_disableMFA (hid : objectIDFromHex id ≠ some u) (password code : String)
    (rt : Runtime) : (disableMFA c cfg id password code rt).Leaves (factorOf u) := by
  refine leaves_findByID.bind fun user => ?_
  split
  · exact Fallible.leaves_throw _
  · split
    · exact Fallible.leaves_throw _
    · exact (leaves_verifyMFAFactor c cfg hid _ _ _ _).bind fun _ =>
        leaves_updateByID (Or.inl hid)

theorem leaves_updateProfile (username currentPassword newPassword : String)
    (salt : Vector UInt8 16) :
    (updateProfile c id username currentPassword newPassword salt).Leaves (factorOf u) := by
  refine leaves_findByID.bind fun user => ?_
  split
  · exact leaves_updateByID (Or.inr fun _ => rfl)
  · split
    · exact Fallible.leaves_throw _
    · split
      · exact Fallible.leaves_throw _
      · exact leaves_updateByID (Or.inr fun _ => rfl)

theorem leaves_login (email password : String) (rt : Runtime) :
    (login c cfg email password rt).Leaves (factorOf u) := by
  refine Fallible.Leaves.bind (Fallible.Leaves.mapError ?_ _) fun user => ?_
  · unfold findUserByEmail
    dsimp only
    split
    · exact Fallible.leaves_throw _
    · exact (Fallible.leaves_find _ _ _).bind fun _ => leaves_decryptUserEmail c cfg _
  · split
    · exact Fallible.leaves_throw _
    · exact Fallible.leaves_pure _

def VerifiesStored (id : String) (db : Database) (result : VerifyChallengeResult) : Prop :=
  ∃ user now, objectIDFromHex id = some user.id ∧ db.users.findByKey user.id = some user ∧
    result = buildVerifiedTokenResult user now

theorem verifyEnrollment_eq_ok {code : String} {rt : Runtime} {db db' : Database}
    {result : VerifyChallengeResult}
    (h : (verifyEnrollment c cfg id code rt).run db = (.ok result, db')) :
    VerifiesStored id db result := by
  obtain ⟨user, _, hfound, hrest⟩ := Fallible.run_bind_eq_ok h
  obtain ⟨hid, hstored, _⟩ := findByID_eq_ok hfound
  split at hrest
  · cases hrest
  · split at hrest
    · cases hrest
    · obtain ⟨_, _, _, hlast⟩ := Fallible.run_bind_eq_ok hrest
      exact ⟨user, rt.clock 1, hid, hstored, Fallible.run_pure_eq_ok hlast⟩

theorem verifyChallenge_eq_ok {code : String} {rt : Runtime} {db db' : Database}
    {result : VerifyChallengeResult}
    (h : (verifyChallenge c cfg id code rt).run db = (.ok result, db')) :
    VerifiesStored id db result := by
  obtain ⟨user, _, hfound, hrest⟩ := Fallible.run_bind_eq_ok h
  obtain ⟨hid, hstored, _⟩ := findByID_eq_ok hfound
  split at hrest
  · cases hrest
  · obtain ⟨_, _, _, hlast⟩ := Fallible.run_bind_eq_ok hrest
    exact ⟨user, rt.clock 1, hid, hstored, Fallible.run_pure_eq_ok hlast⟩

theorem getUserByID_eq_ok {user : User} {db db' : Database}
    (h : (getUserByID c cfg id).run db = (.ok user, db')) : db' = db := by
  obtain ⟨stored, _, hfound, hrest⟩ := Fallible.run_bind_eq_ok h
  obtain ⟨-, -, rfl⟩ := findByID_eq_ok hfound
  unfold decryptUserEmail at hrest
  split at hrest
  · cases hrest
  · cases hrest
    rfl

theorem mfaVerify_eq_ok {code : String} {rt : Runtime} {db db' : Database}
    {result : VerifyChallengeResult}
    (h : (mfaVerify c cfg id code rt).run db = (.ok result, db')) :
    VerifiesStored id db result := by
  obtain ⟨user, _, hfound, hrest⟩ := Fallible.run_bind_eq_ok h
  obtain rfl := getUserByID_eq_ok c cfg hfound
  split at hrest
  · exact verifyChallenge_eq_ok c cfg hrest
  · exact verifyEnrollment_eq_ok c cfg hrest

theorem VerifiesStored.token {result : VerifyChallengeResult} {db : Database}
    (h : VerifiesStored id db result) :
    objectIDFromHex result.token.userID = objectIDFromHex id := by
  obtain ⟨user, now, hid, -, rfl⟩ := h
  exact (objectIDFromHex_hex user.id).trans hid.symm

theorem findUserByEmail_eq_ok {email : String} {user : User} {db db' : Database}
    {f : AuthError → AuthError}
    (h : ((findUserByEmail c cfg email).mapError f).run db = (.ok user, db')) :
    ∃ stored plain, db.users.findByKey stored.id = some stored ∧
      user = { stored with email := plain } := by
  have hrun := Fallible.run_mapError_eq_ok h
  unfold findUserByEmail at hrun
  dsimp only at hrun
  split at hrun
  · cases hrun
  · obtain ⟨stored, _, hstored, hdecrypt⟩ := Fallible.run_bind_eq_ok hrun
    obtain ⟨hfind, _⟩ := Fallible.run_find_eq_ok hstored
    unfold decryptUserEmail at hdecrypt
    split at hdecrypt
    · cases hdecrypt
    · rename_i plain _
      exact ⟨stored, plain, Collection.findByKey_of_mem (List.mem_of_find?_eq_some hfind),
        Fallible.run_pure_eq_ok hdecrypt⟩

theorem login_eq_ok {email password : String} {rt : Runtime} {db db' : Database}
    {result : LoginResult} (h : (login c cfg email password rt).run db = (.ok result, db')) :
    ∃ stored plain, db.users.findByKey stored.id = some stored ∧
      result = buildLoginResult { stored with email := plain } (!stored.mfaEnabled)
        (rt.clock 0) := by
  obtain ⟨user, _, hfound, hrest⟩ := Fallible.run_bind_eq_ok h
  split at hrest
  · cases hrest
  · obtain ⟨stored, plain, hstored, rfl⟩ := findUserByEmail_eq_ok c cfg hfound
    exact ⟨stored, plain, hstored, Fallible.run_pure_eq_ok hrest⟩

end OtherUsers

/-- The invariant: the factor of the user is as it was, and no token of the user is
verified. -/
structure Unchanged (u : ObjectID) (factor : Factor) (st : State) : Prop where
  stored : factorOf u st.db = some factor
  tokens : NoVerifiedToken u st.issued

section User
variable {c : Primitives} {cfg : Config} {u : ObjectID} {factor : Factor} {secret : String}
  {st : State}

theorem Unchanged.user (h : Unchanged u factor st) :
    ∃ user, st.db.users.findByKey u = some user ∧ User.factor user = factor :=
  Option.map_eq_some_iff.mp h.stored

theorem Unchanged.after {α : Type} (h : Unchanged u factor st)
    {p : Fallible Database AuthError α} {tokens : α → List TokenClaims}
    (hleaves : p.Leaves (factorOf u))
    (htokens : ∀ a db', p.run st.db = (.ok a, db') → NoVerifiedToken u (tokens a)) :
    Unchanged u factor (st.after p tokens) := by
  refine ⟨(hleaves st.db).trans h.stored, fun token hmem hid => ?_⟩
  rcases List.mem_append.mp hmem with hold | hnew
  · exact h.tokens token hold hid
  · rcases hrun : p.run st.db with ⟨_ | a, db'⟩ <;> rw [hrun] at hnew
    · cases hnew
    · exact htokens a db' hrun token hnew hid

theorem after_of_error {α : Type} {p : Fallible Database AuthError α}
    {tokens : α → List TokenClaims} {e : AuthError} (h : p.run st.db = (.error e, st.db)) :
    st.after p tokens = st := by
  unfold State.after
  rw [h]
  exact congrArg (State.mk st.db) (List.append_nil _)

theorem run_findByID {id : String} {user : User} {db : Database}
    (hid : objectIDFromHex id = some u) (hfound : db.users.findByKey u = some user) :
    (UserRepository.findByID id).run db = (.ok user, db) := by
  rw [findByID_eq hid]
  simp [hfound]

variable (hsecret : decryptMFASecret c (trimSpace factor.secretEnc) cfg.mfaSecretKey = some secret)
include hsecret

theorem run_verifyMFAFactor {id code : String} {now : ℤ} {db : Database}
    (hcode : ¬ FitsFactor c secret factor.recoveryCodesHash code now) :
    (verifyMFAFactor c cfg id factor.secretEnc factor.recoveryCodesHash code now).run db =
      (.error .invalidMFACode, db) := by
  unfold FitsFactor at hcode
  push Not at hcode
  obtain ⟨htotp, hrecovery⟩ := hcode
  have hconsume := consumeRecoveryCode_of_forall_not c fun hash hmem =>
    Bool.eq_false_iff.mpr (hrecovery hash hmem)
  unfold verifyMFAFactor
  rw [hsecret]
  dsimp only
  rw [if_neg htotp, hconsume]
  rfl

theorem run_verifyEnrollment {id code : String} {rt : Runtime} {user : User} {db : Database}
    (hid : objectIDFromHex id = some u) (hfound : db.users.findByKey u = some user)
    (hfactor : User.factor user = factor)
    (hcode : ¬ FitsFactor c secret factor.recoveryCodesHash code (rt.clock 0)) :
    (verifyEnrollment c cfg id code rt).run db = (.error .invalidMFACode, db) := by
  subst hfactor
  have hstored : decryptMFASecret c (trimSpace user.mfaSecretEnc) cfg.mfaSecretKey = some secret :=
    hsecret
  have htotp : (!verifyTOTPCode c secret code (rt.clock 0)) = true := by
    rw [Bool.not_eq_true', Bool.eq_false_iff]
    exact fun hverified => hcode (Or.inl hverified)
  refine (Fallible.run_bind_of_ok (run_findByID hid hfound)).trans ?_
  rw [hstored]
  dsimp only
  rw [if_pos htotp]
  rfl

theorem run_verifyChallenge {id code : String} {rt : Runtime} {user : User} {db : Database}
    (hid : objectIDFromHex id = some u) (hfound : db.users.findByKey u = some user)
    (hfactor : User.factor user = factor) (henabled : factor.enabled = true)
    (hcode : ¬ FitsFactor c secret factor.recoveryCodesHash code (rt.clock 0)) :
    (verifyChallenge c cfg id code rt).run db = (.error .invalidMFACode, db) := by
  subst hfactor
  have hmfa : ¬ (!user.mfaEnabled) = true := by
    rw [Bool.not_eq_true', Bool.not_eq_false]
    exact henabled
  refine (Fallible.run_bind_of_ok (run_findByID hid hfound)).trans ?_
  rw [if_neg hmfa]
  exact Fallible.run_bind_of_error (run_verifyMFAFactor hsecret hcode)

theorem run_mfaVerify {id code : String} {rt : Runtime} {user : User} {db : Database}
    (hid : objectIDFromHex id = some u) (hfound : db.users.findByKey u = some user)
    (hfactor : User.factor user = factor) (henabled : factor.enabled = true)
    (hcode : ¬ FitsFactor c secret factor.recoveryCodesHash code (rt.clock 0)) :
    ∃ e, (mfaVerify c cfg id code rt).run db = (.error e, db) := by
  have hmfa : user.mfaEnabled = true := by
    rw [← hfactor] at henabled
    exact henabled
  have hread : (getUserByID c cfg id).run db = (decryptUserEmail c cfg user).run db :=
    Fallible.run_bind_of_ok (run_findByID hid hfound)
  unfold decryptUserEmail at hread
  cases hemail : decryptPII c user.email cfg.emailEncryptionKey with
  | none =>
    rw [hemail] at hread
    exact ⟨.cipher, Fallible.run_bind_of_error hread⟩
  | some email =>
    rw [hemail] at hread
    refine ⟨.invalidMFACode, (Fallible.run_bind_of_ok hread).trans ?_⟩
    dsimp only
    rw [if_pos hmfa]
    exact run_verifyChallenge hsecret hid hfound hfactor henabled hcode

theorem run_disableMFA {id password code : String} {rt : Runtime} {user : User} {db : Database}
    (hid : objectIDFromHex id = some u) (hfound : db.users.findByKey u = some user)
    (hfactor : User.factor user = factor) (henabled : factor.enabled = true)
    (hcode : ¬ FitsFactor c secret factor.recoveryCodesHash code (rt.clock 0)) :
    ∃ e, (disableMFA c cfg id password code rt).run db = (.error e, db) := by
  subst hfactor
  have hmfa : ¬ (!user.mfaEnabled) = true := by
    rw [Bool.not_eq_true', Bool.not_eq_false]
    exact henabled
  by_cases hpassword : (!c.compareHashAndPassword user.passwordHash password) = true
  · refine ⟨.invalidPassword, (Fallible.run_bind_of_ok (run_findByID hid hfound)).trans ?_⟩
    rw [if_pos hpassword]
    rfl
  · refine ⟨.invalidMFACode, (Fallible.run_bind_of_ok (run_findByID hid hfound)).trans ?_⟩
    rw [if_neg hpassword, if_neg hmfa]
    exact Fallible.run_bind_of_error (run_verifyMFAFactor hsecret hcode)

end User

section Runs
variable {c : Primitives} {cfg : Config} {u : ObjectID} {factor : Factor} {secret : String}
  {st : State}

theorem Unchanged.request {α : Type} (h : Unchanged u factor st) {id : String}
    {p : Fallible Database AuthError α} {tokens : α → List TokenClaims}
    (hother : objectIDFromHex id ≠ some u → p.Leaves (factorOf u))
    (htokens : ∀ a db', p.run st.db = (.ok a, db') → ∀ token ∈ tokens a,
      objectIDFromHex token.userID = objectIDFromHex id)
    (hown : objectIDFromHex id = some u → ∃ e, p.run st.db = (.error e, st.db)) :
    Unchanged u factor (st.after p tokens) := by
  by_cases hid : objectIDFromHex id = some u
  · obtain ⟨e, hrun⟩ := hown hid
    rw [after_of_error hrun]
    exact h
  · refine h.after (hother hid) fun a db' hrun token hmem htoken => ?_
    exact absurd ((htokens a db' hrun token hmem).symm.trans htoken) hid

theorem Unchanged.login (h : Unchanged u factor st) (henabled : factor.enabled = true)
    (email password : String) (rt : Runtime) :
    Unchanged u factor (st.after (login c cfg email password rt) fun result =>
      [result.token]) := by
  refine h.after (leaves_login c cfg email password rt) fun result db' hrun token hmem htoken => ?_
  rw [List.mem_singleton.mp hmem] at htoken ⊢
  obtain ⟨user, plain, hfound, rfl⟩ := login_eq_ok c cfg hrun
  obtain ⟨stored, hstored, hfactor⟩ := h.user
  have hsame : user.id = u :=
    Option.some.inj ((objectIDFromHex_hex user.id).symm.trans htoken)
  rw [hsame, hstored] at hfound
  have hmfa : user.mfaEnabled = true := by
    rw [← Option.some.inj hfound]
    rw [← hfactor] at henabled
    exact henabled
  exact congrArg not hmfa

theorem Unchanged.step (h : Unchanged u factor st) (henabled : factor.enabled = true)
    (hsecret : decryptMFASecret c (trimSpace factor.secretEnc) cfg.mfaSecretKey = some secret)
    {request : Request} (hcode : WithoutFactor c secret factor.recoveryCodesHash request)
    (hleaves : LeavesEnrollment u st request) : Unchanged u factor (step c cfg st request) := by
  obtain ⟨user, hfound, hfactor⟩ := h.user
  cases request with
  | login email password rt =>
    dsimp only [Auth.step]
    split_ifs
    · exact h
    · exact h.login henabled email password rt
  | startEnrollment token entropy =>
    dsimp only [Auth.step]
    split_ifs with hadmits
    · refine h.after (leaves_startEnrollment c cfg (hleaves hadmits) entropy) ?_
      exact fun _ _ _ _ hmem => absurd hmem List.not_mem_nil
    · exact h
  | mfaVerify token code rt =>
    dsimp only [Auth.step]
    split_ifs
    · refine h.request (fun hid => leaves_mfaVerify c cfg hid code rt) ?_
        fun hid => run_mfaVerify hsecret hid hfound hfactor henabled hcode
      intro result db' hrun _ hmem
      rw [List.mem_singleton.mp hmem]
      exact (mfaVerify_eq_ok c cfg hrun).token
    · exact h
  | verifyEnrollment token code rt =>
    dsimp only [Auth.step]
    split_ifs
    · refine h.request (fun hid => leaves_verifyEnrollment c cfg hid code rt) ?_
        fun hid => ⟨_, run_verifyEnrollment hsecret hid hfound hfactor hcode⟩
      intro result db' hrun _ hmem
      rw [List.mem_singleton.mp hmem]
      exact (verifyEnrollment_eq_ok c cfg hrun).token
    · exact h
  | verifyChallenge token code rt =>
    dsimp only [Auth.step]
    split_ifs
    · refine h.request (fun hid => leaves_verifyChallenge c cfg hid code rt) ?_
        fun hid => ⟨_, run_verifyChallenge hsecret hid hfound hfactor henabled hcode⟩
      intro result db' hrun _ hmem
      rw [List.mem_singleton.mp hmem]
      exact (verifyChallenge_eq_ok c cfg hrun).token
    · exact h
  | disableMFA token password code rt =>
    dsimp only [Auth.step]
    split_ifs
    · exact h.request (fun hid => leaves_disableMFA c cfg hid password code rt)
        (fun _ _ _ _ hmem => absurd hmem List.not_mem_nil)
        fun hid => run_disableMFA hsecret hid hfound hfactor henabled hcode
    · exact h
  | updateProfile token username currentPassword newPassword salt =>
    dsimp only [Auth.step]
    split_ifs
    · refine h.after (leaves_updateProfile c username currentPassword newPassword salt) ?_
      exact fun _ _ _ _ hmem => absurd hmem List.not_mem_nil
    · exact h

theorem Unchanged.protected (h : Unchanged u factor st) (henabled : factor.enabled = true) :
    Protected u factor.secretEnc st := by
  obtain ⟨user, hfound, rfl⟩ := h.user
  exact ⟨⟨user, hfound, henabled, rfl⟩, h.tokens⟩

theorem encryptMFASecret_of_decrypt {encoded key : String}
    (h : decryptMFASecret c encoded key = some secret) (nonce : Vector UInt8 12)
    (plain : String) :
    ∃ encSecret, encryptMFASecret c nonce plain key = some encSecret := by
  unfold decryptMFASecret decrypt at h
  split_ifs at h with hkey
  exact ⟨_, if_neg hkey⟩

theorem factor_startEnrollment (h : Unchanged u factor st)
    (hsecret : decryptMFASecret c (trimSpace factor.secretEnc) cfg.mfaSecretKey = some secret)
    {id : String} (hid : objectIDFromHex id = some u) (entropy : Entropy) :
    ∃ user, ((startEnrollment c cfg id entropy).run st.db).2.users.findByKey u = some user ∧
      user.mfaEnabled = false := by
  obtain ⟨user, hfound, _⟩ := h.user
  obtain ⟨encSecret, hencrypt⟩ :=
    encryptMFASecret_of_decrypt hsecret entropy.nonce (generateTOTPSecret entropy.secret)
  obtain ⟨⟨recoveryCodes, recoveryHashes⟩, hcodes⟩ :=
    generateRecoveryCodes_isSome c entropy defaultRecoveryCodesCount
  have hwrite : (UserRepository.beginMFAEnrollment id encSecret recoveryHashes).run st.db =
      (.ok (), { st.db with
        users := st.db.users.updateByKey u (UserRepository.enrolled encSecret recoveryHashes)
          (UserRepository.enrolled_id encSecret recoveryHashes) }) := by
    unfold UserRepository.beginMFAEnrollment
    rw [updateByID_eq hid]
    rfl
  unfold startEnrollment
  rw [Fallible.run_bind_of_ok (run_findByID hid hfound)]
  dsimp only
  rw [hencrypt]
  dsimp only
  rw [hcodes]
  dsimp only
  rw [Fallible.run_bind_of_ok hwrite, Fallible.run_pure]
  dsimp only
  rw [Collection.findByKey_updateByKey, hfound]
  exact ⟨_, rfl, by simp [UserRepository.enrolled]⟩

theorem leavesEnrollment_of_protected (h : Unchanged u factor st)
    (hsecret : decryptMFASecret c (trimSpace factor.secretEnc) cfg.mfaSecretKey = some secret)
    {request : Request} {secretEnc : String}
    (hafter : Protected u secretEnc (step c cfg st request)) : LeavesEnrollment u st request := by
  cases request with
  | startEnrollment token entropy =>
    intro hadmits hid
    obtain ⟨user, hfound, hdisabled⟩ := factor_startEnrollment h hsecret hid entropy
    obtain ⟨⟨after, hstored, henabled, _⟩, _⟩ := hafter
    have hstep : step c cfg st (.startEnrollment token entropy) =
        st.after (startEnrollment c cfg token.userID entropy) fun _ => [] := if_pos hadmits
    rw [hstep] at hstored
    have hsame : user = after := Option.some.inj (hfound.symm.trans hstored)
    rw [← hsame, hdisabled] at henabled
    cases henabled
  | _ => trivial

end Runs

theorem protected_run_iff (c : Primitives) (cfg : Config) (u : ObjectID) (user : User)
    (secret : String) (st : State) (requests : List Request)
    (hstored : st.db.users.findByKey u = some user) (henabled : user.mfaEnabled = true)
    (hsecret : decryptMFASecret c (trimSpace user.mfaSecretEnc) cfg.mfaSecretKey = some secret)
    (htokens : NoVerifiedToken u st.issued)
    (hcodes : ∀ request ∈ requests, WithoutFactor c secret user.mfaRecoveryCodesHash request) :
    AllStates (step c cfg) (Protected u user.mfaSecretEnc) st requests ↔
      AllSteps (step c cfg) (LeavesEnrollment u) st requests := by
  have hfactor : factorOf u st.db = some (User.factor user) :=
    congrArg (Option.map User.factor) hstored
  refine allStates_iff_of_invariant (J := Unchanged u (User.factor user))
    (P := fun _ request => WithoutFactor c secret user.mfaRecoveryCodesHash request)
    (fun _ h => h.protected henabled)
    (fun _ _ h _ hafter => leavesEnrollment_of_protected h hsecret hafter)
    (fun _ _ h hcode hleaves => h.step henabled hsecret hcode hleaves)
    ⟨hfactor, htokens⟩ (allSteps_of_forall fun request hmem _ => hcodes request hmem)

def plainPrimitives : Primitives where
  bcrypt _ password := "$2a$" ++ password
  compareHashAndPassword hash password := hash = "$2a$" ++ password
  gcmSeal _ _ plain := plain.toUTF8.data.toList
  gcmOpen _ _ sealed := some (String.ofList (sealed.map fun byte => Char.ofNat byte.toNat))
  hmacSHA1 _ _ := Vector.replicate 20 0
  sha256 bytes := Vector.replicate 32 (UInt8.ofNat bytes.length)
  lower := toLower

def exampleConfig : Config where
  mfaSecretKey := "12345678901234567890123456789012"
  emailEncryptionKey := "12345678901234567890123456789012"

def exampleEntropy : Entropy :=
  ⟨Vector.replicate 20 0, Vector.replicate 12 0, fun _ => Vector.replicate 10 0,
    fun _ => Vector.replicate 16 0⟩

def alice : User where
  id := 1#96
  username := "alice"
  email := (encrypt plainPrimitives exampleEntropy.nonce "alice@example.com"
    exampleConfig.emailEncryptionKey).getD ""
  emailHash := hashPII plainPrimitives "alice@example.com"
  role := "admin"
  mfaEnabled := true
  mfaSecretEnc := (encryptMFASecret plainPrimitives exampleEntropy.nonce "JBSWY3DPEHPK3PXP"
    exampleConfig.mfaSecretKey).getD ""
  mfaRecoveryCodesHash := ["$2a$ABCDE-FGHJK"]
  passwordHash := "$2a$password"

def aliceOnly : State := ⟨{ users := Collection.empty.insertOne alice }, []⟩

def partialToken : TokenClaims := ⟨alice.id.hex, "alice", "admin", false, 0⟩

def loginAlice : Request :=
  .login "alice@example.com" "password" ⟨fun _ => 0, fun _ => NilObjectID⟩

def guessing : List Request :=
  [loginAlice, .verifyChallenge partialToken "123456" ⟨fun _ => 0, fun _ => NilObjectID⟩]

theorem protected_run_iff_guessing :
    AllStates (step plainPrimitives exampleConfig) (Protected 1#96 alice.mfaSecretEnc) aliceOnly
        guessing ↔
      AllSteps (step plainPrimitives exampleConfig) (LeavesEnrollment 1#96) aliceOnly guessing := by
  refine protected_run_iff plainPrimitives exampleConfig 1#96 alice "JBSWY3DPEHPK3PXP" aliceOnly
    guessing ?_ rfl ?_ ?_ ?_
  · decide +kernel
  · decide +kernel
  · exact fun _ hmem => absurd hmem List.not_mem_nil
  · decide +kernel

/-- With the token of the first login, a new enrollment takes the place of the factor. -/
def enrollingAgain : List Request :=
  [loginAlice, .startEnrollment partialToken exampleEntropy, loginAlice]

theorem enrollingAgain_not_protected :
    aliceOnly.db.users.findByKey 1#96 = some alice ∧ alice.mfaEnabled = true ∧
    aliceOnly.issued = [] ∧
    decryptMFASecret plainPrimitives (trimSpace alice.mfaSecretEnc) exampleConfig.mfaSecretKey =
      some "JBSWY3DPEHPK3PXP" ∧
    (∀ request ∈ enrollingAgain, WithoutFactor plainPrimitives "JBSWY3DPEHPK3PXP"
      alice.mfaRecoveryCodesHash request) ∧
    ¬ AllStates (step plainPrimitives exampleConfig) (Protected 1#96 alice.mfaSecretEnc) aliceOnly
      enrollingAgain := by
  refine ⟨by decide +kernel, rfl, rfl, by decide +kernel, by decide +kernel, fun h => ?_⟩
  have hverified : ∃ token ∈ (run (step plainPrimitives exampleConfig) aliceOnly
      enrollingAgain).issued, objectIDFromHex token.userID = some 1#96 ∧
        token.mfaVerified = true := by
    decide +kernel
  obtain ⟨token, hmem, hid, hverified⟩ := hverified
  have hsafe := h.last.2 token hmem hid
  rw [hverified] at hsafe
  cases hsafe

end Statora.Auth
