import Mathlib.Data.List.Induction
import Statora.Auth.Members
import Statora.Auth.SecondFactor
import Statora.Library.PastEvents

/-!
# Tokens and the records behind them

A token names a user and a role as the record had them when the token was issued. The
gates compare the token and never look at the record again.
-/

namespace Statora.Auth
open Library (AllSteps Collection Fallible Since run run_append run_cons run_nil since_now)

section Requests
variable (c : Primitives) (cfg : Config) (jwt : JWT) (lower : Char → Char)

def issuedBy (st : State) (request : MemberRequest) : List TokenClaims :=
  (memberStep c cfg jwt lower st request).issued.drop st.issued.length

def storedRole (user : User) : String := if trimSpace user.role = "" then "admin" else user.role

def IssuesToStored (st : State) (request : MemberRequest) : Prop :=
  ∀ claims ∈ issuedBy c cfg jwt lower st request,
    ∃ user, st.db.users.findByKey user.id = some user ∧ claims.userID = user.id.hex

def IssuedWithRole (db : Database) (allowedRoles : List String) (claims : TokenClaims)
    (before : List MemberRequest) (issue : MemberRequest) : Prop :=
  let st := run (memberStep c cfg jwt lower) ⟨db, []⟩ before
  claims ∈ issuedBy c cfg jwt lower st issue ∧
    ∃ user, st.db.users.findByKey user.id = some user ∧ claims.userID = user.id.hex ∧
      normalizedRole lower (storedRole user) ∈ allowed lower allowedRoles

def PassesAsIssued (db : Database) (history : List MemberRequest) (request : MemberRequest) :
    Prop :=
  ∀ allowedRoles credentials claims, request.gate = some (allowedRoles, credentials) →
    roleGate jwt lower (run (memberStep c cfg jwt lower) ⟨db, []⟩ history).issued allowedRoles
      credentials = .ok claims →
    claims.mfaVerified = true ∧
      Since (IssuedWithRole c cfg jwt lower db allowedRoles claims) (fun _ => True) history

end Requests

structure BearsRecord (lower : Char → Char) (db : Database) (claims : TokenClaims)
    (user : User) : Prop where
  stored : db.users.findByKey user.id = some user
  named : claims.userID = user.id.hex
  role : normalizedRole lower claims.role ≠ "" →
    normalizedRole lower claims.role = normalizedRole lower (storedRole user)

section Tokens
variable {c : Primitives} {cfg : Config} {jwt : JWT} {lower : Char → Char} {st : State}

theorem normalizedRole_of_blank {role : String} (h : trimSpace role = "") :
    normalizedRole lower role = "" := by
  unfold normalizedRole
  rw [h]
  rfl

theorem normalizedRole_trimSpace (role : String) :
    normalizedRole lower (trimSpace role) = normalizedRole lower role := by
  unfold normalizedRole
  rw [trimSpace_trimSpace]

theorem buildLoginResult_role (user : User) (mfaVerified : Bool) (now : ℤ) :
    (buildLoginResult user mfaVerified now).token.role =
      if user.role = "" then "admin" else user.role := rfl

theorem bearsRecord_login {db : Database} {user : User}
    (h : db.users.findByKey user.id = some user) (plain : String) (mfaVerified : Bool) (now : ℤ) :
    BearsRecord lower db (buildLoginResult { user with email := plain } mfaVerified now).token
      user := by
  refine ⟨h, rfl, fun hrole => ?_⟩
  rw [buildLoginResult_role] at hrole ⊢
  dsimp only at hrole ⊢
  unfold storedRole
  by_cases hempty : user.role = ""
  · rw [hempty]
    rfl
  · rw [if_neg hempty] at hrole ⊢
    rw [if_neg fun hblank => hrole (normalizedRole_of_blank hblank)]

theorem buildVerifiedTokenResult_role (user : User) (now : ℤ) :
    (buildVerifiedTokenResult user now).token.role =
      if trimSpace user.role = "" then "admin" else trimSpace user.role := rfl

theorem bearsRecord_verified {db : Database} {id : String} {result : VerifyChallengeResult}
    (h : VerifiesStored id db result) : ∃ user, BearsRecord lower db result.token user := by
  obtain ⟨user, now, -, hstored, rfl⟩ := h
  refine ⟨user, hstored, rfl, fun _ => ?_⟩
  rw [buildVerifiedTokenResult_role]
  unfold storedRole
  split_ifs
  · rfl
  · exact normalizedRole_trimSpace user.role

theorem getSSOSettings_eq_ok {settings : StatusPageSSOSettings} {db db' : Database}
    (h : getSSOSettings.run db = (.ok settings, db')) : db'.users = db.users := by
  unfold getSSOSettings at h
  rw [Fallible.run_bind, Fallible.run_query] at h
  dsimp only at h
  split at h <;> cases h <;> rfl

theorem authenticateSSO_eq_ok {rawToken : String} {rt : Runtime} {db db' : Database}
    {result : LoginResult}
    (h : (authenticateSSO c cfg jwt rawToken rt).run db = (.ok result, db')) :
    ∃ stored plain, db.users.findByKey stored.id = some stored ∧
      result = buildLoginResult { stored with email := plain } true (rt.clock 1) := by
  obtain ⟨settings, db₁, hsettings, hrest⟩ := Fallible.run_bind_eq_ok h
  split at hrest
  · cases hrest
  · split at hrest
    · cases hrest
    · split at hrest
      · cases hrest
      · split at hrest
        · cases hrest
        · dsimp only at hrest
          split at hrest
          · cases hrest
          · obtain ⟨user, _, hfound, hlast⟩ := Fallible.run_bind_eq_ok hrest
            split at hlast
            · cases hlast
            · obtain ⟨stored, plain, hstored, rfl⟩ := findUserByEmail_eq_ok c cfg hfound
              rw [getSSOSettings_eq_ok hsettings] at hstored
              exact ⟨stored, plain, hstored, Fallible.run_pure_eq_ok hlast⟩

def AddsRecorded (lower : Char → Char) (st st' : State) : Prop :=
  ∃ new, st'.issued = st.issued ++ new ∧
    ∀ claims ∈ new, ∃ user, BearsRecord lower st.db claims user

theorem addsRecorded_nothing {st' : State} (h : st'.issued = st.issued) :
    AddsRecorded lower st st' :=
  ⟨[], by rw [h, List.append_nil], fun _ hmem => absurd hmem List.not_mem_nil⟩

theorem addsRecorded_after {α : Type} {p : Fallible Database AuthError α}
    {tokens : α → List TokenClaims}
    (h : ∀ a db', p.run st.db = (.ok a, db') →
      ∀ claims ∈ tokens a, ∃ user, BearsRecord lower st.db claims user) :
    AddsRecorded lower st (st.after p tokens) := by
  refine ⟨_, rfl, fun claims hmem => ?_⟩
  rcases hrun : p.run st.db with ⟨_ | a, db'⟩ <;> rw [hrun] at hmem
  · cases hmem
  · exact h a db' hrun claims hmem

theorem addsRecorded_login {p : Fallible Database AuthError LoginResult}
    (h : ∀ result db', p.run st.db = (.ok result, db') → ∃ user plain mfaVerified now,
      st.db.users.findByKey user.id = some user ∧
        result = buildLoginResult { user with email := plain } mfaVerified now) :
    AddsRecorded lower st (st.after p fun result => [result.token]) := by
  refine addsRecorded_after fun result db' hrun claims hmem => ?_
  obtain ⟨user, plain, mfaVerified, now, hstored, rfl⟩ := h result db' hrun
  rw [List.mem_singleton.mp hmem]
  exact ⟨user, bearsRecord_login hstored plain mfaVerified now⟩

theorem addsRecorded_verified {p : Fallible Database AuthError VerifyChallengeResult}
    {id : String}
    (h : ∀ result db', p.run st.db = (.ok result, db') → VerifiesStored id st.db result) :
    AddsRecorded lower st (st.after p fun result => [result.token]) := by
  refine addsRecorded_after fun result db' hrun claims hmem => ?_
  rw [List.mem_singleton.mp hmem]
  exact bearsRecord_verified (h result db' hrun)

theorem addsRecorded_step (st : State) (request : Request) :
    AddsRecorded lower st (step c cfg st request) := by
  cases request with
  | login email password rt =>
    dsimp only [step]
    split_ifs
    · exact addsRecorded_nothing rfl
    · refine addsRecorded_login fun result db' hrun => ?_
      obtain ⟨user, plain, hstored, hresult⟩ := login_eq_ok c cfg hrun
      exact ⟨user, plain, _, _, hstored, hresult⟩
  | startEnrollment token entropy =>
    dsimp only [step]
    split_ifs
    · exact addsRecorded_after fun _ _ _ _ hmem => absurd hmem List.not_mem_nil
    · exact addsRecorded_nothing rfl
  | mfaVerify token code rt =>
    dsimp only [step]
    split_ifs
    · exact addsRecorded_verified fun _ _ => mfaVerify_eq_ok c cfg
    · exact addsRecorded_nothing rfl
  | verifyEnrollment token code rt =>
    dsimp only [step]
    split_ifs
    · exact addsRecorded_verified fun _ _ => verifyEnrollment_eq_ok c cfg
    · exact addsRecorded_nothing rfl
  | verifyChallenge token code rt =>
    dsimp only [step]
    split_ifs
    · exact addsRecorded_verified fun _ _ => verifyChallenge_eq_ok c cfg
    · exact addsRecorded_nothing rfl
  | disableMFA token password code rt | updateProfile token username current new salt =>
    dsimp only [step]
    split_ifs
    · exact addsRecorded_after fun _ _ _ _ hmem => absurd hmem List.not_mem_nil
    · exact addsRecorded_nothing rfl

theorem addsRecorded_memberStep (st : State) (request : MemberRequest) :
    AddsRecorded lower st (memberStep c cfg jwt lower st request) := by
  cases request with
  | account request => exact addsRecorded_step st request
  | authenticateSSO rawToken rt =>
    dsimp only [memberStep]
    split_ifs
    · exact addsRecorded_nothing rfl
    · refine addsRecorded_login fun result db' hrun => ?_
      obtain ⟨user, plain, hstored, hresult⟩ := authenticateSSO_eq_ok hrun
      exact ⟨user, plain, _, _, hstored, hresult⟩
  | patchUser credentials id req | deleteUser credentials id
  | roleGated allowedRoles credentials handler =>
    dsimp only [memberStep]
    split <;> exact addsRecorded_nothing rfl
  | other handler => exact addsRecorded_nothing rfl

theorem memberStep_issued (st : State) (request : MemberRequest) :
    (memberStep c cfg jwt lower st request).issued =
      st.issued ++ issuedBy c cfg jwt lower st request := by
  have hadds : AddsRecorded lower st (memberStep c cfg jwt lower st request) :=
    addsRecorded_memberStep st request
  obtain ⟨new, hnew, -⟩ := hadds
  unfold issuedBy
  rw [hnew, List.drop_left]

theorem bearsRecord_of_issuedBy {request : MemberRequest} {claims : TokenClaims}
    (h : claims ∈ issuedBy c cfg jwt lower st request) :
    ∃ user, BearsRecord lower st.db claims user := by
  have hadds : AddsRecorded lower st (memberStep c cfg jwt lower st request) :=
    addsRecorded_memberStep st request
  obtain ⟨new, hnew, hrecorded⟩ := hadds
  unfold issuedBy at h
  rw [hnew, List.drop_left] at h
  exact hrecorded claims h

theorem since_issued (db : Database) {history : List MemberRequest} {claims : TokenClaims}
    (h : claims ∈ (run (memberStep c cfg jwt lower) ⟨db, []⟩ history).issued) :
    Since (fun before issue => claims ∈ issuedBy c cfg jwt lower
      (run (memberStep c cfg jwt lower) ⟨db, []⟩ before) issue) (fun _ => True) history := by
  induction history using List.reverseRecOn with
  | nil => cases h
  | append_singleton history request ih =>
    rw [run_append, run_cons, run_nil, memberStep_issued] at h
    rcases List.mem_append.mp h with hold | hnew
    · exact (ih hold).snoc trivial
    · exact since_now hnew

theorem mem_of_authMiddleware {issued : List TokenClaims} {credentials : Credentials}
    {claims : TokenClaims} (h : authMiddleware jwt issued credentials = .ok claims) :
    claims ∈ issued := by
  unfold authMiddleware at h
  split at h
  · cases h
  · split at h
    · cases h
    · rename_i hparsed
      cases h
      exact List.mem_of_find?_eq_some hparsed

theorem roleGate_eq_ok {issued : List TokenClaims} {allowedRoles : List String}
    {credentials : Credentials} {claims : TokenClaims}
    (h : roleGate jwt lower issued allowedRoles credentials = .ok claims) :
    claims ∈ issued ∧ claims.mfaVerified = true ∧
      normalizedRole lower claims.role ∈ allowed lower allowedRoles := by
  unfold roleGate at h
  cases hauth : authMiddleware jwt issued credentials with
  | error e =>
    rw [hauth] at h
    cases h
  | ok found =>
    rw [hauth] at h
    change (requireMFAVerified found >>= fun _ => requireRoles lower allowedRoles found >>=
      fun _ => pure found) = .ok claims at h
    unfold requireMFAVerified requireRoles at h
    split_ifs at h with hverified hrole <;> cases h
    exact ⟨mem_of_authMiddleware hauth, hverified, hrole⟩

end Tokens

theorem gates_run (c : Primitives) (cfg : Config) (jwt : JWT) (lower : Char → Char)
    (db : Database) (history : List MemberRequest) (request : MemberRequest) :
    IssuesToStored c cfg jwt lower (run (memberStep c cfg jwt lower) ⟨db, []⟩ history) request ∧
      PassesAsIssued c cfg jwt lower db history request := by
  refine ⟨fun claims hmem => ?_, fun allowedRoles credentials claims _ hpasses => ?_⟩
  · obtain ⟨user, hrecord⟩ := bearsRecord_of_issuedBy hmem
    exact ⟨user, hrecord.stored, hrecord.named⟩
  · obtain ⟨hissued, hverified, hrole⟩ := roleGate_eq_ok hpasses
    refine ⟨hverified, (since_issued db hissued).imp fun before issue hmem => ⟨hmem, ?_⟩⟩
    obtain ⟨user, hrecord⟩ := bearsRecord_of_issuedBy hmem
    have hset : normalizedRole lower claims.role ≠ "" := by
      simpa using (List.mem_filter.mp hrole).2
    rw [hrecord.role hset] at hrole
    exact ⟨user, hrecord.stored, hrecord.named, hrole⟩

/-- A token comes, and a gate is passed, only for a user whose record is there, not
disabled, and has a required role. -/
structure FollowsRecord (c : Primitives) (cfg : Config) (jwt : JWT) (lower : Char → Char)
    (st : State) (request : MemberRequest) : Prop where
  issued : ∀ claims ∈ issuedBy c cfg jwt lower st request, ∃ user ∈ st.db.users.docs,
    claims.userID = user.id.hex ∧ user.status ≠ "disabled"
  passed : ∀ allowedRoles credentials claims, request.gate = some (allowedRoles, credentials) →
    roleGate jwt lower st.issued allowedRoles credentials = .ok claims →
    ∃ user ∈ st.db.users.docs, claims.userID = user.id.hex ∧ user.status ≠ "disabled" ∧
      normalizedRole lower (storedRole user) ∈ allowed lower allowedRoles

def plainJWT : JWT where
  signedString claims := claims.userID ++ "." ++ claims.role
  parseRSAPublicKeyFromPEM _ := none
  parseWithClaims _ _ _ _ _ := none

def adminMember (id : ObjectID) (username email : String) : User where
  id := id
  username := username
  email := (encrypt plainPrimitives exampleEntropy.nonce email
    exampleConfig.emailEncryptionKey).getD ""
  emailHash := hashPII plainPrimitives email
  role := "admin"
  passwordHash := "$2a$password"

def root : User := adminMember 2#96 "root" "root@example.com"

def bob : User := adminMember 3#96 "bob" "bob@example.com"

def rootAndBob : State := ⟨{ users := (Collection.empty.insertOne root).insertOne bob }, []⟩

def loginOf (email : String) : MemberRequest :=
  .account (.login email "password" ⟨fun _ => 0, fun _ => NilObjectID⟩)

def tokenOf (user : User) : TokenClaims := ⟨user.id.hex, user.username, "admin", true, 0⟩

def bearer (claims : TokenClaims) : Credentials where
  authorization := "Bearer " ++ plainJWT.signedString claims

def whileLoggedIn (change request : MemberRequest) : List MemberRequest :=
  [loginOf "bob@example.com", loginOf "root@example.com", change, request]

def disableBob : MemberRequest :=
  .patchUser (bearer (tokenOf root)) bob.id.hex { status := "disabled" }

def demoteBob : MemberRequest :=
  .patchUser (bearer (tokenOf root)) bob.id.hex { role := "operator" }

def deleteBob : MemberRequest := .deleteUser (bearer (tokenOf root)) bob.id.hex

def adminRequest : MemberRequest := .roleGated ["admin"] (bearer (tokenOf bob)) id

def afterChange (change : MemberRequest) : State :=
  run (memberStep plainPrimitives exampleConfig plainJWT toLower) rootAndBob
    [loginOf "bob@example.com", loginOf "root@example.com", change]

theorem followsRecord_last {change request : MemberRequest}
    (h : AllSteps (memberStep plainPrimitives exampleConfig plainJWT toLower)
      (FollowsRecord plainPrimitives exampleConfig plainJWT toLower) rootAndBob
      (whileLoggedIn change request)) :
    FollowsRecord plainPrimitives exampleConfig plainJWT toLower (afterChange change) request :=
  h.2.2.2.1

theorem followsRecord_fails :
    ¬ AllSteps (memberStep plainPrimitives exampleConfig plainJWT toLower)
      (FollowsRecord plainPrimitives exampleConfig plainJWT toLower) rootAndBob
      (whileLoggedIn disableBob (loginOf "bob@example.com")) ∧
    ¬ AllSteps (memberStep plainPrimitives exampleConfig plainJWT toLower)
      (FollowsRecord plainPrimitives exampleConfig plainJWT toLower) rootAndBob
      (whileLoggedIn demoteBob adminRequest) ∧
    ¬ AllSteps (memberStep plainPrimitives exampleConfig plainJWT toLower)
      (FollowsRecord plainPrimitives exampleConfig plainJWT toLower) rootAndBob
      (whileLoggedIn deleteBob adminRequest) := by
  have hdisabled : ∃ claims ∈ issuedBy plainPrimitives exampleConfig plainJWT toLower
      (afterChange disableBob) (loginOf "bob@example.com"),
      ∀ user ∈ (afterChange disableBob).db.users.docs, claims.userID = user.id.hex →
        user.status = "disabled" := by
    decide +kernel
  have hpasses : ∀ change ∈ [demoteBob, deleteBob],
      roleGate plainJWT toLower (afterChange change).issued ["admin"] (bearer (tokenOf bob)) =
        .ok (tokenOf bob) ∧
      ∀ user ∈ (afterChange change).db.users.docs, (tokenOf bob).userID = user.id.hex →
        normalizedRole toLower (storedRole user) ∉ allowed toLower ["admin"] := by
    decide +kernel
  have hlast : ∀ change ∈ [demoteBob, deleteBob],
      ¬ FollowsRecord plainPrimitives exampleConfig plainJWT toLower (afterChange change)
        adminRequest := fun change hchange h => by
    obtain ⟨hpass, hnone⟩ := hpasses change hchange
    obtain ⟨user, hmem, hid, -, hrole⟩ := h.passed _ _ _ rfl hpass
    exact hnone user hmem hid hrole
  refine ⟨fun h => ?_, fun h => hlast demoteBob (by simp) (followsRecord_last h),
    fun h => hlast deleteBob (by simp) (followsRecord_last h)⟩
  obtain ⟨claims, hissued, hdisabled⟩ := hdisabled
  obtain ⟨user, hmem, hid, hactive⟩ := (followsRecord_last h).issued claims hissued
  exact hactive (hdisabled user hmem hid)

end Statora.Auth
