import Statora.Auth.Crypto
import Statora.Library.StoreProgram

/-!
# Login and the second factor

The repository of users and the services that log a user in, enroll a second
factor, check it and take it away. An access token is the claims it carries:
nobody can make one that the services did not issue.
-/

namespace Statora.Auth
open Library (Fallible)

inductive AuthError
  | invalidCredentials
  | mfaRequired
  | invalidMFACode
  | invalidPassword
  | mfaSecretUnavailable
  | noDocuments
  | invalidID
  | cipher
  | passwordTooLong
  | ssoNotConfigured
  | ssoDisabled
  | invalidToken
  | userNotFound
  | ssoNotAllowed
  | store
  deriving DecidableEq, Repr

structure Config where
  mfaSecretKey : String
  emailEncryptionKey : String
  issuer : String := ""

/-- The issuer that `NewMFAService` falls back to is "Statora". -/
def Config.resolvedIssuer (cfg : Config) : String :=
  let issuer := trimSpace cfg.issuer
  if issuer = "" then "Statora" else issuer

namespace UserRepository
variable (id : String)

def findByID : Fallible Database AuthError User :=
  match objectIDFromHex id with
  | none => Fallible.throw .invalidID
  | some objectID => Fallible.find .store .noDocuments fun db => db.users.findByKey objectID

def findByEmailHash (emailHash : String) : Fallible Database AuthError User :=
  Fallible.find .store .noDocuments fun db => db.users.findOne fun user =>
    user.emailHash = emailHash

/-- `UpdateByID` does not tell whether there was a document to update. -/
def updateByID (set : User → User) (hset : ∀ user, (set user).id = user.id) :
    Fallible Database AuthError Unit :=
  match objectIDFromHex id with
  | none => Fallible.throw .invalidID
  | some objectID => Fallible.exec .store fun db =>
      { db with users := db.users.updateByKey objectID set hset }

def enrolled (secretEnc : String) (recoveryHashes : List String) (user : User) : User :=
  { user with
    mfaSecretEnc := secretEnc
    mfaRecoveryCodesHash := recoveryHashes
    mfaEnabled := false }

theorem enrolled_id (secretEnc : String) (recoveryHashes : List String) (user : User) :
    (enrolled secretEnc recoveryHashes user).id = user.id := rfl

def beginMFAEnrollment (secretEnc : String) (recoveryHashes : List String) :
    Fallible Database AuthError Unit :=
  updateByID id (enrolled secretEnc recoveryHashes) (enrolled_id secretEnc recoveryHashes)

def enableMFA : Fallible Database AuthError Unit :=
  updateByID id (fun user => { user with mfaEnabled := true }) fun _ => rfl

def disableMFA : Fallible Database AuthError Unit :=
  updateByID id (fun user =>
    { user with mfaEnabled := false, mfaSecretEnc := "", mfaRecoveryCodesHash := [] }) fun _ => rfl

def replaceRecoveryCodes (hashes : List String) : Fallible Database AuthError Unit :=
  updateByID id (fun user => { user with mfaRecoveryCodesHash := hashes }) fun _ => rfl

def withProfile (username : String) (passwordHash : Option String) (user : User) : User :=
  { user with username := username, passwordHash := passwordHash.getD user.passwordHash }

def updateProfile (username : String) (passwordHash : Option String) :
    Fallible Database AuthError Unit :=
  updateByID id (withProfile username passwordHash) fun _ => rfl

end UserRepository

structure TokenClaims where
  userID : String
  username : String
  role : String
  mfaVerified : Bool
  issuedAt : ℤ
  deriving DecidableEq, Repr

def generateAccessToken (userID username role : String) (mfaVerified : Bool) (now : ℤ) :
    TokenClaims :=
  ⟨userID, username, role, mfaVerified, unix now⟩

structure LoginResult where
  token : TokenClaims
  userID : String
  username : String
  email : String
  role : String
  mfaRequired : Bool
  deriving DecidableEq, Repr

def buildLoginResult (user : User) (mfaVerified : Bool) (now : ℤ) : LoginResult :=
  let role := if user.role = "" then "admin" else user.role
  { token := generateAccessToken user.id.hex user.username role mfaVerified now
    userID := user.id.hex
    username := user.username
    email := user.email
    role := role
    mfaRequired := !mfaVerified }

structure VerifyChallengeResult where
  token : TokenClaims
  mfaVerified : Bool
  deriving DecidableEq, Repr

def buildVerifiedTokenResult (user : User) (now : ℤ) : VerifyChallengeResult :=
  let role := trimSpace user.role
  let role := if role = "" then "admin" else role
  ⟨generateAccessToken user.id.hex user.username role true now, true⟩

section Services
variable (c : Primitives) (cfg : Config)

def decryptUserEmail (user : User) : Fallible Database AuthError User :=
  match decryptPII c user.email cfg.emailEncryptionKey with
  | none => Fallible.throw .cipher
  | some email => pure { user with email := email }

def findUserByEmail (email : String) : Fallible Database AuthError User :=
  let normalized := normalizeEmail c.lower email
  if normalized = "" then Fallible.throw .noDocuments
  else do
    let user ← UserRepository.findByEmailHash (hashPII c normalized)
    decryptUserEmail c cfg user

def getUserByID (id : String) : Fallible Database AuthError User := do
  let user ← UserRepository.findByID id
  decryptUserEmail c cfg user

def login (email password : String) (rt : Runtime) :
    Fallible Database AuthError LoginResult := do
  let user ← (findUserByEmail c cfg email).mapError fun _ => AuthError.invalidCredentials
  if !c.compareHashAndPassword user.passwordHash password then
    Fallible.throw .invalidCredentials
  else return buildLoginResult user (!user.mfaEnabled) (rt.clock 0)

structure StartEnrollmentResult where
  secret : String
  otpAuthURL : String
  recoveryCodes : List String
  deriving DecidableEq, Repr

def startEnrollment (userID : String) (entropy : Entropy) :
    Fallible Database AuthError StartEnrollmentResult := do
  let user ← UserRepository.findByID userID
  let secret := generateTOTPSecret entropy.secret
  match encryptMFASecret c entropy.nonce secret cfg.mfaSecretKey with
  | none => Fallible.throw .cipher
  | some encSecret =>
    match generateRecoveryCodes c entropy defaultRecoveryCodesCount with
    | none => Fallible.throw .passwordTooLong
    | some (recoveryCodes, recoveryHashes) => do
      UserRepository.beginMFAEnrollment userID encSecret recoveryHashes
      return {
        secret := secret
        otpAuthURL := buildOTPAuthURL cfg.resolvedIssuer user.email secret
        recoveryCodes := recoveryCodes }

def verifyEnrollment (userID code : String) (rt : Runtime) :
    Fallible Database AuthError VerifyChallengeResult := do
  let user ← UserRepository.findByID userID
  match decryptMFASecret c (trimSpace user.mfaSecretEnc) cfg.mfaSecretKey with
  | none => Fallible.throw .mfaSecretUnavailable
  | some secret =>
    if !verifyTOTPCode c secret code (rt.clock 0) then Fallible.throw .invalidMFACode
    else do
      UserRepository.enableMFA userID
      return buildVerifiedTokenResult user (rt.clock 1)

def verifyMFAFactor (userID secretEnc : String) (recoveryHashes : List String) (code : String)
    (now : ℤ) : Fallible Database AuthError Unit :=
  match decryptMFASecret c (trimSpace secretEnc) cfg.mfaSecretKey with
  | none => Fallible.throw .mfaSecretUnavailable
  | some secret =>
    if verifyTOTPCode c secret code now then pure ()
    else
      match consumeRecoveryCode c recoveryHashes code with
      | (_, false) => Fallible.throw .invalidMFACode
      | (updatedHashes, true) => UserRepository.replaceRecoveryCodes userID updatedHashes

def verifyChallenge (userID code : String) (rt : Runtime) :
    Fallible Database AuthError VerifyChallengeResult := do
  let user ← UserRepository.findByID userID
  if !user.mfaEnabled then Fallible.throw .mfaRequired
  else do
    verifyMFAFactor c cfg userID user.mfaSecretEnc user.mfaRecoveryCodesHash code (rt.clock 0)
    return buildVerifiedTokenResult user (rt.clock 1)

def disableMFA (userID password code : String) (rt : Runtime) :
    Fallible Database AuthError Unit := do
  let user ← UserRepository.findByID userID
  if !c.compareHashAndPassword user.passwordHash password then Fallible.throw .invalidPassword
  else if !user.mfaEnabled then Fallible.throw .mfaRequired
  else do
    verifyMFAFactor c cfg userID user.mfaSecretEnc user.mfaRecoveryCodesHash code (rt.clock 0)
    UserRepository.disableMFA userID

def updateProfile (userID username currentPassword newPassword : String)
    (salt : Vector UInt8 16) : Fallible Database AuthError Unit := do
  let user ← UserRepository.findByID userID
  if trimSpace newPassword = "" then UserRepository.updateProfile userID username none
  else if !c.compareHashAndPassword user.passwordHash currentPassword then
    Fallible.throw .invalidPassword
  else
    match generateFromPassword c salt newPassword with
    | none => Fallible.throw .passwordTooLong
    | some hash => UserRepository.updateProfile userID username (some hash)

end Services

/-- What the handlers pass on. Verifying an enrollment has no route of its own:
`mfaVerify` chooses between the two checks. -/
inductive Request
  | login (email password : String) (rt : Runtime)
  | startEnrollment (token : TokenClaims) (entropy : Entropy)
  | mfaVerify (token : TokenClaims) (code : String) (rt : Runtime)
  | verifyEnrollment (token : TokenClaims) (code : String) (rt : Runtime)
  | verifyChallenge (token : TokenClaims) (code : String) (rt : Runtime)
  | disableMFA (token : TokenClaims) (password code : String) (rt : Runtime)
  | updateProfile (token : TokenClaims) (username currentPassword newPassword : String)
      (salt : Vector UInt8 16)

structure State where
  db : Database
  issued : List TokenClaims

/-- `AuthMiddleware`, which any token of the service passes, and the user id that
the handlers take from it. -/
def State.admits (st : State) (token : TokenClaims) : Bool :=
  token ∈ st.issued && token.userID ≠ ""

def State.after {α : Type} (st : State) (p : Fallible Database AuthError α)
    (tokens : α → List TokenClaims) : State where
  db := (p.run st.db).2
  issued := st.issued ++ (p.run st.db).1.toOption.elim [] tokens

section Requests
variable (c : Primitives) (cfg : Config)

def mfaVerify (userID code : String) (rt : Runtime) :
    Fallible Database AuthError VerifyChallengeResult := do
  let user ← getUserByID c cfg userID
  if user.mfaEnabled then verifyChallenge c cfg userID code rt
  else verifyEnrollment c cfg userID code rt

/-- The bodies must have their fields: an empty text counts as missing. -/
def step (st : State) : Request → State
  | .login email password rt =>
    if email = "" || password = "" then st
    else st.after (login c cfg email password rt) fun result => [result.token]
  | .startEnrollment token entropy =>
    if st.admits token then st.after (startEnrollment c cfg token.userID entropy) fun _ => []
    else st
  | .mfaVerify token code rt =>
    if st.admits token && code ≠ "" then
      st.after (mfaVerify c cfg token.userID code rt) fun result => [result.token]
    else st
  | .verifyEnrollment token code rt =>
    if st.admits token && code ≠ "" then
      st.after (verifyEnrollment c cfg token.userID code rt) fun result => [result.token]
    else st
  | .verifyChallenge token code rt =>
    if st.admits token && code ≠ "" then
      st.after (verifyChallenge c cfg token.userID code rt) fun result => [result.token]
    else st
  | .disableMFA token password code rt =>
    if st.admits token && password ≠ "" && code ≠ "" then
      st.after (disableMFA c cfg token.userID password code rt) fun _ => []
    else st
  | .updateProfile token username currentPassword newPassword salt =>
    if st.admits token && username ≠ "" then
      st.after (updateProfile c token.userID username currentPassword newPassword salt) fun _ => []
    else st

end Requests
end Statora.Auth
