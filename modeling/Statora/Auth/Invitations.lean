import Statora.Auth.Service

/-!
# Invitations

Whoever holds the token of an invitation makes an account with it. The handlers look
the invitation up, and write the account and the invitation one after the other.
-/

namespace Statora.Auth
open Library (Prog Fallible)

inductive InvitationError
  | http (status : ℕ) (error : String)
  | internal (e : AuthError)
  deriving DecidableEq, Repr

namespace UserRepository

def emailExistsByHash (emailHash : String) : Fallible Database AuthError Bool :=
  Fallible.query .store fun db =>
    (db.users.findOne fun user => user.emailHash = emailHash).isSome

/-- Both the id and the hash of the email have a unique index. -/
def accepts (user : User) (db : Database) : Bool :=
  !db.users.contains user.id &&
    (db.users.findOne fun other => other.emailHash = user.emailHash).isNone

def insertUser (user : User) (db : Database) : Database :=
  { db with users := db.users.insertOne user }

def create (user : User) : Fallible Database AuthError Unit :=
  Fallible.execIf .store .store (accepts user) (insertUser user)

end UserRepository

section Services
variable (c : Primitives) (cfg : Config)

def emailExists (email : String) : Fallible Database AuthError Bool :=
  let normalized := normalizeEmail c.lower email
  if normalized = "" then return false
  else UserRepository.emailExistsByHash (hashPII c normalized)

structure ProcessResult where
  normalized : String
  hash : String
  encrypted : String
  deriving DecidableEq, Repr

def processPII (nonce : Vector UInt8 12) (value key : String) : Option ProcessResult :=
  let normalized := normalizeEmail c.lower value
  (encrypt c nonce normalized key).map fun encrypted =>
    ⟨normalized, hashPII c normalized, encrypted⟩

structure CreateUserRequest where
  username : String
  email : String
  role : String
  status : String
  invitedBy : Option ObjectID
  password : String

def CreateUserRequest.user (req : CreateUserRequest) (processed : ProcessResult)
    (passwordHash : String) (id : ObjectID) (now : ℤ) : User where
  id := id
  username := req.username
  email := processed.encrypted
  emailHash := processed.hash
  role := req.role
  status := req.status
  invitedBy := req.invitedBy
  passwordHash := passwordHash
  createdAt := now

def createUser (req : CreateUserRequest) (entropy : Entropy) (id : ObjectID) (now : ℤ) :
    Fallible Database AuthError User :=
  match processPII c entropy.nonce req.email cfg.emailEncryptionKey with
  | none => Fallible.throw .cipher
  | some processed =>
    match generateFromPassword c (entropy.salt 0) req.password with
    | none => Fallible.throw .passwordTooLong
    | some passwordHash => do
      let user := req.user processed passwordHash id now
      UserRepository.create user
      return { user with email := processed.normalized }

def decryptStoredEmail (ciphertext : String) : Fallible Database InvitationError String :=
  match decryptPII c ciphertext cfg.emailEncryptionKey with
  | none => Fallible.throw (.internal .cipher)
  | some email => pure email

end Services

structure ActivateRequest where
  token : String := ""
  username : String := ""
  password : String := ""

def fieldError (field tag : String) : String :=
  "Key: '" ++ field ++ "' Error:Field validation for '" ++ field ++ "' failed on the '" ++ tag ++
    "' tag"

/-- A field is checked up to the first rule that it fails. -/
def ActivateRequest.bindingErrors (req : ActivateRequest) : List String :=
  (if req.token = "" then [fieldError "Token" "required"] else []) ++
  (if req.username = "" then [fieldError "Username" "required"] else []) ++
  (if req.password = "" then [fieldError "Password" "required"]
    else if req.password.length < 8 then [fieldError "Password" "min"] else [])

structure ActivateResponse where
  id : String
  email : String
  username : String
  role : String
  deriving DecidableEq, Repr

def findInvitation (filter : UserInvitation → Bool) (missing : InvitationError) :
    Fallible Database InvitationError UserInvitation :=
  Fallible.find (.internal .store) missing fun db => db.userInvitations.findOne filter

def pending (invitation : UserInvitation) : Bool :=
  invitation.acceptedAt.isNone && invitation.revokedAt.isNone

/-- The filter of the lookup; the hash of the token is made as `pii.Hash` makes one. -/
def opensWith (c : Primitives) (token : String) (now : ℤ) (invitation : UserInvitation) : Bool :=
  invitation.tokenHash = hashPII c token && pending invitation && now < invitation.expiresAt

def acceptInvitation (id : ObjectID) (now : ℤ) (db : Database) : Database :=
  { db with
    userInvitations := db.userInvitations.updateByKey id
      fun invitation => { invitation with acceptedAt := some now } }

def revokeInvitation (id : ObjectID) (now : ℤ) (db : Database) : Database :=
  { db with
    userInvitations := db.userInvitations.updateOne
      (fun invitation => invitation.id = id && pending invitation)
      fun invitation => { invitation with revokedAt := some now } }

def replaceToken (id : ObjectID) (tokenHash : String) (expiresAt : ℤ) (db : Database) :
    Database :=
  { db with
    userInvitations := db.userInvitations.updateByKey id
      fun invitation => { invitation with tokenHash := tokenHash, expiresAt := expiresAt } }

section Handlers
variable (c : Primitives) (cfg : Config)

def activateWith (req : ActivateRequest) (entropy : Entropy) (rt : Runtime)
    (invitation : UserInvitation) : Fallible Database InvitationError ActivateResponse := do
  let invitationEmail ← decryptStoredEmail c cfg invitation.email
  let taken ← (emailExists c invitationEmail).mapError .internal
  if taken then Fallible.throw (.http 409 "user with this email already exists")
  else do
    let user ← (createUser c cfg {
        username := trimSpace req.username
        email := invitationEmail
        role := invitation.role
        status := "active"
        invitedBy := some invitation.createdBy
        password := req.password } entropy (rt.newID 0) (rt.clock 2)).mapError .internal
    Fallible.exec (.internal .store) (acceptInvitation invitation.id (rt.clock 1))
    return ⟨user.id.hex, user.email, user.username, user.role⟩

def activateUserInvitation (req : ActivateRequest) (entropy : Entropy) (rt : Runtime) :
    Fallible Database InvitationError ActivateResponse :=
  if req.bindingErrors ≠ [] then
    Fallible.throw (.http 400 (String.intercalate "\n" req.bindingErrors))
  else if trimSpace req.token = "" || trimSpace req.username = "" then
    Fallible.throw (.http 400 "token, username and password are required")
  else do
    let invitation ← findInvitation (opensWith c (trimSpace req.token) (rt.clock 0))
      (.http 400 "invalid or expired invitation token")
    activateWith c cfg req entropy rt invitation

structure RequestOrigin where
  tls : Bool := false
  forwardedProto : String := ""
  host : String := ""

def buildActivationLink (origin : RequestOrigin) (rawToken : String) : String :=
  let scheme := if origin.tls then "https" else "http"
  let scheme := if origin.forwardedProto ≠ "" then origin.forwardedProto else scheme
  let host := if origin.host = "" then "localhost" else origin.host
  scheme ++ "://" ++ host ++ "/admin/activate?token=" ++ rawToken

def generateInviteToken (bytes : Vector UInt8 32) : String :=
  String.ofList <| bytes.toList.flatMap fun byte => (hexDigits 2 byte.toNat).map hexChar

structure RefreshResponse where
  id : String
  email : String
  role : String
  expiresAt : ℤ
  activationLink : String
  token : String
  deriving DecidableEq, Repr

/-- Without `random` the source of randomness has failed. -/
def refreshUserInvitation (rawID : String) (origin : RequestOrigin)
    (random : Option (Vector UInt8 32)) (rt : Runtime) :
    Fallible Database InvitationError RefreshResponse :=
  match objectIDFromHex rawID with
  | none => Fallible.throw (.http 400 "invalid invitation id")
  | some invitationID => do
    let invitation ← findInvitation
      (fun invitation => invitation.id = invitationID && pending invitation)
      (.http 404 "invitation not found")
    match random with
    | none => Fallible.throw (.http 500 "failed to generate invitation token")
    | some bytes => do
      let rawToken := generateInviteToken bytes
      let expiresAt := rt.clock 0 + 48 * hour
      Fallible.exec (.internal .store) (replaceToken invitationID (hashPII c rawToken) expiresAt)
      let email ← decryptStoredEmail c cfg invitation.email
      return {
        id := invitationID.hex
        email := email
        role := invitation.role
        expiresAt := expiresAt
        activationLink := buildActivationLink origin rawToken
        token := rawToken }

def revokeUserInvitation (rawID : String) (rt : Runtime) :
    Fallible Database InvitationError Unit :=
  match objectIDFromHex rawID with
  | none => Fallible.throw (.http 400 "invalid invitation id")
  | some invitationID =>
    Fallible.execIf (.internal .store) (.http 404 "invitation not found")
      (fun db => (db.userInvitations.findOne fun invitation =>
        invitation.id = invitationID && pending invitation).isSome)
      (revokeInvitation invitationID (rt.clock 0))

end Handlers

inductive InvitationRequest
  | activate (req : ActivateRequest) (entropy : Entropy) (rt : Runtime)
  | refresh (rawID : String) (origin : RequestOrigin) (random : Option (Vector UInt8 32))
      (rt : Runtime)
  | revoke (rawID : String) (rt : Runtime)

inductive InvitationReply
  | activated (response : ActivateResponse)
  | refreshed (response : RefreshResponse)
  | revoked
  deriving DecidableEq, Repr

def InvitationRequest.program (c : Primitives) (cfg : Config) :
    InvitationRequest → Prog Database (Except InvitationError InvitationReply)
  | .activate req entropy rt =>
    (do return .activated (← activateUserInvitation c cfg req entropy rt) :
      Fallible Database InvitationError InvitationReply)
  | .refresh rawID origin random rt =>
    (do return .refreshed (← refreshUserInvitation c cfg rawID origin random rt) :
      Fallible Database InvitationError InvitationReply)
  | .revoke rawID rt =>
    (do
      revokeUserInvitation rawID rt
      return .revoked : Fallible Database InvitationError InvitationReply)

end Statora.Auth
