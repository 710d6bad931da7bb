import Statora.Auth.Service

/-!
# Single sign-on, the gates of the routes and the members

The second way to log in, the middleware in front of the routes that ask for a role,
and the handlers by which an admin changes or deletes a user.
-/

namespace Statora.Auth
open Library (Fallible)

inductive SigningMethod
  | hs256
  | rs256
  | other (name : String)
  deriving DecidableEq, Repr

inductive SSOKey
  | hmac (secret : String)
  | rsa (publicKey : String)
  deriving DecidableEq, Repr

structure ExternalSSOClaims where
  email : String

/-- The package `jwt`: signing, the keys it reads, and its check of a foreign token
against an issuer, an audience, the key that fits its method, and the time. -/
structure JWT where
  signedString : TokenClaims → String
  parseRSAPublicKeyFromPEM : String → Option String
  parseWithClaims : String → String → (SigningMethod → Option SSOKey) → ℤ → String →
    Option ExternalSSOClaims

structure SSOVerifier where
  settings : StatusPageSSOSettings
  key : SSOKey

def newSSOVerifier (jwt : JWT) (settings : StatusPageSSOSettings) :
    Except AuthError SSOVerifier :=
  let algorithm := String.ofList ((trimSpace settings.algorithm).toList.map toUpper)
  let settings' := { settings with algorithm := algorithm }
  if algorithm = "HS256" then
    let secret := trimSpace settings.sharedSecret
    if secret = "" then .error .ssoNotConfigured else .ok ⟨settings', .hmac secret⟩
  else if algorithm = "RS256" then
    let publicKeyPEM := trimSpace settings.publicKeyPEM
    if publicKeyPEM = "" then .error .ssoNotConfigured
    else
      match jwt.parseRSAPublicKeyFromPEM publicKeyPEM with
      | none => .error .invalidToken
      | some publicKey => .ok ⟨settings', .rsa publicKey⟩
  else .error .ssoNotConfigured

def SSOVerifier.keyFunc (v : SSOVerifier) (method : SigningMethod) : Option SSOKey :=
  if v.settings.algorithm = "HS256" then if method = .hs256 then some v.key else none
  else if v.settings.algorithm = "RS256" then if method = .rs256 then some v.key else none
  else none

def SSOVerifier.verify (jwt : JWT) (v : SSOVerifier) (rawToken : String) (now : ℤ) :
    Except AuthError ExternalSSOClaims :=
  match jwt.parseWithClaims (trimSpace v.settings.issuer) (trimSpace v.settings.audience)
    v.keyFunc now rawToken with
  | none => .error .invalidToken
  | some claims => if trimSpace claims.email = "" then .error .invalidToken else .ok claims

def defaultSSOSettings : StatusPageSSOSettings where
  enabled := false
  algorithm := "HS256"

def getSSOSettings : Fallible Database AuthError StatusPageSSOSettings := do
  let settings ← Fallible.query .store (·.ssoSettings)
  match settings with
  | some settings => return settings
  | none => do
    Fallible.exec .store fun db => { db with ssoSettings := some defaultSSOSettings }
    return defaultSSOSettings

def authenticateSSO (c : Primitives) (cfg : Config) (jwt : JWT) (rawToken : String)
    (rt : Runtime) : Fallible Database AuthError LoginResult := do
  let ssoSettings ← getSSOSettings
  if trimSpace ssoSettings.issuer = "" || trimSpace ssoSettings.audience = "" ||
      trimSpace ssoSettings.algorithm = "" then
    Fallible.throw .ssoNotConfigured
  else if !ssoSettings.enabled then Fallible.throw .ssoDisabled
  else
    match newSSOVerifier jwt ssoSettings with
    | .error _ => Fallible.throw .invalidToken
    | .ok verifier =>
      match verifier.verify jwt rawToken (rt.clock 0) with
      | .error e => Fallible.throw e
      | .ok claims =>
        let email := normalizeEmail c.lower claims.email
        if email = "" then Fallible.throw .invalidToken
        else do
          let user ← (findUserByEmail c cfg email).mapError fun _ => AuthError.userNotFound
          if !user.sso.enabled then Fallible.throw .ssoNotAllowed
          else return buildLoginResult user true (rt.clock 1)

inductive HandlerError
  | http (status : ℕ) (error : String)
  | store
  deriving DecidableEq, Repr

/-- The `Authorization` header, empty when there is none, and the cookie of the service. -/
structure Credentials where
  authorization : String := ""
  cookie : Option String := none

/-- `strings.EqualFold` with "bearer", whose letters fold with nothing outside ASCII. -/
def isBearer (scheme : List Char) : Bool := scheme.map toLower = "bearer".toList

def extractAuthToken (credentials : Credentials) : Except String String :=
  if credentials.authorization ≠ "" then
    match credentials.authorization.toList.span (· ≠ ' ') with
    | (scheme, _ :: token) =>
      if isBearer scheme then .ok (String.ofList token)
      else .error "invalid authorization header format"
    | (_, []) => .error "invalid authorization header format"
  else
    match credentials.cookie with
    | some token => if trimSpace token ≠ "" then .ok token else .error "authorization required"
    | none => .error "authorization required"

section Gates
variable (jwt : JWT) (lower : Char → Char)

/-- The tokens of the service carry no time at which they expire. -/
def parseClaims (issued : List TokenClaims) (tokenStr : String) : Option TokenClaims :=
  issued.find? fun claims => jwt.signedString claims = tokenStr

def authMiddleware (issued : List TokenClaims) (credentials : Credentials) :
    Except HandlerError TokenClaims :=
  match extractAuthToken credentials with
  | .error e => .error (.http 401 e)
  | .ok tokenStr =>
    match parseClaims jwt issued tokenStr with
    | none => .error (.http 401 "invalid or expired token")
    | some claims => .ok claims

def requireMFAVerified (claims : TokenClaims) : Except HandlerError Unit :=
  if claims.mfaVerified then .ok () else .error (.http 403 "mfa verification required")

/-- `strings.ToLower` of `strings.TrimSpace`, where `lower` stands for `unicode.ToLower`. -/
def normalizedRole (role : String) : String := String.ofList ((trimSpace role).toList.map lower)

def allowed (allowedRoles : List String) : List String :=
  (allowedRoles.map (normalizedRole lower)).filter (· ≠ "")

def requireRoles (allowedRoles : List String) (claims : TokenClaims) : Except HandlerError Unit :=
  if normalizedRole lower claims.role ∈ allowed lower allowedRoles then .ok ()
  else .error (.http 403 "insufficient permissions")

def roleGate (issued : List TokenClaims) (allowedRoles : List String)
    (credentials : Credentials) : Except HandlerError TokenClaims := do
  let claims ← authMiddleware jwt issued credentials
  requireMFAVerified claims
  requireRoles lower allowedRoles claims
  return claims

end Gates

def allowedUserRoles : List String := ["admin", "operator"]

def allowedUserStatuses : List String := ["active", "disabled", "invited"]

structure UserResponse where
  id : String
  username : String
  email : String
  role : String
  status : String
  ssoEnabled : Bool
  deriving DecidableEq, Repr

def mapUser (user : User) : UserResponse where
  id := user.id.hex
  username := user.username
  email := user.email
  role := if user.role = "" then "admin" else user.role
  status := if user.status = "" then "active" else user.status
  ssoEnabled := user.sso.enabled

structure PatchUserRequest where
  role : String := ""
  status : String := ""
  ssoEnabled : Option Bool := none

/-- The `$set` document. The `updatedAt` in it is no field of `models.User`. -/
def PatchUserRequest.set (req : PatchUserRequest) (user : User) : User :=
  { user with
    role := if req.role ≠ "" then req.role else user.role
    status := if req.status ≠ "" then req.status else user.status
    sso := { user.sso with enabled := req.ssoEnabled.getD user.sso.enabled } }

theorem PatchUserRequest.set_id (req : PatchUserRequest) (user : User) :
    (req.set user).id = user.id := rfl

def patchUser (id : String) (req : PatchUserRequest) :
    Fallible Database HandlerError UserResponse :=
  match objectIDFromHex id with
  | none => Fallible.throw (.http 400 "invalid id")
  | some objectID =>
    if req.role ≠ "" && req.role ∉ allowedUserRoles then
      Fallible.throw (.http 400 "invalid role")
    else if req.status ≠ "" && req.status ∉ allowedUserStatuses then
      Fallible.throw (.http 400 "invalid status")
    else if req.role = "" && req.status = "" && req.ssoEnabled.isNone then
      Fallible.throw (.http 400 "no updatable fields provided")
    else do
      let updated ← Fallible.findAndUpdate .store (.http 404 "user not found")
        (fun db => { db with users := db.users.updateByKey objectID req.set req.set_id })
        fun db => db.users.findByKey objectID
      return mapUser updated

/-- `AuthMiddleware` has set the id of the current user, which the gate comes before. -/
def deleteUser (id currentUserIDHex : String) : Fallible Database HandlerError Unit :=
  match objectIDFromHex id with
  | none => Fallible.throw (.http 400 "invalid id")
  | some objectID =>
    match objectIDFromHex currentUserIDHex with
    | none => Fallible.throw (.http 401 "invalid authenticated user id")
    | some currentUserID =>
      if currentUserID = objectID then
        Fallible.throw (.http 400 "cannot delete your own account")
      else
        Fallible.execIf .store (.http 404 "user not found")
          (fun db => db.users.contains objectID)
          fun db => { db with users := db.users.deleteByKey objectID }

/-- `roleGated` and `other` are requests to any other route, with or without a required
role: its handler may change anything in the database, but issues no token. -/
inductive MemberRequest
  | account (request : Request)
  | authenticateSSO (rawToken : String) (rt : Runtime)
  | patchUser (credentials : Credentials) (id : String) (req : PatchUserRequest)
  | deleteUser (credentials : Credentials) (id : String)
  | roleGated (allowedRoles : List String) (credentials : Credentials)
      (handler : Database → Database)
  | other (handler : Database → Database)

def MemberRequest.gate : MemberRequest → Option (List String × Credentials)
  | .account _ | .authenticateSSO _ _ | .other _ => none
  | .patchUser credentials _ _ | .deleteUser credentials _ => some (["admin"], credentials)
  | .roleGated allowedRoles credentials _ => some (allowedRoles, credentials)

def memberStep (c : Primitives) (cfg : Config) (jwt : JWT) (lower : Char → Char) (st : State) :
    MemberRequest → State
  | .account request => step c cfg st request
  | .authenticateSSO rawToken rt =>
    if rawToken = "" then st
    else st.after (authenticateSSO c cfg jwt rawToken rt) fun result => [result.token]
  | .patchUser credentials id req =>
    match roleGate jwt lower st.issued ["admin"] credentials with
    | .error _ => st
    | .ok _ => { st with db := ((patchUser id req).run st.db).2 }
  | .deleteUser credentials id =>
    match roleGate jwt lower st.issued ["admin"] credentials with
    | .error _ => st
    | .ok claims => { st with db := ((deleteUser id claims.userID).run st.db).2 }
  | .roleGated allowedRoles credentials handler =>
    match roleGate jwt lower st.issued allowedRoles credentials with
    | .error _ => st
    | .ok _ => { st with db := handler st.db }
  | .other handler => { st with db := handler st.db }

end Statora.Auth
