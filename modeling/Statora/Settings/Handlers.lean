import Statora.Auth.Crypto
import Statora.Library.StoreProgram
import Statora.Settings.Model

/-!
# Reading and updating the settings

The handlers of the public page and of the admin page and the repository that
authentication reads from, as programs over the documents of the collection. Nothing
keeps the collection from holding two documents with the key of the status page: every
operation takes the first.
-/

namespace Statora.Settings
open Library (Assignment Fallible assignAll updateFirst)

abbrev SettingsStore := List StatusPageSettings

inductive SettingsError
  | badRequest (message : String)
  | internal (message : String)
  | store
  deriving DecidableEq, Repr

structure URL where
  scheme : String
  host : String
  deriving DecidableEq, Repr

/-- What the updates take from outside: the ciphers, `url.ParseRequestURI` and the key
that the service encrypts with. -/
structure Env where
  ciphers : Auth.Primitives
  parseRequestURI : String → Option URL
  emailEncryptionKey : String

def isPresetChar (c : Char) : Bool :=
  ('a' ≤ c && c ≤ 'z') || ('0' ≤ c && c ≤ '9') || c = '-' || c = '_'

def isValidThemePreset (value : String) : Bool :=
  value = "" || (value ≠ "" && value.toList.all isPresetChar)

def isHexDigit (c : Char) : Bool :=
  ('0' ≤ c && c ≤ '9') || ('a' ≤ c && c ≤ 'f') || ('A' ≤ c && c ≤ 'F')

def isValidColorHex (value : String) : Bool :=
  match value.toList with
  | '#' :: digits => digits.length = 6 && digits.all isHexDigit
  | _ => false

def isValidURLOrEmpty (env : Env) (value : String) : Bool :=
  if value = "" then true
  else
    match env.parseRequestURI value with
    | none => false
    | some parsed =>
      if parsed.scheme = "" || parsed.host = "" then false
      else parsed.scheme = "http" || parsed.scheme = "https"

def lowered (value : String) : String := String.ofList (value.toList.map toLower)

def uppered (value : String) : String := String.ofList (value.toList.map toUpper)

def trimSuffix (suffix value : String) : String :=
  if suffix.toList <:+ value.toList then
    String.ofList (value.toList.take (value.length - suffix.length))
  else value

def normalizeThemePreset (value : String) : String := trimSuffix ".css" (trimSpace (lowered value))

structure HeadPatch where
  title : Option String := none
  description : Option String := none
  keywords : Option String := none
  faviconURL : Option String := none
  metaTags : Option MetaTags := none

structure BrandingPatch where
  siteName : Option String := none
  logoURL : Option String := none
  backgroundImageURL : Option String := none
  heroImageURL : Option String := none

structure PalettePatch where
  primaryColor : Option String := none
  backgroundColor : Option String := none
  textColor : Option String := none
  accentColor : Option String := none

structure TypographyPatch where
  fontFamily : Option String := none
  fontScale : Option String := none

structure ThemePatch where
  preset : Option String := none
  mode : Option String := none
  light : Option PalettePatch := none
  dark : Option PalettePatch := none
  typography : Option TypographyPatch := none

structure LayoutPatch where
  variant : Option String := none

structure FooterPatch where
  text : Option String := none
  showPoweredBy : Option Bool := none

structure SSOPatch where
  enabled : Option Bool := none
  provider : Option String := none
  issuer : Option String := none
  audience : Option String := none
  algorithm : Option String := none
  sharedSecret : Option String := none
  publicKeyPEM : Option String := none

structure SMTPPatch where
  host : Option String := none
  port : Option ℤ := none
  username : Option String := none
  password : Option String := none
  fromEmail : Option String := none
  fromName : Option String := none
  encryption : Option String := none

structure SendGridPatch where
  apiKey : Option String := none
  fromEmail : Option String := none
  fromName : Option String := none

structure MailPatch where
  provider : Option String := none
  baseURL : Option String := none
  smtp : Option SMTPPatch := none
  sendGrid : Option SendGridPatch := none

structure StatusPageSettingsPatchRequest where
  head : Option HeadPatch := none
  branding : Option BrandingPatch := none
  theme : Option ThemePatch := none
  layout : Option LayoutPatch := none
  footer : Option FooterPatch := none
  sso : Option SSOPatch := none
  customCSS : Option String := none
  mail : Option MailPatch := none

structure Nonces where
  smtpPassword : Vector UInt8 12
  sendGridAPIKey : Vector UInt8 12

abbrev Checked := Except SettingsError (List (Assignment Field.Value))

def free (f : Field) (value : Option f.Value) : Checked :=
  .ok (value.map fun v => ⟨f, v⟩).toList

def checked (f : Field) (accepts : f.Value → Bool) (message : String) (value : Option f.Value) :
    Checked :=
  match value with
  | none => .ok []
  | some v => if accepts v then .ok [⟨f, v⟩] else .error (.badRequest message)

def oneOf (names : List String) (value : String) : Bool := names.contains value

/-- A secret that the request leaves blank is not part of the update. -/
def encrypted (env : Env) (nonce : Vector UInt8 12) (message : String) (value : Option String) :
    Except SettingsError (Option String) :=
  match value with
  | none => .ok none
  | some v =>
    if trimSpace v = "" then .ok none
    else
      match Auth.encrypt env.ciphers nonce (trimSpace v) env.emailEncryptionKey with
      | none => .error (.internal message)
      | some ciphertext => .ok (some ciphertext)

section Checks
variable (env : Env) (nonces : Nonces)

def HeadPatch.checks (head : HeadPatch) : List Checked :=
  [free .title head.title,
    free .description head.description,
    free .keywords head.keywords,
    checked .faviconURL (isValidURLOrEmpty env)
      "head.faviconUrl must be a valid http(s) URL or empty" head.faviconURL,
    free .metaTags head.metaTags]

def BrandingPatch.checks (branding : BrandingPatch) : List Checked :=
  [free .siteName branding.siteName,
    checked .logoURL (isValidURLOrEmpty env)
      "branding.logoUrl must be a valid http(s) URL or empty" branding.logoURL,
    checked .backgroundImageURL (isValidURLOrEmpty env)
      "branding.backgroundImageUrl must be a valid http(s) URL or empty"
      branding.backgroundImageURL,
    checked .heroImageURL (isValidURLOrEmpty env)
      "branding.heroImageUrl must be a valid http(s) URL or empty" branding.heroImageURL]

def colorMessage (path : String) : String := path ++ " must be a valid hex color (#RRGGBB)"

def Palette.name : Palette → String
  | .light => "light"
  | .dark => "dark"

/-- The checks of `theme.light` and of `theme.dark`, which differ in their paths only. -/
def PalettePatch.checks (palette : Palette) (patch : PalettePatch) : List Checked :=
  let path := "theme." ++ palette.name
  [checked (.color palette .primary) isValidColorHex (colorMessage (path ++ ".primaryColor"))
      patch.primaryColor,
    checked (.color palette .background) isValidColorHex
      (colorMessage (path ++ ".backgroundColor")) patch.backgroundColor,
    checked (.color palette .text) isValidColorHex (colorMessage (path ++ ".textColor"))
      patch.textColor,
    checked (.color palette .accent) isValidColorHex (colorMessage (path ++ ".accentColor"))
      patch.accentColor]

def TypographyPatch.checks (typography : TypographyPatch) : List Checked :=
  [free .fontFamily typography.fontFamily,
    checked .fontScale (oneOf ["sm", "md", "lg"])
      "theme.typography.fontScale must be one of: sm, md, lg" typography.fontScale]

def ThemePatch.checks (theme : ThemePatch) : List Checked :=
  [checked .preset isValidThemePreset "invalid theme preset format"
      (theme.preset.map normalizeThemePreset),
    checked .mode (oneOf ["light", "dark", "system"])
      "theme.mode must be one of: light, dark, system" theme.mode] ++
    theme.light.elim [] (PalettePatch.checks .light) ++
    theme.dark.elim [] (PalettePatch.checks .dark) ++
    theme.typography.elim [] TypographyPatch.checks

def LayoutPatch.checks (layout : LayoutPatch) : List Checked :=
  [checked .variant (oneOf ["classic", "compact", "minimal", "cards"])
    "layout.variant must be one of: classic, compact, minimal, cards" layout.variant]

def FooterPatch.checks (footer : FooterPatch) : List Checked :=
  [free .footerText footer.text, free .showPoweredBy footer.showPoweredBy]

def SSOPatch.checks (sso : SSOPatch) : List Checked :=
  [free .ssoEnabled sso.enabled,
    free .ssoProvider (sso.provider.map trimSpace),
    free .ssoIssuer (sso.issuer.map trimSpace),
    free .ssoAudience (sso.audience.map trimSpace),
    checked .ssoAlgorithm (oneOf ["HS256", "RS256"])
      "sso.algorithm must be HS256 or RS256"
      (sso.algorithm.map fun v => uppered (trimSpace v)),
    free .ssoSharedSecret (sso.sharedSecret.map trimSpace),
    free .ssoPublicKeyPEM (sso.publicKeyPEM.map trimSpace)]

def SMTPPatch.openChecks (smtp : SMTPPatch) : List Checked :=
  [free .smtpHost (smtp.host.map trimSpace),
    checked .smtpPort (fun v : ℤ => !(v < 0 || v > 65535))
      "mail.smtp.port must be between 0 and 65535" smtp.port,
    free .smtpUsername smtp.username,
    free .smtpFromEmail (smtp.fromEmail.map trimSpace),
    free .smtpFromName smtp.fromName,
    checked .smtpEncryption (oneOf ["starttls", "tls", "none"])
      "mail.smtp.encryption must be one of: starttls, tls, none"
      (smtp.encryption.map fun v => lowered (trimSpace v))]

def SMTPPatch.checks (smtp : SMTPPatch) : List Checked :=
  smtp.openChecks ++
    [(encrypted env nonces.smtpPassword "failed to encrypt SMTP password" smtp.password).bind
      (free .smtpPassword)]

def SendGridPatch.openChecks (sg : SendGridPatch) : List Checked :=
  [free .sendGridFromEmail (sg.fromEmail.map trimSpace), free .sendGridFromName sg.fromName]

def SendGridPatch.checks (sg : SendGridPatch) : List Checked :=
  sg.openChecks ++
    [(encrypted env nonces.sendGridAPIKey "failed to encrypt SendGrid API key" sg.apiKey).bind
      (free .sendGridAPIKey)]

def MailPatch.openChecks (mail : MailPatch) : List Checked :=
  [checked .mailProvider (fun v : MailProviderType => v = .none || v = .smtp || v = .sendgrid)
      "mail.provider must be one of: none, smtp, sendgrid"
      (mail.provider.map fun v => MailProviderType.ofString (trimSpace v)),
    checked .mailBaseURL (fun v : String => !(v ≠ "" && !isValidURLOrEmpty env v))
      "mail.baseUrl must be a valid http(s) URL or empty" (mail.baseURL.map trimSpace)]

def MailPatch.checks (mail : MailPatch) : List Checked :=
  mail.openChecks env ++ mail.smtp.elim [] (SMTPPatch.checks env nonces) ++
    mail.sendGrid.elim [] (SendGridPatch.checks env nonces)

/-- The places of the request before its mail settings. -/
def StatusPageSettingsPatchRequest.openChecks (req : StatusPageSettingsPatchRequest) :
    List Checked :=
  req.head.elim [] (HeadPatch.checks env) ++ req.branding.elim [] (BrandingPatch.checks env) ++
    req.theme.elim [] ThemePatch.checks ++ req.layout.elim [] LayoutPatch.checks ++
    req.footer.elim [] FooterPatch.checks ++ req.sso.elim [] SSOPatch.checks

def StatusPageSettingsPatchRequest.checks (req : StatusPageSettingsPatchRequest) :
    List Checked :=
  req.openChecks env ++ req.mail.elim [] (MailPatch.checks env nonces) ++
    [free .customCSS req.customCSS]

end Checks

/-- The first place that is refused ends the request, and so does one that sets nothing. -/
def collect (checks : List Checked) : Checked := do
  let parts ← checks.mapM id
  if parts.flatten = [] then .error (.badRequest "no updatable fields provided")
  else return parts.flatten

def StatusPageSettingsPatchRequest.set (env : Env) (nonces : Nonces)
    (req : StatusPageSettingsPatchRequest) : Checked := collect (req.checks env nonces)

def SettingsStore.settings (docs : SettingsStore) : Option StatusPageSettings :=
  docs.find? fun doc => doc.key = statusPageSettingsKey

def fetchOrCreateStatusPageSettings (now : ℤ) :
    Fallible SettingsStore SettingsError StatusPageSettings := do
  let found ← Fallible.query .store SettingsStore.settings
  match found with
  | some settings => return settings
  | none => do
    Fallible.exec .store fun docs => docs ++ [defaultStatusPageSettings now]
    return defaultStatusPageSettings now

/-- `FindOneAndUpdate` with the upsert. -/
def SettingsStore.update (set : List (Assignment Field.Value)) (createdAt : ℤ)
    (docs : SettingsStore) : SettingsStore :=
  if docs.settings.isSome then
    updateFirst (fun doc => doc.key = statusPageSettingsKey) (fun doc => assignAll doc set) docs
  else
    docs ++ [assignAll { key := statusPageSettingsKey, createdAt := createdAt } set]

namespace SettingsRepository

def getSSOSettings (now : ℤ) : Fallible SettingsStore SettingsError StatusPageSSO := do
  let settings ← fetchOrCreateStatusPageSettings now
  return settings.sso

def updateSSOSettings (set : List (Assignment Field.Value)) (now : ℤ) :
    Fallible SettingsStore SettingsError StatusPageSSO := do
  let current ← fetchOrCreateStatusPageSettings now
  let updated ← Fallible.findAndUpdate .store .store
    (SettingsStore.update set current.createdAt) SettingsStore.settings
  return updated.sso

end SettingsRepository

structure SMTPSettingsJSON where
  host : String
  port : ℤ
  username : String
  fromEmail : String
  fromName : String
  encryption : String
  deriving DecidableEq, Repr

structure SendGridSettingsJSON where
  fromEmail : String
  fromName : String
  deriving DecidableEq, Repr

structure MailSettingsJSON where
  provider : MailProviderType
  smtp : SMTPSettingsJSON
  sendGrid : SendGridSettingsJSON
  baseURL : String
  deriving DecidableEq, Repr

/-- The document as `encoding/json` writes it: without the fields tagged with "-". -/
structure StatusPageSettingsJSON where
  head : StatusPageHeadSettings
  branding : StatusPageBrandingSettings
  theme : StatusPageThemeSettings
  layout : StatusPageLayoutSettings
  footer : StatusPageFooterSettings
  mail : MailSettingsJSON
  customCSS : String
  updatedAt : ℤ
  createdAt : ℤ

def StatusPageSettings.json (s : StatusPageSettings) : StatusPageSettingsJSON where
  head := s.head
  branding := s.branding
  theme := s.theme
  layout := s.layout
  footer := s.footer
  mail := {
    provider := s.mail.provider
    smtp := {
      host := s.mail.smtp.host
      port := s.mail.smtp.port
      username := s.mail.smtp.username
      fromEmail := s.mail.smtp.fromEmail
      fromName := s.mail.smtp.fromName
      encryption := s.mail.smtp.encryption }
    sendGrid := {
      fromEmail := s.mail.sendGrid.fromEmail
      fromName := s.mail.sendGrid.fromName }
    baseURL := s.mail.baseURL }
  customCSS := s.customCSS
  updatedAt := s.updatedAt
  createdAt := s.createdAt

structure StatusPageSSOResponse where
  enabled : Bool
  provider : String
  issuer : String
  audience : String
  algorithm : String
  publicKeyPEM : String
  hasSecret : Bool
  deriving DecidableEq, Repr

structure StatusPageSMTPResponse where
  host : String
  port : ℤ
  username : String
  hasPassword : Bool
  fromEmail : String
  fromName : String
  encryption : String
  deriving DecidableEq, Repr

structure StatusPageSendGridResponse where
  hasAPIKey : Bool
  fromEmail : String
  fromName : String
  deriving DecidableEq, Repr

structure StatusPageMailResponse where
  provider : MailProviderType
  smtp : StatusPageSMTPResponse
  sendGrid : StatusPageSendGridResponse
  baseURL : String
  deriving DecidableEq, Repr

structure AdminStatusPageSettingsResponse where
  head : StatusPageHeadSettings
  branding : StatusPageBrandingSettings
  theme : StatusPageThemeSettings
  layout : StatusPageLayoutSettings
  footer : StatusPageFooterSettings
  sso : StatusPageSSOResponse
  mail : StatusPageMailResponse
  customCSS : String
  updatedAt : ℤ
  createdAt : ℤ

def buildAdminStatusPageSettingsResponse (settings : StatusPageSettings) :
    AdminStatusPageSettingsResponse where
  head := settings.head
  branding := settings.branding
  theme := settings.theme
  layout := settings.layout
  footer := settings.footer
  sso := {
    enabled := settings.sso.enabled
    provider := settings.sso.provider
    issuer := settings.sso.issuer
    audience := settings.sso.audience
    algorithm := settings.sso.algorithm
    publicKeyPEM := settings.sso.publicKeyPEM
    hasSecret := trimSpace settings.sso.sharedSecret ≠ "" }
  mail := {
    provider := settings.mail.provider
    smtp := {
      host := settings.mail.smtp.host
      port := settings.mail.smtp.port
      username := settings.mail.smtp.username
      hasPassword := trimSpace settings.mail.smtp.password ≠ ""
      fromEmail := settings.mail.smtp.fromEmail
      fromName := settings.mail.smtp.fromName
      encryption := settings.mail.smtp.encryption }
    sendGrid := {
      hasAPIKey := trimSpace settings.mail.sendGrid.apiKey ≠ ""
      fromEmail := settings.mail.sendGrid.fromEmail
      fromName := settings.mail.sendGrid.fromName }
    baseURL := settings.mail.baseURL }
  customCSS := settings.customCSS
  updatedAt := settings.updatedAt
  createdAt := settings.createdAt

/-- Decoding a map into one that has entries already keeps those it does not name. -/
def MetaTags.decodeOver (current stored : MetaTags) : MetaTags :=
  current.docs.foldl Library.Collection.insertOne stored

inductive SettingsResponse
  | settings (body : StatusPageSettingsJSON)
  | admin (body : AdminStatusPageSettingsResponse)
  | updated (body : AdminStatusPageSettingsResponse) (event : StatusPageSettingsJSON)
  | internal

section Handlers
variable (env : Env)

def getPublicStatusPageSettings (now : ℤ) :
    Fallible SettingsStore SettingsError SettingsResponse := do
  let settings ← fetchOrCreateStatusPageSettings now
  return .settings settings.json

def getAdminStatusPageSettings (now : ℤ) :
    Fallible SettingsStore SettingsError SettingsResponse := do
  let settings ← fetchOrCreateStatusPageSettings now
  return .admin (buildAdminStatusPageSettingsResponse settings)

/-- The last read is decoded into the document that was read first. -/
def applyUpdate (checked : Checked) (clock : ℕ → ℤ) :
    Fallible SettingsStore SettingsError SettingsResponse := do
  let current ← fetchOrCreateStatusPageSettings (clock 0)
  match checked with
  | .error e => Fallible.throw e
  | .ok set => do
    let _ ← SettingsRepository.updateSSOSettings (⟨.updatedAt, clock 1⟩ :: set) (clock 2)
    let stored ← Fallible.find .store .store SettingsStore.settings
    let updated := { stored with
      head.metaTags := MetaTags.decodeOver current.head.metaTags stored.head.metaTags }
    return .updated (buildAdminStatusPageSettingsResponse updated) updated.json

def updateStatusPageSettings (req : StatusPageSettingsPatchRequest) (nonces : Nonces)
    (clock : ℕ → ℤ) : Fallible SettingsStore SettingsError SettingsResponse :=
  applyUpdate (req.set env nonces) clock

/-- The requests that read or write the settings; the last is any reader inside the
service, whose result goes to no client. -/
inductive SettingsRequest
  | getPublic (now : ℤ)
  | getAdmin (now : ℤ)
  | update (req : StatusPageSettingsPatchRequest) (nonces : Nonces) (clock : ℕ → ℤ)
  | read (now : ℤ)

def SettingsRequest.program : SettingsRequest →
    Fallible SettingsStore SettingsError SettingsResponse
  | .getPublic now => getPublicStatusPageSettings now
  | .getAdmin now => getAdminStatusPageSettings now
  | .update req nonces clock => updateStatusPageSettings env req nonces clock
  | .read now => do
    let _ ← fetchOrCreateStatusPageSettings now
    return .internal

end Handlers
end Statora.Settings
