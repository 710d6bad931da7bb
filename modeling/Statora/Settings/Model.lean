import Mathlib.Data.Int.Notation
import Statora.Library.Collection
import Statora.Library.Records
import Statora.Models

/-!
# The settings of the status page

One document with the parts that the admin page edits. Its fields are the paths of
an update: `Field` names them, `Field.Value` is what one may hold.
-/

namespace Statora.Settings
open Library (Collection Keyed Record)

def statusPageSettingsKey : String := "status_page"

structure MetaTag where
  name : String
  content : String
  deriving DecidableEq, Repr

instance : Keyed MetaTag String := ⟨MetaTag.name⟩

abbrev MetaTags := Collection MetaTag

structure StatusPageHeadSettings where
  title : String := ""
  description : String := ""
  keywords : String := ""
  faviconURL : String := ""
  metaTags : MetaTags := .empty

structure StatusPageBrandingSettings where
  siteName : String := ""
  logoURL : String := ""
  backgroundImageURL : String := ""
  heroImageURL : String := ""
  deriving DecidableEq, Repr

structure StatusPageThemePalette where
  primaryColor : String := ""
  backgroundColor : String := ""
  textColor : String := ""
  accentColor : String := ""
  deriving DecidableEq, Repr

structure StatusPageThemeTypography where
  fontFamily : String := ""
  fontScale : String := ""
  deriving DecidableEq, Repr

structure StatusPageThemeSettings where
  preset : String := ""
  mode : String := ""
  light : StatusPageThemePalette := {}
  dark : StatusPageThemePalette := {}
  typography : StatusPageThemeTypography := {}
  deriving DecidableEq, Repr

structure StatusPageLayoutSettings where
  variant : String := ""
  deriving DecidableEq, Repr

structure StatusPageFooterSettings where
  text : String := ""
  showPoweredBy : Bool := false
  deriving DecidableEq, Repr

structure StatusPageSSO extends StatusPageSSOSettings where
  provider : String := ""
  deriving DecidableEq, Repr

/-- `unset` is the empty text of a document that was stored without a provider. -/
inductive MailProviderType
  | unset
  | none
  | smtp
  | sendgrid
  | unknown (name : String)
  deriving DecidableEq, Repr

def MailProviderType.ofString (name : String) : MailProviderType :=
  if name = "" then .unset
  else if name = "none" then .none
  else if name = "smtp" then .smtp
  else if name = "sendgrid" then .sendgrid
  else .unknown name

structure SMTPSettings where
  host : String := ""
  port : ℤ := 0
  username : String := ""
  password : String := ""
  fromEmail : String := ""
  fromName : String := ""
  encryption : String := ""
  deriving DecidableEq, Repr

structure SendGridSettings where
  apiKey : String := ""
  fromEmail : String := ""
  fromName : String := ""
  deriving DecidableEq, Repr

structure MailSettings where
  provider : MailProviderType := .unset
  smtp : SMTPSettings := {}
  sendGrid : SendGridSettings := {}
  baseURL : String := ""
  deriving DecidableEq, Repr

structure StatusPageSettings where
  key : String := ""
  head : StatusPageHeadSettings := {}
  branding : StatusPageBrandingSettings := {}
  theme : StatusPageThemeSettings := {}
  layout : StatusPageLayoutSettings := {}
  footer : StatusPageFooterSettings := {}
  sso : StatusPageSSO := {}
  mail : MailSettings := {}
  customCSS : String := ""
  updatedAt : ℤ := 0
  createdAt : ℤ := 0

def defaultStatusPageSettings (now : ℤ) : StatusPageSettings where
  key := statusPageSettingsKey
  head := {
    title := "Statora"
    description := "Live system status and incident updates."
    keywords := "status, uptime, incidents, maintenance"
    faviconURL := "/vite.svg" }
  branding := { siteName := "Statora" }
  theme := {
    preset := "default"
    mode := "system"
    light := {
      primaryColor := "#16a34a"
      backgroundColor := "#f9fafb"
      textColor := "#111827"
      accentColor := "#0ea5e9" }
    dark := {
      primaryColor := "#22c55e"
      backgroundColor := "#0b1220"
      textColor := "#e5e7eb"
      accentColor := "#38bdf8" }
    typography := {
      fontFamily := "Inter, system-ui, -apple-system, BlinkMacSystemFont, \"Segoe UI\", sans-serif"
      fontScale := "md" } }
  layout := { variant := "classic" }
  footer := { showPoweredBy := true }
  sso := { enabled := false, algorithm := "HS256" }
  mail := { provider := .none }
  updatedAt := now
  createdAt := now

inductive Palette
  | light
  | dark
  deriving DecidableEq, Repr

inductive PaletteColor
  | primary
  | background
  | text
  | accent
  deriving DecidableEq, Repr

inductive Field
  | title
  | description
  | keywords
  | faviconURL
  | metaTags
  | siteName
  | logoURL
  | backgroundImageURL
  | heroImageURL
  | preset
  | mode
  | color (palette : Palette) (color : PaletteColor)
  | fontFamily
  | fontScale
  | variant
  | footerText
  | showPoweredBy
  | ssoEnabled
  | ssoProvider
  | ssoIssuer
  | ssoAudience
  | ssoAlgorithm
  | ssoSharedSecret
  | ssoPublicKeyPEM
  | mailProvider
  | mailBaseURL
  | smtpHost
  | smtpPort
  | smtpUsername
  | smtpPassword
  | smtpFromEmail
  | smtpFromName
  | smtpEncryption
  | sendGridAPIKey
  | sendGridFromEmail
  | sendGridFromName
  | customCSS
  | updatedAt
  deriving DecidableEq, Repr

def Field.Value : Field → Type
  | .metaTags => MetaTags
  | .showPoweredBy | .ssoEnabled => Bool
  | .mailProvider => MailProviderType
  | .smtpPort | .updatedAt => ℤ
  | _ => String

def PaletteColor.get (palette : StatusPageThemePalette) : PaletteColor → String
  | .primary => palette.primaryColor
  | .background => palette.backgroundColor
  | .text => palette.textColor
  | .accent => palette.accentColor

def PaletteColor.set (palette : StatusPageThemePalette) (v : String) :
    PaletteColor → StatusPageThemePalette
  | .primary => { palette with primaryColor := v }
  | .background => { palette with backgroundColor := v }
  | .text => { palette with textColor := v }
  | .accent => { palette with accentColor := v }

def Palette.get (theme : StatusPageThemeSettings) : Palette → StatusPageThemePalette
  | .light => theme.light
  | .dark => theme.dark

def Palette.set (theme : StatusPageThemeSettings) (v : StatusPageThemePalette) :
    Palette → StatusPageThemeSettings
  | .light => { theme with light := v }
  | .dark => { theme with dark := v }

theorem PaletteColor.get_set (palette : StatusPageThemePalette) (v : String) (c d : PaletteColor) :
    c.get (d.set palette v) = if c = d then v else c.get palette := by
  cases c <;> cases d <;> rfl

theorem Palette.get_set (theme : StatusPageThemeSettings) (v : StatusPageThemePalette)
    (p q : Palette) : p.get (q.set theme v) = if p = q then v else p.get theme := by
  cases p <;> cases q <;> rfl

section Access
variable (s : StatusPageSettings)

def StatusPageSettings.get : (f : Field) → f.Value
  | .title => s.head.title
  | .description => s.head.description
  | .keywords => s.head.keywords
  | .faviconURL => s.head.faviconURL
  | .metaTags => s.head.metaTags
  | .siteName => s.branding.siteName
  | .logoURL => s.branding.logoURL
  | .backgroundImageURL => s.branding.backgroundImageURL
  | .heroImageURL => s.branding.heroImageURL
  | .preset => s.theme.preset
  | .mode => s.theme.mode
  | .color palette color => color.get (palette.get s.theme)
  | .fontFamily => s.theme.typography.fontFamily
  | .fontScale => s.theme.typography.fontScale
  | .variant => s.layout.variant
  | .footerText => s.footer.text
  | .showPoweredBy => s.footer.showPoweredBy
  | .ssoEnabled => s.sso.enabled
  | .ssoProvider => s.sso.provider
  | .ssoIssuer => s.sso.issuer
  | .ssoAudience => s.sso.audience
  | .ssoAlgorithm => s.sso.algorithm
  | .ssoSharedSecret => s.sso.sharedSecret
  | .ssoPublicKeyPEM => s.sso.publicKeyPEM
  | .mailProvider => s.mail.provider
  | .mailBaseURL => s.mail.baseURL
  | .smtpHost => s.mail.smtp.host
  | .smtpPort => s.mail.smtp.port
  | .smtpUsername => s.mail.smtp.username
  | .smtpPassword => s.mail.smtp.password
  | .smtpFromEmail => s.mail.smtp.fromEmail
  | .smtpFromName => s.mail.smtp.fromName
  | .smtpEncryption => s.mail.smtp.encryption
  | .sendGridAPIKey => s.mail.sendGrid.apiKey
  | .sendGridFromEmail => s.mail.sendGrid.fromEmail
  | .sendGridFromName => s.mail.sendGrid.fromName
  | .customCSS => s.customCSS
  | .updatedAt => s.updatedAt

def StatusPageSettings.set : (f : Field) → f.Value → StatusPageSettings
  | .title, v => { s with head.title := v }
  | .description, v => { s with head.description := v }
  | .keywords, v => { s with head.keywords := v }
  | .faviconURL, v => { s with head.faviconURL := v }
  | .metaTags, v => { s with head.metaTags := v }
  | .siteName, v => { s with branding.siteName := v }
  | .logoURL, v => { s with branding.logoURL := v }
  | .backgroundImageURL, v => { s with branding.backgroundImageURL := v }
  | .heroImageURL, v => { s with branding.heroImageURL := v }
  | .preset, v => { s with theme.preset := v }
  | .mode, v => { s with theme.mode := v }
  | .color palette color, v =>
    { s with theme := palette.set s.theme (color.set (palette.get s.theme) v) }
  | .fontFamily, v => { s with theme.typography.fontFamily := v }
  | .fontScale, v => { s with theme.typography.fontScale := v }
  | .variant, v => { s with layout.variant := v }
  | .footerText, v => { s with footer.text := v }
  | .showPoweredBy, v => { s with footer.showPoweredBy := v }
  | .ssoEnabled, v => { s with sso.enabled := v }
  | .ssoProvider, v => { s with sso.provider := v }
  | .ssoIssuer, v => { s with sso.issuer := v }
  | .ssoAudience, v => { s with sso.audience := v }
  | .ssoAlgorithm, v => { s with sso.algorithm := v }
  | .ssoSharedSecret, v => { s with sso.sharedSecret := v }
  | .ssoPublicKeyPEM, v => { s with sso.publicKeyPEM := v }
  | .mailProvider, v => { s with mail.provider := v }
  | .mailBaseURL, v => { s with mail.baseURL := v }
  | .smtpHost, v => { s with mail.smtp.host := v }
  | .smtpPort, v => { s with mail.smtp.port := v }
  | .smtpUsername, v => { s with mail.smtp.username := v }
  | .smtpPassword, v => { s with mail.smtp.password := v }
  | .smtpFromEmail, v => { s with mail.smtp.fromEmail := v }
  | .smtpFromName, v => { s with mail.smtp.fromName := v }
  | .smtpEncryption, v => { s with mail.smtp.encryption := v }
  | .sendGridAPIKey, v => { s with mail.sendGrid.apiKey := v }
  | .sendGridFromEmail, v => { s with mail.sendGrid.fromEmail := v }
  | .sendGridFromName, v => { s with mail.sendGrid.fromName := v }
  | .customCSS, v => { s with customCSS := v }
  | .updatedAt, v => { s with updatedAt := v }

end Access

theorem get_set_color (p : Palette) (c : PaletteColor) (v : String) (s : StatusPageSettings) :
    (s.set (.color p c) v).get (.color p c) = v := by
  change c.get (p.get (p.set s.theme (c.set (p.get s.theme) v))) = v
  rw [Palette.get_set, if_pos rfl, PaletteColor.get_set, if_pos rfl]

theorem get_set_self (f : Field) (v : f.Value) (s : StatusPageSettings) :
    (s.set f v).get f = v := by
  cases f with
  | color palette color => exact get_set_color palette color v s
  | _ => rfl

theorem get_color_set_color {p q : Palette} {c d : PaletteColor}
    (h : Field.color p c ≠ Field.color q d) (v : String) (s : StatusPageSettings) :
    (s.set (.color q d) v).get (.color p c) = s.get (.color p c) := by
  change c.get (p.get (q.set s.theme _)) = c.get (p.get s.theme)
  rw [Palette.get_set]
  split_ifs with hp
  · subst hp
    rw [PaletteColor.get_set, if_neg fun hc => h (by rw [hc])]
  · rfl

theorem get_set_of_ne (f g : Field) (v : g.Value) (s : StatusPageSettings) (h : f ≠ g) :
    (s.set g v).get f = s.get f := by
  cases g with
  | color q d =>
    cases f with
    | color p c => exact get_color_set_color h v s
    | preset | mode | fontFamily | fontScale => cases q <;> rfl
    | _ => rfl
  | _ => cases f <;> first | rfl | exact absurd rfl h

instance : Record StatusPageSettings Field.Value where
  get f s := s.get f
  set f v s := s.set f v
  get_set_self := get_set_self
  get_set_of_ne := get_set_of_ne

end Statora.Settings
