import Statora.Settings.Delivery
import Statora.Web.ThemePresets

/-!
# The settings form

The admin page loads the stored settings into a form and saves all of the form. When nobody
has touched the form, the server checks values that it stored itself, and all but four of
the assignments of the update (time, tags, theme and shared secret) change nothing.
-/

namespace Statora.Web
open Library (Assignment assignAll)
open Settings (AdminStatusPageSettingsResponse Checked Env Field MetaTags Nonces
  StatusPageBrandingSettings StatusPageFooterSettings StatusPageSettings
  StatusPageSettingsPatchRequest WellFormed buildAdminStatusPageSettingsResponse checked free)

structure SSOForm where
  enabled : Bool
  provider : String
  issuer : String
  audience : String
  algorithm : String
  publicKeyPEM : String
  sharedSecret : String

structure SMTPForm where
  host : String
  port : ℤ
  username : String
  hasPassword : Bool
  fromEmail : String
  fromName : String
  encryption : String

structure SendGridForm where
  hasAPIKey : Bool
  fromEmail : String
  fromName : String

structure MailForm where
  provider : String
  smtp : SMTPForm
  sendGrid : SendGridForm
  baseURL : String

structure FormSettings where
  head : Settings.StatusPageHeadSettings
  branding : StatusPageBrandingSettings
  preset : String
  mode : String
  footer : StatusPageFooterSettings
  sso : SSOForm
  mail : MailForm
  customCSS : String
  updatedAt : ℤ
  createdAt : ℤ

structure SettingsForm where
  settings : FormSettings
  metaTagsText : String
  smtpPassword : String
  sendGridAPIKey : String

section Form
variable (lower : String → String) (presets : List ThemePresetSummary)

def normalizeMailSettings (input : Settings.StatusPageMailResponse) : MailForm where
  provider := input.provider.name
  smtp := {
    host := input.smtp.host
    port := input.smtp.port
    username := input.smtp.username
    hasPassword := input.smtp.hasPassword
    fromEmail := input.smtp.fromEmail
    fromName := input.smtp.fromName
    encryption := input.smtp.encryption }
  sendGrid := {
    hasAPIKey := input.sendGrid.hasAPIKey
    fromEmail := input.sendGrid.fromEmail
    fromName := input.sendGrid.fromName }
  baseURL := input.baseURL

/-- The answer of the server has all parts, so none of the defaults is used. -/
def normalizeSettings (input : AdminStatusPageSettingsResponse) : FormSettings where
  head := input.head
  branding := input.branding
  preset := normalizeThemePresetSelection lower presets input.theme.preset
  mode := input.theme.mode
  footer := input.footer
  sso := {
    enabled := input.sso.enabled
    provider := input.sso.provider
    issuer := input.sso.issuer
    audience := input.sso.audience
    algorithm := input.sso.algorithm
    publicKeyPEM := input.sso.publicKeyPEM
    sharedSecret := "" }
  mail := normalizeMailSettings input.mail
  customCSS := input.customCSS
  updatedAt := input.updatedAt
  createdAt := input.createdAt

def loadSettings (data : AdminStatusPageSettingsResponse) : SettingsForm where
  settings := normalizeSettings lower presets data
  metaTagsText := metaTagsToText data.head.metaTags
  smtpPassword := ""
  sendGridAPIKey := ""

def typedSecret (value : String) : Option String :=
  if trimString value ≠ "" then some (trimString value) else none

def handleSave (form : SettingsForm) : StatusPageSettingsPatchRequest where
  head := some {
    title := some form.settings.head.title
    description := some form.settings.head.description
    keywords := some form.settings.head.keywords
    faviconURL := some form.settings.head.faviconURL
    metaTags := some (parseMetaTagsText form.metaTagsText) }
  branding := some {
    siteName := some form.settings.branding.siteName
    logoURL := some form.settings.branding.logoURL
    backgroundImageURL := some form.settings.branding.backgroundImageURL
    heroImageURL := some form.settings.branding.heroImageURL }
  theme := some {
    preset := some form.settings.preset
    mode := some (if form.settings.mode = "" then "light" else form.settings.mode) }
  footer := some {
    text := some form.settings.footer.text
    showPoweredBy := some form.settings.footer.showPoweredBy }
  sso := some {
    enabled := some form.settings.sso.enabled
    provider := some form.settings.sso.provider
    issuer := some form.settings.sso.issuer
    audience := some form.settings.sso.audience
    algorithm := some form.settings.sso.algorithm
    sharedSecret := some form.settings.sso.sharedSecret
    publicKeyPEM := some form.settings.sso.publicKeyPEM }
  mail := some {
    provider := some form.settings.mail.provider
    baseURL := some form.settings.mail.baseURL
    smtp := some {
      host := some form.settings.mail.smtp.host
      port := some form.settings.mail.smtp.port
      username := some form.settings.mail.smtp.username
      password := typedSecret form.smtpPassword
      fromEmail := some form.settings.mail.smtp.fromEmail
      fromName := some form.settings.mail.smtp.fromName
      encryption := some form.settings.mail.smtp.encryption }
    sendGrid := some {
      apiKey := typedSecret form.sendGridAPIKey
      fromEmail := some form.settings.mail.sendGrid.fromEmail
      fromName := some form.settings.mail.sendGrid.fromName } }
  customCSS := some form.settings.customCSS

/-- The request of a form that was loaded from the document and not touched. -/
def untouched (doc : StatusPageSettings) : StatusPageSettingsPatchRequest :=
  handleSave (loadSettings lower presets (buildAdminStatusPageSettingsResponse doc))

end Form

theorem free_eq {f : Field} {value v : f.Value} (h : value = v) :
    free f (some value) = .ok [⟨f, v⟩] := by
  rw [h]
  rfl

theorem checked_eq {f : Field} {accepts : f.Value → Bool} {message : String} {value v : f.Value}
    (h : value = v) (haccepts : accepts v = true) :
    checked f accepts message (some value) = .ok [⟨f, v⟩] := by
  rw [h]
  exact if_pos haccepts

theorem checked_refused {f : Field} {accepts : f.Value → Bool} {v : f.Value}
    (haccepts : accepts v = false) (message : String) :
    checked f accepts message (some v) = .error (.badRequest message) := by
  rw [checked, haccepts]
  rfl

abbrev Adds (checks : List Checked) (parts : List (List (Assignment Field.Value))) : Prop :=
  List.Forall₂ (fun check part => check = .ok part) checks parts

theorem collect_of_adds {checks : List Checked} {parts : List (List (Assignment Field.Value))}
    (h : Adds checks parts) (hne : parts.flatten ≠ []) :
    Settings.collect checks = .ok parts.flatten := by
  have hchecks : checks = parts.map Except.ok := by
    rwa [← List.forall₂_eq_eq_eq, List.forall₂_map_right_iff]
  rw [Settings.collect, Settings.mapM_id_eq_ok_iff.mpr hchecks]
  exact if_neg hne

theorem collect_of_refused {checks : List Checked} {e : Settings.SettingsError}
    (h : .error e ∈ checks) : ∃ e', Settings.collect checks = .error e' := by
  cases hcollect : Settings.collect checks with
  | error e' => exact ⟨e', rfl⟩
  | ok set =>
    obtain ⟨parts, hparts, -⟩ := Settings.collect_eq_ok hcollect
    rw [Settings.mapM_id_eq_ok_iff.mp hparts] at h
    obtain ⟨part, -, hpart⟩ := List.mem_map.mp h
    cases hpart

section Untouched
variable {env : Env} {nonces : Nonces} {lower : String → String}
  {presets : List ThemePresetSummary} {doc : StatusPageSettings}

def resaved (lower : String → String) (presets : List ThemePresetSummary)
    (doc : StatusPageSettings) : StatusPageSettings :=
  { doc with
    head.metaTags := parseMetaTagsText (metaTagsToText doc.head.metaTags)
    theme.preset := savedPreset lower presets doc.theme.preset
    sso.sharedSecret := "" }

section Checks
variable (lower presets)

theorem head_checks (hfavicon : Settings.isValidURLOrEmpty env doc.head.faviconURL = true) :
    Adds ((untouched lower presets doc).head.elim [] (Settings.HeadPatch.checks env))
      [[⟨Field.title, doc.head.title⟩], [⟨Field.description, doc.head.description⟩],
        [⟨Field.keywords, doc.head.keywords⟩], [⟨Field.faviconURL, doc.head.faviconURL⟩],
        [⟨Field.metaTags, parseMetaTagsText (metaTagsToText doc.head.metaTags)⟩]] :=
  .cons (free_eq rfl) <| .cons (free_eq rfl) <| .cons (free_eq rfl) <|
    .cons (checked_eq rfl hfavicon) <| .cons (free_eq rfl) .nil

theorem branding_checks (hwell : WellFormed env doc) :
    Adds ((untouched lower presets doc).branding.elim [] (Settings.BrandingPatch.checks env))
      [[⟨Field.siteName, doc.branding.siteName⟩], [⟨Field.logoURL, doc.branding.logoURL⟩],
        [⟨Field.backgroundImageURL, doc.branding.backgroundImageURL⟩],
        [⟨Field.heroImageURL, doc.branding.heroImageURL⟩]] :=
  .cons (free_eq rfl) <| .cons (checked_eq rfl (hwell.2 .logoURL)) <|
    .cons (checked_eq rfl (hwell.2 .backgroundImageURL)) <|
    .cons (checked_eq rfl (hwell.2 .heroImageURL)) .nil

theorem oneOf_eq_true {names : List String} {value : String} (h : Settings.OneOf names value) :
    Settings.oneOf names value = true := List.contains_iff_mem.mpr h

theorem theme_checks (hwell : WellFormed env doc) :
    Adds ((untouched lower presets doc).theme.elim [] Settings.ThemePatch.checks)
      [[⟨Field.preset, savedPreset lower presets doc.theme.preset⟩],
        [⟨Field.mode, doc.theme.mode⟩]] := by
  have hmode : Settings.OneOf ["light", "dark", "system"] doc.theme.mode := hwell.2 .mode
  have hnonempty : doc.theme.mode ≠ "" := by
    intro hempty
    rw [hempty] at hmode
    simp [Settings.OneOf] at hmode
  exact .cons (checked_eq rfl (isValidThemePreset_savedPreset _)) <|
    .cons (checked_eq (f := .mode) (if_neg hnonempty) (oneOf_eq_true hmode)) .nil

theorem footer_checks (doc : StatusPageSettings) :
    Adds ((untouched lower presets doc).footer.elim [] Settings.FooterPatch.checks)
      [[⟨Field.footerText, doc.footer.text⟩],
        [⟨Field.showPoweredBy, doc.footer.showPoweredBy⟩]] :=
  .cons (free_eq rfl) <| .cons (free_eq rfl) .nil

theorem sso_checks (hwell : WellFormed env doc) :
    Adds ((untouched lower presets doc).sso.elim [] Settings.SSOPatch.checks)
      [[⟨Field.ssoEnabled, doc.sso.enabled⟩], [⟨Field.ssoProvider, doc.sso.provider⟩],
        [⟨Field.ssoIssuer, doc.sso.issuer⟩], [⟨Field.ssoAudience, doc.sso.audience⟩],
        [⟨Field.ssoAlgorithm, doc.sso.algorithm⟩], [⟨Field.ssoSharedSecret, ""⟩],
        [⟨Field.ssoPublicKeyPEM, doc.sso.publicKeyPEM⟩]] := by
  have halgorithm : Settings.OneOf ["HS256", "RS256"] doc.sso.algorithm := hwell.2 .ssoAlgorithm
  have hupper : Settings.uppered (trimSpace doc.sso.algorithm) = doc.sso.algorithm := by
    rcases List.mem_cons.mp halgorithm with h | h
    · rw [h]
      decide
    · rw [List.mem_singleton.mp h]
      decide
  exact .cons (free_eq rfl) <| .cons (free_eq (f := .ssoProvider) (hwell.2 .ssoProvider)) <|
    .cons (free_eq (f := .ssoIssuer) (hwell.2 .ssoIssuer)) <|
    .cons (free_eq (f := .ssoAudience) (hwell.2 .ssoAudience)) <|
    .cons (checked_eq (f := .ssoAlgorithm) hupper (oneOf_eq_true halgorithm)) <|
    .cons (free_eq (f := .ssoSharedSecret) rfl) <|
    .cons (free_eq (f := .ssoPublicKeyPEM) (hwell.2 .ssoPublicKeyPEM)) .nil

theorem encryption_cases {encryption : String} (hne : encryption ≠ "")
    (h : Settings.SMTPEncryption encryption) :
    Settings.lowered (trimSpace encryption) = encryption ∧
      Settings.oneOf ["starttls", "tls", "none"] encryption = true := by
  have hnamed := h.resolve_left hne
  simp only [Settings.OneOf, List.mem_cons, List.not_mem_nil, or_false] at hnamed
  rcases hnamed with rfl | rfl | rfl <;> decide

theorem mail_checks (nonces : Nonces) (hwell : WellFormed env doc)
    (hencryption : doc.mail.smtp.encryption ≠ "") :
    Adds ((untouched lower presets doc).mail.elim [] (Settings.MailPatch.checks env nonces))
      [[⟨Field.mailProvider, doc.mail.provider⟩], [⟨Field.mailBaseURL, doc.mail.baseURL⟩],
        [⟨Field.smtpHost, doc.mail.smtp.host⟩], [⟨Field.smtpPort, doc.mail.smtp.port⟩],
        [⟨Field.smtpUsername, doc.mail.smtp.username⟩],
        [⟨Field.smtpFromEmail, doc.mail.smtp.fromEmail⟩],
        [⟨Field.smtpFromName, doc.mail.smtp.fromName⟩],
        [⟨Field.smtpEncryption, doc.mail.smtp.encryption⟩], [],
        [⟨Field.sendGridFromEmail, doc.mail.sendGrid.fromEmail⟩],
        [⟨Field.sendGridFromName, doc.mail.sendGrid.fromName⟩], []] := by
  have hprovider : doc.mail.provider = .none ∨ doc.mail.provider = .smtp ∨
      doc.mail.provider = .sendgrid := hwell.2 .mailProvider
  have hname : Settings.MailProviderType.ofString (trimSpace doc.mail.provider.name) =
      doc.mail.provider := by
    rcases hprovider with h | h | h <;> rw [h] <;> decide
  have haccepted : (fun v : Settings.MailProviderType => (v = .none || v = .smtp ||
      v = .sendgrid : Bool)) doc.mail.provider = true := by
    simpa [or_assoc] using hprovider
  obtain ⟨hbase, htrimmed⟩ : Settings.HTTPURLOrEmpty env doc.mail.baseURL ∧
      Settings.Trimmed doc.mail.baseURL := hwell.2 .mailBaseURL
  have hport : 0 ≤ doc.mail.smtp.port ∧ doc.mail.smtp.port ≤ 65535 := hwell.2 .smtpPort
  obtain ⟨hlowered, honeOf⟩ := encryption_cases hencryption (hwell.2 .smtpEncryption)
  exact .cons (checked_eq (f := .mailProvider) hname haccepted) <|
    .cons (checked_eq (f := .mailBaseURL) htrimmed (by simp [show _ = true from hbase])) <|
    .cons (free_eq (f := .smtpHost) (hwell.2 .smtpHost)) <|
    .cons (checked_eq (f := .smtpPort) rfl (by simp; omega)) <|
    .cons (free_eq rfl) <| .cons (free_eq (f := .smtpFromEmail) (hwell.2 .smtpFromEmail)) <|
    .cons (free_eq rfl) <| .cons (checked_eq (f := .smtpEncryption) hlowered honeOf) <|
    .cons rfl <| .cons (free_eq (f := .sendGridFromEmail) (hwell.2 .sendGridFromEmail)) <|
    .cons (free_eq rfl) <| .cons rfl .nil

end Checks

def untouchedSet (lower : String → String) (presets : List ThemePresetSummary)
    (doc : StatusPageSettings) : List (Assignment Field.Value) :=
  [⟨.title, doc.head.title⟩, ⟨.description, doc.head.description⟩,
    ⟨.keywords, doc.head.keywords⟩, ⟨.faviconURL, doc.head.faviconURL⟩] ++
  ⟨.metaTags, parseMetaTagsText (metaTagsToText doc.head.metaTags)⟩ ::
  ([⟨.siteName, doc.branding.siteName⟩, ⟨.logoURL, doc.branding.logoURL⟩,
    ⟨.backgroundImageURL, doc.branding.backgroundImageURL⟩,
    ⟨.heroImageURL, doc.branding.heroImageURL⟩] ++
  ⟨.preset, savedPreset lower presets doc.theme.preset⟩ ::
  ([⟨.mode, doc.theme.mode⟩, ⟨.footerText, doc.footer.text⟩,
    ⟨.showPoweredBy, doc.footer.showPoweredBy⟩, ⟨.ssoEnabled, doc.sso.enabled⟩,
    ⟨.ssoProvider, doc.sso.provider⟩, ⟨.ssoIssuer, doc.sso.issuer⟩,
    ⟨.ssoAudience, doc.sso.audience⟩, ⟨.ssoAlgorithm, doc.sso.algorithm⟩] ++
  ⟨.ssoSharedSecret, ""⟩ ::
  [⟨.ssoPublicKeyPEM, doc.sso.publicKeyPEM⟩, ⟨.mailProvider, doc.mail.provider⟩,
    ⟨.mailBaseURL, doc.mail.baseURL⟩, ⟨.smtpHost, doc.mail.smtp.host⟩,
    ⟨.smtpPort, doc.mail.smtp.port⟩, ⟨.smtpUsername, doc.mail.smtp.username⟩,
    ⟨.smtpFromEmail, doc.mail.smtp.fromEmail⟩, ⟨.smtpFromName, doc.mail.smtp.fromName⟩,
    ⟨.smtpEncryption, doc.mail.smtp.encryption⟩,
    ⟨.sendGridFromEmail, doc.mail.sendGrid.fromEmail⟩,
    ⟨.sendGridFromName, doc.mail.sendGrid.fromName⟩, ⟨.customCSS, doc.customCSS⟩]))

theorem set_untouched (hwell : WellFormed env doc)
    (hfavicon : Settings.isValidURLOrEmpty env doc.head.faviconURL = true)
    (hencryption : doc.mail.smtp.encryption ≠ "") :
    (untouched lower presets doc).set env nonces = .ok (untouchedSet lower presets doc) := by
  have hopen := List.rel_append (List.rel_append (List.rel_append (List.rel_append
    (List.rel_append (head_checks lower presets hfavicon) (branding_checks lower presets hwell))
    (theme_checks lower presets hwell)) .nil) (footer_checks lower presets doc))
    (sso_checks lower presets hwell)
  have hmail := mail_checks lower presets nonces hwell hencryption
  have hcustom : Adds [free .customCSS (some doc.customCSS)]
      [[⟨Field.customCSS, doc.customCSS⟩]] := .cons rfl .nil
  exact collect_of_adds (List.rel_append (List.rel_append hopen hmail) hcustom)
    (List.cons_ne_nil _ _)

theorem assign_get (s : StatusPageSettings) (f : Field) :
    Library.assign s (⟨f, s.get f⟩ : Assignment Field.Value) = s := by
  cases f with
  | color palette color => cases palette <;> cases color <;> rfl
  | _ => rfl

theorem assignAll_append_of_same {s : StatusPageSettings}
    {set : List (Assignment Field.Value)} (h : ∀ a ∈ set, a.value = s.get a.field)
    (rest : List (Assignment Field.Value)) : assignAll s (set ++ rest) = assignAll s rest := by
  induction set with
  | nil => rfl
  | cons a set ih =>
    rw [List.forall_mem_cons] at h
    have hsame : Library.assign s a = s := by
      obtain ⟨f, v⟩ := a
      obtain rfl : v = s.get f := h.1
      exact assign_get s f
    rw [List.cons_append, assignAll, List.foldl_cons, hsame]
    exact ih h.2

theorem assignAll_append_cons {s u : StatusPageSettings} {set : List (Assignment Field.Value)}
    {a : Assignment Field.Value} (h : ∀ a ∈ set, a.value = s.get a.field)
    (ha : Library.assign s a = u) (rest : List (Assignment Field.Value)) :
    assignAll s (set ++ a :: rest) = assignAll u rest := by
  rw [assignAll_append_of_same h, assignAll, List.foldl_cons, ha]
  rfl

theorem assignAll_untouchedSet (tags : MetaTags) (t : ℤ) :
    assignAll doc (⟨.updatedAt, t⟩ ::
        untouchedSet lower presets { doc with head.metaTags := tags }) =
      { resaved lower presets { doc with head.metaTags := tags } with updatedAt := t } := by
  rw [untouchedSet, resaved]
  dsimp only
  generalize parseMetaTagsText (metaTagsToText tags) = parsed
  generalize savedPreset lower presets doc.theme.preset = preset
  -- The four assignments that may change something, each after those that do not.
  let atTime : StatusPageSettings := { doc with updatedAt := t }
  let tagged : StatusPageSettings := { atTime with head.metaTags := parsed }
  let themed : StatusPageSettings := { tagged with theme.preset := preset }
  let blanked : StatusPageSettings := { themed with sso.sharedSecret := "" }
  refine (assignAll_append_cons (u := atTime) (List.forall_mem_nil _) rfl _).trans ?_
  refine (assignAll_append_cons (u := tagged) ?_ rfl _).trans ?_
  · simp only [List.forall_mem_cons]
    exact ⟨rfl, rfl, rfl, rfl, List.forall_mem_nil _⟩
  refine (assignAll_append_cons (u := themed) ?_ rfl _).trans ?_
  · simp only [List.forall_mem_cons]
    exact ⟨rfl, rfl, rfl, rfl, List.forall_mem_nil _⟩
  refine (assignAll_append_cons (u := blanked) ?_ rfl _).trans ?_
  · simp only [List.forall_mem_cons]
    exact ⟨rfl, rfl, rfl, rfl, rfl, rfl, rfl, rfl, List.forall_mem_nil _⟩
  rw [← List.append_nil (List.cons _ _)]
  refine (assignAll_append_of_same ?_ []).trans rfl
  simp only [List.forall_mem_cons]
  exact ⟨rfl, rfl, rfl, rfl, rfl, rfl, rfl, rfl, rfl, rfl, rfl, rfl, List.forall_mem_nil _⟩

end Untouched
end Statora.Web
