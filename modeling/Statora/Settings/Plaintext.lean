import Statora.Auth.Ciphers
import Statora.Settings.Delivery
import Statora.Settings.Secrets
import Statora.Settings.WellFormed

/-!
# Encryption of the mail secrets is transparent

The service without encryption stores the SMTP password and the SendGrid key as they are
sent. Every interleaving of requests and deliveries answers and delivers as it would there.
-/

namespace Statora.Settings
open Library (Act Assignment Fallible Pool Prog assign run)
open Library.Fallible (Related SameOutcome)
open Notifications (EventType Payload)

def secretText (value : Option String) : Option String :=
  value.bind fun v => if trimSpace v = "" then none else some (trimSpace v)

section Plain
variable (env : Env)

def SMTPPatch.plainChecks (smtp : SMTPPatch) : List Checked :=
  smtp.openChecks ++ [free .smtpPassword (secretText smtp.password)]

def SendGridPatch.plainChecks (sg : SendGridPatch) : List Checked :=
  sg.openChecks ++ [free .sendGridAPIKey (secretText sg.apiKey)]

def MailPatch.plainChecks (mail : MailPatch) : List Checked :=
  mail.openChecks env ++ mail.smtp.elim [] SMTPPatch.plainChecks ++
    mail.sendGrid.elim [] SendGridPatch.plainChecks

def StatusPageSettingsPatchRequest.plainChecks (req : StatusPageSettingsPatchRequest) :
    List Checked :=
  req.openChecks env ++ req.mail.elim [] (MailPatch.plainChecks env) ++
    [free .customCSS req.customCSS]

def SettingsRequest.plainProgram :
    SettingsRequest → Fallible SettingsStore SettingsError SettingsResponse
  | .getPublic now => getPublicStatusPageSettings now
  | .getAdmin now => getAdminStatusPageSettings now
  | .update req _ clock => applyUpdate (collect (req.plainChecks env)) clock
  | .read now => do
    let _ ← fetchOrCreateStatusPageSettings now
    return .internal

end Plain

inductive MailRequest
  | settings (request : SettingsRequest)
  | sendVerificationEmail (sub : Subscriber) (clock : ℕ → ℤ)
  | dispatchSubscriberEmail (verified : Option (List Subscriber)) (eventType : EventType)
    (data : Payload) (now : ℤ)
  | sendTestEmail (recipient : String) (clock : ℕ → ℤ)

inductive MailAnswer
  | settings (answer : Except SettingsError SettingsResponse)
  | delivered (deliveries : List Delivery)
  | tested (answer : TestAnswer)

def MailRequest.programWith (program : SettingsRequest → Prog SettingsStore
    (Except SettingsError SettingsResponse)) (reveal : String → Option String)
    (lower : Char → Char) (upper : String → String) : MailRequest → Prog SettingsStore MailAnswer
  | .settings request => (program request).bind fun answer => .ret (.settings answer)
  | .sendVerificationEmail sub clock =>
    (Settings.sendVerificationEmail reveal sub clock).bind fun deliveries =>
      .ret (.delivered deliveries)
  | .dispatchSubscriberEmail verified eventType data now =>
    (Settings.dispatchSubscriberEmail reveal upper verified eventType data now).bind
      fun deliveries => .ret (.delivered deliveries)
  | .sendTestEmail recipient clock =>
    (Settings.sendTestEmail reveal lower recipient clock).bind fun answer => .ret (.tested answer)

def MailRequest.program (env : Env) : (String → String) → MailRequest →
    Prog SettingsStore MailAnswer :=
  MailRequest.programWith (SettingsRequest.program env) (decryptSecret env) env.ciphers.lower

def MailRequest.plainProgram (env : Env) : (String → String) → MailRequest →
    Prog SettingsStore MailAnswer :=
  MailRequest.programWith (SettingsRequest.plainProgram env) some env.ciphers.lower

def StatusPageSettings.withMailSecrets (s : StatusPageSettings) (password apiKey : String) :
    StatusPageSettings :=
  { s with mail.smtp.password := password, mail.sendGrid.apiKey := apiKey }

section Sealed
variable (env : Env)

def Seals (value plain : String) : Prop :=
  value = "" ∧ plain = "" ∨ trimSpace plain ≠ "" ∧
    ∃ nonce, Auth.encrypt env.ciphers nonce plain env.emailEncryptionKey = some value

/-- The documents agree except for their mail secrets, which the first holds sealed. -/
inductive Sealed : Documents
  | intro (doc : StatusPageSettings) {password apiKey : String}
    (hpassword : Seals env doc.mail.smtp.password password)
    (hkey : Seals env doc.mail.sendGrid.apiKey apiKey) :
    Sealed doc (doc.withMailSecrets password apiKey)

inductive SealedAssignment : Assignments
  | password {value plain : String} (h : Seals env value plain) :
    SealedAssignment ⟨.smtpPassword, value⟩ ⟨.smtpPassword, plain⟩
  | apiKey {value plain : String} (h : Seals env value plain) :
    SealedAssignment ⟨.sendGridAPIKey, value⟩ ⟨.sendGridAPIKey, plain⟩
  | other {f : Field} (v : f.Value) (hpassword : f ≠ .smtpPassword)
    (hkey : f ≠ .sendGridAPIKey) : SealedAssignment ⟨f, v⟩ ⟨f, v⟩

variable {env}

theorem Seals.blank_iff {value plain : String} (h : Seals env value plain) :
    trimSpace value = "" ↔ trimSpace plain = "" := by
  rcases h with ⟨rfl, rfl⟩ | ⟨hplain, nonce, hencrypt⟩
  · rfl
  · exact iff_of_false (Auth.trimSpace_of_encrypt hencrypt) hplain

theorem Sealed.other {doc plain : StatusPageSettings} (h : Sealed env doc plain) {f : Field}
    (v : f.Value) (hpassword : f ≠ .smtpPassword) (hkey : f ≠ .sendGridAPIKey) :
    Sealed env (doc.set f v) (plain.set f v) := by
  cases h with
  | @intro _ password apiKey hp hk =>
    have hset : (doc.withMailSecrets password apiKey).set f v =
        (doc.set f v).withMailSecrets password apiKey := by
      cases f <;> first | rfl | exact absurd rfl hpassword | exact absurd rfl hkey
    have hsame : (doc.set f v).mail.smtp.password = doc.mail.smtp.password ∧
        (doc.set f v).mail.sendGrid.apiKey = doc.mail.sendGrid.apiKey := by
      cases f <;>
        first | exact ⟨rfl, rfl⟩ | exact absurd rfl hpassword | exact absurd rfl hkey
    rw [hset]
    exact .intro _ (hsame.1 ▸ hp) (hsame.2 ▸ hk)

theorem Sealed.assigned {doc plain : StatusPageSettings} (h : Sealed env doc plain)
    {a a' : Assignment Field.Value} (ha : SealedAssignment env a a') :
    Sealed env (assign doc a) (assign plain a') := by
  cases ha with
  | other v hpassword hkey => exact h.other v hpassword hkey
  | @password value text hseals =>
    cases h with
    | intro _ hp hk => exact .intro (doc.set .smtpPassword value) hseals hk
  | @apiKey value text hseals =>
    cases h with
    | intro _ hp hk => exact .intro (doc.set .sendGridAPIKey value) hp hseals

theorem admin_withMailSecrets {s : StatusPageSettings} {password apiKey : String}
    (hpassword : trimSpace s.mail.smtp.password = "" ↔ trimSpace password = "")
    (hkey : trimSpace s.mail.sendGrid.apiKey = "" ↔ trimSpace apiKey = "") :
    buildAdminStatusPageSettingsResponse s =
      buildAdminStatusPageSettingsResponse (s.withMailSecrets password apiKey) := by
  unfold buildAdminStatusPageSettingsResponse StatusPageSettings.withMailSecrets
  simp only [ne_eq, hpassword, hkey]

theorem respects_sealed : Respects (Sealed env) (SealedAssignment env) where
  created now := .intro (defaultStatusPageSettings now) (.inl ⟨rfl, rfl⟩) (.inl ⟨rfl, rfl⟩)
  upserted createdAt := .intro { key := statusPageSettingsKey, createdAt := createdAt }
    (.inl ⟨rfl, rfl⟩) (.inl ⟨rfl, rfl⟩)
  time t := .other (f := .updatedAt) t (by decide) (by decide)
  assigned _ _ _ _ h ha := h.assigned ha
  tagged doc _ tags h := by
    cases h with
    | intro _ hp hk => exact .intro { doc with head.metaTags := tags } hp hk
  key _ _ h := by
    cases h
    rfl
  json _ _ h := by
    cases h
    rfl
  admin _ _ h := by
    cases h with
    | intro _ hp hk => exact admin_withMailSecrets hp.blank_iff hk.blank_iff

def Field.isOpen (f : Field) : Bool := f ≠ .smtpPassword && f ≠ .sendGridAPIKey

def Apart (part : Checked) : Prop := ∀ as, part = .ok as → ∀ a ∈ as, a.field.isOpen = true

theorem apart_free {f : Field} (hf : f.isOpen = true) (value : Option f.Value) :
    Apart (free f value) := by
  intro as has a ha
  cases has
  cases value with
  | none => cases ha
  | some v =>
    obtain rfl := List.mem_singleton.mp ha
    exact hf

theorem apart_checked {f : Field} (hf : f.isOpen = true) (accepts : f.Value → Bool)
    (message : String) (value : Option f.Value) : Apart (checked f accepts message value) := by
  intro as has a ha
  cases value with
  | none =>
    cases has
    cases ha
  | some v =>
    change (if accepts v then _ else _) = _ at has
    split at has
    · cases has
      obtain rfl := List.mem_singleton.mp ha
      exact hf
    · cases has

theorem PalettePatch.apart (palette : Palette) (patch : PalettePatch) :
    ∀ part ∈ patch.checks palette, Apart part := by
  simp only [PalettePatch.checks, List.forall_mem_cons]
  exact ⟨apart_checked rfl _ _ _, apart_checked rfl _ _ _, apart_checked rfl _ _ _,
    apart_checked rfl _ _ _, List.forall_mem_nil _⟩

theorem ThemePatch.apart (theme : ThemePatch) : ∀ part ∈ theme.checks, Apart part := by
  have htypography : ∀ typography : TypographyPatch, ∀ part ∈ typography.checks, Apart part := by
    intro typography
    simp only [TypographyPatch.checks, List.forall_mem_cons]
    exact ⟨apart_free rfl _, apart_checked rfl _ _ _, List.forall_mem_nil _⟩
  simp only [ThemePatch.checks, List.forall_mem_append, List.forall_mem_cons]
  exact ⟨⟨⟨⟨apart_checked rfl _ _ _, apart_checked rfl _ _ _, List.forall_mem_nil _⟩,
    forall_mem_elim (PalettePatch.apart .light)⟩, forall_mem_elim (PalettePatch.apart .dark)⟩,
    forall_mem_elim htypography⟩

theorem apart_openChecks (req : StatusPageSettingsPatchRequest) :
    ∀ part ∈ req.openChecks env, Apart part := by
  simp only [StatusPageSettingsPatchRequest.openChecks, List.forall_mem_append]
  refine ⟨⟨⟨⟨⟨forall_mem_elim fun head => ?_, forall_mem_elim fun branding => ?_⟩,
    forall_mem_elim ThemePatch.apart⟩, forall_mem_elim fun layout => ?_⟩,
    forall_mem_elim fun footer => ?_⟩, forall_mem_elim fun sso => ?_⟩
  · simp only [HeadPatch.checks, List.forall_mem_cons]
    exact ⟨apart_free rfl _, apart_free rfl _, apart_free rfl _, apart_checked rfl _ _ _,
      apart_free rfl _, List.forall_mem_nil _⟩
  · simp only [BrandingPatch.checks, List.forall_mem_cons]
    exact ⟨apart_free rfl _, apart_checked rfl _ _ _, apart_checked rfl _ _ _,
      apart_checked rfl _ _ _, List.forall_mem_nil _⟩
  · simp only [LayoutPatch.checks, List.forall_mem_cons]
    exact ⟨apart_checked rfl _ _ _, List.forall_mem_nil _⟩
  · simp only [FooterPatch.checks, List.forall_mem_cons]
    exact ⟨apart_free rfl _, apart_free rfl _, List.forall_mem_nil _⟩
  · simp only [SSOPatch.checks, List.forall_mem_cons]
    exact ⟨apart_free rfl _, apart_free rfl _, apart_free rfl _, apart_free rfl _,
      apart_checked rfl _ _ _, apart_free rfl _, apart_free rfl _, List.forall_mem_nil _⟩

theorem SMTPPatch.apart (smtp : SMTPPatch) : ∀ part ∈ smtp.openChecks, Apart part := by
  simp only [SMTPPatch.openChecks, List.forall_mem_cons]
  exact ⟨apart_free rfl _, apart_checked rfl _ _ _, apart_free rfl _, apart_free rfl _,
    apart_free rfl _, apart_checked rfl _ _ _, List.forall_mem_nil _⟩

theorem SendGridPatch.apart (sg : SendGridPatch) : ∀ part ∈ sg.openChecks, Apart part := by
  simp only [SendGridPatch.openChecks, List.forall_mem_cons]
  exact ⟨apart_free rfl _, apart_free rfl _, List.forall_mem_nil _⟩

theorem MailPatch.apart (mail : MailPatch) : ∀ part ∈ mail.openChecks env, Apart part := by
  simp only [MailPatch.openChecks, List.forall_mem_cons]
  exact ⟨apart_checked rfl _ _ _, apart_checked rfl _ _ _, List.forall_mem_nil _⟩

theorem sealedAssignment_self {a : Assignment Field.Value} (h : a.field.isOpen = true) :
    SealedAssignment env a a := by
  simp only [Field.isOpen, Bool.and_eq_true, decide_eq_true_eq] at h
  exact .other a.value h.1 h.2

theorem sameChecked_of_apart {checks : List Checked} (h : ∀ part ∈ checks, Apart part) :
    List.Forall₂ (SameChecked (SealedAssignment env)) checks checks := by
  refine List.forall₂_same.mpr fun part hpart => ?_
  have hapart := h part hpart
  cases part with
  | error e => exact .error e
  | ok as =>
    exact .ok (List.forall₂_same.mpr fun a ha => sealedAssignment_self (hapart as rfl a ha))

theorem seals_encrypted (hkey : env.emailEncryptionKey.utf8ByteSize = 32)
    (nonce : Vector UInt8 12) (message : String) (value : Option String) :
    ∃ stored, encrypted env nonce message value = .ok stored ∧
      Option.Rel (Seals env) stored (secretText value) := by
  cases value with
  | none => exact ⟨none, rfl, .none⟩
  | some v =>
    unfold encrypted secretText
    dsimp only [Option.bind_some]
    by_cases hblank : trimSpace v = ""
    · rw [if_pos hblank, if_pos hblank]
      exact ⟨none, rfl, .none⟩
    · obtain ⟨ciphertext, hencrypt⟩ :=
        Auth.encrypt_isSome (c := env.ciphers) hkey nonce (trimSpace v)
      rw [if_neg hblank, if_neg hblank, hencrypt]
      refine ⟨some ciphertext, rfl, .some (.inr ⟨?_, nonce, hencrypt⟩)⟩
      rwa [trimSpace_trimSpace]

theorem sameChecked_secret {f : Field} {secret : Except SettingsError (Option f.Value)}
    {stored plain : Option f.Value} (h : secret = .ok stored)
    (hrel : Option.Rel (fun value text => SealedAssignment env ⟨f, value⟩ ⟨f, text⟩) stored plain) :
    SameChecked (SealedAssignment env) (secret.bind (free f)) (free f plain) := by
  rw [h]
  cases hrel with
  | none => exact .ok .nil
  | some hseals => exact .ok (.cons hseals .nil)

section Key
variable (hkey : env.emailEncryptionKey.utf8ByteSize = 32) (nonces : Nonces)
include hkey

theorem sameChecked_smtp (smtp : SMTPPatch) : List.Forall₂ (SameChecked (SealedAssignment env))
    (smtp.checks env nonces) smtp.plainChecks := by
  obtain ⟨stored, hstored, hseals⟩ := seals_encrypted hkey nonces.smtpPassword
    "failed to encrypt SMTP password" smtp.password
  refine List.rel_append (sameChecked_of_apart smtp.apart) (.cons ?_ .nil)
  refine sameChecked_secret (f := .smtpPassword) hstored ?_
  generalize secretText smtp.password = text at hseals
  cases hseals with
  | none => exact .none
  | some h => exact .some (.password h)

theorem sameChecked_sendGrid (sg : SendGridPatch) :
    List.Forall₂ (SameChecked (SealedAssignment env)) (sg.checks env nonces) sg.plainChecks := by
  obtain ⟨stored, hstored, hseals⟩ := seals_encrypted hkey nonces.sendGridAPIKey
    "failed to encrypt SendGrid API key" sg.apiKey
  refine List.rel_append (sameChecked_of_apart sg.apart) (.cons ?_ .nil)
  refine sameChecked_secret (f := .sendGridAPIKey) hstored ?_
  generalize secretText sg.apiKey = text at hseals
  cases hseals with
  | none => exact .none
  | some h => exact .some (.apiKey h)

theorem sameChecked_mail (mail : MailPatch) : List.Forall₂ (SameChecked (SealedAssignment env))
    (mail.checks env nonces) (mail.plainChecks env) := by
  refine List.rel_append (List.rel_append (sameChecked_of_apart mail.apart) ?_) ?_
  · cases mail.smtp with
    | none => exact .nil
    | some smtp => exact sameChecked_smtp hkey nonces smtp
  · cases mail.sendGrid with
    | none => exact .nil
    | some sg => exact sameChecked_sendGrid hkey nonces sg

theorem sameChecked_plain (req : StatusPageSettingsPatchRequest) :
    SameChecked (SealedAssignment env) (req.set env nonces) (collect (req.plainChecks env)) := by
  have hcustom : ∀ part ∈ [free .customCSS req.customCSS], Apart part :=
    List.forall_mem_singleton.mpr (apart_free (f := .customCSS) rfl _)
  refine sameChecked_collect (List.rel_append (List.rel_append
    (sameChecked_of_apart (apart_openChecks req)) ?_) (sameChecked_of_apart hcustom))
  cases req.mail with
  | none => exact .nil
  | some mail => exact sameChecked_mail hkey nonces mail

theorem SettingsRequest.related_plain (request : SettingsRequest) :
    Related (List.Forall₂ (Sealed env)) (· = ·) (request.program env)
      (request.plainProgram env) := by
  cases request with
  | getPublic now => exact related_getPublic respects_sealed now
  | getAdmin now => exact related_getAdmin respects_sealed now
  | update req nonces clock =>
    exact related_applyUpdate respects_sealed (sameChecked_plain hkey nonces req) clock
  | read now =>
    exact Fallible.related_bind (related_fetchOrCreate respects_sealed now)
      fun _ _ _ => Fallible.related_pure rfl

end Key

theorem Sealed.mail_open {doc plain : StatusPageSettings} (h : Sealed env doc plain) :
    plain.mail.baseURL = doc.mail.baseURL ∧ plain.mail.provider = doc.mail.provider ∧
      plain.branding = doc.branding := by
  cases h
  exact ⟨rfl, rfl, rfl⟩

theorem related_subscriberBaseURL (now : ℤ) : Prog.Related (List.Forall₂ (Sealed env)) (· = ·)
    (subscriberBaseURL now) (subscriberBaseURL now) := by
  refine related_read respects_sealed (fun doc plain h => ?_) now
  rw [h.mail_open.1]

theorem related_subscriberSiteName (now : ℤ) : Prog.Related (List.Forall₂ (Sealed env)) (· = ·)
    (subscriberSiteName now) (subscriberSiteName now) := by
  refine related_read respects_sealed (fun doc plain h => ?_) now
  rw [h.mail_open.2.2]

theorem related_currentMailProvider (now : ℤ) : Prog.Related (List.Forall₂ (Sealed env)) (· = ·)
    (currentMailProvider now) (currentMailProvider now) :=
  related_read respects_sealed (fun _ _ h => h.mail_open.2.1.symm) now

section Deliveries
variable (hopens : env.ciphers.OpensSealed)
include hopens

theorem revealed_seals (failed : MailerError) {value plain : String} (h : Seals env value plain) :
    revealed (decryptSecret env) failed value = revealed some failed plain := by
  unfold revealed
  rcases h with ⟨rfl, rfl⟩ | ⟨hblank, nonce, hencrypt⟩
  · rfl
  · have hvalue : value ≠ "" := by
      rintro rfl
      exact Auth.trimSpace_of_encrypt hencrypt (by decide)
    have hplain : plain ≠ "" := by
      rintro rfl
      exact hblank (by decide)
    have hdecrypt : decryptSecret env value = some plain :=
      Auth.decrypt_of_encrypt hopens hencrypt
    rw [if_pos hvalue, if_pos hplain, hdecrypt]

theorem newMailer_sealed {doc plain : StatusPageSettings} (h : Sealed env doc plain) :
    newMailer (decryptSecret env) doc.mail = newMailer some plain.mail := by
  cases h with
  | @intro _ password apiKey hp hk =>
    have hpassword := revealed_seals hopens .decryptSMTPPassword hp
    have hkey := revealed_seals hopens .decryptSendGridAPIKey hk
    have hprovider : (doc.withMailSecrets password apiKey).mail.provider = doc.mail.provider := rfl
    unfold newMailer
    rw [hprovider]
    cases doc.mail.provider with
    | none | unset | unknown name => rfl
    | smtp =>
      dsimp only
      rw [hpassword]
      rfl
    | sendgrid =>
      dsimp only
      rw [hkey]
      rfl

theorem related_loadMailer (now : ℤ) : Related (List.Forall₂ (Sealed env))
    (fun loaded loaded' => loaded.1 = loaded'.1 ∧ Sealed env loaded.2 loaded'.2)
    (loadMailerWithSettings (decryptSecret env) now) (loadMailerWithSettings some now) := by
  have hfetch : Related (List.Forall₂ (Sealed env)) (Sealed env)
      (Fallible.mapError LoadError.settings (fetchOrCreateStatusPageSettings now))
      (Fallible.mapError LoadError.settings (fetchOrCreateStatusPageSettings now)) :=
    Fallible.related_mapError (related_fetchOrCreate respects_sealed now)
  refine Fallible.related_bind hfetch fun doc plain hdoc => ?_
  rw [newMailer_sealed hopens hdoc]
  cases newMailer some plain.mail with
  | error e => exact Fallible.related_throw _
  | ok mailer => exact Fallible.related_pure ⟨rfl, hdoc⟩

theorem related_sendVerificationEmail (sub : Subscriber) (clock : ℕ → ℤ) :
    Prog.Related (List.Forall₂ (Sealed env)) (· = ·)
      (sendVerificationEmail (decryptSecret env) sub clock)
      (sendVerificationEmail some sub clock) := by
  refine Prog.Related.bind (related_subscriberBaseURL _) fun baseURL _ hbase => ?_
  subst hbase
  split
  · exact rfl
  refine Prog.Related.bind (related_loadMailer hopens _) fun loaded loaded' h => ?_
  cases h with
  | error e => exact rfl
  | @ok loaded loaded' h =>
    obtain ⟨mailer, settings⟩ := loaded
    obtain ⟨mailer', settings'⟩ := loaded'
    obtain rfl : mailer = mailer' := h.1
    cases mailer with
    | none => exact rfl
    | some mailer =>
      refine Prog.Related.bind (related_subscriberSiteName _) fun siteName _ hname => ?_
      subst hname
      dsimp only
      split <;> exact rfl

theorem related_dispatchSubscriberEmail (upper : String → String)
    (verified : Option (List Subscriber)) (eventType : EventType) (data : Payload) (now : ℤ) :
    Prog.Related (List.Forall₂ (Sealed env)) (· = ·)
      (dispatchSubscriberEmail (decryptSecret env) upper verified eventType data now)
      (dispatchSubscriberEmail some upper verified eventType data now) := by
  refine Prog.Related.bind (related_loadMailer hopens _) fun loaded loaded' h => ?_
  cases h with
  | error e => exact rfl
  | @ok loaded loaded' h =>
    obtain ⟨mailer, settings⟩ := loaded
    obtain ⟨mailer', settings'⟩ := loaded'
    obtain ⟨hmailer, hsettings⟩ := h
    obtain rfl : mailer = mailer' := hmailer
    cases mailer with
    | none => exact rfl
    | some mailer =>
      obtain ⟨hbase, -, hbranding⟩ := hsettings.mail_open
      dsimp only at hbase hbranding
      dsimp only
      rw [hbase, hbranding]
      exact rfl

theorem related_sendTestEmail (recipient : String) (clock : ℕ → ℤ) :
    Prog.Related (List.Forall₂ (Sealed env)) (· = ·)
      (sendTestEmail (decryptSecret env) env.ciphers.lower recipient clock)
      (sendTestEmail some env.ciphers.lower recipient clock) := by
  refine Prog.Related.bind (related_loadMailer hopens _) fun loaded loaded' h => ?_
  cases h with
  | error e => exact rfl
  | @ok loaded loaded' h =>
    obtain ⟨mailer, settings⟩ := loaded
    obtain ⟨mailer', settings'⟩ := loaded'
    obtain rfl : mailer = mailer' := h.1
    cases mailer with
    | none => exact rfl
    | some mailer =>
      refine Prog.Related.bind (related_subscriberSiteName _) fun siteName _ hname => ?_
      subst hname
      refine Prog.Related.bind (related_currentMailProvider _) fun provider _ hprovider => ?_
      subst hprovider
      exact rfl

end Deliveries

section Runs
variable (hkey : env.emailEncryptionKey.utf8ByteSize = 32) (hopens : env.ciphers.OpensSealed)
  (upper : String → String)
include hkey hopens

theorem MailRequest.related_plain (request : MailRequest) :
    Prog.Related (List.Forall₂ (Sealed env)) (· = ·) (request.program env upper)
      (request.plainProgram env upper) := by
  cases request with
  | settings request =>
    refine Prog.Related.bind (request.related_plain hkey) fun answer answer' h => ?_
    cases h with
    | ok h => exact congrArg (fun response => MailAnswer.settings (.ok response)) h
    | error e => exact rfl
  | sendVerificationEmail sub clock =>
    exact Prog.Related.bind (related_sendVerificationEmail hopens sub clock)
      fun _ _ h => congrArg MailAnswer.delivered h
  | dispatchSubscriberEmail verified eventType data now =>
    exact Prog.Related.bind
      (related_dispatchSubscriberEmail hopens upper verified eventType data now)
      fun _ _ h => congrArg MailAnswer.delivered h
  | sendTestEmail recipient clock =>
    exact Prog.Related.bind (related_sendTestEmail hopens recipient clock)
      fun _ _ h => congrArg MailAnswer.tested h

/-- With a key of 32 bytes, every interleaving of requests and deliveries answers and delivers
what the service without encryption does on the stored texts. -/
theorem encryption_transparent_run {docs docs' : SettingsStore}
    (hdocs : List.Forall₂ (Sealed env) docs docs') (acts : List (Act MailRequest)) :
    List.Forall₂
      (fun t t' => t.result (MailRequest.program env upper) =
        t'.result (MailRequest.plainProgram env upper))
      (run (Pool.step (MailRequest.program env upper)) { store := docs } acts).threads
      (run (Pool.step (MailRequest.plainProgram env upper)) { store := docs' } acts).threads := by
  have halike : Pool.Alike (MailRequest.program env upper) (MailRequest.plainProgram env upper)
      (List.Forall₂ (Sealed env)) (· = ·) { store := docs } { store := docs' } := ⟨hdocs, .nil⟩
  have hacts : List.Forall₂ (Act.Alike (MailRequest.program env upper)
      (MailRequest.plainProgram env upper) (List.Forall₂ (Sealed env)) (· = ·)) acts acts := by
    refine List.forall₂_same.mpr fun act _ => ?_
    cases act with
    | call request => exact .call (request.related_plain hkey hopens upper)
    | op k succeeds => exact .op k succeeds
  refine (halike.run hacts).results.imp fun t t' h => ?_
  generalize t.result (MailRequest.program env upper) = answer at h
  generalize t'.result (MailRequest.plainProgram env upper) = answer' at h
  cases h with
  | none => rfl
  | some h => rw [h]

end Runs
end Sealed

def openPrimitives : Auth.Primitives :=
  { Auth.plainPrimitives with
    gcmSeal := fun _ _ plain => plain.toUTF8.data.toList
    gcmOpen := fun _ _ bytes => String.fromUTF8? ⟨bytes.toArray⟩ }

theorem openPrimitives_opensSealed : openPrimitives.OpensSealed := by
  intro key nonce plain
  change String.fromUTF8? ⟨plain.toUTF8.data.toList.toArray⟩ = some plain
  rw [Array.toArray_toList]
  exact dif_pos plain.isValidUTF8

def sendingEnv : Env := { exampleEnv with ciphers := openPrimitives }

def sendingMail : List (Act MailRequest) :=
  [.call (.settings (.update { mail := some { provider := some "smtp", smtp := some {
      host := some "mail.example.org", port := some 465, password := some " päss "
      fromEmail := some "status@example.org", encryption := some "tls" } } }
      ⟨Vector.replicate 12 0, Vector.replicate 12 0⟩ fun k => k)),
    .op 0 true, .op 0 true, .op 0 true, .op 0 true, .op 0 true,
    .call (.sendTestEmail "alice@example.com" fun k => 9 + k), .op 1 true, .op 1 true, .op 1 true]

theorem encryption_transparent_run_sendingMail :
    List.Forall₂
      (fun t t' => t.result (MailRequest.program sendingEnv String.toUpper) =
        t'.result (MailRequest.plainProgram sendingEnv String.toUpper))
      (run (Pool.step (MailRequest.program sendingEnv String.toUpper)) { store := [] }
        sendingMail).threads
      (run (Pool.step (MailRequest.plainProgram sendingEnv String.toUpper)) { store := [] }
        sendingMail).threads :=
  encryption_transparent_run (by decide) openPrimitives_opensSealed String.toUpper .nil sendingMail

end Statora.Settings
