import Statora.Auth.Ciphers
import Statora.Auth.SecondFactor
import Statora.Settings.Simulation

/-!
# No answer depends on a secret

The shared secret of single sign-on, the SMTP password and the SendGrid key are
replaced by a flag that says whether they are blank. Requests whose flagged forms agree,
on stores whose flagged documents agree, get the same answers and cause the same events
in every interleaving.
-/

namespace Statora.Settings
open Library (Act Assignment Fallible Pool Prog assign assignAll run)
open Library.Fallible (SameOutcome)

def flag (secret : String) : String := if trimSpace secret = "" then "" else "*"

theorem flag_cases (secret : String) :
    trimSpace secret = "" ∧ flag secret = "" ∨ trimSpace secret ≠ "" ∧ flag secret = "*" := by
  unfold flag
  split_ifs with h
  · exact Or.inl ⟨h, rfl⟩
  · exact Or.inr ⟨h, rfl⟩

theorem flag_trimSpace (secret : String) : flag (trimSpace secret) = flag secret := by
  unfold flag
  rw [trimSpace_trimSpace]

theorem trimSpace_flag (secret : String) : trimSpace (flag secret) = flag secret := by
  rcases flag_cases secret with ⟨-, h⟩ | ⟨-, h⟩ <;> rw [h] <;> decide

theorem blank_flag_iff (secret : String) :
    trimSpace (flag secret) = "" ↔ trimSpace secret = "" := by
  rw [trimSpace_flag]
  rcases flag_cases secret with ⟨hblank, h⟩ | ⟨hblank, h⟩
  · exact iff_of_true h hblank
  · exact iff_of_false (by rw [h]; decide) hblank

theorem flag_flag (secret : String) : flag (flag secret) = flag secret := by
  rcases flag_cases secret with ⟨-, h⟩ | ⟨-, h⟩ <;> rw [h] <;> decide

section MapSecrets
variable (g : String → String)

def StatusPageSettings.mapSecrets (s : StatusPageSettings) : StatusPageSettings :=
  { s with
    sso.sharedSecret := g s.sso.sharedSecret
    mail.smtp.password := g s.mail.smtp.password
    mail.sendGrid.apiKey := g s.mail.sendGrid.apiKey }

def mapSecret : (f : Field) → f.Value → f.Value
  | .ssoSharedSecret | .smtpPassword | .sendGridAPIKey => g
  | _ => fun v => v

def mapSecretAssignment (a : Assignment Field.Value) : Assignment Field.Value :=
  ⟨a.field, mapSecret g a.field a.value⟩

def StatusPageSettingsPatchRequest.mapSecrets (req : StatusPageSettingsPatchRequest) :
    StatusPageSettingsPatchRequest :=
  { req with
    sso := req.sso.map fun sso => { sso with sharedSecret := sso.sharedSecret.map g }
    mail := req.mail.map fun mail => { mail with
      smtp := mail.smtp.map fun smtp => { smtp with password := smtp.password.map g }
      sendGrid := mail.sendGrid.map fun sg => { sg with apiKey := sg.apiKey.map g } } }

theorem mapSecrets_set (f : Field) (v : f.Value) (s : StatusPageSettings) :
    (s.set f v).mapSecrets g = (s.mapSecrets g).set f (mapSecret g f v) := by
  cases f <;> rfl

theorem json_mapSecrets (s : StatusPageSettings) : (s.mapSecrets g).json = s.json := rfl

end MapSecrets

theorem buildAdminStatusPageSettingsResponse_flag (s : StatusPageSettings) :
    buildAdminStatusPageSettingsResponse (s.mapSecrets flag) =
      buildAdminStatusPageSettingsResponse s := by
  unfold buildAdminStatusPageSettingsResponse StatusPageSettings.mapSecrets
  simp only [ne_eq, blank_flag_iff]

theorem flag_ciphertext {env : Env} {nonce : Vector UInt8 12} {plain ciphertext : String}
    (h : Auth.encrypt env.ciphers nonce plain env.emailEncryptionKey = some ciphertext) :
    flag ciphertext = "*" :=
  if_neg (Auth.trimSpace_of_encrypt h)

def mapSecretsChecked (g : String → String) (part : Checked) : Checked :=
  part.map (List.map (mapSecretAssignment g))

theorem mapSecretsChecked_free (g : String → String) (f : Field) (value : Option f.Value) :
    mapSecretsChecked g (free f value) = free f (value.map (mapSecret g f)) := by
  cases value <;> rfl

section Flagged
variable (env : Env) (nonces nonces' : Nonces)

theorem map_flag_trimSpace (value : Option String) :
    (value.map trimSpace).map flag = ((value.map flag).map trimSpace).map flag := by
  cases value with
  | none => rfl
  | some v =>
    rw [Option.map_some, Option.map_some, Option.map_some, Option.map_some, Option.map_some,
      flag_trimSpace, trimSpace_flag, flag_flag]

theorem flagged_sharedSecret (value : Option String) :
    mapSecretsChecked flag (free .ssoSharedSecret (value.map trimSpace)) =
      mapSecretsChecked flag (free .ssoSharedSecret ((value.map flag).map trimSpace)) := by
  rw [mapSecretsChecked_free, mapSecretsChecked_free]
  exact congrArg (free .ssoSharedSecret) (map_flag_trimSpace value)

theorem encrypt_eq_none_iff (nonce : Vector UInt8 12) (plain : String) :
    Auth.encrypt env.ciphers nonce plain env.emailEncryptionKey = none ↔
      env.emailEncryptionKey.utf8ByteSize ≠ 32 := by
  unfold Auth.encrypt
  split_ifs with h
  · exact iff_of_true rfl h
  · exact iff_of_false (by simp) h

theorem flagged_encrypted (nonce nonce' : Vector UInt8 12) (message : String)
    (value : Option String) : (encrypted env nonce message value).map (Option.map flag) =
      (encrypted env nonce' message (value.map flag)).map (Option.map flag) := by
  cases value with
  | none => rfl
  | some v =>
    unfold encrypted
    dsimp only [Option.map_some]
    by_cases hblank : trimSpace v = ""
    · rw [if_pos hblank, if_pos ((blank_flag_iff v).mpr hblank)]
    · rw [if_neg hblank, if_neg fun h => hblank ((blank_flag_iff v).mp h)]
      cases h : Auth.encrypt env.ciphers nonce (trimSpace v) env.emailEncryptionKey with
      | none =>
        rw [(encrypt_eq_none_iff env nonce' _).mpr ((encrypt_eq_none_iff env nonce _).mp h)]
      | some ciphertext =>
        cases h' : Auth.encrypt env.ciphers nonce' (trimSpace (flag v))
            env.emailEncryptionKey with
        | none =>
          rw [(encrypt_eq_none_iff env nonce _).mpr ((encrypt_eq_none_iff env nonce' _).mp h')] at h
          cases h
        | some ciphertext' =>
          change Except.ok (some (flag ciphertext)) = Except.ok (some (flag ciphertext'))
          rw [flag_ciphertext h, flag_ciphertext h']

theorem mapSecretsChecked_bind_congr {f : Field} {g : String → String}
    {secret secret' : Except SettingsError (Option f.Value)}
    (h : secret.map (Option.map (mapSecret g f)) = secret'.map (Option.map (mapSecret g f))) :
    mapSecretsChecked g (secret.bind (free f)) = mapSecretsChecked g (secret'.bind (free f)) := by
  have hfree : ∀ secret : Except SettingsError (Option f.Value),
      mapSecretsChecked g (secret.bind (free f)) =
        (secret.map (Option.map (mapSecret g f))).bind (free f) := by
    intro secret
    cases secret with
    | error e => rfl
    | ok value => exact mapSecretsChecked_free g f value
  rw [hfree, hfree, h]

theorem flagged_smtp (smtp : SMTPPatch) :
    (smtp.checks env nonces).map (mapSecretsChecked flag) =
      (SMTPPatch.checks env nonces' { smtp with password := smtp.password.map flag }).map
        (mapSecretsChecked flag) := by
  have hpassword : mapSecretsChecked flag ((encrypted env nonces.smtpPassword
        "failed to encrypt SMTP password" smtp.password).bind (free .smtpPassword)) =
      mapSecretsChecked flag ((encrypted env nonces'.smtpPassword
        "failed to encrypt SMTP password" (smtp.password.map flag)).bind (free .smtpPassword)) :=
    mapSecretsChecked_bind_congr (f := .smtpPassword) (flagged_encrypted env _ _ _ _)
  unfold SMTPPatch.checks
  simp only [List.map_append, List.map_cons, List.map_nil, hpassword]
  rfl

theorem flagged_sendGrid (sg : SendGridPatch) :
    (sg.checks env nonces).map (mapSecretsChecked flag) =
      (SendGridPatch.checks env nonces' { sg with apiKey := sg.apiKey.map flag }).map
        (mapSecretsChecked flag) := by
  have hkey : mapSecretsChecked flag ((encrypted env nonces.sendGridAPIKey
        "failed to encrypt SendGrid API key" sg.apiKey).bind (free .sendGridAPIKey)) =
      mapSecretsChecked flag ((encrypted env nonces'.sendGridAPIKey
        "failed to encrypt SendGrid API key" (sg.apiKey.map flag)).bind (free .sendGridAPIKey)) :=
    mapSecretsChecked_bind_congr (f := .sendGridAPIKey) (flagged_encrypted env _ _ _ _)
  unfold SendGridPatch.checks
  simp only [List.map_append, List.map_cons, List.map_nil, hkey]
  rfl

theorem flagged_sso (sso : SSOPatch) : (sso.checks).map (mapSecretsChecked flag) =
    (SSOPatch.checks { sso with sharedSecret := sso.sharedSecret.map flag }).map
      (mapSecretsChecked flag) := by
  unfold SSOPatch.checks
  simp only [List.map_cons, List.map_nil, flagged_sharedSecret sso.sharedSecret]

theorem flagged_mail (mail : MailPatch) :
    (mail.checks env nonces).map (mapSecretsChecked flag) =
      (MailPatch.checks env nonces' { mail with
        smtp := mail.smtp.map fun smtp => { smtp with password := smtp.password.map flag }
        sendGrid := mail.sendGrid.map fun sg => { sg with apiKey := sg.apiKey.map flag } }).map
        (mapSecretsChecked flag) := by
  unfold MailPatch.checks
  simp only [List.map_append]
  congr 1
  · congr 1
    cases mail.smtp with
    | none => rfl
    | some smtp => exact flagged_smtp env nonces nonces' smtp
  · cases mail.sendGrid with
    | none => rfl
    | some sg => exact flagged_sendGrid env nonces nonces' sg

theorem flagged_openChecks (req : StatusPageSettingsPatchRequest) :
    (req.openChecks env).map (mapSecretsChecked flag) =
      ((req.mapSecrets flag).openChecks env).map (mapSecretsChecked flag) := by
  unfold StatusPageSettingsPatchRequest.openChecks StatusPageSettingsPatchRequest.mapSecrets
  simp only [List.map_append]
  congr 1
  cases req.sso with
  | none => rfl
  | some sso => exact flagged_sso sso

theorem flagged_checks (req : StatusPageSettingsPatchRequest) :
    (req.checks env nonces).map (mapSecretsChecked flag) =
      ((req.mapSecrets flag).checks env nonces').map (mapSecretsChecked flag) := by
  unfold StatusPageSettingsPatchRequest.checks
  simp only [List.map_append, flagged_openChecks env req]
  congr 2
  unfold StatusPageSettingsPatchRequest.mapSecrets
  cases req.mail with
  | none => rfl
  | some mail => exact flagged_mail env nonces nonces' mail

end Flagged

def SameDocument (doc doc' : StatusPageSettings) : Prop :=
  doc.mapSecrets flag = doc'.mapSecrets flag

def SameAssignment (a a' : Assignment Field.Value) : Prop :=
  mapSecretAssignment flag a = mapSecretAssignment flag a'

/-- The stores differ in secrets only, and in none that is blank in one of them. -/
def SameShown : SettingsStore → SettingsStore → Prop := List.Forall₂ SameDocument

theorem SameDocument.json {doc doc' : StatusPageSettings} (h : SameDocument doc doc') :
    doc.json = doc'.json := by
  rw [← json_mapSecrets flag doc, h, json_mapSecrets]

theorem SameDocument.admin {doc doc' : StatusPageSettings} (h : SameDocument doc doc') :
    buildAdminStatusPageSettingsResponse doc = buildAdminStatusPageSettingsResponse doc' := by
  rw [← buildAdminStatusPageSettingsResponse_flag doc, h,
    buildAdminStatusPageSettingsResponse_flag doc']

theorem SameDocument.assigned {doc doc' : StatusPageSettings} (h : SameDocument doc doc')
    {a a' : Assignment Field.Value} (ha : SameAssignment a a') :
    SameDocument (assign doc a) (assign doc' a') := by
  have hassign : ∀ (doc : StatusPageSettings) (a : Assignment Field.Value),
      (assign doc a).mapSecrets flag = assign (doc.mapSecrets flag) (mapSecretAssignment flag a) :=
    fun doc a => mapSecrets_set flag a.field a.value doc
  unfold SameDocument
  rw [hassign, hassign, h, ha]

theorem respects_sameDocument : Respects SameDocument SameAssignment where
  created _ := rfl
  upserted _ := rfl
  time _ := rfl
  assigned _ _ _ _ h ha := h.assigned ha
  tagged doc doc' tags h := by
    have hdocs : doc.mapSecrets flag = doc'.mapSecrets flag := h
    exact congrArg (fun s : StatusPageSettings => { s with head.metaTags := tags }) hdocs
  key doc doc' h := by
    have hdocs : doc.mapSecrets flag = doc'.mapSecrets flag := h
    have hkey : (doc.mapSecrets flag).key = (doc'.mapSecrets flag).key := by rw [hdocs]
    exact hkey
  json _ _ := SameDocument.json
  admin _ _ := SameDocument.admin

theorem forall₂_of_map_eq {α β : Type} {f : α → β} {l l' : List α} (h : l.map f = l'.map f) :
    List.Forall₂ (fun a a' => f a = f a') l l' := by
  rwa [← List.forall₂_eq_eq_eq, List.forall₂_map_left_iff, List.forall₂_map_right_iff] at h

theorem sameChecked_of_flagged {part part' : Checked}
    (h : mapSecretsChecked flag part = mapSecretsChecked flag part') :
    SameChecked SameAssignment part part' := by
  cases part with
  | error e =>
    cases part' with
    | error e' =>
      cases h
      exact .error e
    | ok set' => cases h
  | ok set =>
    cases part' with
    | error e' => cases h
    | ok set' =>
      have hmap : set.map (mapSecretAssignment flag) = set'.map (mapSecretAssignment flag) :=
        Except.ok.inj h
      exact .ok (forall₂_of_map_eq hmap)

theorem sameChecked_set (env : Env) (nonces nonces' : Nonces)
    {req req' : StatusPageSettingsPatchRequest} (h : req.mapSecrets flag = req'.mapSecrets flag) :
    SameChecked SameAssignment (req.set env nonces) (req'.set env nonces') := by
  have hchecks : (req.checks env nonces).map (mapSecretsChecked flag) =
      (req'.checks env nonces').map (mapSecretsChecked flag) := by
    rw [flagged_checks env nonces nonces req, h, ← flagged_checks env nonces' nonces req']
  exact sameChecked_collect
    ((forall₂_of_map_eq hchecks).imp fun _ _ => sameChecked_of_flagged)

inductive SameRequest : SettingsRequest → SettingsRequest → Prop
  | getPublic (now : ℤ) : SameRequest (.getPublic now) (.getPublic now)
  | getAdmin (now : ℤ) : SameRequest (.getAdmin now) (.getAdmin now)
  | update {req req' : StatusPageSettingsPatchRequest} (nonces nonces' : Nonces)
    (clock : ℕ → ℤ) (h : req.mapSecrets flag = req'.mapSecrets flag) :
    SameRequest (.update req nonces clock) (.update req' nonces' clock)
  | read (now : ℤ) : SameRequest (.read now) (.read now)

inductive SameAct : Act SettingsRequest → Act SettingsRequest → Prop
  | call {request request' : SettingsRequest} (h : SameRequest request request') :
    SameAct (.call request) (.call request')
  | op (k : ℕ) (succeeds : Bool) : SameAct (.op k succeeds) (.op k succeeds)

section Runs
variable (env : Env)

theorem SameRequest.related {request request' : SettingsRequest}
    (h : SameRequest request request') :
    Fallible.Related SameShown (· = ·) (request.program env) (request'.program env) := by
  cases h with
  | getPublic now => exact related_getPublic respects_sameDocument now
  | getAdmin now => exact related_getAdmin respects_sameDocument now
  | update nonces nonces' clock h =>
    exact related_applyUpdate respects_sameDocument (sameChecked_set env nonces nonces' h) clock
  | read now =>
    exact Fallible.related_bind (related_fetchOrCreate respects_sameDocument now)
      fun _ _ _ => Fallible.related_pure rfl

theorem SameAct.alike {act act' : Act SettingsRequest} (h : SameAct act act') :
    Act.Alike (SettingsRequest.program env) (SettingsRequest.program env) SameShown
      (SameOutcome (· = ·)) act act' := by
  cases h with
  | call h => exact .call (h.related env)
  | op k succeeds => exact .op k succeeds

/-- Two interleavings of the same requests up to secrets, on stores that differ in secrets
only, give every request the same answer and event. -/
theorem answers_same_run {docs docs' : SettingsStore} (hdocs : SameShown docs docs')
    {acts acts' : List (Act SettingsRequest)} (hacts : List.Forall₂ SameAct acts acts') :
    List.Forall₂
      (fun t t' => t.result (SettingsRequest.program env) =
        t'.result (SettingsRequest.program env))
      (run (Pool.step (SettingsRequest.program env)) { store := docs } acts).threads
      (run (Pool.step (SettingsRequest.program env)) { store := docs' } acts').threads := by
  have halike : Pool.Alike (SettingsRequest.program env) (SettingsRequest.program env) SameShown
      (SameOutcome (· = ·)) { store := docs } { store := docs' } := ⟨hdocs, .nil⟩
  exact (halike.run (hacts.imp fun _ _ h => h.alike env)).results.imp fun _ _ => eq_of_sameAnswer

end Runs

def exampleEnv : Env where
  ciphers := Auth.plainPrimitives
  parseRequestURI _ := some ⟨"https", "status.example.org"⟩
  emailEncryptionKey := "12345678901234567890123456789012"

def withPassword (password : String) : List (Act SettingsRequest) :=
  [.call (.update { mail := some { smtp := some { password := some password } } }
      ⟨Vector.replicate 12 0, Vector.replicate 12 0⟩ fun k => k),
    .op 0 true, .op 0 true, .op 0 true, .op 0 true, .op 0 true, .call (.getAdmin 9), .op 1 true]

theorem answers_same_run_withPassword :
    List.Forall₂
      (fun t t' => t.result (SettingsRequest.program exampleEnv) =
        t'.result (SettingsRequest.program exampleEnv))
      (run (Pool.step (SettingsRequest.program exampleEnv)) { store := [] }
        (withPassword "first")).threads
      (run (Pool.step (SettingsRequest.program exampleEnv)) { store := [] }
        (withPassword "second")).threads := by
  have hflag : flag "first" = flag "second" := by decide
  refine answers_same_run exampleEnv .nil
    (.cons (.call (.update _ _ _ ?_)) <| .cons (.op 0 true) <| .cons (.op 0 true) <|
      .cons (.op 0 true) <| .cons (.op 0 true) <| .cons (.op 0 true) <|
      .cons (.call (.getAdmin 9)) <| .cons (.op 1 true) .nil)
  simp only [StatusPageSettingsPatchRequest.mapSecrets, Option.map_some, hflag]

end Statora.Settings
