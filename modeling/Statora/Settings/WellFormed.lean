import Statora.Library.StableFacts
import Statora.Settings.Handlers

/-!
# Stored settings are well formed

However reads and updates interleave, whichever of their operations fail, every stored
document holds in each field what the handlers accept there. Two values of the default
document are ones that they would refuse: its favicon and its blank SMTP encryption.
-/

namespace Statora.Settings
open Library (AllStates Assignment Fallible Pool Prog Record assignAll forall_mem_updateFirst
  forall_get_assignAll updateFirst)

section Fields
variable (env : Env)

/-- A secret at rest: none, or what encrypting a text without surrounding space gives. -/
def SecretAtRest (value : String) : Prop :=
  value = "" ∨ ∃ nonce plain, trimSpace plain = plain ∧ plain ≠ "" ∧
    Auth.encrypt env.ciphers nonce plain env.emailEncryptionKey = some value

def HTTPURLOrEmpty (value : String) : Prop := isValidURLOrEmpty env value = true

def Favicon (value : String) : Prop := value = "/vite.svg" ∨ HTTPURLOrEmpty env value

def PresetName (value : String) : Prop := ∀ c ∈ value.toList, isPresetChar c = true

def ColorHex (value : String) : Prop := isValidColorHex value = true

def OneOf (names : List String) (value : String) : Prop := value ∈ names

def SMTPEncryption (value : String) : Prop :=
  value = "" ∨ OneOf ["starttls", "tls", "none"] value

def Trimmed (value : String) : Prop := trimSpace value = value

/-- What a field of a stored document may hold: what an update may set it to, and what the
default document has. -/
def Field.Holds : (f : Field) → f.Value → Prop
  | .faviconURL => Favicon env
  | .logoURL | .backgroundImageURL | .heroImageURL => HTTPURLOrEmpty env
  | .mailBaseURL => fun v : String => HTTPURLOrEmpty env v ∧ Trimmed v
  | .preset => PresetName
  | .mode => OneOf ["light", "dark", "system"]
  | .color _ _ => ColorHex
  | .fontScale => OneOf ["sm", "md", "lg"]
  | .variant => OneOf ["classic", "compact", "minimal", "cards"]
  | .ssoProvider | .ssoIssuer | .ssoAudience | .ssoSharedSecret | .ssoPublicKeyPEM => Trimmed
  | .ssoAlgorithm => OneOf ["HS256", "RS256"]
  | .mailProvider => fun v : MailProviderType => v = .none ∨ v = .smtp ∨ v = .sendgrid
  | .smtpHost | .smtpFromEmail | .sendGridFromEmail => Trimmed
  | .smtpPort => fun v : ℤ => 0 ≤ v ∧ v ≤ 65535
  | .smtpEncryption => SMTPEncryption
  | .smtpPassword | .sendGridAPIKey => SecretAtRest env
  | _ => fun _ => True

def WellFormed (doc : StatusPageSettings) : Prop :=
  doc.key = statusPageSettingsKey ∧ ∀ f, Field.Holds env f (doc.get f)

end Fields

section Checks
variable {env : Env} {nonces : Nonces}

def Sound (env : Env) (part : Checked) : Prop :=
  ∀ as, part = .ok as → ∀ a ∈ as, Field.Holds env a.field a.value

theorem sound_free {f : Field} {value : Option f.Value}
    (h : ∀ v, value = some v → Field.Holds env f v) : Sound env (free f value) := by
  rintro as has a ha
  cases has
  cases value with
  | none => cases ha
  | some v =>
    obtain rfl := List.mem_singleton.mp ha
    exact h v rfl

theorem sound_checked {f : Field} {accepts : f.Value → Bool} {message : String}
    {value : Option f.Value}
    (h : ∀ v, value = some v → accepts v = true → Field.Holds env f v) :
    Sound env (checked f accepts message value) := by
  intro as has a ha
  cases value with
  | none =>
    cases has
    cases ha
  | some v =>
    unfold checked at has
    dsimp only at has
    split at has
    · next haccepts =>
      cases has
      obtain rfl := List.mem_singleton.mp ha
      exact h v rfl haccepts
    · cases has

theorem secretAtRest_encrypted {nonce : Vector UInt8 12} {message : String}
    {value : Option String} {ciphertext : String}
    (h : encrypted env nonce message value = .ok (some ciphertext)) :
    SecretAtRest env ciphertext := by
  cases value with
  | none => cases h
  | some v =>
    unfold encrypted at h
    dsimp only at h
    split at h
    · cases h
    · next hblank =>
      split at h
      · cases h
      · next hencrypt =>
        cases h
        exact Or.inr ⟨nonce, trimSpace v, trimSpace_trimSpace v, hblank, hencrypt⟩

theorem sound_encrypted {f : Field} {secret : Except SettingsError (Option f.Value)}
    (h : ∀ v, secret = .ok (some v) → Field.Holds env f v) :
    Sound env (secret.bind (free f)) := by
  cases hsecret : secret with
  | error e => intro as has; cases has
  | ok value => exact sound_free fun v hv => h v (by rw [hsecret, hv])

theorem oneOf_of_contains {names : List String} {v : String} (h : oneOf names v = true) :
    OneOf names v := List.contains_iff_mem.mp h

theorem trimmed_of_map {value : Option String} {v : String}
    (h : value.map trimSpace = some v) : Trimmed v := by
  obtain ⟨raw, -, rfl⟩ := Option.map_eq_some_iff.mp h
  exact trimSpace_trimSpace raw

theorem HeadPatch.sound (head : HeadPatch) : ∀ part ∈ head.checks env, Sound env part := by
  simp only [HeadPatch.checks, List.forall_mem_cons]
  exact ⟨sound_free fun _ _ => trivial, sound_free fun _ _ => trivial,
    sound_free fun _ _ => trivial, sound_checked fun _ _ h => Or.inr h,
    sound_free fun _ _ => trivial, List.forall_mem_nil _⟩

theorem BrandingPatch.sound (branding : BrandingPatch) :
    ∀ part ∈ branding.checks env, Sound env part := by
  simp only [BrandingPatch.checks, List.forall_mem_cons]
  exact ⟨sound_free fun _ _ => trivial, sound_checked fun _ _ h => h,
    sound_checked fun _ _ h => h, sound_checked fun _ _ h => h, List.forall_mem_nil _⟩

theorem PalettePatch.sound (palette : Palette) (patch : PalettePatch) :
    ∀ part ∈ patch.checks palette, Sound env part := by
  simp only [PalettePatch.checks, List.forall_mem_cons]
  exact ⟨sound_checked fun _ _ h => h, sound_checked fun _ _ h => h,
    sound_checked fun _ _ h => h, sound_checked fun _ _ h => h, List.forall_mem_nil _⟩

theorem TypographyPatch.sound (typography : TypographyPatch) :
    ∀ part ∈ typography.checks, Sound env part := by
  simp only [TypographyPatch.checks, List.forall_mem_cons]
  exact ⟨sound_free fun _ _ => trivial, sound_checked fun _ _ h => oneOf_of_contains h,
    List.forall_mem_nil _⟩

theorem presetName_of_isValidThemePreset {v : String} (h : isValidThemePreset v = true) :
    PresetName v := by
  unfold isValidThemePreset at h
  rw [Bool.or_eq_true, Bool.and_eq_true, decide_eq_true_eq] at h
  rcases h with rfl | ⟨-, h⟩
  · intro c hc
    cases hc
  · exact List.all_eq_true.mp h

theorem forall_mem_elim {α β : Type} {P : β → Prop} {part : Option α} {f : α → List β}
    (h : ∀ a, ∀ b ∈ f a, P b) : ∀ b ∈ part.elim [] f, P b := by
  cases part with
  | none => exact List.forall_mem_nil _
  | some a => exact h a

theorem ThemePatch.sound (theme : ThemePatch) : ∀ part ∈ theme.checks, Sound env part := by
  simp only [ThemePatch.checks, List.forall_mem_append, List.forall_mem_cons]
  exact ⟨⟨⟨⟨sound_checked fun _ _ h => presetName_of_isValidThemePreset h,
    sound_checked fun _ _ h => oneOf_of_contains h, List.forall_mem_nil _⟩,
    forall_mem_elim (PalettePatch.sound .light)⟩, forall_mem_elim (PalettePatch.sound .dark)⟩,
    forall_mem_elim TypographyPatch.sound⟩

theorem LayoutPatch.sound (layout : LayoutPatch) : ∀ part ∈ layout.checks, Sound env part := by
  simp only [LayoutPatch.checks, List.forall_mem_cons]
  exact ⟨sound_checked fun _ _ h => oneOf_of_contains h, List.forall_mem_nil _⟩

theorem FooterPatch.sound (footer : FooterPatch) : ∀ part ∈ footer.checks, Sound env part := by
  simp only [FooterPatch.checks, List.forall_mem_cons]
  exact ⟨sound_free fun _ _ => trivial, sound_free fun _ _ => trivial, List.forall_mem_nil _⟩

theorem SSOPatch.sound (sso : SSOPatch) : ∀ part ∈ sso.checks, Sound env part := by
  simp only [SSOPatch.checks, List.forall_mem_cons]
  exact ⟨sound_free fun _ _ => trivial, sound_free fun _ => trimmed_of_map,
    sound_free fun _ => trimmed_of_map, sound_free fun _ => trimmed_of_map,
    sound_checked fun _ _ h => oneOf_of_contains h, sound_free fun _ => trimmed_of_map,
    sound_free fun _ => trimmed_of_map, List.forall_mem_nil _⟩

theorem port_of_check {v : ℤ} (h : (!(v < 0 || v > 65535)) = true) : 0 ≤ v ∧ v ≤ 65535 := by
  simp only [Bool.not_eq_true', Bool.or_eq_false_iff, decide_eq_false_iff_not] at h
  omega

theorem SMTPPatch.sound (smtp : SMTPPatch) :
    ∀ part ∈ smtp.checks env nonces, Sound env part := by
  simp only [SMTPPatch.checks, SMTPPatch.openChecks, List.cons_append, List.nil_append,
    List.forall_mem_cons]
  exact ⟨sound_free fun _ => trimmed_of_map, sound_checked fun _ _ h => port_of_check h,
    sound_free fun _ _ => trivial, sound_free fun _ => trimmed_of_map,
    sound_free fun _ _ => trivial, sound_checked fun _ _ h => Or.inr (oneOf_of_contains h),
    sound_encrypted (f := .smtpPassword) fun _ h => secretAtRest_encrypted h,
    List.forall_mem_nil _⟩

theorem SendGridPatch.sound (sg : SendGridPatch) :
    ∀ part ∈ sg.checks env nonces, Sound env part := by
  simp only [SendGridPatch.checks, SendGridPatch.openChecks, List.cons_append, List.nil_append,
    List.forall_mem_cons]
  exact ⟨sound_free fun _ => trimmed_of_map, sound_free fun _ _ => trivial,
    sound_encrypted (f := .sendGridAPIKey) fun _ h => secretAtRest_encrypted h,
    List.forall_mem_nil _⟩

theorem provider_of_check {v : MailProviderType}
    (h : (v = .none || v = .smtp || v = .sendgrid) = true) :
    v = .none ∨ v = .smtp ∨ v = .sendgrid := by
  simpa [or_assoc] using h

theorem httpURLOrEmpty_of_check {v : String}
    (h : (!(v ≠ "" && !isValidURLOrEmpty env v)) = true) : HTTPURLOrEmpty env v := by
  by_cases hv : v = ""
  · rw [hv]
    rfl
  · unfold HTTPURLOrEmpty
    simpa [hv] using h

theorem MailPatch.sound (mail : MailPatch) :
    ∀ part ∈ mail.checks env nonces, Sound env part := by
  simp only [MailPatch.checks, MailPatch.openChecks, List.forall_mem_append, List.forall_mem_cons]
  exact ⟨⟨⟨sound_checked fun _ _ h => provider_of_check h,
    sound_checked fun _ hv h => ⟨httpURLOrEmpty_of_check h, trimmed_of_map hv⟩,
    List.forall_mem_nil _⟩, forall_mem_elim SMTPPatch.sound⟩, forall_mem_elim SendGridPatch.sound⟩

theorem StatusPageSettingsPatchRequest.sound (req : StatusPageSettingsPatchRequest) :
    ∀ part ∈ req.checks env nonces, Sound env part := by
  simp only [StatusPageSettingsPatchRequest.checks, StatusPageSettingsPatchRequest.openChecks,
    List.forall_mem_append, List.forall_mem_cons]
  exact ⟨⟨⟨⟨⟨⟨⟨forall_mem_elim HeadPatch.sound, forall_mem_elim BrandingPatch.sound⟩,
    forall_mem_elim ThemePatch.sound⟩, forall_mem_elim LayoutPatch.sound⟩,
    forall_mem_elim FooterPatch.sound⟩, forall_mem_elim SSOPatch.sound⟩,
    forall_mem_elim MailPatch.sound⟩, sound_free fun _ _ => trivial, List.forall_mem_nil _⟩

theorem collect_eq_ok {checks : List Checked} {set : List (Assignment Field.Value)}
    (h : collect checks = .ok set) : ∃ parts, checks.mapM id = .ok parts ∧ set = parts.flatten := by
  unfold collect at h
  cases hparts : checks.mapM id with
  | error e =>
    rw [hparts] at h
    cases h
  | ok parts =>
    refine ⟨parts, rfl, ?_⟩
    rw [hparts] at h
    change (if parts.flatten = [] then _ else _) = _ at h
    split at h
    · cases h
    · cases h
      rfl

theorem mapM_id_eq_ok_iff {checks : List Checked} {parts : List (List (Assignment Field.Value))} :
    checks.mapM id = .ok parts ↔ checks = parts.map Except.ok := by
  induction checks generalizing parts with
  | nil =>
    cases parts with
    | nil => exact iff_of_true rfl rfl
    | cons part parts => exact iff_of_false (fun h => by cases h) (fun h => by cases h)
  | cons check checks ih =>
    rw [List.mapM_cons]
    cases parts with
    | nil =>
      refine iff_of_false (fun h => ?_) fun h => by cases h
      cases check with
      | error e => cases h
      | ok first => cases hrest : checks.mapM id <;> rw [hrest] at h <;> cases h
    | cons part parts =>
      rw [List.map_cons, List.cons.injEq, ← ih]
      cases check with
      | error e => exact iff_of_false (fun h => by cases h) fun h => by cases h.1
      | ok first =>
        cases hrest : checks.mapM id with
        | error e => exact iff_of_false (fun h => by cases h) fun h => by cases h.2
        | ok rest =>
          constructor
          · intro h
            cases h
            exact ⟨rfl, rfl⟩
          · rintro ⟨hfirst, hothers⟩
            cases hfirst
            cases hothers
            rfl

theorem mem_of_mapM_eq_ok {checks : List Checked} {parts : List (List (Assignment Field.Value))}
    (h : checks.mapM id = .ok parts) {as : List (Assignment Field.Value)} (has : as ∈ parts) :
    .ok as ∈ checks := by
  rw [mapM_id_eq_ok_iff.mp h]
  exact List.mem_map_of_mem has

theorem holds_of_set {req : StatusPageSettingsPatchRequest}
    {set : List (Assignment Field.Value)} (h : req.set env nonces = .ok set) :
    ∀ a ∈ set, Field.Holds env a.field a.value := by
  obtain ⟨parts, hparts, rfl⟩ := collect_eq_ok h
  intro a ha
  obtain ⟨as, has, ha⟩ := List.mem_flatten.mp ha
  exact req.sound _ (mem_of_mapM_eq_ok hparts has) as rfl a ha

end Checks

section Runs
variable (env : Env)

theorem wellFormed_default (now : ℤ) : WellFormed env (defaultStatusPageSettings now) := by
  refine ⟨rfl, fun f => ?_⟩
  cases f with
  | faviconURL => exact Or.inl rfl
  | logoURL | backgroundImageURL | heroImageURL => rfl
  | mailBaseURL => exact ⟨rfl, rfl⟩
  | preset =>
    have hname : "default".toList.all isPresetChar = true := by decide
    exact List.all_eq_true.mp hname
  | mode =>
    change "system" ∈ ["light", "dark", "system"]
    decide
  | color palette color =>
    change isValidColorHex (color.get (palette.get (defaultStatusPageSettings 0).theme)) = true
    cases palette <;> cases color <;> decide
  | fontScale =>
    change "md" ∈ ["sm", "md", "lg"]
    decide
  | variant =>
    change "classic" ∈ ["classic", "compact", "minimal", "cards"]
    decide
  | ssoProvider | ssoIssuer | ssoAudience | ssoSharedSecret | ssoPublicKeyPEM | smtpHost |
    smtpFromEmail | sendGridFromEmail => rfl
  | ssoAlgorithm =>
    change "HS256" ∈ ["HS256", "RS256"]
    decide
  | mailProvider => exact Or.inl rfl
  | smtpPort => exact ⟨le_refl 0, show (0 : ℤ) ≤ 65535 by decide⟩
  | smtpEncryption => exact Or.inl rfl
  | smtpPassword | sendGridAPIKey => exact Or.inl rfl
  | _ => trivial

theorem key_assignAll (doc : StatusPageSettings) (set : List (Assignment Field.Value)) :
    (assignAll doc set).key = doc.key := by
  induction set generalizing doc with
  | nil => rfl
  | cons a set ih =>
    refine (ih _).trans ?_
    obtain ⟨f, v⟩ := a
    cases f <;> rfl

theorem WellFormed.assignAll {doc : StatusPageSettings} (h : WellFormed env doc)
    {set : List (Assignment Field.Value)} (hset : ∀ a ∈ set, Field.Holds env a.field a.value) :
    WellFormed env (assignAll doc set) := by
  have hfields : ∀ f, Field.Holds env f (Record.get f (Library.assignAll doc set)) :=
    forall_get_assignAll h.2 hset
  exact ⟨(key_assignAll doc set).trans h.1, hfields⟩

def AllWellFormed (docs : SettingsStore) : Prop := ∀ doc ∈ docs, WellFormed env doc

theorem allWellFormed_insert {docs : SettingsStore} (h : AllWellFormed env docs) (now : ℤ) :
    AllWellFormed env (docs ++ [defaultStatusPageSettings now]) := by
  intro doc hdoc
  rcases List.mem_append.mp hdoc with hdoc | hdoc
  · exact h doc hdoc
  · rw [List.mem_singleton.mp hdoc]
    exact wellFormed_default env now

def Exists (docs : SettingsStore) : Prop := docs.settings.isSome = true

theorem exists_insert {docs : SettingsStore} (now : ℤ) :
    Exists (docs ++ [defaultStatusPageSettings now]) := by
  unfold Exists SettingsStore.settings
  rw [List.find?_isSome]
  exact ⟨_, List.mem_append_right docs List.mem_cons_self, rfl⟩

theorem exists_iff {docs : SettingsStore} :
    Exists docs ↔ ∃ doc ∈ docs, doc.key = statusPageSettingsKey := by
  unfold Exists SettingsStore.settings
  rw [List.find?_isSome]
  simp

theorem update_of_exists {docs : SettingsStore} (h : Exists docs)
    (set : List (Assignment Field.Value)) (createdAt : ℤ) : docs.update set createdAt =
      updateFirst (fun doc => doc.key = statusPageSettingsKey)
        (fun doc => assignAll doc set) docs :=
  if_pos h

theorem allWellFormed_update {docs : SettingsStore} (h : AllWellFormed env docs)
    {set : List (Assignment Field.Value)} (hset : ∀ a ∈ set, Field.Holds env a.field a.value)
    (hexists : Exists docs) (createdAt : ℤ) : AllWellFormed env (docs.update set createdAt) := by
  rw [update_of_exists hexists]
  exact forall_mem_updateFirst h fun doc hdoc => hdoc.assignAll env hset

theorem exists_update {docs : SettingsStore} {set : List (Assignment Field.Value)}
    (h : Exists docs) (createdAt : ℤ) : Exists (docs.update set createdAt) := by
  rw [update_of_exists h]
  obtain ⟨doc, hdoc, hkey⟩ := exists_iff.mp h
  clear h
  induction docs with
  | nil => cases hdoc
  | cons first docs ih =>
    rw [updateFirst]
    split
    · next hfirst =>
      exact exists_iff.mpr ⟨_, List.mem_cons_self,
        (key_assignAll first set).trans (of_decide_eq_true hfirst)⟩
    · next hfirst =>
      have htail : doc ∈ docs := by
        rcases List.mem_cons.mp hdoc with rfl | htail
        · exact absurd (decide_eq_true hkey) hfirst
        · exact htail
      obtain ⟨doc', hdoc', hkey'⟩ := exists_iff.mp (ih htail)
      exact exists_iff.mpr ⟨doc', List.mem_cons_of_mem _ hdoc', hkey'⟩

theorem relies_fetchOrCreate_bind {α : Type} {known : Prop} (now : ℤ)
    {k : StatusPageSettings → Fallible SettingsStore SettingsError α}
    (h : ∀ settings, Prog.Relies (AllWellFormed env) Exists True (k settings)) :
    Prog.Relies (AllWellFormed env) Exists known (fetchOrCreateStatusPageSettings now >>= k :
      Fallible SettingsStore SettingsError α) := by
  unfold fetchOrCreateStatusPageSettings
  rw [Fallible.bind_assoc]
  refine Fallible.relies_query_bind fun docs _ _ => ?_
  cases hfound : docs.settings with
  | some settings => exact (h settings).mono fun _ => by rw [Exists, hfound]; rfl
  | none =>
    dsimp only
    rw [Fallible.bind_assoc]
    refine Fallible.relies_exec_bind (fun docs hdocs _ => ?_) fun docs _ _ => ?_
    · exact ⟨allWellFormed_insert env hdocs now, fun _ => exists_insert now⟩
    · exact (h _).mono fun _ => exists_insert now

theorem relies_update (req : StatusPageSettingsPatchRequest) (nonces : Nonces) (clock : ℕ → ℤ) :
    Prog.Relies (AllWellFormed env) Exists False
      (updateStatusPageSettings env req nonces clock) := by
  unfold updateStatusPageSettings applyUpdate
  refine relies_fetchOrCreate_bind env _ fun current => ?_
  cases hset : req.set env nonces with
  | error e => exact Fallible.relies_throw e
  | ok set =>
    have hholds : ∀ a ∈ (⟨.updatedAt, clock 1⟩ :: set : List (Assignment Field.Value)),
        Field.Holds env a.field a.value :=
      List.forall_mem_cons.mpr ⟨trivial, holds_of_set hset⟩
    dsimp only
    unfold SettingsRepository.updateSSOSettings
    rw [Fallible.bind_assoc]
    refine relies_fetchOrCreate_bind env _ fun settings => ?_
    rw [Fallible.bind_assoc]
    refine Fallible.relies_findAndUpdate_bind (fun docs hdocs hexists => ?_)
      fun docs updated _ hexists _ => ?_
    · exact ⟨allWellFormed_update env hdocs hholds (hexists trivial) _,
        fun hexists => exists_update hexists _⟩
    · exact Fallible.relies_find_bind fun docs stored _ _ _ => trivial

theorem relies_program (request : SettingsRequest) :
    Prog.Relies (AllWellFormed env) Exists False (request.program env) := by
  cases request with
  | getPublic now => exact relies_fetchOrCreate_bind env now fun _ => trivial
  | getAdmin now => exact relies_fetchOrCreate_bind env now fun _ => trivial
  | update req nonces clock => exact relies_update env req nonces clock
  | read now => exact relies_fetchOrCreate_bind env now fun _ => trivial

/-- In every state of every interleaving of requests, with any operations failing, every
stored document holds in each field what may stand there. -/
theorem allWellFormed_run (acts : List (Library.Act SettingsRequest)) :
    AllStates (Pool.step (SettingsRequest.program env)) (fun pool => AllWellFormed env pool.store)
      { store := [] } acts :=
  Pool.allStates_of_relies (relies_program env) (List.forall_mem_nil _) acts

end Runs
end Statora.Settings
