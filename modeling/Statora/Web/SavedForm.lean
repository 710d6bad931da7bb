import Statora.Settings.AppliedUpdates
import Statora.Web.SettingsForm

/-!
# Saving the settings form

A form that nobody has touched leaves the settings as they are exactly when the server
accepts what it stored itself, the tags are plain, the theme is still offered and there is
no shared secret: the form is never shown the secret, and saves it as blank. The form after
a save shows the answer, which still has the tags that the save removed, so that saving it
again brings them back.
-/

namespace Statora.Web
open Library (AllStates Assignment Fallible Pool assignAll)
open Settings (Env Field MetaTags Nonces SettingsRequest SettingsStore StatusPageSettings
  StatusPageSettingsPatchRequest WellFormed buildAdminStatusPageSettingsResponse checked
  updateStatusPageSettings)

section Saves
variable {env : Env} {nonces : Nonces} {lower : String → String}
  {presets : List ThemePresetSummary} {doc : StatusPageSettings} {docs : SettingsStore}

theorem refuses_faviconURL (h : Settings.isValidURLOrEmpty env doc.head.faviconURL = false) :
    ∃ e, (untouched lower presets doc).set env nonces = .error e := by
  have hhead : checked .faviconURL (Settings.isValidURLOrEmpty env)
      "head.faviconUrl must be a valid http(s) URL or empty" (some doc.head.faviconURL) ∈
      (untouched lower presets doc).head.elim [] (Settings.HeadPatch.checks env) :=
    List.mem_of_getElem? (i := 3) rfl
  rw [checked_refused (f := .faviconURL) h] at hhead
  refine collect_of_refused
    (e := .badRequest "head.faviconUrl must be a valid http(s) URL or empty") ?_
  simp only [StatusPageSettingsPatchRequest.checks, StatusPageSettingsPatchRequest.openChecks,
    List.mem_append, hhead, true_or]

theorem refuses_encryption (h : doc.mail.smtp.encryption = "") :
    ∃ e, (untouched lower presets doc).set env nonces = .error e := by
  have hmail : checked .smtpEncryption (Settings.oneOf ["starttls", "tls", "none"])
      "mail.smtp.encryption must be one of: starttls, tls, none"
      (some (Settings.lowered (trimSpace doc.mail.smtp.encryption))) ∈
      (untouched lower presets doc).mail.elim [] (Settings.MailPatch.checks env nonces) :=
    List.mem_of_getElem? (i := 7) rfl
  have hrefused : Settings.oneOf ["starttls", "tls", "none"]
      (Settings.lowered (trimSpace "")) = false := by decide
  rw [h, checked_refused (f := .smtpEncryption) hrefused] at hmail
  refine collect_of_refused
    (e := .badRequest "mail.smtp.encryption must be one of: starttls, tls, none") ?_
  simp only [StatusPageSettingsPatchRequest.checks, List.mem_append, hmail, true_or, or_true]

theorem refuses_default (now : ℤ) :
    ∃ e, (untouched lower presets (Settings.defaultStatusPageSettings now)).set env nonces =
      .error e := refuses_encryption rfl

theorem run_fetchOrCreate (hdoc : docs.settings = some doc) (now : ℤ) :
    (Settings.fetchOrCreateStatusPageSettings now).run docs = (.ok doc, docs) := by
  rw [Settings.fetchOrCreateStatusPageSettings,
    Fallible.run_bind_of_ok (Fallible.run_query _ _ _), hdoc]
  rfl

/-- What an update answers with: the stored document, with the tags that it had before. -/
def answered (before stored : StatusPageSettings) : StatusPageSettings :=
  { stored with
    head.metaTags := MetaTags.decodeOver before.head.metaTags stored.head.metaTags }

theorem run_applyUpdate (hdoc : docs.settings = some doc) (set : List (Assignment Field.Value))
    (clock : ℕ → ℤ) :
    (Settings.applyUpdate (.ok set) clock).run docs =
      (.ok (.updated
        (buildAdminStatusPageSettingsResponse
          (answered doc (assignAll doc (⟨.updatedAt, clock 1⟩ :: set))))
        (answered doc (assignAll doc (⟨.updatedAt, clock 1⟩ :: set))).json),
      SettingsStore.update (⟨.updatedAt, clock 1⟩ :: set) doc.createdAt docs) := by
  have hupdated := Settings.settings_update hdoc (⟨.updatedAt, clock 1⟩ :: set) doc.createdAt
  have hsaved : (Settings.SettingsRepository.updateSSOSettings (⟨.updatedAt, clock 1⟩ :: set)
      (clock 2)).run docs = (.ok (assignAll doc (⟨.updatedAt, clock 1⟩ :: set)).sso,
        SettingsStore.update (⟨.updatedAt, clock 1⟩ :: set) doc.createdAt docs) := by
    rw [Settings.SettingsRepository.updateSSOSettings,
      Fallible.run_bind_of_ok (run_fetchOrCreate hdoc _)]
    refine (Fallible.run_bind_of_ok ?_).trans rfl
    rw [Fallible.run_findAndUpdate, hupdated]
    rfl
  rw [Settings.applyUpdate, Fallible.run_bind_of_ok (run_fetchOrCreate hdoc _)]
  dsimp only
  rw [Fallible.run_bind_of_ok hsaved]
  refine (Fallible.run_bind_of_ok ?_).trans rfl
  rw [Fallible.run_find, hupdated]
  rfl

theorem run_applyUpdate_refused (hdoc : docs.settings = some doc) (e : Settings.SettingsError)
    (clock : ℕ → ℤ) : (Settings.applyUpdate (.error e) clock).run docs = (.error e, docs) := by
  rw [Settings.applyUpdate, Fallible.run_bind_of_ok (run_fetchOrCreate hdoc _)]
  rfl

/-- The same settings, saved again: the time apart, and the order of the tags. -/
structure SameSettings (doc doc' : StatusPageSettings) : Prop where
  metaTags : doc'.head.metaTags.docs.Perm doc.head.metaTags.docs
  others : { doc' with updatedAt := doc.updatedAt, head.metaTags := doc.head.metaTags } = doc

/-- The program is accepted and leaves the settings as they are. -/
def KeepsSettings (program : Fallible SettingsStore Settings.SettingsError
    Settings.SettingsResponse) (docs : SettingsStore) (doc : StatusPageSettings) : Prop :=
  ∃ response docs' doc', program.run docs = (.ok response, docs') ∧
    docs'.settings = some doc' ∧ SameSettings doc doc'

/-- What the server asks of a document that it takes back, and of the tags that the form
shows of it. -/
structure TakesBack (env : Env) (presets : List ThemePresetSummary) (doc : StatusPageSettings)
    (tags : MetaTags) : Prop where
  faviconURL : Settings.isValidURLOrEmpty env doc.head.faviconURL = true
  encryption : doc.mail.smtp.encryption ≠ ""
  metaTags : (parseMetaTagsText (metaTagsToText tags)).docs.Perm doc.head.metaTags.docs
  preset : Offers presets doc.theme.preset
  sharedSecret : doc.sso.sharedSecret = ""

theorem sameSettings_resaved_iff (presets : List ThemePresetSummary)
    (hlower : FixesPresets lower) (hpreset : Settings.PresetName doc.theme.preset)
    (tags : MetaTags) (t : ℤ) :
    SameSettings doc
        { resaved lower presets { doc with head.metaTags := tags } with updatedAt := t } ↔
      (parseMetaTagsText (metaTagsToText tags)).docs.Perm doc.head.metaTags.docs ∧
        Offers presets doc.theme.preset ∧ doc.sso.sharedSecret = "" := by
  rw [← savedPreset_eq_iff hlower hpreset, resaved]
  generalize savedPreset lower presets doc.theme.preset = preset
  constructor
  · intro h
    have hothers := h.others
    exact ⟨h.metaTags, congrArg (·.theme.preset) hothers,
      (congrArg (·.sso.sharedSecret) hothers).symm⟩
  · rintro ⟨htags, rfl, hsecret⟩
    refine ⟨htags, ?_⟩
    rw [← hsecret]

theorem keepsSettings_shown_iff (hlower : FixesPresets lower) (hwell : WellFormed env doc)
    (hdoc : docs.settings = some doc) (tags : MetaTags) (nonces : Nonces) (clock : ℕ → ℤ) :
    KeepsSettings (updateStatusPageSettings env
        (untouched lower presets { doc with head.metaTags := tags }) nonces clock) docs doc ↔
      TakesBack env presets doc tags := by
  have htags : ∀ a ∈ ([⟨.metaTags, tags⟩] : List (Assignment Field.Value)),
      Settings.Field.Holds env a.field a.value := List.forall_mem_singleton.mpr trivial
  have hshown : WellFormed env { doc with head.metaTags := tags } := hwell.assignAll env htags
  unfold KeepsSettings updateStatusPageSettings
  by_cases haccepted : Settings.isValidURLOrEmpty env doc.head.faviconURL = true ∧
      doc.mail.smtp.encryption ≠ ""
  · obtain ⟨hfavicon, hencryption⟩ := haccepted
    have hassigned : assignAll doc (⟨.updatedAt, clock 1⟩ ::
          untouchedSet lower presets { doc with head.metaTags := tags }) =
        { resaved lower presets { doc with head.metaTags := tags } with updatedAt := clock 1 } :=
      assignAll_untouchedSet tags (clock 1)
    have hdocs' := Settings.settings_update hdoc (⟨.updatedAt, clock 1⟩ ::
      untouchedSet lower presets { doc with head.metaTags := tags }) doc.createdAt
    have hsame := sameSettings_resaved_iff presets hlower (hwell.2 .preset) tags (clock 1)
    rw [hassigned] at hdocs'
    rw [set_untouched hshown hfavicon hencryption, run_applyUpdate hdoc]
    constructor
    · rintro ⟨response, docs', doc', hrun, hdoc', hkept⟩
      obtain ⟨-, rfl⟩ := Prod.mk.inj hrun
      obtain rfl := Option.some.inj (hdocs'.symm.trans hdoc')
      obtain ⟨hparsed, hpreset, hsecret⟩ := hsame.mp hkept
      exact ⟨hfavicon, hencryption, hparsed, hpreset, hsecret⟩
    · rintro ⟨-, -, hparsed, hpreset, hsecret⟩
      exact ⟨_, _, _, rfl, hdocs', hsame.mpr ⟨hparsed, hpreset, hsecret⟩⟩
  · obtain ⟨e, he⟩ : ∃ e, (untouched lower presets
        { doc with head.metaTags := tags }).set env nonces = .error e := by
      rcases not_and_or.mp haccepted with hfavicon | hencryption
      · exact refuses_faviconURL (Bool.eq_false_iff.mpr hfavicon)
      · exact refuses_encryption (not_not.mp hencryption)
    rw [he, run_applyUpdate_refused hdoc]
    refine iff_of_false ?_ fun h => haccepted ⟨h.faviconURL, h.encryption⟩
    rintro ⟨response, docs', doc', hrun, -, -⟩
    cases hrun

end Saves

structure Resavable (env : Env) (presets : List ThemePresetSummary) (doc : StatusPageSettings) :
    Prop where
  faviconURL : Settings.isValidURLOrEmpty env doc.head.faviconURL = true
  encryption : doc.mail.smtp.encryption ≠ ""
  metaTags : PlainTags doc.head.metaTags
  preset : Offers presets doc.theme.preset
  sharedSecret : doc.sso.sharedSecret = ""

theorem takesBack_iff {env : Env} {presets : List ThemePresetSummary} {doc : StatusPageSettings}
    {tags : MetaTags} {p : Prop}
    (h : (parseMetaTagsText (metaTagsToText tags)).docs.Perm doc.head.metaTags.docs ↔
      PlainTags doc.head.metaTags ∧ p) :
    TakesBack env presets doc tags ↔ Resavable env presets doc ∧ p := by
  constructor
  · rintro ⟨hfavicon, hencryption, htags, hpreset, hsecret⟩
    exact ⟨⟨hfavicon, hencryption, (h.mp htags).1, hpreset, hsecret⟩, (h.mp htags).2⟩
  · rintro ⟨⟨hfavicon, hencryption, hplain, hpreset, hsecret⟩, hp⟩
    exact ⟨hfavicon, hencryption, h.mpr ⟨hplain, hp⟩, hpreset, hsecret⟩

/-- In every state of every interleaving of requests, saving the form without touching it is
accepted and leaves the settings as they are exactly when they can be taken back. -/
theorem untouched_save_iff {lower : String → String} (hlower : FixesPresets lower) (env : Env)
    (presets : List ThemePresetSummary) (acts : List (Library.Act SettingsRequest)) :
    AllStates (Pool.step (SettingsRequest.program env))
      (fun pool => ∀ doc, pool.store.settings = some doc → ∀ nonces clock,
        KeepsSettings (updateStatusPageSettings env (untouched lower presets doc) nonces clock)
          pool.store doc ↔ Resavable env presets doc)
      { store := [] } acts := by
  have hwell : AllStates (Pool.step (SettingsRequest.program env))
      (fun pool => Settings.AllWellFormed env pool.store) { store := [] } acts :=
    Pool.allStates_of_relies (Settings.relies_program env) (List.forall_mem_nil _) acts
  refine Library.allStates_mono hwell fun pool hpool doc hdoc nonces clock => ?_
  have hmem : doc ∈ pool.store := List.mem_of_find?_eq_some hdoc
  have htags : (parseMetaTagsText (metaTagsToText doc.head.metaTags)).docs.Perm
      doc.head.metaTags.docs ↔ PlainTags doc.head.metaTags ∧ True := by
    rw [parse_metaTagsToText_iff, and_true]
  rw [← and_true (Resavable env presets doc), ← takesBack_iff htags]
  exact keepsSettings_shown_iff hlower (hpool doc hmem) hdoc doc.head.metaTags nonces clock

def offeredThemes : List ThemePresetSummary :=
  [⟨"default.css", "Default", by decide⟩, ⟨"ocean-dark.css", "Ocean Dark", by decide⟩]

def adjustedEnv : Env where
  ciphers := Auth.plainPrimitives
  parseRequestURI value :=
    if value = "/vite.svg" then some ⟨"", ""⟩
    else if value = "https://status.example.org/icon.svg" then some ⟨"https", "status.example.org"⟩
    else none
  emailEncryptionKey := "12345678901234567890123456789012"

def adjusted : List (Library.Act SettingsRequest) :=
  [.call (.getAdmin 1), .op 0 true, .op 0 true,
    .call (.update { head := some { faviconURL := some "https://status.example.org/icon.svg" },
                     theme := some { preset := some "ocean-dark.css" },
                     mail := some { smtp := some { encryption := some "tls" } } }
      ⟨Vector.replicate 12 0, Vector.replicate 12 0⟩ fun k => 5 + k),
    .op 1 true, .op 1 true, .op 1 true, .op 1 true]

theorem untouched_save_iff_adjusted :
    AllStates (Pool.step (SettingsRequest.program adjustedEnv))
      (fun pool => ∀ doc, pool.store.settings = some doc → ∀ nonces clock,
        KeepsSettings (updateStatusPageSettings adjustedEnv
          (untouched Settings.lowered offeredThemes doc) nonces clock) pool.store doc ↔
        Resavable adjustedEnv offeredThemes doc)
      { store := [] } adjusted :=
  untouched_save_iff fixesPresets_lowered adjustedEnv offeredThemes adjusted

def KeepsNames (before stored : MetaTags) : Prop :=
  ∀ tag ∈ before.docs, stored.contains tag.name = true

theorem mem_decodeOver {before stored : MetaTags} {tag : Settings.MetaTag} :
    tag ∈ (MetaTags.decodeOver before stored).docs ↔
      tag ∈ stored.docs ∨ tag ∈ before.docs ∧ stored.contains tag.name = false :=
  Library.Collection.mem_foldl_insertOne before.nodup

theorem parse_decodeOver_iff {before stored : MetaTags} (hplain : PlainTags before) :
    (parseMetaTagsText (metaTagsToText (MetaTags.decodeOver before stored))).docs.Perm
      stored.docs ↔ PlainTags stored ∧ KeepsNames before stored := by
  constructor
  · intro hperm
    have hstored : PlainTags stored := fun tag htag =>
      plainTags_parseMetaTagsText _ tag (hperm.mem_iff.mpr htag)
    have hshown : PlainTags (MetaTags.decodeOver before stored) := fun tag htag =>
      (mem_decodeOver.mp htag).elim (hstored tag) fun h => hplain tag h.1
    have hsame : (MetaTags.decodeOver before stored).docs.Perm stored.docs :=
      ((parse_metaTagsToText_iff _).mpr hshown).symm.trans hperm
    refine ⟨hstored, fun tag htag => ?_⟩
    by_contra hgone
    have hremoved : tag ∈ (MetaTags.decodeOver before stored).docs :=
      mem_decodeOver.mpr (Or.inr ⟨htag, Bool.eq_false_iff.mpr hgone⟩)
    have hname : tag.name ∈ stored.docs.map Settings.MetaTag.name :=
      List.mem_map_of_mem (hsame.mem_iff.mp hremoved)
    exact hgone (decide_eq_true hname)
  · rintro ⟨hstored, hkeeps⟩
    have hsame : (MetaTags.decodeOver before stored).docs.Perm stored.docs := by
      rw [List.perm_ext_iff_of_nodup (List.Nodup.of_map _ (MetaTags.decodeOver before stored).nodup)
        (List.Nodup.of_map _ stored.nodup)]
      refine fun tag => mem_decodeOver.trans (or_iff_left ?_)
      rintro ⟨htag, hgone⟩
      rw [hkeeps tag htag] at hgone
      cases hgone
    have hshown : PlainTags (MetaTags.decodeOver before stored) := fun tag htag =>
      hstored tag (hsame.mem_iff.mp htag)
    exact ((parse_metaTagsToText_iff _).mpr hshown).trans hsame

/-- In every state of every interleaving of requests whose tags are plain: after any update
that is accepted, saving the form that shows the answer leaves the settings as they are
exactly when they can be taken back and the update removed no tag. -/
theorem resave_iff {lower : String → String} (hlower : FixesPresets lower) (env : Env)
    (presets : List ThemePresetSummary) (acts : List (Library.Act SettingsRequest)) :
    AllStates (Pool.step (SettingsRequest.program env))
      (fun pool => ∀ doc, pool.store.settings = some doc → PlainTags doc.head.metaTags →
        ∀ req nonces clock body event docs',
          (updateStatusPageSettings env req nonces clock).run pool.store =
            (.ok (.updated body event), docs') →
          ∃ doc', docs'.settings = some doc' ∧ ∀ nonces clock,
            (KeepsSettings (updateStatusPageSettings env
                (handleSave (loadSettings lower presets body)) nonces clock) docs' doc' ↔
              Resavable env presets doc' ∧ KeepsNames doc.head.metaTags doc'.head.metaTags))
      { store := [] } acts := by
  have hwell : AllStates (Pool.step (SettingsRequest.program env))
      (fun pool => Settings.AllWellFormed env pool.store) { store := [] } acts :=
    Pool.allStates_of_relies (Settings.relies_program env) (List.forall_mem_nil _) acts
  refine Library.allStates_mono hwell fun pool hpool doc hdoc hplain req nonces clock body event
    docs' hrun => ?_
  have hdocwell : WellFormed env doc := hpool doc (List.mem_of_find?_eq_some hdoc)
  rw [updateStatusPageSettings] at hrun
  cases hset : req.set env nonces with
  | error e =>
    rw [hset, run_applyUpdate_refused hdoc] at hrun
    cases hrun
  | ok set =>
    rw [hset, run_applyUpdate hdoc] at hrun
    obtain ⟨hanswer, rfl⟩ := Prod.mk.inj hrun
    obtain ⟨rfl, -⟩ := Settings.SettingsResponse.updated.inj (Except.ok.inj hanswer)
    have hholds : ∀ a ∈ (⟨.updatedAt, clock 1⟩ :: set : List (Assignment Field.Value)),
        Settings.Field.Holds env a.field a.value :=
      List.forall_mem_cons.mpr ⟨trivial, Settings.holds_of_set hset⟩
    have hdoc' := Settings.settings_update hdoc (⟨.updatedAt, clock 1⟩ :: set) doc.createdAt
    have hdocwell' := hdocwell.assignAll env hholds
    generalize assignAll doc (⟨.updatedAt, clock 1⟩ :: set) = doc' at hdoc' hdocwell'
    refine ⟨doc', hdoc', fun nonces clock => ?_⟩
    rw [← takesBack_iff (parse_decodeOver_iff hplain)]
    exact keepsSettings_shown_iff hlower hdocwell' hdoc' _ nonces clock

def retagged : List (Library.Act SettingsRequest) :=
  [.call (.getAdmin 1), .op 0 true, .op 0 true,
    .call (.update { head := some { metaTags := some (parseMetaTagsText "robots: noindex") } }
      ⟨Vector.replicate 12 0, Vector.replicate 12 0⟩ fun k => 5 + k),
    .op 1 true, .op 1 true, .op 1 true, .op 1 true,
    .call (.update { head := some { metaTags := some (parseMetaTagsText "author: Statora") } }
      ⟨Vector.replicate 12 0, Vector.replicate 12 0⟩ fun k => 9 + k),
    .op 2 true, .op 2 true, .op 2 true, .op 2 true]

theorem resave_iff_retagged :
    AllStates (Pool.step (SettingsRequest.program adjustedEnv))
      (fun pool => ∀ doc, pool.store.settings = some doc → PlainTags doc.head.metaTags →
        ∀ req nonces clock body event docs',
          (updateStatusPageSettings adjustedEnv req nonces clock).run pool.store =
            (.ok (.updated body event), docs') →
          ∃ doc', docs'.settings = some doc' ∧ ∀ nonces clock,
            (KeepsSettings (updateStatusPageSettings adjustedEnv
                (handleSave (loadSettings Settings.lowered offeredThemes body)) nonces clock)
              docs' doc' ↔
              Resavable adjustedEnv offeredThemes doc' ∧
                KeepsNames doc.head.metaTags doc'.head.metaTags))
      { store := [] } retagged :=
  resave_iff fixesPresets_lowered adjustedEnv offeredThemes retagged

end Statora.Web
