import Statora.Library.AppliedOnce
import Statora.Settings.Secrets
import Statora.Settings.WellFormed

/-!
# No update of the settings is lost

An update reads the document twice before it writes, and other requests may write in
between. Since it assigns only the fields that it names, nothing that it has read gets
written back: the settings after any interleaving are the first settings with some of the
updates applied one after another, each at most once, and every answered one among them.
-/

namespace Statora.Settings
open Library (Act Applies Assignment Fallible Pool Prog Unseen applyAll assignAll)

def SettingsRequest.apply (env : Env) : SettingsRequest → StatusPageSettings → StatusPageSettings
  | .update req nonces clock, doc =>
    match req.set env nonces with
    | .ok set => assignAll doc (⟨.updatedAt, clock 1⟩ :: set)
    | .error _ => doc
  | _, doc => doc

def Confirms (answer : Except SettingsError SettingsResponse) : Prop :=
  ∃ body event, answer = .ok (.updated body event)

theorem not_confirms_error (e : SettingsError) : ¬Confirms (.error e) := by
  rintro ⟨body, event, h⟩
  cases h

theorem unseen_insert (now : ℤ) :
    Unseen SettingsStore.settings fun docs => docs ++ [defaultStatusPageSettings now] := by
  intro docs doc hdoc
  unfold SettingsStore.settings at hdoc ⊢
  rw [List.find?_append, hdoc]
  rfl

theorem settings_update {docs : SettingsStore} {doc : StatusPageSettings}
    (hdoc : docs.settings = some doc) (set : List (Assignment Field.Value)) (createdAt : ℤ) :
    (SettingsStore.update set createdAt docs).settings = some (assignAll doc set) := by
  have hexists : Exists docs := by
    rw [Exists, hdoc]
    rfl
  rw [update_of_exists hexists]
  unfold SettingsStore.settings at hdoc ⊢
  rw [← List.head?_filter] at hdoc ⊢
  rw [Library.filter_updateFirst fun doc hkey => by rwa [key_assignAll]]
  obtain ⟨rest, hrest⟩ := List.head?_eq_some_iff.mp hdoc
  rw [hrest]
  rfl

section Programs
variable {env : Env} {f : StatusPageSettings → StatusPageSettings}

theorem appliesOnce_fetchOrCreate_bind (now : ℤ)
    {k : StatusPageSettings → Fallible SettingsStore SettingsError SettingsResponse}
    (h : ∀ settings, Prog.AppliesOnce SettingsStore.settings f Confirms (k settings)) :
    Prog.AppliesOnce SettingsStore.settings f Confirms
      (fetchOrCreateStatusPageSettings now >>= k :
        Fallible SettingsStore SettingsError SettingsResponse) := by
  unfold fetchOrCreateStatusPageSettings
  rw [Fallible.bind_assoc]
  refine Fallible.appliesOnce_query_bind (not_confirms_error _) fun found => ?_
  cases found with
  | some settings => exact h settings
  | none =>
    dsimp only
    rw [Fallible.bind_assoc]
    exact Fallible.appliesOnce_exec_bind (not_confirms_error _) (unseen_insert now) (h _)

theorem appliesOnce_update (req : StatusPageSettingsPatchRequest) (nonces : Nonces)
    (clock : ℕ → ℤ) :
    Prog.AppliesOnce SettingsStore.settings
      ((SettingsRequest.update req nonces clock).apply env) Confirms
      (updateStatusPageSettings env req nonces clock) := by
  unfold updateStatusPageSettings applyUpdate
  refine appliesOnce_fetchOrCreate_bind _ fun current => ?_
  cases hset : req.set env nonces with
  | error e => exact not_confirms_error e
  | ok set =>
    dsimp only
    unfold SettingsRepository.updateSSOSettings
    rw [Fallible.bind_assoc]
    refine appliesOnce_fetchOrCreate_bind _ fun settings => ?_
    rw [Fallible.bind_assoc]
    refine Fallible.appliesOnce_findAndUpdate_bind (not_confirms_error _) ?_ fun updated => ?_
    · intro docs doc hdoc
      rw [SettingsRequest.apply, hset]
      exact settings_update hdoc _ _
    · rw [Fallible.pure_bind]
      exact Fallible.performs_bind (Fallible.performs_find (Library.unseen_id _) _ _ _)
        fun stored => trivial

theorem appliesOnce_program (env : Env) (request : SettingsRequest) :
    Prog.AppliesOnce SettingsStore.settings (request.apply env) Confirms
      (request.program env) := by
  cases request with
  | update req nonces clock => exact appliesOnce_update req nonces clock
  | getPublic now | getAdmin now | read now =>
    refine appliesOnce_fetchOrCreate_bind now fun settings => ?_
    rintro ⟨body, event, h⟩
    cases h

end Programs

/-- The settings are `doc` with some of the calls applied one after another, named with their
places: each of them once, and all that were answered. -/
def AccountsFor (env : Env) (doc : StatusPageSettings)
    (pool : Pool SettingsRequest SettingsStore) : Prop :=
  ∃ applied : List (ℕ × SettingsRequest),
    (applied.map Prod.fst).Nodup ∧
    (∀ call ∈ applied, ∃ t, pool.threads[call.1]? = some t ∧ t.call = call.2) ∧
    pool.store.settings = some (applyAll (SettingsRequest.apply env) applied doc) ∧
    ∀ k t body event, pool.threads[k]? = some t →
      t.result (SettingsRequest.program env) = some (.ok (.updated body event)) →
      k ∈ applied.map Prod.fst

/-- No interleaving of requests, with any operations failing, loses or repeats an update. -/
theorem accountsFor_run (env : Env) {docs : SettingsStore} {doc : StatusPageSettings}
    (hdoc : docs.settings = some doc) (acts : List (Act SettingsRequest)) :
    AccountsFor env doc
      (Library.run (Pool.step (SettingsRequest.program env)) { store := docs } acts) := by
  obtain ⟨applied, happlied⟩ := Pool.applied_run (appliesOnce_program env) hdoc acts
  refine ⟨applied, happlied.nodup, happlied.calls, happlied.store, ?_⟩
  intro k t body event ht hresult
  exact happlied.mem_of_confirms ht hresult ⟨body, event, rfl⟩

def overlappingUpdates : List (Act SettingsRequest) :=
  [.call (.update { head := some { title := some "Status" } }
      ⟨Vector.replicate 12 0, Vector.replicate 12 0⟩ fun k => 2 * k),
    .call (.update { footer := some { text := some "Since 2024" } }
      ⟨Vector.replicate 12 0, Vector.replicate 12 0⟩ fun k => 2 * k + 1),
    .op 0 true, .op 1 true, .op 0 true, .op 1 true, .op 0 true, .op 1 true, .op 0 true, .op 1 true]

theorem accountsFor_run_overlapping :
    AccountsFor exampleEnv (defaultStatusPageSettings 0)
      (Library.run (Pool.step (SettingsRequest.program exampleEnv))
        { store := [defaultStatusPageSettings 0] } overlappingUpdates) :=
  accountsFor_run exampleEnv (by rfl) overlappingUpdates

end Statora.Settings
