import Statora.Library.RelatedRuns
import Statora.Settings.Handlers

/-!
# Two services over alike settings

Documents of two services are alike under a relation that both answers, the key and every
update respect. The requests of the two services, update by related assignments and then
give the same answers.
-/

namespace Statora.Settings
open Library (Assignment Fallible Prog assign assignAll updateFirst)
open Library.Fallible (Related SameOutcome)

abbrev Documents := StatusPageSettings → StatusPageSettings → Prop
abbrev Assignments := Assignment Field.Value → Assignment Field.Value → Prop

/-- What a relation of documents, with one of assignments, has to respect. -/
structure Respects (D : Documents) (A : Assignments) : Prop where
  created : ∀ now, D (defaultStatusPageSettings now) (defaultStatusPageSettings now)
  upserted : ∀ createdAt, D { key := statusPageSettingsKey, createdAt := createdAt }
    { key := statusPageSettingsKey, createdAt := createdAt }
  time : ∀ t, A ⟨.updatedAt, t⟩ ⟨.updatedAt, t⟩
  assigned : ∀ doc doc' a a', D doc doc' → A a a' → D (assign doc a) (assign doc' a')
  tagged : ∀ doc doc' tags, D doc doc' →
    D { doc with head.metaTags := tags } { doc' with head.metaTags := tags }
  key : ∀ doc doc', D doc doc' → doc.key = doc'.key
  json : ∀ doc doc', D doc doc' → doc.json = doc'.json
  admin : ∀ doc doc', D doc doc' →
    buildAdminStatusPageSettingsResponse doc = buildAdminStatusPageSettingsResponse doc'

abbrev SameChecked (A : Assignments) : Checked → Checked → Prop := SameOutcome (List.Forall₂ A)

section Collect
variable {A : Assignments}

theorem sameOutcome_mapM {checks checks' : List Checked}
    (h : List.Forall₂ (SameChecked A) checks checks') :
    SameOutcome (List.Forall₂ (List.Forall₂ A)) (checks.mapM id) (checks'.mapM id) := by
  induction h with
  | nil => exact .ok .nil
  | cons hfirst hrest ih =>
    next check check' checks checks' =>
    rw [List.mapM_cons, List.mapM_cons]
    cases hfirst with
    | error e => exact .error e
    | ok hfirst =>
      generalize checks.mapM id = rest at ih
      generalize checks'.mapM id = rest' at ih
      cases ih with
      | error e => exact .error e
      | ok hothers => exact .ok (.cons hfirst hothers)

theorem sameChecked_collect {checks checks' : List Checked}
    (h : List.Forall₂ (SameChecked A) checks checks') :
    SameChecked A (collect checks) (collect checks') := by
  have hparts := sameOutcome_mapM h
  unfold collect
  generalize checks.mapM id = parts at hparts
  generalize checks'.mapM id = parts' at hparts
  cases hparts with
  | error e => exact .error e
  | ok hparts =>
    next parts parts' =>
    have hset := List.rel_flatten hparts
    have hnone : parts.flatten = [] ↔ parts'.flatten = [] := by
      rw [← List.length_eq_zero_iff, hset.length_eq, List.length_eq_zero_iff]
    change SameChecked A (if parts.flatten = [] then _ else .ok parts.flatten)
      (if parts'.flatten = [] then _ else .ok parts'.flatten)
    by_cases hempty : parts.flatten = []
    · rw [if_pos hempty, if_pos (hnone.mp hempty)]
      exact .error _
    · rw [if_neg hempty, if_neg (hnone.not.mp hempty)]
      exact .ok hset

end Collect

section Stores
variable {D : Documents} {A : Assignments} (hD : Respects D A)
include hD

theorem related_assignAll {set set' : List (Assignment Field.Value)}
    (hset : List.Forall₂ A set set') {doc doc' : StatusPageSettings} (hdoc : D doc doc') :
    D (assignAll doc set) (assignAll doc' set') := by
  induction hset generalizing doc doc' with
  | nil => exact hdoc
  | cons ha hrest ih => exact ih (hD.assigned _ _ _ _ hdoc ha)

theorem related_settings {docs docs' : SettingsStore} (h : List.Forall₂ D docs docs') :
    Option.Rel D docs.settings docs'.settings := by
  unfold SettingsStore.settings
  induction h with
  | nil => exact .none
  | cons hfirst hrest ih =>
    rw [List.find?_cons, List.find?_cons, hD.key _ _ hfirst]
    split
    · exact .some hfirst
    · exact ih

theorem related_updateFirst {set set' : List (Assignment Field.Value)}
    (hset : List.Forall₂ A set set') {docs docs' : SettingsStore} (h : List.Forall₂ D docs docs') :
    List.Forall₂ D
      (updateFirst (fun doc => doc.key = statusPageSettingsKey) (assignAll · set) docs)
      (updateFirst (fun doc => doc.key = statusPageSettingsKey) (assignAll · set') docs') := by
  induction h with
  | nil => exact .nil
  | cons hfirst hrest ih =>
    rw [updateFirst, updateFirst, hD.key _ _ hfirst]
    split
    · exact .cons (related_assignAll hD hset hfirst) hrest
    · exact .cons hfirst ih

theorem related_storeUpdate {set set' : List (Assignment Field.Value)}
    (hset : List.Forall₂ A set set') (createdAt : ℤ) {docs docs' : SettingsStore}
    (h : List.Forall₂ D docs docs') :
    List.Forall₂ D (docs.update set createdAt) (docs'.update set' createdAt) := by
  have hsome : docs.settings.isSome = docs'.settings.isSome := by
    have hsettings := related_settings hD h
    generalize docs.settings = found at hsettings
    generalize docs'.settings = found' at hsettings
    cases hsettings <;> rfl
  unfold SettingsStore.update
  rw [hsome]
  split
  · exact related_updateFirst hD hset h
  · exact List.rel_append h (.cons (related_assignAll hD hset (hD.upserted createdAt)) .nil)

theorem related_find : Related (List.Forall₂ D) D
    (Fallible.find SettingsError.store SettingsError.store SettingsStore.settings)
    (Fallible.find SettingsError.store SettingsError.store SettingsStore.settings) :=
  Fallible.related_find fun _ _ => related_settings hD

theorem related_fetchOrCreate (now : ℤ) :
    Related (List.Forall₂ D) D (fetchOrCreateStatusPageSettings now)
      (fetchOrCreateStatusPageSettings now) := by
  have hquery : Related (List.Forall₂ D) (Option.Rel D)
      (Fallible.query SettingsError.store SettingsStore.settings)
      (Fallible.query SettingsError.store SettingsStore.settings) :=
    Fallible.related_query fun _ _ => related_settings hD
  unfold fetchOrCreateStatusPageSettings
  refine Fallible.related_bind hquery fun found found' hfound => ?_
  cases hfound with
  | some hdoc => exact Fallible.related_pure hdoc
  | none =>
    have hinsert : ∀ docs docs', List.Forall₂ D docs docs' →
        List.Forall₂ D (docs ++ [defaultStatusPageSettings now])
          (docs' ++ [defaultStatusPageSettings now]) :=
      fun docs docs' h => List.rel_append h (.cons (hD.created now) .nil)
    exact Fallible.related_bind (Fallible.related_exec hinsert)
      fun _ _ _ => Fallible.related_pure (hD.created now)

theorem related_updateSSOSettings {set set' : List (Assignment Field.Value)}
    (hset : List.Forall₂ A set set') (now : ℤ) :
    Related (List.Forall₂ D) (fun _ _ => True) (SettingsRepository.updateSSOSettings set now)
      (SettingsRepository.updateSSOSettings set' now) := by
  unfold SettingsRepository.updateSSOSettings
  refine Fallible.related_bind (related_fetchOrCreate hD now) fun first first' hfirst => ?_
  have hcreated : first.createdAt = first'.createdAt :=
    congrArg StatusPageSettingsJSON.createdAt (hD.json _ _ hfirst)
  have hwritten : Related (List.Forall₂ D) D
      (Fallible.findAndUpdate SettingsError.store SettingsError.store
        (SettingsStore.update set first.createdAt) SettingsStore.settings)
      (Fallible.findAndUpdate SettingsError.store SettingsError.store
        (SettingsStore.update set' first'.createdAt) SettingsStore.settings) := by
    rw [hcreated]
    exact Fallible.related_findAndUpdate
      (fun _ _ => related_storeUpdate hD hset first'.createdAt) fun _ _ => related_settings hD
  exact Fallible.related_bind hwritten fun _ _ _ => Fallible.related_pure trivial

theorem related_applyUpdate {checked checked' : Checked} (h : SameChecked A checked checked')
    (clock : ℕ → ℤ) : Related (List.Forall₂ D) (· = ·) (applyUpdate checked clock)
      (applyUpdate checked' clock) := by
  unfold applyUpdate
  refine Fallible.related_bind (related_fetchOrCreate hD _) fun current current' hcurrent => ?_
  cases h with
  | error e => exact Fallible.related_throw e
  | ok hset =>
    have hset := List.Forall₂.cons (hD.time (clock 1)) hset
    refine Fallible.related_bind (related_updateSSOSettings hD hset (clock 2)) fun _ _ _ => ?_
    refine Fallible.related_bind (related_find hD) fun stored stored' hstored => ?_
    have hhead : current.head = current'.head :=
      congrArg StatusPageSettingsJSON.head (hD.json _ _ hcurrent)
    have hstoredHead : stored.head = stored'.head :=
      congrArg StatusPageSettingsJSON.head (hD.json _ _ hstored)
    have hupdated := hD.tagged _ _
      (MetaTags.decodeOver current'.head.metaTags stored'.head.metaTags) hstored
    refine Fallible.related_pure ?_
    rw [hhead]
    refine congr (congrArg SettingsResponse.updated ?_) ?_
    · exact (congrArg _ (by rw [hstoredHead])).trans (hD.admin _ _ hupdated)
    · exact (congrArg _ (by rw [hstoredHead])).trans (hD.json _ _ hupdated)

theorem related_getPublic (now : ℤ) :
    Related (List.Forall₂ D) (· = ·) (getPublicStatusPageSettings now)
      (getPublicStatusPageSettings now) :=
  Fallible.related_bind (related_fetchOrCreate hD now) fun doc doc' hdoc =>
    Fallible.related_pure (congrArg SettingsResponse.settings (hD.json doc doc' hdoc))

theorem related_getAdmin (now : ℤ) :
    Related (List.Forall₂ D) (· = ·) (getAdminStatusPageSettings now)
      (getAdminStatusPageSettings now) :=
  Fallible.related_bind (related_fetchOrCreate hD now) fun doc doc' hdoc =>
    Fallible.related_pure (congrArg SettingsResponse.admin (hD.admin doc doc' hdoc))

theorem related_read {α : Type} {failed : SettingsError → α} {f : StatusPageSettings → α}
    (hf : ∀ doc doc', D doc doc' → f doc = f doc') (now : ℤ) :
    Prog.Related (List.Forall₂ D) (· = ·)
      ((fetchOrCreateStatusPageSettings now : Prog _ _).bind fun
        | .error e => .ret (failed e)
        | .ok doc => .ret (f doc))
      ((fetchOrCreateStatusPageSettings now : Prog _ _).bind fun
        | .error e => .ret (failed e)
        | .ok doc => .ret (f doc)) := by
  refine Prog.Related.bind (related_fetchOrCreate hD now) fun found found' h => ?_
  cases h with
  | error e => rfl
  | ok h => exact hf _ _ h

end Stores

theorem eq_of_sameAnswer {ε α : Type} {r r' : Option (Except ε α)}
    (h : Option.Rel (SameOutcome (· = ·)) r r') : r = r' := by
  cases h with
  | none => rfl
  | some h =>
    cases h with
    | ok h => rw [h]
    | error e => rfl

end Statora.Settings
