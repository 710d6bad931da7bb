import Statora.Incidents.Service
import Statora.Library.EventRun
import Statora.Worker.Steps

/-!
# Resolved incidents and resolution times

The writers of an incident are the five operations of the service and the two
branches of `detectOutage`. A stored incident is resolved exactly when it has a
resolution time, as long as no incident is created as resolved and no resolved
incident takes another status.
-/

namespace Statora.Incidents
open Library (Fallible Collection AllSteps AllStates allStates_iff_allSteps allSteps_of_forall)

def subComponentsExist (db : Database) (target : IncidentAffectedComponent) : Bool :=
  target.subComponentIDs = [] ||
    countSubComponentsByComponent target.componentID target.subComponentIDs db =
      (dedupeObjectIDs target.subComponentIDs).length

def targetsExist (targets : List IncidentAffectedComponent) (db : Database) : Bool :=
  targets = [] ||
    (countComponents (targets.map (·.componentID)) db =
        (dedupeObjectIDs (targets.map (·.componentID))).length &&
      targets.all (subComponentsExist db))

def accepted (ok : Bool) : Except ServiceError Unit :=
  if ok then .ok () else .error errInvalidReference

theorem run_validateSubComponents (targets : List IncidentAffectedComponent) (db : Database) :
    (validateSubComponents targets).run db =
      (accepted (targets.all (subComponentsExist db)), db) := by
  induction targets with
  | nil => rfl
  | cons target targets ih =>
    unfold validateSubComponents
    rw [List.all_cons]
    by_cases hempty : target.subComponentIDs = []
    · simp [hempty, ih, subComponentsExist]
    · rw [if_neg hempty, Fallible.run_bind, Fallible.run_query]
      by_cases hcount : countSubComponentsByComponent target.componentID target.subComponentIDs db =
          (dedupeObjectIDs target.subComponentIDs).length
      · simp [hempty, hcount, ih, subComponentsExist]
      · simp [hempty, hcount, accepted, subComponentsExist]

theorem run_validateIncidentTargets (targets : List IncidentAffectedComponent) (db : Database) :
    (validateIncidentTargets targets).run db = (accepted (targetsExist targets db), db) := by
  unfold validateIncidentTargets targetsExist
  by_cases hempty : targets = []
  · simp [hempty, accepted]
  · rw [if_neg hempty, Fallible.run_bind, Fallible.run_query]
    by_cases hcount : countComponents (targets.map (·.componentID)) db =
        (dedupeObjectIDs (targets.map (·.componentID))).length
    · simp [hempty, hcount, run_validateSubComponents]
    · simp [hempty, hcount, accepted]

def createdIncident (input : CreateInput) (rt : Runtime) (db : Database) : Option Incident :=
  (objectIDFromHex input.creatorIDHex).bind fun userID =>
    match input.normalized with
    | .error _ => none
    | .ok (compIDs, targets) =>
      if targetsExist targets db then some (input.incident userID compIDs targets rt) else none

theorem createdIncident_eq_some {input : CreateInput} {rt : Runtime} {db : Database}
    {incident : Incident} (h : createdIncident input rt db = some incident) :
    ∃ userID compIDs targets, incident = input.incident userID compIDs targets rt := by
  unfold createdIncident at h
  obtain ⟨userID, _, h⟩ := Option.bind_eq_some_iff.mp h
  rcases hnorm : input.normalized with _ | ⟨compIDs, targets⟩ <;> rw [hnorm] at h
  · cases h
  · dsimp only at h
    split_ifs at h
    exact ⟨userID, compIDs, targets, (Option.some.inj h).symm⟩

theorem run_insertIncident_incidents (incident : Incident) (db : Database) :
    ((insertIncident incident).run db).2.incidents = db.incidents.insertOne incident := by
  simp only [insertIncident, Fallible.run_execIf]
  cases hfresh : db.incidents.contains incident.id with
  | true => simp [Collection.insertOne_of_contains hfresh]
  | false => simp

theorem create_incidents (input : CreateInput) (rt : Runtime) (db : Database) :
    ((create input rt).run db).2.incidents =
      (createdIncident input rt db).elim db.incidents db.incidents.insertOne := by
  unfold create createdIncident
  cases objectIDFromHex input.creatorIDHex with
  | none => rfl
  | some userID =>
    rcases input.normalized with _ | ⟨compIDs, targets⟩
    · rfl
    · dsimp only [Option.bind]
      have hvalidate := run_validateIncidentTargets targets db
      cases hexist : targetsExist targets db with
      | false =>
        rw [hexist] at hvalidate
        rw [Fallible.run_bind_of_error hvalidate]
        rfl
      | true =>
        rw [hexist] at hvalidate
        rw [Fallible.run_bind_of_ok hvalidate,
          Fallible.run_bind_frame Database.incidents fun _ => leaves_audited (fun _ _ => rfl) _ _]
        exact run_insertIncident_incidents _ db

def checkedTargets (input : RequestBody) (db : Database) :
    Option (Option (List ObjectID × List IncidentAffectedComponent)) :=
  if input.hasTargetPayload then
    match input.normalized with
    | .error _ => none
    | .ok (compIDs, targets) =>
      if targetsExist targets db then some (some (compIDs, targets)) else none
  else some none

theorem run_updatedTargets (input : RequestBody) (db : Database) :
    ∃ e, (updatedTargets input).run db =
      ((checkedTargets input db).elim (.error e) .ok, db) := by
  unfold updatedTargets checkedTargets
  cases input.hasTargetPayload with
  | false => exact ⟨.store, rfl⟩
  | true =>
    rcases input.normalized with _ | ⟨compIDs, targets⟩
    · exact ⟨errInvalidPayload, rfl⟩
    · have hvalidate := run_validateIncidentTargets targets db
      refine ⟨errInvalidReference, ?_⟩
      dsimp only [if_pos]
      cases hexist : targetsExist targets db with
      | false =>
        rw [hexist] at hvalidate
        exact Fallible.run_bind_of_error hvalidate
      | true =>
        rw [hexist] at hvalidate
        exact Fallible.run_bind_of_ok hvalidate

theorem update_incidents (id : ObjectID) (input : RequestBody) (rt : Runtime) (db : Database) :
    ((update id input rt).run db).2.incidents =
      (checkedTargets input db).elim db.incidents fun targets =>
        db.incidents.updateByKey id (input.setFields targets (rt.clock 0) (rt.clock 1))
          (input.setFields_id targets _ _) := by
  obtain ⟨e, htargets⟩ := run_updatedTargets input db
  unfold update
  cases hchecked : checkedTargets input db with
  | none =>
    rw [hchecked] at htargets
    rw [Fallible.run_bind_of_error htargets]
    rfl
  | some targets =>
    rw [hchecked] at htargets
    rw [Fallible.run_bind_of_ok htargets,
      Fallible.run_bind_frame Database.incidents fun _ => leaves_audited (fun _ _ => rfl) _ _]
    rfl

theorem addUpdate_incidents (id : ObjectID) (message : String) (status : IncidentStatus)
    (rt : Runtime) (db : Database) :
    ((addUpdate id message status rt).run db).2.incidents =
      if db.incidentUpdates.contains (rt.newID 0) then db.incidents
      else db.incidents.updateByKey id (applyIncidentStatus status (rt.clock 1) (rt.clock 2))
        (applyIncidentStatus_id status _ _) := by
  unfold addUpdate findByID
  rw [Fallible.run_bind, Fallible.run_find]
  cases hfound : db.incidents.findByKey id with
  | none =>
    have hsame := Collection.updateByKey_of_findByKey_eq_none
      (applyIncidentStatus status (rt.clock 1) (rt.clock 2)) (applyIncidentStatus_id status _ _)
      hfound
    rw [hsame, ite_self]
    rfl
  | some incident =>
    dsimp only [Option.elim]
    cases hused : db.incidentUpdates.contains (rt.newID 0) with
    | true =>
      have hrefused : ∀ update : IncidentUpdate, update.id = rt.newID 0 →
          (insertUpdate update).run db = (.error .store, db) := fun update hid => by
        simp [insertUpdate, hid, hused]
      rw [Fallible.run_bind_of_error (hrefused _ rfl)]
      rfl
    | false =>
      have hinserted : ∀ update : IncidentUpdate, update.id = rt.newID 0 →
          (insertUpdate update).run db = (.ok (),
            { db with incidentUpdates := db.incidentUpdates.insertOne update }) :=
        fun update hid => by simp [insertUpdate, hid, hused]
      rw [Fallible.run_bind_of_ok (hinserted _ rfl),
        Fallible.run_bind_frame Database.incidents fun _ => leaves_audited (fun _ _ => rfl) _ _]
      rfl

theorem resolve_incidents (id : ObjectID) (rt : Runtime) (db : Database) :
    ((resolve id rt).run db).2.incidents =
      db.incidents.updateByKey id
        (({ status := .resolved } : RequestBody).setFields none (rt.clock 0) (rt.clock 1))
        (RequestBody.setFields_id _ none _ _) := by
  unfold resolve
  rw [Fallible.run_bind_frame Database.incidents fun _ => leaves_audited (fun _ _ => rfl) _ _]
  exact update_incidents id _ rt db

theorem delete_incidents (id : ObjectID) (rt : Runtime) (db : Database) :
    ((delete id rt).run db).2.incidents = db.incidents.deleteByKey id := by
  unfold delete deleteIncidentByID
  rw [Fallible.run_bind_frame Database.incidents fun _ => leaves_insertAuditLog (fun _ _ => rfl) _,
    Fallible.run_bind_frame Database.incidents fun _ _ => rfl, Fallible.run_execIf]
  cases hstored : db.incidents.contains id with
  | true => rfl
  | false => exact (Collection.deleteByKey_of_not_contains hstored).symm

def elsewhere (db : Database) : Database :=
  { db with incidents := .empty, incidentUpdates := .empty, auditLogs := .empty }

theorem leaves_validateIncidentTargets (targets : List IncidentAffectedComponent) :
    (validateIncidentTargets targets).Leaves elsewhere := fun db => by
  rw [run_validateIncidentTargets]

theorem leaves_updatedTargets (input : RequestBody) :
    (updatedTargets input).Leaves elsewhere := fun db => by
  obtain ⟨e, h⟩ := run_updatedTargets input db
  rw [h]

theorem leaves_create (input : CreateInput) (rt : Runtime) :
    (create input rt).Leaves elsewhere := by
  unfold create
  cases objectIDFromHex input.creatorIDHex with
  | none => exact Fallible.leaves_throw _
  | some userID =>
    rcases input.normalized with _ | ⟨compIDs, targets⟩
    · exact Fallible.leaves_throw _
    · refine (leaves_validateIncidentTargets targets).bind fun _ => ?_
      refine Fallible.Leaves.bind (Fallible.leaves_execIf _ _ _ fun _ => rfl) fun _ => ?_
      exact leaves_audited (fun _ _ => rfl) _ _

theorem leaves_update (id : ObjectID) (input : RequestBody) (rt : Runtime) :
    (update id input rt).Leaves elsewhere := by
  refine (leaves_updatedTargets input).bind fun targets => ?_
  refine Fallible.Leaves.bind (Fallible.leaves_findAndUpdate _ _ _ fun _ => rfl) fun _ => ?_
  exact leaves_audited (fun _ _ => rfl) _ _

theorem leaves_addUpdate (id : ObjectID) (message : String) (status : IncidentStatus)
    (rt : Runtime) : (addUpdate id message status rt).Leaves elsewhere := by
  refine (Fallible.leaves_find _ _ _).bind fun _ => ?_
  refine Fallible.Leaves.bind (Fallible.leaves_execIf _ _ _ fun _ => rfl) fun _ => ?_
  refine Fallible.Leaves.bind (Fallible.leaves_exec _ fun _ => rfl) fun _ => ?_
  exact leaves_audited (fun _ _ => rfl) _ _

theorem leaves_resolve (id : ObjectID) (rt : Runtime) :
    (resolve id rt).Leaves elsewhere := by
  refine (leaves_update id _ rt).bind fun _ => ?_
  exact leaves_audited (fun _ _ => rfl) _ _

theorem leaves_delete (id : ObjectID) (rt : Runtime) :
    (delete id rt).Leaves elsewhere := by
  refine Fallible.Leaves.bind ?_ fun _ => leaves_insertAuditLog (fun _ _ => rfl) _
  exact Fallible.Leaves.bind (Fallible.leaves_execIf _ _ _ fun _ => rfl) fun _ =>
    Fallible.leaves_exec _ fun _ => rfl

inductive Event
  | check (c : Worker.Check)
  | create (input : CreateInput) (rt : Runtime)
  | update (id : ObjectID) (input : RequestBody) (rt : Runtime)
  | addUpdate (id : ObjectID) (message : String) (status : IncidentStatus) (rt : Runtime)
  | resolve (id : ObjectID) (rt : Runtime)
  | delete (id : ObjectID) (rt : Runtime)

def step (db : Database) : Event → Database
  | .check c => Worker.step db c
  | .create input rt => ((create input rt).run db).2
  | .update id input rt => ((update id input rt).run db).2
  | .addUpdate id message status rt => ((addUpdate id message status rt).run db).2
  | .resolve id rt => ((resolve id rt).run db).2
  | .delete id rt => ((delete id rt).run db).2

theorem step_elsewhere (db : Database) (e : Event) :
    (∃ c, e = .check c) ∨ elsewhere (step db e) = elsewhere db := by
  cases e with
  | check c => exact Or.inl ⟨c, rfl⟩
  | create input rt => exact Or.inr (leaves_create input rt db)
  | update id input rt => exact Or.inr (leaves_update id input rt db)
  | addUpdate id message status rt => exact Or.inr (leaves_addUpdate id message status rt db)
  | resolve id rt => exact Or.inr (leaves_resolve id rt db)
  | delete id rt => exact Or.inr (leaves_delete id rt db)

def TimedWhenResolved (incident : Incident) : Prop :=
  incident.status = .resolved ↔ incident.resolvedAt.isSome = true

/-- Every stored incident is resolved if and only if its resolution time is set. -/
def Consistent (db : Database) : Prop := ∀ incident ∈ db.incidents.docs, TimedWhenResolved incident

/-- An update to this status leaves the incident unresolved or resolves it now. -/
def KeepsTime (incident : Incident) (status : IncidentStatus) : Prop :=
  status = .resolved ∨ incident.status ≠ .resolved

/-- Nothing is created as resolved, and nothing resolved is opened again. -/
def KeepsResolution (db : Database) : Event → Prop
  | .check _ => True
  | .create input rt => ∀ incident, createdIncident input rt db = some incident →
      db.incidents.contains (rt.newID 0) = false → input.status ≠ .resolved
  | .update id input _ => (checkedTargets input db).isSome = true → input.status ≠ .other "" →
      ∀ incident, db.incidents.findByKey id = some incident → KeepsTime incident input.status
  | .addUpdate id _ status rt => db.incidentUpdates.contains (rt.newID 0) = false →
      ∀ incident, db.incidents.findByKey id = some incident → KeepsTime incident status
  | .resolve _ _ => True
  | .delete _ _ => True

theorem timed_iff {incident changed : Incident} {status : IncidentStatus} {now : ℤ}
    (h : TimedWhenResolved incident) (hstatus : changed.status = status)
    (htime : changed.resolvedAt = if status = .resolved then some now else incident.resolvedAt) :
    TimedWhenResolved changed ↔ KeepsTime incident status := by
  unfold TimedWhenResolved KeepsTime
  rw [hstatus, htime]
  by_cases hresolved : status = .resolved
  · simp [hresolved]
  · simp only [hresolved, if_false, false_iff, false_or, ← h.not, ne_eq]

theorem consistent_check {db : Database} (h : Consistent db) (c : Worker.Check) :
    Consistent (Worker.step db c) := by
  unfold Consistent
  rw [Worker.step_incidents]
  split_ifs
  · cases Worker.opensIncident c.mon (c.recorded db) with
    | none => exact h
    | some id =>
      exact (Collection.forall_insertOne_iff h).mpr fun _ => by
        simp [TimedWhenResolved, Worker.newIncident]
  · exact h
  · cases Worker.activeOutage c.mon.id db with
    | none => exact h
    | some outage =>
      dsimp only [Option.elim]
      cases Worker.recoveredIncident outage db with
      | none => exact h
      | some incident =>
        dsimp only [Option.elim, Worker.resolveIncident]
        rw [Collection.forall_updateByKey_iff h]
        exact fun stored _ => ⟨fun _ => rfl, fun _ => rfl⟩

theorem consistent_create {db : Database} (h : Consistent db) (input : CreateInput)
    (rt : Runtime) :
    Consistent (step db (.create input rt)) ↔ KeepsResolution db (.create input rt) := by
  unfold Consistent step KeepsResolution
  dsimp only
  rw [create_incidents]
  cases hcreated : createdIncident input rt db with
  | none => exact iff_of_true h (by simp)
  | some incident =>
    obtain ⟨userID, compIDs, targets, rfl⟩ := createdIncident_eq_some hcreated
    dsimp only [Option.elim]
    rw [Collection.forall_insertOne_iff h]
    have hstatus : TimedWhenResolved (input.incident userID compIDs targets rt) ↔
        input.status ≠ .resolved := by
      unfold TimedWhenResolved CreateInput.incident
      by_cases hempty : input.status = .other "" <;> simp [hempty]
    constructor
    · intro hnew _ _ hfresh
      exact hstatus.mp (hnew hfresh)
    · intro hkeeps hfresh
      exact hstatus.mpr (hkeeps _ rfl hfresh)

theorem consistent_update {db : Database} (h : Consistent db) (id : ObjectID)
    (input : RequestBody) (rt : Runtime) :
    Consistent (step db (.update id input rt)) ↔ KeepsResolution db (.update id input rt) := by
  unfold Consistent step KeepsResolution
  dsimp only
  rw [update_incidents]
  cases checkedTargets input db with
  | none => exact iff_of_true h (by simp)
  | some targets =>
    dsimp only [Option.elim, Option.isSome]
    rw [Collection.forall_updateByKey_iff h]
    have hset : ∀ incident, db.incidents.findByKey id = some incident →
        (TimedWhenResolved (input.setFields targets (rt.clock 0) (rt.clock 1) incident) ↔
          (input.status ≠ .other "" → KeepsTime incident input.status)) := by
      intro incident hfound
      have hstored := h incident (Collection.mem_of_findByKey hfound).1
      by_cases hempty : input.status = .other ""
      · simpa [RequestBody.setFields, TimedWhenResolved, hempty] using hstored
      · rw [timed_iff hstored (if_pos hempty) rfl]
        simp [hempty]
    constructor
    · intro hall _ hgiven incident hfound
      exact (hset incident hfound).mp (hall incident hfound) hgiven
    · intro hkeeps incident hfound
      exact (hset incident hfound).mpr fun hgiven => hkeeps rfl hgiven incident hfound

theorem consistent_addUpdate {db : Database} (h : Consistent db) (id : ObjectID)
    (message : String) (status : IncidentStatus) (rt : Runtime) :
    Consistent (step db (.addUpdate id message status rt)) ↔
      KeepsResolution db (.addUpdate id message status rt) := by
  unfold Consistent step KeepsResolution
  dsimp only
  rw [addUpdate_incidents]
  cases db.incidentUpdates.contains (rt.newID 0) with
  | true => exact iff_of_true h (by simp)
  | false =>
    rw [if_neg (by simp), Collection.forall_updateByKey_iff h]
    have happly : ∀ incident, db.incidents.findByKey id = some incident →
        (TimedWhenResolved (applyIncidentStatus status (rt.clock 1) (rt.clock 2) incident) ↔
          KeepsTime incident status) := fun incident hfound =>
      timed_iff (h incident (Collection.mem_of_findByKey hfound).1) rfl rfl
    constructor
    · intro hall _ incident hfound
      exact (happly incident hfound).mp (hall incident hfound)
    · intro hkeeps incident hfound
      exact (happly incident hfound).mpr (hkeeps rfl incident hfound)

theorem consistent_resolve {db : Database} (h : Consistent db) (id : ObjectID) (rt : Runtime) :
    Consistent (step db (.resolve id rt)) := by
  unfold Consistent step
  dsimp only
  rw [resolve_incidents, Collection.forall_updateByKey_iff h]
  intro incident _
  exact ⟨fun _ => rfl, fun _ => rfl⟩

theorem consistent_delete {db : Database} (h : Consistent db) (id : ObjectID) (rt : Runtime) :
    Consistent (step db (.delete id rt)) := by
  unfold Consistent step
  dsimp only
  rw [delete_incidents]
  exact fun incident hmem => h incident (List.mem_of_mem_filter hmem)

/-- One event keeps the invariant exactly when it creates no resolved incident
and opens none again. -/
theorem consistent_step {db : Database} (h : Consistent db) (e : Event) :
    Consistent (step db e) ↔ KeepsResolution db e := by
  cases e with
  | check c => exact iff_of_true (consistent_check h c) trivial
  | create input rt => exact consistent_create h input rt
  | update id input rt => exact consistent_update h id input rt
  | addUpdate id message status rt => exact consistent_addUpdate h id message status rt
  | resolve id rt => exact iff_of_true (consistent_resolve h id rt) trivial
  | delete id rt => exact iff_of_true (consistent_delete h id rt) trivial

theorem consistent_run_iff (db : Database) (es : List Event) (h : Consistent db) :
    AllStates step Consistent db es ↔ AllSteps step KeepsResolution db es :=
  allStates_iff_allSteps (fun _ e hdb _ => consistent_step hdb e) h
    (allSteps_of_forall (P := fun _ _ => True) fun _ _ _ => trivial)

def reopening : List Event :=
  let rt : ℕ → Runtime := fun n => ⟨fun k => k, fun k => BitVec.ofNat 96 (8 * n + k + 1)⟩
  [.create { title := "Outage", creatorIDHex := "0123456789abcdef01234567" } (rt 0),
    .resolve 1#96 (rt 1), .addUpdate 1#96 "Still failing" .monitoring (rt 2)]

theorem consistent_run_iff_reopening :
    AllStates step Consistent {} reopening ↔ AllSteps step KeepsResolution {} reopening :=
  consistent_run_iff {} reopening fun _ hmem => absurd hmem List.not_mem_nil

def createResolved : Event :=
  .create
    { title := "Past outage", status := .resolved, creatorIDHex := "0123456789abcdef01234567" }
    ⟨fun k => k, fun k => BitVec.ofNat 96 (k + 1)⟩

theorem createResolved_inconsistent : ¬ AllStates step Consistent {} [createResolved] := by
  intro h
  have hstored : (step {} createResolved).incidents.docs.any
      (fun incident => incident.status = .resolved && incident.resolvedAt.isNone) = true := by
    decide +kernel
  obtain ⟨incident, hmem, hincident⟩ := List.any_eq_true.mp hstored
  rw [Bool.and_eq_true, decide_eq_true_eq] at hincident
  have htimed := (h.2 incident hmem).mp hincident.1
  rw [← Option.not_isNone, hincident.2] at htimed
  exact absurd htimed (by decide)

end Statora.Incidents
