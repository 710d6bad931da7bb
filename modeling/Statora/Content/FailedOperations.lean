import Statora.Incidents.Lifecycle
import Statora.Library.Faults
import Statora.Maintenance.Windows

/-!
# Operations that fail

No operation of the two services takes back what it has written. One that fails leaves
the collections as the writes before the failed step have made them.
-/

namespace Statora.Content
open Library (Fallible Collection Outcome)

/-- The collections that the operations of the two services write to. -/
structure Collections where
  incidents : Collection Incident
  incidentUpdates : Collection IncidentUpdate
  maintenance : Collection Maintenance

def collections (db : Database) : Collections :=
  ⟨db.incidents, db.incidentUpdates, db.maintenance⟩

inductive Operation
  | createIncident (input : Incidents.CreateInput)
  | updateIncident (id : ObjectID) (input : Incidents.RequestBody)
  | addUpdate (incidentID : ObjectID) (message : String) (status : IncidentStatus)
  | deleteIncident (incidentID : ObjectID)
  | resolveIncident (incidentID : ObjectID)
  | createMaintenance (input : Maintenances.CreateInput)
  | updateMaintenance (id : ObjectID) (input : Maintenances.UpdateInput)

def Operation.program (op : Operation) (rt : Runtime) : Fallible Database ServiceError Unit :=
  match op with
  | .createIncident input => do let _ ← Incidents.create input rt
  | .updateIncident id input => do let _ ← Incidents.update id input rt
  | .addUpdate incidentID message status => do
    let _ ← Incidents.addUpdate incidentID message status rt
  | .deleteIncident incidentID => Incidents.delete incidentID rt
  | .resolveIncident incidentID => do let _ ← Incidents.resolve incidentID rt
  | .createMaintenance input => do let _ ← Maintenances.create input rt
  | .updateMaintenance id input => do let _ ← Maintenances.update id input rt

/-- The operation, run with the store steps failing that `fails` names. -/
def Operation.outcome (op : Operation) (rt : Runtime) (db : Database) (fails : ℕ → Bool) :
    Outcome Database (Except ServiceError Unit) :=
  (op.program rt).runWith fails db 0

theorem Operation.outcome_of_no_failure {fails : ℕ → Bool} (h : ∀ n, fails n = false)
    (op : Operation) (rt : Runtime) (db : Database) :
    (op.outcome rt db fails).result = ((op.program rt).run db).1 ∧
      (op.outcome rt db fails).store = ((op.program rt).run db).2 := by
  have hrun := Library.Prog.runWith_of_no_failure (σ := Database) h (op.program rt) db 0
  constructor
  · exact congrArg Outcome.result hrun
  · exact congrArg Outcome.store hrun

def targetReads (targets : List IncidentAffectedComponent) : ℕ :=
  if targets = [] then 0
  else 1 + (targets.filter fun target => target.subComponentIDs ≠ []).length

def normalizedReads (input : Incidents.RequestBody) : ℕ :=
  match input.normalized with
  | .error _ => 0
  | .ok (_, targets) => targetReads targets

/-- The reading steps before the first write. -/
def Operation.reads : Operation → ℕ
  | .createIncident input => normalizedReads input.toRequestBody
  | .updateIncident _ input => if input.hasTargetPayload then normalizedReads input else 0
  | .addUpdate _ _ _ => 1
  | .deleteIncident _ | .resolveIncident _ | .createMaintenance _ | .updateMaintenance _ _ => 0

/-- The writes to the collections, in order, of an operation that passes its checks. -/
def Operation.writes (op : Operation) (rt : Runtime) (db : Database) :
    List (Database → Database) :=
  match op with
  | .createIncident input =>
    (Incidents.createdIncident input rt db).toList.map fun incident db =>
      { db with incidents := db.incidents.insertOne incident }
  | .updateIncident id input =>
    (Incidents.checkedTargets input db).toList.map fun targets =>
      Incidents.updateIncident id (input.setFields targets (rt.clock 0) (rt.clock 1))
        (input.setFields_id targets _ _)
  | .addUpdate incidentID message status =>
    let update : IncidentUpdate := ⟨rt.newID 0, incidentID, message, status, rt.clock 0⟩
    [fun db => { db with incidentUpdates := db.incidentUpdates.insertOne update },
      Incidents.updateIncident incidentID
        (Incidents.applyIncidentStatus status (rt.clock 1) (rt.clock 2))
        (Incidents.applyIncidentStatus_id status _ _)]
  | .deleteIncident incidentID =>
    [fun db => { db with incidents := db.incidents.deleteByKey incidentID },
      fun db => { db with
        incidentUpdates := db.incidentUpdates.deleteMany (·.incidentID = incidentID) }]
  | .resolveIncident incidentID =>
    [Incidents.updateIncident incidentID
      (({ status := .resolved } : Incidents.RequestBody).setFields none (rt.clock 0) (rt.clock 1))
      (Incidents.RequestBody.setFields_id _ none _ _)]
  | .createMaintenance input =>
    match parseRFC3339 input.startTime, parseRFC3339 input.endTime,
      objectIDFromHex input.creatorIDHex with
    | some startTime, some endTime, some creatorID => [fun db => { db with
        maintenance :=
          db.maintenance.insertOne (input.maintenance startTime endTime creatorID rt) }]
    | _, _, _ => []
  | .updateMaintenance id input =>
    [Maintenances.updateMaintenance id
      (input.setFields (parseRFC3339 input.startTime) (parseRFC3339 input.endTime) (rt.clock 0))
      (input.setFields_id _ _ _)]

theorem stops_insertAuditLog (audit : AuditLog) :
    Fallible.Stops collections (Incidents.insertAuditLog audit) :=
  Fallible.stops_execIf _ _ _ _

theorem silent_insertAuditLog (audit : AuditLog) :
    Fallible.Silent collections (Incidents.insertAuditLog audit) :=
  Fallible.silent_execIf _ _ _ _

theorem stops_audited {α : Type} (audit : AuditLog) (a : α) :
    Fallible.Stops collections (do Incidents.insertAuditLog audit; return a) :=
  (stops_insertAuditLog audit).bind (fun _ => Fallible.stops_pure a) fun _ _ h => by cases h

theorem silent_audited {α : Type} (audit : AuditLog) (a : α) :
    Fallible.Silent collections (do Incidents.insertAuditLog audit; return a) :=
  (silent_insertAuditLog audit).bind (Incidents.leaves_insertAuditLog (fun _ _ => rfl) audit)
    fun _ => Fallible.silent_pure a

theorem stops_validateSubComponents (targets : List IncidentAffectedComponent) :
    Fallible.Stops collections (Incidents.validateSubComponents targets) := by
  induction targets with
  | nil => exact Fallible.stops_pure ()
  | cons target targets ih =>
    unfold Incidents.validateSubComponents
    split_ifs
    · exact ih
    · refine Fallible.stops_query_bind fun subCount => ?_
      split_ifs
      · exact Fallible.stops_throw _
      · exact ih

theorem stops_validateIncidentTargets (targets : List IncidentAffectedComponent) :
    Fallible.Stops collections (Incidents.validateIncidentTargets targets) := by
  unfold Incidents.validateIncidentTargets
  split_ifs
  · exact Fallible.stops_pure ()
  · refine Fallible.stops_query_bind fun componentCount => ?_
    split_ifs
    · exact Fallible.stops_throw _
    · exact stops_validateSubComponents targets

theorem found_validateSubComponents {targets : List IncidentAffectedComponent} {db : Database}
    (h : targets.all (Incidents.subComponentsExist db) = true) :
    (Incidents.validateSubComponents targets).found db = List.replicate
      (targets.filter fun target => target.subComponentIDs ≠ []).length db := by
  induction targets with
  | nil => rfl
  | cons target targets ih =>
    rw [List.all_cons, Bool.and_eq_true] at h
    obtain ⟨htarget, htargets⟩ := h
    unfold Incidents.validateSubComponents
    by_cases hempty : target.subComponentIDs = []
    · rw [if_pos hempty, ih htargets, List.filter_cons_of_neg (by simp [hempty])]
    · have hcount : Incidents.countSubComponentsByComponent target.componentID
          target.subComponentIDs db = (dedupeObjectIDs target.subComponentIDs).length := by
        simpa [Incidents.subComponentsExist, hempty] using htarget
      rw [if_neg hempty, Fallible.found_bind_of_ok (Fallible.run_query _ _ db),
        if_neg (not_not.mpr hcount), ih htargets, List.filter_cons_of_pos (by simp [hempty])]
      rfl

theorem found_validateIncidentTargets {targets : List IncidentAffectedComponent} {db : Database}
    (h : Incidents.targetsExist targets db = true) :
    (Incidents.validateIncidentTargets targets).found db =
      List.replicate (targetReads targets) db := by
  unfold Incidents.validateIncidentTargets targetReads
  unfold Incidents.targetsExist at h
  by_cases hempty : targets = []
  · rw [if_pos hempty, if_pos hempty]
    rfl
  · simp only [hempty, decide_false, Bool.false_or, Bool.and_eq_true, decide_eq_true_eq] at h
    rw [if_neg hempty, if_neg hempty, Fallible.found_bind_of_ok (Fallible.run_query _ _ db),
      if_neg (not_not.mpr h.1), found_validateSubComponents h.2, Nat.add_comm 1]
    rfl

theorem silent_validateSubComponents (targets : List IncidentAffectedComponent) :
    Fallible.Silent collections (Incidents.validateSubComponents targets) := by
  induction targets with
  | nil => exact Fallible.silent_pure ()
  | cons target targets ih =>
    unfold Incidents.validateSubComponents
    split_ifs
    · exact ih
    · refine (Fallible.silent_query _ _).bind (fun _ => rfl) fun subCount => ?_
      split_ifs
      · exact Fallible.silent_throw _
      · exact ih

theorem silent_validateIncidentTargets (targets : List IncidentAffectedComponent) :
    Fallible.Silent collections (Incidents.validateIncidentTargets targets) := by
  unfold Incidents.validateIncidentTargets
  split_ifs
  · exact Fallible.silent_pure ()
  · refine (Fallible.silent_query _ _).bind (fun _ => rfl) fun componentCount => ?_
    split_ifs
    · exact Fallible.silent_throw _
    · exact silent_validateSubComponents targets

theorem stops_updatedTargets (input : Incidents.RequestBody) :
    Fallible.Stops collections (Incidents.updatedTargets input) := by
  unfold Incidents.updatedTargets
  split_ifs
  · rcases input.normalized with e | ⟨compIDs, targets⟩
    · exact Fallible.stops_throw _
    · exact (stops_validateIncidentTargets targets).bind (fun _ => Fallible.stops_pure _)
        fun _ _ h => by cases h
  · exact Fallible.stops_pure _

theorem found_updatedTargets {input : Incidents.RequestBody} {db : Database}
    (h : (Incidents.checkedTargets input db).isSome = true) :
    (Incidents.updatedTargets input).found db =
      List.replicate (if input.hasTargetPayload then normalizedReads input else 0) db := by
  unfold Incidents.checkedTargets at h
  unfold Incidents.updatedTargets normalizedReads
  cases hpayload : input.hasTargetPayload with
  | false => rfl
  | true =>
    rw [hpayload, if_pos rfl] at h
    rcases hnormalized : input.normalized with e | ⟨compIDs, targets⟩ <;> rw [hnormalized] at h
    · cases h
    · dsimp only at h ⊢
      split_ifs at h with hexist
      · have hvalidate := Incidents.run_validateIncidentTargets targets db
        rw [hexist] at hvalidate
        rw [if_pos rfl, if_pos rfl, Fallible.found_bind_of_ok hvalidate,
          found_validateIncidentTargets hexist, Fallible.found_pure, List.append_nil]
      · cases h

theorem silent_updatedTargets (input : Incidents.RequestBody) :
    Fallible.Silent collections (Incidents.updatedTargets input) := by
  unfold Incidents.updatedTargets
  split_ifs
  · rcases input.normalized with e | ⟨compIDs, targets⟩
    · exact Fallible.silent_throw _
    · refine (silent_validateIncidentTargets targets).bind (fun db => ?_)
        fun _ => Fallible.silent_pure _
      rw [Incidents.run_validateIncidentTargets]
  · exact Fallible.silent_pure _

theorem stops_createIncident (input : Incidents.CreateInput) (rt : Runtime) :
    Fallible.Stops collections (Incidents.create input rt) := by
  unfold Incidents.create
  cases objectIDFromHex input.creatorIDHex with
  | none => exact Fallible.stops_throw _
  | some userID =>
    rcases input.normalized with e | ⟨compIDs, targets⟩
    · exact Fallible.stops_throw _
    · refine (stops_validateIncidentTargets targets).bind (fun _ => ?_) fun _ _ h => by cases h
      exact (Fallible.stops_execIf _ _ _ _).bind (fun _ => stops_audited _ _)
        fun _ _ h => by cases h

theorem collections_updateIncident_of_missing {id : ObjectID} {set : Incident → Incident}
    {hset : ∀ incident, (set incident).id = incident.id} {db : Database}
    (h : (Incidents.updateIncident id set hset db).incidents.findByKey id = none) :
    collections (Incidents.updateIncident id set hset db) = collections db := by
  unfold Incidents.updateIncident at h ⊢
  rw [Collection.findByKey_updateByKey_self, Option.map_eq_none_iff] at h
  rw [Collection.updateByKey_of_findByKey_eq_none _ _ h]

theorem collections_updateMaintenance_of_missing {id : ObjectID} {set : Maintenance → Maintenance}
    {hset : ∀ maintenance, (set maintenance).id = maintenance.id} {db : Database}
    (h : (Maintenances.updateMaintenance id set hset db).maintenance.findByKey id = none) :
    collections (Maintenances.updateMaintenance id set hset db) = collections db := by
  unfold Maintenances.updateMaintenance at h ⊢
  rw [Collection.findByKey_updateByKey_self, Option.map_eq_none_iff] at h
  rw [Collection.updateByKey_of_findByKey_eq_none _ _ h]

theorem stops_updateIncident (id : ObjectID) (input : Incidents.RequestBody) (rt : Runtime) :
    Fallible.Stops collections (Incidents.update id input rt) := by
  unfold Incidents.update
  refine (stops_updatedTargets input).bind (fun targets => ?_) fun _ _ h => by cases h
  exact (Fallible.stops_findAndUpdate _ _ fun _ => collections_updateIncident_of_missing).bind
    (fun _ => stops_audited _ _) fun _ _ h => by cases h

theorem stops_addUpdate (incidentID : ObjectID) (message : String) (status : IncidentStatus)
    (rt : Runtime) :
    Fallible.Stops collections (Incidents.addUpdate incidentID message status rt) := by
  unfold Incidents.addUpdate
  refine (Fallible.stops_find _ _ _).bind (fun _ => ?_) fun _ _ h => by cases h
  refine (Fallible.stops_execIf _ _ _ _).bind (fun _ => ?_) fun _ _ h => by cases h
  exact (Fallible.stops_exec _ _).bind (fun _ => stops_audited _ _) fun _ _ h => by cases h

theorem stops_deleteIncident (incidentID : ObjectID) (rt : Runtime) :
    Fallible.Stops collections (Incidents.delete incidentID rt) := by
  unfold Incidents.delete Incidents.deleteIncidentByID
  refine Fallible.Stops.bind ?_ (fun _ => stops_insertAuditLog _) fun _ _ h => by cases h
  exact (Fallible.stops_execIf _ _ _ _).bind (fun _ => Fallible.stops_exec _ _)
    fun _ _ h => by cases h

theorem stops_createMaintenance (input : Maintenances.CreateInput) (rt : Runtime) :
    Fallible.Stops collections (Maintenances.create input rt) := by
  unfold Maintenances.create
  cases parseRFC3339 input.startTime with
  | none => exact Fallible.stops_throw _
  | some startTime =>
    cases parseRFC3339 input.endTime with
    | none => exact Fallible.stops_throw _
    | some endTime =>
      cases objectIDFromHex input.creatorIDHex with
      | none => exact Fallible.stops_throw _
      | some creatorID =>
        exact (Fallible.stops_execIf _ _ _ _).bind (fun _ => stops_audited _ _)
          fun _ _ h => by cases h

theorem stops_updateMaintenance (id : ObjectID) (input : Maintenances.UpdateInput)
    (rt : Runtime) : Fallible.Stops collections (Maintenances.update id input rt) := by
  unfold Maintenances.update
  cases Maintenances.parseField input.startTime Maintenances.errInvalidStartTime with
  | error e => exact Fallible.stops_throw _
  | ok startTime =>
    cases Maintenances.parseField input.endTime Maintenances.errInvalidEndTime with
    | error e => exact Fallible.stops_throw _
    | ok endTime =>
      exact (Fallible.stops_findAndUpdate _ _
        fun _ => collections_updateMaintenance_of_missing).bind (fun _ => stops_audited _ _)
          fun _ _ h => by cases h

theorem stops_resolveIncident (incidentID : ObjectID) (rt : Runtime) :
    Fallible.Stops collections (Incidents.resolve incidentID rt) :=
  (stops_updateIncident incidentID _ rt).bind (fun _ => stops_audited _ _)
    fun _ _ h => by cases h

theorem stops_program (op : Operation) (rt : Runtime) :
    Fallible.Stops collections (op.program rt) := by
  cases op with
  | createIncident input => exact (stops_createIncident input rt).bind_pure _
  | updateIncident id input => exact (stops_updateIncident id input rt).bind_pure _
  | addUpdate incidentID message status =>
    exact (stops_addUpdate incidentID message status rt).bind_pure _
  | deleteIncident incidentID => exact stops_deleteIncident incidentID rt
  | resolveIncident incidentID => exact (stops_resolveIncident incidentID rt).bind_pure _
  | createMaintenance input => exact (stops_createMaintenance input rt).bind_pure _
  | updateMaintenance id input => exact (stops_updateMaintenance id input rt).bind_pure _

theorem writes_createIncident (input : Incidents.CreateInput) (rt : Runtime) (db : Database) :
    Fallible.Writes collections (Operation.createIncident input).reads
      ((Operation.createIncident input).writes rt db) (Incidents.create input rt) db := by
  dsimp only [Operation.reads, Operation.writes]
  unfold Incidents.create Incidents.createdIncident normalizedReads
  cases objectIDFromHex input.creatorIDHex with
  | none => exact Fallible.writes_of_silent (Fallible.silent_throw _) _ _
  | some userID =>
    rcases input.normalized with e | ⟨compIDs, targets⟩
    · exact Fallible.writes_of_silent (Fallible.silent_throw _) _ _
    · have hvalidate := Incidents.run_validateIncidentTargets targets db
      dsimp only [Option.bind]
      cases hexist : Incidents.targetsExist targets db with
      | false =>
        rw [hexist] at hvalidate
        intro m db' hm
        rw [Fallible.found_bind_of_error hvalidate] at hm
        exact (Fallible.writes_of_silent (silent_validateIncidentTargets targets) _ _) m db' hm
      | true =>
        rw [hexist] at hvalidate
        exact Fallible.writes_bind_of_reads hvalidate (found_validateIncidentTargets hexist)
          (Fallible.writes_execIf_bind _ _ _
            (Fallible.writes_of_silent (silent_audited _ _) _ _))

theorem writes_updateIncident (id : ObjectID) (input : Incidents.RequestBody) (rt : Runtime)
    (db : Database) :
    Fallible.Writes collections (Operation.updateIncident id input).reads
      ((Operation.updateIncident id input).writes rt db) (Incidents.update id input rt) db := by
  obtain ⟨e, htargets⟩ := Incidents.run_updatedTargets input db
  dsimp only [Operation.reads, Operation.writes]
  unfold Incidents.update
  cases hchecked : Incidents.checkedTargets input db with
  | none =>
    rw [hchecked] at htargets
    intro m db' hm
    rw [Fallible.found_bind_of_error htargets] at hm
    exact (Fallible.writes_of_silent (silent_updatedTargets input) _ _) m db' hm
  | some targets =>
    rw [hchecked] at htargets
    exact Fallible.writes_bind_of_reads htargets (found_updatedTargets (by rw [hchecked]; rfl))
      (Fallible.writes_findAndUpdate_bind _ _ fun _ =>
        Fallible.writes_of_silent (silent_audited _ _) _ _)

theorem writes_addUpdate (incidentID : ObjectID) (message : String) (status : IncidentStatus)
    (rt : Runtime) (db : Database) :
    Fallible.Writes collections (Operation.addUpdate incidentID message status).reads
      ((Operation.addUpdate incidentID message status).writes rt db)
      (Incidents.addUpdate incidentID message status rt) db := by
  dsimp only [Operation.reads, Operation.writes]
  unfold Incidents.addUpdate Incidents.findByID
  cases hfound : db.incidents.findByKey incidentID with
  | none =>
    exact Fallible.writes_bind_of_error (by rw [Fallible.run_find, hfound]; rfl) rfl
  | some stored =>
    have hrun : (Fallible.find .store Incidents.errNotFound fun db : Database =>
        db.incidents.findByKey incidentID).run db = (.ok stored, db) := by
      rw [Fallible.run_find, hfound]
      rfl
    refine Fallible.writes_bind_of_reads hrun rfl ?_
    exact Fallible.writes_execIf_bind _ _ _ (Fallible.writes_exec_bind _
      (Fallible.writes_of_silent (silent_audited _ _) _ _))

theorem writes_deleteIncident (incidentID : ObjectID) (rt : Runtime) (db : Database) :
    Fallible.Writes collections (Operation.deleteIncident incidentID).reads
      ((Operation.deleteIncident incidentID).writes rt db) (Incidents.delete incidentID rt) db := by
  unfold Incidents.delete Incidents.deleteIncidentByID
  rw [Fallible.bind_assoc]
  exact Fallible.writes_execIf_bind _ _ _ (Fallible.writes_exec_bind _
    (Fallible.writes_of_silent (silent_insertAuditLog _) _ _))

theorem writes_resolveIncident (incidentID : ObjectID) (rt : Runtime) (db : Database) :
    Fallible.Writes collections (Operation.resolveIncident incidentID).reads
      ((Operation.resolveIncident incidentID).writes rt db)
      (Incidents.resolve incidentID rt) db := by
  unfold Incidents.resolve Incidents.update
  -- The request of a resolution brings no targets, so there is nothing to check.
  have htargets : Incidents.updatedTargets { status := .resolved } = pure none := rfl
  rw [htargets, Fallible.pure_bind, Fallible.bind_assoc]
  refine Fallible.writes_findAndUpdate_bind _ _ fun _ => Fallible.writes_of_silent ?_ _ _
  exact (silent_audited _ _).bind (Incidents.leaves_audited (fun _ _ => rfl) _ _)
    fun _ => silent_audited _ _

theorem writes_createMaintenance (input : Maintenances.CreateInput) (rt : Runtime)
    (db : Database) :
    Fallible.Writes collections (Operation.createMaintenance input).reads
      ((Operation.createMaintenance input).writes rt db) (Maintenances.create input rt) db := by
  dsimp only [Operation.reads, Operation.writes]
  unfold Maintenances.create
  cases parseRFC3339 input.startTime with
  | none => exact Fallible.writes_of_silent (Fallible.silent_throw _) _ _
  | some startTime =>
    cases parseRFC3339 input.endTime with
    | none => exact Fallible.writes_of_silent (Fallible.silent_throw _) _ _
    | some endTime =>
      cases objectIDFromHex input.creatorIDHex with
      | none => exact Fallible.writes_of_silent (Fallible.silent_throw _) _ _
      | some creatorID =>
        exact Fallible.writes_execIf_bind _ _ _
          (Fallible.writes_of_silent (silent_audited _ _) _ _)

theorem writes_updateMaintenance (id : ObjectID) (input : Maintenances.UpdateInput)
    (rt : Runtime) (db : Database) :
    Fallible.Writes collections (Operation.updateMaintenance id input).reads
      ((Operation.updateMaintenance id input).writes rt db)
      (Maintenances.update id input rt) db := by
  dsimp only [Operation.reads, Operation.writes]
  unfold Maintenances.update
  cases hstart : Maintenances.parseField input.startTime Maintenances.errInvalidStartTime with
  | error e => exact fun m db' hm => by cases hm
  | ok startTime =>
    cases hend : Maintenances.parseField input.endTime Maintenances.errInvalidEndTime with
    | error e => exact fun m db' hm => by cases hm
    | ok endTime =>
      rw [← Maintenances.parseField_eq_ok hstart, ← Maintenances.parseField_eq_ok hend]
      exact Fallible.writes_findAndUpdate_bind _ _ fun _ =>
        Fallible.writes_of_silent (silent_audited _ _) _ _

theorem writes_program (op : Operation) (rt : Runtime) (db : Database) :
    Fallible.Writes collections op.reads (op.writes rt db) (op.program rt) db := by
  cases op with
  | createIncident input => exact (writes_createIncident input rt db).bind_pure _
  | updateIncident id input => exact (writes_updateIncident id input rt db).bind_pure _
  | addUpdate incidentID message status =>
    exact (writes_addUpdate incidentID message status rt db).bind_pure _
  | deleteIncident incidentID => exact writes_deleteIncident incidentID rt db
  | resolveIncident incidentID => exact (writes_resolveIncident incidentID rt db).bind_pure _
  | createMaintenance input => exact (writes_createMaintenance input rt db).bind_pure _
  | updateMaintenance id input => exact (writes_updateMaintenance id input rt db).bind_pure _

/-- An operation that fails has changed nothing unless it fails after its first write, and
then the writes before the failed step stay. -/
theorem failedOperation_collections {op : Operation} {rt : Runtime} {db : Database}
    {fails : ℕ → Bool} {e : ServiceError} (h : (op.outcome rt db fails).result = .error e) :
    ((op.outcome rt db fails).steps ≤ op.reads + 1 →
        collections (op.outcome rt db fails).store = collections db) ∧
      collections (op.outcome rt db fails).store =
        collections (Library.Fallible.applied ((op.writes rt db).take
          ((op.outcome rt db fails).steps - 1 - op.reads)) db) := by
  have hwrites := (stops_program op rt).writes_of_error (writes_program op rt db) h
  refine ⟨fun hsteps => ?_, hwrites⟩
  unfold Operation.outcome at hsteps ⊢
  rw [hwrites, Nat.sub_eq_zero_of_le (by omega)]
  rfl

def unaudited : Operation :=
  .createIncident { title := "Outage", creatorIDHex := "0123456789abcdef01234567" }

def unauditedRuntime : Runtime := ⟨fun k => k, fun k => BitVec.ofNat 96 (k + 1)⟩

def unauditedOutcome : Outcome Database (Except ServiceError Unit) :=
  unaudited.outcome unauditedRuntime {} fun n => n = 1

theorem unauditedOutcome_result : unauditedOutcome.result = .error .store := by decide +kernel

theorem failedOperation_collections_unaudited :
    (unauditedOutcome.steps ≤ unaudited.reads + 1 →
        collections unauditedOutcome.store = collections {}) ∧
      collections unauditedOutcome.store =
        collections (Library.Fallible.applied ((unaudited.writes unauditedRuntime {}).take
          (unauditedOutcome.steps - 1 - unaudited.reads)) {}) :=
  failedOperation_collections unauditedOutcome_result

theorem unaudited_stored : ¬ ∀ (op : Operation) (rt : Runtime) (db : Database)
    (fails : ℕ → Bool) (e : ServiceError), (op.outcome rt db fails).result = .error e →
      collections (op.outcome rt db fails).store = collections db := by
  intro h
  have hsame := h unaudited unauditedRuntime {} (fun n => n = 1) .store unauditedOutcome_result
  have hstored : unauditedOutcome.store.incidents.docs.length = 1 := by decide +kernel
  have hincidents := congrArg Collections.incidents hsame
  change unauditedOutcome.store.incidents = Collection.empty at hincidents
  rw [hincidents] at hstored
  cases hstored

end Statora.Content
