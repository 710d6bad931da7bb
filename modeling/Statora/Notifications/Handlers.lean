import Statora.Incidents.Lifecycle
import Statora.Maintenance.StatusEdits
import Statora.Notifications.Dispatch

/-!
# The handlers of incidents and maintenance

A handler checks its request, calls the service, and announces what the service has
returned. The errors are those of the services with the same HTTP status.
-/

namespace Statora.Notifications
open Library (Fallible Collection)

inductive ContextValue
  | missing
  | text (value : String)
  | other
  deriving DecidableEq, Repr

def ContextValue.name : ContextValue → String
  | .text value => value
  | .missing | .other => ""

structure MaintenanceBody where
  title : String := ""
  description : String := ""
  descriptionJSON : RichTextDocument := none
  visibilityState : IncidentVisibilityState := .other ""
  components : List String := []
  startTime : String := ""
  endTime : String := ""

/-- The error of a required field. Its key has the name of the body's type, if any. -/
def requiredError (typeName field : String) : String :=
  "Key: '" ++ typeName ++ field ++ "' Error:Field validation for '" ++ field ++
    "' failed on the 'required' tag"

def bindJSON (typeName : String) (fields : List (String × Bool)) :
    Fallible Database ServiceError Unit :=
  let errors := (fields.filter (·.2)).map fun field => requiredError typeName field.1
  if errors = [] then pure () else Fallible.throw (.invalidInput ("\n".intercalate errors))

def authenticatedUser : ContextValue → Fallible Database ServiceError String
  | .missing => Fallible.throw (.unauthorized "missing authenticated user context")
  | .other => Fallible.throw (.unauthorized "invalid authenticated user context")
  | .text value => pure value

def paramID (rawID detail : String) : Fallible Database ServiceError ObjectID :=
  (objectIDFromHex rawID).elim (Fallible.throw (.invalidInput detail)) pure

def createInput (userIDHex : String) (username : ContextValue) (req : Incidents.RequestBody) :
    Incidents.CreateInput :=
  { toRequestBody := req, creatorIDHex := userIDHex, creatorUsername := username.name }

def maintenanceInput (userIDHex : String) (username : ContextValue) (req : MaintenanceBody) :
    Maintenances.CreateInput where
  title := req.title
  description := req.description
  descriptionJSON := req.descriptionJSON
  visibilityState := req.visibilityState
  components := req.components
  startTime := req.startTime
  endTime := req.endTime
  creatorIDHex := userIDHex
  creatorUsername := username.name

def createIncident (user username : ContextValue) (req : Incidents.RequestBody) (rt : Runtime) :
    Fallible Database ServiceError Announcement := do
  bindJSON "incidentRequestBody." [("Title", req.title = "")]
  let userIDHex ← authenticatedUser user
  let incident ← Incidents.create (createInput userIDHex username req) rt
  return {
    eventType := .incidentCreated
    data := .incident incident
    sentTo := [.webhook, .email, .broadcast] }

def updateIncident (rawID : String) (req : Incidents.RequestBody) (rt : Runtime) :
    Fallible Database ServiceError Announcement := do
  let id ← paramID rawID "invalid id"
  bindJSON "incidentRequestBody." [("Title", req.title = "")]
  let incident ← Incidents.update id req rt
  return {
    eventType := if incident.status = .resolved then .incidentResolved else .incidentUpdated
    data := .incident incident
    sentTo := [.webhook, .email, .broadcast] }

def resolveIncident (rawID : String) (rt : Runtime) :
    Fallible Database ServiceError Announcement := do
  let id ← paramID rawID "invalid id"
  let incident ← Incidents.resolve id rt
  return {
    eventType := .incidentResolved
    data := .incident incident
    sentTo := [.webhook, .email, .broadcast] }

def addIncidentUpdate (rawID message : String) (status : IncidentStatus) (rt : Runtime) :
    Fallible Database ServiceError Announcement := do
  let incidentID ← paramID rawID "invalid incident id"
  bindJSON "" [("Message", message = ""), ("Status", status = .other "")]
  let update ← Incidents.addUpdate incidentID message status rt
  return {
    eventType := .incidentUpdateAdded
    data := .incidentUpdate update
    sentTo := [.webhook, .broadcast] }

def createMaintenance (user username : ContextValue) (req : MaintenanceBody) (rt : Runtime) :
    Fallible Database ServiceError Announcement := do
  bindJSON "" [("Title", req.title = ""), ("StartTime", req.startTime = ""),
    ("EndTime", req.endTime = "")]
  let userIDHex ← authenticatedUser user
  let m ← Maintenances.create (maintenanceInput userIDHex username req) rt
  return {
    eventType := .maintenanceCreated
    data := .maintenance m
    sentTo := [.webhook, .email] }

def updateMaintenance (rawID : String) (req : Maintenances.UpdateInput) (rt : Runtime) :
    Fallible Database ServiceError Announcement := do
  let id ← paramID rawID "invalid id"
  let m ← Maintenances.update id req rt
  return {
    eventType := .maintenanceUpdated
    data := .maintenance m
    sentTo := [.webhook, .email] }

inductive Request
  | createIncident (user username : ContextValue) (req : Incidents.RequestBody)
  | updateIncident (rawID : String) (req : Incidents.RequestBody)
  | resolveIncident (rawID : String)
  | addIncidentUpdate (rawID message : String) (status : IncidentStatus)
  | createMaintenance (user username : ContextValue) (req : MaintenanceBody)
  | updateMaintenance (rawID : String) (req : Maintenances.UpdateInput)

def Request.handler (request : Request) (rt : Runtime) :
    Fallible Database ServiceError Announcement :=
  match request with
  | .createIncident user username req => Notifications.createIncident user username req rt
  | .updateIncident rawID req => Notifications.updateIncident rawID req rt
  | .resolveIncident rawID => Notifications.resolveIncident rawID rt
  | .addIncidentUpdate rawID message status =>
    Notifications.addIncidentUpdate rawID message status rt
  | .createMaintenance user username req => Notifications.createMaintenance user username req rt
  | .updateMaintenance rawID req => Notifications.updateMaintenance rawID req rt

section Services
variable {db : Database} {rt : Runtime}

@[simp] theorem returns_insertAuditLog {audit : AuditLog} {u : Unit} :
    Fallible.Returns (Incidents.insertAuditLog audit) db u ↔
      db.auditLogs.contains audit.id = false := by
  simp [Incidents.insertAuditLog]

theorem returns_written {α : Type} {guard : Database → Bool} {f : Database → Database}
    (hf : (f db).auditLogs = db.auditLogs) {audit : AuditLog} {a b : α} :
    Fallible.Returns (do
        Fallible.execIf ServiceError.store .store guard f
        Incidents.insertAuditLog audit
        return a) db b ↔
      guard db = true ∧ db.auditLogs.contains audit.id = false ∧ b = a := by
  simp only [Fallible.returns_bind, Fallible.returns_execIf, Fallible.run_execIf,
    returns_insertAuditLog, Fallible.returns_pure, exists_const]
  refine and_congr_right fun hguard => ?_
  rw [if_pos hguard, hf]

theorem returns_updated {α : Type} {missing : ServiceError} {f : Database → Database}
    {after : Database → Option α} (hf : (f db).auditLogs = db.auditLogs)
    {audit : α → AuditLog} {b : α} :
    Fallible.Returns (do
        let updated ← Fallible.findAndUpdate ServiceError.store missing f after
        Incidents.insertAuditLog (audit updated)
        return updated) db b ↔
      after (f db) = some b ∧ db.auditLogs.contains (audit b).id = false := by
  simp only [Fallible.returns_bind, Fallible.returns_findAndUpdate, Fallible.run_findAndUpdate,
    returns_insertAuditLog, Fallible.returns_pure, exists_const, hf]
  constructor
  · rintro ⟨updated, hafter, haudit, rfl⟩
    exact ⟨hafter, haudit⟩
  · rintro ⟨hafter, haudit⟩
    exact ⟨b, hafter, haudit, rfl⟩

theorem returns_create {input : Incidents.CreateInput} {incident : Incident} :
    Fallible.Returns (Incidents.create input rt) db incident ↔
      Incidents.createdIncident input rt db = some incident ∧
        db.incidents.contains (rt.newID 0) = false ∧
          db.auditLogs.contains (rt.newID 1) = false := by
  unfold Incidents.create Incidents.createdIncident
  cases objectIDFromHex input.creatorIDHex with
  | none => simp
  | some userID =>
    dsimp only [Option.bind]
    rcases input.normalized with e | ⟨compIDs, targets⟩
    · simp
    · have hvalidate := Incidents.run_validateIncidentTargets targets db
      dsimp only
      cases hexist : Incidents.targetsExist targets db with
      | false =>
        rw [hexist] at hvalidate
        simp [Fallible.not_returns_bind_of_error hvalidate]
      | true =>
        rw [hexist] at hvalidate
        rw [Fallible.returns_bind_of_ok hvalidate, Incidents.insertIncident, returns_written rfl,
          Bool.not_eq_true', if_pos rfl, Option.some.injEq]
        constructor
        · rintro ⟨hfresh, haudit, rfl⟩
          exact ⟨rfl, hfresh, haudit⟩
        · rintro ⟨rfl, hfresh, haudit⟩
          exact ⟨hfresh, haudit, rfl⟩

theorem returns_update {id : ObjectID} {input : Incidents.RequestBody} {incident : Incident} :
    Fallible.Returns (Incidents.update id input rt) db incident ↔
      ∃ targets stored, Incidents.checkedTargets input db = some targets ∧
        db.incidents.findByKey id = some stored ∧
          db.auditLogs.contains (rt.newID 0) = false ∧
            incident = input.setFields targets (rt.clock 0) (rt.clock 1) stored := by
  obtain ⟨e, htargets⟩ := Incidents.run_updatedTargets input db
  unfold Incidents.update
  cases hchecked : Incidents.checkedTargets input db with
  | none =>
    rw [hchecked] at htargets
    simp [Fallible.not_returns_bind_of_error htargets]
  | some targets =>
    rw [hchecked] at htargets
    rw [Fallible.returns_bind_of_ok htargets, returns_updated rfl]
    dsimp only [Incidents.updateIncident]
    rw [Collection.findByKey_updateByKey_self, Option.map_eq_some_iff]
    constructor
    · rintro ⟨⟨stored, hfound, rfl⟩, haudit⟩
      exact ⟨targets, stored, rfl, hfound, haudit, rfl⟩
    · rintro ⟨_, stored, ⟨⟩, hfound, haudit, rfl⟩
      exact ⟨⟨stored, hfound, rfl⟩, haudit⟩

theorem run_insertAuditLog_auditLogs (audit : AuditLog) (db : Database) :
    ((Incidents.insertAuditLog audit).run db).2.auditLogs = db.auditLogs.insertOne audit := by
  simp only [Incidents.insertAuditLog, Fallible.run_execIf]
  cases hfresh : db.auditLogs.contains audit.id with
  | true => simp [Collection.insertOne_of_contains hfresh]
  | false => simp

theorem contains_auditLogs_of_update {id : ObjectID} {input : Incidents.RequestBody}
    {incident : Incident} (h : Fallible.Returns (Incidents.update id input rt) db incident)
    (k : ObjectID) : ((Incidents.update id input rt).run db).2.auditLogs.contains k =
      (db.auditLogs.contains k || decide (rt.newID 0 = k)) := by
  obtain ⟨e, htargets⟩ := Incidents.run_updatedTargets input db
  obtain ⟨targets, stored, hchecked, hfound, -⟩ := returns_update.mp h
  rw [hchecked] at htargets
  unfold Incidents.update
  rw [Fallible.run_bind_of_ok htargets]
  have hupdated : (Incidents.updateIncident id (input.setFields targets (rt.clock 0) (rt.clock 1))
      (input.setFields_id targets _ _) db).incidents.findByKey id =
        some (input.setFields targets (rt.clock 0) (rt.clock 1) stored) := by
    unfold Incidents.updateIncident
    rw [Collection.findByKey_updateByKey_self, hfound, Option.map_some]
  rw [Fallible.run_bind_of_ok (by rw [Fallible.run_findAndUpdate, hupdated]; rfl),
    Fallible.run_bind_frame Database.auditLogs fun _ _ => rfl, run_insertAuditLog_auditLogs,
    Collection.contains_insertOne_eq]
  rfl

theorem returns_resolve {id : ObjectID} {incident : Incident} :
    Fallible.Returns (Incidents.resolve id rt) db incident ↔
      ∃ stored, db.incidents.findByKey id = some stored ∧
        db.auditLogs.contains (rt.newID 0) = false ∧
          db.auditLogs.contains (rt.newID 1) = false ∧ rt.newID 0 ≠ rt.newID 1 ∧
            incident = ({ status := .resolved } : Incidents.RequestBody).setFields none
              (rt.clock 0) (rt.clock 1) stored := by
  have hnone : Incidents.checkedTargets { status := .resolved } db = some none := rfl
  unfold Incidents.resolve
  simp only [Fallible.returns_bind, returns_insertAuditLog, Fallible.returns_pure, exists_const]
  constructor
  · rintro ⟨updated, hupdate, haudit, rfl⟩
    rw [contains_auditLogs_of_update hupdate, Bool.or_eq_false_iff, decide_eq_false_iff_not]
      at haudit
    obtain ⟨targets, stored, hchecked, hfound, hfirst, rfl⟩ := returns_update.mp hupdate
    obtain rfl : targets = none := Option.some.inj (hchecked.symm.trans hnone)
    exact ⟨stored, hfound, hfirst, haudit.1, haudit.2, rfl⟩
  · rintro ⟨stored, hfound, hfirst, hsecond, hne, rfl⟩
    have hupdate := returns_update.mpr ⟨none, stored, hnone, hfound, hfirst, rfl⟩
    refine ⟨_, hupdate, ?_, rfl⟩
    rw [contains_auditLogs_of_update hupdate, hsecond, Bool.false_or, decide_eq_false hne]

theorem returns_addUpdate {id : ObjectID} {message : String} {status : IncidentStatus}
    {update : IncidentUpdate} :
    Fallible.Returns (Incidents.addUpdate id message status rt) db update ↔
      db.incidents.contains id = true ∧ db.incidentUpdates.contains (rt.newID 0) = false ∧
        db.auditLogs.contains (rt.newID 1) = false ∧
          update = ⟨rt.newID 0, id, message, status, rt.clock 0⟩ := by
  unfold Incidents.addUpdate Incidents.findByID
  rw [Fallible.returns_bind]
  simp only [Fallible.returns_find, Fallible.run_find, exists_and_right,
    ← Option.isSome_iff_exists, Collection.findByKey_isSome]
  refine and_congr_right fun _ => ?_
  unfold Incidents.insertUpdate
  simp only [Fallible.returns_bind, Fallible.returns_execIf, Fallible.run_execIf,
    Fallible.returns_exec, Fallible.run_exec, returns_insertAuditLog, Fallible.returns_pure,
    exists_const, true_and, Bool.not_eq_true']
  refine and_congr_right fun hfresh => ?_
  simp only [hfresh, if_true]
  exact Iff.rfl

theorem returns_maintenanceCreate {input : Maintenances.CreateInput} {m : Maintenance} :
    Fallible.Returns (Maintenances.create input rt) db m ↔
      ∃ startTime endTime creatorID, parseRFC3339 input.startTime = some startTime ∧
        parseRFC3339 input.endTime = some endTime ∧
          objectIDFromHex input.creatorIDHex = some creatorID ∧
            db.maintenance.contains (rt.newID 0) = false ∧
              db.auditLogs.contains (rt.newID 1) = false ∧
                m = input.maintenance startTime endTime creatorID rt := by
  unfold Maintenances.create
  cases parseRFC3339 input.startTime with
  | none => simp
  | some startTime =>
    cases parseRFC3339 input.endTime with
    | none => simp
    | some endTime =>
      cases objectIDFromHex input.creatorIDHex with
      | none => simp
      | some creatorID =>
        dsimp only
        rw [Maintenances.insertMaintenance, returns_written rfl, Bool.not_eq_true']
        constructor
        · rintro ⟨hfresh, haudit, hm⟩
          exact ⟨startTime, endTime, creatorID, rfl, rfl, rfl, hfresh, haudit, hm⟩
        · rintro ⟨_, _, _, ⟨⟩, ⟨⟩, ⟨⟩, hfresh, haudit, hm⟩
          exact ⟨hfresh, haudit, hm⟩

theorem returns_maintenanceUpdate {id : ObjectID} {input : Maintenances.UpdateInput}
    {m : Maintenance} :
    Fallible.Returns (Maintenances.update id input rt) db m ↔
      input.Accepted ∧ ∃ stored, db.maintenance.findByKey id = some stored ∧
        db.auditLogs.contains (rt.newID 0) = false ∧
          m = input.setFields (parseRFC3339 input.startTime) (parseRFC3339 input.endTime)
            (rt.clock 0) stored := by
  unfold Maintenances.update Maintenances.UpdateInput.Accepted
  cases hstart : Maintenances.parseField input.startTime Maintenances.errInvalidStartTime with
  | error e => simp [Except.isOk, Except.toBool]
  | ok startTime =>
    cases hend : Maintenances.parseField input.endTime Maintenances.errInvalidEndTime with
    | error e => simp [Except.isOk, Except.toBool]
    | ok endTime =>
      dsimp only
      rw [Maintenances.parseField_eq_ok hstart, Maintenances.parseField_eq_ok hend,
        returns_updated rfl]
      dsimp only [Maintenances.updateMaintenance]
      rw [Collection.findByKey_updateByKey_self, Option.map_eq_some_iff]
      constructor
      · rintro ⟨⟨stored, hfound, rfl⟩, haudit⟩
        exact ⟨⟨rfl, rfl⟩, stored, hfound, haudit, rfl⟩
      · rintro ⟨-, stored, hfound, haudit, rfl⟩
        exact ⟨⟨stored, hfound, rfl⟩, haudit⟩

end Services

def Request.subject (rt : Runtime) : Request → Option ObjectID
  | .createIncident _ _ _ | .createMaintenance _ _ _ => some (rt.newID 0)
  | .updateIncident rawID _ | .resolveIncident rawID | .addIncidentUpdate rawID _ _
  | .updateMaintenance rawID _ => objectIDFromHex rawID

/-- The request passes its checks, and its document is written. -/
def Request.Written (db : Database) (rt : Runtime) : Request → Prop
  | .createIncident user username req => req.title ≠ "" ∧ ∃ userIDHex, user = .text userIDHex ∧
      (Incidents.createdIncident (createInput userIDHex username req) rt db).isSome = true ∧
        db.incidents.contains (rt.newID 0) = false
  | .updateIncident rawID req => req.title ≠ "" ∧
      (Incidents.checkedTargets req db).isSome = true ∧
        ∃ id, objectIDFromHex rawID = some id ∧ db.incidents.contains id = true
  | .resolveIncident rawID => ∃ id, objectIDFromHex rawID = some id ∧
      db.incidents.contains id = true
  | .addIncidentUpdate rawID message status => message ≠ "" ∧ status ≠ .other "" ∧
      db.incidentUpdates.contains (rt.newID 0) = false ∧
        ∃ id, objectIDFromHex rawID = some id ∧ db.incidents.contains id = true
  | .createMaintenance user _ req => req.title ≠ "" ∧ req.startTime ≠ "" ∧ req.endTime ≠ "" ∧
      (∃ userIDHex, user = .text userIDHex ∧ (objectIDFromHex userIDHex).isSome = true) ∧
        (parseRFC3339 req.startTime).isSome = true ∧ (parseRFC3339 req.endTime).isSome = true ∧
          db.maintenance.contains (rt.newID 0) = false
  | .updateMaintenance rawID req => req.Accepted ∧
      ∃ id, objectIDFromHex rawID = some id ∧ db.maintenance.contains id = true

def Request.Audited (db : Database) (rt : Runtime) : Request → Prop
  | .createIncident _ _ _ | .addIncidentUpdate _ _ _ | .createMaintenance _ _ _ =>
    db.auditLogs.contains (rt.newID 1) = false
  | .updateIncident _ _ | .updateMaintenance _ _ => db.auditLogs.contains (rt.newID 0) = false
  | .resolveIncident _ => db.auditLogs.contains (rt.newID 0) = false ∧
      db.auditLogs.contains (rt.newID 1) = false ∧ rt.newID 0 ≠ rt.newID 1

def Request.statusAfter (stored : IncidentStatus) : Request → IncidentStatus
  | .updateIncident _ req => if req.status ≠ .other "" then req.status else stored
  | .resolveIncident _ => .resolved
  | .addIncidentUpdate _ _ status => status
  | .createIncident _ _ _ | .createMaintenance _ _ _ | .updateMaintenance _ _ => stored

def Request.storedIncident (db : Database) (rt : Runtime) (request : Request) : Option Incident :=
  (request.subject rt).bind db.incidents.findByKey

def Request.event (db : Database) (rt : Runtime) (request : Request) : EventType :=
  match request with
  | .createIncident _ _ _ => .incidentCreated
  | .updateIncident _ _ =>
    if (request.storedIncident db rt).any (fun stored =>
        request.statusAfter stored.status = .resolved) then .incidentResolved
    else .incidentUpdated
  | .resolveIncident _ => .incidentResolved
  | .addIncidentUpdate _ _ _ => .incidentUpdateAdded
  | .createMaintenance _ _ _ => .maintenanceCreated
  | .updateMaintenance _ _ => .maintenanceUpdated

def Request.sentTo : Request → List Outlet
  | .createIncident _ _ _ | .updateIncident _ _ | .resolveIncident _ =>
    [.webhook, .email, .broadcast]
  | .addIncidentUpdate _ _ _ => [.webhook, .broadcast]
  | .createMaintenance _ _ _ | .updateMaintenance _ _ => [.webhook, .email]

def Payload.incidentID : Payload → Option ObjectID
  | .incident i => some i.id
  | .incidentUpdate u => some u.incidentID
  | .maintenance _ => none

structure Request.Announces (db : Database) (rt : Runtime) (request : Request)
    (a : Announcement) : Prop where
  eventType : a.eventType = request.event db rt
  sentTo : a.sentTo = request.sentTo
  carries : a.eventType.carries a.data = true
  incident : ∀ id, a.data.incidentID = some id → request.subject rt = some id

section Handlers
variable {db : Database} {rt : Runtime}

@[simp] theorem returns_bindJSON {typeName : String} {fields : List (String × Bool)} {u : Unit} :
    Fallible.Returns (bindJSON typeName fields) db u ↔ ∀ field ∈ fields, field.2 = false := by
  unfold bindJSON
  dsimp only
  split_ifs with herrors
  · simpa using herrors
  · simpa using herrors

@[simp] theorem returns_authenticatedUser {user : ContextValue} {value : String} :
    Fallible.Returns (authenticatedUser user) db value ↔ user = .text value := by
  cases user <;> simp [authenticatedUser, eq_comm]

@[simp] theorem returns_paramID {rawID detail : String} {id : ObjectID} :
    Fallible.Returns (paramID rawID detail) db id ↔ objectIDFromHex rawID = some id := by
  unfold paramID
  cases objectIDFromHex rawID <;> simp [eq_comm]

@[simp] theorem run_bindJSON_snd (typeName : String) (fields : List (String × Bool)) :
    ((bindJSON typeName fields).run db).2 = db := by
  unfold bindJSON
  dsimp only
  split_ifs <;> rfl

@[simp] theorem run_authenticatedUser_snd (user : ContextValue) :
    ((authenticatedUser user).run db).2 = db := by
  cases user <;> rfl

@[simp] theorem run_paramID_snd (rawID detail : String) :
    ((paramID rawID detail).run db).2 = db := by
  unfold paramID
  cases objectIDFromHex rawID <;> rfl

theorem returns_createIncident {user username : ContextValue} {req : Incidents.RequestBody}
    {a : Announcement} : Fallible.Returns (createIncident user username req rt) db a ↔
      req.title ≠ "" ∧ ∃ userIDHex, user = .text userIDHex ∧ ∃ incident,
        (Incidents.createdIncident (createInput userIDHex username req) rt db = some incident ∧
          db.incidents.contains (rt.newID 0) = false ∧
            db.auditLogs.contains (rt.newID 1) = false) ∧
          a = ⟨.incidentCreated, .incident incident, [.webhook, .email, .broadcast]⟩ := by
  simp [createIncident, Fallible.returns_bind, returns_create]

theorem returns_updateIncident {rawID : String} {req : Incidents.RequestBody}
    {a : Announcement} : Fallible.Returns (updateIncident rawID req rt) db a ↔
      ∃ id, objectIDFromHex rawID = some id ∧ req.title ≠ "" ∧ ∃ incident,
        (∃ targets stored, Incidents.checkedTargets req db = some targets ∧
          db.incidents.findByKey id = some stored ∧
            db.auditLogs.contains (rt.newID 0) = false ∧
              incident = req.setFields targets (rt.clock 0) (rt.clock 1) stored) ∧
          a = ⟨if incident.status = .resolved then .incidentResolved else .incidentUpdated,
            .incident incident, [.webhook, .email, .broadcast]⟩ := by
  simp only [updateIncident, Fallible.returns_bind, returns_update, returns_paramID,
    returns_bindJSON, run_paramID_snd, run_bindJSON_snd, Fallible.returns_pure]
  simp

theorem returns_resolveIncident {rawID : String} {a : Announcement} :
    Fallible.Returns (resolveIncident rawID rt) db a ↔
      ∃ id, objectIDFromHex rawID = some id ∧ ∃ incident,
        (∃ stored, db.incidents.findByKey id = some stored ∧
          db.auditLogs.contains (rt.newID 0) = false ∧
            db.auditLogs.contains (rt.newID 1) = false ∧ rt.newID 0 ≠ rt.newID 1 ∧
              incident = ({ status := .resolved } : Incidents.RequestBody).setFields none
                (rt.clock 0) (rt.clock 1) stored) ∧
          a = ⟨.incidentResolved, .incident incident, [.webhook, .email, .broadcast]⟩ := by
  simp only [resolveIncident, Fallible.returns_bind, returns_resolve, returns_paramID,
    run_paramID_snd, Fallible.returns_pure]

theorem returns_addIncidentUpdate {rawID message : String} {status : IncidentStatus}
    {a : Announcement} : Fallible.Returns (addIncidentUpdate rawID message status rt) db a ↔
      ∃ id, objectIDFromHex rawID = some id ∧ message ≠ "" ∧ status ≠ .other "" ∧
        db.incidents.contains id = true ∧ db.incidentUpdates.contains (rt.newID 0) = false ∧
          db.auditLogs.contains (rt.newID 1) = false ∧
            a = ⟨.incidentUpdateAdded,
              .incidentUpdate ⟨rt.newID 0, id, message, status, rt.clock 0⟩,
              [.webhook, .broadcast]⟩ := by
  simp only [addIncidentUpdate, Fallible.returns_bind, returns_addUpdate, returns_paramID,
    returns_bindJSON, run_paramID_snd, run_bindJSON_snd, Fallible.returns_pure]
  simp [and_assoc]

theorem returns_createMaintenance {user username : ContextValue} {req : MaintenanceBody}
    {a : Announcement} : Fallible.Returns (createMaintenance user username req rt) db a ↔
      (req.title ≠ "" ∧ req.startTime ≠ "" ∧ req.endTime ≠ "") ∧
        ∃ userIDHex, user = .text userIDHex ∧ ∃ m,
          (∃ startTime endTime creatorID, parseRFC3339 req.startTime = some startTime ∧
            parseRFC3339 req.endTime = some endTime ∧
              objectIDFromHex userIDHex = some creatorID ∧
                db.maintenance.contains (rt.newID 0) = false ∧
                  db.auditLogs.contains (rt.newID 1) = false ∧
                    m = (maintenanceInput userIDHex username req).maintenance startTime endTime
                      creatorID rt) ∧
            a = ⟨.maintenanceCreated, .maintenance m, [.webhook, .email]⟩ := by
  simp only [createMaintenance, Fallible.returns_bind, returns_maintenanceCreate,
    returns_authenticatedUser, returns_bindJSON, run_authenticatedUser_snd, run_bindJSON_snd,
    Fallible.returns_pure]
  simp [maintenanceInput]

theorem returns_updateMaintenance {rawID : String} {req : Maintenances.UpdateInput}
    {a : Announcement} : Fallible.Returns (updateMaintenance rawID req rt) db a ↔
      ∃ id, objectIDFromHex rawID = some id ∧ ∃ m,
        (req.Accepted ∧ ∃ stored, db.maintenance.findByKey id = some stored ∧
          db.auditLogs.contains (rt.newID 0) = false ∧
            m = req.setFields (parseRFC3339 req.startTime) (parseRFC3339 req.endTime)
              (rt.clock 0) stored) ∧
          a = ⟨.maintenanceUpdated, .maintenance m, [.webhook, .email]⟩ := by
  simp only [updateMaintenance, Fallible.returns_bind, returns_maintenanceUpdate,
    returns_paramID, run_paramID_snd, Fallible.returns_pure]

theorem contains_of_found {α : Type} [Library.Keyed α ObjectID] {c : Collection α}
    {id : ObjectID} {a : α} (h : c.findByKey id = some a) : c.contains id = true := by
  rw [← Collection.findByKey_isSome, h, Option.isSome_some]

theorem announces_of_returns {request : Request} {a : Announcement}
    (h : Fallible.Returns (request.handler rt) db a) :
    request.Written db rt ∧ request.Audited db rt ∧ request.Announces db rt a := by
  cases request with
  | createIncident user username req =>
    obtain ⟨htitle, userIDHex, rfl, incident, ⟨hcreated, hfresh, haudit⟩, rfl⟩ :=
      returns_createIncident.mp h
    refine ⟨⟨htitle, userIDHex, rfl, by rw [hcreated]; rfl, hfresh⟩, haudit, rfl, rfl, rfl, ?_⟩
    obtain ⟨userID, compIDs, targets, rfl⟩ := Incidents.createdIncident_eq_some hcreated
    rintro _ ⟨⟩
    rfl
  | updateIncident rawID req =>
    obtain ⟨id, hid, htitle, incident, ⟨targets, stored, hchecked, hfound, haudit, rfl⟩, rfl⟩ :=
      returns_updateIncident.mp h
    refine ⟨⟨htitle, by rw [hchecked]; rfl, id, hid, contains_of_found hfound⟩, haudit, ?_, rfl,
      ?_, ?_⟩
    · have hstored : (Request.updateIncident rawID req).storedIncident db rt = some stored := by
        rw [Request.storedIncident, Request.subject, hid, Option.bind_some, hfound]
      rw [Request.event, hstored]
      simp [Request.statusAfter, Incidents.RequestBody.setFields]
    · dsimp only
      split_ifs <;> rfl
    · rintro _ ⟨⟩
      rw [Request.subject, hid]
      exact congrArg some (Collection.mem_of_findByKey hfound).2.symm
  | resolveIncident rawID =>
    obtain ⟨id, hid, incident, ⟨stored, hfound, hfirst, hsecond, hne, rfl⟩, rfl⟩ :=
      returns_resolveIncident.mp h
    refine ⟨⟨id, hid, contains_of_found hfound⟩, ⟨hfirst, hsecond, hne⟩, rfl, rfl, rfl, ?_⟩
    rintro _ ⟨⟩
    rw [Request.subject, hid]
    exact congrArg some (Collection.mem_of_findByKey hfound).2.symm
  | addIncidentUpdate rawID message status =>
    obtain ⟨id, hid, hmessage, hstatus, hstored, hfresh, haudit, rfl⟩ :=
      returns_addIncidentUpdate.mp h
    refine ⟨⟨hmessage, hstatus, hfresh, id, hid, hstored⟩, haudit, rfl, rfl, rfl, ?_⟩
    rintro _ ⟨⟩
    exact hid
  | createMaintenance user username req =>
    obtain ⟨⟨htitle, hstart, hend⟩, userIDHex, rfl, m, ⟨startTime, endTime, creatorID,
      hstartTime, hendTime, hcreator, hfresh, haudit, rfl⟩, rfl⟩ :=
      returns_createMaintenance.mp h
    refine ⟨⟨htitle, hstart, hend, ⟨userIDHex, rfl, by rw [hcreator]; rfl⟩,
      by rw [hstartTime]; rfl, by rw [hendTime]; rfl, hfresh⟩, haudit, rfl, rfl, rfl, ?_⟩
    rintro _ ⟨⟩
  | updateMaintenance rawID req =>
    obtain ⟨id, hid, m, ⟨haccepted, stored, hfound, haudit, rfl⟩, rfl⟩ :=
      returns_updateMaintenance.mp h
    refine ⟨⟨haccepted, id, hid, contains_of_found hfound⟩, haudit, rfl, rfl, rfl, ?_⟩
    rintro _ ⟨⟩

theorem exists_found {α : Type} [Library.Keyed α ObjectID] {c : Collection α} {id : ObjectID}
    (h : c.contains id = true) : ∃ a, c.findByKey id = some a := by
  rwa [← Collection.findByKey_isSome, Option.isSome_iff_exists] at h

theorem returns_of_written {request : Request} (h : request.Written db rt)
    (haudit : request.Audited db rt) : ∃ a, Fallible.Returns (request.handler rt) db a := by
  cases request with
  | createIncident user username req =>
    obtain ⟨htitle, userIDHex, rfl, hcreated, hfresh⟩ := h
    obtain ⟨incident, hcreated⟩ := Option.isSome_iff_exists.mp hcreated
    exact ⟨_, returns_createIncident.mpr
      ⟨htitle, userIDHex, rfl, incident, ⟨hcreated, hfresh, haudit⟩, rfl⟩⟩
  | updateIncident rawID req =>
    obtain ⟨htitle, hchecked, id, hid, hstored⟩ := h
    obtain ⟨targets, hchecked⟩ := Option.isSome_iff_exists.mp hchecked
    obtain ⟨stored, hfound⟩ := exists_found hstored
    exact ⟨_, returns_updateIncident.mpr
      ⟨id, hid, htitle, _, ⟨targets, stored, hchecked, hfound, haudit, rfl⟩, rfl⟩⟩
  | resolveIncident rawID =>
    obtain ⟨id, hid, hstored⟩ := h
    obtain ⟨stored, hfound⟩ := exists_found hstored
    obtain ⟨hfirst, hsecond, hne⟩ := haudit
    exact ⟨_, returns_resolveIncident.mpr
      ⟨id, hid, _, ⟨stored, hfound, hfirst, hsecond, hne, rfl⟩, rfl⟩⟩
  | addIncidentUpdate rawID message status =>
    obtain ⟨hmessage, hstatus, hfresh, id, hid, hstored⟩ := h
    exact ⟨_, returns_addIncidentUpdate.mpr
      ⟨id, hid, hmessage, hstatus, hstored, hfresh, haudit, rfl⟩⟩
  | createMaintenance user username req =>
    obtain ⟨htitle, hstart, hend, ⟨userIDHex, rfl, hcreator⟩, hstartTime, hendTime, hfresh⟩ := h
    obtain ⟨startTime, hstartTime⟩ := Option.isSome_iff_exists.mp hstartTime
    obtain ⟨endTime, hendTime⟩ := Option.isSome_iff_exists.mp hendTime
    obtain ⟨creatorID, hcreator⟩ := Option.isSome_iff_exists.mp hcreator
    exact ⟨_, returns_createMaintenance.mpr ⟨⟨htitle, hstart, hend⟩, userIDHex, rfl, _,
      ⟨startTime, endTime, creatorID, hstartTime, hendTime, hcreator, hfresh, haudit, rfl⟩, rfl⟩⟩
  | updateMaintenance rawID req =>
    obtain ⟨haccepted, id, hid, hstored⟩ := h
    obtain ⟨stored, hfound⟩ := exists_found hstored
    exact ⟨_, returns_updateMaintenance.mpr
      ⟨id, hid, _, ⟨haccepted, stored, hfound, haudit, rfl⟩, rfl⟩⟩

end Handlers
end Statora.Notifications
