import Statora.Incidents.Service
import Statora.Time

/-!
# The maintenance service

Create, update and delete a maintenance window. A window that is created after its
start is stored as active, and an update may store any status.
-/

namespace Statora.Maintenances
open Library (Fallible)
open Incidents (insertAuditLog derivePlainText plainDescription)

structure CreateInput where
  title : String
  description : String := ""
  descriptionJSON : RichTextDocument := none
  visibilityState : IncidentVisibilityState := .other ""
  components : List String := []
  startTime : String
  endTime : String
  creatorIDHex : String
  creatorUsername : String := ""

structure UpdateInput where
  title : String := ""
  description : String := ""
  descriptionJSON : RichTextDocument := none
  visibilityState : IncidentVisibilityState := .other ""
  status : MaintenanceStatus := .other ""
  startTime : String := ""
  endTime : String := ""

def errInvalidStartTime : ServiceError :=
  .invalidInput "invalid startTime format, use RFC3339"

def errInvalidEndTime : ServiceError := .invalidInput "invalid endTime format, use RFC3339"

def errNotFound : ServiceError := .notFound "maintenance not found"

def auditActionForMaintenance (status : MaintenanceStatus) : AuditAction :=
  if status = .draft then .draftSaved
  else if status = .scheduled || status = .active || status = .inProgress then .published
  else .edited

def insertMaintenance (maintenance : Maintenance) : Fallible Database ServiceError Unit :=
  Fallible.execIf .store .store (fun db => !db.maintenance.contains maintenance.id)
    fun db => { db with maintenance := db.maintenance.insertOne maintenance }

def updateMaintenance (id : ObjectID) (set : Maintenance → Maintenance)
    (hset : ∀ maintenance, (set maintenance).id = maintenance.id) (db : Database) : Database :=
  { db with maintenance := db.maintenance.updateByKey id set hset }

def deleteByID (id : ObjectID) : Fallible Database ServiceError Unit :=
  Fallible.execIf .store errNotFound (fun db => db.maintenance.contains id)
    fun db => { db with maintenance := db.maintenance.deleteByKey id }

def CreateInput.status (input : CreateInput) (startTime now : ℤ) : MaintenanceStatus :=
  if input.visibilityState = .draft then .draft
  else if now > startTime then .active
  else .scheduled

def CreateInput.maintenance (input : CreateInput) (startTime endTime : ℤ) (creatorID : ObjectID)
    (rt : Runtime) : Maintenance where
  id := rt.newID 0
  title := input.title
  description := plainDescription input.description input.descriptionJSON
  descriptionJSON := input.descriptionJSON
  creatorID := some creatorID
  creatorUsername := input.creatorUsername
  components := input.components.filterMap objectIDFromHex
  startTime := startTime
  endTime := endTime
  status := input.status startTime (rt.clock 0)
  updatedAt := rt.clock 1

def create (input : CreateInput) (rt : Runtime) : Fallible Database ServiceError Maintenance :=
  match parseRFC3339 input.startTime with
  | none => Fallible.throw errInvalidStartTime
  | some startTime =>
    match parseRFC3339 input.endTime with
    | none => Fallible.throw errInvalidEndTime
    | some endTime =>
      match objectIDFromHex input.creatorIDHex with
      | none => Fallible.throw (.unauthorized "invalid authenticated user id")
      | some creatorID => do
        let maintenance := input.maintenance startTime endTime creatorID rt
        insertMaintenance maintenance
        insertAuditLog {
          id := rt.newID 1
          resourceType := .maintenance
          resourceID := maintenance.id
          action := auditActionForMaintenance maintenance.status
          actorID := some creatorID
          actorUsername := input.creatorUsername
          at_ := rt.clock 2
          summary := "Maintenance created" }
        return maintenance

def UpdateInput.descriptionField (input : UpdateInput) : Option String :=
  let plain := if input.description ≠ "" then some input.description else none
  if input.descriptionJSON.isSome then
    let derived := derivePlainText input.descriptionJSON
    if derived ≠ "" then some derived else plain
  else plain

/-- The status field of an update. Publishing a window schedules it, unless the
request gives a status other than draft. -/
def UpdateInput.statusField (input : UpdateInput) : Option MaintenanceStatus :=
  let status := if input.status ≠ .other "" then some input.status else none
  let status := if input.visibilityState = .draft then some .draft else status
  if input.visibilityState = .published then
    if status = none || status = some .draft then some .scheduled else status
  else status

def parseField (text : String) (invalid : ServiceError) : Except ServiceError (Option ℤ) :=
  if text = "" then .ok none
  else (parseRFC3339 text).elim (.error invalid) fun t => .ok (some t)

def UpdateInput.setFields (input : UpdateInput) (startTime endTime : Option ℤ) (updatedAt : ℤ)
    (maintenance : Maintenance) : Maintenance :=
  { maintenance with
    title := if input.title ≠ "" then input.title else maintenance.title
    description := input.descriptionField.getD maintenance.description
    descriptionJSON := input.descriptionJSON.or maintenance.descriptionJSON
    status := input.statusField.getD maintenance.status
    startTime := startTime.getD maintenance.startTime
    endTime := endTime.getD maintenance.endTime
    updatedAt := updatedAt }

theorem UpdateInput.setFields_id (input : UpdateInput) (startTime endTime : Option ℤ)
    (updatedAt : ℤ) (maintenance : Maintenance) :
    (input.setFields startTime endTime updatedAt maintenance).id = maintenance.id := rfl

def update (id : ObjectID) (input : UpdateInput) (rt : Runtime) :
    Fallible Database ServiceError Maintenance :=
  match parseField input.startTime errInvalidStartTime with
  | .error e => Fallible.throw e
  | .ok startTime =>
    match parseField input.endTime errInvalidEndTime with
    | .error e => Fallible.throw e
    | .ok endTime => do
      let updated ← Fallible.findAndUpdate .store errNotFound
        (updateMaintenance id (input.setFields startTime endTime (rt.clock 0))
          (input.setFields_id startTime endTime _))
        fun db => db.maintenance.findByKey id
      insertAuditLog {
        id := rt.newID 0
        resourceType := .maintenance
        resourceID := id
        action := auditActionForMaintenance updated.status
        at_ := rt.clock 1
        summary := "Maintenance updated" }
      return updated

def delete (id : ObjectID) (rt : Runtime) : Fallible Database ServiceError Unit := do
  deleteByID id
  insertAuditLog {
    id := rt.newID 0
    resourceType := .maintenance
    resourceID := id
    action := .deleted
    at_ := rt.clock 0
    summary := "Maintenance deleted" }

end Statora.Maintenances
