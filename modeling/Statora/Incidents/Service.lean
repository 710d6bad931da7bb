import Statora.Domain
import Statora.Library.SortSlice
import Statora.Library.StoreProgram

/-!
# The incident service

The operations that administrators call: create, update, add an update, resolve
and delete. Every operation ends in the incident or in an error, and writes an
audit log after it has changed the incident.
-/

namespace Statora.Incidents
open Library (sortSlice Fallible)

structure AffectedComponentInput where
  componentID : String
  subComponentIDs : List String := []

structure RequestBody where
  title : String := ""
  description : String := ""
  descriptionJSON : RichTextDocument := none
  visibilityState : IncidentVisibilityState := .other ""
  status : IncidentStatus := .other ""
  impact : IncidentImpact := .other ""
  affectedComponents : List String := []
  components : List String := []
  affectedComponentTargets : List AffectedComponentInput := []
  affectedComponentsNew : List AffectedComponentInput := []

structure CreateInput extends RequestBody where
  creatorIDHex : String
  creatorUsername : String := ""

def textOf (fields : List (String × JSONValue)) : List String :=
  match fields.lookup "text" with
  | some (.string text) => [text]
  | _ => []

mutual

def flattenRichTextNode : JSONValue → List String
  | .object fields => textOf fields ++ flattenContent fields
  | _ => []

def flattenContent : List (String × JSONValue) → List String
  | [] => []
  | (name, value) :: fields =>
    if name = "content" then flattenArray value else flattenContent fields

def flattenArray : JSONValue → List String
  | .array items => flattenNodes items
  | _ => []

def flattenNodes : List JSONValue → List String
  | [] => []
  | node :: nodes => flattenRichTextNode node ++ flattenNodes nodes

end

def derivePlainText (document : RichTextDocument) : String :=
  trimSpace ("\n".intercalate (flattenContent (document.getD [])))

inductive TargetError
  | invalidPayload
  | invalidHex
  | noDocuments
  deriving DecidableEq, Repr

def parseObjectID (raw : String) : Except TargetError ObjectID :=
  (objectIDFromHex raw).elim (.error .invalidHex) .ok

/-- Components in order of first mention, each with its sub-components. -/
def mergeTarget (bucket : List IncidentAffectedComponent) (componentID : ObjectID)
    (subIDs : List ObjectID) : List IncidentAffectedComponent :=
  let bucket := if bucket.any (·.componentID = componentID) then bucket
    else bucket ++ [⟨componentID, []⟩]
  bucket.map fun target =>
    if target.componentID = componentID then
      { target with subComponentIDs := dedupeObjectIDs (target.subComponentIDs ++ subIDs) }
    else target

def mergeInput (bucket : List IncidentAffectedComponent) (input : AffectedComponentInput) :
    Except TargetError (List IncidentAffectedComponent) := do
  if input.componentID = "" then throw .invalidPayload
  let componentID ← parseObjectID input.componentID
  let subIDs ← input.subComponentIDs.mapM parseObjectID
  return mergeTarget bucket componentID subIDs

def mergeLegacy (bucket : List IncidentAffectedComponent) (rawID : String) :
    Except TargetError (List IncidentAffectedComponent) := do
  let componentID ← parseObjectID rawID
  return mergeTarget bucket componentID []

/-- Ids have equally long hexadecimal texts, which compare like the numbers. -/
def sortByHex (ids : List ObjectID) : List ObjectID :=
  sortSlice (fun a b => decide (a.toNat < b.toNat)) ids

def normalizeIncidentTargets (targets : List AffectedComponentInput)
    (legacy legacyAlias : List String) (allowEmpty : Bool) :
    Except TargetError (List ObjectID × List IncidentAffectedComponent) := do
  let bucket ← targets.foldlM mergeInput []
  let bucket ← (legacy ++ legacyAlias).foldlM mergeLegacy bucket
  let normalizedTargets := bucket.map fun target =>
    { target with subComponentIDs := sortByHex target.subComponentIDs }
  let componentIDs := dedupeObjectIDs (bucket.map (·.componentID))
  if !allowEmpty && componentIDs.length = 0 then throw .noDocuments
  return (componentIDs, normalizedTargets)

def RequestBody.normalized (input : RequestBody) :
    Except TargetError (List ObjectID × List IncidentAffectedComponent) :=
  normalizeIncidentTargets (input.affectedComponentTargets ++ input.affectedComponentsNew)
    input.affectedComponents input.components true

def errInvalidPayload : ServiceError := .invalidInput "invalid affected components payload"

def errInvalidReference : ServiceError :=
  .invalidInput "one or more affected components or subcomponents are invalid"

def errNotFound : ServiceError := .notFound "incident not found"

def countComponents (ids : List ObjectID) (db : Database) : ℕ :=
  db.components.countDocuments (fun component => component.id ∈ ids)

def countSubComponentsByComponent (componentID : ObjectID) (ids : List ObjectID)
    (db : Database) : ℕ :=
  db.subcomponents.countDocuments fun sub => sub.id ∈ ids && sub.componentID = componentID

def validateSubComponents : List IncidentAffectedComponent → Fallible Database ServiceError Unit
  | [] => pure ()
  | target :: targets =>
    if target.subComponentIDs = [] then validateSubComponents targets
    else do
      let subCount ← Fallible.query .store
        (countSubComponentsByComponent target.componentID target.subComponentIDs)
      if subCount ≠ (dedupeObjectIDs target.subComponentIDs).length then
        Fallible.throw errInvalidReference
      else validateSubComponents targets

def validateIncidentTargets (targets : List IncidentAffectedComponent) :
    Fallible Database ServiceError Unit :=
  if targets = [] then pure ()
  else do
    let componentIDs := targets.map (·.componentID)
    let componentCount ← Fallible.query .store (countComponents componentIDs)
    if componentCount ≠ (dedupeObjectIDs componentIDs).length then
      Fallible.throw errInvalidReference
    else validateSubComponents targets

def insertIncident (incident : Incident) : Fallible Database ServiceError Unit :=
  Fallible.execIf .store .store (fun db => !db.incidents.contains incident.id)
    fun db => { db with incidents := db.incidents.insertOne incident }

def insertUpdate (update : IncidentUpdate) : Fallible Database ServiceError Unit :=
  Fallible.execIf .store .store (fun db => !db.incidentUpdates.contains update.id)
    fun db => { db with incidentUpdates := db.incidentUpdates.insertOne update }

def insertAuditLog (audit : AuditLog) : Fallible Database ServiceError Unit :=
  Fallible.execIf .store .store (fun db => !db.auditLogs.contains audit.id)
    fun db => { db with auditLogs := db.auditLogs.insertOne audit }

theorem leaves_insertAuditLog {τ : Type} {proj : Database → τ}
    (hproj : ∀ db auditLogs, proj { db with auditLogs := auditLogs } = proj db)
    (audit : AuditLog) : (insertAuditLog audit).Leaves proj :=
  Fallible.leaves_execIf _ _ _ fun db => hproj db _

theorem leaves_audited {τ α : Type} {proj : Database → τ}
    (hproj : ∀ db auditLogs, proj { db with auditLogs := auditLogs } = proj db)
    (audit : AuditLog) (a : α) :
    (do insertAuditLog audit; return a : Fallible Database ServiceError α).Leaves proj :=
  (leaves_insertAuditLog hproj audit).bind fun _ => Fallible.leaves_pure a

def findByID (id : ObjectID) : Fallible Database ServiceError Incident :=
  Fallible.find .store errNotFound fun db => db.incidents.findByKey id

def updateIncident (id : ObjectID) (set : Incident → Incident)
    (hset : ∀ incident, (set incident).id = incident.id) (db : Database) : Database :=
  { db with incidents := db.incidents.updateByKey id set hset }

def deleteIncidentByID (id : ObjectID) : Fallible Database ServiceError Unit := do
  Fallible.execIf .store errNotFound (fun db => db.incidents.contains id)
    fun db => { db with incidents := db.incidents.deleteByKey id }
  Fallible.exec .store fun db =>
    { db with incidentUpdates := db.incidentUpdates.deleteMany (·.incidentID = id) }

def auditActionForVisibility (visibility : IncidentVisibilityState) (fallback : AuditAction) :
    AuditAction :=
  if visibility = .draft then .draftSaved
  else if visibility = .published then .published
  else fallback

def plainDescription (description : String) (document : RichTextDocument) : String :=
  let derived := derivePlainText document
  if derived ≠ "" then derived else description

def CreateInput.incident (input : CreateInput) (userID : ObjectID) (compIDs : List ObjectID)
    (targets : List IncidentAffectedComponent) (rt : Runtime) : Incident where
  id := rt.newID 0
  title := input.title
  description := plainDescription input.description input.descriptionJSON
  descriptionJSON := input.descriptionJSON
  visibilityState := if input.visibilityState = .other "" then .published
    else input.visibilityState
  status := if input.status = .other "" then .investigating else input.status
  impact := if input.impact = .other "" then .minor else input.impact
  creatorID := some userID
  creatorUsername := input.creatorUsername
  affectedComponents := compIDs
  affectedComponentTargets := targets
  createdAt := rt.clock 0
  updatedAt := rt.clock 0

def create (input : CreateInput) (rt : Runtime) : Fallible Database ServiceError Incident :=
  match objectIDFromHex input.creatorIDHex with
  | none => Fallible.throw (.unauthorized "invalid authenticated user id")
  | some userID =>
    match input.normalized with
    | .error _ => Fallible.throw errInvalidPayload
    | .ok (compIDs, targets) => do
      validateIncidentTargets targets
      let incident := input.incident userID compIDs targets rt
      insertIncident incident
      insertAuditLog {
        id := rt.newID 1
        resourceType := .incident
        resourceID := incident.id
        action := auditActionForVisibility incident.visibilityState .created
        actorID := some userID
        actorUsername := input.creatorUsername
        at_ := rt.clock 0
        summary := "Incident created" }
      return incident

/-- The description field of an update, absent when neither text is given. -/
def RequestBody.descriptionField (input : RequestBody) : Option String :=
  let plain := if input.description ≠ "" then some input.description else none
  if input.descriptionJSON.isSome then
    let derived := derivePlainText input.descriptionJSON
    if derived ≠ "" then some derived else plain
  else plain

def RequestBody.hasTargetPayload (input : RequestBody) : Bool :=
  input.affectedComponentTargets.length > 0 || input.affectedComponentsNew.length > 0 ||
    input.affectedComponents.length > 0 || input.components.length > 0

/-- The `$set` document. A field that the request leaves empty keeps its value. -/
def RequestBody.setFields (input : RequestBody)
    (targets : Option (List ObjectID × List IncidentAffectedComponent)) (updatedAt now : ℤ)
    (incident : Incident) : Incident :=
  { incident with
    updatedAt := updatedAt
    title := if input.title ≠ "" then input.title else incident.title
    description := input.descriptionField.getD incident.description
    descriptionJSON := input.descriptionJSON.or incident.descriptionJSON
    visibilityState := if input.visibilityState ≠ .other "" then input.visibilityState
      else incident.visibilityState
    status := if input.status ≠ .other "" then input.status else incident.status
    resolvedAt := if input.status = .resolved then some now else incident.resolvedAt
    impact := if input.impact ≠ .other "" then input.impact else incident.impact
    affectedComponents := targets.elim incident.affectedComponents (·.1)
    affectedComponentTargets := targets.elim incident.affectedComponentTargets (·.2) }

theorem RequestBody.setFields_id (input : RequestBody)
    (targets : Option (List ObjectID × List IncidentAffectedComponent)) (updatedAt now : ℤ)
    (incident : Incident) : (input.setFields targets updatedAt now incident).id = incident.id :=
  rfl

def updatedTargets (input : RequestBody) : Fallible Database ServiceError
    (Option (List ObjectID × List IncidentAffectedComponent)) :=
  if input.hasTargetPayload then
    match input.normalized with
    | .error _ => Fallible.throw errInvalidPayload
    | .ok (compIDs, targets) => do
      validateIncidentTargets targets
      return some (compIDs, targets)
  else return none

def update (id : ObjectID) (input : RequestBody) (rt : Runtime) :
    Fallible Database ServiceError Incident := do
  let targets ← updatedTargets input
  let incident ← Fallible.findAndUpdate .store errNotFound
    (updateIncident id (input.setFields targets (rt.clock 0) (rt.clock 1))
      (input.setFields_id targets _ _))
    fun db => db.incidents.findByKey id
  insertAuditLog {
    id := rt.newID 0
    resourceType := .incident
    resourceID := id
    action := auditActionForVisibility input.visibilityState .edited
    at_ := rt.clock 2
    summary := "Incident updated" }
  return incident

def applyIncidentStatus (status : IncidentStatus) (updatedAt resolvedAt : ℤ)
    (incident : Incident) : Incident :=
  { incident with
    status := status
    updatedAt := updatedAt
    resolvedAt := if status = .resolved then some resolvedAt else incident.resolvedAt }

theorem applyIncidentStatus_id (status : IncidentStatus) (updatedAt resolvedAt : ℤ)
    (incident : Incident) :
    (applyIncidentStatus status updatedAt resolvedAt incident).id = incident.id := rfl

def addUpdate (incidentID : ObjectID) (message : String) (status : IncidentStatus)
    (rt : Runtime) : Fallible Database ServiceError IncidentUpdate := do
  let _ ← findByID incidentID
  let update : IncidentUpdate := {
    id := rt.newID 0
    incidentID := incidentID
    message := message
    status := status
    createdAt := rt.clock 0 }
  insertUpdate update
  Fallible.exec .store
    (updateIncident incidentID (applyIncidentStatus status (rt.clock 1) (rt.clock 2))
      (applyIncidentStatus_id status _ _))
  insertAuditLog {
    id := rt.newID 1
    resourceType := .incidentUpdate
    resourceID := incidentID
    action := .updateAdded
    at_ := rt.clock 3
    summary := "Incident update added" }
  return update

def resolve (incidentID : ObjectID) (rt : Runtime) : Fallible Database ServiceError Incident := do
  let incident ← update incidentID { status := .resolved } rt
  insertAuditLog {
    id := rt.newID 1
    resourceType := .incident
    resourceID := incidentID
    action := .resolved
    at_ := rt.clock 3
    summary := "Incident resolved" }
  return incident

def delete (incidentID : ObjectID) (rt : Runtime) : Fallible Database ServiceError Unit := do
  deleteIncidentByID incidentID
  insertAuditLog {
    id := rt.newID 0
    resourceType := .incident
    resourceID := incidentID
    action := .deleted
    at_ := rt.clock 0
    summary := "Incident deleted" }

end Statora.Incidents
