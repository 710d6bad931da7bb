import Statora.Domain
import Statora.Library.StoreProgram

/-!
# The sub-component service

Create, update and delete, over the repository of sub-components. A delete
first cleans up what other documents say about the sub-component.
-/

namespace Statora.SubComponents
open Library (Fallible)

structure Input where
  componentID : String := ""
  name : String := ""
  description : String := ""
  status : ComponentStatus := .other ""

def errInvalidComponentID : ServiceError := .invalidInput "invalid componentId"

def errComponentNotFound : ServiceError := .invalidInput "component not found"

def errNotFound : ServiceError := .notFound "subcomponent not found"

def insert (sub : SubComponent) : Fallible Database ServiceError Unit :=
  Fallible.execIf .store .store (fun db => !db.subcomponents.contains sub.id)
    fun db => { db with subcomponents := db.subcomponents.insertOne sub }

def findByID (id : ObjectID) : Fallible Database ServiceError SubComponent :=
  Fallible.find .store errNotFound fun db => db.subcomponents.findByKey id

def updateByID (id : ObjectID) (set : SubComponent → SubComponent)
    (hset : ∀ sub, (set sub).id = sub.id) : Fallible Database ServiceError SubComponent := do
  let _ ← findByID id
  Fallible.findAndUpdate .store errNotFound
    (fun db => { db with subcomponents := db.subcomponents.updateByKey id set hset })
    fun db => db.subcomponents.findByKey id

def deleteByID (id : ObjectID) : Fallible Database ServiceError Unit :=
  Fallible.execIf .store errNotFound (fun db => db.subcomponents.contains id)
    fun db => { db with subcomponents := db.subcomponents.deleteByKey id }

def componentExists (id : ObjectID) (db : Database) : Bool :=
  db.components.countDocuments (·.id = id) > 0

def retargetMonitor (componentID : ObjectID) (now : ℤ) (monitor : Monitor) : Monitor :=
  { monitor with
    subComponentID := NilObjectID, componentID := componentID, updatedAt := some now }

def retargetOutage (componentID : ObjectID) (outage : Outage) : Outage :=
  { outage with subComponentID := NilObjectID, componentID := componentID }

def lists (subComponentID : ObjectID) (incident : Incident) : Bool :=
  incident.affectedComponentTargets.any fun target => subComponentID ∈ target.subComponentIDs

def pull (subComponentID : ObjectID) (target : IncidentAffectedComponent) :
    IncidentAffectedComponent :=
  { target with subComponentIDs := target.subComponentIDs.filter (· ≠ subComponentID) }

def pullTargets (subComponentID : ObjectID) (now : ℤ) (incident : Incident) : Incident :=
  { incident with
    affectedComponentTargets := incident.affectedComponentTargets.map (pull subComponentID)
    updatedAt := now }

def cleanupReferencesForDeletedSubComponent (subComponentID componentID : ObjectID)
    (rt : Runtime) : Fallible Database ServiceError Unit := do
  Fallible.exec .store fun db => { db with
    monitors := db.monitors.updateMany (·.subComponentID = subComponentID)
      (retargetMonitor componentID (rt.clock 0)) }
  Fallible.exec .store fun db => { db with
    outages := db.outages.updateMany (·.subComponentID = subComponentID)
      (retargetOutage componentID) }
  Fallible.exec .store fun db => { db with
    incidents := db.incidents.updateMany (lists subComponentID)
      (pullTargets subComponentID (rt.clock 1)) }

def Input.sub (input : Input) (compID : ObjectID) (rt : Runtime) : SubComponent where
  id := rt.newID 0
  componentID := compID
  name := input.name
  description := input.description
  status := if input.status = .other "" then .operational else input.status
  createdAt := rt.clock 0
  updatedAt := rt.clock 0

/-- The component of a new sub-component is not looked up. -/
def create (input : Input) (rt : Runtime) : Fallible Database ServiceError SubComponent :=
  match objectIDFromHex input.componentID with
  | none => Fallible.throw errInvalidComponentID
  | some compID => do
    insert (input.sub compID rt)
    return input.sub compID rt

def Input.setFields (input : Input) (componentID : Option ObjectID) (now : ℤ)
    (sub : SubComponent) : SubComponent :=
  { sub with
    componentID := componentID.getD sub.componentID
    name := if input.name ≠ "" then input.name else sub.name
    description := if input.description ≠ "" then input.description else sub.description
    status := if input.status ≠ .other "" then input.status else sub.status
    updatedAt := now }

theorem Input.setFields_id (input : Input) (componentID : Option ObjectID) (now : ℤ)
    (sub : SubComponent) : (input.setFields componentID now sub).id = sub.id := rfl

def checkedComponent (input : Input) : Fallible Database ServiceError (Option ObjectID) :=
  if input.componentID ≠ "" then
    match objectIDFromHex input.componentID with
    | none => Fallible.throw errInvalidComponentID
    | some componentID => do
      let found ← Fallible.query .store (componentExists componentID)
      if !found then Fallible.throw errComponentNotFound
      else return some componentID
  else return none

def update (id : ObjectID) (input : Input) (rt : Runtime) :
    Fallible Database ServiceError SubComponent := do
  let componentID ← checkedComponent input
  updateByID id (input.setFields componentID (rt.clock 0)) (input.setFields_id componentID _)

def delete (id : ObjectID) (rt : Runtime) : Fallible Database ServiceError Unit := do
  let sub ← findByID id
  cleanupReferencesForDeletedSubComponent id sub.componentID rt
  deleteByID id

theorem run_insert (sub : SubComponent) (db : Database) :
    ((insert sub).run db).2 = { db with subcomponents := db.subcomponents.insertOne sub } := by
  rw [insert, Fallible.run_execIf]
  cases hfresh : db.subcomponents.contains sub.id with
  | true => rw [Library.Collection.insertOne_of_contains hfresh]; rfl
  | false => rfl

theorem run_create (input : Input) (rt : Runtime) (db : Database) :
    ((create input rt).run db).2 = (objectIDFromHex input.componentID).elim db fun compID =>
      { db with subcomponents := db.subcomponents.insertOne (input.sub compID rt) } := by
  simp only [create]
  cases objectIDFromHex input.componentID with
  | none => rfl
  | some compID =>
    exact (Fallible.run_bind_frame id (fun _ _ => rfl) db).trans (run_insert _ db)

def namedComponent (input : Input) (db : Database) : Option (Option ObjectID) :=
  if input.componentID ≠ "" then
    (objectIDFromHex input.componentID).bind fun componentID =>
      if db.components.contains componentID then some (some componentID) else none
  else some none

theorem componentExists_eq (id : ObjectID) (db : Database) :
    componentExists id db = db.components.contains id := by
  unfold componentExists Library.Collection.countDocuments Library.Collection.contains
  rw [decide_eq_decide, gt_iff_lt, List.length_pos_iff_exists_mem, List.mem_map]
  refine exists_congr fun component => ?_
  rw [List.mem_filter, decide_eq_true_iff]
  rfl

theorem run_checkedComponent (input : Input) (db : Database) :
    ∃ e, (checkedComponent input).run db =
      ((namedComponent input db).elim (.error e) .ok, db) := by
  simp only [checkedComponent, namedComponent]
  by_cases hgiven : input.componentID ≠ ""
  · rw [if_pos hgiven, if_pos hgiven]
    cases objectIDFromHex input.componentID with
    | none => exact ⟨errInvalidComponentID, rfl⟩
    | some componentID =>
      refine ⟨errComponentNotFound, ?_⟩
      dsimp only [Option.bind_some]
      rw [Fallible.run_bind, Fallible.run_query, componentExists_eq]
      cases db.components.contains componentID <;> rfl
  · rw [if_neg hgiven, if_neg hgiven]
    exact ⟨.store, rfl⟩

theorem run_update (id : ObjectID) (input : Input) (rt : Runtime) (db : Database) :
    ((update id input rt).run db).2 = (namedComponent input db).elim db fun componentID =>
      { db with
        subcomponents := db.subcomponents.updateByKey id (input.setFields componentID (rt.clock 0))
          (input.setFields_id componentID _) } := by
  obtain ⟨e, hchecked⟩ := run_checkedComponent input db
  simp only [update]
  cases hnamed : namedComponent input db with
  | none =>
    rw [hnamed] at hchecked
    rw [Fallible.run_bind_of_error hchecked]
    rfl
  | some componentID =>
    rw [hnamed] at hchecked
    rw [Fallible.run_bind_of_ok hchecked]
    rw [updateByID, findByID, Fallible.run_bind, Fallible.run_find]
    cases hfound : db.subcomponents.findByKey id with
    | none =>
      have hsame := Library.Collection.updateByKey_of_findByKey_eq_none
        (input.setFields componentID (rt.clock 0)) (input.setFields_id componentID _) hfound
      dsimp only [Option.elim]
      rw [hsame]
    | some sub => rfl

def cleaned (sub : SubComponent) (rt : Runtime) (db : Database) : Database :=
  { db with
    monitors := db.monitors.updateMany (·.subComponentID = sub.id)
      (retargetMonitor sub.componentID (rt.clock 0))
    outages := db.outages.updateMany (·.subComponentID = sub.id) (retargetOutage sub.componentID)
    incidents := db.incidents.updateMany (lists sub.id) (pullTargets sub.id (rt.clock 1))
    subcomponents := db.subcomponents.deleteByKey sub.id }

theorem run_delete {db : Database} {sub : SubComponent} (h : sub ∈ db.subcomponents.docs)
    (rt : Runtime) : (delete sub.id rt).run db = (.ok (), cleaned sub rt db) := by
  have hfound : db.subcomponents.findByKey sub.id = some sub :=
    Library.Collection.findByKey_of_mem h
  have hcontains : db.subcomponents.contains sub.id = true := by
    rw [← Library.Collection.findByKey_isSome, hfound]
    rfl
  rw [delete, findByID, Fallible.run_bind, Fallible.run_find, hfound]
  simp only [cleanupReferencesForDeletedSubComponent, deleteByID]
  simp [Fallible.run_bind, hcontains, cleaned]

theorem run_delete_of_findByKey_eq_none {db : Database} {id : ObjectID}
    (h : db.subcomponents.findByKey id = none) (rt : Runtime) :
    (delete id rt).run db = (.error errNotFound, db) := by
  rw [delete, findByID, Fallible.run_bind, Fallible.run_find, h]
  rfl

theorem pull_of_not_mem {id : ObjectID} {target : IncidentAffectedComponent}
    (h : id ∉ target.subComponentIDs) : pull id target = target := by
  have hkeep : target.subComponentIDs.filter (· ≠ id) = target.subComponentIDs :=
    List.filter_eq_self.mpr fun subID hsub => decide_eq_true fun heq => h (heq ▸ hsub)
  rw [pull, hkeep]

theorem map_pull_of_not_lists {id : ObjectID} {incident : Incident}
    (h : lists id incident = false) :
    incident.affectedComponentTargets.map (pull id) = incident.affectedComponentTargets := by
  refine (List.map_congr_left fun target htarget => pull_of_not_mem ?_).trans (List.map_id' _)
  exact of_decide_eq_false (List.any_eq_false.mp h target htarget |> Bool.eq_false_iff.mpr)

end Statora.SubComponents
