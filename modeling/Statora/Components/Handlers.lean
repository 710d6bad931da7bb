import Statora.Domain
import Statora.Library.StoreProgram

/-!
# The component handlers

Components have no service of their own: the handlers write to the collection.
The errors are those of the services with the same HTTP status.
-/

namespace Statora.Components
open Library (Fallible)

structure ComponentRequest where
  name : String := ""
  description : String := ""
  status : ComponentStatus := .other ""

def errNameRequired : ServiceError :=
  .invalidInput "Key: 'Name' Error:Field validation for 'Name' failed on the 'required' tag"

def errInvalidID : ServiceError := .invalidInput "invalid id"

def errNotFound : ServiceError := .notFound "component not found"

def insertComponent (component : Component) : Fallible Database ServiceError Unit :=
  Fallible.execIf .store .store (fun db => !db.components.contains component.id)
    fun db => { db with components := db.components.insertOne component }

def ComponentRequest.component (req : ComponentRequest) (rt : Runtime) : Component where
  id := rt.newID 0
  name := req.name
  description := req.description
  status := if req.status = .other "" then .operational else req.status
  createdAt := rt.clock 0
  updatedAt := rt.clock 1

def createComponent (req : ComponentRequest) (rt : Runtime) :
    Fallible Database ServiceError Component :=
  if req.name = "" then Fallible.throw errNameRequired
  else do
    insertComponent (req.component rt)
    return req.component rt

def ComponentRequest.setFields (req : ComponentRequest) (now : ℤ) (component : Component) :
    Component :=
  { component with
    updatedAt := now
    name := if req.name ≠ "" then req.name else component.name
    description := if req.description ≠ "" then req.description else component.description
    status := if req.status ≠ .other "" then req.status else component.status }

theorem ComponentRequest.setFields_id (req : ComponentRequest) (now : ℤ) (component : Component) :
    (req.setFields now component).id = component.id := rfl

def updateComponent (rawID : String) (req : ComponentRequest) (rt : Runtime) :
    Fallible Database ServiceError Component :=
  match objectIDFromHex rawID with
  | none => Fallible.throw errInvalidID
  | some id =>
    Fallible.findAndUpdate .store errNotFound
      (fun db => { db with
        components := db.components.updateByKey id (req.setFields (rt.clock 0))
          (req.setFields_id _) })
      fun db => db.components.findByKey id

/-- What refers to the component stays as it is. -/
def deleteComponent (rawID : String) : Fallible Database ServiceError Unit :=
  match objectIDFromHex rawID with
  | none => Fallible.throw errInvalidID
  | some id =>
    Fallible.execIf .store errNotFound (fun db => db.components.contains id)
      fun db => { db with components := db.components.deleteByKey id }

theorem run_createComponent (req : ComponentRequest) (rt : Runtime) (db : Database) :
    ((createComponent req rt).run db).2 = if req.name = "" then db
      else { db with components := db.components.insertOne (req.component rt) } := by
  simp only [createComponent]
  split_ifs with hname
  · rfl
  · refine (Fallible.run_bind_frame id (fun _ _ => rfl) db).trans ?_
    rw [insertComponent, Fallible.run_execIf]
    cases hfresh : db.components.contains (req.component rt).id with
    | true => rw [Library.Collection.insertOne_of_contains hfresh]; rfl
    | false => rfl

theorem run_updateComponent (rawID : String) (req : ComponentRequest) (rt : Runtime)
    (db : Database) : ((updateComponent rawID req rt).run db).2 =
      (objectIDFromHex rawID).elim db fun id => { db with
        components := db.components.updateByKey id (req.setFields (rt.clock 0))
          (req.setFields_id _) } := by
  simp only [updateComponent]
  cases objectIDFromHex rawID <;> rfl

theorem run_deleteComponent (rawID : String) (db : Database) :
    ((deleteComponent rawID).run db).2 = (objectIDFromHex rawID).elim db fun id =>
      { db with components := db.components.deleteByKey id } := by
  simp only [deleteComponent]
  cases objectIDFromHex rawID with
  | none => rfl
  | some id =>
    dsimp only [Option.elim]
    rw [Fallible.run_execIf]
    cases hstored : db.components.contains id with
    | true => rfl
    | false => rw [Library.Collection.deleteByKey_of_not_contains hstored]; rfl

end Statora.Components
