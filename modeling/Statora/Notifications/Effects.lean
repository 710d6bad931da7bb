import Statora.Content.Formats
import Statora.Notifications.Handlers

/-!
# What a request leaves in the store

A request that is written changes the document that it is about, and no request changes
another one. This holds of requests that fail after their write too.
-/

namespace Statora.Notifications
open Library (Fallible Collection)

structure Event where
  request : Request
  rt : Runtime
  outlets : Outlets

def step (db : Database) (e : Event) : Database := ((e.request.handler e.rt).run db).2

def announced (db : Database) (e : Event) : Option Announcement :=
  ((e.request.handler e.rt).run db).1.toOption

def messages (db : Database) (e : Event) : List Message :=
  (announced db e).elim [] fun a => a.messages e.outlets

theorem announced_eq_some_iff {db : Database} {e : Event} {a : Announcement} :
    announced db e = some a ↔ Fallible.Returns (e.request.handler e.rt) db a := by
  unfold announced Fallible.Returns
  cases ((e.request.handler e.rt).run db).1 <;> simp [Except.toOption]

theorem announced_isSome_iff (db : Database) (e : Event) :
    (announced db e).isSome = true ↔
      e.request.Written db e.rt ∧ e.request.Audited db e.rt := by
  rw [Option.isSome_iff_exists]
  constructor
  · rintro ⟨a, ha⟩
    obtain ⟨hwritten, haudit, -⟩ := announces_of_returns (announced_eq_some_iff.mp ha)
    exact ⟨hwritten, haudit⟩
  · rintro ⟨hwritten, haudit⟩
    obtain ⟨a, ha⟩ := returns_of_written hwritten haudit
    exact ⟨a, announced_eq_some_iff.mpr ha⟩

section States
variable (db : Database) (rt : Runtime)

theorem run_createIncident (user username : ContextValue) (req : Incidents.RequestBody) :
    ((createIncident user username req rt).run db).2 =
      if req.title = "" then db
      else match user with
        | .text userIDHex => ((Incidents.create (createInput userIDHex username req) rt).run db).2
        | .missing | .other => db := by
  unfold createIncident bindJSON
  by_cases htitle : req.title = ""
  · simp [htitle]
  · cases user with
    | missing => simp [htitle, authenticatedUser]
    | other => simp [htitle, authenticatedUser]
    | text userIDHex =>
      simp [htitle, authenticatedUser]

theorem run_updateIncident (rawID : String) (req : Incidents.RequestBody) :
    ((updateIncident rawID req rt).run db).2 =
      if req.title = "" then db
      else (objectIDFromHex rawID).elim db fun id => ((Incidents.update id req rt).run db).2 := by
  unfold updateIncident paramID bindJSON
  cases objectIDFromHex rawID with
  | none => simp
  | some id =>
    by_cases htitle : req.title = ""
    · simp [htitle]
    · simp [htitle]

theorem run_resolveIncident (rawID : String) :
    ((resolveIncident rawID rt).run db).2 =
      (objectIDFromHex rawID).elim db fun id => ((Incidents.resolve id rt).run db).2 := by
  unfold resolveIncident paramID
  cases objectIDFromHex rawID with
  | none => simp
  | some id => simp

theorem run_addIncidentUpdate (rawID message : String) (status : IncidentStatus) :
    ((addIncidentUpdate rawID message status rt).run db).2 =
      if message = "" ∨ status = .other "" then db
      else (objectIDFromHex rawID).elim db fun id =>
        ((Incidents.addUpdate id message status rt).run db).2 := by
  unfold addIncidentUpdate paramID bindJSON
  cases objectIDFromHex rawID with
  | none => simp
  | some id =>
    by_cases hmessage : message = ""
    · by_cases hstatus : status = .other "" <;> simp [hmessage, hstatus]
    · by_cases hstatus : status = .other ""
      · simp [hmessage, hstatus]
      · simp [hmessage, hstatus]

theorem run_createMaintenance (user username : ContextValue) (req : MaintenanceBody) :
    ((createMaintenance user username req rt).run db).2 =
      if req.title = "" ∨ req.startTime = "" ∨ req.endTime = "" then db
      else match user with
        | .text userIDHex =>
          ((Maintenances.create (maintenanceInput userIDHex username req) rt).run db).2
        | .missing | .other => db := by
  unfold createMaintenance bindJSON
  by_cases htitle : req.title = ""
  · simp [htitle]
  · by_cases hstart : req.startTime = ""
    · simp [hstart]
    · by_cases hend : req.endTime = ""
      · simp [hend]
      · cases user <;> simp [htitle, hstart, hend, authenticatedUser]

theorem run_updateMaintenance (rawID : String) (req : Maintenances.UpdateInput) :
    ((updateMaintenance rawID req rt).run db).2 =
      (objectIDFromHex rawID).elim db fun id =>
        ((Maintenances.update id req rt).run db).2 := by
  unfold updateMaintenance paramID
  cases objectIDFromHex rawID with
  | none => simp
  | some id => simp

end States

def Request.visibilityAfter (stored : IncidentVisibilityState) :
    Request → IncidentVisibilityState
  | .updateIncident _ req =>
    if req.visibilityState ≠ .other "" then req.visibilityState else stored
  | .createIncident _ _ _ | .resolveIncident _ | .addIncidentUpdate _ _ _
  | .createMaintenance _ _ _ | .updateMaintenance _ _ => stored

structure Request.Follows (db : Database) (rt : Runtime) (request : Request)
    (stored after : Incident) : Prop where
  written : request.subject rt = some stored.id → request.Written db rt →
    after.status = request.statusAfter stored.status ∧
      after.visibilityState = request.visibilityAfter stored.visibilityState
  kept : ¬ (request.subject rt = some stored.id ∧ request.Written db rt) → after = stored

section Incidents
variable {db : Database} {rt : Runtime} {request : Request} {id : ObjectID} {stored : Incident}

theorem follows_of_kept
    (h : request.subject rt = some stored.id → request.Written db rt →
      stored.status = request.statusAfter stored.status ∧
        stored.visibilityState = request.visibilityAfter stored.visibilityState) :
    request.Follows db rt stored stored := ⟨h, fun _ => rfl⟩

theorem follows_of_not_written (h : ¬ request.Written db rt) :
    request.Follows db rt stored stored :=
  follows_of_kept fun _ hwritten => absurd hwritten h

theorem follows_of_updateByKey (h : db.incidents.findByKey id = some stored) {key : ObjectID}
    {set : Incident → Incident} {hset : ∀ incident, (set incident).id = incident.id}
    (hsubject : request.subject rt = some key)
    (hwritten : db.incidents.contains key = true → request.Written db rt)
    (hstatus : (set stored).status = request.statusAfter stored.status)
    (hvisibility : (set stored).visibilityState =
      request.visibilityAfter stored.visibilityState) :
    ∃ after, (db.incidents.updateByKey key set hset).findByKey id = some after ∧
      request.Follows db rt stored after := by
  have hid : stored.id = id := (Collection.mem_of_findByKey h).2
  rw [Collection.findByKey_updateByKey, h, Option.map_some]
  refine ⟨_, rfl, ?_⟩
  split_ifs with hkey
  · refine ⟨fun _ _ => ⟨hstatus, hvisibility⟩, fun hnot => absurd ⟨?_, hwritten ?_⟩ hnot⟩
    · rw [hsubject, hid, hkey]
    · rw [← hkey]
      exact contains_of_found h
  · refine follows_of_kept fun hsame _ => absurd ?_ hkey
    rw [hsubject, hid] at hsame
    exact (Option.some.inj hsame).symm

theorem follows_of_unchanged {db' : Database} (h : db'.incidents.findByKey id = some stored)
    (hstatus : ∀ status, request.statusAfter status = status)
    (hvisibility : ∀ visibility, request.visibilityAfter visibility = visibility) :
    ∃ after, db'.incidents.findByKey id = some after ∧ request.Follows db rt stored after :=
  ⟨stored, h, follows_of_kept fun _ _ => ⟨(hstatus _).symm, (hvisibility _).symm⟩⟩

theorem follows_createIncident (h : db.incidents.findByKey id = some stored)
    (user username : ContextValue) (req : Incidents.RequestBody) :
    ∃ after,
      ((createIncident user username req rt).run db).2.incidents.findByKey id = some after ∧
        (Request.createIncident user username req).Follows db rt stored after := by
  refine follows_of_unchanged ?_ (fun _ => rfl) fun _ => rfl
  rw [run_createIncident]
  split_ifs
  · exact h
  · cases user with
    | missing => exact h
    | other => exact h
    | text userIDHex =>
      dsimp only
      rw [Incidents.create_incidents]
      cases Incidents.createdIncident (createInput userIDHex username req) rt db with
      | none => exact h
      | some incident => exact Collection.findByKey_insertOne_of_some h

theorem follows_updateIncident (h : db.incidents.findByKey id = some stored) (rawID : String)
    (req : Incidents.RequestBody) :
    ∃ after, ((updateIncident rawID req rt).run db).2.incidents.findByKey id = some after ∧
      (Request.updateIncident rawID req).Follows db rt stored after := by
  rw [run_updateIncident]
  by_cases htitle : req.title = ""
  · rw [if_pos htitle]
    exact ⟨stored, h, follows_of_not_written fun hwritten => hwritten.1 htitle⟩
  · rw [if_neg htitle]
    cases hid : objectIDFromHex rawID with
    | none =>
      refine ⟨stored, h, follows_of_not_written fun hwritten => ?_⟩
      obtain ⟨-, -, key, hkey, -⟩ := hwritten
      cases hid.symm.trans hkey
    | some key =>
      dsimp only [Option.elim]
      rw [Incidents.update_incidents]
      cases hchecked : Incidents.checkedTargets req db with
      | none =>
        refine ⟨stored, h, follows_of_not_written fun hwritten => ?_⟩
        have hsome := hwritten.2.1
        rw [hchecked] at hsome
        cases hsome
      | some targets =>
        exact follows_of_updateByKey h hid
          (fun hstored => ⟨htitle, by rw [hchecked]; rfl, key, hid, hstored⟩) rfl rfl

theorem follows_resolveIncident (h : db.incidents.findByKey id = some stored) (rawID : String) :
    ∃ after, ((resolveIncident rawID rt).run db).2.incidents.findByKey id = some after ∧
      (Request.resolveIncident rawID).Follows db rt stored after := by
  rw [run_resolveIncident]
  cases hid : objectIDFromHex rawID with
  | none =>
    refine ⟨stored, h, follows_of_not_written fun hwritten => ?_⟩
    obtain ⟨key, hkey, -⟩ := hwritten
    cases hid.symm.trans hkey
  | some key =>
    dsimp only [Option.elim]
    rw [Incidents.resolve_incidents]
    exact follows_of_updateByKey h hid (fun hstored => ⟨key, hid, hstored⟩) rfl rfl

theorem follows_addIncidentUpdate (h : db.incidents.findByKey id = some stored)
    (rawID message : String) (status : IncidentStatus) :
    ∃ after,
      ((addIncidentUpdate rawID message status rt).run db).2.incidents.findByKey id =
          some after ∧
        (Request.addIncidentUpdate rawID message status).Follows db rt stored after := by
  rw [run_addIncidentUpdate]
  by_cases hempty : message = "" ∨ status = .other ""
  · rw [if_pos hempty]
    exact ⟨stored, h, follows_of_not_written fun hwritten =>
      hempty.elim hwritten.1 hwritten.2.1⟩
  · rw [if_neg hempty]
    rw [not_or] at hempty
    cases hid : objectIDFromHex rawID with
    | none =>
      refine ⟨stored, h, follows_of_not_written fun hwritten => ?_⟩
      obtain ⟨-, -, -, key, hkey, -⟩ := hwritten
      cases hid.symm.trans hkey
    | some key =>
      dsimp only [Option.elim]
      rw [Incidents.addUpdate_incidents]
      cases hused : db.incidentUpdates.contains (rt.newID 0) with
      | true =>
        refine ⟨stored, h, follows_of_not_written fun hwritten => ?_⟩
        cases hused.symm.trans hwritten.2.2.1
      | false =>
        exact follows_of_updateByKey h hid
          (fun hstored => ⟨hempty.1, hempty.2, hused, key, hid, hstored⟩) rfl rfl

theorem createMaintenance_incidents (user username : ContextValue) (req : MaintenanceBody) :
    ((createMaintenance user username req rt).run db).2.incidents = db.incidents := by
  rw [run_createMaintenance]
  split_ifs
  · rfl
  · cases user with
    | missing => rfl
    | other => rfl
    | text userIDHex => exact Content.leaves_createMaintenance _ rt db

theorem updateMaintenance_incidents (rawID : String) (req : Maintenances.UpdateInput) :
    ((updateMaintenance rawID req rt).run db).2.incidents = db.incidents := by
  rw [run_updateMaintenance]
  cases objectIDFromHex rawID with
  | none => rfl
  | some key => exact Content.leaves_updateMaintenance key req rt db

theorem step_incident {e : Event} (h : db.incidents.findByKey id = some stored) :
    ∃ after, (step db e).incidents.findByKey id = some after ∧
      e.request.Follows db e.rt stored after := by
  obtain ⟨request, rt, outlets⟩ := e
  cases request with
  | createIncident user username req => exact follows_createIncident h user username req
  | updateIncident rawID req => exact follows_updateIncident h rawID req
  | resolveIncident rawID => exact follows_resolveIncident h rawID
  | addIncidentUpdate rawID message status => exact follows_addIncidentUpdate h rawID message status
  | createMaintenance user username req =>
    have hsame : (step db ⟨.createMaintenance user username req, rt, outlets⟩).incidents =
        db.incidents := createMaintenance_incidents user username req
    rw [← hsame] at h
    exact follows_of_unchanged h (fun _ => rfl) fun _ => rfl
  | updateMaintenance rawID req =>
    have hsame : (step db ⟨.updateMaintenance rawID req, rt, outlets⟩).incidents =
        db.incidents := updateMaintenance_incidents rawID req
    rw [← hsame] at h
    exact follows_of_unchanged h (fun _ => rfl) fun _ => rfl

end Incidents

def someRuntime (n : ℕ) : Runtime :=
  ⟨fun k => 8 * n + k, fun k => BitVec.ofNat 96 (8 * n + k + 1)⟩

def hubOnly : Outlets where
  channels := some []
  requestable := fun _ => true
  mail := none
  verified := some []
  hasRoom := true

def operator : ContextValue := .text "0123456789abcdef01234567"

end Statora.Notifications
