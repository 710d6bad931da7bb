import Statora.Library.EventRun
import Statora.Notifications.Effects

/-!
# Drafts and notifications

Drafts are kept from the public pages. The handlers announce what the services return
without a look at whether it is published, so an accepted request that leaves a draft is
kept from the public only where no outlet is open.
-/

namespace Statora.Notifications
open Library (Fallible Collection AllSteps run allSteps_congr)

def LeavesDraft (db : Database) (e : Event) : Prop :=
  match e.request with
  | .createIncident _ _ _ | .updateIncident _ _ | .resolveIncident _
  | .addIncidentUpdate _ _ _ => ∃ id, e.request.subject e.rt = some id ∧
      ∃ after, (step db e).incidents.findByKey id = some after ∧ after.visibilityState = .draft
  | .createMaintenance _ _ _ | .updateMaintenance _ _ => ∃ id, e.request.subject e.rt = some id ∧
      ∃ after, (step db e).maintenance.findByKey id = some after ∧ after.status = .draft

/-- A request that leaves a draft sends nothing. -/
def DraftUnannounced (db : Database) (e : Event) : Prop :=
  LeavesDraft db e → messages db e = []

def Request.drafts (db : Database) (rt : Runtime) (request : Request) : Prop :=
  match request with
  | .createIncident _ _ req => req.visibilityState = .draft
  | .updateIncident _ _ | .resolveIncident _ | .addIncidentUpdate _ _ _ =>
    ∃ stored, request.storedIncident db rt = some stored ∧
      request.visibilityAfter stored.visibilityState = .draft
  | .createMaintenance _ _ req => req.visibilityState = .draft
  | .updateMaintenance rawID req =>
    ∃ stored, (objectIDFromHex rawID).bind db.maintenance.findByKey = some stored ∧
      req.statusField.getD stored.status = .draft

/-- An accepted request that leaves a draft finds all its outlets closed. -/
def DraftsClosed (db : Database) (e : Event) : Prop :=
  e.request.Written db e.rt → e.request.Audited db e.rt → e.request.drafts db e.rt →
    ∀ outlet ∈ e.request.sentTo, ¬ outlet.Open e.outlets (e.request.event db e.rt)

section Steps
variable {db : Database} {e : Event}

theorem messages_eq_nil_iff (db : Database) (e : Event) :
    messages db e = [] ↔ (e.request.Written db e.rt → e.request.Audited db e.rt →
      ∀ outlet ∈ e.request.sentTo, ¬ outlet.Open e.outlets (e.request.event db e.rt)) := by
  unfold messages
  cases ha : announced db e with
  | none =>
    refine iff_of_true rfl fun hwritten haudit => ?_
    have hsome := (announced_isSome_iff db e).mpr ⟨hwritten, haudit⟩
    rw [ha] at hsome
    cases hsome
  | some a =>
    obtain ⟨hwritten, haudit, hannounces⟩ := announces_of_returns (announced_eq_some_iff.mp ha)
    dsimp only [Option.elim]
    rw [a.messages_eq_nil_iff hannounces.carries, hannounces.sentTo, hannounces.eventType]
    exact ⟨fun h _ _ => h, fun h => h hwritten haudit⟩

theorem createdDraft_iff (visibilityState : IncidentVisibilityState) :
    (if visibilityState = .other "" then .published else visibilityState) =
      IncidentVisibilityState.draft ↔ visibilityState = .draft := by
  split_ifs with h
  · simp [h]
  · exact Iff.rfl

theorem createInput_status_eq_draft_iff (input : Maintenances.CreateInput) (startTime now : ℤ) :
    input.status startTime now = .draft ↔ input.visibilityState = .draft := by
  unfold Maintenances.CreateInput.status
  split_ifs with hdraft <;> simp [hdraft]

theorem exists_after_iff {α : Type} [Library.Keyed α ObjectID] {c : Collection α}
    {id : ObjectID} {after : α} (h : c.findByKey id = some after) {P : α → Prop} :
    (∃ id', some id = some id' ∧ ∃ a, c.findByKey id' = some a ∧ P a) ↔ P after := by
  constructor
  · rintro ⟨_, ⟨⟩, a, ha, hP⟩
    rwa [Option.some.inj (h.symm.trans ha)]
  · exact fun hP => ⟨id, rfl, after, h, hP⟩

theorem leavesDraft_incident_iff {id : ObjectID} {stored : Incident}
    (hsubject : e.request.subject e.rt = some id) (hfound : db.incidents.findByKey id = some stored)
    (h : e.request.Written db e.rt) :
    (∃ id, e.request.subject e.rt = some id ∧
      ∃ after, (step db e).incidents.findByKey id = some after ∧
        after.visibilityState = .draft) ↔
      ∃ stored, e.request.storedIncident db e.rt = some stored ∧
        e.request.visibilityAfter stored.visibilityState = .draft := by
  obtain ⟨after, hafter, hfollows⟩ := step_incident (e := e) hfound
  have hid : stored.id = id := (Collection.mem_of_findByKey hfound).2
  obtain ⟨-, hvisibility⟩ := hfollows.written (hid.symm ▸ hsubject) h
  have hstored : e.request.storedIncident db e.rt = some stored := by
    rw [Request.storedIncident, hsubject, Option.bind_some, hfound]
  constructor
  · rintro ⟨_, hsubject', after', hafter', hdraft⟩
    obtain rfl := Option.some.inj (hsubject.symm.trans hsubject')
    obtain rfl := Option.some.inj (hafter.symm.trans hafter')
    exact ⟨stored, hstored, hvisibility.symm.trans hdraft⟩
  · rintro ⟨stored', hstored', hdraft⟩
    obtain rfl := Option.some.inj (hstored.symm.trans hstored')
    exact ⟨id, hsubject, after, hafter, hvisibility.trans hdraft⟩

theorem leavesDraft_createIncident_iff {rt : Runtime} {outlets : Outlets}
    {user username : ContextValue} {req : Incidents.RequestBody}
    (h : (Request.createIncident user username req).Written db rt) :
    LeavesDraft db ⟨.createIncident user username req, rt, outlets⟩ ↔
      req.visibilityState = .draft := by
  obtain ⟨htitle, userIDHex, rfl, hcreated, hfresh⟩ := h
  obtain ⟨incident, hcreated⟩ := Option.isSome_iff_exists.mp hcreated
  have hstep : (step db ⟨.createIncident (.text userIDHex) username req, rt,
      outlets⟩).incidents = db.incidents.insertOne incident := by
    rw [step, Request.handler, run_createIncident]
    dsimp only at htitle ⊢
    rw [if_neg htitle, Incidents.create_incidents, hcreated]
    rfl
  obtain ⟨userID, compIDs, targets, rfl⟩ := Incidents.createdIncident_eq_some hcreated
  have hafter := Collection.findByKey_insertOne_self (a :=
    (createInput userIDHex username req).incident userID compIDs targets rt) hfresh
  dsimp only [LeavesDraft, Request.subject]
  rw [hstep]
  exact (exists_after_iff hafter).trans (createdDraft_iff req.visibilityState)

theorem leavesDraft_createMaintenance_iff {rt : Runtime} {outlets : Outlets}
    {user username : ContextValue} {req : MaintenanceBody}
    (h : (Request.createMaintenance user username req).Written db rt) :
    LeavesDraft db ⟨.createMaintenance user username req, rt, outlets⟩ ↔
      req.visibilityState = .draft := by
  obtain ⟨htitle, hstart, hend, ⟨userIDHex, rfl, hcreator⟩, hstartTime, hendTime, hfresh⟩ := h
  obtain ⟨startTime, hstartTime⟩ := Option.isSome_iff_exists.mp hstartTime
  obtain ⟨endTime, hendTime⟩ := Option.isSome_iff_exists.mp hendTime
  obtain ⟨creatorID, hcreator⟩ := Option.isSome_iff_exists.mp hcreator
  have hinserted := Maintenances.create_maintenance_of_accepted
    (maintenanceInput userIDHex username req) hstartTime hendTime hcreator rt db
  have hstep : (step db ⟨.createMaintenance (.text userIDHex) username req, rt,
      outlets⟩).maintenance = db.maintenance.insertOne
        ((maintenanceInput userIDHex username req).maintenance startTime endTime creatorID
          rt) := by
    rw [step, Request.handler, run_createMaintenance, ← hinserted]
    dsimp only
    rw [if_neg (by simp [htitle, hstart, hend])]
  have hafter := Collection.findByKey_insertOne_self (a :=
    (maintenanceInput userIDHex username req).maintenance startTime endTime creatorID rt) hfresh
  dsimp only [LeavesDraft, Request.subject]
  rw [hstep]
  exact (exists_after_iff hafter).trans (createInput_status_eq_draft_iff _ _ _)

theorem leavesDraft_updateMaintenance_iff {rt : Runtime} {outlets : Outlets} {rawID : String}
    {req : Maintenances.UpdateInput} (h : (Request.updateMaintenance rawID req).Written db rt) :
    LeavesDraft db ⟨.updateMaintenance rawID req, rt, outlets⟩ ↔
      (Request.updateMaintenance rawID req).drafts db rt := by
  obtain ⟨haccepted, id, hid, hstored⟩ := h
  obtain ⟨stored, hfound⟩ := exists_found hstored
  have hafter : (step db ⟨.updateMaintenance rawID req, rt, outlets⟩).maintenance.findByKey id =
      some (req.setFields (parseRFC3339 req.startTime) (parseRFC3339 req.endTime) (rt.clock 0)
        stored) := by
    rw [step, Request.handler, run_updateMaintenance]
    dsimp only
    rw [hid, Option.elim, Maintenances.update_maintenance_of_accepted haccepted,
      Collection.findByKey_updateByKey_self, hfound, Option.map_some]
  dsimp only [LeavesDraft, Request.drafts, Request.subject]
  rw [hid, Option.bind_some, hfound, exists_after_iff hafter]
  simp [Maintenances.UpdateInput.setFields]

theorem leavesDraft_iff (h : e.request.Written db e.rt) :
    LeavesDraft db e ↔ e.request.drafts db e.rt := by
  obtain ⟨request, rt, outlets⟩ := e
  cases request with
  | createIncident user username req => exact leavesDraft_createIncident_iff h
  | updateIncident rawID req =>
    obtain ⟨-, -, id, hid, hstored⟩ := id h
    obtain ⟨stored, hfound⟩ := exists_found hstored
    exact leavesDraft_incident_iff hid hfound h
  | resolveIncident rawID =>
    obtain ⟨id, hid, hstored⟩ := id h
    obtain ⟨stored, hfound⟩ := exists_found hstored
    exact leavesDraft_incident_iff hid hfound h
  | addIncidentUpdate rawID message status =>
    obtain ⟨-, -, -, id, hid, hstored⟩ := id h
    obtain ⟨stored, hfound⟩ := exists_found hstored
    exact leavesDraft_incident_iff hid hfound h
  | createMaintenance user username req => exact leavesDraft_createMaintenance_iff h
  | updateMaintenance rawID req => exact leavesDraft_updateMaintenance_iff h

theorem draftUnannounced_iff (db : Database) (e : Event) :
    DraftUnannounced db e ↔ DraftsClosed db e := by
  unfold DraftUnannounced DraftsClosed
  rw [messages_eq_nil_iff]
  constructor
  · intro h hwritten haudit hdrafts
    exact h ((leavesDraft_iff hwritten).mpr hdrafts) hwritten haudit
  · intro h hleaves hwritten haudit
    exact h hwritten haudit ((leavesDraft_iff hwritten).mp hleaves)

end Steps

theorem draftsUnannounced_iff (db : Database) (events : List Event) :
    AllSteps step DraftUnannounced db events ↔ AllSteps step DraftsClosed db events :=
  allSteps_congr fun e _ db => draftUnannounced_iff db e

def createdDraft : Event where
  request := .createIncident operator .missing { title := "Outage", visibilityState := .draft }
  rt := someRuntime 0
  outlets := hubOnly

theorem createdDraft_announced : ¬ AllSteps step DraftUnannounced {} [createdDraft] := by
  have hdraft : ((step {} createdDraft).incidents.findByKey 1#96).map (·.visibilityState) =
      some .draft := by decide +kernel
  have hsent : (messages {} createdDraft).length = 1 := by decide +kernel
  obtain ⟨after, hafter, hdraft⟩ := Option.map_eq_some_iff.mp hdraft
  intro h
  rw [h.1 ⟨1#96, rfl, after, hafter, hdraft⟩] at hsent
  cases hsent

end Statora.Notifications
