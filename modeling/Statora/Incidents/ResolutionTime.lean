import Statora.Availability.Service
import Statora.Incidents.Lifecycle

/-!
# The resolution time of a resolved incident

An incident that stays resolved may still be edited. Each operation of the
service that carries the status resolved writes the time of its own call, so
that the time of the first resolution stands only while no such operation
reaches the incident.
-/

namespace Statora.Incidents
open Library (Collection AllSteps AllStates allStates_iff_of_invariant)
open Availability (Interval entryOf)

def contribution (now periodStart periodEnd : ℤ) (incident : Incident) : Option Interval :=
  (entryOf now periodStart periodEnd incident).map (·.interval)

def StaysResolved (id : ObjectID) (db : Database) : Prop :=
  (db.incidents.findByKey id).any (·.status = .resolved) = true

instance (id : ObjectID) (db : Database) : Decidable (StaysResolved id db) :=
  inferInstanceAs (Decidable (_ = true))

/-- The incident is still stored with the resolution time and the downtime of `original`. -/
def SameResolution (id : ObjectID) (original : Incident) (db : Database) : Prop :=
  ∃ incident, db.incidents.findByKey id = some incident ∧
    incident.resolvedAt = original.resolvedAt ∧
    ∀ now periodStart periodEnd,
      contribution now periodStart periodEnd incident =
        contribution now periodStart periodEnd original

def resolutionWritten (id : ObjectID) (db : Database) : Event → Option ℤ
  | .update target input rt =>
    if target = id ∧ (checkedTargets input db).isSome = true ∧ input.status = .resolved then
      some (rt.clock 1)
    else none
  | .addUpdate target _ status rt =>
    if target = id ∧ db.incidentUpdates.contains (rt.newID 0) = false ∧ status = .resolved then
      some (rt.clock 2)
    else none
  | .resolve target rt => if target = id then some (rt.clock 1) else none
  | _ => none

def KeepsResolutionTime (id : ObjectID) (resolvedAt : ℤ) (db : Database) (e : Event) : Prop :=
  ∀ now, resolutionWritten id db e = some now → now = resolvedAt

theorem contribution_congr {incident original : Incident}
    (hcreated : incident.createdAt = original.createdAt)
    (hresolved : incident.resolvedAt = original.resolvedAt) (now periodStart periodEnd : ℤ) :
    contribution now periodStart periodEnd incident =
      contribution now periodStart periodEnd original := by
  unfold contribution entryOf
  rw [hcreated, hresolved]
  dsimp only
  split_ifs
  · simp only [Option.map_map, Function.comp_def]
  · rfl
  · rfl

section Step
variable {id : ObjectID} {db : Database} {incident after : Incident}

/-- What one write of the service leaves of the two times of an incident. -/
def Rewrites (written : Option ℤ) (incident after : Incident) : Prop :=
  after.createdAt = incident.createdAt ∧ after.resolvedAt = written.or incident.resolvedAt

theorem rewrites_updateByKey {incidents : Collection Incident} {written : Option ℤ}
    (hstored : incidents.findByKey id = some incident) (target : ObjectID)
    (set : Incident → Incident) (hset : ∀ incident, (set incident).id = incident.id)
    (hself : target = id → Rewrites written incident (set incident))
    (hother : target ≠ id → written = none)
    (hafter : (incidents.updateByKey target set hset).findByKey id = some after) :
    Rewrites written incident after := by
  rw [Collection.findByKey_updateByKey, hstored, Option.map_some, Option.some.injEq] at hafter
  by_cases htarget : id = target
  · rw [if_pos htarget] at hafter
    rw [← hafter]
    exact hself htarget.symm
  · rw [if_neg htarget] at hafter
    rw [← hafter, hother fun h => htarget h.symm]
    exact ⟨rfl, rfl⟩

theorem check_keeps_resolved (hstored : db.incidents.findByKey id = some incident)
    (hresolved : incident.status = .resolved) (c : Worker.Check) :
    (step db (.check c)).incidents.findByKey id = some incident := by
  rw [step, Worker.step_incidents]
  split_ifs
  · cases Worker.opensIncident c.mon (c.recorded db) with
    | none => exact hstored
    | some component => exact Collection.findByKey_insertOne_of_some hstored
  · exact hstored
  · cases Worker.activeOutage c.mon.id db with
    | none => exact hstored
    | some outage =>
      dsimp only [Option.elim]
      cases hfound : Worker.recoveredIncident outage db with
      | none => exact hstored
      | some found =>
        obtain ⟨hunresolved, hopen⟩ := Worker.recoveredIncident_eq_some hfound
        obtain ⟨hmem, hkey⟩ := Collection.mem_of_findByKey hstored
        have hne : id ≠ found.id := by
          rintro rfl
          obtain rfl := Collection.eq_of_key_eq hunresolved hmem hkey.symm
          exact hopen hresolved
        dsimp only [Worker.resolveIncident]
        rw [Collection.findByKey_updateByKey, hstored, Option.map_some, if_neg hne]

theorem rewrites_update (hstored : db.incidents.findByKey id = some incident)
    (target : ObjectID) (input : RequestBody) (rt : Runtime)
    (hafter : (step db (.update target input rt)).incidents.findByKey id = some after) :
    Rewrites (resolutionWritten id db (.update target input rt)) incident after := by
  rw [step, update_incidents] at hafter
  unfold resolutionWritten
  cases hchecked : checkedTargets input db with
  | none =>
    rw [hchecked, Option.elim, hstored, Option.some.injEq] at hafter
    rw [← hafter]
    simp [Rewrites, hchecked]
  | some targets =>
    rw [hchecked, Option.elim] at hafter
    refine rewrites_updateByKey hstored target _ (input.setFields_id targets _ _) ?_ ?_ hafter
    · rintro rfl
      refine ⟨rfl, ?_⟩
      by_cases hstatus : input.status = .resolved <;>
        simp [RequestBody.setFields, hchecked, hstatus]
    · intro hne
      simp [hne]

theorem rewrites_addUpdate (hstored : db.incidents.findByKey id = some incident)
    (target : ObjectID) (message : String) (status : IncidentStatus) (rt : Runtime)
    (hafter : (step db (.addUpdate target message status rt)).incidents.findByKey id =
      some after) :
    Rewrites (resolutionWritten id db (.addUpdate target message status rt)) incident after := by
  rw [step, addUpdate_incidents] at hafter
  unfold resolutionWritten
  cases hused : db.incidentUpdates.contains (rt.newID 0) with
  | true =>
    rw [hused, if_pos rfl, hstored, Option.some.injEq] at hafter
    rw [← hafter]
    simp [Rewrites, hused]
  | false =>
    rw [hused, if_neg (by simp)] at hafter
    refine rewrites_updateByKey hstored target _ (applyIncidentStatus_id status _ _) ?_ ?_ hafter
    · rintro rfl
      refine ⟨rfl, ?_⟩
      by_cases hstatus : status = .resolved <;> simp [applyIncidentStatus, hused, hstatus]
    · intro hne
      simp [hne]

theorem rewrites_resolve (hstored : db.incidents.findByKey id = some incident)
    (target : ObjectID) (rt : Runtime)
    (hafter : (step db (.resolve target rt)).incidents.findByKey id = some after) :
    Rewrites (resolutionWritten id db (.resolve target rt)) incident after := by
  rw [step, resolve_incidents] at hafter
  simp only [resolutionWritten]
  refine rewrites_updateByKey hstored target _ (RequestBody.setFields_id _ none _ _) ?_ ?_ hafter
  · rintro rfl
    exact ⟨rfl, by simp [RequestBody.setFields]⟩
  · intro hne
    simp [hne]

theorem rewrites_step (hstored : db.incidents.findByKey id = some incident)
    (hresolved : incident.status = .resolved) (e : Event)
    (hafter : (step db e).incidents.findByKey id = some after) :
    Rewrites (resolutionWritten id db e) incident after := by
  have hsame : (step db e).incidents.findByKey id = some incident →
      Rewrites none incident after := by
    intro h
    rw [h, Option.some.injEq] at hafter
    rw [← hafter]
    exact ⟨rfl, rfl⟩
  cases e with
  | check c => exact hsame (check_keeps_resolved hstored hresolved c)
  | create input rt =>
    refine hsame ?_
    rw [step, create_incidents]
    cases createdIncident input rt db with
    | none => exact hstored
    | some created => exact Collection.findByKey_insertOne_of_some hstored
  | update target input rt => exact rewrites_update hstored target input rt hafter
  | addUpdate target message status rt =>
    exact rewrites_addUpdate hstored target message status rt hafter
  | resolve target rt => exact rewrites_resolve hstored target rt hafter
  | delete target rt =>
    refine hsame ?_
    simp only [step] at hafter ⊢
    rw [delete_incidents] at hafter ⊢
    obtain ⟨hmem, hkey⟩ := Collection.mem_of_findByKey hafter
    obtain ⟨hold, _⟩ := Collection.mem_deleteByKey.mp hmem
    have hfound := Collection.findByKey_of_mem hold
    rw [hkey, hstored, Option.some.injEq] at hfound
    rw [hafter, hfound]

end Step

def ResolvedAt (id : ObjectID) (createdAt resolvedAt : ℤ) (db : Database) : Prop :=
  ∃ incident, db.incidents.findByKey id = some incident ∧ incident.status = .resolved ∧
    incident.resolvedAt = some resolvedAt ∧ incident.createdAt = createdAt

theorem resolvedAt_step {id : ObjectID} {createdAt resolvedAt : ℤ} {db : Database} {e : Event}
    (h : ResolvedAt id createdAt resolvedAt db) (hstays : StaysResolved id (step db e))
    (hkeeps : KeepsResolutionTime id resolvedAt db e) :
    ResolvedAt id createdAt resolvedAt (step db e) := by
  obtain ⟨incident, hstored, hstatus, htime, hcreated⟩ := h
  obtain ⟨after, hafter, hresolved⟩ := (Option.any_eq_true _ _).mp hstays
  obtain ⟨hcreated', htime'⟩ := rewrites_step hstored hstatus e hafter
  refine ⟨after, hafter, of_decide_eq_true hresolved, ?_, hcreated'.trans hcreated⟩
  rw [htime', htime]
  cases hwritten : resolutionWritten id db e with
  | none => rfl
  | some now => exact congrArg some (hkeeps now hwritten)

theorem keeps_of_sameResolution {id : ObjectID} {original : Incident} {resolvedAt : ℤ}
    {db : Database} {e : Event} (htime : original.resolvedAt = some resolvedAt)
    (h : ResolvedAt id original.createdAt resolvedAt db)
    (hsame : SameResolution id original (step db e)) : KeepsResolutionTime id resolvedAt db e := by
  obtain ⟨incident, hstored, hstatus, -, -⟩ := h
  obtain ⟨after, hafter, hkept, -⟩ := hsame
  obtain ⟨-, hwritten⟩ := rewrites_step hstored hstatus e hafter
  intro now hnow
  rw [hkept, hnow, htime] at hwritten
  exact (Option.some.inj hwritten).symm

/-- Among runs that leave a resolved incident resolved, its resolution time and its
downtime stand exactly in those in which no operation writes another time. -/
theorem sameResolution_run_iff (db : Database) (es : List Event) (id : ObjectID)
    (original : Incident) (resolvedAt : ℤ)
    (hstored : db.incidents.findByKey id = some original)
    (hstatus : original.status = .resolved) (htime : original.resolvedAt = some resolvedAt)
    (hstays : AllStates step (StaysResolved id) db es) :
    AllStates step (SameResolution id original) db es ↔
      AllSteps step (KeepsResolutionTime id resolvedAt) db es := by
  have hsame : ∀ s, ResolvedAt id original.createdAt resolvedAt s →
      SameResolution id original s := by
    rintro s ⟨incident, hfound, -, htime', hcreated⟩
    have hresolved := htime'.trans htime.symm
    exact ⟨incident, hfound, hresolved, contribution_congr hcreated hresolved⟩
  exact allStates_iff_of_invariant hsame
    (fun s e h _ hafter => keeps_of_sameResolution htime h hafter)
    (fun s e h hstays hkeeps => resolvedAt_step h hstays hkeeps)
    ⟨original, hstored, hstatus, htime, rfl⟩ hstays.next

def pastOutage : Incident where
  id := 1#96
  title := "Outgae"
  status := .resolved
  impact := .major
  createdAt := 0
  resolvedAt := some hour

def pastOutageDatabase : Database := { incidents := Collection.empty.insertOne pastOutage }

def editTitle (status : IncidentStatus) : Event :=
  .update 1#96 { title := "Outage", status := status }
    ⟨fun k => 24 * hour + k, fun k => BitVec.ofNat 96 (k + 2)⟩

theorem sameResolution_run_iff_editTitle :
    AllStates step (SameResolution 1#96 pastOutage) pastOutageDatabase [editTitle (.other "")] ↔
      AllSteps step (KeepsResolutionTime 1#96 hour) pastOutageDatabase [editTitle (.other "")] := by
  have hafter : StaysResolved 1#96 (step pastOutageDatabase (editTitle (.other ""))) := by
    decide +kernel
  exact sameResolution_run_iff pastOutageDatabase [editTitle (.other "")] 1#96 pastOutage hour
    rfl rfl rfl ⟨by decide +kernel, hafter⟩

theorem editTitle_moves_resolution :
    AllStates step (StaysResolved 1#96) pastOutageDatabase [editTitle .resolved] ∧
      ¬ AllStates step (SameResolution 1#96 pastOutage) pastOutageDatabase
        [editTitle .resolved] := by
  have hmoved : ((step pastOutageDatabase (editTitle .resolved)).incidents.findByKey 1#96).any
      (fun incident => incident.resolvedAt = some (24 * hour + 1)) = true := by
    decide +kernel
  have hafter : StaysResolved 1#96 (step pastOutageDatabase (editTitle .resolved)) := by
    decide +kernel
  refine ⟨⟨by decide +kernel, hafter⟩, fun h => ?_⟩
  obtain ⟨incident, hfound, htime, -⟩ := h.2
  rw [hfound, Option.any_some, decide_eq_true_eq, htime] at hmoved
  exact absurd hmoved (by decide)

end Statora.Incidents
