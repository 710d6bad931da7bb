import Statora.Maintenance.Windows

/-!
# Edits and the status of a window

An update that publishes a window without naming a status stores the status
`scheduled`, whatever the stored status is: the test for a draft reads the status of
the request and not that of the window.
-/

namespace Statora.Maintenances
open Library (Fallible AllSteps run allSteps_congr)
open Incidents (leaves_audited)

/-- The visibility that a window has after an update: a window is a draft or published. -/
def resultingVisibility (input : UpdateInput) (stored : Maintenance) : IncidentVisibilityState :=
  if input.visibilityState = .draft || input.visibilityState = .published then
    input.visibilityState
  else if stored.status = .draft then .draft
  else .published

def editedStatus (status : MaintenanceStatus) : MaintenanceStatus :=
  if status = .draft then .scheduled else status

def UpdateInput.Accepted (input : UpdateInput) : Prop :=
  (parseField input.startTime errInvalidStartTime).isOk = true ∧
    (parseField input.endTime errInvalidEndTime).isOk = true

instance (input : UpdateInput) : Decidable input.Accepted := inferInstanceAs (Decidable (_ ∧ _))

/-- An update without a status that leaves the window published keeps its status. -/
def StatusKept (db : Database) : Event → Prop
  | .update id input rt => input.Accepted → input.status = .other "" →
      ∀ before, db.maintenance.findByKey id = some before →
        resultingVisibility input before = .published →
          ∃ after, (step db (.update id input rt)).maintenance.findByKey id = some after ∧
            after.status = editedStatus before.status
  | _ => True

/-- An update that asks to publish and names no status finds a draft or a scheduled window. -/
def PublishesPending (db : Database) : Event → Prop
  | .update id input _ => input.Accepted → input.status = .other "" →
      input.visibilityState = .published →
        ∀ before, db.maintenance.findByKey id = some before →
          before.status = .draft ∨ before.status = .scheduled
  | _ => True

theorem update_maintenance_of_accepted {input : UpdateInput} (h : input.Accepted) (id : ObjectID)
    (rt : Runtime) (db : Database) :
    ((update id input rt).run db).2.maintenance = db.maintenance.updateByKey id
      (input.setFields (parseRFC3339 input.startTime) (parseRFC3339 input.endTime)
        (rt.clock 0)) (input.setFields_id _ _ _) := by
  obtain ⟨hstart, hend⟩ := h
  simp only [update]
  cases hstartTime : parseField input.startTime errInvalidStartTime with
  | error e =>
    rw [hstartTime] at hstart
    cases hstart
  | ok startTime =>
    cases hendTime : parseField input.endTime errInvalidEndTime with
    | error e =>
      rw [hendTime] at hend
      cases hend
    | ok endTime =>
      dsimp only
      rw [parseField_eq_ok hstartTime, parseField_eq_ok hendTime,
        Fallible.run_bind_frame Database.maintenance fun _ => leaves_audited (fun _ _ => rfl) _ _]
      rfl

theorem update_maintenance_of_not_accepted {input : UpdateInput} (h : ¬ input.Accepted)
    (id : ObjectID) (rt : Runtime) (db : Database) :
    ((update id input rt).run db).2.maintenance = db.maintenance := by
  unfold update
  cases hstart : parseField input.startTime errInvalidStartTime with
  | error e => rfl
  | ok startTime =>
    cases hend : parseField input.endTime errInvalidEndTime with
    | error e => rfl
    | ok endTime => exact absurd ⟨by rw [hstart]; rfl, by rw [hend]; rfl⟩ h

theorem statusField_of_no_status {input : UpdateInput} (h : input.status = .other "") :
    input.statusField = if input.visibilityState = .draft then some .draft
      else if input.visibilityState = .published then some .scheduled else none := by
  rw [UpdateInput.statusField, h]
  cases input.visibilityState <;> simp

theorem statusKept_iff (db : Database) (event : Event) :
    StatusKept db event ↔ PublishesPending db event := by
  cases event with
  | update id input rt =>
    refine forall_congr' fun haccepted => forall_congr' fun hempty => ?_
    have hafter : ∀ before, db.maintenance.findByKey id = some before →
        ((∃ after, (step db (.update id input rt)).maintenance.findByKey id = some after ∧
            after.status = editedStatus before.status) ↔
          input.statusField.getD before.status = editedStatus before.status) := by
      intro before hbefore
      rw [step, update_maintenance_of_accepted haccepted,
        Library.Collection.findByKey_updateByKey_self, hbefore, Option.map_some]
      simp [UpdateInput.setFields]
    constructor
    · intro hkept hpublished before hbefore
      have hvisible : resultingVisibility input before = .published := by
        simp [resultingVisibility, hpublished]
      have hstatus := (hafter before hbefore).mp (hkept before hbefore hvisible)
      rw [statusField_of_no_status hempty, hpublished, if_neg (by simp), if_pos rfl,
        Option.getD_some, editedStatus] at hstatus
      split_ifs at hstatus with hdraft
      · exact Or.inl hdraft
      · exact Or.inr hstatus.symm
    · intro hpending before hbefore hvisible
      rw [hafter before hbefore, statusField_of_no_status hempty, editedStatus]
      rw [resultingVisibility] at hvisible
      cases hasked : input.visibilityState with
      | draft => simp [hasked] at hvisible
      | published => rcases hpending hasked before hbefore with hstatus | hstatus <;> simp [hstatus]
      | other text =>
        have hpublished : before.status ≠ .draft := by
          intro hdraft
          simp [hasked, hdraft] at hvisible
        simp [hpublished]
  | create input rt | delete id rt | cycle now => exact Iff.rfl

theorem statusKept_run_iff (db : Database) (events : List Event) :
    AllSteps step StatusKept db events ↔ AllSteps step PublishesPending db events :=
  allSteps_congr fun event _ db => statusKept_iff db event

def retitledWhileRunning : List Event :=
  [.create pastWindow ⟨fun _ => -hour, fun k => BitVec.ofNat 96 (k + 1)⟩,
    .cycle (30 * minute),
    .update 1#96 { title := "Database upgrade", visibilityState := .published }
      ⟨fun _ => 31 * minute, fun k => BitVec.ofNat 96 (k + 3)⟩]

theorem retitledWhileRunning_returns : ¬ AllSteps step StatusKept {} retitledWhileRunning := by
  have hbefore : ((run step {} (retitledWhileRunning.take 2)).maintenance.findByKey 1#96).map
      (·.status) = some .inProgress := by
    decide +kernel
  have hafter : ((run step {} retitledWhileRunning).maintenance.findByKey 1#96).map
      (·.status) = some .scheduled := by
    decide +kernel
  intro h
  obtain ⟨before, hfound, hstatus⟩ := Option.map_eq_some_iff.mp hbefore
  have hvisible : resultingVisibility
      { title := "Database upgrade", visibilityState := .published } before = .published := by
    simp [resultingVisibility]
  obtain ⟨after, hstored, hkept⟩ := h.2.2.1 (by decide) rfl before hfound hvisible
  have hstored' : (run step {} retitledWhileRunning).maintenance.findByKey 1#96 = some after :=
    hstored
  rw [hstored', Option.map_some, Option.some.injEq, hkept, hstatus] at hafter
  exact absurd hafter (by decide)

end Statora.Maintenances
