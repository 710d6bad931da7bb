import Statora.Library.EventRun
import Statora.Maintenance.Service

/-!
# Maintenance windows over runs

Every cycle of the worker starts the scheduled windows whose time has come and
completes those in progress whose time is over. It passes over the status `active`,
and over a scheduled window that ends before it starts.
-/

namespace Statora.Maintenances
open Incidents (leaves_audited leaves_insertAuditLog)
open Library (Prog Fallible Collection AllSteps run allSteps_congr allSteps_of_invariant)

def startDue (now : ℤ) (db : Database) : Database :=
  { db with
    maintenance := db.maintenance.updateMany
      (fun maintenance => maintenance.status = .scheduled && maintenance.startTime ≤ now)
      fun maintenance => { maintenance with status := .inProgress } }

def completeDue (now : ℤ) (db : Database) : Database :=
  { db with
    maintenance := db.maintenance.updateMany
      (fun maintenance => maintenance.status = .inProgress && maintenance.endTime ≤ now)
      fun maintenance => { maintenance with status := .completed } }

def updateMaintenanceStatus (now : ℤ) : Prog Database Unit := do
  let _ ← Prog.exec (startDue now)
  let _ ← Prog.exec (completeDue now)

inductive Event
  | create (input : CreateInput) (rt : Runtime)
  | update (id : ObjectID) (input : UpdateInput) (rt : Runtime)
  | delete (id : ObjectID) (rt : Runtime)
  | cycle (now : ℤ)

def step (db : Database) : Event → Database
  | .create input rt => ((create input rt).run db).2
  | .update id input rt => ((update id input rt).run db).2
  | .delete id rt => ((delete id rt).run db).2
  | .cycle now => ((updateMaintenanceStatus now).run db).2

/-- A window that is not over in its status but in its time, or that has not started
in its status but in its time. -/
def Overdue (now : ℤ) (maintenance : Maintenance) : Prop :=
  (maintenance.status ∈ [.scheduled, .inProgress, .active] ∧ maintenance.endTime ≤ now) ∨
    (maintenance.status = .scheduled ∧ maintenance.startTime ≤ now ∧ now < maintenance.endTime)

/-- A window that the cycle at this time passes over although its time is over. -/
def PassedOver (now : ℤ) (maintenance : Maintenance) : Prop :=
  maintenance.endTime ≤ now ∧ (maintenance.status = .active ∨
    maintenance.status = .scheduled ∧ now < maintenance.startTime)

instance (now : ℤ) (maintenance : Maintenance) : Decidable (Overdue now maintenance) :=
  inferInstanceAs (Decidable (_ ∨ _))

instance (now : ℤ) (maintenance : Maintenance) : Decidable (PassedOver now maintenance) :=
  inferInstanceAs (Decidable (_ ∧ _))

def started (now : ℤ) (maintenance : Maintenance) : Maintenance :=
  if maintenance.status = .scheduled && maintenance.startTime ≤ now then
    { maintenance with status := .inProgress }
  else maintenance

def completed (now : ℤ) (maintenance : Maintenance) : Maintenance :=
  if maintenance.status = .inProgress && maintenance.endTime ≤ now then
    { maintenance with status := .completed }
  else maintenance

theorem cycle_docs (db : Database) (now : ℤ) :
    (step db (.cycle now)).maintenance.docs =
      db.maintenance.docs.map fun maintenance => completed now (started now maintenance) :=
  List.map_map

theorem overdue_cycled (now : ℤ) (maintenance : Maintenance) :
    Overdue now (completed now (started now maintenance)) ↔ PassedOver now maintenance := by
  cases hstatus : maintenance.status with
  | scheduled =>
    by_cases hstart : maintenance.startTime ≤ now
    · have hstarted : started now maintenance = { maintenance with status := .inProgress } := by
        simp [started, hstatus, hstart]
      by_cases hend : maintenance.endTime ≤ now
      · simp [Overdue, PassedOver, completed, hstarted, hstatus, hstart, hend]
      · simp [Overdue, PassedOver, completed, hstarted, hend]
    · have hwaits : completed now (started now maintenance) = maintenance := by
        simp [completed, started, hstatus, hstart]
      rw [hwaits]
      simp only [not_le] at hstart
      simp [Overdue, PassedOver, hstatus, hstart]
  | inProgress =>
    by_cases hend : maintenance.endTime ≤ now
    · simp [Overdue, PassedOver, completed, started, hstatus, hend]
    · simp [Overdue, PassedOver, completed, started, hstatus, hend]
  | active | draft | completed | other text =>
    simp [Overdue, PassedOver, completed, started, hstatus]

def DrivenToCompletion (db : Database) : Event → Prop
  | .cycle now => ∀ maintenance ∈ (step db (.cycle now)).maintenance.docs,
      ¬ Overdue now maintenance
  | _ => True

def NonePassedOver (db : Database) : Event → Prop
  | .cycle now => ∀ maintenance ∈ db.maintenance.docs, ¬ PassedOver now maintenance
  | _ => True

theorem drivenToCompletion_iff (db : Database) (event : Event) :
    DrivenToCompletion db event ↔ NonePassedOver db event := by
  cases event with
  | cycle now =>
    unfold DrivenToCompletion NonePassedOver
    dsimp only
    rw [cycle_docs, List.forall_mem_map]
    simp only [overdue_cycled]
  | create input rt | update id input rt | delete id rt => exact Iff.rfl

theorem drivenToCompletion_run_iff (db : Database) (events : List Event) :
    AllSteps step DrivenToCompletion db events ↔ AllSteps step NonePassedOver db events :=
  allSteps_congr fun event _ db => drivenToCompletion_iff db event

/-- The window is not active and does not end before it starts. -/
def Plain (maintenance : Maintenance) : Prop :=
  maintenance.status ≠ .active ∧ maintenance.startTime ≤ maintenance.endTime

def AllPlain (db : Database) : Prop := ∀ maintenance ∈ db.maintenance.docs, Plain maintenance

def StoresPlain (db : Database) : Event → Prop
  | .create input rt => ∀ startTime ∈ parseRFC3339 input.startTime,
      ∀ endTime ∈ parseRFC3339 input.endTime,
        startTime ≤ endTime ∧ (input.visibilityState ≠ .draft → rt.clock 0 ≤ startTime)
  | .update id input _ => input.statusField ≠ some .active ∧
      ∀ maintenance ∈ db.maintenance.docs, maintenance.id = id →
        (parseRFC3339 input.startTime).getD maintenance.startTime ≤
          (parseRFC3339 input.endTime).getD maintenance.endTime
  | _ => True

theorem create_maintenance_of_accepted (input : CreateInput) {startTime endTime : ℤ}
    {creatorID : ObjectID} (hstart : parseRFC3339 input.startTime = some startTime)
    (hend : parseRFC3339 input.endTime = some endTime)
    (hcreator : objectIDFromHex input.creatorIDHex = some creatorID) (rt : Runtime)
    (db : Database) : ((create input rt).run db).2.maintenance =
      db.maintenance.insertOne (input.maintenance startTime endTime creatorID rt) := by
  unfold create
  rw [hstart, hend, hcreator]
  dsimp only
  rw [Fallible.run_bind_frame Database.maintenance fun _ => leaves_audited (fun _ _ => rfl) _ _]
  unfold insertMaintenance
  rw [Fallible.run_execIf]
  cases hfresh : db.maintenance.contains
      (input.maintenance startTime endTime creatorID rt).id with
  | true => simp [Collection.insertOne_of_contains hfresh]
  | false => simp

theorem create_maintenance (input : CreateInput) (rt : Runtime) (db : Database) :
    ((create input rt).run db).2.maintenance = db.maintenance ∨
      ∃ startTime ∈ parseRFC3339 input.startTime, ∃ endTime ∈ parseRFC3339 input.endTime,
        ∃ creatorID, ((create input rt).run db).2.maintenance =
          db.maintenance.insertOne (input.maintenance startTime endTime creatorID rt) := by
  cases hstart : parseRFC3339 input.startTime with
  | none =>
    refine Or.inl ?_
    unfold create
    rw [hstart]
    rfl
  | some startTime =>
    cases hend : parseRFC3339 input.endTime with
    | none =>
      refine Or.inl ?_
      unfold create
      rw [hstart, hend]
      rfl
    | some endTime =>
      cases hcreator : objectIDFromHex input.creatorIDHex with
      | none =>
        refine Or.inl ?_
        unfold create
        rw [hstart, hend, hcreator]
        rfl
      | some creatorID =>
        exact Or.inr ⟨startTime, rfl, endTime, rfl, creatorID,
          create_maintenance_of_accepted input hstart hend hcreator rt db⟩

theorem parseField_eq_ok {text : String} {invalid : ServiceError} {field : Option ℤ}
    (h : parseField text invalid = .ok field) : field = parseRFC3339 text := by
  unfold parseField at h
  split_ifs at h with hempty
  · cases h
    rw [hempty]
    rfl
  · cases htext : parseRFC3339 text with
    | none =>
      rw [htext] at h
      cases h
    | some t =>
      rw [htext] at h
      cases h
      rfl

theorem update_maintenance (id : ObjectID) (input : UpdateInput) (rt : Runtime) (db : Database) :
    ((update id input rt).run db).2.maintenance = db.maintenance ∨
      ((update id input rt).run db).2.maintenance = db.maintenance.updateByKey id
        (input.setFields (parseRFC3339 input.startTime) (parseRFC3339 input.endTime)
          (rt.clock 0)) (input.setFields_id _ _ _) := by
  unfold update
  cases hstart : parseField input.startTime errInvalidStartTime with
  | error e => exact Or.inl rfl
  | ok startTime =>
    cases hend : parseField input.endTime errInvalidEndTime with
    | error e => exact Or.inl rfl
    | ok endTime =>
      dsimp only
      rw [parseField_eq_ok hstart, parseField_eq_ok hend]
      rw [Fallible.run_bind_frame Database.maintenance fun _ => leaves_audited (fun _ _ => rfl) _ _]
      exact Or.inr rfl

theorem delete_maintenance (id : ObjectID) (rt : Runtime) (db : Database) :
    ∀ maintenance ∈ ((delete id rt).run db).2.maintenance.docs,
      maintenance ∈ db.maintenance.docs := by
  unfold delete deleteByID
  rw [Fallible.run_bind_frame Database.maintenance
    fun _ => leaves_insertAuditLog (fun _ _ => rfl) _, Fallible.run_execIf]
  dsimp only
  split_ifs
  · exact fun maintenance hmem => List.mem_of_mem_filter hmem
  · exact fun _ hmem => hmem

theorem Plain.cycled {maintenance : Maintenance} (h : Plain maintenance) (now : ℤ) :
    Plain (completed now (started now maintenance)) := by
  unfold Plain completed started at *
  obtain ⟨hstatus, hwindow⟩ := h
  split_ifs <;> simp_all

theorem AllPlain.step {db : Database} (h : AllPlain db) {event : Event}
    (hstores : StoresPlain db event) : AllPlain (step db event) := by
  intro maintenance hmem
  cases event with
  | create input rt =>
    rcases create_maintenance input rt db with hsame |
      ⟨startTime, hstart, endTime, hend, creatorID, hinsert⟩
    · exact h maintenance (hsame ▸ hmem)
    · rcases Collection.mem_of_mem_insertOne (hinsert ▸ hmem) with hstored | rfl
      · exact h maintenance hstored
      · obtain ⟨hwindow, hnotPast⟩ := hstores startTime hstart endTime hend
        refine ⟨fun hactive => ?_, hwindow⟩
        change input.status startTime (rt.clock 0) = .active at hactive
        unfold CreateInput.status at hactive
        split_ifs at hactive with hdraft hpast
        exact absurd (hnotPast hdraft) (by omega)
  | update id input rt =>
    rcases update_maintenance id input rt db with hsame | hupdate
    · exact h maintenance (hsame ▸ hmem)
    · change maintenance ∈ ((update id input rt).run db).2.maintenance.docs at hmem
      rw [hupdate, Collection.updateByKey_docs] at hmem
      obtain ⟨before, hbefore, rfl⟩ := List.mem_map.mp hmem
      split_ifs with hid
      · refine ⟨fun hactive => ?_, hstores.2 before hbefore hid⟩
        change input.statusField.getD before.status = .active at hactive
        cases hfield : input.statusField with
        | none => exact (h before hbefore).1 (by rwa [hfield] at hactive)
        | some status => exact hstores.1 (by rw [hfield] at hactive ⊢; exact congrArg some hactive)
      · exact h before hbefore
  | delete id rt => exact h maintenance (delete_maintenance id rt db maintenance hmem)
  | cycle now =>
    rw [cycle_docs] at hmem
    obtain ⟨before, hbefore, rfl⟩ := List.mem_map.mp hmem
    exact (h before hbefore).cycled now

theorem AllPlain.nonePassedOver {db : Database} (h : AllPlain db) (event : Event) :
    NonePassedOver db event := by
  cases event with
  | cycle now =>
    rintro maintenance hmem ⟨hend, hactive | ⟨-, hstart⟩⟩
    · exact (h maintenance hmem).1 hactive
    · have hwindow := (h maintenance hmem).2
      omega
  | create input rt | update id input rt | delete id rt => trivial

theorem drivenToCompletion_of_plain (db : Database) (events : List Event) (h : AllPlain db)
    (hstores : AllSteps step StoresPlain db events) :
    AllSteps step DrivenToCompletion db events := by
  rw [drivenToCompletion_run_iff]
  exact allSteps_of_invariant (fun _ event hplain _ => hplain.nonePassedOver event)
    (fun _ _ hplain => hplain.step) h hstores

def pastWindow : CreateInput where
  title := "Upgrade"
  startTime := "1970-01-01T00:00:00Z"
  endTime := "1970-01-01T01:00:00Z"
  creatorIDHex := "0123456789abcdef01234567"

def createdLate : List Event :=
  [.create pastWindow ⟨fun _ => 30 * minute, fun k => BitVec.ofNat 96 (k + 1)⟩,
    .cycle (2 * hour)]

theorem createdLate_not_completed : ¬ AllSteps step DrivenToCompletion {} createdLate := by
  have hoverdue : ∃ maintenance ∈ (run step {} createdLate).maintenance.docs,
      Overdue (2 * hour) maintenance := by
    decide +kernel
  obtain ⟨maintenance, hmem, hover⟩ := hoverdue
  exact fun h => h.2.1 maintenance hmem hover

end Statora.Maintenances
