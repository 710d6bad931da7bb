import Statora.Incidents.Lifecycle
import Statora.Maintenance.StatusEdits

/-!
# The two formats of a description

Incidents and maintenance windows store a description as plain text and, at will, as
a rich text document. A document with text is stored together with its plain text.
An update that brings a text alone replaces the plain text and keeps the document.
-/

namespace Statora.Content
open Library (Fallible Collection AllSteps AllStates allStates_iff_allSteps allSteps_of_forall)
open Incidents (derivePlainText plainDescription)

/-- A document with text has its plain text as the description. -/
def InStep (description : String) (document : RichTextDocument) : Prop :=
  derivePlainText document ≠ "" → description = derivePlainText document

instance (description : String) (document : RichTextDocument) :
    Decidable (InStep description document) := inferInstanceAs (Decidable (_ → _))

theorem inStep_plainDescription (description : String) (document : RichTextDocument) :
    InStep (plainDescription description document) document := by
  intro htext
  simp only [plainDescription, ne_eq, if_pos htext]

def updatedDescription (description : String) (document : RichTextDocument) : Option String :=
  let plain := if description ≠ "" then some description else none
  if document.isSome then
    let derived := derivePlainText document
    if derived ≠ "" then some derived else plain
  else plain

theorem inStep_update_iff {description : String} {document : RichTextDocument} {stored : String}
    {storedDocument : RichTextDocument} (h : InStep stored storedDocument) :
    InStep ((updatedDescription description document).getD stored)
        (document.or storedDocument) ↔
      (document = none → description ≠ "" → InStep description storedDocument) := by
  cases document with
  | none =>
    by_cases hempty : description = ""
    · simpa [updatedDescription, hempty] using h
    · simp [updatedDescription, hempty]
  | some fields =>
    refine iff_of_true (fun htext => ?_) (by simp)
    rw [Option.some_or] at htext ⊢
    simp [updatedDescription, htext]

def IncidentInStep (incident : Incident) : Prop :=
  InStep incident.description incident.descriptionJSON

def MaintenanceInStep (maintenance : Maintenance) : Prop :=
  InStep maintenance.description maintenance.descriptionJSON

structure FormatsInStep (db : Database) : Prop where
  incidents : ∀ incident ∈ db.incidents.docs, IncidentInStep incident
  maintenance : ∀ maintenance ∈ db.maintenance.docs, MaintenanceInStep maintenance

inductive Event
  | createIncident (input : Incidents.CreateInput) (rt : Runtime)
  | updateIncident (id : ObjectID) (input : Incidents.RequestBody) (rt : Runtime)
  | createMaintenance (input : Maintenances.CreateInput) (rt : Runtime)
  | updateMaintenance (id : ObjectID) (input : Maintenances.UpdateInput) (rt : Runtime)

def step (db : Database) : Event → Database
  | .createIncident input rt => ((Incidents.create input rt).run db).2
  | .updateIncident id input rt => ((Incidents.update id input rt).run db).2
  | .createMaintenance input rt => ((Maintenances.create input rt).run db).2
  | .updateMaintenance id input rt => ((Maintenances.update id input rt).run db).2

/-- An accepted update that brings a text and no document finds a stored document that
the text is in step with. -/
def BringsBoth (db : Database) : Event → Prop
  | .updateIncident id input _ => (Incidents.checkedTargets input db).isSome = true →
      input.descriptionJSON = none → input.description ≠ "" →
        ∀ incident, db.incidents.findByKey id = some incident →
          InStep input.description incident.descriptionJSON
  | .updateMaintenance id input _ => input.Accepted →
      input.descriptionJSON = none → input.description ≠ "" →
        ∀ maintenance, db.maintenance.findByKey id = some maintenance →
          InStep input.description maintenance.descriptionJSON
  | _ => True

theorem maintenance_of_elsewhere {db db' : Database}
    (h : Incidents.elsewhere db' = Incidents.elsewhere db) : db'.maintenance = db.maintenance := by
  have hfield := congrArg Database.maintenance h
  exact hfield

theorem createdIncident_inStep {input : Incidents.CreateInput} {rt : Runtime} {db : Database}
    {incident : Incident} (h : Incidents.createdIncident input rt db = some incident) :
    IncidentInStep incident := by
  obtain ⟨userID, compIDs, targets, rfl⟩ := Incidents.createdIncident_eq_some h
  dsimp only [IncidentInStep, Incidents.CreateInput.incident]
  exact inStep_plainDescription input.description input.descriptionJSON

theorem createIncident_formats {db : Database} (h : FormatsInStep db)
    (input : Incidents.CreateInput) (rt : Runtime) :
    FormatsInStep (step db (.createIncident input rt)) := by
  refine ⟨?_, ?_⟩
  · change ∀ incident ∈ ((Incidents.create input rt).run db).2.incidents.docs,
      IncidentInStep incident
    rw [Incidents.create_incidents]
    cases hcreated : Incidents.createdIncident input rt db with
    | none => exact h.incidents
    | some incident =>
      dsimp only [Option.elim]
      rw [Collection.forall_insertOne_iff h.incidents]
      exact fun _ => createdIncident_inStep hcreated
  · have hsame : (step db (.createIncident input rt)).maintenance = db.maintenance :=
      maintenance_of_elsewhere (Incidents.leaves_create input rt db)
    rw [hsame]
    exact h.maintenance

theorem updateIncident_formats_iff {db : Database} (h : FormatsInStep db) (id : ObjectID)
    (input : Incidents.RequestBody) (rt : Runtime) :
    FormatsInStep (step db (.updateIncident id input rt)) ↔
      BringsBoth db (.updateIncident id input rt) := by
  have hsame : (step db (.updateIncident id input rt)).maintenance = db.maintenance :=
    maintenance_of_elsewhere (Incidents.leaves_update id input rt db)
  have hincidents : (step db (.updateIncident id input rt)).incidents = _ :=
    Incidents.update_incidents id input rt db
  have hformats : FormatsInStep (step db (.updateIncident id input rt)) ↔
      ∀ incident ∈ (step db (.updateIncident id input rt)).incidents.docs,
        IncidentInStep incident :=
    ⟨fun hnew => hnew.incidents, fun hnew => ⟨hnew, hsame ▸ h.maintenance⟩⟩
  rw [hformats, hincidents, BringsBoth]
  cases Incidents.checkedTargets input db with
  | none => exact iff_of_true h.incidents (by simp)
  | some targets =>
    dsimp only [Option.elim, Option.isSome]
    rw [Collection.forall_updateByKey_iff h.incidents]
    have hset : ∀ incident, db.incidents.findByKey id = some incident →
        (IncidentInStep (input.setFields targets (rt.clock 0) (rt.clock 1) incident) ↔
          (input.descriptionJSON = none → input.description ≠ "" →
            InStep input.description incident.descriptionJSON)) := fun incident hfound =>
      inStep_update_iff (h.incidents incident (Collection.mem_of_findByKey hfound).1)
    constructor
    · intro hall _ hnone hgiven incident hfound
      exact (hset incident hfound).mp (hall incident hfound) hnone hgiven
    · intro hboth incident hfound
      exact (hset incident hfound).mpr fun hnone hgiven => hboth rfl hnone hgiven incident hfound

theorem leaves_createMaintenance (input : Maintenances.CreateInput) (rt : Runtime) :
    (Maintenances.create input rt).Leaves Database.incidents := by
  unfold Maintenances.create
  cases parseRFC3339 input.startTime with
  | none => exact Fallible.leaves_throw _
  | some startTime =>
    cases parseRFC3339 input.endTime with
    | none => exact Fallible.leaves_throw _
    | some endTime =>
      cases objectIDFromHex input.creatorIDHex with
      | none => exact Fallible.leaves_throw _
      | some creatorID =>
        refine Fallible.Leaves.bind (Fallible.leaves_execIf _ _ _ fun _ => rfl) fun _ => ?_
        exact Incidents.leaves_audited (fun _ _ => rfl) _ _

theorem leaves_updateMaintenance (id : ObjectID) (input : Maintenances.UpdateInput)
    (rt : Runtime) : (Maintenances.update id input rt).Leaves Database.incidents := by
  unfold Maintenances.update
  cases Maintenances.parseField input.startTime Maintenances.errInvalidStartTime with
  | error e => exact Fallible.leaves_throw _
  | ok startTime =>
    cases Maintenances.parseField input.endTime Maintenances.errInvalidEndTime with
    | error e => exact Fallible.leaves_throw _
    | ok endTime =>
      refine Fallible.Leaves.bind (Fallible.leaves_findAndUpdate _ _ _ fun _ => rfl) fun _ => ?_
      exact Incidents.leaves_audited (fun _ _ => rfl) _ _

theorem createMaintenance_formats {db : Database} (h : FormatsInStep db)
    (input : Maintenances.CreateInput) (rt : Runtime) :
    FormatsInStep (step db (.createMaintenance input rt)) := by
  refine ⟨?_, ?_⟩
  · have hsame : (step db (.createMaintenance input rt)).incidents = db.incidents :=
      leaves_createMaintenance input rt db
    rw [hsame]
    exact h.incidents
  · change ∀ maintenance ∈ ((Maintenances.create input rt).run db).2.maintenance.docs,
      MaintenanceInStep maintenance
    rcases Maintenances.create_maintenance input rt db with hsame |
      ⟨startTime, _, endTime, _, creatorID, hinsert⟩
    · rw [hsame]
      exact h.maintenance
    · rw [hinsert]
      rw [Collection.forall_insertOne_iff h.maintenance]
      dsimp only [MaintenanceInStep, Maintenances.CreateInput.maintenance]
      exact fun _ => inStep_plainDescription input.description input.descriptionJSON

theorem updateMaintenance_formats_iff {db : Database} (h : FormatsInStep db) (id : ObjectID)
    (input : Maintenances.UpdateInput) (rt : Runtime) :
    FormatsInStep (step db (.updateMaintenance id input rt)) ↔
      BringsBoth db (.updateMaintenance id input rt) := by
  have hsame : (step db (.updateMaintenance id input rt)).incidents = db.incidents :=
    leaves_updateMaintenance id input rt db
  have hformats : FormatsInStep (step db (.updateMaintenance id input rt)) ↔
      ∀ maintenance ∈ (step db (.updateMaintenance id input rt)).maintenance.docs,
        MaintenanceInStep maintenance :=
    ⟨fun hnew => hnew.maintenance, fun hnew => ⟨hsame ▸ h.incidents, hnew⟩⟩
  rw [hformats, BringsBoth]
  by_cases haccepted : input.Accepted
  · have hupdated : (step db (.updateMaintenance id input rt)).maintenance = _ :=
      Maintenances.update_maintenance_of_accepted haccepted id rt db
    rw [hupdated, Collection.forall_updateByKey_iff h.maintenance]
    have hset : ∀ maintenance, db.maintenance.findByKey id = some maintenance →
        (MaintenanceInStep (input.setFields (parseRFC3339 input.startTime)
            (parseRFC3339 input.endTime) (rt.clock 0) maintenance) ↔
          (input.descriptionJSON = none → input.description ≠ "" →
            InStep input.description maintenance.descriptionJSON)) := fun maintenance hfound =>
      inStep_update_iff (h.maintenance maintenance (Collection.mem_of_findByKey hfound).1)
    constructor
    · intro hall _ hnone hgiven maintenance hfound
      exact (hset maintenance hfound).mp (hall maintenance hfound) hnone hgiven
    · intro hboth maintenance hfound
      exact (hset maintenance hfound).mpr fun hnone hgiven =>
        hboth haccepted hnone hgiven maintenance hfound
  · have hrefused : (step db (.updateMaintenance id input rt)).maintenance = db.maintenance :=
      Maintenances.update_maintenance_of_not_accepted haccepted id rt db
    rw [hrefused]
    exact iff_of_true h.maintenance fun hno => absurd hno haccepted

theorem formatsInStep_step {db : Database} (h : FormatsInStep db) (event : Event) :
    FormatsInStep (step db event) ↔ BringsBoth db event := by
  cases event with
  | createIncident input rt => exact iff_of_true (createIncident_formats h input rt) trivial
  | updateIncident id input rt => exact updateIncident_formats_iff h id input rt
  | createMaintenance input rt => exact iff_of_true (createMaintenance_formats h input rt) trivial
  | updateMaintenance id input rt => exact updateMaintenance_formats_iff h id input rt

theorem formatsInStep_run_iff (db : Database) (events : List Event) (h : FormatsInStep db) :
    AllStates step FormatsInStep db events ↔ AllSteps step BringsBoth db events :=
  allStates_iff_allSteps (fun _ event hdb _ => formatsInStep_step hdb event) h
    (allSteps_of_forall (P := fun _ _ => True) fun _ _ _ => trivial)

def paragraph (text : String) : RichTextDocument :=
  some [("type", .string "doc"), ("content", .array [.object [("text", .string text)]])]

def correctedText : List Event :=
  [.createIncident
      { title := "Outage", creatorIDHex := "0123456789abcdef01234567",
        descriptionJSON := paragraph "The cause is unknown" }
      ⟨fun k => k, fun k => BitVec.ofNat 96 (k + 1)⟩,
    .updateIncident 1#96 { description := "A disk failed" }
      ⟨fun k => k + 8, fun k => BitVec.ofNat 96 (k + 9)⟩]

theorem formatsInStep_run_iff_correctedText :
    AllStates step FormatsInStep {} correctedText ↔ AllSteps step BringsBoth {} correctedText :=
  formatsInStep_run_iff {} correctedText
    ⟨fun _ hmem => absurd hmem List.not_mem_nil, fun _ hmem => absurd hmem List.not_mem_nil⟩

theorem correctedText_out_of_step : ¬ AllStates step FormatsInStep {} correctedText := by
  have hstored : ∃ incident ∈ (Library.run step {} correctedText).incidents.docs,
      ¬ InStep incident.description incident.descriptionJSON := by
    decide +kernel
  intro h
  obtain ⟨incident, hmem, hout⟩ := hstored
  exact hout (h.last.incidents incident hmem)

end Statora.Content
