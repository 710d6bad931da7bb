import Statora.Components.Handlers
import Statora.Components.SubComponents
import Statora.Incidents.Targets
import Statora.Library.References
import Statora.Monitors.Service

/-!
# Referential integrity

Four collections refer to each other: sub-components to components, monitors to
either, and the targets of incidents to both. Incidents are validated, and an
update of a sub-component looks its component up. New sub-components and
monitors are not checked, and the delete of a component cleans up nothing.
-/

namespace Statora.Components
open Library (Collection Resolves ResolvesOne HasKey AllSteps AllStates allStates_iff_allSteps
  resolves_insertOne_iff resolves_updateByKey_iff resolves_far_updateByKey_iff
  resolves_deleteKey_iff resolvesOne_hasKey_iff resolves_empty)

def IsUnder (sub : SubComponent) (componentID : ObjectID) : Prop := sub.componentID = componentID

def WatchesComponent (monitor : Monitor) (componentID : ObjectID) : Prop :=
  monitor.subComponentID.isZero = true ∧ monitor.componentID = componentID

def WatchesSubComponent (monitor : Monitor) (subID : ObjectID) : Prop :=
  monitor.subComponentID.isZero = false ∧ monitor.subComponentID = subID

def AffectsComponent (incident : Incident) (componentID : ObjectID) : Prop :=
  ∃ target ∈ incident.affectedComponentTargets, target.componentID = componentID

structure ListedSub where
  componentID : ObjectID
  subID : ObjectID

def ListsSub (incident : Incident) (listed : ListedSub) : Prop :=
  ∃ target ∈ incident.affectedComponentTargets,
    target.componentID = listed.componentID ∧ listed.subID ∈ target.subComponentIDs

def ListedSub.Names (listed : ListedSub) (sub : SubComponent) : Prop :=
  sub.id = listed.subID ∧ sub.componentID = listed.componentID

structure Integrity (db : Database) : Prop where
  subComponents : Resolves IsUnder HasKey db.subcomponents db.components
  monitorComponents : Resolves WatchesComponent HasKey db.monitors db.components
  monitorSubComponents : Resolves WatchesSubComponent HasKey db.monitors db.subcomponents
  incidentComponents : Resolves AffectsComponent HasKey db.incidents db.components
  incidentSubComponents : Resolves ListsSub ListedSub.Names db.incidents db.subcomponents

theorem integrity_empty : Integrity {} :=
  ⟨resolves_empty, resolves_empty, resolves_empty, resolves_empty, resolves_empty⟩

inductive Event
  | createComponent (req : ComponentRequest) (rt : Runtime)
  | updateComponent (rawID : String) (req : ComponentRequest) (rt : Runtime)
  | deleteComponent (rawID : String)
  | createSubComponent (input : SubComponents.Input) (rt : Runtime)
  | updateSubComponent (id : ObjectID) (input : SubComponents.Input) (rt : Runtime)
  | deleteSubComponent (id : ObjectID) (rt : Runtime)
  | createMonitor (input : Monitors.MonitorUpsertInput) (rt : Runtime)
  | updateMonitor (id : ObjectID) (input : Monitors.MonitorUpsertInput) (rt : Runtime)
  | deleteMonitor (id : ObjectID)
  | createIncident (input : Incidents.CreateInput) (rt : Runtime)
  | updateIncident (id : ObjectID) (input : Incidents.RequestBody) (rt : Runtime)
  | addIncidentUpdate (id : ObjectID) (message : String) (status : IncidentStatus) (rt : Runtime)
  | resolveIncident (id : ObjectID) (rt : Runtime)
  | deleteIncident (id : ObjectID) (rt : Runtime)

def step (net : Monitors.Addresses) (db : Database) : Event → Database
  | .createComponent req rt => ((createComponent req rt).run db).2
  | .updateComponent rawID req rt => ((updateComponent rawID req rt).run db).2
  | .deleteComponent rawID => ((deleteComponent rawID).run db).2
  | .createSubComponent input rt => ((SubComponents.create input rt).run db).2
  | .updateSubComponent id input rt => ((SubComponents.update id input rt).run db).2
  | .deleteSubComponent id rt => ((SubComponents.delete id rt).run db).2
  | .createMonitor input rt => ((Monitors.create net input rt).run db).2
  | .updateMonitor id input rt => ((Monitors.update net id input rt).run db).2
  | .deleteMonitor id => ((Monitors.delete id).run db).2
  | .createIncident input rt => ((Incidents.create input rt).run db).2
  | .updateIncident id input rt => ((Incidents.update id input rt).run db).2
  | .addIncidentUpdate id message status rt =>
    ((Incidents.addUpdate id message status rt).run db).2
  | .resolveIncident id rt => ((Incidents.resolve id rt).run db).2
  | .deleteIncident id rt => ((Incidents.delete id rt).run db).2

def Unreferenced (db : Database) (componentID : ObjectID) : Prop :=
  (∀ sub ∈ db.subcomponents.docs, ¬ IsUnder sub componentID) ∧
    (∀ monitor ∈ db.monitors.docs, ¬ WatchesComponent monitor componentID) ∧
      ∀ incident ∈ db.incidents.docs, ¬ AffectsComponent incident componentID

def TargetStored (db : Database) (monitor : Monitor) : Prop :=
  (∀ componentID, WatchesComponent monitor componentID →
    db.components.contains componentID = true) ∧
  ∀ subID, WatchesSubComponent monitor subID → db.subcomponents.contains subID = true

def ListedUnder (db : Database) (subID componentID : ObjectID) : Prop :=
  ∀ incident ∈ db.incidents.docs, ∀ target ∈ incident.affectedComponentTargets,
    subID ∈ target.subComponentIDs → target.componentID = componentID

/-- A component goes only when nothing refers to it; a sub-component is created under a
stored component, and moves only to where the incidents list it; a monitor is written
with a stored target. -/
def KeepsReferences (net : Monitors.Addresses) (db : Database) : Event → Prop
  | .deleteComponent rawID => ∀ id, objectIDFromHex rawID = some id →
      db.components.contains id = true → Unreferenced db id
  | .createSubComponent input rt => ∀ compID, objectIDFromHex input.componentID = some compID →
      db.subcomponents.contains (rt.newID 0) = false → db.components.contains compID = true
  | .updateSubComponent id input _ => ∀ componentID, input.componentID ≠ "" →
      objectIDFromHex input.componentID = some componentID →
      db.components.contains componentID = true → db.subcomponents.contains id = true →
      ListedUnder db id componentID
  | .createMonitor input rt => ∀ monitor, Monitors.buildMonitor net input rt = .ok monitor →
      db.monitors.contains monitor.id = false → TargetStored db monitor
  | .updateMonitor id input rt => ∀ monitor, Monitors.buildMonitor net input rt = .ok monitor →
      db.monitors.contains id = true → TargetStored db monitor
  | _ => True

section Steps
variable {net : Monitors.Addresses} {db : Database}

theorem integrity_createComponent (h : Integrity db) (req : ComponentRequest) (rt : Runtime) :
    Integrity (step net db (.createComponent req rt)) := by
  change Integrity ((createComponent req rt).run db).2
  rw [run_createComponent]
  split_ifs
  · exact h
  · exact { h with
      subComponents := h.subComponents.far_insertOne _
      monitorComponents := h.monitorComponents.far_insertOne _
      incidentComponents := h.incidentComponents.far_insertOne _ }

theorem integrity_updateComponent (h : Integrity db) (rawID : String) (req : ComponentRequest)
    (rt : Runtime) : Integrity (step net db (.updateComponent rawID req rt)) := by
  change Integrity ((updateComponent rawID req rt).run db).2
  rw [run_updateComponent]
  cases objectIDFromHex rawID with
  | none => exact h
  | some id =>
    have hid := req.setFields_id (rt.clock 0)
    exact { h with
      subComponents := h.subComponents.far_updateKey id _ hid
      monitorComponents := h.monitorComponents.far_updateKey id _ hid
      incidentComponents := h.incidentComponents.far_updateKey id _ hid }

theorem integrity_deleteComponent (h : Integrity db) (rawID : String) :
    Integrity (step net db (.deleteComponent rawID)) ↔
      KeepsReferences net db (.deleteComponent rawID) := by
  change Integrity ((deleteComponent rawID).run db).2 ↔ _
  rw [run_deleteComponent]
  cases hparse : objectIDFromHex rawID with
  | none => exact iff_of_true h fun id hid => by cases hparse.symm.trans hid
  | some id =>
    dsimp only [Option.elim]
    have hsubs := resolves_deleteKey_iff h.subComponents id
    have hmonitors := resolves_deleteKey_iff h.monitorComponents id
    have hincidents := resolves_deleteKey_iff h.incidentComponents id
    constructor
    · intro hafter given hgiven hstored
      obtain rfl := Option.some.inj (hparse.symm.trans hgiven)
      exact ⟨hsubs.mp hafter.subComponents hstored,
        hmonitors.mp hafter.monitorComponents hstored,
        hincidents.mp hafter.incidentComponents hstored⟩
    · intro hkeeps
      exact { h with
        subComponents := hsubs.mpr fun hstored => (hkeeps id hparse hstored).1
        monitorComponents := hmonitors.mpr fun hstored => (hkeeps id hparse hstored).2.1
        incidentComponents := hincidents.mpr fun hstored => (hkeeps id hparse hstored).2.2 }

theorem resolvesOne_isUnder_iff {sub : SubComponent} :
    ResolvesOne IsUnder HasKey sub db.components ↔
      db.components.contains sub.componentID = true := by
  rw [resolvesOne_hasKey_iff]
  exact ⟨fun hall => hall _ rfl, fun hstored _ hunder => hunder ▸ hstored⟩

theorem integrity_createSubComponent (h : Integrity db) (input : SubComponents.Input)
    (rt : Runtime) : Integrity (step net db (.createSubComponent input rt)) ↔
      KeepsReferences net db (.createSubComponent input rt) := by
  change Integrity ((SubComponents.create input rt).run db).2 ↔ _
  rw [SubComponents.run_create]
  cases hparse : objectIDFromHex input.componentID with
  | none => exact iff_of_true h fun compID hid => by cases hparse.symm.trans hid
  | some compID =>
    dsimp only [Option.elim]
    have hinsert := resolves_insertOne_iff h.subComponents (input.sub compID rt)
    rw [resolvesOne_isUnder_iff] at hinsert
    constructor
    · intro hafter given hgiven hfresh
      obtain rfl := Option.some.inj (hparse.symm.trans hgiven)
      exact hinsert.mp hafter.subComponents hfresh
    · intro hkeeps
      exact { h with
        subComponents := hinsert.mpr fun hfresh => hkeeps compID hparse hfresh
        monitorSubComponents := h.monitorSubComponents.far_insertOne _
        incidentSubComponents := h.incidentSubComponents.far_insertOne _ }

theorem ListedSub.names_unique (listed : ListedSub) (sub : SubComponent)
    (hsub : sub ∈ db.subcomponents.docs) (sub' : SubComponent)
    (hsub' : sub' ∈ db.subcomponents.docs) (h : listed.Names sub) (h' : listed.Names sub') :
    sub = sub' :=
  Collection.eq_of_key_eq hsub hsub' (h.1.trans h'.1.symm)

theorem integrity_setFields_iff (h : Integrity db) (id : ObjectID) (input : SubComponents.Input)
    (componentID : Option ObjectID) (now : ℤ)
    (hstored : ∀ given, componentID = some given → db.components.contains given = true) :
    Integrity { db with
        subcomponents := db.subcomponents.updateByKey id (input.setFields componentID now)
          (input.setFields_id componentID now) } ↔
      ∀ given, componentID = some given → db.subcomponents.contains id = true →
        ListedUnder db id given := by
  have hlists := resolves_far_updateByKey_iff h.incidentSubComponents id
    (input.setFields componentID now) (input.setFields_id componentID now)
    (fun listed sub hsub sub' hsub' => listed.names_unique sub hsub sub' hsub')
  constructor
  · rintro hafter given rfl hmember incident hincident target htarget hlisted
    obtain ⟨sub, hsub, rfl⟩ := List.mem_map.mp (of_decide_eq_true hmember)
    obtain ⟨sub', hsub', hid, hunder⟩ := h.incidentSubComponents incident hincident
      ⟨target.componentID, Library.Keyed.key sub⟩ ⟨target, htarget, rfl, hlisted⟩
    obtain rfl := Collection.eq_of_key_eq hsub' hsub hid
    have hnames := hlists.mp hafter.incidentSubComponents sub' hsub' rfl incident hincident
      ⟨target.componentID, sub'.id⟩ ⟨target, htarget, rfl, hlisted⟩ ⟨rfl, hunder⟩
    exact hnames.2.symm
  · intro hkeeps
    refine { h with subComponents := ?_, monitorSubComponents := ?_, incidentSubComponents := ?_ }
    · refine (resolves_updateByKey_iff h.subComponents id _
        (input.setFields_id componentID now)).mpr fun sub hfound => ?_
      rw [resolvesOne_isUnder_iff]
      cases componentID with
      | none =>
        have hsub := (Collection.mem_of_findByKey hfound).1
        exact resolvesOne_isUnder_iff.mp fun r hr => h.subComponents sub hsub r hr
      | some given => exact hstored given rfl
    · exact h.monitorSubComponents.far_updateKey id _ (input.setFields_id componentID now)
    · refine hlists.mpr fun sub hsub hkey incident hincident listed hlisted hnames => ?_
      refine ⟨hnames.1, ?_⟩
      cases componentID with
      | none => exact hnames.2
      | some given =>
        obtain ⟨target, htarget, hcomponent, hlists⟩ := hlisted
        have hmember : db.subcomponents.contains id = true :=
          decide_eq_true (hkey ▸ List.mem_map_of_mem hsub)
        have hid : listed.subID = id := hnames.1.symm.trans hkey
        exact (hkeeps given rfl hmember incident hincident target htarget (hid ▸ hlists)).symm.trans
          hcomponent

theorem integrity_updateSubComponent (h : Integrity db) (id : ObjectID)
    (input : SubComponents.Input) (rt : Runtime) :
    Integrity (step net db (.updateSubComponent id input rt)) ↔
      KeepsReferences net db (.updateSubComponent id input rt) := by
  change Integrity ((SubComponents.update id input rt).run db).2 ↔ _
  rw [SubComponents.run_update]
  simp only [SubComponents.namedComponent]
  by_cases hgiven : input.componentID ≠ ""
  · rw [if_pos hgiven]
    cases hparse : objectIDFromHex input.componentID with
    | none => exact iff_of_true h fun componentID _ hid => by cases hparse.symm.trans hid
    | some componentID =>
      dsimp only [Option.bind_some]
      cases hstored : db.components.contains componentID with
      | false =>
        refine iff_of_true h fun given _ hid hcontains => ?_
        obtain rfl := Option.some.inj (hparse.symm.trans hid)
        cases hstored.symm.trans hcontains
      | true =>
        rw [if_pos rfl]
        dsimp only [Option.elim]
        rw [integrity_setFields_iff h id input (some componentID) _ fun _ hid =>
          Option.some.inj hid ▸ hstored]
        constructor
        · intro hlisted given _ hid _ hmember
          obtain rfl := Option.some.inj (hparse.symm.trans hid)
          exact hlisted componentID rfl hmember
        · intro hlisted given hid hmember
          obtain rfl := Option.some.inj hid
          exact hlisted componentID hgiven hparse hstored hmember
  · rw [if_neg hgiven]
    dsimp only [Option.elim]
    rw [integrity_setFields_iff h id input none _ fun _ hid => by cases hid]
    exact iff_of_true (fun _ hid => by cases hid) fun _ hne => absurd hne hgiven

theorem listsSub_cleaned {id : ObjectID} {now : ℤ} {incident : Incident} {listed : ListedSub}
    (h : ListsSub (if SubComponents.lists id incident then
      SubComponents.pullTargets id now incident else incident) listed) :
    ListsSub incident listed ∧ listed.subID ≠ id := by
  cases hlists : SubComponents.lists id incident with
  | true =>
    rw [hlists, if_pos rfl] at h
    obtain ⟨target', htarget', hcomponent, hsub⟩ := h
    obtain ⟨target, htarget, rfl⟩ := List.mem_map.mp htarget'
    obtain ⟨hmem, hne⟩ := List.mem_filter.mp hsub
    exact ⟨⟨target, htarget, hcomponent, hmem⟩, of_decide_eq_true hne⟩
  | false =>
    rw [hlists, if_neg Bool.false_ne_true] at h
    refine ⟨h, fun heq => ?_⟩
    obtain ⟨target, htarget, -, hsub⟩ := h
    exact List.any_eq_false.mp hlists target htarget (decide_eq_true (heq ▸ hsub))

theorem integrity_deleteSubComponent (h : Integrity db) (id : ObjectID) (rt : Runtime) :
    Integrity (step net db (.deleteSubComponent id rt)) := by
  change Integrity ((SubComponents.delete id rt).run db).2
  cases hfound : db.subcomponents.findByKey id with
  | none =>
    rw [SubComponents.run_delete_of_findByKey_eq_none hfound]
    exact h
  | some sub =>
    obtain ⟨hsub, rfl⟩ := Collection.mem_of_findByKey hfound
    change Integrity ((SubComponents.delete sub.id rt).run db).2
    rw [SubComponents.run_delete hsub]
    refine ⟨h.subComponents.near_deleteByKey _, ?_, ?_, ?_, ?_⟩
    · intro monitor' hmonitor' componentID hwatches
      obtain ⟨monitor, hmonitor, rfl⟩ := List.mem_map.mp hmonitor'
      split_ifs at hwatches
      · -- The monitor moves up to the component of the sub-component.
        exact hwatches.2 ▸ h.subComponents sub hsub _ rfl
      · exact h.monitorComponents monitor hmonitor componentID hwatches
    · intro monitor' hmonitor' subID hwatches
      obtain ⟨monitor, hmonitor, rfl⟩ := List.mem_map.mp hmonitor'
      split_ifs at hwatches with hdeleted
      · exact absurd hwatches.1 (by simp [SubComponents.retargetMonitor, ObjectID.isZero])
      · obtain ⟨other, hother, hkey⟩ := h.monitorSubComponents monitor hmonitor subID hwatches
        refine ⟨other, Collection.mem_deleteByKey.mpr ⟨hother, fun hid => hdeleted ?_⟩, hkey⟩
        exact decide_eq_true (hwatches.2.trans (hkey.symm.trans hid))
    · intro incident' hincident' componentID haffects
      obtain ⟨incident, hincident, rfl⟩ := List.mem_map.mp hincident'
      split_ifs at haffects
      · obtain ⟨target', htarget', hcomponent⟩ := haffects
        obtain ⟨target, htarget, rfl⟩ := List.mem_map.mp htarget'
        exact h.incidentComponents incident hincident componentID ⟨target, htarget, hcomponent⟩
      · exact h.incidentComponents incident hincident componentID haffects
    · intro incident' hincident' listed hlisted
      obtain ⟨incident, hincident, rfl⟩ := List.mem_map.mp hincident'
      obtain ⟨hbefore, hne⟩ := listsSub_cleaned hlisted
      obtain ⟨other, hother, hnames⟩ := h.incidentSubComponents incident hincident listed hbefore
      exact ⟨other, Collection.mem_deleteByKey.mpr
        ⟨hother, fun hid => hne (hnames.1.symm.trans hid)⟩, hnames⟩

theorem resolvesOne_watches_iff {monitor : Monitor} :
    (ResolvesOne WatchesComponent HasKey monitor db.components ∧
      ResolvesOne WatchesSubComponent HasKey monitor db.subcomponents) ↔
        TargetStored db monitor := by
  rw [resolvesOne_hasKey_iff, resolvesOne_hasKey_iff]
  exact Iff.rfl

theorem integrity_createMonitor (h : Integrity db) (input : Monitors.MonitorUpsertInput)
    (rt : Runtime) : Integrity (step net db (.createMonitor input rt)) ↔
      KeepsReferences net db (.createMonitor input rt) := by
  change Integrity ((Monitors.create net input rt).run db).2 ↔ _
  rw [Monitors.run_create]
  cases hbuilt : Monitors.buildMonitor net input rt with
  | error message => exact iff_of_true h fun monitor hok => by cases hbuilt.symm.trans hok
  | ok monitor =>
    dsimp only [Except.toOption, Option.elim]
    have hcomponents := resolves_insertOne_iff h.monitorComponents monitor
    have hsubs := resolves_insertOne_iff h.monitorSubComponents monitor
    constructor
    · intro hafter given hok hfresh
      obtain rfl := Except.ok.inj (hbuilt.symm.trans hok)
      exact resolvesOne_watches_iff.mp ⟨hcomponents.mp hafter.monitorComponents hfresh,
        hsubs.mp hafter.monitorSubComponents hfresh⟩
    · intro hkeeps
      have hstored := fun hfresh => resolvesOne_watches_iff.mpr (hkeeps monitor hbuilt hfresh)
      exact { h with
        monitorComponents := hcomponents.mpr fun hfresh => (hstored hfresh).1
        monitorSubComponents := hsubs.mpr fun hfresh => (hstored hfresh).2 }

theorem integrity_updateMonitor (h : Integrity db) (id : ObjectID)
    (input : Monitors.MonitorUpsertInput) (rt : Runtime) :
    Integrity (step net db (.updateMonitor id input rt)) ↔
      KeepsReferences net db (.updateMonitor id input rt) := by
  change Integrity ((Monitors.update net id input rt).run db).2 ↔ _
  rw [Monitors.run_update]
  cases hbuilt : Monitors.buildMonitor net input rt with
  | error message => exact iff_of_true h fun monitor hok => by cases hbuilt.symm.trans hok
  | ok monitor =>
    dsimp only [Except.toOption, Option.elim]
    have hid := Monitors.setFields_id monitor (rt.clock 1)
    have hcomponents := resolves_updateByKey_iff h.monitorComponents id _ hid
    have hsubs := resolves_updateByKey_iff h.monitorSubComponents id _ hid
    constructor
    · intro hafter given hok hmember
      obtain rfl := Except.ok.inj (hbuilt.symm.trans hok)
      obtain ⟨stored, hfound⟩ := Option.isSome_iff_exists.mp
        (Collection.findByKey_isSome.trans hmember)
      exact resolvesOne_watches_iff.mp ⟨hcomponents.mp hafter.monitorComponents stored hfound,
        hsubs.mp hafter.monitorSubComponents stored hfound⟩
    · intro hkeeps
      have hstored : ∀ stored, db.monitors.findByKey id = some stored → TargetStored db monitor :=
        fun stored hfound => hkeeps monitor hbuilt (by
          rw [← Collection.findByKey_isSome, hfound]
          rfl)
      exact { h with
        monitorComponents := hcomponents.mpr fun stored hfound =>
          (resolvesOne_watches_iff.mpr (hstored stored hfound)).1
        monitorSubComponents := hsubs.mpr fun stored hfound =>
          (resolvesOne_watches_iff.mpr (hstored stored hfound)).2 }

theorem integrity_deleteMonitor (h : Integrity db) (id : ObjectID) :
    Integrity (step net db (.deleteMonitor id)) := by
  change Integrity ((Monitors.delete id).run db).2
  rw [Monitors.run_delete]
  exact { h with
    monitorComponents := h.monitorComponents.near_deleteByKey id
    monitorSubComponents := h.monitorSubComponents.near_deleteByKey id }

theorem resolvesOne_targets_iff {incident : Incident} :
    (ResolvesOne AffectsComponent HasKey incident db.components ∧
      ResolvesOne ListsSub ListedSub.Names incident db.subcomponents) ↔
        ∀ target ∈ incident.affectedComponentTargets, Incidents.TargetStored db target := by
  constructor
  · rintro ⟨hcomponents, hsubs⟩ target htarget
    exact ⟨hcomponents _ ⟨target, htarget, rfl⟩, fun subID hsub =>
      hsubs ⟨target.componentID, subID⟩ ⟨target, htarget, rfl, hsub⟩⟩
  · intro hall
    refine ⟨fun componentID => ?_, fun listed => ?_⟩
    · rintro ⟨target, htarget, rfl⟩
      exact (hall target htarget).1
    · rintro ⟨target, htarget, hcomponent, hsub⟩
      obtain ⟨sub, hmem, hid, hunder⟩ := (hall target htarget).2 _ hsub
      exact ⟨sub, hmem, hid, hunder.trans hcomponent⟩

theorem integrity_incidents {db' : Database} (h : Integrity db)
    (helsewhere : Incidents.elsewhere db' = Incidents.elsewhere db)
    (hincidents : ∀ incident' ∈ db'.incidents.docs,
      ∀ target ∈ incident'.affectedComponentTargets, Incidents.TargetStored db target) :
    Integrity db' := by
  have hcomponents : db'.components = db.components := by
    have hsame := congrArg Database.components helsewhere
    exact hsame
  have hsubs : db'.subcomponents = db.subcomponents := by
    have hsame := congrArg Database.subcomponents helsewhere
    exact hsame
  have hmonitors : db'.monitors = db.monitors := by
    have hsame := congrArg Database.monitors helsewhere
    exact hsame
  refine ⟨?_, ?_, ?_, ?_, ?_⟩
  · rw [hcomponents, hsubs]
    exact h.subComponents
  · rw [hcomponents, hmonitors]
    exact h.monitorComponents
  · rw [hsubs, hmonitors]
    exact h.monitorSubComponents
  · rw [hcomponents]
    exact fun incident' hmem => (resolvesOne_targets_iff.mpr (hincidents incident' hmem)).1
  · rw [hsubs]
    exact fun incident' hmem => (resolvesOne_targets_iff.mpr (hincidents incident' hmem)).2

theorem Integrity.targets (h : Integrity db) {incident : Incident}
    (hincident : incident ∈ db.incidents.docs) :
    ∀ target ∈ incident.affectedComponentTargets, Incidents.TargetStored db target :=
  resolvesOne_targets_iff.mp
    ⟨h.incidentComponents incident hincident, h.incidentSubComponents incident hincident⟩

theorem targets_updateByKey (h : Integrity db) (id : ObjectID) (set : Incident → Incident)
    (hset : ∀ incident, (set incident).id = incident.id)
    (htargets : ∀ incident ∈ db.incidents.docs,
      ∀ target ∈ (set incident).affectedComponentTargets, Incidents.TargetStored db target) :
    ∀ incident' ∈ (db.incidents.updateByKey id set hset).docs,
      ∀ target ∈ incident'.affectedComponentTargets, Incidents.TargetStored db target := by
  intro incident' hincident'
  rw [Collection.updateByKey_docs] at hincident'
  obtain ⟨incident, hincident, rfl⟩ := List.mem_map.mp hincident'
  split_ifs
  · exact htargets incident hincident
  · exact h.targets hincident

theorem targets_updateByKey_keeping (h : Integrity db) (id : ObjectID)
    (set : Incident → Incident) (hset : ∀ incident, (set incident).id = incident.id)
    (hkeeps : ∀ incident, (set incident).affectedComponentTargets =
      incident.affectedComponentTargets) :
    ∀ incident' ∈ (db.incidents.updateByKey id set hset).docs,
      ∀ target ∈ incident'.affectedComponentTargets, Incidents.TargetStored db target := by
  refine targets_updateByKey h id set hset fun incident hincident => ?_
  rw [hkeeps]
  exact h.targets hincident

theorem integrity_createIncident (h : Integrity db) (input : Incidents.CreateInput)
    (rt : Runtime) : Integrity (step net db (.createIncident input rt)) := by
  refine integrity_incidents h (Incidents.leaves_create input rt db) ?_
  change ∀ incident' ∈ ((Incidents.create input rt).run db).2.incidents.docs, _
  rw [Incidents.create_incidents]
  cases hcreated : Incidents.createdIncident input rt db with
  | none => exact fun incident hincident => h.targets hincident
  | some new =>
    intro incident' hincident'
    rcases Collection.mem_of_mem_insertOne hincident' with hold | rfl
    · exact h.targets hold
    · exact Incidents.createdIncident_targets hcreated

theorem integrity_updateIncident (h : Integrity db) (id : ObjectID)
    (input : Incidents.RequestBody) (rt : Runtime) :
    Integrity (step net db (.updateIncident id input rt)) := by
  refine integrity_incidents h (Incidents.leaves_update id input rt db) ?_
  change ∀ incident' ∈ ((Incidents.update id input rt).run db).2.incidents.docs, _
  rw [Incidents.update_incidents]
  cases hchecked : Incidents.checkedTargets input db with
  | none => exact fun incident hincident => h.targets hincident
  | some targets =>
    cases targets with
    | none => exact targets_updateByKey_keeping h id _ _ fun _ => rfl
    | some given =>
      exact targets_updateByKey h id _ _ fun _ _ => Incidents.checkedTargets_targets hchecked

theorem integrity_addIncidentUpdate (h : Integrity db) (id : ObjectID) (message : String)
    (status : IncidentStatus) (rt : Runtime) :
    Integrity (step net db (.addIncidentUpdate id message status rt)) := by
  refine integrity_incidents h (Incidents.leaves_addUpdate id message status rt db) ?_
  change ∀ incident' ∈ ((Incidents.addUpdate id message status rt).run db).2.incidents.docs, _
  rw [Incidents.addUpdate_incidents]
  split_ifs
  · exact fun incident hincident => h.targets hincident
  · exact targets_updateByKey_keeping h id _ _ fun _ => rfl

theorem integrity_resolveIncident (h : Integrity db) (id : ObjectID) (rt : Runtime) :
    Integrity (step net db (.resolveIncident id rt)) := by
  refine integrity_incidents h (Incidents.leaves_resolve id rt db) ?_
  change ∀ incident' ∈ ((Incidents.resolve id rt).run db).2.incidents.docs, _
  rw [Incidents.resolve_incidents]
  exact targets_updateByKey_keeping h id _ _ fun _ => rfl

theorem integrity_deleteIncident (h : Integrity db) (id : ObjectID) (rt : Runtime) :
    Integrity (step net db (.deleteIncident id rt)) := by
  refine integrity_incidents h (Incidents.leaves_delete id rt db) ?_
  change ∀ incident' ∈ ((Incidents.delete id rt).run db).2.incidents.docs, _
  rw [Incidents.delete_incidents]
  exact fun incident hincident => h.targets (Collection.mem_deleteByKey.mp hincident).1

theorem integrity_step (h : Integrity db) (e : Event) :
    Integrity (step net db e) ↔ KeepsReferences net db e := by
  cases e with
  | createComponent req rt => exact iff_of_true (integrity_createComponent h req rt) trivial
  | updateComponent rawID req rt =>
    exact iff_of_true (integrity_updateComponent h rawID req rt) trivial
  | deleteComponent rawID => exact integrity_deleteComponent h rawID
  | createSubComponent input rt => exact integrity_createSubComponent h input rt
  | updateSubComponent id input rt => exact integrity_updateSubComponent h id input rt
  | deleteSubComponent id rt => exact iff_of_true (integrity_deleteSubComponent h id rt) trivial
  | createMonitor input rt => exact integrity_createMonitor h input rt
  | updateMonitor id input rt => exact integrity_updateMonitor h id input rt
  | deleteMonitor id => exact iff_of_true (integrity_deleteMonitor h id) trivial
  | createIncident input rt => exact iff_of_true (integrity_createIncident h input rt) trivial
  | updateIncident id input rt =>
    exact iff_of_true (integrity_updateIncident h id input rt) trivial
  | addIncidentUpdate id message status rt =>
    exact iff_of_true (integrity_addIncidentUpdate h id message status rt) trivial
  | resolveIncident id rt => exact iff_of_true (integrity_resolveIncident h id rt) trivial
  | deleteIncident id rt => exact iff_of_true (integrity_deleteIncident h id rt) trivial

end Steps

theorem integrity_run_iff (net : Monitors.Addresses) (es : List Event) :
    AllStates (step net) Integrity {} es ↔ AllSteps (step net) (KeepsReferences net) {} es :=
  allStates_iff_allSteps (P := fun _ _ => True) (fun _ e h _ => integrity_step h e)
    integrity_empty (Library.allSteps_of_forall fun _ _ _ => trivial)

def deletedParent : List Event :=
  [.createComponent { name := "API" } ⟨fun _ => 0, fun _ => 1⟩,
    .createSubComponent { componentID := ObjectID.hex 1, name := "eu" } ⟨fun _ => 0, fun _ => 2⟩,
    .deleteComponent (ObjectID.hex 1)]

def noAddresses : Monitors.Addresses where
  parse _ := .error "invalid"
  isIP _ := false
  splitHostPort _ := none

theorem delete_leaves_orphan : ¬ AllStates (step noAddresses) Integrity {} deletedParent := by
  intro h
  have hend := h.last.subComponents
  have hsub : SubComponents.Input.sub { componentID := ObjectID.hex 1, name := "eu" } 1
      ⟨fun _ => 0, fun _ => 2⟩ ∈
        (Library.run (step noAddresses) {} deletedParent).subcomponents.docs := by decide
  obtain ⟨component, hcomponent, -⟩ := hend _ hsub _ rfl
  have hnone : (Library.run (step noAddresses) {} deletedParent).components.docs = [] := by decide
  rw [hnone] at hcomponent
  exact List.not_mem_nil hcomponent

end Statora.Components
