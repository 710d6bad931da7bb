import Statora.Library.EventRun
import Statora.Library.Interleaving
import Statora.Worker.Steps

/-!
# Checks that run at the same time

The worker starts a goroutine for every due monitor and does not wait for them.
Each check looks for an active outage and for an unresolved incident before it
inserts one, in separate operations. The store has at most one of each exactly
as long as what a check found is still so when it inserts.
-/

namespace Statora.Worker
open Library (Prog Keyed Collection Pool Act AllStates AllSteps run OnOperations
  allStates_iff_onOperations)

/-- The incident service stores a creator with every incident, the worker none. -/
def createdByWorker (incident : Incident) : Bool := incident.creatorID.isNone

def openedByWorker (incident : Incident) : Bool :=
  createdByWorker incident && incident.status ≠ .resolved

def SameActive (outage other : Outage) : Prop :=
  outage.status = .active ∧ other.status = .active ∧ outage.monitorID = other.monitorID

instance (outage other : Outage) : Decidable (SameActive outage other) :=
  inferInstanceAs (Decidable (_ ∧ _ ∧ _))

def SameOpen (incident other : Incident) : Prop :=
  openedByWorker incident = true ∧ openedByWorker other = true ∧
    ∃ componentID ∈ incident.affectedComponents, componentID ∈ other.affectedComponents

/-- Each monitor has at most one active outage, each component at most one
unresolved incident of the worker. -/
structure NoDuplicates (db : Database) : Prop where
  outages : db.outages.Exclusive SameActive
  incidents : db.incidents.Exclusive SameOpen

def insertOutage (outage : Outage) (db : Database) : Database :=
  { db with outages := db.outages.insertOne outage }

def insertIncident (incident : Incident) (db : Database) : Database :=
  { db with incidents := db.incidents.insertOne incident }

inductive CheckWrite (upd : Database → Database) : Prop
  | outage (mon : Monitor) (rt : Runtime) (h : upd = insertOutage (newOutage mon rt))
  | incident (mon : Monitor) (ids : List ObjectID) (rt : Runtime)
      (h : upd = insertIncident (newIncident mon ids rt))
  | other (h : ∀ db, NoDuplicates db → NoDuplicates (upd db))

theorem CheckWrite.of_frame {upd : Database → Database}
    (houtages : ∀ db, (upd db).outages = db.outages)
    (hincidents : ∀ db, (upd db).incidents = db.incidents) : CheckWrite upd := by
  refine .other fun db h => ⟨?_, ?_⟩
  · rw [houtages]
    exact h.outages
  · rw [hincidents]
    exact h.incidents

theorem CheckWrite.read : CheckWrite id := .of_frame (fun _ => rfl) fun _ => rfl

theorem CheckWrite.endOutage (outage : Outage) (endTime : ℤ) :
    CheckWrite (endOutage outage endTime) := by
  refine .other fun db h => ⟨?_, h.incidents⟩
  have hkept : ∀ stored ∈ (Worker.endOutage outage endTime db).outages.docs,
      stored.status = .active → stored ∈ db.outages.docs := by
    intro stored hmem hactive
    unfold Worker.endOutage at hmem
    dsimp only at hmem
    rw [Collection.updateByKey_docs] at hmem
    obtain ⟨old, hold, rfl⟩ := List.mem_map.mp hmem
    split_ifs at hactive ⊢
    exact hold
  exact h.outages.mono (fun stored hmem _ _ hsame => hkept stored hmem hsame.1)
    fun _ _ stored hmem hsame => hkept stored hmem hsame.2.1

theorem CheckWrite.resolveIncident (incident : Incident) (now : ℤ) :
    CheckWrite (resolveIncident incident now) := by
  refine .other fun db h => ⟨h.outages, ?_⟩
  have hkept : ∀ stored ∈ (Worker.resolveIncident incident now db).incidents.docs,
      openedByWorker stored = true → stored ∈ db.incidents.docs := by
    intro stored hmem hopen
    unfold Worker.resolveIncident at hmem
    dsimp only at hmem
    rw [Collection.updateByKey_docs] at hmem
    obtain ⟨old, hold, rfl⟩ := List.mem_map.mp hmem
    split_ifs at hopen ⊢
    · simp [openedByWorker, markResolved] at hopen
    · exact hold
  exact h.incidents.mono (fun stored hmem _ _ hsame => hkept stored hmem hsame.1)
    fun _ _ stored hmem hsame => hkept stored hmem hsame.2.1

/-- The log and the result of the monitor come first. What a check performs after them
leaves the monitors as they are. -/
structure LaterWrite (upd : Database → Database) : Prop where
  write : CheckWrite upd
  monitors : ∀ db, (upd db).monitors = db.monitors

structure StatusWrite (upd : Database → Database) : Prop where
  outages : ∀ db, (upd db).outages = db.outages
  incidents : ∀ db, (upd db).incidents = db.incidents
  monitors : ∀ db, (upd db).monitors = db.monitors

theorem StatusWrite.later {upd : Database → Database} (h : StatusWrite upd) : LaterWrite upd :=
  ⟨.of_frame h.outages h.incidents, h.monitors⟩

theorem LaterWrite.read : LaterWrite id := ⟨.read, fun _ => rfl⟩

section Programs
variable (mon : Monitor) (rt : Runtime)

theorem performs_status {upd : Database → Database} (h : StatusWrite upd) :
    (do let _ ← Prog.exec upd; pure () : Prog Database Unit).Performs LaterWrite :=
  (Prog.performs_exec h.later).bind fun _ => Prog.performs_pure _

theorem performs_hasActiveOutageForTarget : (hasActiveOutageForTarget mon).Performs LaterWrite := by
  unfold hasActiveOutageForTarget
  split_ifs
  · exact Prog.performs_pure _
  · exact (Prog.performs_query .read _).bind fun _ => Prog.performs_pure _

theorem performs_hasActiveIncidentForTarget :
    (hasActiveIncidentForTarget mon).Performs LaterWrite := by
  unfold hasActiveIncidentForTarget incidentComponentID
  refine Prog.Performs.bind ?_ fun found => ?_
  · split_ifs
    · exact (Prog.performs_query .read _).bind fun _ => Prog.performs_pure _
    · exact Prog.performs_pure _
  · cases found with
    | none => exact Prog.performs_pure _
    | some componentID =>
      dsimp only
      split_ifs
      · exact Prog.performs_pure _
      · exact (Prog.performs_query .read _).bind fun _ => Prog.performs_pure _

theorem performs_applySSLWarningStatus (warning : Bool) :
    (applySSLWarningStatus mon warning rt).Performs LaterWrite := by
  have hrestore : ∀ upd : Database → Database, StatusWrite upd →
        (do
          let hasActiveOutage ← hasActiveOutageForTarget mon
          let hasActiveIncident ← hasActiveIncidentForTarget mon
          if shouldRestoreOperational hasActiveOutage hasActiveIncident then
            let _ ← Prog.exec upd : Prog Database Unit).Performs LaterWrite := by
    intro upd hstatus
    refine (performs_hasActiveOutageForTarget mon).bind fun hasActiveOutage =>
      (performs_hasActiveIncidentForTarget mon).bind fun hasActiveIncident => ?_
    split_ifs
    · exact performs_status hstatus
    · exact Prog.performs_pure _
  unfold applySSLWarningStatus
  split_ifs
  · exact performs_status ⟨fun _ => rfl, fun _ => rfl, fun _ => rfl⟩
  · exact hrestore _ ⟨fun _ => rfl, fun _ => rfl, fun _ => rfl⟩
  · exact performs_status ⟨fun _ => rfl, fun _ => rfl, fun _ => rfl⟩
  · exact hrestore _ ⟨fun _ => rfl, fun _ => rfl, fun _ => rfl⟩
  · exact Prog.performs_pure _

theorem performs_updateDailyUptime (monitorID : ObjectID) (status : MonitorLogStatus) :
    (updateDailyUptime monitorID status rt).Performs LaterWrite := by
  unfold updateDailyUptime
  refine (Prog.performs_query .read _).bind fun existing => ?_
  split <;> exact performs_status ⟨fun _ => rfl, fun _ => rfl, fun _ => rfl⟩

theorem performs_affectTarget : (affectTarget mon rt).Performs LaterWrite := by
  have hmark : ∀ (upd : Database → Database) (ids : List ObjectID), StatusWrite upd →
        (do let _ ← Prog.exec upd; pure ids : Prog Database (List ObjectID)).Performs LaterWrite :=
    fun upd ids hstatus => (Prog.performs_exec hstatus.later).bind fun _ => Prog.performs_pure _
  unfold affectTarget
  split_ifs
  · exact hmark _ _ ⟨fun _ => rfl, fun _ => rfl, fun _ => rfl⟩
  · refine (Prog.performs_query .read _).bind fun subComp => ?_
    split
    · exact Prog.performs_pure _
    · exact hmark _ _ ⟨fun _ => rfl, fun _ => rfl, fun _ => rfl⟩
  · exact Prog.performs_pure _

theorem performs_openIncident (ids : List ObjectID) :
    (openIncident mon ids rt).Performs LaterWrite := by
  unfold openIncident
  refine (Prog.performs_query .read _).bind fun existingIncident => ?_
  split
  · exact Prog.performs_pure _
  · exact (Prog.performs_exec ⟨.incident mon ids rt rfl, fun _ => rfl⟩).bind fun _ =>
      Prog.performs_pure _

theorem performs_openOutage : (openOutage mon rt).Performs LaterWrite := by
  unfold openOutage
  refine (Prog.performs_query .read _).bind fun logs => ?_
  split
  · exact Prog.performs_pure _
  · split_ifs
    · exact Prog.performs_pure _
    · exact Prog.performs_pure _
    · refine (Prog.performs_query .read _).bind fun existingOutage => ?_
      split
      · exact Prog.performs_pure _
      · unfold startOutage
        refine (Prog.performs_exec ⟨.outage mon rt rfl, fun _ => rfl⟩).bind fun _ =>
          (performs_affectTarget mon rt).bind fun ids => ?_
        split
        · exact Prog.performs_pure _
        · exact performs_openIncident mon rt _

theorem performs_closeOutage (monitorID : ObjectID) :
    (closeOutage monitorID rt).Performs LaterWrite := by
  unfold closeOutage
  refine (Prog.performs_query .read _).bind fun existingOutage => ?_
  split
  · exact Prog.performs_pure _
  · refine (Prog.performs_update _ ⟨.endOutage _ _, fun _ => rfl⟩).bind fun matched => ?_
    split
    · refine (Prog.performs_query .read _).bind fun updatedIncident => ?_
      split
      · exact Prog.performs_pure _
      · refine (Prog.performs_exec ⟨.resolveIncident _ _, fun _ => rfl⟩).bind fun _ => ?_
        dsimp only
        split_ifs
        · refine (Prog.performs_exec (StatusWrite.later ?_)).bind fun _ => performs_status ?_
          · exact ⟨fun _ => rfl, fun _ => rfl, fun _ => rfl⟩
          · exact ⟨fun _ => rfl, fun _ => rfl, fun _ => rfl⟩
        · exact performs_status ⟨fun _ => rfl, fun _ => rfl, fun _ => rfl⟩
        · exact performs_status ⟨fun _ => rfl, fun _ => rfl, fun _ => rfl⟩
        · exact Prog.performs_pure _
    · exact Prog.performs_pure _

end Programs

def Check.program (c : Check) : Prog Database Unit := checkMonitor c.mon c.probes c.rt

def Check.following (c : Check) : Prog Database Unit := do
  let result := probe c.mon c.probes
  if c.mon.type = .ssl || c.mon.advanced.domainExpiry then
    applySSLWarningStatus c.mon (result.sslWarning || result.domainWarning) c.rt.warning
  updateDailyUptime c.mon.id result.status c.rt.uptime
  detectOutage c.mon result.status c.rt.outage

def insertLog (c : Check) (db : Database) : Database :=
  { db with
    monitorLogs := db.monitorLogs.insertOne
      (logEntry c.mon (probe c.mon c.probes) c.rt.check) }

def recordResult (c : Check) : Database → Database :=
  recordCheck c.mon (probe c.mon c.probes) (c.rt.check.clock 3)

theorem Check.program_eq (c : Check) :
    c.program = .op (insertLog c) fun _ => .op (recordResult c) fun _ => c.following := rfl

theorem Check.following_performs (c : Check) : c.following.Performs LaterWrite := by
  have hrest : (do
      updateDailyUptime c.mon.id (probe c.mon c.probes).status c.rt.uptime
      detectOutage c.mon (probe c.mon c.probes).status c.rt.outage :
        Prog Database Unit).Performs LaterWrite := by
    refine (performs_updateDailyUptime _ _ _).bind fun _ => ?_
    unfold detectOutage
    split_ifs
    · exact performs_openOutage _ _
    · exact performs_closeOutage _ _
  unfold Check.following
  dsimp only
  split_ifs
  · exact (performs_applySSLWarningStatus _ _ _).bind fun _ => hrest
  · exact hrest

theorem Check.performs (c : Check) : c.program.Performs CheckWrite := by
  rw [Check.program_eq]
  exact ⟨.of_frame (fun _ => rfl) fun _ => rfl, fun _ => ⟨.of_frame (fun _ => rfl) fun _ => rfl,
    fun _ => c.following_performs.mono fun _ h => h.write⟩⟩

/-- When a check inserts a document, what it found before is still so: its monitor
has no active outage, its component no unresolved incident of the worker. -/
structure FoundStillHolds (db : Database) (upd : Database → Database) : Prop where
  outage : ∀ mon rt, upd = insertOutage (newOutage mon rt) →
    db.outages.contains (rt.newID 0) = false → activeOutage mon.id db = none
  incident : ∀ mon ids rt, upd = insertIncident (newIncident mon ids rt) →
    db.incidents.contains (rt.newID 1) = false →
      ∀ incident ∈ db.incidents.docs, openedByWorker incident = true →
        ∀ componentID ∈ ids, componentID ∉ incident.affectedComponents

def InsertsOnFound : Pool Check Database → Act Check → Prop :=
  OnOperations Check.program fun pool _ upd succeeds =>
    succeeds = true → FoundStillHolds pool.store upd

theorem noDuplicates_insertOutage {db : Database} (h : NoDuplicates db) (mon : Monitor)
    (rt : Runtime) : NoDuplicates (insertOutage (newOutage mon rt) db) ↔
      (db.outages.contains (rt.newID 0) = false → activeOutage mon.id db = none) := by
  have hiff := Collection.exclusive_insertOne SameActive
    (fun _ _ hsame => ⟨hsame.2.1, hsame.1, hsame.2.2.symm⟩) h.outages (newOutage mon rt)
  have hnone : activeOutage mon.id db = none ↔
      ∀ outage ∈ db.outages.docs, ¬ SameActive (newOutage mon rt) outage := by
    rw [activeOutage_eq_none]
    exact forall₂_congr fun outage _ =>
      ⟨fun hne hsame => hne hsame.2.2.symm hsame.2.1,
        fun hne hid hactive => hne ⟨rfl, hactive, hid.symm⟩⟩
  rw [hnone]
  exact ⟨fun hafter => hiff.mp hafter.outages, fun hfound => ⟨hiff.mpr hfound, h.incidents⟩⟩

theorem noDuplicates_insertIncident {db : Database} (h : NoDuplicates db) (mon : Monitor)
    (ids : List ObjectID) (rt : Runtime) :
    NoDuplicates (insertIncident (newIncident mon ids rt) db) ↔
      (db.incidents.contains (rt.newID 1) = false →
        ∀ incident ∈ db.incidents.docs, openedByWorker incident = true →
          ∀ componentID ∈ ids, componentID ∉ incident.affectedComponents) := by
  have hiff := Collection.exclusive_insertOne SameOpen
    (fun _ _ ⟨hopen, hopen', id, hid, hid'⟩ => ⟨hopen', hopen, id, hid', hid⟩) h.incidents
    (newIncident mon ids rt)
  have hnone : ∀ incident : Incident, ¬ SameOpen (newIncident mon ids rt) incident ↔
      (openedByWorker incident = true →
        ∀ componentID ∈ ids, componentID ∉ incident.affectedComponents) := fun incident =>
    ⟨fun hne hopen id hid hid' => hne ⟨rfl, hopen, id, hid, hid'⟩,
      fun hne ⟨_, hopen, id, hid, hid'⟩ => hne hopen id hid hid'⟩
  simp only [hnone] at hiff
  exact ⟨fun hafter => hiff.mp hafter.incidents, fun hfound => ⟨h.outages, hiff.mpr hfound⟩⟩

theorem noDuplicates_write {db : Database} {upd : Database → Database} (h : NoDuplicates db)
    (hwrite : CheckWrite upd) : NoDuplicates (upd db) ↔ FoundStillHolds db upd := by
  constructor
  · intro hafter
    refine ⟨fun mon rt hupd => ?_, fun mon ids rt hupd => ?_⟩
    · rw [hupd] at hafter
      exact (noDuplicates_insertOutage h mon rt).mp hafter
    · rw [hupd] at hafter
      exact (noDuplicates_insertIncident h mon ids rt).mp hafter
  · intro hfound
    cases hwrite with
    | outage mon rt hupd =>
      rw [hupd]
      exact (noDuplicates_insertOutage h mon rt).mpr (hfound.outage mon rt hupd)
    | incident mon ids rt hupd =>
      rw [hupd]
      exact (noDuplicates_insertIncident h mon ids rt).mpr (hfound.incident mon ids rt hupd)
    | other hkeeps => exact hkeeps db h

theorem noDuplicates_run_iff (db : Database) (acts : List (Act Check)) (h : NoDuplicates db) :
    AllStates (Pool.step Check.program) (fun pool => NoDuplicates pool.store) { store := db } acts ↔
      AllSteps (Pool.step Check.program) InsertsOnFound { store := db } acts := by
  refine allStates_iff_onOperations (I := fun pool => NoDuplicates pool.store) (fun _ _ h => h)
    (fun pool k t upd next succeeds h hperforming => ?_) h acts
  rw [hperforming.step_eq]
  cases succeeds with
  | false => exact iff_of_true h fun hfalse => absurd hfalse (by simp)
  | true =>
    rw [if_pos rfl, noDuplicates_write h (hperforming.performs t.call.performs)]
    exact ⟨fun hfound _ => hfound, fun hfound => hfound rfl⟩

def overlappingChecks : List (Act Check) :=
  (portChecks portMonitor [false, false, false, false]).map .call ++
    List.replicate 10 (.op 0 true) ++ List.replicate 10 (.op 1 true) ++
    (List.replicate 10 [.op 2 true, .op 3 true]).flatten

theorem noDuplicates_run_iff_overlapping :
    AllStates (Pool.step Check.program) (fun pool => NoDuplicates pool.store) { store := {} }
        overlappingChecks ↔
      AllSteps (Pool.step Check.program) InsertsOnFound { store := {} } overlappingChecks :=
  noDuplicates_run_iff {} overlappingChecks
    ⟨fun _ hmem => absurd hmem List.not_mem_nil, fun _ hmem => absurd hmem List.not_mem_nil⟩

theorem overlappingChecks_duplicate :
    NoDuplicates {} ∧
    ¬ AllStates (Pool.step Check.program) (fun pool => NoDuplicates pool.store) { store := {} }
      overlappingChecks := by
  refine ⟨⟨fun _ hmem => absurd hmem List.not_mem_nil, fun _ hmem => absurd hmem List.not_mem_nil⟩,
    fun h => ?_⟩
  have htwo : ¬ (run (Pool.step Check.program) { store := {} }
      overlappingChecks).store.outages.Exclusive SameActive := by
    decide +kernel
  exact htwo h.last.outages

end Statora.Worker
