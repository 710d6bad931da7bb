import Statora.Worker.Check

/-!
# What one check does to the store

The sequential run of every worker function as an update of the store. The
later modules read these updates field by field and never unfold a program.
-/

namespace Statora.Worker
open Library (Prog Keyed Collection)

/-- The component or sub-component whose status a monitor drives. -/
inductive Target
  | component (id : ObjectID)
  | subComponent (id : ObjectID)
  deriving DecidableEq, Repr

def target (mon : Monitor) : Option Target :=
  if !mon.componentID.isZero then some (.component mon.componentID)
  else if !mon.subComponentID.isZero then some (.subComponent mon.subComponentID)
  else none

def Target.componentID (db : Database) : Target → Option ObjectID
  | .component id => some id
  | .subComponent id => (db.subcomponents.findByKey id).map (·.componentID)

def Target.storedStatus (db : Database) : Target → Option ComponentStatus
  | .component id => (db.components.findByKey id).map (·.status)
  | .subComponent id => (db.subcomponents.findByKey id).map (·.status)

def hasActiveIncident (mon : Monitor) (db : Database) : Bool :=
  ((target mon).bind (Target.componentID db)).any fun id =>
    !id.isZero && (unresolvedIncident [id] db).isSome

def restores (mon : Monitor) (db : Database) : Bool :=
  shouldRestoreOperational (activeOutageOnTarget mon db).isSome (hasActiveIncident mon db)

def warned (mon : Monitor) (warning : Bool) (rt : Runtime) (db : Database) : Database :=
  match target mon with
  | none => db
  | some (.component id) =>
    if warning then setComponentStatus id .degradedPerf (rt.clock 0) db
    else if restores mon db then restoreComponent id (rt.clock 0) db else db
  | some (.subComponent id) =>
    if warning then setSubComponentStatus id .degradedPerf (rt.clock 0) db
    else if restores mon db then restoreSubComponent id (rt.clock 0) db else db

theorem run_hasActiveOutageForTarget (mon : Monitor) (db : Database) :
    (hasActiveOutageForTarget mon).run db = ((activeOutageOnTarget mon db).isSome, db) := by
  unfold hasActiveOutageForTarget
  split_ifs with h
  · rw [Bool.and_eq_true] at h
    have hnone : activeOutageOnTarget mon db = none := by
      simp [activeOutageOnTarget, Collection.findOne, List.find?_eq_none, h.1, h.2]
    simp [hnone]
  · simp

theorem run_hasActiveIncidentForTarget (mon : Monitor) (db : Database) :
    (hasActiveIncidentForTarget mon).run db = (hasActiveIncident mon db, db) := by
  unfold hasActiveIncidentForTarget incidentComponentID hasActiveIncident target
  cases hc : mon.componentID.isZero with
  | false => simp [hc, Target.componentID]
  | true =>
    cases hs : mon.subComponentID.isZero with
    | true => simp [hc]
    | false =>
      cases hsub : db.subcomponents.findByKey mon.subComponentID with
      | none => simp [Target.componentID, hsub]
      | some sub =>
        cases hz : sub.componentID.isZero <;> simp [Target.componentID, hsub, hz]

theorem run_applySSLWarningStatus (mon : Monitor) (warning : Bool) (rt : Runtime)
    (db : Database) :
    (applySSLWarningStatus mon warning rt).run db = ((), warned mon warning rt db) := by
  unfold applySSLWarningStatus warned target restores
  cases hc : mon.componentID.isZero <;> cases hs : mon.subComponentID.isZero <;>
    cases warning <;>
    simp only [Prog.run_bind, Prog.run_ite, Prog.run_exec, Prog.run_pure,
      run_hasActiveOutageForTarget, run_hasActiveIncidentForTarget, Bool.not_true, Bool.not_false,
      Bool.false_eq_true, if_true, if_false] <;>
    split_ifs <;> rfl

theorem run_updateDailyUptime (monitorID : ObjectID) (status : MonitorLogStatus) (rt : Runtime)
    (db : Database) :
    ∃ records, (updateDailyUptime monitorID status rt).run db =
      ((), { db with dailyUptime := records }) := by
  unfold updateDailyUptime
  cases hfound : db.dailyUptime.findOne
      (isToday monitorID (calendarDate (rt.clock 0) * day)) with
  | none =>
    simp only [Prog.run_bind, Prog.run_query, hfound]
    exact ⟨_, rfl⟩
  | some record =>
    simp only [Prog.run_bind, Prog.run_query, hfound]
    exact ⟨_, rfl⟩

def failsThrice (monitorID : ObjectID) (db : Database) : Bool :=
  decide (3 ≤ (latestLogs monitorID db).length) &&
    (latestLogs monitorID db).all (fun log => log.status = .down)

def opensOutage (monitorID : ObjectID) (db : Database) : Bool :=
  failsThrice monitorID db && (activeOutage monitorID db).isNone

theorem activeOutage_eq_some {monitorID : ObjectID} {db : Database} {outage : Outage}
    (h : activeOutage monitorID db = some outage) :
    outage ∈ db.outages.docs ∧ outage.monitorID = monitorID ∧ outage.status = .active := by
  have hp := List.find?_some h
  simp only [Bool.and_eq_true, decide_eq_true_eq] at hp
  exact ⟨List.mem_of_find?_eq_some h, hp⟩

theorem activeOutage_eq_none {monitorID : ObjectID} {db : Database} :
    activeOutage monitorID db = none ↔
      ∀ outage ∈ db.outages.docs, outage.monitorID = monitorID → outage.status ≠ .active := by
  simp [activeOutage, Collection.findOne, List.find?_eq_none]

def markMajorOutage (mon : Monitor) (rt : Runtime) (db : Database) : Database :=
  match target mon with
  | none => db
  | some (.component id) => setComponentStatus id .majorOutage (rt.clock 1) db
  | some (.subComponent id) => setSubComponentStatusOnly id .majorOutage db

def opensIncident (mon : Monitor) (db : Database) : Option ObjectID :=
  ((target mon).bind (Target.componentID db)).filter
    fun id => (unresolvedIncident [id] db).isNone

def outageOpened (mon : Monitor) (rt : Runtime) (db : Database) : Database :=
  { markMajorOutage mon rt db with
    outages := db.outages.insertOne (newOutage mon rt)
    incidents := (opensIncident mon db).elim db.incidents
      fun id => db.incidents.insertOne (newIncident mon [id] rt) }

def incidentRecovered (outage : Outage) (incident : Incident) (rt : Runtime) (db : Database) :
    Database :=
  let db := resolveIncident incident (rt.clock 1) db
  let db := if outage.componentID.isZero then db
    else setComponentStatus outage.componentID .operational (rt.clock 1) db
  if outage.subComponentID.isZero then db
  else setSubComponentStatusOnly outage.subComponentID .operational db

def recoveredIncident (outage : Outage) (db : Database) : Option Incident :=
  unresolvedIncident [outage.componentID, outage.subComponentID] db

theorem recoveredIncident_eq_some {outage : Outage} {db : Database} {incident : Incident}
    (h : recoveredIncident outage db = some incident) :
    incident ∈ db.incidents.docs ∧ incident.status ≠ .resolved := by
  have hquery := List.find?_some h
  simp only [Bool.and_eq_true, decide_eq_true_eq] at hquery
  exact ⟨List.mem_of_find?_eq_some h, hquery.2⟩

def outageClosed (outage : Outage) (rt : Runtime) (db : Database) : Database :=
  let ended := endOutage outage (rt.clock 0) db
  (recoveredIncident outage db).elim ended fun incident =>
    incidentRecovered outage incident rt ended

theorem run_affectTarget (mon : Monitor) (rt : Runtime) (db : Database) :
    ((affectTarget mon rt).run db).2 = markMajorOutage mon rt db ∧
      ((affectTarget mon rt).run db).1 = ((target mon).bind (Target.componentID db)).toList := by
  unfold affectTarget markMajorOutage target
  cases hc : mon.componentID.isZero with
  | false => exact ⟨rfl, rfl⟩
  | true =>
    cases hs : mon.subComponentID.isZero with
    | true => exact ⟨rfl, rfl⟩
    | false =>
      cases hsub : db.subcomponents.findByKey mon.subComponentID with
      | some sub => simp [Target.componentID, hsub]
      | none =>
        have hsame := Collection.updateByKey_of_findByKey_eq_none
          (subComponentWithStatus .majorOutage) (subComponentWithStatus_id .majorOutage) hsub
        simp [Target.componentID, hsub, setSubComponentStatusOnly, hsame]

theorem run_openIncident (mon : Monitor) (id : ObjectID) (rt : Runtime) (db : Database) :
    (openIncident mon [id] rt).run db =
      ((), if (unresolvedIncident [id] db).isNone then
        { db with incidents := db.incidents.insertOne (newIncident mon [id] rt) } else db) := by
  unfold openIncident
  cases hincident : unresolvedIncident [id] db <;> simp [hincident]

theorem run_startOutage (mon : Monitor) (rt : Runtime) (db : Database) :
    (startOutage mon rt).run db = ((), outageOpened mon rt db) := by
  obtain ⟨hmark, haffect⟩ := run_affectTarget mon rt
    { db with outages := db.outages.insertOne (newOutage mon rt) }
  have hcomponent : ∀ outages, (target mon).bind (Target.componentID { db with outages }) =
      (target mon).bind (Target.componentID db) := fun outages => by
    rcases target mon with _ | (_ | _) <;> rfl
  rw [hcomponent] at haffect
  unfold startOutage outageOpened opensIncident
  simp only [Prog.run_bind, Prog.run_exec, hmark, haffect]
  cases hid : (target mon).bind (Target.componentID db) with
  | none =>
    rcases htarget : target mon with _ | (_ | _) <;>
      simp [markMajorOutage, htarget, setComponentStatus, setSubComponentStatusOnly]
  | some id =>
    rw [Option.toList_some, run_openIncident]
    rcases htarget : target mon with _ | (_ | _) <;>
      cases hincident : unresolvedIncident [id] db <;>
      simp_all [markMajorOutage, setComponentStatus, setSubComponentStatusOnly, unresolvedIncident,
        Option.filter]

theorem run_openOutage (mon : Monitor) (rt : Runtime) (db : Database) :
    (openOutage mon rt).run db =
      ((), if opensOutage mon.id db then outageOpened mon rt db else db) := by
  unfold openOutage opensOutage failsThrice
  by_cases hlen : (latestLogs mon.id db).length < 3
  · simp [hlen]
  by_cases hany : ∃ log ∈ latestLogs mon.id db, log.status ≠ .down
  · simp [hlen, hany]
  cases hact : activeOutage mon.id db with
  | some outage => simp [hlen, hany, hact]
  | none =>
    have hlen' : 3 ≤ (latestLogs mon.id db).length := not_lt.mp hlen
    have hany' : ∀ log ∈ latestLogs mon.id db, log.status = .down := by
      push Not at hany
      exact hany
    have hall := List.all_eq_true.mpr fun log h => decide_eq_true (hany' log h)
    simp [hlen, hlen', hact, hany, hall, run_startOutage]

theorem run_closeOutage (monitorID : ObjectID) (rt : Runtime) (db : Database) :
    (closeOutage monitorID rt).run db =
      ((), (activeOutage monitorID db).elim db fun outage => outageClosed outage rt db) := by
  unfold closeOutage
  cases hact : activeOutage monitorID db with
  | none => simp [hact]
  | some outage =>
    have hmem : db.outages.contains outage.id = true :=
      decide_eq_true (List.mem_map_of_mem (List.mem_of_find?_eq_some hact))
    have hsame : unresolvedIncident [outage.componentID, outage.subComponentID]
        (endOutage outage (rt.clock 0) db) = recoveredIncident outage db := rfl
    cases hincident : recoveredIncident outage db with
    | none => simp [hact, hmem, hsame, hincident, outageClosed]
    | some incident =>
      cases hc : outage.componentID.isZero <;> cases hs : outage.subComponentID.isZero <;>
        simp [hact, hmem, hsame, hincident, outageClosed, incidentRecovered, hc, hs]

structure Check where
  mon : Monitor
  probes : Probes
  rt : CheckRuntime

def numberedRuntime (number : ℕ) : CheckRuntime :=
  let rt : Runtime :=
    ⟨fun k => 60 * second * number + k, fun k => BitVec.ofNat 96 (8 * number + k + 1)⟩
  ⟨rt, rt, rt, rt⟩

namespace Check

def result (c : Check) : CheckResult := probe c.mon c.probes

def isDown (c : Check) : Bool := c.result.status = .down

def checkedAt (c : Check) : ℤ := c.rt.check.clock 2

def log (c : Check) : MonitorLog := logEntry c.mon c.result c.rt.check

def outage (c : Check) : Outage := newOutage c.mon c.rt.outage

def checksExpiry (c : Check) : Bool := c.mon.type = .ssl || c.mon.advanced.domainExpiry

def warning (c : Check) : Bool := c.result.sslWarning || c.result.domainWarning

def logged (c : Check) (db : Database) : Database :=
  { db with monitorLogs := db.monitorLogs.insertOne c.log }

def recorded (c : Check) (db : Database) : Database :=
  let db := recordCheck c.mon c.result (c.rt.check.clock 3) (c.logged db)
  let db := if c.checksExpiry then warned c.mon c.warning c.rt.warning db else db
  ((updateDailyUptime c.mon.id c.result.status c.rt.uptime).run db).2

end Check

def portChecks (mon : Monitor) (answers : List Bool) : List Check :=
  answers.zipIdx.map fun (answer, number) => ⟨mon, { tcp := answer }, numberedRuntime number⟩

def portMonitor : Monitor := { id := 1#96, name := "port", type := .tcp, componentID := 7#96 }

def step (db : Database) (c : Check) : Database :=
  ((checkMonitor c.mon c.probes c.rt).run db).2

theorem step_eq (db : Database) (c : Check) :
    step db c =
      if c.isDown then
        if opensOutage c.mon.id (c.recorded db) then
          outageOpened c.mon c.rt.outage (c.recorded db) else c.recorded db
      else (activeOutage c.mon.id (c.recorded db)).elim (c.recorded db)
        fun outage => outageClosed outage c.rt.outage (c.recorded db) := by
  have hrun : step db c =
      ((detectOutage c.mon c.result.status c.rt.outage).run (c.recorded db)).2 := by
    unfold step checkMonitor Check.recorded
    simp only [Prog.run_bind, Prog.run_exec, Prog.run_ite]
    cases hexpiry : c.checksExpiry <;>
      simp_all [Check.checksExpiry, run_applySSLWarningStatus] <;> rfl
  rw [hrun]
  unfold detectOutage Check.isDown
  by_cases hdown : c.result.status = .down
  · simp [hdown, run_openOutage]
  · simp [hdown, run_closeOutage]

theorem warned_frame (mon : Monitor) (warning : Bool) (rt : Runtime) (db : Database) :
    ∃ components subcomponents,
      warned mon warning rt db = { db with components, subcomponents } := by
  unfold warned
  rcases target mon with _ | (id | id)
  · exact ⟨_, _, rfl⟩
  all_goals
    dsimp only
    split_ifs <;> exact ⟨_, _, rfl⟩

theorem recorded_frame (c : Check) (db : Database) :
    ∃ components subcomponents monitors dailyUptime, c.recorded db =
      { c.logged db with components, subcomponents, monitors, dailyUptime } := by
  unfold Check.recorded
  dsimp only
  obtain ⟨records, hrecords⟩ := run_updateDailyUptime c.mon.id c.result.status c.rt.uptime
    (if c.checksExpiry then warned c.mon c.warning c.rt.warning
      (recordCheck c.mon c.result (c.rt.check.clock 3) (c.logged db))
    else recordCheck c.mon c.result (c.rt.check.clock 3) (c.logged db))
  rw [hrecords]
  split_ifs
  · obtain ⟨components, subcomponents, hwarned⟩ := warned_frame c.mon c.warning c.rt.warning
      (recordCheck c.mon c.result (c.rt.check.clock 3) (c.logged db))
    rw [hwarned]
    exact ⟨_, _, _, _, rfl⟩
  · exact ⟨_, _, _, _, rfl⟩

@[simp] theorem recorded_outages (c : Check) (db : Database) :
    (c.recorded db).outages = db.outages := by
  obtain ⟨_, _, _, _, h⟩ := recorded_frame c db
  rw [h]
  rfl

@[simp] theorem recorded_incidents (c : Check) (db : Database) :
    (c.recorded db).incidents = db.incidents := by
  obtain ⟨_, _, _, _, h⟩ := recorded_frame c db
  rw [h]
  rfl

@[simp] theorem recorded_monitorLogs (c : Check) (db : Database) :
    (c.recorded db).monitorLogs = (c.logged db).monitorLogs := by
  obtain ⟨_, _, _, _, h⟩ := recorded_frame c db
  rw [h]

@[simp] theorem activeOutage_recorded (c : Check) (monitorID : ObjectID) (db : Database) :
    activeOutage monitorID (c.recorded db) = activeOutage monitorID db := by
  unfold activeOutage
  rw [recorded_outages]

@[simp] theorem opensOutage_recorded (c : Check) (monitorID : ObjectID) (db : Database) :
    opensOutage monitorID (c.recorded db) = opensOutage monitorID (c.logged db) := by
  unfold opensOutage failsThrice latestLogs
  rw [activeOutage_recorded, recorded_monitorLogs]
  rfl

@[simp] theorem outageOpened_outages (mon : Monitor) (rt : Runtime) (db : Database) :
    (outageOpened mon rt db).outages = db.outages.insertOne (newOutage mon rt) := rfl

@[simp] theorem outageOpened_monitorLogs (mon : Monitor) (rt : Runtime) (db : Database) :
    (outageOpened mon rt db).monitorLogs = db.monitorLogs := by
  unfold outageOpened markMajorOutage
  rcases target mon with _ | (id | id) <;> rfl

theorem outageClosed_frame (outage : Outage) (rt : Runtime) (db : Database) :
    ∃ components subcomponents incidents, outageClosed outage rt db =
      { endOutage outage (rt.clock 0) db with components, subcomponents, incidents } := by
  unfold outageClosed incidentRecovered
  cases recoveredIncident outage db with
  | none => exact ⟨_, _, _, rfl⟩
  | some incident =>
    dsimp only [Option.elim]
    split_ifs <;> exact ⟨_, _, _, rfl⟩

@[simp] theorem outageClosed_outages (outage : Outage) (rt : Runtime) (db : Database) :
    (outageClosed outage rt db).outages = (endOutage outage (rt.clock 0) db).outages := by
  obtain ⟨_, _, _, h⟩ := outageClosed_frame outage rt db
  rw [h]

@[simp] theorem outageClosed_monitorLogs (outage : Outage) (rt : Runtime) (db : Database) :
    (outageClosed outage rt db).monitorLogs = db.monitorLogs := by
  obtain ⟨_, _, _, h⟩ := outageClosed_frame outage rt db
  rw [h]
  rfl

theorem step_monitorLogs (db : Database) (c : Check) :
    (step db c).monitorLogs = db.monitorLogs.insertOne c.log := by
  rw [step_eq]
  cases activeOutage c.mon.id (c.recorded db) <;> split_ifs <;> simp [Check.logged]

theorem step_outages (db : Database) (c : Check) :
    (step db c).outages =
      if c.isDown then
        if opensOutage c.mon.id (c.logged db) then db.outages.insertOne c.outage else db.outages
      else (activeOutage c.mon.id db).elim db.outages
        fun outage => (endOutage outage (c.rt.outage.clock 0) db).outages := by
  rw [step_eq, activeOutage_recorded, opensOutage_recorded]
  cases activeOutage c.mon.id db with
  | none => split_ifs <;> simp [Check.outage]
  | some outage => split_ifs <;> simp [Check.outage, endOutage]

@[simp] theorem recoveredIncident_recorded (c : Check) (outage : Outage) (db : Database) :
    recoveredIncident outage (c.recorded db) = recoveredIncident outage db := by
  unfold recoveredIncident unresolvedIncident
  rw [recorded_incidents]

theorem outageClosed_incidents (outage : Outage) (rt : Runtime) (db : Database) :
    (outageClosed outage rt db).incidents =
      (recoveredIncident outage db).elim db.incidents
        fun incident => (resolveIncident incident (rt.clock 1) db).incidents := by
  unfold outageClosed incidentRecovered
  cases recoveredIncident outage db with
  | none => rfl
  | some incident =>
    dsimp only [Option.elim]
    split_ifs <;> rfl

theorem step_incidents (db : Database) (c : Check) :
    (step db c).incidents =
      if c.isDown then
        if opensOutage c.mon.id (c.logged db) then
          (opensIncident c.mon (c.recorded db)).elim db.incidents
            fun id => db.incidents.insertOne (newIncident c.mon [id] c.rt.outage)
        else db.incidents
      else (activeOutage c.mon.id db).elim db.incidents fun outage =>
        (recoveredIncident outage db).elim db.incidents
          fun incident => (resolveIncident incident (c.rt.outage.clock 1) db).incidents := by
  rw [step_eq, activeOutage_recorded, opensOutage_recorded]
  cases activeOutage c.mon.id db with
  | none => split_ifs <;> simp [outageOpened]
  | some outage => split_ifs <;> simp [outageOpened, outageClosed_incidents, resolveIncident]

end Statora.Worker
