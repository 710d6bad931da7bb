import Statora.Domain
import Statora.Library.SortSlice
import Statora.Library.StoreProgram

/-!
# One check of a monitor

`checkMonitor` probes the target, stores the result, applies the certificate
and domain warnings and looks for the start or the end of an outage. The
probes of the network are the input of a check. Like the source, the worker
passes over failed store operations wherever it does not test for them.
-/

namespace Statora.Worker
open Library (sortSlice Prog)

structure ExpiryResult where
  warning : Bool
  daysRemaining : ℤ
  triggeredThreshold : ℤ
  deriving DecidableEq, Repr

/-- What the network answers during one check: `none` and `false` are errors,
and an HTTP request may fail after its status code is known. -/
structure Probes where
  httpCode : ℤ := 0
  http : Bool := true
  httpCertificate : Option ExpiryResult := none
  domain : Option ExpiryResult := none
  tcp : Bool := true
  dns : Bool := true
  ping : Bool := true
  ssl : Option ExpiryResult := none
  deriving DecidableEq, Repr

structure CheckResult where
  status : MonitorLogStatus := .up
  statusCode : ℤ := 0
  sslWarning : Bool := false
  sslDaysRemaining : ℤ := 0
  sslTriggeredThreshold : ℤ := 0
  domainWarning : Bool := false
  domainDaysRemaining : ℤ := 0
  domainTriggeredThreshold : ℤ := 0
  deriving DecidableEq, Repr

def CheckResult.downUnless (result : CheckResult) (reached : Bool) : CheckResult :=
  if reached then result else { result with status := .down }

def CheckResult.withCertificate (result : CheckResult) :
    Option ExpiryResult → CheckResult
  | none => { result with status := .down }
  | some found => { result with
      sslWarning := found.warning
      sslDaysRemaining := found.daysRemaining
      sslTriggeredThreshold := found.triggeredThreshold }

def CheckResult.withDomain (result : CheckResult) : Option ExpiryResult → CheckResult
  | none => { result with status := .down }
  | some found => { result with
      domainWarning := found.warning
      domainDaysRemaining := found.daysRemaining
      domainTriggeredThreshold := found.triggeredThreshold }

/-- The switch over the monitor's type. A text that is no type is not probed. -/
def probe (mon : Monitor) (probes : Probes) : CheckResult :=
  match mon.type with
  | .http =>
    let code := probes.httpCode
    let result : CheckResult := { statusCode := code }
    let result := result.downUnless (probes.http && !(decide (code ≥ 500) || code = 0))
    let result := if mon.advanced.certExpiry then result.withCertificate probes.httpCertificate
      else result
    if mon.advanced.domainExpiry then result.withDomain probes.domain else result
  | .tcp => CheckResult.downUnless {} probes.tcp
  | .dns => CheckResult.downUnless {} probes.dns
  | .ping => CheckResult.downUnless {} probes.ping
  | .ssl =>
    let result := CheckResult.withCertificate {} probes.ssl
    if mon.advanced.domainExpiry then result.withDomain probes.domain else result
  | .other _ => {}

structure CheckRuntime where
  check : Runtime
  warning : Runtime
  uptime : Runtime
  outage : Runtime

def logEntry (mon : Monitor) (result : CheckResult) (rt : Runtime) : MonitorLog where
  id := rt.newID 0
  monitorID := mon.id
  status := result.status
  sslWarning := result.sslWarning
  sslDaysRemaining := result.sslDaysRemaining
  sslTriggeredThreshold := result.sslTriggeredThreshold
  domainWarning := result.domainWarning
  domainDaysRemaining := result.domainDaysRemaining
  domainTriggeredThreshold := result.domainTriggeredThreshold
  responseTime := Int.tdiv (rt.clock 1 - rt.clock 0) 1000000
  statusCode := result.statusCode
  checkedAt := rt.clock 2

def recordCheck (mon : Monitor) (result : CheckResult) (lastCheckedAt : ℤ) (db : Database) :
    Database :=
  { db with
    monitors := db.monitors.updateByKey mon.id fun monitor => { monitor with
      lastStatus := some result.status
      sslWarning := result.sslWarning
      sslDaysRemaining := result.sslDaysRemaining
      sslTriggeredThreshold := result.sslTriggeredThreshold
      domainWarning := result.domainWarning
      domainDaysRemaining := result.domainDaysRemaining
      domainTriggeredThreshold := result.domainTriggeredThreshold
      lastCheckedAt := some lastCheckedAt } }

def componentWith (status : ComponentStatus) (updatedAt : ℤ) (component : Component) :
    Component :=
  { component with status := status, updatedAt := updatedAt }

def subComponentWith (status : ComponentStatus) (updatedAt : ℤ) (sub : SubComponent) :
    SubComponent :=
  { sub with status := status, updatedAt := updatedAt }

def subComponentWithStatus (status : ComponentStatus) (sub : SubComponent) : SubComponent :=
  { sub with status := status }

theorem componentWith_id (status : ComponentStatus) (updatedAt : ℤ) (component : Component) :
    (componentWith status updatedAt component).id = component.id := rfl

theorem subComponentWith_id (status : ComponentStatus) (updatedAt : ℤ) (sub : SubComponent) :
    (subComponentWith status updatedAt sub).id = sub.id := rfl

theorem subComponentWithStatus_id (status : ComponentStatus) (sub : SubComponent) :
    (subComponentWithStatus status sub).id = sub.id := rfl

def setComponentStatus (id : ObjectID) (status : ComponentStatus) (updatedAt : ℤ)
    (db : Database) : Database :=
  { db with
    components := db.components.updateByKey id (componentWith status updatedAt)
      (componentWith_id status updatedAt) }

def setSubComponentStatus (id : ObjectID) (status : ComponentStatus) (updatedAt : ℤ)
    (db : Database) : Database :=
  { db with
    subcomponents := db.subcomponents.updateByKey id (subComponentWith status updatedAt)
      (subComponentWith_id status updatedAt) }

/-- An update whose time goes to a field that sub-components do not have. -/
def setSubComponentStatusOnly (id : ObjectID) (status : ComponentStatus) (db : Database) :
    Database :=
  { db with
    subcomponents := db.subcomponents.updateByKey id (subComponentWithStatus status)
      (subComponentWithStatus_id status) }

def restoreComponent (id : ObjectID) (updatedAt : ℤ) (db : Database) : Database :=
  { db with
    components := db.components.updateOne
      (fun component => decide (component.id = id) && component.status = .degradedPerf)
      (componentWith .operational updatedAt) (componentWith_id .operational updatedAt) }

def restoreSubComponent (id : ObjectID) (updatedAt : ℤ) (db : Database) : Database :=
  { db with
    subcomponents := db.subcomponents.updateOne
      (fun sub => decide (sub.id = id) && sub.status = .degradedPerf)
      (subComponentWith .operational updatedAt) (subComponentWith_id .operational updatedAt) }

def shouldRestoreOperational (hasActiveOutage hasActiveIncident : Bool) : Bool :=
  !hasActiveOutage && !hasActiveIncident

def activeOutageOnTarget (mon : Monitor) (db : Database) : Option Outage :=
  db.outages.findOne fun outage => outage.status = .active &&
    ((!mon.componentID.isZero && outage.componentID = mon.componentID) ||
      (!mon.subComponentID.isZero && outage.subComponentID = mon.subComponentID))

def unresolvedIncident (componentIDs : List ObjectID) (db : Database) : Option Incident :=
  db.incidents.findOne fun incident =>
    incident.affectedComponents.any (· ∈ componentIDs) && incident.status ≠ .resolved

def hasActiveOutageForTarget (mon : Monitor) : Prog Database Bool :=
  if mon.componentID.isZero && mon.subComponentID.isZero then pure false
  else do
    let found ← Prog.query (activeOutageOnTarget mon)
    return found.join.isSome

def incidentComponentID (mon : Monitor) : Prog Database (Option ObjectID) :=
  if mon.componentID.isZero && !mon.subComponentID.isZero then do
    let subComp ← Prog.query fun db => db.subcomponents.findByKey mon.subComponentID
    return subComp.join.map (·.componentID)
  else return some mon.componentID

def hasActiveIncidentForTarget (mon : Monitor) : Prog Database Bool := do
  match ← incidentComponentID mon with
  | none => return false
  | some componentID =>
    if componentID.isZero then return false
    else
      let found ← Prog.query (unresolvedIncident [componentID])
      return found.join.isSome

def applySSLWarningStatus (mon : Monitor) (warning : Bool) (rt : Runtime) :
    Prog Database Unit := do
  if !mon.componentID.isZero then
    if warning then
      let _ ← Prog.exec (setComponentStatus mon.componentID .degradedPerf (rt.clock 0))
    else
      let hasActiveOutage ← hasActiveOutageForTarget mon
      let hasActiveIncident ← hasActiveIncidentForTarget mon
      if shouldRestoreOperational hasActiveOutage hasActiveIncident then
        let _ ← Prog.exec (restoreComponent mon.componentID (rt.clock 0))
  else if !mon.subComponentID.isZero then
    if warning then
      let _ ← Prog.exec (setSubComponentStatus mon.subComponentID .degradedPerf (rt.clock 0))
    else
      let hasActiveOutage ← hasActiveOutageForTarget mon
      let hasActiveIncident ← hasActiveIncidentForTarget mon
      if shouldRestoreOperational hasActiveOutage hasActiveIncident then
        let _ ← Prog.exec (restoreSubComponent mon.subComponentID (rt.clock 0))

def isToday (monitorID : ObjectID) (today : ℤ) (record : DailyUptime) : Bool :=
  decide (record.monitorID = monitorID) && record.date = today

def firstUptime (monitorID : ObjectID) (today successful : ℤ) (id : ObjectID) :
    DailyUptime where
  id := id
  monitorID := monitorID
  date := today
  totalChecks := 1
  successfulChecks := successful
  uptimePercent := successful * 100

/-- The counters grow in the store, the share is computed from the record read. -/
def countCheck (existing : Option DailyUptime) (successful : ℤ) (record : DailyUptime) :
    DailyUptime :=
  let newTotal := existing.elim 0 (·.totalChecks) + 1
  let newSuccessful := existing.elim 0 (·.successfulChecks) + successful
  { record with
    totalChecks := record.totalChecks + 1
    successfulChecks := record.successfulChecks + successful
    uptimePercent := newSuccessful / newTotal * 100 }

def updateDailyUptime (monitorID : ObjectID) (status : MonitorLogStatus) (rt : Runtime) :
    Prog Database Unit := do
  let today := calendarDate (rt.clock 0) * day
  let successful := if status = .up then 1 else 0
  match ← Prog.query fun db => db.dailyUptime.findOne (isToday monitorID today) with
  | some none =>
    let entry := firstUptime monitorID today successful (rt.newID 0)
    let _ ← Prog.exec fun db => { db with dailyUptime := db.dailyUptime.insertOne entry }
  | existing =>
    -- A failed read leaves the zero record.
    let _ ← Prog.exec fun db => { db with
      dailyUptime := db.dailyUptime.updateOne (isToday monitorID today)
        (countCheck existing.join successful) }

def latestLogs (monitorID : ObjectID) (db : Database) : List MonitorLog :=
  (sortSlice (fun a b => decide (a.checkedAt > b.checkedAt))
    (db.monitorLogs.find (fun log => log.monitorID = monitorID))).take 3

def activeOutage (monitorID : ObjectID) (db : Database) : Option Outage :=
  db.outages.findOne fun outage => outage.monitorID = monitorID && outage.status = .active

def newOutage (mon : Monitor) (rt : Runtime) : Outage where
  id := rt.newID 0
  startedAt := rt.clock 0
  status := .active
  monitorID := mon.id
  componentID := mon.componentID
  subComponentID := mon.subComponentID

def newIncident (mon : Monitor) (componentsToAffect : List ObjectID) (rt : Runtime) :
    Incident where
  id := rt.newID 1
  title := mon.name ++ " - Outage Detected"
  description := "Automated incident: " ++ mon.name ++ " has failed 3 consecutive checks."
  status := .investigating
  impact := .major
  affectedComponents := componentsToAffect
  createdAt := rt.clock 2
  updatedAt := rt.clock 3

def affectTarget (mon : Monitor) (rt : Runtime) : Prog Database (List ObjectID) :=
  if !mon.componentID.isZero then do
    let _ ← Prog.exec (setComponentStatus mon.componentID .majorOutage (rt.clock 1))
    return [mon.componentID]
  else if !mon.subComponentID.isZero then do
    let subComp ← Prog.query fun db => db.subcomponents.findByKey mon.subComponentID
    match subComp.join with
    | none => return []
    | some subComp =>
      let _ ← Prog.exec (setSubComponentStatusOnly mon.subComponentID .majorOutage)
      return [subComp.componentID]
  else return []

def openIncident (mon : Monitor) (componentsToAffect : List ObjectID) (rt : Runtime) :
    Prog Database Unit := do
  let existingIncident ← Prog.query (unresolvedIncident componentsToAffect)
  match existingIncident.join with
  | some _ => return ()
  | none =>
    let _ ← Prog.exec fun db => { db with
      incidents := db.incidents.insertOne (newIncident mon componentsToAffect rt) }

def startOutage (mon : Monitor) (rt : Runtime) : Prog Database Unit := do
  let _ ← Prog.exec fun db => { db with outages := db.outages.insertOne (newOutage mon rt) }
  match ← affectTarget mon rt with
  | [] => return ()
  | componentsToAffect => openIncident mon componentsToAffect rt

/-- The down branch of `detectOutage`. -/
def openOutage (mon : Monitor) (rt : Runtime) : Prog Database Unit := do
  let logs ← Prog.query (latestLogs mon.id)
  match logs with
  | none => return ()
  | some logs =>
    if logs.length < 3 then return ()
    else if logs.any (fun log => log.status ≠ .down) then return ()
    else
      let existingOutage ← Prog.query (activeOutage mon.id)
      match existingOutage.join with
      | some _ => return ()
      | none => startOutage mon rt

def endOutage (outage : Outage) (endTime : ℤ) (db : Database) : Database :=
  { db with
    outages := db.outages.updateByKey outage.id fun stored => { stored with
      endedAt := some endTime
      durationSeconds := Int.tdiv (endTime - outage.startedAt) second
      status := .resolved } }

def markResolved (now : ℤ) (incident : Incident) : Incident :=
  { incident with status := .resolved, resolvedAt := some now, updatedAt := now }

theorem markResolved_id (now : ℤ) (incident : Incident) :
    (markResolved now incident).id = incident.id := rfl

def resolveIncident (incident : Incident) (now : ℤ) (db : Database) : Database :=
  { db with
    incidents := db.incidents.updateByKey incident.id (markResolved now) (markResolved_id now) }

/-- The recovery branch of `detectOutage`. -/
def closeOutage (monitorID : ObjectID) (rt : Runtime) : Prog Database Unit := do
  let existingOutage ← Prog.query (activeOutage monitorID)
  match existingOutage.join with
  | none => return ()
  | some outage =>
    let matched ← Prog.update (fun db => db.outages.contains outage.id)
      (endOutage outage (rt.clock 0))
    match matched with
    | some true =>
      let updatedIncident ← Prog.query
        (unresolvedIncident [outage.componentID, outage.subComponentID])
      match updatedIncident.join with
      | none => return ()
      | some incident =>
        let now := rt.clock 1
        let _ ← Prog.exec (resolveIncident incident now)
        if !outage.componentID.isZero then
          let _ ← Prog.exec (setComponentStatus outage.componentID .operational now)
        if !outage.subComponentID.isZero then
          let _ ← Prog.exec (setSubComponentStatusOnly outage.subComponentID .operational)
    | _ => return ()

def detectOutage (mon : Monitor) (status : MonitorLogStatus) (rt : Runtime) :
    Prog Database Unit :=
  if status = .down then openOutage mon rt else closeOutage mon.id rt

def checkMonitor (mon : Monitor) (probes : Probes) (rt : CheckRuntime) : Prog Database Unit := do
  let result := probe mon probes
  let _ ← Prog.exec fun db => { db with
    monitorLogs := db.monitorLogs.insertOne (logEntry mon result rt.check) }
  let _ ← Prog.exec (recordCheck mon result (rt.check.clock 3))
  let combinedWarning := result.sslWarning || result.domainWarning
  if mon.type = .ssl || mon.advanced.domainExpiry then
    applySSLWarningStatus mon combinedWarning rt.warning
  updateDailyUptime mon.id result.status rt.uptime
  detectOutage mon result.status rt.outage

end Statora.Worker
