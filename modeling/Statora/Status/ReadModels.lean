import Statora.Status.Derivation
import Statora.Status.Repository
import Statora.Text

/-!
# The public read models

The four builders of the status service. `now` is the instant that the handler
passes, `clock k` a reading of the clock for the `k`-th entry of the result, and
each map order is that of one call.
-/

namespace Statora.Status
open Library (sortSlice groupBy mapOf)

structure CategoryService where
  id : ObjectID
  name : String
  description : String
  status : ComponentStatus
  updatedAt : ℤ
  uptime30d : Option ℚ
  uptimeHistory : List DailyBar
  deriving DecidableEq, Repr

structure IncidentAffectedComponentExpanded where
  component : Component
  subComponents : List SubComponent
  deriving DecidableEq, Repr

structure IncidentWithUpdates where
  incident : Incident
  updates : List IncidentUpdate
  affectedComponents : List Component
  affectedComponentTargets : List IncidentAffectedComponentExpanded

structure CategorySummary where
  categoryPrefix : String
  name : String
  description : String
  aggregateStatus : ComponentStatus
  hasMonitoring : Bool
  uptime30d : Option ℚ
  services : List CategoryService
  incidents : List IncidentWithUpdates

/-- `none` is a key that the counts do not have. -/
structure StatusSummary where
  overallStatus : ComponentStatus
  componentCounts : ComponentStatus → Option ℕ
  activeIncidents : ℕ
  scheduledMaintenance : ℕ

/-- The number that a duration text shows, before it is rounded to its digits. -/
inductive IncidentDuration
  | minutes (value : ℚ)
  | hours (value : ℚ)
  | days (value : ℚ)
  deriving DecidableEq, Repr

structure IncidentStatusInfo where
  date : ℤ
  duration : IncidentDuration
  title : String
  deriving DecidableEq, Repr

structure ComponentWithSubStatusInfo where
  component : Component
  subComponents : List SubComponent
  uptimeHistory : List DailyBar
  lastIncident : Option IncidentStatusInfo
  deriving DecidableEq, Repr

structure IncidentsResponse where
  active : List IncidentWithUpdates
  resolved : List IncidentWithUpdates

inductive ReadError
  | categoryNotFound
  deriving DecidableEq, Repr

def isSlugChar (c : Char) : Bool := ('a' ≤ c && c ≤ 'z') || ('0' ≤ c && c ≤ '9')

def normalizeCategoryPrefix (v : String) : String :=
  let v := String.ofList ((trimSpace v).toList.map toLower)
  if v = "" then ""
  else
    let parts := fieldsFunc (fun c => !isSlugChar c) v.toList
    if parts.length = 0 then "" else "-".intercalate (parts.map String.ofList)

def componentPrefix (name : String) : String := normalizeCategoryPrefix name

/-- An exact match wins over the first component whose slug continues the given one. -/
def findCategoryComponent (components : List Component) (categoryPrefix : String) :
    Option Component :=
  let normalizedPrefix := normalizeCategoryPrefix categoryPrefix
  if normalizedPrefix = "" then none
  else
    (components.find? (fun c => componentPrefix c.name = normalizedPrefix)).or
      (components.find? fun c => normalizedPrefix.toList.isPrefixOf (componentPrefix c.name).toList)

def averageUptimePointer (bars : List DailyBar) : Option ℚ :=
  if bars.length = 0 then none else some ((bars.map (·.uptimePercent)).sum / bars.length)

def aggregateStatusFromServices (services : List CategoryService) : ComponentStatus :=
  (sortSlice (fun a b => decide (componentSeverityRank a > componentSeverityRank b))
    (services.map (·.status))).headD .operational

def expandTargets (componentMap : ObjectID → Option Component)
    (subComponentMap : ObjectID → Option SubComponent)
    (targets : List IncidentAffectedComponent) : List IncidentAffectedComponentExpanded :=
  targets.filterMap fun target => (componentMap target.componentID).map fun component =>
    ⟨component, target.subComponentIDs.filterMap subComponentMap⟩

def subService (clock : ℕ → ℤ) (monitorsBySubID : ObjectID → List ObjectID)
    (uptimeByMonitorID : ObjectID → List DailyUptime) (k : ℕ) (sub : SubComponent) :
    CategoryService :=
  let history := build30DayBars (clock (k + 1)) (monitorsBySubID sub.id) uptimeByMonitorID
  ⟨sub.id, sub.name, sub.description, sub.status, sub.updatedAt, averageUptimePointer history,
    history⟩

def componentService (clock : ℕ → ℤ) (componentMonitorIDs : List ObjectID)
    (uptimeByMonitorID : ObjectID → List DailyUptime) (component : Component) : CategoryService :=
  let history := build30DayBars (clock 1) componentMonitorIDs uptimeByMonitorID
  ⟨component.id, component.name, component.description, component.status, component.updatedAt,
    averageUptimePointer history, history⟩

/-- The services of a category: its sub-components, or the component itself when it has none. -/
def categoryServices (clock : ℕ → ℤ) (db : Database) (component : Component)
    (subs : List SubComponent) : List CategoryService :=
  let monitors := listMonitorsByTargets db [component.id] (subs.map (·.id))
  let uptimeRecords :=
    listDailyUptimeSinceByMonitorIDs db (monitors.map (·.id)) (addDays (clock 0) (-30))
  let monitorsBySubID : ObjectID → List ObjectID :=
    groupBy (·.subComponentID) (·.id) (monitors.filter (!·.subComponentID.isZero))
  let componentMonitorIDs := (monitors.filter fun monitor => monitor.subComponentID.isZero &&
    !monitor.componentID.isZero && decide (monitor.componentID = component.id)).map (·.id)
  let uptimeByMonitorID := groupBy (·.monitorID) id uptimeRecords
  if subs.length > 0 then subs.mapIdx (subService clock monitorsBySubID uptimeByMonitorID)
  else [componentService clock componentMonitorIDs uptimeByMonitorID component]

def targetComponents (componentMap : ObjectID → Option Component)
    (targets : List IncidentAffectedComponent) : List Component :=
  (dedupeObjectIDs (targets.map (·.componentID))).filterMap componentMap

def categoryIncidents (db : Database) (components : List Component) (component : Component)
    (subs : List SubComponent) : List IncidentWithUpdates :=
  let incidents :=
    listIncidentsByAffectedComponents db (component.id :: subs.map (·.id)) 20
  let updatesByIncident := listIncidentUpdatesByIncidentIDs db (incidents.map (·.id))
  let componentMap := mapOf (·.id) id components
  let subComponentMap := mapOf (·.id) id subs
  incidents.map fun incident =>
    let targets := normalizeIncidentTargetsForExpansion incident
    ⟨incident, updatesByIncident incident.id, targetComponents componentMap targets,
      expandTargets componentMap subComponentMap targets⟩

def categorySummaryOf (clock : ℕ → ℤ) (db : Database) (components : List Component)
    (component : Component) : CategorySummary :=
  let subs := listSubComponentsByComponentIDs db [component.id]
  let services := categoryServices clock db component subs
  let uptimes := services.filterMap (·.uptime30d)
  { categoryPrefix := componentPrefix component.name
    name := component.name
    description := component.description
    aggregateStatus := aggregateStatusFromServices services
    hasMonitoring := decide (uptimes.length > 0)
    uptime30d := if uptimes.length > 0 then some (uptimes.sum / uptimes.length) else none
    services := services
    incidents := categoryIncidents db components component subs }

def buildCategorySummary (clock : ℕ → ℤ) (db : Database) (categoryPrefix : String) :
    Except ReadError CategorySummary :=
  let components := listComponents db
  match findCategoryComponent components categoryPrefix with
  | none => .error .categoryNotFound
  | some component => .ok (categorySummaryOf clock db components component)

def initialCounts : ComponentStatus → Option ℕ
  | .other _ => none
  | _ => some 0

def countStatus (counts : ComponentStatus → Option ℕ) (status : ComponentStatus) :
    ComponentStatus → Option ℕ :=
  Function.update counts status (some ((counts status).getD 0 + 1))

def overallOf (counts : ComponentStatus → Option ℕ) : ComponentStatus :=
  if (counts .majorOutage).getD 0 > 0 then .majorOutage
  else if (counts .partialOutage).getD 0 > 0 then .partialOutage
  else if (counts .degradedPerf).getD 0 > 0 then .degradedPerf
  else if (counts .maintenance).getD 0 > 0 then .maintenance
  else .operational

def buildSummary (order : MapOrder) (db : Database) (now : ℤ) : StatusSummary :=
  let components := listComponents db
  let derivedStatuses := deriveStatuses order components (listAllSubComponents db)
    (listActiveIncidents db) (listActiveMaintenanceAt db now)
  let counts := components.foldl
    (fun counts component => countStatus counts (derivedStatuses.componentStatus.read component.id))
    initialCounts
  ⟨overallOf counts, counts, countActiveIncidents db, countActiveMaintenanceAt db now⟩

def formatIncidentDuration (duration : ℤ) : IncidentDuration :=
  if minutes duration < 60 then .minutes (minutes duration)
  else if hours duration < 24 then .hours (hours duration)
  else .days (hours duration / 24)

def buildIncidentStatusInfo (incident : Option Incident) (now : ℤ) : Option IncidentStatusInfo :=
  incident.map fun incident =>
    ⟨incident.createdAt,
      formatIncidentDuration (incident.resolvedAt.getD now - incident.createdAt), incident.title⟩

def monitorsByComp (subComponentToComponent : ObjectID → Option ObjectID)
    (monitors : List Monitor) : ObjectID → List ObjectID :=
  groupBy (·.1) (·.2) (monitors.flatMap fun monitor =>
    (if monitor.componentID.isZero then [] else [(monitor.componentID, monitor.id)]) ++
      (if monitor.subComponentID.isZero then []
        else ((subComponentToComponent monitor.subComponentID).map
          fun componentID => (componentID, monitor.id)).toList))

def buildComponents (order displayOrder : MapOrder) (clock : ℕ → ℤ) (db : Database) (now : ℤ) :
    List ComponentWithSubStatusInfo :=
  let components := listComponents db
  let allSubs := listAllSubComponents db
  let subComponentToComponent := mapOf (·.id) (·.componentID) allSubs
  let monitors := listMonitorsByTargets db (components.map (·.id)) (allSubs.map (·.id))
  let uptimeByMonitor := groupBy (·.monitorID) id
    (listDailyUptimeSinceByMonitorIDs db (monitors.map (·.id)) (addDays now (-90)))
  let monitorsByComp := monitorsByComp subComponentToComponent monitors
  let activeIncidents := listActiveIncidents db
  let activeMaintenance := listActiveMaintenanceAt db now
  let derivedStatuses := deriveStatuses order components allSubs activeIncidents activeMaintenance
  let displayStatuses := deriveComponentDisplayStatuses displayOrder components allSubs
    activeIncidents activeMaintenance derivedStatuses
  let components := components.map fun component =>
    { component with status := (displayStatuses component.id).getD component.status }
  let allSubs := allSubs.map fun sub =>
    { sub with status := (derivedStatuses.subStatus sub.id).getD sub.status }
  components.mapIdx fun k component =>
    { component := component
      subComponents := groupBy (·.componentID) id allSubs component.id
      uptimeHistory := build30DayBars (clock k) (monitorsByComp component.id) uptimeByMonitor
      lastIncident :=
        buildIncidentStatusInfo (findLatestIncidentByComponent db component.id) now }

def zeroTime : ℤ := -62135596800 * second
def lastTime : ℤ := 253402300799 * second

def incidentItem (componentMap : ObjectID → Option Component)
    (subComponentMap : ObjectID → Option SubComponent)
    (updatesMap : ObjectID → List IncidentUpdate) (incident : Incident) : IncidentWithUpdates :=
  let targets := normalizeIncidentTargetsForExpansion incident
  let affectedComponentIDs :=
    dedupeObjectIDs (incident.affectedComponents ++ targets.map (·.componentID))
  ⟨incident, updatesMap incident.id, affectedComponentIDs.filterMap componentMap,
    expandTargets componentMap subComponentMap targets⟩

def listedIncidents (db : Database) (now : ℤ) (startDate endDate : Option ℤ) : List Incident :=
  if startDate.isSome || endDate.isSome then
    listIncidentsByCreatedAtRange db (startDate.getD zeroTime) (endDate.getD lastTime)
  else listActiveIncidents db ++ listResolvedIncidentsSince db (addDays now (-30))

def buildIncidents (db : Database) (now : ℤ) (startDate endDate : Option ℤ) : IncidentsResponse :=
  let incidents := listedIncidents db now startDate endDate
  let componentIDs := incidents.flatMap fun incident => incident.affectedComponents ++
    (normalizeIncidentTargetsForExpansion incident).map (·.componentID)
  let subComponentIDs := incidents.flatMap fun incident =>
    (normalizeIncidentTargetsForExpansion incident).flatMap (·.subComponentIDs)
  let updatesMap := listIncidentUpdatesByIncidentIDs db (incidents.map (·.id))
  let componentMap := mapOf (·.id) id (listComponentsByIDs db componentIDs)
  let subComponentMap := mapOf (·.id) id (listSubComponentsByIDs db subComponentIDs)
  let item := incidentItem componentMap subComponentMap updatesMap
  ⟨(incidents.filter (·.status ≠ .resolved)).map item,
    (incidents.filter (·.status = .resolved)).map item⟩

end Statora.Status
