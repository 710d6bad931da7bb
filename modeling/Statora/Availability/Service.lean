import Statora.Availability.Intervals

/-!
# The availability report

`computeAvailability` over the incidents and components that the repository
returned. Minutes and percentages are exact rationals, and the maps of the
per-service loop are functions on ids.
-/

namespace Statora.Availability

structure PeriodInfo where
  label : String
  start : ℤ
  stop : ℤ
  deriving DecidableEq, Repr

structure OverallAvailability where
  availability : ℚ
  totalMinutes : ℚ
  downtimeMinutes : ℚ
  incidentCount : ℕ
  deriving DecidableEq, Repr

structure IncidentAffectedComponentRef where
  id : ObjectID
  name : String
  deriving DecidableEq, Repr

structure IncidentBreakdown where
  id : ObjectID
  title : String
  impact : IncidentImpact
  status : IncidentStatus
  startedAt : ℤ
  resolvedAt : Option ℤ
  effectiveDowntimeMinutes : ℚ
  affectedComponents : List IncidentAffectedComponentRef
  deriving DecidableEq, Repr

structure ServiceAvailability where
  componentID : ObjectID
  name : String
  availability : ℚ
  downtimeMinutes : ℚ
  incidentCount : ℕ
  deriving DecidableEq, Repr

structure AvailabilityResult where
  period : PeriodInfo
  overall : OverallAvailability
  incidents : List IncidentBreakdown
  services : List ServiceAvailability
  deriving DecidableEq, Repr

def addTargetID (ids : List ObjectID) (id : ObjectID) : List ObjectID :=
  if id = NilObjectID then ids else if id ∈ ids then ids else ids ++ [id]

def incidentTargetComponentIDs (incident : Incident) : List ObjectID :=
  (incident.affectedComponentTargets.map (·.componentID)).foldl addTargetID
    (incident.affectedComponents.foldl addTargetID [])

structure Entry where
  incident : Incident
  interval : Interval
  targetIDs : List ObjectID

def entryOf (now periodStart periodEnd : ℤ) (incident : Incident) : Option Entry :=
  if ¬ incident.createdAt < periodEnd then none
  else
    let stop := incident.resolvedAt.getD now
    if ¬ incident.createdAt < stop then none
    else (clipInterval ⟨incident.createdAt, stop⟩ periodStart periodEnd).map fun interval =>
      ⟨incident, interval, incidentTargetComponentIDs incident⟩

def componentRefs (targetIDs : List ObjectID) (components : List Component) :
    List IncidentAffectedComponentRef :=
  let byID : ObjectID → Option String :=
    components.foldl (fun m c => Function.update m c.id (some c.name)) (fun _ => none)
  targetIDs.filterMap fun id => (byID id).map fun name => ⟨id, name⟩

def breakdownOf (components : List Component) (e : Entry) : IncidentBreakdown where
  id := e.incident.id
  title := e.incident.title
  impact := e.incident.impact
  status := e.incident.status
  startedAt := e.incident.createdAt
  resolvedAt := e.incident.resolvedAt
  effectiveDowntimeMinutes := minutes (e.interval.stop - e.interval.start)
  affectedComponents := componentRefs e.targetIDs components

def newerEntry (a b : Entry) : Bool := decide (a.incident.createdAt > b.incident.createdAt)

structure ServiceTotals where
  downtime : ObjectID → Option ℤ
  count : ObjectID → ℕ

def componentIntervals (entries : List Entry) (id : ObjectID) : List Interval :=
  (entries.filter (fun e => id ∈ e.targetIDs)).map (·.interval)

def addComponent (entries : List Entry) (t : ServiceTotals) (c : Component) : ServiceTotals :=
  let intervals := componentIntervals entries c.id
  let count := Function.update t.count c.id (t.count c.id + intervals.length)
  if intervals.isEmpty then ⟨t.downtime, count⟩
  else ⟨Function.update t.downtime c.id (some (totalDuration (mergeIntervals intervals))), count⟩

def serviceTotals (entries : List Entry) (components : List Component) : ServiceTotals :=
  components.foldl (addComponent entries) ⟨fun _ => none, fun _ => 0⟩

def serviceOf (totalMinutes : ℚ) (totals : ServiceTotals) (c : Component) :
    Option ServiceAvailability :=
  (totals.downtime c.id).map fun downtime =>
    ⟨c.id, c.name, availabilityPercent totalMinutes (minutes downtime), minutes downtime,
      totals.count c.id⟩

def reportOf (components : List Component) (entries : List Entry) (periodStart periodEnd : ℤ)
    (label : String) : AvailabilityResult :=
  let totalMinutes := minutes (periodEnd - periodStart)
  let downtime := totalDuration (mergeIntervals (entries.map (·.interval)))
  { period := ⟨label, periodStart, periodEnd⟩
    overall := ⟨availabilityPercent totalMinutes (minutes downtime), totalMinutes,
      minutes downtime, entries.length⟩
    incidents := (Library.sortSlice newerEntry entries).map (breakdownOf components)
    services := components.filterMap (serviceOf totalMinutes (serviceTotals entries components)) }

def computeAvailability (components : List Component) (incidents : List Incident)
    (now periodStart periodEnd : ℤ) (label : String) : Except ServiceError AvailabilityResult :=
  if ¬ periodStart < periodEnd then
    .error (.invalidInput "period start must be before end")
  else
    .ok (reportOf components (incidents.filterMap (entryOf now periodStart periodEnd))
      periodStart periodEnd label)

end Statora.Availability
