import Statora.Library.LookupMap
import Statora.Library.SortSlice
import Statora.Models

/-!
# The queries of the public read models

One definition for each query of the status repository. Documents that tie in a
sort keep their natural order. A zero id is never stored in a monitor, so no
list of ids matches one.
-/

namespace Statora.Status
open Library (sortSlice groupBy)

def listComponents (db : Database) : List Component :=
  sortSlice (fun a b => decide (a.createdAt < b.createdAt)) db.components.docs

def listComponentsByIDs (db : Database) (ids : List ObjectID) : List Component :=
  db.components.find (fun component => component.id ∈ ids)

def listSubComponentsByComponentIDs (db : Database) (componentIDs : List ObjectID) :
    List SubComponent :=
  sortSlice (fun a b => decide (a.createdAt < b.createdAt))
    (db.subcomponents.find (fun sub => sub.componentID ∈ componentIDs))

def listAllSubComponents (db : Database) : List SubComponent := db.subcomponents.docs

def listSubComponentsByIDs (db : Database) (ids : List ObjectID) : List SubComponent :=
  db.subcomponents.find (fun sub => sub.id ∈ ids)

def listMonitorsByTargets (db : Database) (componentIDs subComponentIDs : List ObjectID) :
    List Monitor :=
  db.monitors.find fun monitor =>
    (!monitor.componentID.isZero && decide (monitor.componentID ∈ componentIDs)) ||
      (!monitor.subComponentID.isZero && decide (monitor.subComponentID ∈ subComponentIDs))

def listDailyUptimeSinceByMonitorIDs (db : Database) (monitorIDs : List ObjectID) (since : ℤ) :
    List DailyUptime :=
  db.dailyUptime.find (fun record => record.monitorID ∈ monitorIDs && decide (since ≤ record.date))

def newestFirst (incidents : List Incident) : List Incident :=
  sortSlice (fun a b => decide (a.createdAt > b.createdAt)) incidents

def listActiveIncidents (db : Database) : List Incident :=
  newestFirst (db.incidents.find (fun incident => incident.status ≠ .resolved))

def countActiveIncidents (db : Database) : ℕ :=
  db.incidents.countDocuments (fun incident => incident.status ≠ .resolved)

def isActiveMaintenanceAt (at_ : ℤ) (maintenance : Maintenance) : Bool :=
  (maintenance.status = .inProgress || maintenance.status = .active) &&
    decide (maintenance.startTime ≤ at_) && decide (at_ ≤ maintenance.endTime)

def listActiveMaintenanceAt (db : Database) (at_ : ℤ) : List Maintenance :=
  db.maintenance.find (isActiveMaintenanceAt at_)

def countActiveMaintenanceAt (db : Database) (at_ : ℤ) : ℕ :=
  db.maintenance.countDocuments (isActiveMaintenanceAt at_)

def findLatestIncidentByComponent (db : Database) (componentID : ObjectID) : Option Incident :=
  (newestFirst (db.incidents.find fun incident =>
    componentID ∈ incident.affectedComponents ||
      incident.affectedComponentTargets.any (·.componentID = componentID))).head?

def listIncidentsByCreatedAtRange (db : Database) (start stop : ℤ) : List Incident :=
  newestFirst (db.incidents.find fun incident =>
    decide (start ≤ incident.createdAt) && decide (incident.createdAt < stop))

def listResolvedIncidentsSince (db : Database) (since : ℤ) : List Incident :=
  sortSlice (fun a b => decide (a.resolvedAt.getD 0 > b.resolvedAt.getD 0))
    (db.incidents.find fun incident =>
      incident.status = .resolved && incident.resolvedAt.any (since ≤ ·))

def listIncidentsOverlappingPeriod (db : Database) (start stop : ℤ) : List Incident :=
  sortSlice (fun a b => decide (a.createdAt < b.createdAt)) (db.incidents.find fun incident =>
    decide (incident.createdAt < stop) &&
      (incident.resolvedAt.any (· > start) || incident.status ≠ .resolved))

def listIncidentsByAffectedComponents (db : Database) (affectedIDs : List ObjectID)
    (limit : ℕ) : List Incident :=
  let incidents := newestFirst (db.incidents.find fun incident =>
    incident.affectedComponents.any (· ∈ affectedIDs) ||
      incident.affectedComponentTargets.any (fun target =>
        target.componentID ∈ affectedIDs || target.subComponentIDs.any (· ∈ affectedIDs)))
  if limit > 0 then incidents.take limit else incidents

def listIncidentUpdatesByIncidentIDs (db : Database) (incidentIDs : List ObjectID) :
    ObjectID → List IncidentUpdate :=
  groupBy (·.incidentID) id (sortSlice (fun a b => decide (a.createdAt < b.createdAt))
    (db.incidentUpdates.find (fun update => update.incidentID ∈ incidentIDs)))

end Statora.Status
