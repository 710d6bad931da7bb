import Statora.Domain
import Statora.Library.LookupMap
import Statora.Library.MaxFold

/-!
# Deriving displayed statuses

`deriveStatuses` and `deriveComponentDisplayStatuses`, loop by loop. A map is a
function to `Option`, and the set `impactedSubIDs` a list without repetition.
The source ranges over that set in an unspecified order, which `MapOrder`
supplies for each component.
-/

namespace Statora.Status
open Library (mapOf groupBy)

structure MapOrder where
  keys : ObjectID → List ObjectID → List ObjectID
  perm : ∀ id l, (keys id l).Perm l

def MapOrder.insertion : MapOrder := ⟨fun _ l => l, fun _ _ => List.Perm.refl _⟩

abbrev StatusMap := ObjectID → Option ComponentStatus

/-- Reading a missing key gives the empty text. -/
def StatusMap.read (statuses : StatusMap) (id : ObjectID) : ComponentStatus :=
  (statuses id).getD (.other "")

structure DerivedStatusResult where
  componentStatus : StatusMap
  subStatus : StatusMap

structure ComponentAggregationState where
  hasDirectImpact : Bool
  directStatus : ComponentStatus
  impactedSubIDs : List ObjectID
  deriving DecidableEq, Repr

abbrev AggregationMap := ObjectID → Option ComponentAggregationState

def mapIncidentImpactToStatus : IncidentImpact → ComponentStatus
  | .critical => .majorOutage
  | .major => .partialOutage
  | .minor => .degradedPerf
  | _ => .operational

def partialAggregateStatusFromSubStatus : ComponentStatus → ComponentStatus
  | .majorOutage => .partialOutage
  | .partialOutage => .partialOutage
  | status => status

def normalizeIncidentTargetsForExpansion (incident : Incident) :
    List IncidentAffectedComponent :=
  if incident.affectedComponentTargets.length > 0 then incident.affectedComponentTargets
  else incident.affectedComponents.map fun componentID => ⟨componentID, []⟩

def subsByComp (subs : List SubComponent) : ObjectID → List ObjectID :=
  groupBy (·.componentID) (·.id) subs

def initialAggregation (components : List Component) : AggregationMap :=
  mapOf (·.id) (fun _ => ⟨false, .operational, []⟩) components

/-- `state.HasDirectImpact = true` and the raise of `state.DirectStatus`. -/
def recordDirect (agg : AggregationMap) (componentID : ObjectID) (status : ComponentStatus) :
    AggregationMap :=
  Function.update agg componentID ((agg componentID).map fun state =>
    { state with
      hasDirectImpact := true
      directStatus := maxComponentStatus state.directStatus status })

/-- `state.ImpactedSubIDs[subID] = struct{}{}`. -/
def recordSub (agg : AggregationMap) (componentID subID : ObjectID) : AggregationMap :=
  Function.update agg componentID ((agg componentID).map fun state =>
    { state with impactedSubIDs := state.impactedSubIDs.insert subID })

def raiseStatus (statuses : StatusMap) (id : ObjectID) (status : ComponentStatus) : StatusMap :=
  Function.update statuses id (some (maxComponentStatus (statuses.read id) status))

structure ImpactState where
  agg : AggregationMap
  subStatus : StatusMap

def impactSub (componentID : ObjectID) (status : ComponentStatus) (st : ImpactState)
    (subID : ObjectID) : ImpactState :=
  ⟨recordSub st.agg componentID subID, raiseStatus st.subStatus subID status⟩

def impactTarget (subs : List SubComponent) (status : ComponentStatus) (st : ImpactState)
    (target : IncidentAffectedComponent) : ImpactState :=
  if (st.agg target.componentID).isNone then st
  else if target.subComponentIDs.length = 0 then
    (subsByComp subs target.componentID).foldl (impactSub target.componentID status)
      { st with agg := recordDirect st.agg target.componentID status }
  else
    target.subComponentIDs.foldl (impactSub target.componentID status) st

def impactIncident (subs : List SubComponent) (st : ImpactState) (incident : Incident) :
    ImpactState :=
  let incidentStatus := mapIncidentImpactToStatus incident.impact
  if incidentStatus = .operational then st
  else (normalizeIncidentTargetsForExpansion incident).foldl (impactTarget subs incidentStatus) st

def impactMaintained (subs : List SubComponent) (st : ImpactState) (componentID : ObjectID) :
    ImpactState :=
  if (st.agg componentID).isNone then st
  else (subsByComp subs componentID).foldl (impactSub componentID .maintenance)
    { st with agg := recordDirect st.agg componentID .maintenance }

def impactMaintenance (subs : List SubComponent) (st : ImpactState) (maintenance : Maintenance) :
    ImpactState :=
  maintenance.components.foldl (impactMaintained subs) st

def worstSubStatus (order : MapOrder) (componentID : ObjectID) (subStatus : StatusMap)
    (impactedSubIDs : List ObjectID) : ComponentStatus :=
  (order.keys componentID impactedSubIDs).foldl
    (fun worst subID => maxComponentStatus worst (subStatus.read subID)) .operational

def deriveComponent (order : MapOrder) (subs : List SubComponent) (st : ImpactState)
    (componentStatus : StatusMap) (component : Component) : StatusMap :=
  match st.agg component.id with
  | none => componentStatus
  | some state =>
    let totalSubs := (subsByComp subs component.id).length
    let impactedSubCount := state.impactedSubIDs.length
    if !state.hasDirectImpact && impactedSubCount = 0 then componentStatus
    else
      let derived := if !state.hasDirectImpact then .operational else state.directStatus
      let worst := worstSubStatus order component.id st.subStatus state.impactedSubIDs
      let derived :=
        if impactedSubCount > 0 ∧ impactedSubCount < totalSubs then
          maxComponentStatus derived (partialAggregateStatusFromSubStatus worst)
        else maxComponentStatus derived worst
      Function.update componentStatus component.id (some derived)

def deriveStatuses (order : MapOrder) (components : List Component) (subs : List SubComponent)
    (activeIncidents : List Incident) (activeMaintenance : List Maintenance) :
    DerivedStatusResult :=
  let st : ImpactState := ⟨initialAggregation components, mapOf (·.id) (·.status) subs⟩
  let st := activeIncidents.foldl (impactIncident subs) st
  let st := activeMaintenance.foldl (impactMaintenance subs) st
  ⟨components.foldl (deriveComponent order subs st) (mapOf (·.id) (·.status) components),
    st.subStatus⟩

def displayTarget (subs : List SubComponent) (status : ComponentStatus) (agg : AggregationMap)
    (target : IncidentAffectedComponent) : AggregationMap :=
  if (agg target.componentID).isNone then agg
  else if target.subComponentIDs.length = 0 then
    (subsByComp subs target.componentID).foldl
      (fun agg subID => recordSub agg target.componentID subID)
      (recordDirect agg target.componentID status)
  else
    target.subComponentIDs.foldl (fun agg subID => recordSub agg target.componentID subID) agg

def displayIncident (subs : List SubComponent) (agg : AggregationMap) (incident : Incident) :
    AggregationMap :=
  let incidentStatus := mapIncidentImpactToStatus incident.impact
  if incidentStatus = .operational then agg
  else (normalizeIncidentTargetsForExpansion incident).foldl (displayTarget subs incidentStatus) agg

def displayMaintenance (agg : AggregationMap) (maintenance : Maintenance) : AggregationMap :=
  maintenance.components.foldl (fun agg componentID =>
    if (agg componentID).isNone then agg else recordDirect agg componentID .maintenance) agg

/-- The last loop runs over the keys of the aggregation map, each once. -/
def deriveComponentDisplayStatuses (order : MapOrder) (components : List Component)
    (subs : List SubComponent) (activeIncidents : List Incident)
    (activeMaintenance : List Maintenance) (base : DerivedStatusResult) : StatusMap :=
  let agg := activeIncidents.foldl (displayIncident subs) (initialAggregation components)
  let agg := activeMaintenance.foldl displayMaintenance agg
  fun componentID =>
    match agg componentID with
    | none => base.componentStatus componentID
    | some state =>
      if state.hasDirectImpact || state.impactedSubIDs.length = 0 then
        base.componentStatus componentID
      else
        some (partialAggregateStatusFromSubStatus
          (worstSubStatus order componentID base.subStatus state.impactedSubIDs))

end Statora.Status
