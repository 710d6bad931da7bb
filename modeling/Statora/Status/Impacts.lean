import Statora.Status.Derivation

/-!
# The impact loops as one fold

Both derivations loop over incidents, targets and sub-components. Flattened,
each is a fold over a list of impacts, and what the fold has stored is a
property of the set of impacts it has seen.
-/

namespace Statora.Status
open Library (IsWorst keepMax mapOf groupBy)

inductive Impact
  | direct (componentID : ObjectID) (status : ComponentStatus)
  | sub (componentID subID : ObjectID) (status : ComponentStatus)

def Impact.componentID : Impact → ObjectID
  | .direct componentID _ | .sub componentID _ _ => componentID

def recordImpact (agg : AggregationMap) : Impact → AggregationMap
  | .direct componentID status => recordDirect agg componentID status
  | .sub componentID subID _ => recordSub agg componentID subID

/-- An impact on a component that is not listed is skipped. -/
def applyImpact (st : ImpactState) (impact : Impact) : ImpactState :=
  if (st.agg impact.componentID).isNone then st
  else
    ⟨recordImpact st.agg impact, match impact with
      | .direct _ _ => st.subStatus
      | .sub _ subID status => raiseStatus st.subStatus subID status⟩

def wholeImpacts (subs : List SubComponent) (componentID : ObjectID) (status : ComponentStatus) :
    List Impact :=
  .direct componentID status :: (subsByComp subs componentID).map (.sub componentID · status)

def targetImpacts (subs : List SubComponent) (status : ComponentStatus)
    (target : IncidentAffectedComponent) : List Impact :=
  if target.subComponentIDs.length = 0 then wholeImpacts subs target.componentID status
  else target.subComponentIDs.map (.sub target.componentID · status)

def incidentImpacts (subs : List SubComponent) (incident : Incident) : List Impact :=
  let status := mapIncidentImpactToStatus incident.impact
  if status = .operational then []
  else (normalizeIncidentTargetsForExpansion incident).flatMap (targetImpacts subs status)

def maintenanceImpacts (subs : List SubComponent) (maintenance : Maintenance) : List Impact :=
  maintenance.components.flatMap (wholeImpacts subs · .maintenance)

section Tables
variable {agg : AggregationMap} {componentID subID id : ObjectID} {status : ComponentStatus}

theorem recordDirect_isNone :
    (recordDirect agg componentID status id).isNone = (agg id).isNone := by
  by_cases h : id = componentID
  · simp [recordDirect, h]
  · simp [recordDirect, h]

theorem recordSub_isNone : (recordSub agg componentID subID id).isNone = (agg id).isNone := by
  by_cases h : id = componentID
  · simp [recordSub, h]
  · simp [recordSub, h]

theorem recordImpact_isNone (agg : AggregationMap) (impact : Impact) (id : ObjectID) :
    (recordImpact agg impact id).isNone = (agg id).isNone := by
  cases impact with
  | direct componentID status => exact recordDirect_isNone
  | sub componentID subID status => exact recordSub_isNone

theorem recordImpact_of_isNone {impact : Impact} (h : (agg impact.componentID).isNone) :
    recordImpact agg impact = agg := by
  have hnone := Option.isNone_iff_eq_none.mp h
  cases impact with
  | direct componentID status =>
    funext id
    by_cases hid : id = componentID
    · subst hid
      simp_all [recordImpact, recordDirect, Impact.componentID]
    · simp [recordImpact, recordDirect, hid]
  | sub componentID subID status =>
    funext id
    by_cases hid : id = componentID
    · subst hid
      simp_all [recordImpact, recordSub, Impact.componentID]
    · simp [recordImpact, recordSub, hid]

end Tables

section Flattening
variable {subs : List SubComponent} {st : ImpactState}

theorem applyImpact_agg (st : ImpactState) (impact : Impact) :
    (applyImpact st impact).agg = recordImpact st.agg impact := by
  unfold applyImpact
  split_ifs with h
  · exact (recordImpact_of_isNone h).symm
  · rfl

theorem foldl_applyImpact_agg (impacts : List Impact) (st : ImpactState) :
    (impacts.foldl applyImpact st).agg = impacts.foldl recordImpact st.agg := by
  induction impacts generalizing st with
  | nil => rfl
  | cons impact impacts ih => rw [List.foldl_cons, List.foldl_cons, ih, applyImpact_agg]

theorem foldl_recordImpact_isNone (impacts : List Impact) (agg : AggregationMap) (id : ObjectID) :
    (impacts.foldl recordImpact agg id).isNone = (agg id).isNone := by
  induction impacts generalizing agg with
  | nil => rfl
  | cons impact impacts ih => rw [List.foldl_cons, ih, recordImpact_isNone]

theorem foldl_applyImpact_of_isNone {impacts : List Impact} {componentID : ObjectID}
    (h : (st.agg componentID).isNone) (himpacts : ∀ i ∈ impacts, i.componentID = componentID) :
    impacts.foldl applyImpact st = st := by
  induction impacts with
  | nil => rfl
  | cons impact impacts ih =>
    have hskip : applyImpact st impact = st := by
      unfold applyImpact
      rw [himpacts impact List.mem_cons_self, if_pos h]
    rw [List.foldl_cons, hskip]
    exact ih fun i hi => himpacts i (List.mem_cons_of_mem _ hi)

theorem foldl_impactSub_eq (componentID : ObjectID) (status : ComponentStatus)
    (subIDs : List ObjectID) (st : ImpactState) (h : (st.agg componentID).isNone = false) :
    subIDs.foldl (impactSub componentID status) st =
      (subIDs.map (.sub componentID · status)).foldl applyImpact st := by
  induction subIDs generalizing st with
  | nil => rfl
  | cons subID subIDs ih =>
    have hstep : applyImpact st (.sub componentID subID status) =
        impactSub componentID status st subID := by
      simp [applyImpact, Impact.componentID, h, impactSub, recordImpact]
    have hnext : ((impactSub componentID status st subID).agg componentID).isNone = false := by
      rw [impactSub, recordSub_isNone, h]
    rw [List.foldl_cons, List.map_cons, List.foldl_cons, hstep, ih _ hnext]

theorem foldl_wholeImpacts (componentID : ObjectID) (status : ComponentStatus) (st : ImpactState)
    (h : (st.agg componentID).isNone = false) :
    (subsByComp subs componentID).foldl (impactSub componentID status)
        { st with agg := recordDirect st.agg componentID status } =
      (wholeImpacts subs componentID status).foldl applyImpact st := by
  have hstep : applyImpact st (.direct componentID status) =
      { st with agg := recordDirect st.agg componentID status } := by
    simp [applyImpact, Impact.componentID, h, recordImpact]
  rw [wholeImpacts, List.foldl_cons, hstep]
  exact foldl_impactSub_eq componentID status _ _ (by rw [recordDirect_isNone, h])

theorem wholeImpacts_componentID (componentID : ObjectID) (status : ComponentStatus) :
    ∀ i ∈ wholeImpacts subs componentID status, i.componentID = componentID := by
  intro i hi
  rcases List.mem_cons.mp hi with rfl | hi
  · rfl
  · obtain ⟨subID, -, rfl⟩ := List.mem_map.mp hi
    rfl

theorem targetImpacts_componentID (status : ComponentStatus) (t : IncidentAffectedComponent) :
    ∀ i ∈ targetImpacts subs status t, i.componentID = t.componentID := by
  unfold targetImpacts
  split_ifs with hsubs
  · exact wholeImpacts_componentID _ _
  · intro i hi
    obtain ⟨subID, -, rfl⟩ := List.mem_map.mp hi
    rfl

theorem impactTarget_eq (status : ComponentStatus) (st : ImpactState)
    (t : IncidentAffectedComponent) :
    impactTarget subs status st t = (targetImpacts subs status t).foldl applyImpact st := by
  unfold impactTarget
  split_ifs with hlisted hsubs
  · exact (foldl_applyImpact_of_isNone hlisted (targetImpacts_componentID status t)).symm
  · rw [targetImpacts, if_pos hsubs]
    exact foldl_wholeImpacts _ _ _ (Bool.not_eq_true _ ▸ hlisted)
  · rw [targetImpacts, if_neg hsubs]
    exact foldl_impactSub_eq _ _ _ _ (Bool.not_eq_true _ ▸ hlisted)

theorem impactMaintained_eq (st : ImpactState) (componentID : ObjectID) :
    impactMaintained subs st componentID =
      (wholeImpacts subs componentID .maintenance).foldl applyImpact st := by
  unfold impactMaintained
  split_ifs with hlisted
  · exact (foldl_applyImpact_of_isNone hlisted (wholeImpacts_componentID _ _)).symm
  · exact foldl_wholeImpacts _ _ _ (Bool.not_eq_true _ ▸ hlisted)

theorem impactIncident_eq (subs : List SubComponent) (st : ImpactState) (incident : Incident) :
    impactIncident subs st incident = (incidentImpacts subs incident).foldl applyImpact st := by
  unfold impactIncident incidentImpacts
  dsimp only
  split_ifs with hstatus
  · rfl
  · rw [List.foldl_flatMap]
    exact congrArg (fun f => List.foldl f st _) (funext₂ (impactTarget_eq _))

theorem impactMaintenance_eq (subs : List SubComponent) (st : ImpactState)
    (maintenance : Maintenance) :
    impactMaintenance subs st maintenance =
      (maintenanceImpacts subs maintenance).foldl applyImpact st := by
  rw [impactMaintenance, maintenanceImpacts, List.foldl_flatMap]
  exact congrArg (fun f => List.foldl f st _) (funext₂ impactMaintained_eq)

theorem impactLoops_eq (incidents : List Incident) (maintenance : List Maintenance)
    (st : ImpactState) :
    maintenance.foldl (impactMaintenance subs) (incidents.foldl (impactIncident subs) st) =
      (incidents.flatMap (incidentImpacts subs) ++
        maintenance.flatMap (maintenanceImpacts subs)).foldl applyImpact st := by
  rw [List.foldl_append, List.foldl_flatMap, List.foldl_flatMap,
    funext₂ (impactIncident_eq subs), funext₂ (impactMaintenance_eq subs)]

end Flattening
end Statora.Status
