import Statora.Status.Confluence

/-!
# Derived against displayed component statuses

`deriveComponentDisplayStatuses` repeats the impact loops on its own state and
lowers the worst sub-component status of every component without a direct hit.
Its result differs from the derived status on the escalated components only.
-/

namespace Statora.Status
open Library (IsWorst isWorst_foldl mapOf mapOf_isSome mapOf_of_mem mapOf_eq_none)

def Snapshot.display (S : Snapshot) (order displayOrder : MapOrder) : StatusMap :=
  deriveComponentDisplayStatuses displayOrder S.components S.subs S.incidents S.maintenance
    (S.derive order)

def MajorUnder (S : Snapshot) (componentID : ObjectID) : Prop :=
  ∃ subID ∈ impactedSubs S componentID,
    (∃ sub ∈ S.subs, sub.id = subID ∧ sub.status = .majorOutage) ∨
      .majorOutage ∈ subHits S subID

/-- Hit through its sub-components only, no fewer of them than it has, and at
least one of them in major outage. -/
def Escalated (S : Snapshot) (componentID : ObjectID) : Prop :=
  (∀ status, ¬ DirectHit S componentID status) ∧ (impactedSubs S componentID).Nonempty ∧
    ¬ PartlyImpacted S componentID ∧ MajorUnder S componentID

section Severity

theorem maxComponentStatus_operational {status : ComponentStatus} (h : Defined status) :
    maxComponentStatus .operational status = status := by
  cases status <;> simp_all [maxComponentStatus, componentSeverityRank, Defined]

theorem partialAggregate_of_ne_major {status : ComponentStatus} (h : status ≠ .majorOutage) :
    partialAggregateStatusFromSubStatus status = status := by
  cases status <;> simp_all [partialAggregateStatusFromSubStatus]

theorem partialAggregate_defined {status : ComponentStatus} (h : Defined status) :
    Defined (partialAggregateStatusFromSubStatus status) := by
  cases status <;> simp_all [partialAggregateStatusFromSubStatus, Defined]

end Severity

section Worst
variable (order order' : MapOrder) (id : ObjectID) (statuses : StatusMap)

theorem worstSubStatus_isWorst (subIDs : List ObjectID) :
    Worst {x | x = .operational ∨ ∃ s ∈ subIDs, statuses.read s = x}
      (worstSubStatus order id statuses subIDs) := by
  have hfold := isWorst_foldl componentSeverityRank .operational
    ((order.keys id subIDs).map statuses.read)
  rw [List.foldl_map] at hfold
  have hmem : ∀ x, x ∈ (order.keys id subIDs).map statuses.read ↔
      ∃ s ∈ subIDs, statuses.read s = x := fun x => by
    simp only [List.mem_map, (order.perm id subIDs).mem_iff]
  exact ⟨hfold.1.imp_right (hmem _).mp, fun x hx => hfold.2 x (hx.imp_right (hmem x).mpr)⟩

theorem worstSubStatus_defined (subIDs : List ObjectID) :
    Defined (worstSubStatus order id statuses subIDs) :=
  (defined_iff_rank _).mpr
    ((worstSubStatus_isWorst order id statuses subIDs).2 .operational (Or.inl rfl))

theorem worstSubStatus_congr {subIDs subIDs' : List ObjectID}
    (h : ∀ s, s ∈ subIDs ↔ s ∈ subIDs') :
    worstSubStatus order id statuses subIDs = worstSubStatus order' id statuses subIDs' := by
  refine componentSeverityRank_injOn (worstSubStatus_defined order id statuses subIDs)
    (worstSubStatus_defined order' id statuses subIDs') ?_
  have hworst := worstSubStatus_isWorst order' id statuses subIDs'
  simp only [← h] at hworst
  exact (worstSubStatus_isWorst order id statuses subIDs).rank_eq hworst

theorem worstSubStatus_eq_major (subIDs : List ObjectID) :
    worstSubStatus order id statuses subIDs = .majorOutage ↔
      ∃ s ∈ subIDs, statuses.read s = .majorOutage := by
  have hworst := worstSubStatus_isWorst order id statuses subIDs
  constructor
  · intro h
    rw [h] at hworst
    exact hworst.1.resolve_left (by simp)
  · intro h
    have hrank := hworst.2 .majorOutage (Or.inr h)
    exact rank_eq_five.mp (le_antisymm (rank_le_five _) hrank)

end Worst

section Display
variable {S : Snapshot} (order displayOrder : MapOrder)

theorem derive_order (order order' : MapOrder) : S.derive order = S.derive order' := by
  have hcomponent : derivedComponent order S.subs S.final =
      derivedComponent order' S.subs S.final := by
    funext c
    unfold derivedComponent
    simp only [worstSubStatus_congr order order' _ _ fun s => Iff.rfl]
  have hc : (S.derive order).componentStatus = (S.derive order').componentStatus := by
    rw [derive_componentStatus, derive_componentStatus, hcomponent]
  have hs : (S.derive order).subStatus = (S.derive order').subStatus := by
    rw [derive_subStatus, derive_subStatus]
  cases hd : S.derive order
  cases hd' : S.derive order'
  simp_all

def displayImpacts (S : Snapshot) : List Impact :=
  S.incidents.flatMap (incidentImpacts S.subs) ++
    S.maintenance.flatMap fun maintenance => maintenance.components.map (.direct · .maintenance)

theorem foldl_recordSub_eq (componentID : ObjectID) (status : ComponentStatus)
    (subIDs : List ObjectID) (agg : AggregationMap) :
    subIDs.foldl (fun agg subID => recordSub agg componentID subID) agg =
      (subIDs.map (.sub componentID · status)).foldl recordImpact agg := by
  rw [List.foldl_map]
  rfl

theorem foldl_recordImpact_of_isNone {impacts : List Impact} {agg : AggregationMap}
    {componentID : ObjectID} (h : (agg componentID).isNone)
    (himpacts : ∀ i ∈ impacts, i.componentID = componentID) :
    impacts.foldl recordImpact agg = agg := by
  induction impacts with
  | nil => rfl
  | cons impact impacts ih =>
    have hid := himpacts impact List.mem_cons_self
    rw [List.foldl_cons, recordImpact_of_isNone (by rw [hid]; exact h)]
    exact ih fun i hi => himpacts i (List.mem_cons_of_mem _ hi)

theorem displayTarget_eq (subs : List SubComponent) (status : ComponentStatus)
    (agg : AggregationMap) (t : IncidentAffectedComponent) :
    displayTarget subs status agg t = (targetImpacts subs status t).foldl recordImpact agg := by
  unfold displayTarget
  split_ifs with hlisted hsubs
  · exact (foldl_recordImpact_of_isNone hlisted (targetImpacts_componentID status t)).symm
  · rw [targetImpacts, if_pos hsubs, wholeImpacts, List.foldl_cons]
    exact foldl_recordSub_eq _ _ _ _
  · rw [targetImpacts, if_neg hsubs]
    exact foldl_recordSub_eq _ _ _ _

theorem displayIncident_eq (subs : List SubComponent) (agg : AggregationMap)
    (incident : Incident) :
    displayIncident subs agg incident = (incidentImpacts subs incident).foldl recordImpact agg := by
  unfold displayIncident incidentImpacts
  dsimp only
  split_ifs with hstatus
  · rfl
  · rw [List.foldl_flatMap]
    exact congrArg (fun f => List.foldl f agg _) (funext₂ (displayTarget_eq subs _))

theorem displayMaintenance_eq (agg : AggregationMap) (maintenance : Maintenance) :
    displayMaintenance agg maintenance =
      (maintenance.components.map (.direct · .maintenance)).foldl recordImpact agg := by
  rw [displayMaintenance, List.foldl_map]
  refine congrArg (fun f => List.foldl f agg _) (funext₂ fun agg componentID => ?_)
  split_ifs with hlisted
  · exact (recordImpact_of_isNone
      (show (agg (Impact.direct componentID .maintenance).componentID).isNone from hlisted)).symm
  · rfl

theorem displayAggregation_eq (S : Snapshot) :
    S.maintenance.foldl displayMaintenance
        (S.incidents.foldl (displayIncident S.subs) (initialAggregation S.components)) =
      (displayImpacts S).foldl recordImpact (initialAggregation S.components) := by
  rw [displayImpacts, List.foldl_append, List.foldl_flatMap, List.foldl_flatMap,
    funext₂ (displayIncident_eq S.subs), funext₂ displayMaintenance_eq]

theorem direct_mem_displayImpacts {componentID : ObjectID} {status : ComponentStatus} :
    .direct componentID status ∈ displayImpacts S ↔ .direct componentID status ∈ S.impacts := by
  simp only [displayImpacts, Snapshot.impacts, List.mem_append, List.mem_flatMap,
    maintenanceImpacts, direct_mem_wholeImpacts, List.mem_map, Impact.direct.injEq]

theorem sub_mem_displayImpacts {componentID subID : ObjectID} {status : ComponentStatus}
    (hdirect : ∀ x, .direct componentID x ∉ S.impacts) :
    .sub componentID subID status ∈ displayImpacts S ↔
      .sub componentID subID status ∈ S.impacts := by
  simp only [displayImpacts, Snapshot.impacts, List.mem_append]
  refine or_congr_right (iff_of_false ?_ ?_)
  · simp
  · intro hmem
    obtain ⟨m, hm, hmem⟩ := List.mem_flatMap.mp hmem
    obtain ⟨id, hid, hmem⟩ := List.mem_flatMap.mp hmem
    obtain ⟨rfl, -, rfl⟩ := sub_mem_wholeImpacts.mp hmem
    refine hdirect .maintenance (List.mem_append_right _ (List.mem_flatMap.mpr ⟨m, hm, ?_⟩))
    exact List.mem_flatMap.mpr ⟨id, hid, direct_mem_wholeImpacts.mpr ⟨rfl, rfl⟩⟩

theorem display_eq {c : Component} (hc : c ∈ S.components) :
    ∃ state, StateTracks (displayImpacts S) c.id state ∧
      S.display order displayOrder c.id =
        if state.hasDirectImpact || decide (state.impactedSubIDs.length = 0) then
          (S.derive order).componentStatus c.id
        else
          some (partialAggregateStatusFromSubStatus
            (worstSubStatus displayOrder c.id S.final.subStatus state.impactedSubIDs)) := by
  have hlisted : (((displayImpacts S).foldl recordImpact
      (initialAggregation S.components)) c.id).isNone = false := by
    rw [foldl_recordImpact_isNone]
    exact initialAggregation_isNone.mpr (List.mem_map_of_mem hc)
  obtain ⟨state, hstate⟩ := Option.isSome_iff_exists.mp
    (by rw [← Option.not_isNone, hlisted]; rfl)
  refine ⟨state, foldl_recordImpact_tracks hstate, ?_⟩
  simp only [Snapshot.display, deriveComponentDisplayStatuses, displayAggregation_eq, hstate,
    derive_subStatus]

theorem display_of_subHit {c : Component} (hc : c ∈ S.components)
    (hdirect : ∀ x, ¬ DirectHit S c.id x) (hsubs : (impactedSubs S c.id).Nonempty)
    {state : ComponentAggregationState} (htracks : StateTracks S.impacts c.id state) :
    S.display order displayOrder c.id = some (partialAggregateStatusFromSubStatus
      (worstSubStatus order c.id S.final.subStatus state.impactedSubIDs)) := by
  obtain ⟨shown, hshown, heq⟩ := display_eq order displayOrder hc
  have hnone : ∀ x, .direct c.id x ∉ S.impacts := fun x hx => hdirect x (direct_mem_impacts.mp hx)
  have hmem : ∀ s, s ∈ shown.impactedSubIDs ↔ s ∈ state.impactedSubIDs := fun s =>
    ((hshown.impacted s).trans (exists_congr fun x => sub_mem_displayImpacts hnone)).trans
      (htracks.impacted s).symm
  have hflag : ¬ shown.hasDirectImpact = true := fun h => by
    obtain ⟨x, hx⟩ := hshown.hasDirect.mp h
    exact hnone x (direct_mem_displayImpacts.mp hx)
  obtain ⟨s, x, hx⟩ := hsubs
  have hlen : shown.impactedSubIDs.length ≠ 0 := by
    have : s ∈ shown.impactedSubIDs :=
      (hmem s).mpr ((htracks.impacted s).mpr ⟨x, sub_mem_impacts.mpr hx⟩)
    rw [← Nat.pos_iff_ne_zero]
    exact List.length_pos_of_mem this
  rw [heq, if_neg (by simp [hflag, hlen]), 
    worstSubStatus_congr displayOrder order _ _ hmem]

theorem display_of_not_subHit {c : Component} (hc : c ∈ S.components)
    (h : (∃ x, DirectHit S c.id x) ∨ impactedSubs S c.id = ∅) :
    S.display order displayOrder c.id = (S.derive order).componentStatus c.id := by
  obtain ⟨shown, hshown, heq⟩ := display_eq order displayOrder hc
  rw [heq]
  refine if_pos ?_
  by_cases hdirect : ∃ x, DirectHit S c.id x
  · have hflag : shown.hasDirectImpact = true := hshown.hasDirect.mpr
      (hdirect.imp fun x hx => direct_mem_displayImpacts.mpr (direct_mem_impacts.mpr hx))
    simp [hflag]
  · have hnone : ∀ x, .direct c.id x ∉ S.impacts := fun x hx =>
      hdirect ⟨x, direct_mem_impacts.mp hx⟩
    have hempty := h.resolve_left hdirect
    have hlen : shown.impactedSubIDs = [] := List.eq_nil_iff_forall_not_mem.mpr fun s hs => by
      obtain ⟨x, hx⟩ := (hshown.impacted s).mp hs
      have : s ∈ impactedSubs S c.id :=
        ⟨x, sub_mem_impacts.mp ((sub_mem_displayImpacts hnone).mp hx)⟩
      simp [hempty] at this
    simp [hlen]

theorem final_read_eq_major (hS : S.Keyed) (subID : ObjectID) :
    S.final.subStatus.read subID = .majorOutage ↔
      (∃ sub ∈ S.subs, sub.id = subID ∧ sub.status = .majorOutage) ∨
        .majorOutage ∈ subHits S subID := by
  have hworst := (foldl_applyImpact_subStatus S.initial S.impacts subID).1
  rw [appliedHits_eq] at hworst
  have hstored : S.initial.subStatus.read subID = .majorOutage ↔
      ∃ sub ∈ S.subs, sub.id = subID ∧ sub.status = .majorOutage := by
    by_cases hknown : subID ∈ S.subs.map (·.id)
    · obtain ⟨sub, hsub, rfl⟩ := List.mem_map.mp hknown
      rw [initial_read_of_mem hS hsub]
      constructor
      · exact fun h => ⟨sub, hsub, rfl, h⟩
      · rintro ⟨sub', hsub', hid, hstatus⟩
        obtain rfl := List.inj_on_of_nodup_map hS.subIDs hsub' hsub hid
        exact hstatus
    · rw [initial_read_of_not_mem hknown]
      refine iff_of_false (by simp) ?_
      rintro ⟨sub, hsub, hid, -⟩
      exact hknown (List.mem_map.mpr ⟨sub, hsub, hid⟩)
  rw [← hstored]
  change IsWorst componentSeverityRank _ (S.final.subStatus.read subID) at hworst
  constructor
  · intro h
    rw [h] at hworst
    exact hworst.1.imp_left Eq.symm
  · intro h
    have hrank := hworst.2 .majorOutage (h.imp_left Eq.symm)
    exact rank_eq_five.mp (le_antisymm (rank_le_five _) hrank)

theorem derive_of_subHit (hS : S.Keyed) {c : Component} (hc : c ∈ S.components)
    (hdirect : ∀ x, ¬ DirectHit S c.id x) (hsubs : (impactedSubs S c.id).Nonempty)
    {state : ComponentAggregationState} (hstate : S.final.agg c.id = some state)
    (htracks : StateTracks S.impacts c.id state) :
    let worst := worstSubStatus order c.id S.final.subStatus state.impactedSubIDs
    (PartlyImpacted S c.id → (S.derive order).componentStatus c.id =
        some (partialAggregateStatusFromSubStatus worst)) ∧
      (¬ PartlyImpacted S c.id → (S.derive order).componentStatus c.id = some worst) := by
  intro worst
  have hskip := (isHit_iff htracks).mp (Or.inr hsubs)
  have hflag : (!state.hasDirectImpact) = true := by
    rw [Bool.not_eq_true']
    by_contra h
    obtain ⟨x, hx⟩ := htracks.hasDirect.mp (by simpa using h)
    exact hdirect x (direct_mem_impacts.mp hx)
  have hdefined : Defined worst := worstSubStatus_defined _ _ _ _
  rw [derive_componentStatus_of_mem order hS hc, derivedComponent, hstate, Option.bind_some,
    if_neg hskip, partlyImpacted_iff htracks]
  dsimp only
  rw [if_pos hflag]
  constructor
  · intro hpartly
    rw [if_pos hpartly, Option.getD_some,
      maxComponentStatus_operational (partialAggregate_defined hdefined)]
  · intro hpartly
    rw [if_neg hpartly, Option.getD_some, maxComponentStatus_operational hdefined]

theorem worstSubStatus_eq_major_iff (hS : S.Keyed) {componentID : ObjectID}
    {state : ComponentAggregationState} (htracks : StateTracks S.impacts componentID state) :
    worstSubStatus order componentID S.final.subStatus state.impactedSubIDs = .majorOutage ↔
      MajorUnder S componentID := by
  rw [worstSubStatus_eq_major]
  refine exists_congr fun s => and_congr ?_ (final_read_eq_major hS s)
  exact (htracks.impacted s).trans (exists_congr fun x => sub_mem_impacts)

theorem display_of_escalated (hS : S.Keyed) {c : Component} (hc : c ∈ S.components)
    (h : Escalated S c.id) :
    (S.derive order).componentStatus c.id = some .majorOutage ∧
      S.display order displayOrder c.id = some .partialOutage := by
  obtain ⟨hdirect, hsubs, hpartly, hmajor⟩ := h
  obtain ⟨state, hstate, htracks⟩ := final_agg_of_mem hc
  have hworst := (worstSubStatus_eq_major_iff order hS htracks).mpr hmajor
  have hderive := (derive_of_subHit order hS hc hdirect hsubs hstate htracks).2 hpartly
  rw [display_of_subHit order displayOrder hc hdirect hsubs htracks, hderive, hworst]
  exact ⟨rfl, rfl⟩

theorem display_of_not_escalated (hS : S.Keyed) {c : Component} (hc : c ∈ S.components)
    (h : ¬ Escalated S c.id) :
    S.display order displayOrder c.id = (S.derive order).componentStatus c.id := by
  by_cases hsub : (∃ x, DirectHit S c.id x) ∨ impactedSubs S c.id = ∅
  · exact display_of_not_subHit order displayOrder hc hsub
  · rw [not_or, not_exists, ← ne_eq, ← Set.nonempty_iff_ne_empty] at hsub
    obtain ⟨hdirect, hsubs⟩ := hsub
    obtain ⟨state, hstate, htracks⟩ := final_agg_of_mem hc
    obtain ⟨hpartly, hwholly⟩ :=
      derive_of_subHit order hS hc hdirect hsubs hstate htracks
    rw [display_of_subHit order displayOrder hc hdirect hsubs htracks]
    by_cases hp : PartlyImpacted S c.id
    · exact (hpartly hp).symm
    · have hmajor : worstSubStatus order c.id S.final.subStatus state.impactedSubIDs ≠
          .majorOutage := fun hworst =>
        h ⟨hdirect, hsubs, hp, (worstSubStatus_eq_major_iff order hS htracks).mp hworst⟩
      rw [hwholly hp, partialAggregate_of_ne_major hmajor]

end Display
end Statora.Status
