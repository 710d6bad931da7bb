import Statora.Status.ClosedForm

/-!
# The derivation computes the closed form

The invariant of the impact fold says what the aggregation state of a component
and the status of a sub-component are in terms of the set of impacts seen so
far. The last loop reads both.
-/

namespace Statora.Status
open Library (IsWorst isWorst_foldl isWorst_singleton mapOf mapOf_isSome mapOf_of_mem
  mapOf_eq_none)

/-- What the fold over `impacts` keeps for a listed component. -/
structure StateTracks (impacts : List Impact) (componentID : ObjectID)
    (state : ComponentAggregationState) : Prop where
  hasDirect : state.hasDirectImpact = true ↔ ∃ status, .direct componentID status ∈ impacts
  direct : Worst {x | x = .operational ∨ .direct componentID x ∈ impacts} state.directStatus
  impacted : ∀ subID, subID ∈ state.impactedSubIDs ↔ ∃ x, .sub componentID subID x ∈ impacts
  nodup : state.impactedSubIDs.Nodup

section Aggregation
variable {components : List Component} {impacts : List Impact} {componentID : ObjectID}
  {state : ComponentAggregationState}

theorem initialAggregation_isNone :
    (initialAggregation components componentID).isNone = false ↔
      componentID ∈ components.map (·.id) := by
  rw [← mapOf_isSome fun _ => (⟨false, .operational, []⟩ : ComponentAggregationState)]
  simp [initialAggregation, ← Option.not_isSome]

theorem initialAggregation_tracks (h : initialAggregation components componentID = some state) :
    StateTracks [] componentID state := by
  have hstate : state = ⟨false, .operational, []⟩ := by
    have : ∀ l : List Component, ∀ s, mapOf (·.id)
        (fun _ => (⟨false, .operational, []⟩ : ComponentAggregationState)) l componentID =
          some s → s = ⟨false, .operational, []⟩ := by
      intro l
      induction l using List.reverseRecOn with
      | nil => simp [mapOf]
      | append_singleton l c ih =>
        intro s hs
        rw [Library.mapOf_append_singleton] at hs
        by_cases hc : componentID = c.id
        · subst hc
          simpa using hs.symm
        · rw [Function.update_of_ne hc] at hs
          exact ih s hs
    exact this components state h
  subst hstate
  exact ⟨by simp, by simpa using isWorst_singleton _, by simp, List.nodup_nil⟩

theorem StateTracks.record (h : StateTracks impacts componentID state) (impact : Impact)
    {agg : AggregationMap} (hagg : agg componentID = some state)
    {state' : ComponentAggregationState}
    (hstate' : recordImpact agg impact componentID = some state') :
    StateTracks (impacts ++ [impact]) componentID state' := by
  by_cases hid : componentID = impact.componentID
  · cases impact with
    | direct id status =>
      obtain rfl : componentID = id := hid
      simp only [recordImpact, recordDirect, Function.update_self, hagg, Option.map_some,
        Option.some.injEq] at hstate'
      subst hstate'
      exact
        { hasDirect := by simp
          direct := h.direct.insert fun x => by simp [or_assoc]
          impacted := fun subID => by simp [h.impacted]
          nodup := h.nodup }
    | sub id subID status =>
      obtain rfl : componentID = id := hid
      simp only [recordImpact, recordSub, Function.update_self, hagg, Option.map_some,
        Option.some.injEq] at hstate'
      subst hstate'
      exact
        { hasDirect := by simp [h.hasDirect]
          direct := by simpa using h.direct
          impacted := fun s => by
            simp only [List.mem_insert_iff, h.impacted, List.mem_append, List.mem_singleton,
              Impact.sub.injEq, true_and, exists_or, exists_and_left, exists_eq, and_true]
            exact or_comm
          nodup := h.nodup.insert }
  · have hkeep : recordImpact agg impact componentID = agg componentID := by
      cases impact with
      | direct id status => exact Function.update_of_ne hid _ _
      | sub id subID status => exact Function.update_of_ne hid _ _
    rw [hkeep, hagg, Option.some.injEq] at hstate'
    subst hstate'
    cases impact with
    | direct id status =>
      have hid : componentID ≠ id := hid
      exact ⟨by simp [h.hasDirect, hid], by simpa [hid] using h.direct,
        fun s => by simp [h.impacted], h.nodup⟩
    | sub id subID status =>
      have hid : componentID ≠ id := hid
      exact ⟨by simp [h.hasDirect], by simpa using h.direct,
        fun s => by simp [h.impacted, hid], h.nodup⟩

theorem foldl_recordImpact_tracks
    (h : impacts.foldl recordImpact (initialAggregation components) componentID = some state) :
    StateTracks impacts componentID state := by
  induction impacts using List.reverseRecOn generalizing state with
  | nil => exact initialAggregation_tracks h
  | append_singleton impacts impact ih =>
    rw [List.foldl_append] at h
    cases hprev : impacts.foldl recordImpact (initialAggregation components) componentID with
    | none =>
      have hnone := recordImpact_isNone
        (impacts.foldl recordImpact (initialAggregation components)) impact componentID
      rw [List.foldl_cons, List.foldl_nil] at h
      rw [h, hprev] at hnone
      exact absurd hnone (by simp)
    | some prev => exact (ih hprev).record impact hprev h

end Aggregation

section SubStatuses
variable {st : ImpactState}

def Impact.statusFor (subID : ObjectID) : Impact → Option ComponentStatus
  | .direct _ _ => none
  | .sub _ id status => if subID = id then some status else none

theorem StatusMap.read_eq {statuses : StatusMap} {id : ObjectID} {status : Option ComponentStatus}
    (h : statuses id = status) : statuses.read id = status.getD (.other "") := by
  rw [StatusMap.read, h]

theorem applyImpact_subStatus (st : ImpactState) (impact : Impact) (subID : ObjectID) :
    (applyImpact st impact).subStatus subID =
      if (st.agg impact.componentID).isNone then st.subStatus subID
      else match impact.statusFor subID with
        | none => st.subStatus subID
        | some status => some (maxComponentStatus (st.subStatus.read subID) status) := by
  unfold applyImpact
  split_ifs with hnone
  · rfl
  · cases impact with
    | direct id status => rfl
    | sub id s status =>
      by_cases hs : subID = s
      · subst hs
        simp [Impact.statusFor, raiseStatus]
      · simp [Impact.statusFor, raiseStatus, hs]

def appliedHits (st : ImpactState) (impacts : List Impact) (subID : ObjectID) :
    Set ComponentStatus :=
  {x | ∃ i ∈ impacts, (st.agg i.componentID).isNone = false ∧ i.statusFor subID = some x}

theorem mem_appliedHits_append {impacts : List Impact} {impact : Impact} {subID : ObjectID}
    {x : ComponentStatus} :
    x ∈ appliedHits st (impacts ++ [impact]) subID ↔ x ∈ appliedHits st impacts subID ∨
      ((st.agg impact.componentID).isNone = false ∧ impact.statusFor subID = some x) := by
  simp [appliedHits, or_and_right, exists_or]

theorem foldl_applyImpact_subStatus (st : ImpactState) (impacts : List Impact) (subID : ObjectID) :
    Worst {x | x = st.subStatus.read subID ∨ x ∈ appliedHits st impacts subID}
        ((impacts.foldl applyImpact st).subStatus.read subID) ∧
      (((impacts.foldl applyImpact st).subStatus subID).isSome ↔
        (st.subStatus subID).isSome ∨ (appliedHits st impacts subID).Nonempty) := by
  induction impacts using List.reverseRecOn with
  | nil => exact ⟨by simpa [appliedHits] using isWorst_singleton _, by simp [appliedHits]⟩
  | append_singleton impacts impact ih =>
    obtain ⟨hworst, hsome⟩ := ih
    rw [List.foldl_append, List.foldl_cons, List.foldl_nil]
    have hlisted : ((impacts.foldl applyImpact st).agg impact.componentID).isNone =
        (st.agg impact.componentID).isNone := by
      rw [foldl_applyImpact_agg, foldl_recordImpact_isNone]
    have hstep := applyImpact_subStatus (impacts.foldl applyImpact st) impact subID
    rw [hlisted] at hstep
    by_cases hhit : ∃ x, (st.agg impact.componentID).isNone = false ∧
        impact.statusFor subID = some x
    · obtain ⟨status, hnone, hstatus⟩ := hhit
      have hmem : ∀ x, x ∈ appliedHits st (impacts ++ [impact]) subID ↔
          x ∈ appliedHits st impacts subID ∨ x = status := fun x => by
        rw [mem_appliedHits_append, hstatus]
        simp [hnone, eq_comm]
      simp only [hnone, hstatus, Bool.false_eq_true, if_false] at hstep
      constructor
      · rw [StatusMap.read_eq hstep]
        exact hworst.insert fun x => (or_congr_right (hmem x)).trans or_assoc.symm
      · rw [hstep]
        exact iff_of_true rfl (Or.inr ⟨status, (hmem status).mpr (Or.inr rfl)⟩)
    · have hmem : appliedHits st (impacts ++ [impact]) subID = appliedHits st impacts subID := by
        ext x
        rw [mem_appliedHits_append]
        exact or_iff_left fun h => hhit ⟨x, h⟩
      have hkeep : (applyImpact (impacts.foldl applyImpact st) impact).subStatus subID =
          (impacts.foldl applyImpact st).subStatus subID := by
        rw [hstep]
        cases hnone : (st.agg impact.componentID).isNone with
        | true => rfl
        | false =>
          cases hstatus : impact.statusFor subID with
          | none => rfl
          | some x => exact absurd ⟨x, hnone, hstatus⟩ hhit
      rw [hmem, hkeep, StatusMap.read_eq hkeep]
      exact ⟨hworst, hsome⟩

end SubStatuses

section Result
variable {S : Snapshot} (order : MapOrder)

def Snapshot.initial (S : Snapshot) : ImpactState :=
  ⟨initialAggregation S.components, mapOf (·.id) (·.status) S.subs⟩

def Snapshot.final (S : Snapshot) : ImpactState := S.impacts.foldl applyImpact S.initial

def derivedComponent (order : MapOrder) (subs : List SubComponent) (st : ImpactState)
    (component : Component) : Option ComponentStatus :=
  (st.agg component.id).bind fun state =>
    if !state.hasDirectImpact && state.impactedSubIDs.length = 0 then none
    else
      let derived := if !state.hasDirectImpact then .operational else state.directStatus
      let worst := worstSubStatus order component.id st.subStatus state.impactedSubIDs
      if state.impactedSubIDs.length > 0 ∧
          state.impactedSubIDs.length < (subsByComp subs component.id).length then
        some (maxComponentStatus derived (partialAggregateStatusFromSubStatus worst))
      else some (maxComponentStatus derived worst)

theorem deriveComponent_eq (order : MapOrder) (subs : List SubComponent) (st : ImpactState)
    (statuses : StatusMap) (component : Component) :
    deriveComponent order subs st statuses component =
      Library.overwrite (·.id) (derivedComponent order subs st) statuses component := by
  unfold deriveComponent Library.overwrite derivedComponent
  cases st.agg component.id with
  | none => rfl
  | some state =>
    dsimp only [Option.bind_some]
    split_ifs <;> rfl

theorem derive_subStatus : (S.derive order).subStatus = S.final.subStatus := by
  simp only [Snapshot.derive, deriveStatuses, impactLoops_eq]
  rfl

theorem derive_componentStatus : (S.derive order).componentStatus =
    S.components.foldl (Library.overwrite (·.id) (derivedComponent order S.subs S.final))
      (mapOf (·.id) (·.status) S.components) := by
  simp only [Snapshot.derive, deriveStatuses, impactLoops_eq]
  exact congrArg (fun f => List.foldl f _ _) (funext₂ (deriveComponent_eq order S.subs S.final))

theorem derive_componentStatus_of_mem (hS : S.Keyed) {c : Component}
    (hc : c ∈ S.components) : (S.derive order).componentStatus c.id =
      some ((derivedComponent order S.subs S.final c).getD c.status) := by
  rw [derive_componentStatus, Library.foldl_overwrite_of_mem hS.componentIDs hc,
    mapOf_of_mem hS.componentIDs hc]
  cases derivedComponent order S.subs S.final c <;> rfl

theorem derive_componentStatus_of_not_mem {id : ObjectID} (hid : id ∉ S.components.map (·.id)) :
    (S.derive order).componentStatus id = none := by
  rw [derive_componentStatus, Library.foldl_overwrite_of_not_mem hid, mapOf_eq_none.mpr hid]

theorem final_agg_isNone (id : ObjectID) :
    (S.final.agg id).isNone = false ↔ id ∈ S.components.map (·.id) := by
  rw [Snapshot.final, foldl_applyImpact_agg, foldl_recordImpact_isNone]
  exact initialAggregation_isNone

theorem final_agg_of_mem {c : Component} (hc : c ∈ S.components) :
    ∃ state, S.final.agg c.id = some state ∧ StateTracks S.impacts c.id state := by
  have hlisted := (final_agg_isNone c.id).mpr (List.mem_map_of_mem hc)
  obtain ⟨state, hstate⟩ := Option.isSome_iff_exists.mp (by rw [← Option.not_isNone, hlisted]; rfl)
  refine ⟨state, hstate, ?_⟩
  rw [Snapshot.final, foldl_applyImpact_agg] at hstate
  exact foldl_recordImpact_tracks hstate

theorem appliedHits_eq (subID : ObjectID) :
    appliedHits S.initial S.impacts subID = subHits S subID := by
  ext x
  constructor
  · rintro ⟨i, hi, hlisted, hstatus⟩
    cases i with
    | direct id status => simp [Impact.statusFor] at hstatus
    | sub id s status =>
      obtain ⟨rfl, rfl⟩ : subID = s ∧ status = x := by
        simpa [Impact.statusFor] using hstatus
      obtain ⟨c, hc, rfl⟩ := List.mem_map.mp (initialAggregation_isNone.mp hlisted)
      exact ⟨c, hc, sub_mem_impacts.mp hi⟩
  · rintro ⟨c, hc, hhit⟩
    exact ⟨_, sub_mem_impacts.mpr hhit, initialAggregation_isNone.mpr (List.mem_map_of_mem hc),
      by simp [Impact.statusFor]⟩

theorem subHits_defined {subID : ObjectID} : ∀ x ∈ subHits S subID, Defined x := by
  rintro x ⟨c, -, hhit⟩
  exact hhit.defined

theorem FinalSubStatus.defined (hS : S.WellFormed) {subID : ObjectID} {x : ComponentStatus}
    (h : FinalSubStatus S subID x) : Defined x := by
  rcases h with ⟨hsub, -, hworst⟩ | ⟨-, hworst⟩
  · rcases hworst.1 with rfl | hhit
    · exact hS.subStatuses _ hsub
    · exact subHits_defined x hhit
  · exact subHits_defined x hworst.1

theorem FinalSubStatus.unique (hS : S.WellFormed) {subID : ObjectID} {x y : ComponentStatus}
    (hx : FinalSubStatus S subID x) (hy : FinalSubStatus S subID y) : x = y := by
  rcases hx with ⟨hsub, hid, hx⟩ | ⟨hunknown, hx⟩ <;>
    rcases hy with ⟨hsub', hid', hy⟩ | ⟨hunknown', hy⟩
  · obtain rfl := List.inj_on_of_nodup_map hS.subIDs hsub hsub' (hid.trans hid'.symm)
    refine Worst.unique (fun z hz => ?_) hx hy
    rcases hz with rfl | hz
    · exact hS.subStatuses _ hsub
    · exact subHits_defined z hz
  · exact absurd hid (hunknown' _ hsub)
  · exact absurd hid' (hunknown _ hsub')
  · exact Worst.unique subHits_defined hx hy

theorem initial_read_of_mem (hS : S.Keyed) {sub : SubComponent} (hsub : sub ∈ S.subs) :
    S.initial.subStatus.read sub.id = sub.status :=
  StatusMap.read_eq (mapOf_of_mem hS.subIDs hsub)

theorem initial_read_of_not_mem {subID : ObjectID} (hsub : subID ∉ S.subs.map (·.id)) :
    S.initial.subStatus.read subID = .other "" :=
  StatusMap.read_eq (mapOf_eq_none.mpr hsub)

theorem final_read (hS : S.WellFormed) {subID : ObjectID}
    (h : (∃ sub ∈ S.subs, sub.id = subID) ∨ (subHits S subID).Nonempty) :
    FinalSubStatus S subID (S.final.subStatus.read subID) := by
  have hworst := (foldl_applyImpact_subStatus S.initial S.impacts subID).1
  rw [appliedHits_eq] at hworst
  by_cases hknown : ∃ sub ∈ S.subs, sub.id = subID
  · obtain ⟨sub, hsub, rfl⟩ := hknown
    rw [initial_read_of_mem hS.toKeyed hsub] at hworst
    exact .known hsub rfl hworst
  · rw [initial_read_of_not_mem fun hmem => hknown (List.mem_map.mp hmem)] at hworst
    obtain ⟨x, hx⟩ := h.resolve_left hknown
    refine .unknown (fun sub hsub hid => hknown ⟨sub, hsub, hid⟩) ⟨?_, fun y hy => ?_⟩
    · refine hworst.1.resolve_left fun hother => ?_
      have hrank := hworst.2 x (Or.inr hx)
      rw [hother] at hrank
      have hdefined := (defined_iff_rank x).mp (subHits_defined x hx)
      exact absurd (hdefined.trans hrank) (by decide)
    · exact hworst.2 y (Or.inr hy)

theorem derive_subStatus_of_mem {sub : SubComponent} (hsub : sub ∈ S.subs) :
    (S.derive order).subStatus sub.id = some (S.final.subStatus.read sub.id) := by
  have hsome := (foldl_applyImpact_subStatus S.initial S.impacts sub.id).2
  have hinitial : (S.initial.subStatus sub.id).isSome :=
    (mapOf_isSome _).mpr (List.mem_map_of_mem hsub)
  obtain ⟨x, hx⟩ := Option.isSome_iff_exists.mp (hsome.mpr (Or.inl hinitial))
  rw [derive_subStatus, Snapshot.final, StatusMap.read_eq hx, hx]
  rfl

theorem length_impacted {componentID : ObjectID} {state : ComponentAggregationState}
    (h : StateTracks S.impacts componentID state) :
    state.impactedSubIDs.length = (impactedSubs S componentID).ncard := by
  have hset : impactedSubs S componentID = ↑state.impactedSubIDs.toFinset := by
    ext s
    rw [List.coe_toFinset]
    exact ((h.impacted s).trans (exists_congr fun x => sub_mem_impacts)).symm
  rw [hset, Set.ncard_coe_finset, List.toFinset_card_of_nodup h.nodup]

theorem partlyImpacted_iff {componentID : ObjectID} {state : ComponentAggregationState}
    (h : StateTracks S.impacts componentID state) :
    PartlyImpacted S componentID ↔ state.impactedSubIDs.length > 0 ∧
      state.impactedSubIDs.length < (subsByComp S.subs componentID).length := by
  rw [PartlyImpacted, length_impacted h, subsByComp, Library.groupBy, List.length_map]

theorem isHit_iff {componentID : ObjectID} {state : ComponentAggregationState}
    (h : StateTracks S.impacts componentID state) :
    IsHit S componentID ↔
      ¬ (!state.hasDirectImpact && decide (state.impactedSubIDs.length = 0)) = true := by
  have hdirect : state.hasDirectImpact = true ↔ ∃ x, DirectHit S componentID x :=
    h.hasDirect.trans (exists_congr fun x => direct_mem_impacts)
  have hsubs : state.impactedSubIDs.length ≠ 0 ↔ (impactedSubs S componentID).Nonempty := by
    rw [← Nat.pos_iff_ne_zero, List.length_pos_iff_exists_mem]
    exact exists_congr fun s => (h.impacted s).trans (exists_congr fun x => sub_mem_impacts)
  rw [IsHit, ← hdirect, ← hsubs]
  simp [or_iff_not_imp_left]

theorem worst_direct {componentID : ObjectID} {state : ComponentAggregationState}
    (h : StateTracks S.impacts componentID state) :
    Worst {x | x = .operational ∨ DirectHit S componentID x}
      (if !state.hasDirectImpact then .operational else state.directStatus) := by
  have hworst : Worst {x | x = .operational ∨ DirectHit S componentID x} state.directStatus := by
    simpa only [direct_mem_impacts] using h.direct
  split_ifs with hdirect
  · have hnone : ∀ x, ¬ DirectHit S componentID x := fun x hx => by
      have := h.hasDirect.mpr ⟨x, direct_mem_impacts.mpr hx⟩
      simp [this] at hdirect
    exact ⟨Or.inl rfl, fun x hx => by rw [hx.resolve_right (hnone x)]⟩
  · exact hworst

theorem worst_under (hS : S.WellFormed) {c : Component} (hc : c ∈ S.components)
    {state : ComponentAggregationState} (h : StateTracks S.impacts c.id state) :
    WorstUnder S c.id
      (worstSubStatus order c.id S.final.subStatus state.impactedSubIDs) := by
  have hfold := isWorst_foldl componentSeverityRank .operational
    ((order.keys c.id state.impactedSubIDs).map S.final.subStatus.read)
  rw [List.foldl_map] at hfold
  have hmem : ∀ x, x ∈ (order.keys c.id state.impactedSubIDs).map S.final.subStatus.read ↔
      ∃ s ∈ impactedSubs S c.id, FinalSubStatus S s x := by
    intro x
    simp only [List.mem_map, (order.perm c.id state.impactedSubIDs).mem_iff, h.impacted,
      sub_mem_impacts]
    refine exists_congr fun s => and_congr_right fun ⟨y, hy⟩ => ?_
    have hread := final_read hS (Or.inr ⟨y, c, hc, hy⟩)
    exact ⟨fun hx => hx ▸ hread, fun hx => hread.unique hS hx⟩
  exact ⟨hfold.1.imp_right (hmem _).mp, fun x hx => hfold.2 x (hx.imp_right (hmem x).mpr)⟩

theorem closedForm_derived (hS : S.WellFormed) {c : Component} (hc : c ∈ S.components) :
    ComponentClosedForm S c ((derivedComponent order S.subs S.final c).getD c.status) := by
  obtain ⟨state, hstate, htracks⟩ := final_agg_of_mem hc
  have hhit := isHit_iff htracks
  have hdirect := worst_direct htracks
  have hworst := worst_under order hS hc htracks
  rw [derivedComponent, hstate, Option.bind_some]
  by_cases hskip : (!state.hasDirectImpact && decide (state.impactedSubIDs.length = 0)) = true
  · rw [if_pos hskip]
    exact .unhit fun h => hhit.mp h hskip
  · rw [if_neg hskip]
    by_cases hpartly : PartlyImpacted S c.id
    · dsimp only
      rw [if_pos ((partlyImpacted_iff htracks).mp hpartly)]
      exact .partly (hhit.mpr hskip) hdirect hworst hpartly
    · dsimp only
      rw [if_neg fun h => hpartly ((partlyImpacted_iff htracks).mpr h)]
      exact .wholly (hhit.mpr hskip) hdirect hworst hpartly

theorem ComponentClosedForm.unique (hS : S.WellFormed) {c : Component} {x y : ComponentStatus}
    (hx : ComponentClosedForm S c x) (hy : ComponentClosedForm S c y) : x = y := by
  have hdirect : ∀ {d d' : ComponentStatus},
      Worst {x | x = .operational ∨ DirectHit S c.id x} d →
      Worst {x | x = .operational ∨ DirectHit S c.id x} d' → d = d' := by
    refine fun h h' => Worst.unique (fun z hz => ?_) h h'
    rcases hz with rfl | hz
    · simp [Defined]
    · exact hz.defined
  have hworst : ∀ {w w' : ComponentStatus}, WorstUnder S c.id w → WorstUnder S c.id w' →
      w = w' := by
    refine fun h h' => Worst.unique (fun z hz => ?_) h h'
    rcases hz with rfl | ⟨s, -, hz⟩
    · simp [Defined]
    · exact hz.defined hS
  cases hx with
  | unhit hhit =>
    cases hy with
    | unhit => rfl
    | partly hhit' => exact absurd hhit' hhit
    | wholly hhit' => exact absurd hhit' hhit
  | partly hhit hd hw hpartly =>
    cases hy with
    | unhit hhit' => exact absurd hhit hhit'
    | partly _ hd' hw' => rw [hdirect hd hd', hworst hw hw']
    | wholly _ _ _ hpartly' => exact absurd hpartly hpartly'
  | wholly hhit hd hw hpartly =>
    cases hy with
    | unhit hhit' => exact absurd hhit hhit'
    | partly _ _ _ hpartly' => exact absurd hpartly' hpartly
    | wholly _ hd' hw' => rw [hdirect hd hd', hworst hw hw']

end Result

end Statora.Status
