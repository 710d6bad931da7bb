import Statora.Status.Evidence

/-!
# More incidents and maintenance

An additional incident or maintenance adds hits and takes none away. Whatever
was hit before stays at least as severe; a component that nothing hit before
gives up its stored status for what now counts for it, and may look healthier.
-/

namespace Statora.Status

/-- The same components and sub-components, with possibly more active incidents and
maintenance, in any order. -/
structure Snapshot.Extends (S S' : Snapshot) : Prop where
  components : S'.components = S.components
  subs : S'.subs = S.subs
  incidents : ∀ incident ∈ S.incidents, incident ∈ S'.incidents
  maintenance : ∀ maintenance ∈ S.maintenance, maintenance ∈ S'.maintenance

/-- No component and no sub-component of `S` is less severe in `after`. -/
def AtLeastAsSevere (S : Snapshot) (before after : DerivedStatusResult) : Prop :=
  (∀ c ∈ S.components, componentSeverityRank (before.componentStatus.read c.id) ≤
    componentSeverityRank (after.componentStatus.read c.id)) ∧
  ∀ sub ∈ S.subs, componentSeverityRank (before.subStatus.read sub.id) ≤
    componentSeverityRank (after.subStatus.read sub.id)

/-- For every component that is hit in `S'` and was not hit in `S`, some status that
counts for it in `S'` is as severe as its stored status. -/
def CoversStored (S S' : Snapshot) : Prop :=
  ∀ c ∈ S.components, ¬ IsHit S c.id → IsHit S' c.id →
    ∃ x, Counts S' c.id x ∧ componentSeverityRank c.status ≤ componentSeverityRank x

section Extends
variable {S S' : Snapshot} {componentID subID : ObjectID} {status : ComponentStatus}

theorem Snapshot.Extends.keyed (h : S.Extends S') (hS : S.Keyed) : S'.Keyed := by
  refine ⟨?_, ?_⟩
  · rw [h.components]
    exact hS.componentIDs
  · rw [h.subs]
    exact hS.subIDs

theorem DirectHit.extends (h : S.Extends S') (hhit : DirectHit S componentID status) :
    DirectHit S' componentID status := by
  cases hhit with
  | incident hincident htarget hcomponent hwhole hstatus =>
    exact .incident (h.incidents _ hincident) htarget hcomponent hwhole hstatus
  | maintenance hmaintenance hcomponent =>
    exact .maintenance (h.maintenance _ hmaintenance) hcomponent

theorem HitUnder.extends (h : S.Extends S') (hhit : HitUnder S componentID subID status) :
    HitUnder S' componentID subID status := by
  cases hhit with
  | named hincident htarget hcomponent hsub hstatus =>
    exact .named (h.incidents _ hincident) htarget hcomponent hsub hstatus
  | whole hdirect hsub hcomponent hid =>
    exact .whole (hdirect.extends h) (h.subs ▸ hsub) hcomponent hid

theorem impactedSubs_extends (h : S.Extends S') :
    impactedSubs S componentID ⊆ impactedSubs S' componentID :=
  fun _ ⟨x, hx⟩ => ⟨x, hx.extends h⟩

theorem IsHit.extends (h : S.Extends S') (hhit : IsHit S componentID) : IsHit S' componentID := by
  rcases hhit with ⟨x, hdirect⟩ | hsubs
  · exact Or.inl ⟨x, hdirect.extends h⟩
  · exact Or.inr (hsubs.mono (impactedSubs_extends h))

theorem SubCounts.extends (h : S.Extends S') (hcounts : SubCounts S subID status) :
    SubCounts S' subID status := by
  rcases hcounts with ⟨sub, hsub, hid, hstatus⟩ | ⟨c, hc, hhit⟩
  · exact Or.inl ⟨sub, h.subs ▸ hsub, hid, hstatus⟩
  · exact Or.inr ⟨c, h.components ▸ hc, hhit.extends h⟩

theorem PartlyImpacted.of_extends (h : S.Extends S') (hhit : IsHit S componentID)
    (hfinite : (impactedSubs S' componentID).Finite) (hpartly : PartlyImpacted S' componentID) :
    PartlyImpacted S componentID := by
  have hle := Set.ncard_le_ncard (impactedSubs_extends h) hfinite
  have hlt := hpartly.2
  rw [h.subs] at hlt
  refine ⟨?_, hle.trans_lt hlt⟩
  have hsome : (impactedSubs S componentID).Nonempty := by
    rcases hhit with ⟨x, hdirect⟩ | hsubs
    · obtain ⟨sub, hsub⟩ := List.exists_mem_of_length_pos ((Nat.zero_le _).trans_lt hlt)
      obtain ⟨hmem, hcomponent⟩ := List.mem_filter.mp hsub
      exact ⟨sub.id, x, .whole hdirect hmem (of_decide_eq_true hcomponent) rfl⟩
    · exact hsubs
  exact (Set.ncard_pos (hfinite.subset (impactedSubs_extends h))).mpr hsome

theorem Counts.extends (h : S.Extends S') (hhit : IsHit S componentID)
    (hfinite : (impactedSubs S' componentID).Finite) (hcounts : Counts S componentID status) :
    ∃ x, Counts S' componentID x ∧ componentSeverityRank status ≤ componentSeverityRank x := by
  cases hcounts with
  | operational => exact ⟨_, .operational, le_rfl⟩
  | direct hdirect => exact ⟨status, .direct (hdirect.extends h), le_rfl⟩
  | @sub subID x himpacted hx =>
    refine ⟨_, .sub (impactedSubs_extends h himpacted) (hx.extends h), ?_⟩
    rw [rank_demoted_le_iff]
    by_cases hpartly : PartlyImpacted S' componentID
    · have hbefore := hpartly.of_extends h hhit hfinite
      rw [demoted, if_pos hpartly, rank_partialAggregate]
      simp only [hbefore, true_and]
      omega
    · rw [demoted, if_neg hpartly]
      exact Or.inr le_rfl

end Extends

section Derive
variable {S S' : Snapshot}

theorem finite_impactedSubs {c : Component} (hc : c ∈ S.components) :
    (impactedSubs S c.id).Finite := by
  obtain ⟨state, -, htracks⟩ := final_agg_of_mem hc
  refine state.impactedSubIDs.toFinset.finite_toSet.subset fun subID ⟨x, hx⟩ => ?_
  rw [Finset.mem_coe, List.mem_toFinset]
  exact (htracks.impacted subID).mpr ⟨x, sub_mem_impacts.mpr hx⟩

theorem rank_subStatus_extends (hS : S.Keyed) (h : S.Extends S') (order order' : MapOrder)
    {sub : SubComponent} (hsub : sub ∈ S.subs) :
    componentSeverityRank ((S.derive order).subStatus.read sub.id) ≤
      componentSeverityRank ((S'.derive order').subStatus.read sub.id) := by
  rw [rank_subStatus_le_iff order hS hsub]
  intro x hx
  have hsub' : sub ∈ S'.subs := h.subs ▸ hsub
  exact (rank_subStatus_le_iff order' (h.keyed hS) hsub' _).mp le_rfl x (hx.extends h)

theorem rank_componentStatus_extends (hS : S.Keyed) (h : S.Extends S') (order order' : MapOrder)
    {c : Component} (hc : c ∈ S.components) (hhit : IsHit S c.id) :
    componentSeverityRank ((S.derive order).componentStatus.read c.id) ≤
      componentSeverityRank ((S'.derive order').componentStatus.read c.id) := by
  have hc' : c ∈ S'.components := h.components ▸ hc
  rw [rank_derived_le_iff order hS hc hhit]
  intro x hx
  obtain ⟨y, hy, hle⟩ := hx.extends h hhit (finite_impactedSubs hc')
  exact hle.trans ((rank_derived_le_iff order' (h.keyed hS) hc' (hhit.extends h) _).mp le_rfl y hy)

theorem atLeastAsSevere_iff (S S' : Snapshot) (order order' : MapOrder) (hS : S.Keyed)
    (h : S.Extends S') :
    AtLeastAsSevere S (S.derive order) (S'.derive order') ↔ CoversStored S S' := by
  constructor
  · rintro ⟨hcomponents, -⟩ c hc hunhit hhit
    have hc' : c ∈ S'.components := h.components ▸ hc
    have hle := hcomponents c hc
    rw [rank_derived_of_not_isHit order hS hc hunhit] at hle
    exact (le_rank_derived_iff order' (h.keyed hS) hc' hhit _).mp hle
  · intro hcovers
    refine ⟨fun c hc => ?_, fun sub hsub => rank_subStatus_extends hS h order order' hsub⟩
    have hc' : c ∈ S'.components := h.components ▸ hc
    by_cases hbefore : IsHit S c.id
    · exact rank_componentStatus_extends hS h order order' hc hbefore
    · rw [rank_derived_of_not_isHit order hS hc hbefore]
      by_cases hafter : IsHit S' c.id
      · exact (le_rank_derived_iff order' (h.keyed hS) hc' hafter _).mpr
          (hcovers c hc hbefore hafter)
      · rw [rank_derived_of_not_isHit order' (h.keyed hS) hc' hafter]

end Derive

def failedComponent (maintenance : List Maintenance) : Snapshot where
  components := [{ id := 1, name := "API", status := .majorOutage }]
  subs := []
  incidents := []
  maintenance := maintenance

def plannedWork : Maintenance where
  id := 2
  title := "upgrade"
  components := [1]
  startTime := 0
  endTime := 3600
  status := .inProgress

theorem extends_plannedWork : (failedComponent []).Extends (failedComponent [plannedWork]) :=
  ⟨rfl, rfl, fun _ h => h, fun _ h => absurd h List.not_mem_nil⟩

theorem atLeastAsSevere_iff_plannedWork :
    AtLeastAsSevere (failedComponent []) ((failedComponent []).derive .insertion)
        ((failedComponent [plannedWork]).derive .insertion) ↔
      CoversStored (failedComponent []) (failedComponent [plannedWork]) :=
  atLeastAsSevere_iff (failedComponent []) (failedComponent [plannedWork]) .insertion .insertion
    ⟨by decide, by decide⟩ extends_plannedWork

theorem plannedWork_hides_outage :
    (failedComponent []).Extends (failedComponent [plannedWork]) ∧
      ¬ AtLeastAsSevere (failedComponent []) ((failedComponent []).derive .insertion)
        ((failedComponent [plannedWork]).derive .insertion) := by
  refine ⟨extends_plannedWork, fun h => ?_⟩
  have hle := h.1 { id := 1, name := "API", status := .majorOutage } (List.mem_singleton_self _)
  exact absurd hle (by decide)

end Statora.Status
