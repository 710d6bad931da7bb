import Statora.Status.Confluence

/-!
# The severity of a derived status

Only severities are compared here, so that stored statuses may be any text. The
severity of a derived status is the highest among the statuses that count for
it: the stored status of a sub-component and the hits on it, and for a component
that is hit the direct hits and what counts for the sub-components hit under it.
-/

namespace Statora.Status

theorem rank_maxComponentStatus_le {a b : ComponentStatus} {n : ℕ} :
    componentSeverityRank (maxComponentStatus a b) ≤ n ↔
      componentSeverityRank a ≤ n ∧ componentSeverityRank b ≤ n := by
  simp only [maxComponentStatus]
  split_ifs <;> omega

theorem rank_partialAggregate (status : ComponentStatus) :
    componentSeverityRank (partialAggregateStatusFromSubStatus status) =
      min (componentSeverityRank status) 4 := by
  cases status <;> rfl

def SubCounts (S : Snapshot) (subID : ObjectID) (status : ComponentStatus) : Prop :=
  (∃ sub ∈ S.subs, sub.id = subID ∧ sub.status = status) ∨ status ∈ subHits S subID

open Classical in
/-- A component of which only a part is hit counts a major outage of the part as a
partial one. -/
noncomputable def demoted (S : Snapshot) (componentID : ObjectID) (status : ComponentStatus) :
    ComponentStatus :=
  if PartlyImpacted S componentID then partialAggregateStatusFromSubStatus status else status

/-- The statuses that count for a component that is hit. -/
inductive Counts (S : Snapshot) (componentID : ObjectID) : ComponentStatus → Prop
  | operational : Counts S componentID .operational
  | direct {status : ComponentStatus} (hdirect : DirectHit S componentID status) :
      Counts S componentID status
  | sub {subID : ObjectID} {status : ComponentStatus}
      (himpacted : subID ∈ impactedSubs S componentID) (hcounts : SubCounts S subID status) :
      Counts S componentID (demoted S componentID status)

section Severity
variable {S : Snapshot} (order : MapOrder)

theorem rank_final_le_iff (hS : S.Keyed) (subID : ObjectID) (n : ℕ) :
    componentSeverityRank (S.final.subStatus.read subID) ≤ n ↔
      ∀ x, SubCounts S subID x → componentSeverityRank x ≤ n := by
  have hworst := (foldl_applyImpact_subStatus S.initial S.impacts subID).1
  rw [appliedHits_eq] at hworst
  change Worst _ (S.final.subStatus.read subID) at hworst
  rw [hworst.rank_le_iff]
  constructor
  · rintro hall x (⟨sub, hsub, rfl, rfl⟩ | hhit)
    · exact hall _ (Or.inl (initial_read_of_mem hS hsub).symm)
    · exact hall x (Or.inr hhit)
  · rintro hall x (rfl | hhit)
    · by_cases hknown : ∃ sub ∈ S.subs, sub.id = subID
      · obtain ⟨sub, hsub, rfl⟩ := hknown
        rw [initial_read_of_mem hS hsub]
        exact hall _ (Or.inl ⟨sub, hsub, rfl, rfl⟩)
      · rw [initial_read_of_not_mem fun hmem => hknown (List.mem_map.mp hmem)]
        exact Nat.zero_le n
    · exact hall x (Or.inr hhit)

theorem rank_subStatus_le_iff (hS : S.Keyed) {sub : SubComponent} (hsub : sub ∈ S.subs) (n : ℕ) :
    componentSeverityRank ((S.derive order).subStatus.read sub.id) ≤ n ↔
      ∀ x, SubCounts S sub.id x → componentSeverityRank x ≤ n := by
  rw [StatusMap.read_eq (derive_subStatus_of_mem order hsub), Option.getD_some]
  exact rank_final_le_iff hS sub.id n

theorem rank_worstSubStatus_le_iff (hS : S.Keyed) {c : Component}
    {state : ComponentAggregationState} (h : StateTracks S.impacts c.id state) {n : ℕ}
    (hn : 1 ≤ n) :
    componentSeverityRank (worstSubStatus order c.id S.final.subStatus state.impactedSubIDs) ≤ n ↔
      ∀ subID ∈ impactedSubs S c.id, ∀ x, SubCounts S subID x → componentSeverityRank x ≤ n := by
  have hfold := Library.isWorst_foldl componentSeverityRank .operational
    ((order.keys c.id state.impactedSubIDs).map S.final.subStatus.read)
  rw [List.foldl_map] at hfold
  have hmem : ∀ subID, subID ∈ order.keys c.id state.impactedSubIDs ↔
      subID ∈ impactedSubs S c.id := fun subID => by
    rw [(order.perm c.id state.impactedSubIDs).mem_iff, h.impacted]
    exact exists_congr fun x => sub_mem_impacts
  refine (hfold.rank_le_iff n).trans ?_
  constructor
  · intro hall subID himpacted
    rw [← rank_final_le_iff hS]
    exact hall _ (Or.inr (List.mem_map_of_mem ((hmem subID).mpr himpacted)))
  · rintro hall x (rfl | hx)
    · exact hn
    · obtain ⟨subID, hkey, rfl⟩ := List.mem_map.mp hx
      exact (rank_final_le_iff hS subID n).mpr (hall subID ((hmem subID).mp hkey))

theorem rank_demoted_le_iff (componentID : ObjectID) (status : ComponentStatus) (n : ℕ) :
    componentSeverityRank (demoted S componentID status) ≤ n ↔
      (PartlyImpacted S componentID ∧ 4 ≤ n) ∨ componentSeverityRank status ≤ n := by
  simp only [demoted]
  split_ifs with hpartly
  · rw [rank_partialAggregate]
    simp only [hpartly, true_and]
    omega
  · simp [hpartly]

theorem counts_le_iff (componentID : ObjectID) {n : ℕ} (hn : 1 ≤ n) :
    (∀ x, Counts S componentID x → componentSeverityRank x ≤ n) ↔
      (∀ x, DirectHit S componentID x → componentSeverityRank x ≤ n) ∧
        ∀ subID ∈ impactedSubs S componentID, ∀ x, SubCounts S subID x →
          componentSeverityRank (demoted S componentID x) ≤ n := by
  constructor
  · intro hall
    exact ⟨fun x hx => hall x (.direct hx), fun subID hsub x hx => hall _ (.sub hsub hx)⟩
  · rintro ⟨hdirect, hsub⟩ x hx
    cases hx with
    | operational => exact hn
    | direct hx => exact hdirect x hx
    | sub himpacted hcounts => exact hsub _ himpacted _ hcounts

theorem rank_derived_le_iff (hS : S.Keyed) {c : Component} (hc : c ∈ S.components)
    (hhit : IsHit S c.id) (n : ℕ) :
    componentSeverityRank ((S.derive order).componentStatus.read c.id) ≤ n ↔
      ∀ x, Counts S c.id x → componentSeverityRank x ≤ n := by
  obtain ⟨state, hstate, htracks⟩ := final_agg_of_mem hc
  have hdirect := (worst_direct htracks).rank_le_iff n
  have hskip := (isHit_iff htracks).mp hhit
  have hpartly := partlyImpacted_iff htracks
  rw [StatusMap.read_eq (derive_componentStatus_of_mem order hS hc), Option.getD_some,
    derivedComponent, hstate, Option.bind_some, if_neg hskip]
  dsimp only
  generalize (if (!state.hasDirectImpact) = true then _ else _ : ComponentStatus) = direct
    at hdirect ⊢
  by_cases hn : 1 ≤ n
  · have hworst := rank_worstSubStatus_le_iff order hS htracks hn
    have hfloor : componentSeverityRank .operational ≤ n := hn
    have hdirect' : (∀ x ∈ {x | x = .operational ∨ DirectHit S c.id x},
        componentSeverityRank x ≤ n) ↔ ∀ x, DirectHit S c.id x → componentSeverityRank x ≤ n := by
      simp only [Set.mem_ofPred_eq, or_imp, forall_and, forall_eq, hfloor, true_and]
    rw [counts_le_iff c.id hn, ← hdirect', ← hdirect]
    by_cases hpart : PartlyImpacted S c.id
    · rw [if_pos (hpartly.mp hpart), Option.getD_some, rank_maxComponentStatus_le,
        rank_partialAggregate, min_le_iff, hworst]
      simp only [rank_demoted_le_iff, hpart, true_and]
      refine and_congr_right fun _ => ?_
      by_cases hfour : 4 ≤ n
      · simp [hfour]
      · simp [hfour]
    · rw [if_neg fun h => hpart (hpartly.mpr h), Option.getD_some, rank_maxComponentStatus_le,
        hworst]
      simp only [rank_demoted_le_iff, hpart, false_and, false_or]
  · -- Neither side holds below the rank of operational.
    refine iff_of_false (fun h => hn ?_) fun h => hn (h .operational .operational)
    have hle : ∀ w, componentSeverityRank (maxComponentStatus direct w) ≤ n → 1 ≤ n :=
      fun w hw => hdirect.mp (rank_maxComponentStatus_le.mp hw).1 .operational (Or.inl rfl)
    split_ifs at h <;> exact hle _ h

theorem le_rank_derived_iff (hS : S.Keyed) {c : Component} (hc : c ∈ S.components)
    (hhit : IsHit S c.id) (n : ℕ) :
    n ≤ componentSeverityRank ((S.derive order).componentStatus.read c.id) ↔
      ∃ x, Counts S c.id x ∧ n ≤ componentSeverityRank x := by
  have hle := rank_derived_le_iff order hS hc hhit
  constructor
  · intro hn
    by_contra hnone
    push Not at hnone
    have hpos : 1 ≤ n := by
      have hfloor := hnone .operational .operational
      change 1 < n at hfloor
      omega
    have hbelow := (hle (n - 1)).mpr fun x hx => by
      have hx := hnone x hx
      omega
    omega
  · rintro ⟨x, hx, hn⟩
    exact hn.trans ((hle _).mp le_rfl x hx)

theorem rank_derived_of_not_isHit (hS : S.Keyed) {c : Component} (hc : c ∈ S.components)
    (hhit : ¬ IsHit S c.id) : (S.derive order).componentStatus.read c.id = c.status := by
  obtain ⟨state, hstate, htracks⟩ := final_agg_of_mem hc
  have hskip := not_not.mp (mt (isHit_iff htracks).mpr hhit)
  rw [StatusMap.read_eq (derive_componentStatus_of_mem order hS hc), Option.getD_some,
    derivedComponent, hstate, Option.bind_some, if_pos hskip]
  rfl

end Severity
end Statora.Status
