import Mathlib.Data.Set.Card
import Statora.Status.Impacts

/-!
# The closed form of derived statuses

`DirectHit` and `HitUnder` say which statuses hit a component and a
sub-component, and `FinalSubStatus` and `ComponentClosedForm` what the derived
status then is. `deriveStatuses` computes exactly that, whatever the order of
its inputs and of the maps it ranges over.
-/

namespace Statora.Status
open Library (IsWorst isWorst_foldl isWorst_singleton mapOf mapOf_isSome mapOf_of_mem
  mapOf_eq_none groupBy mem_groupBy)

structure Snapshot where
  components : List Component
  subs : List SubComponent
  incidents : List Incident
  maintenance : List Maintenance

def Snapshot.derive (S : Snapshot) (order : MapOrder) : DerivedStatusResult :=
  deriveStatuses order S.components S.subs S.incidents S.maintenance

def Snapshot.impacts (S : Snapshot) : List Impact :=
  S.incidents.flatMap (incidentImpacts S.subs) ++ S.maintenance.flatMap (maintenanceImpacts S.subs)

abbrev Worst (A : Set ComponentStatus) (status : ComponentStatus) : Prop :=
  IsWorst componentSeverityRank A status

inductive DirectHit (S : Snapshot) (componentID : ObjectID) : ComponentStatus → Prop
  | incident {incident : Incident} {target : IncidentAffectedComponent}
      (hincident : incident ∈ S.incidents)
      (htarget : target ∈ normalizeIncidentTargetsForExpansion incident)
      (hcomponent : target.componentID = componentID) (hwhole : target.subComponentIDs = [])
      (hstatus : mapIncidentImpactToStatus incident.impact ≠ .operational) :
      DirectHit S componentID (mapIncidentImpactToStatus incident.impact)
  | maintenance {maintenance : Maintenance} (hmaintenance : maintenance ∈ S.maintenance)
      (hcomponent : componentID ∈ maintenance.components) :
      DirectHit S componentID .maintenance

inductive HitUnder (S : Snapshot) (componentID subID : ObjectID) : ComponentStatus → Prop
  | named {incident : Incident} {target : IncidentAffectedComponent}
      (hincident : incident ∈ S.incidents)
      (htarget : target ∈ normalizeIncidentTargetsForExpansion incident)
      (hcomponent : target.componentID = componentID) (hsub : subID ∈ target.subComponentIDs)
      (hstatus : mapIncidentImpactToStatus incident.impact ≠ .operational) :
      HitUnder S componentID subID (mapIncidentImpactToStatus incident.impact)
  | whole {status : ComponentStatus} {sub : SubComponent}
      (hdirect : DirectHit S componentID status) (hsub : sub ∈ S.subs)
      (hcomponent : sub.componentID = componentID) (hid : sub.id = subID) :
      HitUnder S componentID subID status

def subHits (S : Snapshot) (subID : ObjectID) : Set ComponentStatus :=
  {status | ∃ c ∈ S.components, HitUnder S c.id subID status}

def impactedSubs (S : Snapshot) (componentID : ObjectID) : Set ObjectID :=
  {subID | ∃ status, HitUnder S componentID subID status}

/-- An unknown sub-component has no stored status to count. -/
inductive FinalSubStatus (S : Snapshot) (subID : ObjectID) (status : ComponentStatus) : Prop
  | known {sub : SubComponent} (hsub : sub ∈ S.subs) (hid : sub.id = subID)
      (hworst : Worst {x | x = sub.status ∨ x ∈ subHits S subID} status)
  | unknown (hid : ∀ sub ∈ S.subs, sub.id ≠ subID) (hworst : Worst (subHits S subID) status)

def PartlyImpacted (S : Snapshot) (componentID : ObjectID) : Prop :=
  0 < (impactedSubs S componentID).ncard ∧
    (impactedSubs S componentID).ncard < (S.subs.filter (·.componentID = componentID)).length

def IsHit (S : Snapshot) (componentID : ObjectID) : Prop :=
  (∃ status, DirectHit S componentID status) ∨ (impactedSubs S componentID).Nonempty

def WorstUnder (S : Snapshot) (componentID : ObjectID) (status : ComponentStatus) : Prop :=
  Worst {x | x = .operational ∨ ∃ subID ∈ impactedSubs S componentID, FinalSubStatus S subID x}
    status

inductive ComponentClosedForm (S : Snapshot) (component : Component) : ComponentStatus → Prop
  | unhit (hhit : ¬ IsHit S component.id) : ComponentClosedForm S component component.status
  | partly {direct worst : ComponentStatus} (hhit : IsHit S component.id)
      (hdirect : Worst {x | x = .operational ∨ DirectHit S component.id x} direct)
      (hworst : WorstUnder S component.id worst) (hpartly : PartlyImpacted S component.id) :
      ComponentClosedForm S component
        (maxComponentStatus direct (partialAggregateStatusFromSubStatus worst))
  | wholly {direct worst : ComponentStatus} (hhit : IsHit S component.id)
      (hdirect : Worst {x | x = .operational ∨ DirectHit S component.id x} direct)
      (hworst : WorstUnder S component.id worst) (hpartly : ¬ PartlyImpacted S component.id) :
      ComponentClosedForm S component (maxComponentStatus direct worst)

def Defined (status : ComponentStatus) : Prop := ∀ text, status ≠ .other text

structure Snapshot.Keyed (S : Snapshot) : Prop where
  componentIDs : (S.components.map (·.id)).Nodup
  subIDs : (S.subs.map (·.id)).Nodup

structure Snapshot.WellFormed (S : Snapshot) : Prop extends S.Keyed where
  componentStatuses : ∀ c ∈ S.components, Defined c.status
  subStatuses : ∀ sub ∈ S.subs, Defined sub.status

theorem defined_iff_rank (status : ComponentStatus) :
    Defined status ↔ 1 ≤ componentSeverityRank status := by
  cases status <;> simp [Defined, componentSeverityRank]

theorem componentSeverityRank_injOn :
    Set.InjOn componentSeverityRank {status | Defined status} := by
  intro a ha b hb h
  cases a <;> cases b <;> simp_all [Defined, componentSeverityRank]

theorem Worst.unique {A : Set ComponentStatus} {a b : ComponentStatus}
    (hA : ∀ x ∈ A, Defined x) (ha : Worst A a) (hb : Worst A b) : a = b :=
  IsWorst.unique (componentSeverityRank_injOn.mono hA) ha hb

theorem defined_mapIncidentImpactToStatus (impact : IncidentImpact) :
    Defined (mapIncidentImpactToStatus impact) := by
  cases impact <;> simp [Defined, mapIncidentImpactToStatus]

theorem DirectHit.defined {S : Snapshot} {componentID : ObjectID} {status : ComponentStatus}
    (h : DirectHit S componentID status) : Defined status := by
  cases h with
  | incident => exact defined_mapIncidentImpactToStatus _
  | maintenance => simp [Defined]

theorem HitUnder.defined {S : Snapshot} {componentID subID : ObjectID} {status : ComponentStatus}
    (h : HitUnder S componentID subID status) : Defined status := by
  cases h with
  | named => exact defined_mapIncidentImpactToStatus _
  | whole hdirect => exact hdirect.defined

section Members
variable {S : Snapshot} {componentID subID : ObjectID} {status : ComponentStatus}

theorem mem_subsByComp {subs : List SubComponent} :
    subID ∈ subsByComp subs componentID ↔
      ∃ sub ∈ subs, sub.componentID = componentID ∧ sub.id = subID :=
  mem_groupBy

theorem direct_mem_wholeImpacts {subs : List SubComponent} {id : ObjectID}
    {st : ComponentStatus} :
    .direct componentID status ∈ wholeImpacts subs id st ↔ id = componentID ∧ st = status := by
  simp [wholeImpacts, eq_comm]

theorem sub_mem_wholeImpacts {subs : List SubComponent} {id : ObjectID} {st : ComponentStatus} :
    .sub componentID subID status ∈ wholeImpacts subs id st ↔
      id = componentID ∧ subID ∈ subsByComp subs id ∧ st = status := by
  simp [wholeImpacts]
  tauto

theorem direct_mem_incidentImpacts {subs : List SubComponent} {incident : Incident} :
    .direct componentID status ∈ incidentImpacts subs incident ↔
      mapIncidentImpactToStatus incident.impact ≠ .operational ∧
        mapIncidentImpactToStatus incident.impact = status ∧
        ∃ t ∈ normalizeIncidentTargetsForExpansion incident,
          t.componentID = componentID ∧ t.subComponentIDs = [] := by
  unfold incidentImpacts
  dsimp only
  split_ifs with h
  · simp [h]
  · simp only [List.mem_flatMap, ne_eq, h, not_false_eq_true, true_and]
    constructor
    · rintro ⟨t, ht, hmem⟩
      unfold targetImpacts at hmem
      split_ifs at hmem with hsubs
      · obtain ⟨hc, hs⟩ := direct_mem_wholeImpacts.mp hmem
        exact ⟨hs, t, ht, hc, List.length_eq_zero_iff.mp hsubs⟩
      · simp at hmem
    · rintro ⟨hs, t, ht, hc, hsubs⟩
      refine ⟨t, ht, ?_⟩
      rw [targetImpacts, if_pos (by simp [hsubs])]
      exact direct_mem_wholeImpacts.mpr ⟨hc, hs⟩

theorem sub_mem_incidentImpacts {subs : List SubComponent} {incident : Incident} :
    .sub componentID subID status ∈ incidentImpacts subs incident ↔
      mapIncidentImpactToStatus incident.impact ≠ .operational ∧
        mapIncidentImpactToStatus incident.impact = status ∧
        ∃ t ∈ normalizeIncidentTargetsForExpansion incident, t.componentID = componentID ∧
          (subID ∈ t.subComponentIDs ∨
            t.subComponentIDs = [] ∧ subID ∈ subsByComp subs componentID) := by
  unfold incidentImpacts
  dsimp only
  split_ifs with h
  · simp [h]
  · simp only [List.mem_flatMap, ne_eq, h, not_false_eq_true, true_and]
    constructor
    · rintro ⟨t, ht, hmem⟩
      unfold targetImpacts at hmem
      split_ifs at hmem with hsubs
      · obtain ⟨rfl, hsub, hs⟩ := sub_mem_wholeImpacts.mp hmem
        exact ⟨hs, t, ht, rfl, Or.inr ⟨List.length_eq_zero_iff.mp hsubs, hsub⟩⟩
      · obtain ⟨s, hsub, heq⟩ := List.mem_map.mp hmem
        obtain ⟨hc, rfl, hs⟩ := Impact.sub.inj heq
        exact ⟨hs, t, ht, hc, Or.inl hsub⟩
    · rintro ⟨hs, t, ht, rfl, hsub | ⟨hsubs, hsub⟩⟩
      · refine ⟨t, ht, ?_⟩
        rw [targetImpacts, if_neg (by simpa using List.ne_nil_of_mem hsub)]
        exact List.mem_map.mpr ⟨subID, hsub, by rw [hs]⟩
      · refine ⟨t, ht, ?_⟩
        rw [targetImpacts, if_pos (by simp [hsubs])]
        exact sub_mem_wholeImpacts.mpr ⟨rfl, hsub, hs⟩

theorem direct_mem_impacts : .direct componentID status ∈ S.impacts ↔
    DirectHit S componentID status := by
  simp only [Snapshot.impacts, List.mem_append, List.mem_flatMap, maintenanceImpacts,
    direct_mem_incidentImpacts, direct_mem_wholeImpacts]
  constructor
  · rintro (⟨i, hi, hne, rfl, t, ht, hc, hwhole⟩ | ⟨m, hm, id, hid, rfl, rfl⟩)
    · exact .incident hi ht hc hwhole hne
    · exact .maintenance hm hid
  · rintro (⟨hi, ht, hc, hwhole, hne⟩ | ⟨hm, hid⟩)
    · exact Or.inl ⟨_, hi, hne, rfl, _, ht, hc, hwhole⟩
    · exact Or.inr ⟨_, hm, _, hid, rfl, rfl⟩

theorem sub_mem_impacts : .sub componentID subID status ∈ S.impacts ↔
    HitUnder S componentID subID status := by
  simp only [Snapshot.impacts, List.mem_append, List.mem_flatMap, maintenanceImpacts,
    sub_mem_incidentImpacts, sub_mem_wholeImpacts, mem_subsByComp]
  constructor
  · rintro (⟨i, hi, hne, rfl, t, ht, hc, hsub | ⟨hwhole, sub, hmem, hsc, hid⟩⟩ |
      ⟨m, hm, id, hid, rfl, ⟨sub, hmem, hsc, hsid⟩, rfl⟩)
    · exact .named hi ht hc hsub hne
    · exact .whole (.incident hi ht hc hwhole hne) hmem hsc hid
    · exact .whole (.maintenance hm hid) hmem hsc hsid
  · rintro (⟨hi, ht, hc, hsub, hne⟩ | ⟨⟨hi, ht, hc, hwhole, hne⟩ | ⟨hm, hid⟩, hmem, hsc, hsid⟩)
    · exact Or.inl ⟨_, hi, hne, rfl, _, ht, hc, Or.inl hsub⟩
    · exact Or.inl ⟨_, hi, hne, rfl, _, ht, hc, Or.inr ⟨hwhole, _, hmem, hsc, hsid⟩⟩
    · exact Or.inr ⟨_, hm, _, hid, rfl, ⟨_, hmem, hsc, hsid⟩, rfl⟩

end Members
end Statora.Status
