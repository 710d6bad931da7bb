import Statora.Components.SubComponents
import Statora.Status.MoreImpact
import Statora.Status.SummaryAgreement

/-!
# Deleting a sub-component

The clean-up takes the id out of the lists of the incidents. A list that held
nothing else is empty afterwards, and an empty list stands for the whole
component. What an incident covers grows exactly there; the status of a
component also rises where the sub-components that remain are no longer a part
of all of them.
-/

namespace Statora.Status
open SubComponents (pull pullTargets lists cleaned)

def TargetCovers (target : IncidentAffectedComponent) (sub : SubComponent) : Prop :=
  (target.subComponentIDs = [] ∧ sub.componentID = target.componentID) ∨
    sub.id ∈ target.subComponentIDs

def IncidentCovers (components : List Component) (incident : Incident) (sub : SubComponent) :
    Prop :=
  ∃ target ∈ normalizeIncidentTargetsForExpansion incident,
    target.componentID ∈ components.map (·.id) ∧ TargetCovers target sub

def MaintenanceCovers (components : List Component) (maintenance : Maintenance)
    (sub : SubComponent) : Prop :=
  sub.componentID ∈ maintenance.components ∧ sub.componentID ∈ components.map (·.id)

/-- Nothing that is left looks worse, and nothing covers more of it. -/
structure NotSpread (order order' : MapOrder) (now : ℤ) (before after : Database) : Prop where
  subStatus : ∀ sub ∈ after.subcomponents.docs,
    componentSeverityRank (((snapshotAt after now).derive order').subStatus.read sub.id) ≤
      componentSeverityRank (((snapshotAt before now).derive order).subStatus.read sub.id)
  componentStatus : ∀ c ∈ after.components.docs,
    componentSeverityRank (((snapshotAt after now).derive order').componentStatus.read c.id) ≤
      componentSeverityRank (((snapshotAt before now).derive order).componentStatus.read c.id)
  incidents : ∀ incident ∈ before.incidents.docs, ∀ incident' ∈ after.incidents.docs,
    incident'.id = incident.id → ∀ sub ∈ after.subcomponents.docs,
      IncidentCovers after.components.docs incident' sub →
        IncidentCovers before.components.docs incident sub
  maintenance : ∀ maintenance ∈ before.maintenance.docs,
    ∀ maintenance' ∈ after.maintenance.docs, maintenance'.id = maintenance.id →
      ∀ sub ∈ after.subcomponents.docs,
        MaintenanceCovers after.components.docs maintenance' sub →
          MaintenanceCovers before.components.docs maintenance sub

/-- The target lists the sub-component and no other one. -/
def ListsOnly (id : ObjectID) (target : IncidentAffectedComponent) : Prop :=
  target.subComponentIDs ≠ [] ∧ ∀ subID ∈ target.subComponentIDs, subID = id

inductive Widened (S : Snapshot) (id componentID : ObjectID) : ComponentStatus → Prop
  | intro {incident : Incident} {target : IncidentAffectedComponent}
      (hincident : incident ∈ S.incidents)
      (htarget : target ∈ normalizeIncidentTargetsForExpansion incident)
      (hcomponent : target.componentID = componentID) (honly : ListsOnly id target)
      (hstatus : mapIncidentImpactToStatus incident.impact ≠ .operational) :
      Widened S id componentID (mapIncidentImpactToStatus incident.impact)

def remainingImpacted (S : Snapshot) (id componentID : ObjectID) : Set ObjectID :=
  {subID | subID ≠ id ∧ (subID ∈ impactedSubs S componentID ∨
    ∃ status, Widened S id componentID status ∧
      ∃ sub ∈ S.subs, sub.componentID = componentID ∧ sub.id = subID)}

def remainingSubs (S : Snapshot) (id componentID : ObjectID) : List SubComponent :=
  S.subs.filter fun sub => sub.componentID = componentID && sub.id ≠ id

def RemainsPartly (S : Snapshot) (id componentID : ObjectID) : Prop :=
  0 < (remainingImpacted S id componentID).ncard ∧
    (remainingImpacted S id componentID).ncard < (remainingSubs S id componentID).length

/-- An incident that lists only `id` of a component covers the other sub-components of
the component anyway. -/
def CoveredAnyway (components : List Component) (subs : List SubComponent) (id : ObjectID)
    (incidents : List Incident) : Prop :=
  ∀ incident ∈ incidents, ∀ target ∈ normalizeIncidentTargetsForExpansion incident,
    target.componentID ∈ components.map (·.id) → ListsOnly id target →
      ∀ sub ∈ subs, sub.id ≠ id → sub.componentID = target.componentID →
        IncidentCovers components incident sub

/-- Where the remaining sub-components are hit as a whole, what counts for them is no
more severe than something that counts for the component already. -/
def CountedAlready (S : Snapshot) (id : ObjectID) : Prop :=
  ∀ c ∈ S.components, ¬ RemainsPartly S id c.id → ∀ subID ∈ remainingImpacted S id c.id,
    ∀ x, SubCounts S subID x →
      ∃ y, Counts S c.id y ∧ componentSeverityRank x ≤ componentSeverityRank y

def DeletesCleanly (db : Database) (id : ObjectID) (now : ℤ) : Prop :=
  CoveredAnyway db.components.docs db.subcomponents.docs id db.incidents.docs ∧
    CountedAlready (snapshotAt db now) id

structure Snapshot.Without (S S' : Snapshot) (id : ObjectID) : Prop where
  components : S'.components = S.components
  subs : S'.subs = S.subs.filter (·.id ≠ id)
  incidents : ∀ incident ∈ S.incidents, ∃ incident' ∈ S'.incidents,
    incident'.impact = incident.impact ∧ normalizeIncidentTargetsForExpansion incident' =
      (normalizeIncidentTargetsForExpansion incident).map (pull id)
  incidents' : ∀ incident' ∈ S'.incidents, ∃ incident ∈ S.incidents,
    incident'.impact = incident.impact ∧ normalizeIncidentTargetsForExpansion incident' =
      (normalizeIncidentTargetsForExpansion incident).map (pull id)
  maintenance : S'.maintenance = S.maintenance

section Store
variable {db : Database} {sub : SubComponent} {rt : Runtime} {now : ℤ}

theorem normalize_pullTargets {id : ObjectID} {incident : Incident}
    (h : lists id incident = true) (at_ : ℤ) :
    normalizeIncidentTargetsForExpansion (pullTargets id at_ incident) =
      (normalizeIncidentTargetsForExpansion incident).map (pull id) := by
  obtain ⟨target, htarget, -⟩ := List.any_eq_true.mp h
  have hlength := List.length_pos_of_mem htarget
  unfold normalizeIncidentTargetsForExpansion pullTargets
  dsimp only
  rw [List.length_map, if_pos hlength, if_pos hlength]

theorem map_pull_normalize {id : ObjectID} {incident : Incident}
    (h : lists id incident = false) :
    (normalizeIncidentTargetsForExpansion incident).map (pull id) =
      normalizeIncidentTargetsForExpansion incident := by
  simp only [normalizeIncidentTargetsForExpansion]
  split_ifs
  · exact SubComponents.map_pull_of_not_lists h
  · rw [List.map_map]
    rfl

def cleanedIncident (id : ObjectID) (at_ : ℤ) (incident : Incident) : Incident :=
  if lists id incident then pullTargets id at_ incident else incident

theorem cleanedIncident_id (id : ObjectID) (at_ : ℤ) (incident : Incident) :
    (cleanedIncident id at_ incident).id = incident.id := by
  simp only [cleanedIncident]
  split_ifs <;> rfl

theorem cleanedIncident_impact (id : ObjectID) (at_ : ℤ) (incident : Incident) :
    (cleanedIncident id at_ incident).impact = incident.impact := by
  simp only [cleanedIncident]
  split_ifs <;> rfl

theorem cleanedIncident_status (id : ObjectID) (at_ : ℤ) (incident : Incident) :
    (cleanedIncident id at_ incident).status = incident.status := by
  simp only [cleanedIncident]
  split_ifs <;> rfl

theorem normalize_cleanedIncident (id : ObjectID) (at_ : ℤ) (incident : Incident) :
    normalizeIncidentTargetsForExpansion (cleanedIncident id at_ incident) =
      (normalizeIncidentTargetsForExpansion incident).map (pull id) := by
  simp only [cleanedIncident]
  cases h : lists id incident with
  | true => exact normalize_pullTargets h at_
  | false => exact (map_pull_normalize h).symm

theorem cleaned_incidents_docs : (cleaned sub rt db).incidents.docs =
    db.incidents.docs.map (cleanedIncident sub.id (rt.clock 1)) := rfl

theorem mem_listActiveIncidents {db : Database} {incident : Incident} :
    incident ∈ listActiveIncidents db ↔ incident ∈ db.incidents.docs ∧
      incident.status ≠ .resolved := by
  rw [listActiveIncidents, newestFirst, (Library.sortSlice_perm _ _).mem_iff]
  change incident ∈ db.incidents.docs.filter _ ↔ _
  rw [List.mem_filter, decide_eq_true_iff]

theorem snapshotAt_without (sub : SubComponent) (rt : Runtime) (db : Database) (now : ℤ) :
    (snapshotAt db now).Without (snapshotAt (cleaned sub rt db) now) sub.id where
  components := rfl
  subs := by
    change db.subcomponents.docs.filter _ = db.subcomponents.docs.filter _
    refine List.filter_congr fun other _ => ?_
    simp only [decide_not]
    rfl
  incidents := by
    intro incident hincident
    obtain ⟨hmem, hactive⟩ := mem_listActiveIncidents.mp hincident
    refine ⟨cleanedIncident sub.id (rt.clock 1) incident, mem_listActiveIncidents.mpr ⟨?_, ?_⟩,
      cleanedIncident_impact _ _ _, normalize_cleanedIncident _ _ _⟩
    · rw [cleaned_incidents_docs]
      exact List.mem_map_of_mem hmem
    · rwa [cleanedIncident_status]
  incidents' := by
    intro incident' hincident'
    obtain ⟨hmem, hactive⟩ := mem_listActiveIncidents.mp hincident'
    rw [cleaned_incidents_docs] at hmem
    obtain ⟨incident, hincident, rfl⟩ := List.mem_map.mp hmem
    rw [cleanedIncident_status] at hactive
    exact ⟨incident, mem_listActiveIncidents.mpr ⟨hincident, hactive⟩,
      cleanedIncident_impact _ _ _, normalize_cleanedIncident _ _ _⟩
  maintenance := rfl

end Store

section Hits
variable {S S' : Snapshot} {id componentID subID : ObjectID} {x : ComponentStatus}

theorem pull_eq_nil {target : IncidentAffectedComponent} :
    (pull id target).subComponentIDs = [] ↔
      target.subComponentIDs = [] ∨ ListsOnly id target := by
  rw [pull, ListsOnly, List.filter_eq_nil_iff]
  simp only [ne_eq, decide_not, Bool.not_eq_true', decide_eq_false_iff_not, not_not]
  by_cases hnil : target.subComponentIDs = []
  · simp [hnil]
  · simp [hnil]

theorem mem_pull {target : IncidentAffectedComponent} :
    subID ∈ (pull id target).subComponentIDs ↔
      subID ∈ target.subComponentIDs ∧ subID ≠ id := by
  rw [pull, List.mem_filter, decide_eq_true_iff]

theorem Snapshot.Without.directHit_iff (h : S.Without S' id) :
    DirectHit S' componentID x ↔ DirectHit S componentID x ∨ Widened S id componentID x := by
  constructor
  · intro hhit
    cases hhit with
    | incident hincident htarget hcomponent hwhole hstatus =>
      obtain ⟨incident, hmem, himpact, htargets⟩ := h.incidents' _ hincident
      rw [htargets] at htarget
      obtain ⟨target, hlisted, rfl⟩ := List.mem_map.mp htarget
      rw [himpact] at hstatus ⊢
      rcases pull_eq_nil.mp hwhole with hnil | honly
      · exact Or.inl (.incident hmem hlisted hcomponent hnil hstatus)
      · exact Or.inr (.intro hmem hlisted hcomponent honly hstatus)
    | maintenance hmaintenance hcomponent =>
      exact Or.inl (.maintenance (h.maintenance ▸ hmaintenance) hcomponent)
  · have hpulled : ∀ {incident : Incident} {target : IncidentAffectedComponent},
        incident ∈ S.incidents → target ∈ normalizeIncidentTargetsForExpansion incident →
        target.componentID = componentID → (pull id target).subComponentIDs = [] →
        mapIncidentImpactToStatus incident.impact ≠ .operational →
        DirectHit S' componentID (mapIncidentImpactToStatus incident.impact) := by
      intro incident target hincident htarget hcomponent hnil hstatus
      obtain ⟨incident', hmem, himpact, htargets⟩ := h.incidents _ hincident
      have hlisted : pull id target ∈ normalizeIncidentTargetsForExpansion incident' :=
        htargets ▸ List.mem_map_of_mem htarget
      rw [← himpact] at hstatus ⊢
      exact .incident hmem hlisted hcomponent hnil hstatus
    rintro (hhit | hwidened)
    · cases hhit with
      | incident hincident htarget hcomponent hwhole hstatus =>
        exact hpulled hincident htarget hcomponent (pull_eq_nil.mpr (Or.inl hwhole)) hstatus
      | maintenance hmaintenance hcomponent =>
        exact .maintenance (h.maintenance ▸ hmaintenance) hcomponent
    · cases hwidened with
      | intro hincident htarget hcomponent honly hstatus =>
        exact hpulled hincident htarget hcomponent (pull_eq_nil.mpr (Or.inr honly)) hstatus

theorem Snapshot.Without.mem_subs (h : S.Without S' id) {sub : SubComponent} :
    sub ∈ S'.subs ↔ sub ∈ S.subs ∧ sub.id ≠ id := by
  rw [h.subs, List.mem_filter, decide_eq_true_iff]

theorem Snapshot.Without.hitUnder_iff (h : S.Without S' id) :
    HitUnder S' componentID subID x ↔ subID ≠ id ∧ (HitUnder S componentID subID x ∨
      (Widened S id componentID x ∧
        ∃ sub ∈ S.subs, sub.componentID = componentID ∧ sub.id = subID)) := by
  constructor
  · intro hhit
    cases hhit with
    | named hincident htarget hcomponent hsub hstatus =>
      obtain ⟨incident, hmem, himpact, htargets⟩ := h.incidents' _ hincident
      rw [htargets] at htarget
      obtain ⟨target, hlisted, rfl⟩ := List.mem_map.mp htarget
      obtain ⟨hmember, hne⟩ := mem_pull.mp hsub
      rw [himpact] at hstatus ⊢
      exact ⟨hne, Or.inl (.named hmem hlisted hcomponent hmember hstatus)⟩
    | whole hdirect hsub hcomponent hid =>
      obtain ⟨hsub, hne⟩ := h.mem_subs.mp hsub
      refine ⟨hid ▸ hne, ?_⟩
      rcases h.directHit_iff.mp hdirect with hdirect | hwidened
      · exact Or.inl (.whole hdirect hsub hcomponent hid)
      · exact Or.inr ⟨hwidened, _, hsub, hcomponent, hid⟩
  · rintro ⟨hne, hhit | ⟨hwidened, sub, hsub, hcomponent, hid⟩⟩
    · cases hhit with
      | @named incident target hincident htarget hcomponent hsub hstatus =>
        obtain ⟨incident', hmem, himpact, htargets⟩ := h.incidents _ hincident
        have hlisted : pull id target ∈ normalizeIncidentTargetsForExpansion incident' :=
          htargets ▸ List.mem_map_of_mem htarget
        rw [← himpact] at hstatus ⊢
        exact .named hmem hlisted hcomponent (mem_pull.mpr ⟨hsub, hne⟩) hstatus
      | whole hdirect hsub hcomponent hid =>
        exact .whole (h.directHit_iff.mpr (Or.inl hdirect))
          (h.mem_subs.mpr ⟨hsub, hid ▸ hne⟩) hcomponent hid
    · exact .whole (h.directHit_iff.mpr (Or.inr hwidened))
        (h.mem_subs.mpr ⟨hsub, hid ▸ hne⟩) hcomponent hid

theorem Snapshot.Without.impactedSubs_eq (h : S.Without S' id) :
    impactedSubs S' componentID = remainingImpacted S id componentID := by
  ext s
  constructor
  · rintro ⟨status, hhit⟩
    obtain ⟨hne, hhit | ⟨hwidened, hsub⟩⟩ := h.hitUnder_iff.mp hhit
    · exact ⟨hne, Or.inl ⟨status, hhit⟩⟩
    · exact ⟨hne, Or.inr ⟨status, hwidened, hsub⟩⟩
  · rintro ⟨hne, ⟨status, hhit⟩ | ⟨status, hwidened, hsub⟩⟩
    · exact ⟨status, h.hitUnder_iff.mpr ⟨hne, Or.inl hhit⟩⟩
    · exact ⟨status, h.hitUnder_iff.mpr ⟨hne, Or.inr ⟨hwidened, hsub⟩⟩⟩

theorem Snapshot.Without.partlyImpacted_iff (h : S.Without S' id) :
    PartlyImpacted S' componentID ↔ RemainsPartly S id componentID := by
  rw [PartlyImpacted, RemainsPartly, remainingSubs, h.impactedSubs_eq, h.subs, List.filter_filter]

theorem Widened.hitUnder (h : Widened S id componentID x) : HitUnder S componentID id x := by
  cases h with
  | intro hincident htarget hcomponent honly hstatus =>
    obtain ⟨subID, hsub⟩ := List.exists_mem_of_ne_nil _ honly.1
    exact .named hincident htarget hcomponent (honly.2 subID hsub ▸ hsub) hstatus

theorem Snapshot.Without.isHit_iff (h : S.Without S' id) :
    IsHit S' componentID ↔ IsHit S componentID := by
  rw [IsHit, h.impactedSubs_eq]
  constructor
  · rintro (⟨status, hdirect⟩ | ⟨subID, -, hsub | ⟨status, hwidened, -⟩⟩)
    · rcases h.directHit_iff.mp hdirect with hdirect | hwidened
      · exact Or.inl ⟨status, hdirect⟩
      · exact Or.inr ⟨id, status, hwidened.hitUnder⟩
    · exact Or.inr ⟨subID, hsub⟩
    · exact Or.inr ⟨id, status, hwidened.hitUnder⟩
  · rintro (⟨status, hdirect⟩ | ⟨subID, status, hhit⟩)
    · exact Or.inl ⟨status, h.directHit_iff.mpr (Or.inl hdirect)⟩
    · by_cases hne : subID = id
      · subst hne
        cases hhit with
        | @named incident target hincident htarget hcomponent hsub hstatus =>
          -- Either the list is emptied, or another sub-component of it stays hit.
          by_cases honly : ∀ other ∈ target.subComponentIDs, other = subID
          · have hwidened := Widened.intro hincident htarget hcomponent
              ⟨List.ne_nil_of_mem hsub, honly⟩ hstatus
            exact Or.inl ⟨_, h.directHit_iff.mpr (Or.inr hwidened)⟩
          · push Not at honly
            obtain ⟨other, hother, hne⟩ := honly
            exact Or.inr ⟨other, hne,
              Or.inl ⟨_, .named hincident htarget hcomponent hother hstatus⟩⟩
        | whole hdirect => exact Or.inl ⟨status, h.directHit_iff.mpr (Or.inl hdirect)⟩
      · exact Or.inr ⟨subID, hne, Or.inl ⟨status, hhit⟩⟩

theorem Widened.mem_subHits (hcovered : CoveredAnyway S.components S.subs id S.incidents)
    {c : Component} (hc : c ∈ S.components) {sub : SubComponent} (hsub : sub ∈ S.subs)
    (hne : sub.id ≠ id) (hunder : sub.componentID = c.id) (h : Widened S id c.id x) :
    x ∈ subHits S sub.id := by
  cases h with
  | intro hincident htarget hcomponent honly hstatus =>
    have hlisted : c.id ∈ S.components.map (·.id) := List.mem_map_of_mem hc
    obtain ⟨target, htarget', hlisted', hcovers⟩ := hcovered _ hincident _ htarget
      (hcomponent ▸ hlisted) honly sub hsub hne (hunder.trans hcomponent.symm)
    obtain ⟨c', hc', hid⟩ := List.mem_map.mp hlisted'
    rcases hcovers with ⟨hwhole, hsame⟩ | hnamed
    · exact ⟨c', hc', .whole (.incident hincident htarget' hid.symm hwhole hstatus) hsub
        (hsame.trans hid.symm) rfl⟩
    · exact ⟨c', hc', .named hincident htarget' hid.symm hnamed hstatus⟩

theorem Snapshot.Without.subCounts (h : S.Without S' id) (hne : subID ≠ id)
    (hcounts : SubCounts S subID x) : SubCounts S' subID x := by
  rcases hcounts with ⟨sub, hsub, hid, hstatus⟩ | ⟨c, hc, hhit⟩
  · exact Or.inl ⟨sub, h.mem_subs.mpr ⟨hsub, hid ▸ hne⟩, hid, hstatus⟩
  · exact Or.inr ⟨c, h.components ▸ hc, h.hitUnder_iff.mpr ⟨hne, Or.inl hhit⟩⟩

theorem Snapshot.Without.subCounts_iff (h : S.Without S' id)
    (hcovered : CoveredAnyway S.components S.subs id S.incidents) (hne : subID ≠ id) :
    SubCounts S' subID x ↔ SubCounts S subID x := by
  refine ⟨fun hcounts => ?_, h.subCounts hne⟩
  rcases hcounts with ⟨sub, hsub, hid, hstatus⟩ | ⟨c, hc, hhit⟩
  · exact Or.inl ⟨sub, (h.mem_subs.mp hsub).1, hid, hstatus⟩
  · rw [h.components] at hc
    obtain ⟨-, hhit | ⟨hwidened, sub, hsub, hunder, rfl⟩⟩ := h.hitUnder_iff.mp hhit
    · exact Or.inr ⟨c, hc, hhit⟩
    · exact Or.inr (hwidened.mem_subHits hcovered hc hsub hne hunder)

end Hits

section Statuses
variable {S S' : Snapshot} {id componentID : ObjectID} {x : ComponentStatus}

theorem Snapshot.Without.keyed (h : S.Without S' id) (hS : S.Keyed) : S'.Keyed := by
  refine ⟨?_, ?_⟩
  · rw [h.components]
    exact hS.componentIDs
  · rw [h.subs]
    exact (List.filter_sublist.map _).nodup hS.subIDs

theorem Snapshot.Without.finite_remainingImpacted (h : S.Without S' id) {c : Component}
    (hc : c ∈ S.components) : (remainingImpacted S id c.id).Finite := by
  rw [← h.impactedSubs_eq]
  exact finite_impactedSubs (h.components ▸ hc)

theorem mem_remainingSubs {sub : SubComponent} :
    sub ∈ remainingSubs S id componentID ↔
      sub ∈ S.subs ∧ sub.componentID = componentID ∧ sub.id ≠ id := by
  rw [remainingSubs, List.mem_filter, Bool.and_eq_true, decide_eq_true_iff, decide_eq_true_iff]

theorem Widened.mem_remainingImpacted (h : Widened S id componentID x) {sub : SubComponent}
    (hsub : sub ∈ remainingSubs S id componentID) :
    sub.id ∈ remainingImpacted S id componentID := by
  obtain ⟨hmem, hunder, hne⟩ := mem_remainingSubs.mp hsub
  exact ⟨hne, Or.inr ⟨x, h, sub, hmem, hunder, rfl⟩⟩

theorem Widened.not_remainsPartly (h : Widened S id componentID x) (hS : S.Keyed)
    (hfinite : (remainingImpacted S id componentID).Finite) :
    ¬ RemainsPartly S id componentID := by
  rintro ⟨-, hlt⟩
  have hnodup : ((remainingSubs S id componentID).map (·.id)).Nodup :=
    (List.filter_sublist.map _).nodup hS.subIDs
  have hsubset : (((remainingSubs S id componentID).map (·.id)).toFinset : Set ObjectID) ⊆
      remainingImpacted S id componentID := by
    intro subID hsub
    rw [Finset.mem_coe, List.mem_toFinset] at hsub
    obtain ⟨sub, hmem, rfl⟩ := List.mem_map.mp hsub
    exact h.mem_remainingImpacted hmem
  have hle := Set.ncard_le_ncard hsubset hfinite
  rw [Set.ncard_coe_finset, List.toFinset_card_of_nodup hnodup, List.length_map] at hle
  omega

theorem Widened.not_partlyImpacted (h : Widened S id componentID x) (hS : S.Keyed)
    (hfinite : (impactedSubs S componentID).Finite)
    (hnone : remainingSubs S id componentID = []) : ¬ PartlyImpacted S componentID := by
  rintro ⟨-, hlt⟩
  have hpos : 0 < (impactedSubs S componentID).ncard :=
    (Set.ncard_pos hfinite).mpr ⟨id, x, h.hitUnder⟩
  have hall : ∀ subID ∈ (S.subs.filter (·.componentID = componentID)).map (·.id), subID = id := by
    intro subID hsub
    obtain ⟨sub, hsub', rfl⟩ := List.mem_map.mp hsub
    obtain ⟨hmem, hunder⟩ := List.mem_filter.mp hsub'
    by_contra hne
    have hremains := mem_remainingSubs.mpr ⟨hmem, of_decide_eq_true hunder, hne⟩
    rw [hnone] at hremains
    exact List.not_mem_nil hremains
  have hnodup : ((S.subs.filter (·.componentID = componentID)).map (·.id)).Nodup :=
    (List.filter_sublist.map _).nodup hS.subIDs
  have hle := List.nodup_iff_count_le_one.mp hnodup id
  rw [List.count_eq_length.mpr fun subID hsub => (hall subID hsub).symm, List.length_map] at hle
  omega

theorem Counts.of_without (h : S.Without S' id) (hS : S.Keyed)
    (hcovered : CoveredAnyway S.components S.subs id S.incidents)
    (hcounted : CountedAlready S id) {c : Component} (hc : c ∈ S.components)
    (hcounts : Counts S' c.id x) :
    ∃ y, Counts S c.id y ∧ componentSeverityRank x ≤ componentSeverityRank y := by
  have hfinite := h.finite_remainingImpacted hc
  cases hcounts with
  | operational => exact ⟨_, .operational, le_rfl⟩
  | direct hdirect =>
    rcases h.directHit_iff.mp hdirect with hdirect | hwidened
    · exact ⟨x, .direct hdirect, le_rfl⟩
    · by_cases hnone : remainingSubs S id c.id = []
      · have hwholly := hwidened.not_partlyImpacted hS (finite_impactedSubs hc) hnone
        refine ⟨_, .sub ⟨x, hwidened.hitUnder⟩ (Or.inr ⟨c, hc, hwidened.hitUnder⟩), ?_⟩
        rw [demoted, if_neg hwholly]
      · obtain ⟨sub, hsub⟩ := List.exists_mem_of_ne_nil _ hnone
        obtain ⟨hmem, hunder, hne⟩ := mem_remainingSubs.mp hsub
        exact hcounted c hc (hwidened.not_remainsPartly hS hfinite) sub.id
          (hwidened.mem_remainingImpacted hsub) x
          (Or.inr (hwidened.mem_subHits hcovered hc hmem hne hunder))
  | @sub subID status himpacted hstatus =>
    rw [h.impactedSubs_eq] at himpacted
    have hbefore := (h.subCounts_iff hcovered himpacted.1).mp hstatus
    by_cases hpartly : RemainsPartly S id c.id
    · have hstays : subID ∈ impactedSubs S c.id := by
        obtain ⟨-, hstays | ⟨y, hwidened, -⟩⟩ := himpacted
        · exact hstays
        · exact absurd hpartly (hwidened.not_remainsPartly hS hfinite)
      refine ⟨_, .sub hstays hbefore, ?_⟩
      simp only [demoted]
      rw [if_pos (h.partlyImpacted_iff.mpr hpartly), rank_partialAggregate]
      split_ifs
      · rw [rank_partialAggregate]
      · exact min_le_left _ _
    · rw [demoted, if_neg fun hpart => hpartly (h.partlyImpacted_iff.mp hpart)]
      exact hcounted c hc hpartly subID himpacted status hbefore

theorem Snapshot.Without.rank_componentStatus_le (h : S.Without S' id) (hS : S.Keyed)
    (hcovered : CoveredAnyway S.components S.subs id S.incidents)
    (hcounted : CountedAlready S id) (order order' : MapOrder) {c : Component}
    (hc : c ∈ S.components) :
    componentSeverityRank ((S'.derive order').componentStatus.read c.id) ≤
      componentSeverityRank ((S.derive order).componentStatus.read c.id) := by
  have hc' : c ∈ S'.components := h.components ▸ hc
  by_cases hhit : IsHit S c.id
  · rw [rank_derived_le_iff order' (h.keyed hS) hc' (h.isHit_iff.mpr hhit)]
    intro x hx
    exact (le_rank_derived_iff order hS hc hhit _).mpr (hx.of_without h hS hcovered hcounted hc)
  · rw [rank_derived_of_not_isHit order hS hc hhit,
      rank_derived_of_not_isHit order' (h.keyed hS) hc' (mt h.isHit_iff.mp hhit)]

theorem Snapshot.Without.rank_subStatus_le (h : S.Without S' id) (hS : S.Keyed)
    (hcovered : CoveredAnyway S.components S.subs id S.incidents) (order order' : MapOrder)
    {sub : SubComponent} (hsub : sub ∈ S'.subs) :
    componentSeverityRank ((S'.derive order').subStatus.read sub.id) ≤
      componentSeverityRank ((S.derive order).subStatus.read sub.id) := by
  obtain ⟨hmem, hne⟩ := h.mem_subs.mp hsub
  rw [rank_subStatus_le_iff order' (h.keyed hS) hsub]
  intro x hx
  have hbefore := (h.subCounts_iff hcovered hne).mp hx
  exact (rank_subStatus_le_iff order hS hmem _).mp le_rfl x hbefore

theorem Snapshot.Without.countedAlready (h : S.Without S' id) (hS : S.Keyed)
    (order order' : MapOrder)
    (hle : ∀ c ∈ S.components,
      componentSeverityRank ((S'.derive order').componentStatus.read c.id) ≤
        componentSeverityRank ((S.derive order).componentStatus.read c.id)) :
    CountedAlready S id := by
  intro c hc hwholly subID hsub x hx
  have hc' : c ∈ S'.components := h.components ▸ hc
  have himpacted : subID ∈ impactedSubs S' c.id := h.impactedSubs_eq ▸ hsub
  have hhit : IsHit S' c.id := Or.inr ⟨subID, himpacted⟩
  rw [← le_rank_derived_iff order hS hc (h.isHit_iff.mp hhit)]
  refine le_trans ?_ (hle c hc)
  rw [le_rank_derived_iff order' (h.keyed hS) hc' hhit]
  refine ⟨_, .sub himpacted (h.subCounts hsub.1 hx), ?_⟩
  rw [demoted, if_neg fun hpart => hwholly (h.partlyImpacted_iff.mp hpart)]

end Statuses

theorem incidentCovers_cleanedIncident {components : List Component} {id : ObjectID} {at_ : ℤ}
    {incident : Incident} {sub : SubComponent} (hne : sub.id ≠ id) :
    IncidentCovers components (cleanedIncident id at_ incident) sub ↔
      IncidentCovers components incident sub ∨
        ∃ target ∈ normalizeIncidentTargetsForExpansion incident,
          target.componentID ∈ components.map (·.id) ∧ ListsOnly id target ∧
            sub.componentID = target.componentID := by
  simp only [IncidentCovers, TargetCovers]
  rw [normalize_cleanedIncident]
  constructor
  · rintro ⟨target, htarget, hlisted, hcovers⟩
    obtain ⟨target, hmem, rfl⟩ := List.mem_map.mp htarget
    rcases hcovers with ⟨hwhole, hsame⟩ | hnamed
    · rcases pull_eq_nil.mp hwhole with hnil | honly
      · exact Or.inl ⟨target, hmem, hlisted, Or.inl ⟨hnil, hsame⟩⟩
      · exact Or.inr ⟨target, hmem, hlisted, honly, hsame⟩
    · exact Or.inl ⟨target, hmem, hlisted, Or.inr (mem_pull.mp hnamed).1⟩
  · rintro (⟨target, hmem, hlisted, ⟨hnil, hsame⟩ | hnamed⟩ | ⟨target, hmem, hlisted, honly, hsame⟩)
    · exact ⟨pull id target, List.mem_map_of_mem hmem, hlisted,
        Or.inl ⟨pull_eq_nil.mpr (Or.inl hnil), hsame⟩⟩
    · exact ⟨pull id target, List.mem_map_of_mem hmem, hlisted,
        Or.inr (mem_pull.mpr ⟨hnamed, hne⟩)⟩
    · exact ⟨pull id target, List.mem_map_of_mem hmem, hlisted,
        Or.inl ⟨pull_eq_nil.mpr (Or.inr honly), hsame⟩⟩

theorem coveredAnyway_snapshotAt {db : Database} {id : ObjectID} (now : ℤ)
    (h : CoveredAnyway db.components.docs db.subcomponents.docs id db.incidents.docs) :
    CoveredAnyway (snapshotAt db now).components (snapshotAt db now).subs id
      (snapshotAt db now).incidents := by
  have hcomponents : ∀ componentID, componentID ∈ (snapshotAt db now).components.map (·.id) ↔
      componentID ∈ db.components.docs.map (·.id) := fun _ =>
    ((Library.sortSlice_perm _ db.components.docs).map _).mem_iff
  intro incident hincident target htarget hlisted honly sub hsub hne hunder
  obtain ⟨target', htarget', hlisted', hcovers⟩ :=
    h incident (mem_listActiveIncidents.mp hincident).1 target htarget
      ((hcomponents _).mp hlisted) honly sub hsub hne hunder
  exact ⟨target', htarget', (hcomponents _).mpr hlisted', hcovers⟩

theorem notSpread_iff (db : Database) (sub : SubComponent) (rt : Runtime) (now : ℤ)
    (order order' : MapOrder) (hsub : sub ∈ db.subcomponents.docs) :
    NotSpread order order' now db ((SubComponents.delete sub.id rt).run db).2 ↔
      DeletesCleanly db sub.id now := by
  rw [SubComponents.run_delete hsub]
  have hwithout := snapshotAt_without sub rt db now
  have hkeyed := snapshotAt_keyed db now
  have hcomponents : ∀ c, c ∈ (snapshotAt db now).components ↔ c ∈ db.components.docs :=
    fun _ => (Library.sortSlice_perm _ db.components.docs).mem_iff
  have hsubs : ∀ other, other ∈ (cleaned sub rt db).subcomponents.docs ↔
      other ∈ db.subcomponents.docs ∧ other.id ≠ sub.id := fun _ =>
    Library.Collection.mem_deleteByKey
  constructor
  · intro h
    refine ⟨fun incident hincident target htarget hlisted honly other hother hne hunder => ?_,
      hwithout.countedAlready hkeyed order order' fun c hc =>
        h.componentStatus c ((hcomponents c).mp hc)⟩
    have hafter : cleanedIncident sub.id (rt.clock 1) incident ∈
        (cleaned sub rt db).incidents.docs := by
      rw [cleaned_incidents_docs]
      exact List.mem_map_of_mem hincident
    exact h.incidents incident hincident _ hafter (cleanedIncident_id _ _ _) other
      ((hsubs other).mpr ⟨hother, hne⟩)
      ((incidentCovers_cleanedIncident hne).mpr (Or.inr ⟨target, htarget, hlisted, honly, hunder⟩))
  · rintro ⟨hcovered, hcounted⟩
    have hactive := coveredAnyway_snapshotAt now hcovered
    refine ⟨fun other hother => hwithout.rank_subStatus_le hkeyed hactive order order' hother,
      fun c hc => hwithout.rank_componentStatus_le hkeyed hactive hcounted order order'
        ((hcomponents c).mpr hc), ?_, ?_⟩
    · intro incident hincident incident' hincident' hid other hother hcovers
      rw [cleaned_incidents_docs] at hincident'
      obtain ⟨incident', hmem, rfl⟩ := List.mem_map.mp hincident'
      rw [cleanedIncident_id] at hid
      obtain rfl := Library.Collection.eq_of_key_eq hmem hincident hid
      obtain ⟨hmember, hne⟩ := (hsubs other).mp hother
      rcases (incidentCovers_cleanedIncident hne).mp hcovers with hbefore |
        ⟨target, htarget, hlisted, honly, hunder⟩
      · exact hbefore
      · exact hcovered _ hmem target htarget hlisted honly other hmember hne hunder
    · intro maintenance hmem maintenance' hmem' hid other _ hcovers
      obtain rfl := Library.Collection.eq_of_key_eq (c := db.maintenance) hmem' hmem hid
      exact hcovers

def slowIncident : Incident where
  id := 20
  title := "slow"
  status := .investigating
  impact := .minor
  affectedComponents := [1]
  affectedComponentTargets := [⟨1, [10]⟩]

def hitSub : SubComponent := { id := 10, componentID := 1, name := "eu", status := .operational }

def otherSub : SubComponent := { id := 11, componentID := 1, name := "us", status := .operational }

def oneOfTwo : Database where
  components := .insertOne .empty { id := 1, name := "API", status := .operational }
  subcomponents := (Library.Collection.empty.insertOne hitSub).insertOne otherSub
  incidents := Library.Collection.empty.insertOne slowIncident

theorem notSpread_iff_oneOfTwo :
    NotSpread .insertion .insertion 0 oneOfTwo
        ((SubComponents.delete hitSub.id ⟨fun _ => 0, fun _ => 0⟩).run oneOfTwo).2 ↔
      DeletesCleanly oneOfTwo hitSub.id 0 :=
  notSpread_iff oneOfTwo hitSub ⟨fun _ => 0, fun _ => 0⟩ 0 .insertion .insertion (by decide)

theorem delete_spreads_incident :
    hitSub ∈ oneOfTwo.subcomponents.docs ∧
      ¬ NotSpread .insertion .insertion 0 oneOfTwo
        ((SubComponents.delete hitSub.id ⟨fun _ => 0, fun _ => 0⟩).run oneOfTwo).2 := by
  refine ⟨by decide, fun h => ?_⟩
  have hle := h.subStatus otherSub (by decide)
  exact absurd hle (by decide)

end Statora.Status
