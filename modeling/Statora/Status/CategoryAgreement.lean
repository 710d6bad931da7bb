import Statora.Status.CategorySlugs
import Statora.Status.SummaryAgreement

/-!
# The category page against the status page

`buildCategorySummary` reads stored statuses and `buildComponents` derived ones.
The two agree on a category exactly when no hit is worse than the stored status
of its sub-component and the worst stored status is what the hits amount to.
-/

namespace Statora.Status
open Library (IsWorst keepMax sortSlice groupBy mem_groupBy head?_sortSlice)

/-- The entry of the component reports the status of every service, and the aggregate as its own. -/
def CategoryAgrees (summary : CategorySummary) (shown : List ComponentWithSubStatusInfo)
    (componentID : ObjectID) : Prop :=
  ∃ entry ∈ shown, entry.component.id = componentID ∧
    summary.aggregateStatus = entry.component.status ∧
    (entry.subComponents = [] → ∀ service ∈ summary.services,
      service.id = componentID ∧ service.status = entry.component.status) ∧
    (entry.subComponents ≠ [] → ∀ service ∈ summary.services,
      ∃ sub ∈ entry.subComponents, sub.id = service.id ∧ sub.status = service.status)

def WorstInReach (S : Snapshot) (componentID : ObjectID) (status : ComponentStatus) : Prop :=
  Worst {x | (x = .operational ∨ DirectHit S componentID x) ∨
    ∃ subID ∈ impactedSubs S componentID,
      (∃ sub ∈ S.subs, sub.id = subID ∧ sub.status = x) ∨ x ∈ subHits S subID} status

def worstListed : List ComponentStatus → ComponentStatus
  | [] => .operational
  | [status] => status
  | status :: statuses => maxComponentStatus status (worstListed statuses)

def storedWorst (db : Database) (component : Component) : ComponentStatus :=
  let subs := listSubComponentsByComponentIDs db [component.id]
  if subs = [] then component.status else worstListed (subs.map (·.status))

structure ReflectsHits (db : Database) (now : ℤ) (component : Component) : Prop where
  subs : ∀ sub ∈ db.subcomponents.docs, sub.componentID = component.id →
    ∀ x ∈ subHits (snapshotAt db now) sub.id,
      componentSeverityRank x ≤ componentSeverityRank sub.status
  unhit : ¬ IsHit (snapshotAt db now) component.id → component.status = storedWorst db component
  direct : (∃ x, DirectHit (snapshotAt db now) component.id x) →
    WorstInReach (snapshotAt db now) component.id (storedWorst db component)
  under : (∀ x, ¬ DirectHit (snapshotAt db now) component.id x) →
    (impactedSubs (snapshotAt db now) component.id).Nonempty →
    ∃ x, WorstInReach (snapshotAt db now) component.id x ∧
      storedWorst db component = partialAggregateStatusFromSubStatus x

section Reach
variable {S : Snapshot} (order displayOrder : MapOrder) {c : Component}

theorem WorstInReach.defined {componentID : ObjectID} {x : ComponentStatus}
    (h : WorstInReach S componentID x) : Defined x :=
  (defined_iff_rank x).mpr (h.2 .operational (Or.inl (Or.inl rfl)))

theorem WorstInReach.unique {componentID : ObjectID} {x y : ComponentStatus}
    (hx : WorstInReach S componentID x) (hy : WorstInReach S componentID y) : x = y :=
  componentSeverityRank_injOn hx.defined hy.defined (hx.rank_eq hy)

theorem worstInReach_of_reads (hS : S.Keyed) {x : ComponentStatus} (hx : Defined x)
    (h : Worst {y | (y = .operational ∨ DirectHit S c.id y) ∨
      ∃ s ∈ impactedSubs S c.id, S.final.subStatus.read s = y} x) :
    WorstInReach S c.id x := by
  have hgroups := IsWorst.groups
    (A := {y | y = .operational ∨ DirectHit S c.id y})
    (B := fun s => {y | y = S.initial.subStatus.read s ∨ y ∈ subHits S s})
    (fun s (_ : s ∈ impactedSubs S c.id) => by
      have hworst := (foldl_applyImpact_subStatus S.initial S.impacts s).1
      rwa [appliedHits_eq] at hworst) h
  refine ⟨hgroups.1.imp_right fun ⟨s, hs, hy⟩ => ⟨s, hs, hy.imp_left fun hread => ?_⟩,
    fun y hy => hgroups.2 y (hy.imp_right fun ⟨s, hs, hy⟩ => ⟨s, hs, hy.imp_left ?_⟩)⟩
  · by_cases hknown : s ∈ S.subs.map (·.id)
    · obtain ⟨sub, hsub, rfl⟩ := List.mem_map.mp hknown
      exact ⟨sub, hsub, rfl, by rw [hread, initial_read_of_mem hS hsub]⟩
    · rw [hread, initial_read_of_not_mem hknown] at hx
      exact absurd rfl (hx "")
  · rintro ⟨sub, hsub, rfl, rfl⟩
    exact (initial_read_of_mem hS hsub).symm

theorem reads_worst {state : ComponentAggregationState}
    (htracks : StateTracks S.impacts c.id state) :
    Worst {y | y = .operational ∨ ∃ s ∈ impactedSubs S c.id, S.final.subStatus.read s = y}
      (worstSubStatus order c.id S.final.subStatus state.impactedSubIDs) := by
  have hmem : ∀ s, s ∈ state.impactedSubIDs ↔ s ∈ impactedSubs S c.id := fun s =>
    (htracks.impacted s).trans (exists_congr fun x => sub_mem_impacts)
  simpa only [hmem] using worstSubStatus_isWorst order c.id S.final.subStatus
    state.impactedSubIDs

theorem not_partlyImpacted_of_directHit (hS : S.Keyed) (hc : c ∈ S.components)
    (hdirect : ∃ x, DirectHit S c.id x) : ¬ PartlyImpacted S c.id := by
  obtain ⟨x, hx⟩ := hdirect
  obtain ⟨state, -, htracks⟩ := final_agg_of_mem hc
  rw [partlyImpacted_iff htracks]
  rintro ⟨-, hlt⟩
  have hnodup : (subsByComp S.subs c.id).Nodup :=
    (List.filter_sublist.map _).nodup hS.subIDs
  have hsubset : subsByComp S.subs c.id ⊆ state.impactedSubIDs := fun s hs => by
    obtain ⟨sub, hsub, hcomponent, hid⟩ := mem_subsByComp.mp hs
    exact (htracks.impacted s).mpr ⟨x, sub_mem_impacts.mpr (.whole hx hsub hcomponent hid)⟩
  exact absurd (hnodup.subperm hsubset).length_le (not_le.mpr hlt)

theorem display_of_directHit (hS : S.Keyed) (hc : c ∈ S.components)
    (hdirect : ∃ x, DirectHit S c.id x) :
    ∃ x, S.display order displayOrder c.id = some x ∧ WorstInReach S c.id x := by
  obtain ⟨state, hstate, htracks⟩ := final_agg_of_mem hc
  have hskip := (isHit_iff htracks).mp (Or.inl hdirect)
  have hpartly := (partlyImpacted_iff htracks).not.mp
    (not_partlyImpacted_of_directHit hS hc hdirect)
  refine ⟨_, ?_, worstInReach_of_reads (x := maxComponentStatus
    (if !state.hasDirectImpact then .operational else state.directStatus)
    (worstSubStatus order c.id S.final.subStatus state.impactedSubIDs)) hS ?_ ?_⟩
  · rw [display_of_not_subHit order displayOrder hc (Or.inl hdirect),
      derive_componentStatus_of_mem order hS hc,
      derivedComponent, hstate, Option.bind_some, if_neg hskip]
    dsimp only
    rw [if_neg hpartly, Option.getD_some]
  · refine (defined_iff_rank _).mpr ?_
    exact ((worst_direct htracks).union (reads_worst order htracks)).2 .operational
      (Or.inl (Or.inl rfl))
  · have hunion := (worst_direct htracks).union (reads_worst order htracks)
    refine ⟨hunion.1.elim Or.inl fun h => h.imp_left Or.inl, fun y hy => ?_⟩
    exact hunion.2 y (hy.imp_right Or.inr)

theorem display_of_under (hS : S.Keyed) (hc : c ∈ S.components)
    (hdirect : ∀ x, ¬ DirectHit S c.id x) (hsubs : (impactedSubs S c.id).Nonempty) :
    ∃ x, S.display order displayOrder c.id = some (partialAggregateStatusFromSubStatus x) ∧
      WorstInReach S c.id x := by
  obtain ⟨state, -, htracks⟩ := final_agg_of_mem hc
  refine ⟨_, display_of_subHit order displayOrder hc hdirect hsubs htracks,
    worstInReach_of_reads hS (worstSubStatus_defined _ _ _ _) ?_⟩
  have hworst := reads_worst order htracks
  refine ⟨hworst.1.imp_left Or.inl, fun y hy => hworst.2 y (hy.imp_left fun h => ?_)⟩
  exact h.resolve_right (hdirect y)

theorem display_of_unhit (hS : S.Keyed) (hc : c ∈ S.components) (hhit : ¬ IsHit S c.id) :
    S.display order displayOrder c.id = some c.status := by
  rw [IsHit, not_or, Set.not_nonempty_iff_eq_empty] at hhit
  obtain ⟨state, hstate, htracks⟩ := final_agg_of_mem hc
  have hskip := (isHit_iff htracks).not_left.mp (by
    rw [IsHit, not_or, Set.not_nonempty_iff_eq_empty]
    exact hhit)
  rw [display_of_not_subHit order displayOrder hc (Or.inr hhit.2),
    derive_componentStatus_of_mem order hS hc,
    derivedComponent, hstate, Option.bind_some, if_pos hskip]
  rfl

theorem final_read_eq_stored_iff (hS : S.Keyed) {sub : SubComponent} (hsub : sub ∈ S.subs) :
    S.final.subStatus.read sub.id = sub.status ↔
      ∀ x ∈ subHits S sub.id, componentSeverityRank x ≤ componentSeverityRank sub.status := by
  have hworst := (foldl_applyImpact_subStatus S.initial S.impacts sub.id).1
  rw [appliedHits_eq, initial_read_of_mem hS hsub] at hworst
  change Worst _ (S.final.subStatus.read sub.id) at hworst
  constructor
  · intro h x hx
    rw [h] at hworst
    exact hworst.2 x (Or.inr hx)
  · intro h
    rcases hworst.1 with hread | hread
    · exact hread
    · have hle := h _ hread
      have hge := hworst.2 sub.status (Or.inl rfl)
      have hdefined := subHits_defined _ hread
      refine componentSeverityRank_injOn hdefined ?_ (le_antisymm hle hge)
      exact (defined_iff_rank _).mpr (((defined_iff_rank _).mp hdefined).trans hle)

end Reach

section Pages
variable (order displayOrder : MapOrder) (clock : ℕ → ℤ) (db : Database) (now : ℤ)

theorem storedWorst_eq_display_iff {c : Component} (hc : c ∈ (snapshotAt db now).components) :
    (snapshotAt db now).display order displayOrder c.id = some (storedWorst db c) ↔
      (¬ IsHit (snapshotAt db now) c.id → c.status = storedWorst db c) ∧
      ((∃ x, DirectHit (snapshotAt db now) c.id x) →
        WorstInReach (snapshotAt db now) c.id (storedWorst db c)) ∧
      ((∀ x, ¬ DirectHit (snapshotAt db now) c.id x) →
        (impactedSubs (snapshotAt db now) c.id).Nonempty →
        ∃ x, WorstInReach (snapshotAt db now) c.id x ∧
          storedWorst db c = partialAggregateStatusFromSubStatus x) := by
  have hS := snapshotAt_keyed db now
  by_cases hdirect : ∃ x, DirectHit (snapshotAt db now) c.id x
  · obtain ⟨x, hx, hreach⟩ := display_of_directHit order displayOrder hS hc hdirect
    rw [hx, Option.some.injEq]
    constructor
    · rintro rfl
      exact ⟨fun h => absurd (Or.inl hdirect) h, fun _ => hreach,
        fun h => absurd hdirect (not_exists.mpr h)⟩
    · exact fun h => hreach.unique (h.2.1 hdirect)
  · by_cases hsubs : (impactedSubs (snapshotAt db now) c.id).Nonempty
    · obtain ⟨x, hx, hreach⟩ :=
        display_of_under order displayOrder hS hc (not_exists.mp hdirect) hsubs
      rw [hx, Option.some.injEq]
      constructor
      · intro h
        exact ⟨fun hh => absurd (Or.inr hsubs) hh, fun hd => absurd hd hdirect,
          fun _ _ => ⟨x, hreach, h.symm⟩⟩
      · intro h
        obtain ⟨y, hy, heq⟩ := h.2.2 (not_exists.mp hdirect) hsubs
        rw [heq, hreach.unique hy]
    · have hhit : ¬ IsHit (snapshotAt db now) c.id := fun h => h.elim hdirect hsubs
      rw [display_of_unhit order displayOrder hS hc hhit, Option.some.injEq]
      exact ⟨fun h => ⟨fun _ => h, fun hd => absurd hd hdirect, fun _ hs => absurd hs hsubs⟩,
        fun h => h.1 hhit⟩

theorem categoryServices_statuses (c : Component) (subs : List SubComponent) :
    (categoryServices clock db c subs).map (fun service => (service.id, service.status)) =
      if subs = [] then [(c.id, c.status)] else subs.map (fun sub => (sub.id, sub.status)) := by
  unfold categoryServices
  dsimp only
  by_cases hsubs : subs = []
  · subst hsubs
    rfl
  · rw [if_pos (List.length_pos_iff.mpr hsubs), if_neg hsubs]
    refine List.ext_getElem (by simp) fun k hk hk' => ?_
    simp [subService]

theorem aggregateStatus_eq_worstListed (services : List CategoryService)  :
    aggregateStatusFromServices services = worstListed (services.map (·.status)) := by
  unfold aggregateStatusFromServices
  generalize services.map (·.status) = statuses
  have hhead : ∀ statuses : List ComponentStatus, statuses ≠ [] →
      (sortSlice (fun a b => decide (componentSeverityRank a > componentSeverityRank b))
        statuses).head? = some (worstListed statuses) := by
    intro statuses hne
    induction statuses with
    | nil => exact absurd rfl hne
    | cons a l ih =>
      rw [head?_sortSlice]
      cases l with
      | nil => rfl
      | cons b l =>
        rw [ih (List.cons_ne_nil b l)]
        rfl
  by_cases hne : statuses = []
  · subst hne
    rfl
  · rw [List.headD_eq_head?_getD, hhead statuses hne]
    rfl

theorem aggregateStatus_eq_storedWorst (c : Component) :
    (categorySummaryOf clock db (listComponents db) c).aggregateStatus = storedWorst db c := by
  have hstatuses := congrArg (List.map Prod.snd) (categoryServices_statuses clock db c
    (listSubComponentsByComponentIDs db [c.id]))
  rw [List.map_map] at hstatuses
  change aggregateStatusFromServices (categoryServices clock db c _) = _
  rw [aggregateStatus_eq_worstListed]
  refine (congrArg worstListed hstatuses).trans ?_
  rw [storedWorst]
  split_ifs with hsubs
  · rfl
  · rw [List.map_map]
    rfl

variable {db} in
theorem mem_listSubComponents {c : Component} {sub : SubComponent} :
    sub ∈ listSubComponentsByComponentIDs db [c.id] ↔
      sub ∈ db.subcomponents.docs ∧ sub.componentID = c.id := by
  simp [listSubComponentsByComponentIDs, Library.Collection.find]

def shownSubs (db : Database) (now : ℤ) (componentID : ObjectID) : List SubComponent :=
  (db.subcomponents.docs.filter (·.componentID = componentID)).map fun sub =>
    { sub with status := (snapshotAt db now).final.subStatus.read sub.id }

def shownComponent (order displayOrder : MapOrder) (db : Database) (now : ℤ) (c : Component) :
    Component :=
  { c with status := ((snapshotAt db now).display order displayOrder c.id).getD c.status }

theorem groupBy_derived_subs (componentID : ObjectID) :
    groupBy (·.componentID) id ((listAllSubComponents db).map fun sub : SubComponent =>
      { sub with
        status := (((snapshotAt db now).derive order).subStatus sub.id).getD sub.status })
      componentID = shownSubs db now componentID := by
  rw [groupBy, shownSubs, List.map_id, List.filter_map]
  refine List.map_congr_left fun sub hsub => ?_
  have hmem : sub ∈ (snapshotAt db now).subs := List.mem_of_mem_filter hsub
  rw [derive_subStatus_of_mem order hmem]
  rfl

theorem buildComponents_shown :
    (buildComponents order displayOrder clock db now).map
        (fun entry => (entry.component, entry.subComponents)) =
      (listComponents db).map
        fun c => (shownComponent order displayOrder db now c, shownSubs db now c.id) := by
  refine List.ext_getElem (by simp [buildComponents]) fun k hk hk' => ?_
  simp only [List.getElem_map, buildComponents, List.getElem_mapIdx]
  exact congrArg (Prod.mk _) (groupBy_derived_subs order db now _)

theorem display_isSome {c : Component} (hc : c ∈ (snapshotAt db now).components) :
    ∃ x, (snapshotAt db now).display order displayOrder c.id = some x := by
  have hS := snapshotAt_keyed db now
  by_cases hescalated : Escalated (snapshotAt db now) c.id
  · exact ⟨_, (display_of_escalated order displayOrder hS hc hescalated).2⟩
  · rw [display_of_not_escalated order displayOrder hS hc hescalated,
      derive_componentStatus_of_mem order hS hc]
    exact ⟨_, rfl⟩

theorem findCategoryComponent_of_unique {components : List Component} {categoryPrefix : String}
    {c : Component} (hc : c ∈ components)
    (hslug : normalizeCategoryPrefix categoryPrefix = componentPrefix c.name)
    (hne : componentPrefix c.name ≠ "")
    (hunique : ∀ d ∈ components, componentPrefix d.name = componentPrefix c.name → d = c) :
    findCategoryComponent components categoryPrefix = some c :=
  @findCategoryComponentWith_of_unique toLower _ _ _ hc hslug hne hunique

variable {order displayOrder clock db now} in
theorem mem_shown_of_entry {entry : ComponentWithSubStatusInfo}
    (h : entry ∈ buildComponents order displayOrder clock db now) :
    ∃ d ∈ listComponents db, (shownComponent order displayOrder db now d, shownSubs db now d.id) =
      (entry.component, entry.subComponents) :=
  List.mem_map.mp
    (buildComponents_shown order displayOrder clock db now ▸ List.mem_map_of_mem h)

theorem entry_of_component {c : Component} (hc : c ∈ listComponents db) :
    ∃ entry ∈ buildComponents order displayOrder clock db now,
      (entry.component, entry.subComponents) =
        (shownComponent order displayOrder db now c, shownSubs db now c.id) := by
  have hmem := List.mem_map_of_mem (f := fun c =>
    (shownComponent order displayOrder db now c, shownSubs db now c.id)) hc
  rw [← buildComponents_shown order displayOrder clock db now] at hmem
  exact List.mem_map.mp hmem

variable {db now} in
theorem mem_shownSubs_of_mem {componentID : ObjectID} {sub : SubComponent}
    (hsub : sub ∈ db.subcomponents.docs) (hid : sub.componentID = componentID) :
    { sub with status := (snapshotAt db now).final.subStatus.read sub.id } ∈
      shownSubs db now componentID :=
  List.mem_map.mpr ⟨sub, List.mem_filter.mpr ⟨hsub, by simpa using hid⟩, rfl⟩

theorem service_of_sub {c : Component} {sub : SubComponent}
    (hsub : sub ∈ db.subcomponents.docs) (hid : sub.componentID = c.id) :
    ∃ service ∈ (categorySummaryOf clock db (listComponents db) c).services,
      (service.id, service.status) = (sub.id, sub.status) := by
  have hmem : sub ∈ listSubComponentsByComponentIDs db [c.id] :=
    mem_listSubComponents.mpr ⟨hsub, hid⟩
  have hservices := categoryServices_statuses clock db c
    (listSubComponentsByComponentIDs db [c.id])
  rw [if_neg (List.ne_nil_of_mem hmem)] at hservices
  have hpair := List.mem_map_of_mem (f := fun sub : SubComponent => (sub.id, sub.status)) hmem
  rw [← hservices] at hpair
  exact List.mem_map.mp hpair

variable {clock db} in
theorem services_cases {c : Component} {service : CategoryService}
    (h : service ∈ (categorySummaryOf clock db (listComponents db) c).services) :
    (listSubComponentsByComponentIDs db [c.id] = [] ∧ service.id = c.id ∧
        service.status = c.status) ∨
      ∃ sub ∈ db.subcomponents.docs, sub.componentID = c.id ∧ service.id = sub.id ∧
        service.status = sub.status := by
  have hpair := List.mem_map_of_mem (f := fun service => (service.id, service.status)) h
  change _ ∈ (categoryServices clock db c _).map _ at hpair
  rw [categoryServices_statuses] at hpair
  split_ifs at hpair with hsubs
  · exact Or.inl ⟨hsubs, Prod.mk.inj (List.mem_singleton.mp hpair)⟩
  · obtain ⟨sub, hsub, heq⟩ := List.mem_map.mp hpair
    obtain ⟨hdoc, hcomponent⟩ := mem_listSubComponents.mp hsub
    obtain ⟨hid, hstatus⟩ := Prod.mk.inj heq
    exact Or.inr ⟨sub, hdoc, hcomponent, hid.symm, hstatus.symm⟩

/-- The category page agrees with the status page on a category exactly when the
stored statuses reflect the hits on it. -/
theorem buildCategorySummary_agrees_iff (order displayOrder : MapOrder) (clock clock' : ℕ → ℤ)
    (db : Database) (now : ℤ) (categoryPrefix : String) (c : Component)
    (hc : c ∈ listComponents db)
    (hslug : normalizeCategoryPrefix categoryPrefix = componentPrefix c.name)
    (hne : componentPrefix c.name ≠ "")
    (hunique : ∀ d ∈ listComponents db, componentPrefix d.name = componentPrefix c.name → d = c) :
    ∃ summary, buildCategorySummary clock db categoryPrefix = .ok summary ∧
      (CategoryAgrees summary (buildComponents order displayOrder clock' db now) c.id ↔
        ReflectsHits db now c) := by
  have hS := snapshotAt_keyed db now
  obtain ⟨shown, hshown⟩ := display_isSome order displayOrder db now hc
  have haggregate := storedWorst_eq_display_iff order displayOrder db now hc
  refine ⟨categorySummaryOf clock db (listComponents db) c, ?_, ?_⟩
  · rw [buildCategorySummary, findCategoryComponent_of_unique hc hslug hne hunique]
  · rw [CategoryAgrees, aggregateStatus_eq_storedWorst]
    constructor
    · rintro ⟨entry, hentry, hid, hagg, -, hsubs⟩
      obtain ⟨d, hd, heq⟩ := mem_shown_of_entry hentry
      obtain ⟨hcomponent, hentrySubs⟩ := Prod.mk.inj heq
      obtain rfl : d = c := List.inj_on_of_nodup_map hS.componentIDs hd hc (by
        rw [← hid, ← hcomponent]
        rfl)
      have hworst := haggregate.mp (by
        rw [hshown, hagg, ← hcomponent, shownComponent, hshown]
        rfl)
      refine ⟨fun sub hsub hsubID => ?_, hworst.1, hworst.2.1, hworst.2.2⟩
      rw [← final_read_eq_stored_iff hS hsub]
      obtain ⟨service, hservice, hpair⟩ := service_of_sub clock db hsub hsubID
      have hne : entry.subComponents ≠ [] := by
        rw [← hentrySubs]
        exact List.ne_nil_of_mem (mem_shownSubs_of_mem hsub hsubID)
      obtain ⟨shownSub, hmem, hsameID, hsame⟩ := hsubs hne service hservice
      rw [← hentrySubs] at hmem
      obtain ⟨stored, hstored, rfl⟩ := List.mem_map.mp hmem
      obtain ⟨hserviceID, hserviceStatus⟩ := Prod.mk.inj hpair
      obtain rfl : stored = sub := List.inj_on_of_nodup_map hS.subIDs
        (List.mem_of_mem_filter hstored) hsub (hsameID.trans hserviceID)
      exact hsame.trans hserviceStatus
    · intro h
      have hworst := haggregate.mpr ⟨h.unhit, h.direct, h.under⟩
      obtain ⟨entry, hentry, hpair⟩ := entry_of_component order displayOrder clock' db now hc
      obtain ⟨hcomponent, hentrySubs⟩ := Prod.mk.inj hpair
      have hstatus : entry.component.status = storedWorst db c := by
        rw [hcomponent, shownComponent, hworst]
        rfl
      refine ⟨entry, hentry, by rw [hcomponent]; rfl, hstatus.symm,
        fun hempty service hservice => ?_, fun hne service hservice => ?_⟩
      · rcases services_cases hservice with ⟨hnone, hid, hown⟩ | ⟨sub, hsub, hsubID, -⟩
        · rw [hstatus, storedWorst, if_pos hnone]
          exact ⟨hid, hown⟩
        · rw [hentrySubs] at hempty
          exact absurd hempty (List.ne_nil_of_mem (mem_shownSubs_of_mem hsub hsubID))
      · rcases services_cases hservice with ⟨hnone, -⟩ | ⟨sub, hsub, hsubID, hid, hsame⟩
        · obtain ⟨shownSub, hmem⟩ := List.exists_mem_of_ne_nil _ hne
          rw [hentrySubs] at hmem
          obtain ⟨stored, hstored, -⟩ := List.mem_map.mp hmem
          have hlisted := mem_listSubComponents.mpr ⟨List.mem_of_mem_filter hstored,
            by simpa using (List.mem_filter.mp hstored).2⟩
          rw [hnone] at hlisted
          simp at hlisted
        · rw [hentrySubs, hid, hsame]
          exact ⟨_, mem_shownSubs_of_mem hsub hsubID, rfl,
            (final_read_eq_stored_iff hS hsub).mpr (h.subs sub hsub hsubID)⟩

theorem buildCategorySummary_agrees_iff_singleSub :
    ∃ summary, buildCategorySummary (fun _ => 0) singleSubDatabase "Api" = .ok summary ∧
      (CategoryAgrees summary
          (buildComponents .insertion .insertion (fun _ => 0) singleSubDatabase 0) 1 ↔
        ReflectsHits singleSubDatabase 0 { id := 1, name := "API", status := .operational }) :=
  buildCategorySummary_agrees_iff .insertion .insertion (fun _ => 0) (fun _ => 0)
    singleSubDatabase 0 "Api" { id := 1, name := "API", status := .operational }
    (by decide) (by decide +kernel) (by decide +kernel) (by decide +kernel)

theorem singleSub_category_disagrees :
    ∃ summary, buildCategorySummary (fun _ => 0) singleSubDatabase "api" = .ok summary ∧
      ¬ CategoryAgrees summary
        (buildComponents .insertion .insertion (fun _ => 0) singleSubDatabase 0) 1 := by
  have hpage : (buildCategorySummary (fun _ => 0) singleSubDatabase "api").toOption.map
      (·.aggregateStatus) = some .operational := by
    decide +kernel
  have hshown : (buildComponents .insertion .insertion (fun _ => 0) singleSubDatabase 0).map
      (·.component.status) = [.partialOutage] := by
    decide +kernel
  cases hsummary : buildCategorySummary (fun _ => 0) singleSubDatabase "api" with
  | error e =>
    rw [hsummary] at hpage
    exact absurd hpage (by simp [Except.toOption])
  | ok summary =>
    refine ⟨summary, rfl, ?_⟩
    rintro ⟨entry, hentry, -, hagg, -⟩
    have hmem := List.mem_map_of_mem (f := (·.component.status)) hentry
    rw [hshown, List.mem_singleton, ← hagg] at hmem
    rw [hsummary] at hpage
    have hstored : summary.aggregateStatus = .operational := Option.some.inj hpage
    rw [hmem] at hstored
    exact absurd hstored (by decide)

end Pages
end Statora.Status
