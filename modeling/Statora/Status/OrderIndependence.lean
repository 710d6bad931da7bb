import Statora.Status.Confluence

/-!
# Derived statuses do not depend on order

Reordering any of the lists, inner lists included, leaves the sets of hits as
they are. The closed form mentions nothing else, so it is the value of
`deriveStatuses` for every order.
-/

namespace Statora.Status
open Library (mapOf_isSome)

/-- The same elements up to `R`, in any order and number. -/
def SameElements {α : Type} (R : α → α → Prop) (l l' : List α) : Prop :=
  (∀ a ∈ l, ∃ b ∈ l', R a b) ∧ ∀ b ∈ l', ∃ a ∈ l, R a b

theorem SameElements.symm {α : Type} {R : α → α → Prop} (hR : ∀ a b, R a b → R b a)
    {l l' : List α} (h : SameElements R l l') : SameElements R l' l :=
  ⟨fun b hb => (h.2 b hb).imp fun a ha => ⟨ha.1, hR a b ha.2⟩,
    fun a ha => (h.1 a ha).imp fun b hb => ⟨hb.1, hR a b hb.2⟩⟩

def SameTarget (t t' : IncidentAffectedComponent) : Prop :=
  t.componentID = t'.componentID ∧ ∀ s, s ∈ t.subComponentIDs ↔ s ∈ t'.subComponentIDs

def SameIncident (i i' : Incident) : Prop :=
  i.impact = i'.impact ∧ SameElements SameTarget (normalizeIncidentTargetsForExpansion i)
    (normalizeIncidentTargetsForExpansion i')

def SameMaintenance (m m' : Maintenance) : Prop := ∀ c, c ∈ m.components ↔ c ∈ m'.components

/-- Two snapshots that differ in the order of their lists only, inner lists included. -/
structure Snapshot.Reordering (S S' : Snapshot) : Prop where
  components : S.components.Perm S'.components
  subs : S.subs.Perm S'.subs
  incidents : SameElements SameIncident S.incidents S'.incidents
  maintenance : SameElements SameMaintenance S.maintenance S'.maintenance

variable {S S' : Snapshot}

theorem SameTarget.symm (t t' : IncidentAffectedComponent) (h : SameTarget t t') :
    SameTarget t' t := ⟨h.1.symm, fun s => (h.2 s).symm⟩

theorem SameIncident.symm (i i' : Incident) (h : SameIncident i i') : SameIncident i' i :=
  ⟨h.1.symm, h.2.symm SameTarget.symm⟩

theorem Snapshot.Reordering.symm (h : S.Reordering S') : S'.Reordering S :=
  ⟨h.components.symm, h.subs.symm, h.incidents.symm SameIncident.symm,
    h.maintenance.symm fun _ _ hm c => (hm c).symm⟩

theorem Snapshot.Reordering.wellFormed (h : S.Reordering S') (hS : S.WellFormed) :
    S'.WellFormed where
  componentIDs := (h.components.map _).nodup_iff.mp hS.componentIDs
  subIDs := (h.subs.map _).nodup_iff.mp hS.subIDs
  componentStatuses c hc := hS.componentStatuses c (h.components.mem_iff.mpr hc)
  subStatuses s hs := hS.subStatuses s (h.subs.mem_iff.mpr hs)

theorem Snapshot.Reordering.directHit (h : S.Reordering S') {componentID : ObjectID}
    {x : ComponentStatus} (hx : DirectHit S componentID x) : DirectHit S' componentID x := by
  cases hx with
  | incident hi ht hc hwhole hstatus =>
    obtain ⟨i', hi', himpact, htargets⟩ := h.incidents.1 _ hi
    obtain ⟨t', ht', hc', hsubs⟩ := htargets.1 _ ht
    rw [himpact] at hstatus ⊢
    refine .incident hi' ht' (hc'.symm.trans hc) ?_ hstatus
    rw [List.eq_nil_iff_forall_not_mem]
    exact fun s hs => by simpa [hwhole] using (hsubs s).mpr hs
  | maintenance hm hc =>
    obtain ⟨m', hm', hsame⟩ := h.maintenance.1 _ hm
    exact .maintenance hm' ((hsame _).mp hc)

theorem Snapshot.Reordering.hitUnder (h : S.Reordering S') {componentID subID : ObjectID}
    {x : ComponentStatus} (hx : HitUnder S componentID subID x) :
    HitUnder S' componentID subID x := by
  cases hx with
  | named hi ht hc hsub hstatus =>
    obtain ⟨i', hi', himpact, htargets⟩ := h.incidents.1 _ hi
    obtain ⟨t', ht', hc', hsubs⟩ := htargets.1 _ ht
    rw [himpact] at hstatus ⊢
    exact .named hi' ht' (hc'.symm.trans hc) ((hsubs _).mp hsub) hstatus
  | whole hdirect hsub hc hid =>
    exact .whole (h.directHit hdirect) (h.subs.mem_iff.mp hsub) hc hid

theorem Snapshot.Reordering.directHit_iff (h : S.Reordering S') (componentID : ObjectID)
    (x : ComponentStatus) : DirectHit S componentID x ↔ DirectHit S' componentID x :=
  ⟨h.directHit, h.symm.directHit⟩

theorem Snapshot.Reordering.hitUnder_iff (h : S.Reordering S') (componentID subID : ObjectID)
    (x : ComponentStatus) : HitUnder S componentID subID x ↔ HitUnder S' componentID subID x :=
  ⟨h.hitUnder, h.symm.hitUnder⟩

theorem Snapshot.Reordering.subHits_eq (h : S.Reordering S') (subID : ObjectID) :
    subHits S subID = subHits S' subID := by
  ext x
  exact exists_congr fun c => and_congr h.components.mem_iff (h.hitUnder_iff c.id subID x)

theorem Snapshot.Reordering.impactedSubs_eq (h : S.Reordering S') (componentID : ObjectID) :
    impactedSubs S componentID = impactedSubs S' componentID := by
  ext s
  exact exists_congr fun x => h.hitUnder_iff componentID s x

theorem Snapshot.Reordering.finalSubStatus (h : S.Reordering S') {subID : ObjectID}
    {x : ComponentStatus} (hx : FinalSubStatus S subID x) : FinalSubStatus S' subID x := by
  cases hx with
  | known hsub hid hworst =>
    rw [h.subHits_eq] at hworst
    exact .known (h.subs.mem_iff.mp hsub) hid hworst
  | unknown hid hworst =>
    rw [h.subHits_eq] at hworst
    exact .unknown (fun s hs => hid s (h.subs.mem_iff.mpr hs)) hworst

theorem Snapshot.Reordering.worstUnder (h : S.Reordering S') {componentID : ObjectID}
    {x : ComponentStatus} (hx : WorstUnder S componentID x) : WorstUnder S' componentID x := by
  have hset : {y | y = ComponentStatus.operational ∨
        ∃ s ∈ impactedSubs S componentID, FinalSubStatus S s y} =
      {y | y = ComponentStatus.operational ∨
        ∃ s ∈ impactedSubs S' componentID, FinalSubStatus S' s y} := by
    ext y
    refine or_congr_right (exists_congr fun s => ?_)
    rw [h.impactedSubs_eq]
    exact and_congr_right fun _ => ⟨h.finalSubStatus, h.symm.finalSubStatus⟩
  rwa [WorstUnder, hset] at hx

theorem Snapshot.Reordering.partlyImpacted_iff (h : S.Reordering S') (componentID : ObjectID) :
    PartlyImpacted S componentID ↔ PartlyImpacted S' componentID := by
  rw [PartlyImpacted, PartlyImpacted, h.impactedSubs_eq, (h.subs.filter _).length_eq]

theorem Snapshot.Reordering.isHit_iff (h : S.Reordering S') (componentID : ObjectID) :
    IsHit S componentID ↔ IsHit S' componentID := by
  rw [IsHit, IsHit, h.impactedSubs_eq]
  exact or_congr_left (exists_congr (h.directHit_iff componentID))

theorem Snapshot.Reordering.closedForm (h : S.Reordering S') {c : Component}
    {x : ComponentStatus} (hx : ComponentClosedForm S c x) : ComponentClosedForm S' c x := by
  cases hx with
  | unhit hhit => exact .unhit (by rwa [← h.isHit_iff])
  | partly hhit hdirect hworst hpartly =>
    simp only [h.directHit_iff] at hdirect
    exact .partly ((h.isHit_iff _).mp hhit) hdirect (h.worstUnder hworst)
      ((h.partlyImpacted_iff _).mp hpartly)
  | wholly hhit hdirect hworst hpartly =>
    simp only [h.directHit_iff] at hdirect
    exact .wholly ((h.isHit_iff _).mp hhit) hdirect (h.worstUnder hworst)
      (by rwa [← h.partlyImpacted_iff])

theorem derive_componentStatus_reordering (hS : S.WellFormed) (h : S.Reordering S')
    (order order' : MapOrder) :
    (S'.derive order').componentStatus = (S.derive order).componentStatus := by
  funext id
  by_cases hid : id ∈ S.components.map (·.id)
  · obtain ⟨c, hc, rfl⟩ := List.mem_map.mp hid
    have hc' := h.components.mem_iff.mp hc
    rw [derive_componentStatus_of_mem order' (h.wellFormed hS).toKeyed hc',
      derive_componentStatus_of_mem order hS.toKeyed hc]
    exact congrArg some ((closedForm_derived order' (h.wellFormed hS) hc').unique (h.wellFormed hS)
      (h.closedForm (closedForm_derived order hS hc)))
  · rw [derive_componentStatus_of_not_mem order hid, derive_componentStatus_of_not_mem order'
      fun hid' => hid ((h.components.map _).mem_iff.mpr hid')]

theorem derive_subStatus_reordering (hS : S.WellFormed) (h : S.Reordering S')
    (order order' : MapOrder) : (S'.derive order').subStatus = (S.derive order).subStatus := by
  funext s
  rw [derive_subStatus, derive_subStatus]
  have hsome := (foldl_applyImpact_subStatus S.initial S.impacts s).2
  have hsome' := (foldl_applyImpact_subStatus S'.initial S'.impacts s).2
  have hinitial : S'.initial.subStatus = S.initial.subStatus :=
    (Library.mapOf_perm hS.subIDs h.subs).symm
  rw [appliedHits_eq] at hsome hsome'
  rw [hinitial, ← h.subHits_eq, ← hsome] at hsome'
  cases hs : S.final.subStatus s with
  | none =>
    rw [← Option.not_isSome_iff_eq_none] at hs ⊢
    exact fun h' => hs (hsome'.mp h')
  | some x =>
    obtain ⟨y, hy⟩ := Option.isSome_iff_exists.mp (hsome'.mpr (by
      change (S.final.subStatus s).isSome = true
      rw [hs]
      rfl))
    have hreal := hsome.mp (by
      change (S.final.subStatus s).isSome = true
      rw [hs]
      rfl)
    have hknown : (∃ sub ∈ S.subs, sub.id = s) ∨ (subHits S s).Nonempty :=
      hreal.imp_left fun hi => List.mem_map.mp ((mapOf_isSome _).mp hi)
    have hread := final_read hS hknown
    have hknown' : (∃ sub ∈ S'.subs, sub.id = s) ∨ (subHits S' s).Nonempty := by
      rw [← h.subHits_eq]
      exact hknown.imp_left fun ⟨sub, hsub, hid⟩ => ⟨sub, h.subs.mem_iff.mp hsub, hid⟩
    have hread' := final_read (h.wellFormed hS) hknown'
    have heq := hread'.unique (h.wellFormed hS) (h.finalSubStatus hread)
    change S'.final.subStatus s = some y at hy
    rw [StatusMap.read_eq hy, StatusMap.read_eq hs] at heq
    exact hy.trans (congrArg some heq)

/-- `deriveStatuses` is its closed form, and no order enters it: the order of the
four lists, of targets, of named sub-components, or of the ranged maps. -/
theorem deriveStatuses_closedForm (order : MapOrder) (S : Snapshot) (hS : S.WellFormed) :
    (∀ sub ∈ S.subs, ∃ status, (S.derive order).subStatus sub.id = some status ∧
        ∀ x, Worst {y | y = sub.status ∨ y ∈ subHits S sub.id} x ↔ x = status) ∧
      (∀ c ∈ S.components, ∃ status, (S.derive order).componentStatus c.id = some status ∧
        ∀ x, ComponentClosedForm S c x ↔ x = status) ∧
      ∀ order' S', S.Reordering S' → S'.derive order' = S.derive order := by
  refine ⟨fun sub hsub => ?_, fun c hc => ?_, fun order' S' h => ?_⟩
  · refine ⟨_, derive_subStatus_of_mem order hsub, fun x => ?_⟩
    have hread := final_read hS (Or.inl ⟨sub, hsub, rfl⟩)
    constructor
    · exact fun hx => (FinalSubStatus.known hsub rfl hx).unique hS hread
    · rintro rfl
      cases hread with
      | known hsub' hid hworst =>
        obtain rfl := List.inj_on_of_nodup_map hS.subIDs hsub' hsub hid
        exact hworst
      | unknown hid => exact absurd rfl (hid sub hsub)
  · refine ⟨_, derive_componentStatus_of_mem order hS.toKeyed hc, fun x => ?_⟩
    have hderived := closedForm_derived order hS hc
    exact ⟨fun hx => hx.unique hS hderived, fun hx => hx ▸ hderived⟩
  · have hc := derive_componentStatus_reordering hS h order order'
    have hs := derive_subStatus_reordering hS h order order'
    cases hd : S'.derive order'
    cases hd' : S.derive order
    simp_all

def partlyHitSnapshot : Snapshot where
  components := [{ id := 1, name := "API", status := .operational }]
  subs := [{ id := 2, componentID := 1, name := "read", status := .operational },
    { id := 3, componentID := 1, name := "write", status := .operational }]
  incidents :=
    [{ id := 4, title := "down", status := .investigating, impact := .critical,
       affectedComponentTargets := [⟨1, [2]⟩] }]
  maintenance := []

theorem deriveStatuses_closedForm_partlyHit :
    (partlyHitSnapshot.derive .insertion).componentStatus 1 = some .partialOutage ∧
      ∀ x, ComponentClosedForm partlyHitSnapshot
        { id := 1, name := "API", status := .operational } x ↔ x = .partialOutage := by
  obtain ⟨status, hderived, hform⟩ := (deriveStatuses_closedForm .insertion partlyHitSnapshot
    ⟨⟨by decide, by decide⟩, by simp [partlyHitSnapshot, Defined],
      by simp [partlyHitSnapshot, Defined]⟩).2.1 { id := 1, name := "API", status := .operational }
    (List.mem_singleton_self _)
  have hvalue : (partlyHitSnapshot.derive .insertion).componentStatus 1 = some .partialOutage := by
    decide
  obtain rfl : status = .partialOutage := Option.some.inj (hderived.symm.trans hvalue)
  exact ⟨hvalue, hform⟩

end Statora.Status
