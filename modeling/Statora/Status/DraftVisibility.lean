import Statora.Availability.Service
import Statora.Status.SummaryAgreement

/-!
# Drafts in the public read models

No query of the status repository tests `visibilityState`. Two stores that
differ in drafts only give the same public results exactly when they hold the
same drafts with the same updates.
-/

namespace Statora.Status
open Library (sublist_eq_of_mem_iff)
open Availability (computeAvailability AvailabilityResult)

def availabilityReport (db : Database) (now periodStart periodEnd : ℤ) (label : String) :
    Except ServiceError AvailabilityResult :=
  computeAvailability (listComponents db) (listIncidentsOverlappingPeriod db periodStart periodEnd)
    now periodStart periodEnd label

/-- The stores select from one list of incidents, and from one of updates, all
that is not a draft or the update of one. -/
structure DifferInDrafts (db db' : Database) : Prop where
  rest : db' =
    { db with incidents := db'.incidents, incidentUpdates := db'.incidentUpdates }
  incidents : ∃ L : List Incident, L.Nodup ∧ db.incidents.docs.Sublist L ∧
    db'.incidents.docs.Sublist L ∧
    ∀ i ∈ L, i.visibilityState ≠ .draft → i ∈ db.incidents.docs ∧ i ∈ db'.incidents.docs
  updates : ∃ U : List IncidentUpdate, U.Nodup ∧ db.incidentUpdates.docs.Sublist U ∧
    db'.incidentUpdates.docs.Sublist U ∧
    ∀ u ∈ U, (∀ i, i ∈ db.incidents.docs ∨ i ∈ db'.incidents.docs → i.id = u.incidentID →
      i.visibilityState ≠ .draft) →
      u ∈ db.incidentUpdates.docs ∧ u ∈ db'.incidentUpdates.docs

structure SameReadModels (db db' : Database) : Prop where
  summary : ∀ order order' now, buildSummary order db now = buildSummary order' db' now
  components : ∀ order displayOrder order' displayOrder' clock now,
    buildComponents order displayOrder clock db now =
      buildComponents order' displayOrder' clock db' now
  incidents : ∀ now startDate endDate,
    buildIncidents db now startDate endDate = buildIncidents db' now startDate endDate
  category : ∀ clock categoryPrefix,
    buildCategorySummary clock db categoryPrefix = buildCategorySummary clock db' categoryPrefix
  availability : ∀ now periodStart periodEnd label,
    availabilityReport db now periodStart periodEnd label =
      availabilityReport db' now periodStart periodEnd label

structure SameDrafts (db db' : Database) : Prop where
  incidents : db.incidents = db'.incidents
  updates : ∀ i ∈ db.incidents.docs,
    db.incidentUpdates.find (fun u => u.incidentID = i.id) =
      db'.incidentUpdates.find (fun u => u.incidentID = i.id)

section Reading
variable {db db' : Database}

theorem mem_listIncidentUpdates {ids : List ObjectID} {id : ObjectID} {u : IncidentUpdate} :
    u ∈ listIncidentUpdatesByIncidentIDs db ids id ↔
      u ∈ db.incidentUpdates.docs ∧ u.incidentID = id ∧ id ∈ ids := by
  simp only [listIncidentUpdatesByIncidentIDs, Library.mem_groupBy, Library.mem_sortSlice,
    Library.Collection.find, List.mem_filter, decide_eq_true_eq, id_eq]
  constructor
  · rintro ⟨v, ⟨hv, hids⟩, rfl, rfl⟩
    exact ⟨hv, rfl, hids⟩
  · rintro ⟨hu, rfl, hids⟩
    exact ⟨u, ⟨hu, hids⟩, rfl, rfl⟩

theorem mem_listedIncidents_at {now t : ℤ} {i : Incident} :
    i ∈ listedIncidents db now (some t) (some (t + 1)) ↔
      i ∈ db.incidents.docs ∧ i.createdAt = t := by
  simp only [listedIncidents, Option.isSome_some, Bool.or_self, if_true, Option.getD_some,
    listIncidentsByCreatedAtRange, newestFirst, Library.mem_sortSlice, Library.Collection.find,
    List.mem_filter, Bool.and_eq_true, decide_eq_true_eq]
  exact and_congr_right fun _ => by omega

theorem mem_buildIncidents_at {now t : ℤ} {item : IncidentWithUpdates}
    (h : item ∈ (buildIncidents db now (some t) (some (t + 1))).active ∨
      item ∈ (buildIncidents db now (some t) (some (t + 1))).resolved) :
    item.incident ∈ db.incidents.docs ∧ ∀ u, u ∈ item.updates ↔
      u ∈ db.incidentUpdates.docs ∧ u.incidentID = item.incident.id := by
  have hitem : ∃ i ∈ listedIncidents db now (some t) (some (t + 1)), item.incident = i ∧
      item.updates = listIncidentUpdatesByIncidentIDs db
        ((listedIncidents db now (some t) (some (t + 1))).map (·.id)) i.id := by
    rcases h with h | h
    · obtain ⟨i, hi, rfl⟩ := List.mem_map.mp h
      exact ⟨i, List.mem_of_mem_filter hi, rfl, rfl⟩
    · obtain ⟨i, hi, rfl⟩ := List.mem_map.mp h
      exact ⟨i, List.mem_of_mem_filter hi, rfl, rfl⟩
  obtain ⟨i, hi, hincident, hupdates⟩ := hitem
  rw [hincident, hupdates]
  refine ⟨(mem_listedIncidents_at.mp hi).1, fun u => mem_listIncidentUpdates.trans ?_⟩
  exact and_congr_right fun _ => and_iff_left (List.mem_map_of_mem hi)

theorem exists_item_at (now : ℤ) {i : Incident} (hi : i ∈ db.incidents.docs) :
    ∃ item, (item ∈ (buildIncidents db now (some i.createdAt) (some (i.createdAt + 1))).active ∨
        item ∈ (buildIncidents db now (some i.createdAt) (some (i.createdAt + 1))).resolved) ∧
      item.incident = i := by
  have hlisted : i ∈ listedIncidents db now (some i.createdAt) (some (i.createdAt + 1)) :=
    mem_listedIncidents_at.mpr ⟨hi, rfl⟩
  by_cases hresolved : i.status = .resolved
  · exact ⟨_, Or.inr (List.mem_map_of_mem (List.mem_filter.mpr ⟨hlisted, by simpa⟩)), rfl⟩
  · exact ⟨_, Or.inl (List.mem_map_of_mem (List.mem_filter.mpr ⟨hlisted, by simpa⟩)), rfl⟩

theorem held_of_sameIncidents
    (h : ∀ now startDate endDate,
      buildIncidents db now startDate endDate = buildIncidents db' now startDate endDate)
    {i : Incident} (hi : i ∈ db.incidents.docs) :
    i ∈ db'.incidents.docs ∧ ∀ u : IncidentUpdate, u.incidentID = i.id →
      (u ∈ db.incidentUpdates.docs ↔ u ∈ db'.incidentUpdates.docs) := by
  obtain ⟨item, hitem, rfl⟩ := exists_item_at 0 hi
  have hupdates := (mem_buildIncidents_at hitem).2
  rw [h] at hitem
  obtain ⟨hheld, hupdates'⟩ := mem_buildIncidents_at hitem
  refine ⟨hheld, fun u hu => ?_⟩
  have hu' := (hupdates u).symm.trans (hupdates' u)
  simpa only [hu, and_true] using hu'

theorem find_eq_of_mem_iff (h : DifferInDrafts db db') (p : IncidentUpdate → Bool)
    (hmem : ∀ u, p u = true → (u ∈ db.incidentUpdates.docs ↔ u ∈ db'.incidentUpdates.docs)) :
    db.incidentUpdates.find p = db'.incidentUpdates.find p := by
  obtain ⟨U, hU, hsub, hsub', -⟩ := h.updates
  refine sublist_eq_of_mem_iff hU (List.filter_sublist.trans hsub)
    (List.filter_sublist.trans hsub') fun u => ?_
  simp only [Library.Collection.find, List.mem_filter]
  exact and_congr_left (hmem u)

theorem sameDrafts_of_sameReadModels (h : DifferInDrafts db db') (hsame : SameReadModels db db') :
    SameDrafts db db' := by
  obtain ⟨L, hL, hsub, hsub', -⟩ := h.incidents
  refine ⟨Library.Collection.ext (sublist_eq_of_mem_iff hL hsub hsub' fun i => ⟨fun hi => ?_,
    fun hi => ?_⟩), fun i hi => find_eq_of_mem_iff h _ fun u hu => ?_⟩
  · exact (held_of_sameIncidents hsame.incidents hi).1
  · exact (held_of_sameIncidents (fun now s e => (hsame.incidents now s e).symm) hi).1
  · exact (held_of_sameIncidents hsame.incidents hi).2 u (of_decide_eq_true hu)

theorem listIncidentUpdates_eq (h : DifferInDrafts db db') (hsame : SameDrafts db db')
    {incidents : List Incident} (hstored : ∀ i ∈ incidents, i ∈ db.incidents.docs) :
    listIncidentUpdatesByIncidentIDs db (incidents.map (·.id)) =
      listIncidentUpdatesByIncidentIDs db' (incidents.map (·.id)) := by
  unfold listIncidentUpdatesByIncidentIDs
  refine congrArg (fun l => Library.groupBy _ _ (Library.sortSlice _ l))
    (find_eq_of_mem_iff h _ fun u hu => ?_)
  obtain ⟨i, hi, hid⟩ := List.mem_map.mp (of_decide_eq_true hu)
  have hfind := congrArg (u ∈ ·) (hsame.updates i (hstored i hi))
  simpa [Library.Collection.find, hid] using hfind

end Reading

section Orders
variable {db : Database} {now : ℤ}

theorem buildSummary_order (order order' : MapOrder) :
    buildSummary order db now = buildSummary order' db now := by
  have hderive : deriveStatuses order (listComponents db) (listAllSubComponents db)
      (listActiveIncidents db) (listActiveMaintenanceAt db now) =
      deriveStatuses order' (listComponents db) (listAllSubComponents db)
        (listActiveIncidents db) (listActiveMaintenanceAt db now) :=
    derive_order (S := snapshotAt db now) order order'
  simp only [buildSummary, hderive]

theorem display_order (order order' displayOrder displayOrder' : MapOrder) (S : Snapshot) :
    S.display order displayOrder = S.display order' displayOrder' := by
  unfold Snapshot.display deriveComponentDisplayStatuses
  rw [derive_order order order']
  simp only [worstSubStatus_congr displayOrder displayOrder' _ _ fun s => Iff.rfl]

theorem buildComponents_order (order displayOrder order' displayOrder' : MapOrder)
    (clock : ℕ → ℤ) :
    buildComponents order displayOrder clock db now =
      buildComponents order' displayOrder' clock db now := by
  have hderive : deriveStatuses order (listComponents db) (listAllSubComponents db)
      (listActiveIncidents db) (listActiveMaintenanceAt db now) =
      deriveStatuses order' (listComponents db) (listAllSubComponents db)
        (listActiveIncidents db) (listActiveMaintenanceAt db now) :=
    derive_order (S := snapshotAt db now) order order'
  have hdisplay := display_order order' order' displayOrder displayOrder' (snapshotAt db now)
  simp only [Snapshot.display, Snapshot.derive, snapshotAt] at hdisplay
  simp only [buildComponents, hderive, hdisplay]

end Orders

section Exactness
variable {db db' : Database}

theorem mem_docs_of_listed {now : ℤ} {startDate endDate : Option ℤ} {i : Incident}
    (h : i ∈ listedIncidents db now startDate endDate) : i ∈ db.incidents.docs := by
  unfold listedIncidents at h
  split_ifs at h
  · exact List.mem_of_mem_filter (Library.mem_sortSlice.mp h)
  · rcases List.mem_append.mp h with h | h
    · exact List.mem_of_mem_filter (Library.mem_sortSlice.mp h)
    · exact List.mem_of_mem_filter (Library.mem_sortSlice.mp h)

theorem mem_docs_of_affected {ids : List ObjectID} {limit : ℕ} {i : Incident}
    (h : i ∈ listIncidentsByAffectedComponents db ids limit) : i ∈ db.incidents.docs := by
  unfold listIncidentsByAffectedComponents at h
  dsimp only at h
  split_ifs at h
  · exact List.mem_of_mem_filter (Library.mem_sortSlice.mp (List.mem_of_mem_take h))
  · exact List.mem_of_mem_filter (Library.mem_sortSlice.mp h)

theorem buildIncidents_eq (h : DifferInDrafts db db') (hsame : SameDrafts db db')
    (hrest : db' = { db with incidentUpdates := db'.incidentUpdates }) (now : ℤ)
    (startDate endDate : Option ℤ) :
    buildIncidents db now startDate endDate = buildIncidents db' now startDate endDate := by
  have hlisted : listedIncidents db' now startDate endDate =
      listedIncidents db now startDate endDate := by
    rw [hrest]
    rfl
  have hcomponents : listComponentsByIDs db' = listComponentsByIDs db := by
    rw [hrest]
    rfl
  have hsubs : listSubComponentsByIDs db' = listSubComponentsByIDs db := by
    rw [hrest]
    rfl
  have hupdates := listIncidentUpdates_eq h hsame
    fun i (hi : i ∈ listedIncidents db now startDate endDate) => mem_docs_of_listed hi
  simp only [buildIncidents, hlisted, hcomponents, hsubs, hupdates]

theorem buildCategorySummary_eq (h : DifferInDrafts db db') (hsame : SameDrafts db db')
    (hrest : db' = { db with incidentUpdates := db'.incidentUpdates }) (clock : ℕ → ℤ)
    (categoryPrefix : String) :
    buildCategorySummary clock db categoryPrefix =
      buildCategorySummary clock db' categoryPrefix := by
  have hlist : listComponents db' = listComponents db := by
    rw [hrest]
    rfl
  have hsubs : listSubComponentsByComponentIDs db' = listSubComponentsByComponentIDs db := by
    rw [hrest]
    rfl
  have hservices : categoryServices clock db' = categoryServices clock db := by
    rw [hrest]
    rfl
  have haffected : listIncidentsByAffectedComponents db' =
      listIncidentsByAffectedComponents db := by
    rw [hrest]
    rfl
  have hincidents : ∀ c subs, categoryIncidents db (listComponents db) c subs =
      categoryIncidents db' (listComponents db) c subs := fun c subs => by
    have hupdates := listIncidentUpdates_eq h hsame fun i
      (hi : i ∈ listIncidentsByAffectedComponents db (c.id :: subs.map (·.id)) 20) =>
        mem_docs_of_affected hi
    simp only [categoryIncidents, haffected, hupdates]
  simp only [buildCategorySummary, categorySummaryOf, hlist, hsubs, hservices, hincidents]

theorem sameReadModels_of_sameDrafts (h : DifferInDrafts db db') (hsame : SameDrafts db db') :
    SameReadModels db db' := by
  have hrest : db' = { db with incidentUpdates := db'.incidentUpdates } := by
    refine h.rest.trans ?_
    rw [hsame.incidents]
  refine ⟨fun order order' now => ?_, fun order displayOrder order' displayOrder' clock now => ?_,
    fun now startDate endDate => ?_, fun clock categoryPrefix => ?_,
    fun now periodStart periodEnd label => ?_⟩
  · rw [buildSummary_order order order', hrest]
    rfl
  · rw [buildComponents_order order displayOrder order' displayOrder', hrest]
    rfl
  · exact buildIncidents_eq h hsame hrest now startDate endDate
  · exact buildCategorySummary_eq h hsame hrest clock categoryPrefix
  · rw [hrest]
    rfl

/-- Drafts are visible: the public results agree only when the drafts do. -/
theorem sameReadModels_iff (h : DifferInDrafts db db') :
    SameReadModels db db' ↔ SameDrafts db db' :=
  ⟨sameDrafts_of_sameReadModels h, sameReadModels_of_sameDrafts h⟩

def draftDatabase : Database where
  incidents :=
    ⟨[{ id := 1, title := "unannounced", visibilityState := .draft, status := .investigating,
        impact := .critical }], by decide⟩

theorem draftDatabase_differs : DifferInDrafts draftDatabase {} where
  rest := rfl
  incidents := ⟨draftDatabase.incidents.docs, List.nodup_singleton _, List.Sublist.refl _,
    List.nil_sublist _, fun i hi h => absurd (by rw [List.mem_singleton.mp hi]) h⟩
  updates := ⟨[], List.nodup_nil, List.Sublist.refl _, List.Sublist.refl _, by simp⟩

theorem sameReadModels_iff_draftDatabase :
    SameReadModels draftDatabase {} ↔ SameDrafts draftDatabase {} :=
  sameReadModels_iff draftDatabase_differs

theorem draftDatabase_visible : DifferInDrafts draftDatabase {} ∧
    (buildSummary .insertion draftDatabase 0).activeIncidents = 1 ∧
    (buildSummary .insertion {} 0).activeIncidents = 0 :=
  ⟨draftDatabase_differs, by decide, by decide⟩

end Exactness
end Statora.Status
