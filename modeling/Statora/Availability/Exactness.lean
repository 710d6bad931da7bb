import Statora.Availability.Service

/-!
# What the availability report measures

The downtime of a list of incidents is a set of instants: those of the period
that lie in the window of at least one incident. The report gives the size of
that set, over all incidents and over those that target a component, and the
order in which the repository lists the incidents does not matter.
-/

namespace Statora.Availability
open Library (Span covered mem_covered)

/-- From creation to resolution, or to now when the incident is still open. -/
def incidentWindow (now : ℤ) (incident : Incident) : Span ℤ :=
  ⟨incident.createdAt, incident.resolvedAt.getD now⟩

noncomputable def downtimeInstants (now periodStart periodEnd : ℤ) (incidents : List Incident) :
    Finset ℤ :=
  covered (incidents.map (incidentWindow now)) ∩ Finset.Ico periodStart periodEnd

def Targets (incident : Incident) (id : ObjectID) : Prop :=
  id ∈ incident.affectedComponents ∨
    ∃ t ∈ incident.affectedComponentTargets, t.componentID = id

instance (incident : Incident) (id : ObjectID) : Decidable (Targets incident id) := by
  unfold Targets; infer_instance

def CountsIn (now periodStart periodEnd : ℤ) (incident : Incident) : Prop :=
  ((incidentWindow now incident).points ∩ Finset.Ico periodStart periodEnd).Nonempty

noncomputable instance (now periodStart periodEnd : ℤ) (incident : Incident) :
    Decidable (CountsIn now periodStart periodEnd incident) := by
  unfold CountsIn; infer_instance

def reportedDowntime (r : AvailabilityResult) (id : ObjectID) : ℚ :=
  ((r.services.find? (fun s => s.componentID = id)).map (·.downtimeMinutes)).getD 0

def reportedCount (r : AvailabilityResult) (id : ObjectID) : ℕ :=
  ((r.services.find? (fun s => s.componentID = id)).map (·.incidentCount)).getD 0

/-- Equal reports, except for the order of breakdown entries with equal start. -/
def SameReport (r r' : AvailabilityResult) : Prop :=
  r.period = r'.period ∧ r.overall = r'.overall ∧ r.services = r'.services ∧
    r.incidents.Perm r'.incidents ∧
    r.incidents.Pairwise (fun a b => a.startedAt ≥ b.startedAt) ∧
    r'.incidents.Pairwise (fun a b => a.startedAt ≥ b.startedAt)

section Targets

theorem mem_foldl_addTargetID {id : ObjectID} (ids new : List ObjectID) :
    id ∈ new.foldl addTargetID ids ↔ id ∈ ids ∨ (id ∈ new ∧ id ≠ NilObjectID) := by
  induction new generalizing ids with
  | nil => simp
  | cons a new ih =>
    rw [List.foldl_cons, ih, addTargetID]
    split_ifs with hnil hmem
    · subst hnil
      aesop
    · aesop
    · aesop

theorem mem_incidentTargetComponentIDs (incident : Incident) {id : ObjectID}
    (hid : id ≠ NilObjectID) :
    id ∈ incidentTargetComponentIDs incident ↔ Targets incident id := by
  simp [incidentTargetComponentIDs, mem_foldl_addTargetID, hid, Targets]

end Targets

section Entries
variable {now periodStart periodEnd : ℤ}

theorem countsIn_iff {incident : Incident} :
    CountsIn now periodStart periodEnd incident ↔
      max periodStart incident.createdAt < min periodEnd (incident.resolvedAt.getD now) := by
  simp only [CountsIn, Finset.Nonempty, Finset.mem_inter, Library.mem_points, incidentWindow,
    Finset.mem_Ico]
  constructor
  · rintro ⟨x, ⟨h1, h2⟩, h3, h4⟩
    omega
  · intro h
    exact ⟨max periodStart incident.createdAt, by omega⟩

theorem entryOf_eq (incident : Incident) :
    entryOf now periodStart periodEnd incident =
      if CountsIn now periodStart periodEnd incident then
        some ⟨incident, ⟨max periodStart incident.createdAt,
          min periodEnd (incident.resolvedAt.getD now)⟩, incidentTargetComponentIDs incident⟩
      else none := by
  by_cases h : CountsIn now periodStart periodEnd incident
  · have hlt := countsIn_iff.mp h
    have hclip : clipInterval ⟨incident.createdAt, incident.resolvedAt.getD now⟩
        periodStart periodEnd = some ⟨max periodStart incident.createdAt,
          min periodEnd (incident.resolvedAt.getD now)⟩ :=
      clipInterval_eq_some.mpr ⟨rfl, hlt⟩
    have h1 : incident.createdAt < periodEnd := by omega
    have h2 : incident.createdAt < incident.resolvedAt.getD now := by omega
    simp [entryOf, h1, h2, hclip, h]
  · have hclip : clipInterval ⟨incident.createdAt, incident.resolvedAt.getD now⟩
        periodStart periodEnd = none := by
      rw [Option.eq_none_iff_forall_ne_some]
      intro c hc
      obtain ⟨rfl, hlt⟩ := clipInterval_eq_some.mp hc
      exact h (countsIn_iff.mpr hlt)
    simp [entryOf, hclip, h]

theorem mem_entries {e : Entry} {incidents : List Incident} :
    e ∈ incidents.filterMap (entryOf now periodStart periodEnd) ↔
      ∃ i ∈ incidents, CountsIn now periodStart periodEnd i ∧
        e = ⟨i, ⟨max periodStart i.createdAt, min periodEnd (i.resolvedAt.getD now)⟩,
          incidentTargetComponentIDs i⟩ := by
  simp only [List.mem_filterMap, entryOf_eq]
  refine exists_congr fun i => and_congr_right fun _ => ?_
  split_ifs with h
  · simp [h, eq_comm]
  · simp [h]

theorem length_entries (incidents : List Incident) :
    (incidents.filterMap (entryOf now periodStart periodEnd)).length =
      (incidents.filter (CountsIn now periodStart periodEnd)).length := by
  induction incidents with
  | nil => rfl
  | cons i incidents ih =>
    rw [List.filterMap_cons, List.filter_cons, entryOf_eq i]
    by_cases h : CountsIn now periodStart periodEnd i
    · simp [h, ih]
    · simp [h, ih]

theorem covered_entries (incidents : List Incident) :
    covered ((incidents.filterMap (entryOf now periodStart periodEnd)).map (·.interval)) =
      downtimeInstants now periodStart periodEnd incidents := by
  ext x
  simp only [mem_covered, List.mem_map, mem_entries, downtimeInstants, Finset.mem_inter,
    Finset.mem_Ico]
  constructor
  · rintro ⟨s, ⟨e, ⟨i, hi, -, rfl⟩, rfl⟩, h1, h2⟩
    dsimp only at h1 h2
    have hwindow : i.createdAt ≤ x ∧ x < i.resolvedAt.getD now := by omega
    exact ⟨⟨incidentWindow now i, ⟨i, hi, rfl⟩, hwindow⟩, by omega⟩
  · rintro ⟨⟨s, ⟨i, hi, rfl⟩, h1, h2⟩, h3, h4⟩
    simp only [incidentWindow] at h1 h2
    exact ⟨_, ⟨_, ⟨i, hi, countsIn_iff.mpr (by omega), rfl⟩, rfl⟩, by dsimp; omega⟩

theorem componentIntervals_entries (incidents : List Incident) {id : ObjectID}
    (hid : id ≠ NilObjectID) :
    componentIntervals (incidents.filterMap (entryOf now periodStart periodEnd)) id =
      ((incidents.filter (Targets · id)).filterMap (entryOf now periodStart periodEnd)).map
        (·.interval) := by
  unfold componentIntervals
  congr 1
  induction incidents with
  | nil => rfl
  | cons i incidents ih =>
    have htarget := mem_incidentTargetComponentIDs i hid
    simp only [List.filterMap_cons, List.filter_cons, entryOf_eq] at ih ⊢
    by_cases hc : CountsIn now periodStart periodEnd i <;> by_cases ht : Targets i id <;>
      simp [hc, ht, htarget, ih]

end Entries

section Services
variable {entries : List Entry} {components : List Component}

theorem downtime_perm {intervals intervals' : List Interval} (h : intervals.Perm intervals') :
    totalDuration (mergeIntervals intervals) = totalDuration (mergeIntervals intervals') := by
  rw [totalDuration_mergeIntervals, totalDuration_mergeIntervals, Library.covered_perm h]

theorem addComponent_perm {entries' : List Entry} (h : entries.Perm entries') (t : ServiceTotals)
    (c : Component) : addComponent entries t c = addComponent entries' t c := by
  have hintervals : (componentIntervals entries c.id).Perm (componentIntervals entries' c.id) :=
    (h.filter _).map _
  simp only [addComponent, hintervals.length_eq, hintervals.isEmpty_eq, downtime_perm hintervals]

theorem downtime_foldl_addComponent (entries : List Entry) (components : List Component)
    (t : ServiceTotals) (id : ObjectID) :
    (components.foldl (addComponent entries) t).downtime id =
      if id ∈ components.map (·.id) ∧ (componentIntervals entries id).isEmpty = false then
        some (totalDuration (mergeIntervals (componentIntervals entries id)))
      else t.downtime id := by
  induction components generalizing t with
  | nil => simp
  | cons c components ih =>
    rw [List.foldl_cons, ih (addComponent entries t c)]
    by_cases hid : id = c.id
    · subst hid
      cases he : (componentIntervals entries c.id).isEmpty <;> simp [addComponent, he]
    · cases he : (componentIntervals entries c.id).isEmpty <;> simp [addComponent, he, hid]

theorem count_foldl_addComponent (entries : List Entry)
    (hnodup : (components.map (·.id)).Nodup) (t : ServiceTotals) (id : ObjectID) :
    (components.foldl (addComponent entries) t).count id =
      t.count id + (if id ∈ components.map (·.id) then (componentIntervals entries id).length
        else 0) := by
  induction components generalizing t with
  | nil => simp
  | cons c components ih =>
    obtain ⟨hc, hrest⟩ := List.nodup_cons.mp hnodup
    rw [List.foldl_cons, ih hrest (addComponent entries t c)]
    by_cases hid : id = c.id
    · subst hid
      cases he : (componentIntervals entries c.id).isEmpty <;> simp [addComponent, he, hc]
    · cases he : (componentIntervals entries c.id).isEmpty <;> simp [addComponent, he, hid]

theorem serviceOf_of_nodup (hnodup : (components.map (·.id)).Nodup) (totalMinutes : ℚ)
    {c : Component} (hc : c ∈ components) :
    serviceOf totalMinutes (serviceTotals entries components) c =
      if (componentIntervals entries c.id).isEmpty then none
      else
        let downtime := minutes (totalDuration (mergeIntervals (componentIntervals entries c.id)))
        some ⟨c.id, c.name, availabilityPercent totalMinutes downtime, downtime,
          (componentIntervals entries c.id).length⟩ := by
  have hmem : c.id ∈ components.map (·.id) := List.mem_map_of_mem hc
  have hcount := count_foldl_addComponent entries hnodup ⟨fun _ => none, fun _ => 0⟩ c.id
  have hdown := downtime_foldl_addComponent entries components ⟨fun _ => none, fun _ => 0⟩ c.id
  simp only [serviceOf, serviceTotals, hcount, hdown, hmem, true_and, if_true, zero_add]
  cases (componentIntervals entries c.id).isEmpty <;> rfl

theorem find?_filterMap_service {f : Component → Option ServiceAvailability}
    (hf : ∀ c s, f c = some s → s.componentID = c.id)
    (hnodup : (components.map (·.id)).Nodup) {c : Component} (hc : c ∈ components) :
    (components.filterMap f).find? (fun s => s.componentID = c.id) = f c := by
  induction components with
  | nil => simp at hc
  | cons d components ih =>
    obtain ⟨hd, hrest⟩ := List.nodup_cons.mp hnodup
    rcases List.mem_cons.mp hc with rfl | hc
    · cases hfc : f c with
      | some s => simp [hfc, hf c s hfc]
      | none =>
        rw [List.filterMap_cons_none hfc, List.find?_eq_none]
        intro s hs
        obtain ⟨d, hdm, hds⟩ := List.mem_filterMap.mp hs
        have hne : d.id ≠ c.id := fun h =>
          hd (List.mem_map.mpr ⟨d, hdm, h⟩)
        simpa [hf d s hds] using hne
    · have hne : d.id ≠ c.id := fun h =>
        hd (List.mem_map.mpr ⟨c, hc, h.symm⟩)
      cases hfd : f d with
      | some s => simp [hfd, hf d s hfd, hne, ih hrest hc]
      | none => simpa [hfd] using ih hrest hc

end Services

section Report
variable {components : List Component} {incidents : List Incident}
  {now periodStart periodEnd : ℤ} {label : String}

theorem componentDowntime (incidents : List Incident) {id : ObjectID} (hid : id ≠ NilObjectID) :
    totalDuration (mergeIntervals (componentIntervals
        (incidents.filterMap (entryOf now periodStart periodEnd)) id)) =
      (downtimeInstants now periodStart periodEnd (incidents.filter (Targets · id))).card := by
  rw [totalDuration_mergeIntervals, componentIntervals_entries incidents hid, covered_entries]

theorem length_componentIntervals (incidents : List Incident) {id : ObjectID}
    (hid : id ≠ NilObjectID) :
    (componentIntervals (incidents.filterMap (entryOf now periodStart periodEnd)) id).length =
      ((incidents.filter (Targets · id)).filter (CountsIn now periodStart periodEnd)).length := by
  rw [componentIntervals_entries incidents hid, List.length_map, length_entries]

theorem downtimeInstants_of_not_countsIn
    (h : (incidents.filter (CountsIn now periodStart periodEnd)).length = 0) :
    downtimeInstants now periodStart periodEnd incidents = ∅ := by
  rw [← covered_entries, ← Finset.card_eq_zero, ← Nat.cast_eq_zero (R := ℤ),
    ← totalDuration_mergeIntervals]
  have hnone := List.eq_nil_of_length_eq_zero ((length_entries incidents).trans h)
  rw [hnone]
  rfl

theorem serviceOf_report (hnodup : (components.map (·.id)).Nodup)
    (hnil : ∀ c ∈ components, c.id ≠ NilObjectID) (totalMinutes : ℚ) {c : Component}
    (hc : c ∈ components) :
    serviceOf totalMinutes (serviceTotals
        (incidents.filterMap (entryOf now periodStart periodEnd)) components) c =
      let targeting := incidents.filter (Targets · c.id)
      let downtime := minutes (downtimeInstants now periodStart periodEnd targeting).card
      let count := (targeting.filter (CountsIn now periodStart periodEnd)).length
      if count = 0 then none
      else some ⟨c.id, c.name, availabilityPercent totalMinutes downtime, downtime, count⟩ := by
  rw [serviceOf_of_nodup hnodup totalMinutes hc]
  simp only [componentDowntime incidents (hnil c hc), length_componentIntervals incidents
    (hnil c hc), List.isEmpty_iff_length_eq_zero]

theorem newestFirst (entries : List Entry) :
    ((Library.sortSlice newerEntry entries).map (breakdownOf components)).Pairwise
      (fun a b => a.startedAt ≥ b.startedAt) := by
  rw [List.pairwise_map]
  refine (Library.sortSlice_pairwise (fun e : Entry => OrderDual.toDual e.incident.createdAt)
    (fun a b => ?_) entries).imp ?_
  · simp [newerEntry, OrderDual.toDual_lt_toDual]
  · intro a b h
    exact OrderDual.toDual_le_toDual.mp h

theorem sameReport_of_perm_entries {entries entries' : List Entry} (h : entries.Perm entries') :
    SameReport (reportOf components entries periodStart periodEnd label)
      (reportOf components entries' periodStart periodEnd label) := by
  have htotals : serviceTotals entries components = serviceTotals entries' components := by
    have hstep : addComponent entries = addComponent entries' := by
      funext t c
      exact addComponent_perm h t c
    unfold serviceTotals
    rw [hstep]
  refine ⟨rfl, ?_, ?_, ?_, newestFirst _, newestFirst _⟩
  · simp only [reportOf, h.length_eq, downtime_perm (h.map (·.interval))]
  · simp only [reportOf, htotals]
  · exact (((Library.sortSlice_perm _ _).trans h).trans (Library.sortSlice_perm _ _).symm).map _

/-- The report measures unions of incident windows: the overall figures over all
incidents, those of a component over the incidents that target it, and it does
not depend on the order of the list. -/
theorem computeAvailability_exact (components : List Component) (incidents : List Incident)
    (now periodStart periodEnd : ℤ) (label : String)
    (hnodup : (components.map (·.id)).Nodup) (hnil : ∀ c ∈ components, c.id ≠ NilObjectID)
    (hperiod : periodStart < periodEnd) :
    ∃ r, computeAvailability components incidents now periodStart periodEnd label = .ok r ∧
      r.overall.downtimeMinutes =
        minutes (downtimeInstants now periodStart periodEnd incidents).card ∧
      r.overall.incidentCount = (incidents.filter (CountsIn now periodStart periodEnd)).length ∧
      (∀ c ∈ components,
        reportedDowntime r c.id = minutes (downtimeInstants now periodStart periodEnd
          (incidents.filter (Targets · c.id))).card ∧
        reportedCount r c.id = ((incidents.filter (Targets · c.id)).filter
          (CountsIn now periodStart periodEnd)).length) ∧
      ∀ incidents' : List Incident, incidents.Perm incidents' →
        ∃ r', computeAvailability components incidents' now periodStart periodEnd label = .ok r' ∧
          SameReport r r' := by
  have hok : ∀ is : List Incident, computeAvailability components is now periodStart periodEnd
      label = .ok (reportOf components (is.filterMap (entryOf now periodStart periodEnd))
        periodStart periodEnd label) := fun is => by
    simp [computeAvailability, hperiod]
  refine ⟨_, hok incidents, ?_, length_entries incidents, ?_, ?_⟩
  · simp only [reportOf, totalDuration_mergeIntervals, covered_entries]
  · intro c hc
    have hfind := find?_filterMap_service
      (f := serviceOf (minutes (periodEnd - periodStart)) (serviceTotals
        (incidents.filterMap (entryOf now periodStart periodEnd)) components))
      (fun d s hs => by
        obtain ⟨_, _, rfl⟩ := Option.map_eq_some_iff.mp hs
        rfl) hnodup hc
    simp only [reportedDowntime, reportedCount, reportOf, hfind,
      serviceOf_report hnodup hnil _ hc]
    split_ifs with hcount
    · rw [downtimeInstants_of_not_countsIn hcount]
      exact ⟨by simp [minutes], hcount.symm⟩
    · exact ⟨rfl, rfl⟩
  · intro incidents' h
    exact ⟨_, hok incidents', sameReport_of_perm_entries (h.filterMap _)⟩

theorem computeAvailability_exact_overlap :
    ∃ r, computeAvailability [⟨1, "API", "", .operational, 0, 0, 0⟩]
        [{ id := 7, title := "first", status := .resolved, impact := .major,
           affectedComponents := [1], createdAt := 10 * minute, resolvedAt := some (30 * minute) },
         { id := 8, title := "second", status := .monitoring, impact := .minor,
           affectedComponents := [1], affectedComponentTargets := [⟨1, []⟩],
           createdAt := 20 * minute }]
        (50 * minute) 0 (100 * minute) "today" = .ok r ∧
      reportedDowntime r 1 = minutes (downtimeInstants (50 * minute) 0 (100 * minute)
        [{ id := 7, title := "first", status := .resolved, impact := .major,
           affectedComponents := [1], createdAt := 10 * minute, resolvedAt := some (30 * minute) },
         { id := 8, title := "second", status := .monitoring, impact := .minor,
           affectedComponents := [1], affectedComponentTargets := [⟨1, []⟩],
           createdAt := 20 * minute }]).card := by
  obtain ⟨r, hr, -, -, hservices, -⟩ := computeAvailability_exact
    [⟨1, "API", "", .operational, 0, 0, 0⟩] _ (50 * minute) 0 (100 * minute) "today"
    (by decide) (by decide) (by decide)
  exact ⟨r, hr, (hservices _ (List.mem_singleton_self _)).1⟩

end Report
end Statora.Availability
