import Statora.Status.Display
import Statora.Status.ReadModels

/-!
# The summary against the component list

`buildSummary` counts derived statuses and `buildComponents` shows displayed
ones, so the two agree up to the escalated components: the summary counts those
under major outage and the list shows them in partial outage.
-/

namespace Statora.Status
open Library (IsWorst)

def snapshotAt (db : Database) (now : ℤ) : Snapshot :=
  ⟨listComponents db, listAllSubComponents db, listActiveIncidents db,
    listActiveMaintenanceAt db now⟩

theorem snapshotAt_keyed (db : Database) (now : ℤ) : (snapshotAt db now).Keyed where
  componentIDs :=
    ((Library.sortSlice_perm _ db.components.docs).map _).nodup_iff.mpr db.components.nodup
  subIDs := db.subcomponents.nodup

open Classical in
noncomputable def escalatedCount (S : Snapshot) : ℕ :=
  S.components.countP (fun c => Escalated S c.id)

def shownStatuses (order displayOrder : MapOrder) (clock : ℕ → ℤ) (db : Database) (now : ℤ) :
    List ComponentStatus :=
  (buildComponents order displayOrder clock db now).map (·.component.status)

/-- The summary against a list of shown statuses, some of which it counts one step up. -/
structure SummaryAgrees (summary : StatusSummary) (shown : List ComponentStatus)
    (escalated : ℕ) : Prop where
  majorOutage : (summary.componentCounts .majorOutage).getD 0 = shown.count .majorOutage + escalated
  partialOutage :
    (summary.componentCounts .partialOutage).getD 0 + escalated = shown.count .partialOutage
  otherStatus : ∀ x, x ≠ .majorOutage → x ≠ .partialOutage →
    (summary.componentCounts x).getD 0 = shown.count x
  overall : escalated = 0 → Worst {x | x = .operational ∨ x ∈ shown} summary.overallStatus
  overallEscalated : escalated ≠ 0 → summary.overallStatus = .majorOutage

section Counts

theorem countStatus_getD (counts : ComponentStatus → Option ℕ) (status x : ComponentStatus) :
    (countStatus counts status x).getD 0 = (counts x).getD 0 + if status = x then 1 else 0 := by
  by_cases h : status = x
  · subst h
    simp [countStatus]
  · rw [countStatus, Function.update_of_ne fun h' => h h'.symm, if_neg h, add_zero]

theorem foldl_countStatus (statuses : List ComponentStatus) (counts : ComponentStatus → Option ℕ)
    (x : ComponentStatus) :
    (statuses.foldl countStatus counts x).getD 0 = (counts x).getD 0 + statuses.count x := by
  induction statuses generalizing counts with
  | nil => simp
  | cons status statuses ih =>
    rw [List.foldl_cons, ih, countStatus_getD, List.count_cons, add_assoc]
    simp only [beq_iff_eq, add_comm]

theorem counts_of_statuses (statuses : List ComponentStatus) (x : ComponentStatus) :
    (statuses.foldl countStatus initialCounts x).getD 0 = statuses.count x := by
  have hzero : (initialCounts x).getD 0 = 0 := by
    cases x <;> rfl
  rw [foldl_countStatus, hzero, zero_add]

theorem worst_of_absent {statuses : List ComponentStatus} {status : ComponentStatus}
    (hmem : status = .operational ∨ status ∈ statuses) (hdefined : Defined status)
    (habsent : ∀ x, componentSeverityRank status < componentSeverityRank x → x ∉ statuses) :
    Worst {x | x = .operational ∨ x ∈ statuses} status := by
  refine ⟨hmem, fun x hx => ?_⟩
  rcases hx with rfl | hx
  · exact (defined_iff_rank status).mp hdefined
  · exact not_lt.mp fun h => habsent x h hx

theorem overallOf_isWorst (statuses : List ComponentStatus) :
    Worst {x | x = .operational ∨ x ∈ statuses}
      (overallOf (statuses.foldl countStatus initialCounts)) := by
  unfold overallOf
  simp only [counts_of_statuses, gt_iff_lt, List.count_pos_iff]
  split_ifs with h5 h4 h3 h2
  · exact worst_of_absent (Or.inr h5) (by simp [Defined])
      fun x hx => by cases x <;> simp [componentSeverityRank] at hx
  · exact worst_of_absent (Or.inr h4) (by simp [Defined])
      fun x hx => by cases x <;> simp_all [componentSeverityRank]
  · exact worst_of_absent (Or.inr h3) (by simp [Defined])
      fun x hx => by cases x <;> simp_all [componentSeverityRank]
  · exact worst_of_absent (Or.inr h2) (by simp [Defined])
      fun x hx => by cases x <;> simp_all [componentSeverityRank]
  · exact worst_of_absent (Or.inl rfl) (by simp [Defined])
      fun x hx => by cases x <;> simp_all [componentSeverityRank]

theorem count_escalate {α : Type} (l : List α) (p : α → Bool) (f g : α → ComponentStatus)
    (hp : ∀ a ∈ l, p a = true → f a = .majorOutage ∧ g a = .partialOutage)
    (hnp : ∀ a ∈ l, p a = false → f a = g a) :
    (l.map f).count .majorOutage = (l.map g).count .majorOutage + l.countP p ∧
      (l.map f).count .partialOutage + l.countP p = (l.map g).count .partialOutage ∧
      ∀ x, x ≠ .majorOutage → x ≠ .partialOutage → (l.map f).count x = (l.map g).count x := by
  induction l with
  | nil => simp
  | cons a l ih =>
    obtain ⟨hmajor, hpartial, hother⟩ := ih (fun b hb => hp b (List.mem_cons_of_mem _ hb))
      (fun b hb => hnp b (List.mem_cons_of_mem _ hb))
    cases hpa : p a with
    | true =>
      obtain ⟨hf, hg⟩ := hp a List.mem_cons_self hpa
      simp only [List.map_cons, List.count_cons, List.countP_cons, hf, hg, hpa]
      refine ⟨by simp; omega, by simp; omega, fun x hx hx' => ?_⟩
      simp [hx.symm, hx'.symm, hother x hx hx']
    | false =>
      have hfg := hnp a List.mem_cons_self hpa
      simp only [List.map_cons, List.count_cons, List.countP_cons, hfg, hpa]
      refine ⟨by simp; omega, by simp; omega, fun x hx hx' => ?_⟩
      rw [hother x hx hx']

end Counts

section Agreement
variable (order order' displayOrder : MapOrder) (clock : ℕ → ℤ) (db : Database) (now : ℤ)

theorem buildSummary_counts : (buildSummary order db now).componentCounts =
    ((snapshotAt db now).components.map fun c =>
      ((snapshotAt db now).derive order).componentStatus.read c.id).foldl countStatus
        initialCounts := by
  rw [List.foldl_map]
  rfl

theorem buildSummary_overall : (buildSummary order db now).overallStatus =
    overallOf (buildSummary order db now).componentCounts := rfl

theorem shownStatuses_eq : shownStatuses order displayOrder clock db now =
    (snapshotAt db now).components.map fun c =>
      ((snapshotAt db now).display order displayOrder c.id).getD c.status := by
  simp only [shownStatuses, buildComponents]
  refine List.ext_getElem (by simp [snapshotAt]) fun k hk hk' => ?_
  simp only [List.getElem_map, List.getElem_mapIdx]
  rfl

variable {db now} in
theorem read_eq_shown {c : Component} (hc : c ∈ (snapshotAt db now).components)
    (h : ¬ Escalated (snapshotAt db now) c.id) :
    ((snapshotAt db now).derive order).componentStatus.read c.id =
      ((snapshotAt db now).display order' displayOrder c.id).getD c.status := by
  have hkeyed := snapshotAt_keyed db now
  have hderived := derive_componentStatus_of_mem order' hkeyed hc
  rw [display_of_not_escalated order' displayOrder hkeyed hc h, derive_order order order',
    StatusMap.read_eq hderived, hderived]
  rfl

theorem buildSummary_buildComponents (order order' displayOrder : MapOrder) (clock : ℕ → ℤ)
    (db : Database) (now : ℤ) :
    SummaryAgrees (buildSummary order db now) (shownStatuses order' displayOrder clock db now)
      (escalatedCount (snapshotAt db now)) := by
  classical
  have hkeyed := snapshotAt_keyed db now
  obtain ⟨hmajor, hpartial, hother⟩ := count_escalate (snapshotAt db now).components
    (fun c => Escalated (snapshotAt db now) c.id)
    (fun c => ((snapshotAt db now).derive order).componentStatus.read c.id)
    (fun c => ((snapshotAt db now).display order' displayOrder c.id).getD c.status)
    (fun c hc h => by
      obtain ⟨hderived, hshown⟩ := display_of_escalated order' displayOrder hkeyed hc
        (of_decide_eq_true h)
      rw [derive_order order order', StatusMap.read_eq hderived, hshown]
      exact ⟨rfl, rfl⟩)
    (fun c hc h => read_eq_shown order order' displayOrder hc (of_decide_eq_false h))
  rw [← shownStatuses_eq order' displayOrder clock] at hmajor hpartial hother
  have hcounts : ∀ x, ((buildSummary order db now).componentCounts x).getD 0 = (List.map (fun c =>
      ((snapshotAt db now).derive order).componentStatus.read c.id)
        (snapshotAt db now).components).count x := fun x => by
    rw [← counts_of_statuses, ← buildSummary_counts]
  refine ⟨(hcounts _).trans hmajor, ?_, fun x hx hx' => (hcounts x).trans (hother x hx hx'),
    fun hzero => ?_, fun hpos => ?_⟩
  · rw [hcounts]
    exact hpartial
  · have hsame : ((snapshotAt db now).components.map fun c =>
        ((snapshotAt db now).derive order).componentStatus.read c.id) =
          shownStatuses order' displayOrder clock db now := by
      rw [shownStatuses_eq]
      refine List.map_congr_left fun c hc =>
        read_eq_shown order order' displayOrder hc fun h => ?_
      exact absurd hzero (List.countP_pos_iff.mpr ⟨c, hc, decide_eq_true h⟩).ne'
    rw [buildSummary_overall, buildSummary_counts, hsame]
    exact overallOf_isWorst _
  · have hcount : ((buildSummary order db now).componentCounts .majorOutage).getD 0 > 0 := by
      rw [hcounts, hmajor]
      exact Nat.add_pos_right _ (Nat.pos_of_ne_zero hpos)
    rw [buildSummary_overall, overallOf, if_pos hcount]

end Agreement

def singleSubDatabase : Database where
  components := ⟨[{ id := 1, name := "API", status := .operational }], by decide⟩
  subcomponents :=
    ⟨[{ id := 2, componentID := 1, name := "REST", status := .operational }], by decide⟩
  incidents :=
    ⟨[{ id := 3, title := "down", status := .investigating, impact := .critical,
        affectedComponentTargets := [⟨1, [2]⟩] }], by decide⟩

theorem singleSub_disagrees :
    ((buildSummary .insertion singleSubDatabase 0).componentCounts .majorOutage).getD 0 = 1 ∧
      (buildSummary .insertion singleSubDatabase 0).overallStatus = .majorOutage ∧
      shownStatuses .insertion .insertion (fun _ => 0) singleSubDatabase 0 = [.partialOutage] := by
  decide

end Statora.Status
