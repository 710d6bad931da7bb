import Statora.Availability.Exactness
import Statora.Incidents.Lifecycle
import Statora.Status.Repository

/-!
# The query behind the availability report

`listIncidentsOverlappingPeriod` is a filter of the store, and states once more
when an incident overlaps the period. An incident that it leaves out has no
entry in the report, so that the report over the query is the one over the
whole collection.
-/

namespace Statora.Availability
open Incidents (TimedWhenResolved Consistent)
open Status (listComponents listIncidentsOverlappingPeriod)

variable {now periodStart periodEnd : ℤ}

/-- The filter document of the query. -/
def overlapsPeriod (start stop : ℤ) (incident : Incident) : Bool :=
  decide (incident.createdAt < stop) &&
    (incident.resolvedAt.any (· > start) || incident.status ≠ .resolved)

theorem listIncidentsOverlappingPeriod_perm (db : Database) (start stop : ℤ) :
    (listIncidentsOverlappingPeriod db start stop).Perm
      (db.incidents.docs.filter (overlapsPeriod start stop)) :=
  Library.sortSlice_perm _ _

theorem overlapsPeriod_of_countsIn {incident : Incident} (htimed : TimedWhenResolved incident)
    (hcounts : CountsIn now periodStart periodEnd incident) :
    overlapsPeriod periodStart periodEnd incident = true := by
  have hlt := countsIn_iff.mp hcounts
  have hcreated : incident.createdAt < periodEnd := by omega
  cases hresolved : incident.resolvedAt with
  | none =>
    have hopen : incident.status ≠ .resolved := by
      intro hstatus
      have htime := htimed.mp hstatus
      rw [hresolved] at htime
      exact absurd htime (by decide)
    simp [overlapsPeriod, hcreated, hopen]
  | some resolvedAt =>
    rw [hresolved, Option.getD_some] at hlt
    have hlate : periodStart < resolvedAt := by omega
    simp [overlapsPeriod, hcreated, hresolved, hlate]

theorem entryOf_of_not_overlapsPeriod {incident : Incident} (htimed : TimedWhenResolved incident)
    (hfilter : ¬ overlapsPeriod periodStart periodEnd incident = true) :
    entryOf now periodStart periodEnd incident = none := by
  rw [entryOf_eq, if_neg]
  intro hcounts
  exact hfilter (overlapsPeriod_of_countsIn htimed hcounts)

theorem entries_filter_overlapsPeriod {incidents : List Incident}
    (htimed : ∀ incident ∈ incidents, TimedWhenResolved incident) :
    (incidents.filter (overlapsPeriod periodStart periodEnd)).filterMap
        (entryOf now periodStart periodEnd) =
      incidents.filterMap (entryOf now periodStart periodEnd) := by
  induction incidents with
  | nil => rfl
  | cons incident incidents ih =>
    have hrest := ih fun other hother => htimed other (List.mem_cons_of_mem incident hother)
    by_cases hfilter : overlapsPeriod periodStart periodEnd incident = true
    · rw [List.filter_cons_of_pos hfilter, List.filterMap_cons, List.filterMap_cons, hrest]
    · have hnone : entryOf now periodStart periodEnd incident = none :=
        entryOf_of_not_overlapsPeriod (htimed incident List.mem_cons_self) hfilter
      rw [List.filter_cons_of_neg hfilter, List.filterMap_cons_none hnone, hrest]

theorem entries_listIncidentsOverlappingPeriod {db : Database} (hdb : Consistent db) :
    ((listIncidentsOverlappingPeriod db periodStart periodEnd).filterMap
        (entryOf now periodStart periodEnd)).Perm
      (db.incidents.docs.filterMap (entryOf now periodStart periodEnd)) := by
  rw [← entries_filter_overlapsPeriod hdb]
  exact (listIncidentsOverlappingPeriod_perm db periodStart periodEnd).filterMap _

/-- The report over the incidents that the query returns is the report over all of them. -/
theorem computeAvailability_prefilter (db : Database) (hdb : Consistent db)
    (now periodStart periodEnd : ℤ) (label : String) (hperiod : periodStart < periodEnd) :
    ∃ r r', computeAvailability (listComponents db)
          (listIncidentsOverlappingPeriod db periodStart periodEnd) now periodStart periodEnd
          label = .ok r ∧
      computeAvailability (listComponents db) db.incidents.docs now periodStart periodEnd
          label = .ok r' ∧
      SameReport r r' := by
  have hok : ∀ incidents : List Incident, computeAvailability (listComponents db) incidents now
      periodStart periodEnd label = .ok (reportOf (listComponents db)
        (incidents.filterMap (entryOf now periodStart periodEnd)) periodStart periodEnd
        label) := fun incidents => by
    simp [computeAvailability, hperiod]
  exact ⟨_, _, hok _, hok _,
    sameReport_of_perm_entries (entries_listIncidentsOverlappingPeriod hdb)⟩

def touchingPeriod : Database :=
  { components := Library.Collection.empty.insertOne ⟨1, "API", "", .operational, 0, 0, 0⟩
    incidents := ((Library.Collection.empty.insertOne
      { id := 7, title := "before", status := .resolved, impact := .major,
        affectedComponents := [1], createdAt := 0, resolvedAt := some (10 * minute) }).insertOne
      { id := 8, title := "open", status := .monitoring, impact := .minor,
        affectedComponents := [1], createdAt := 20 * minute }).insertOne
      { id := 9, title := "after", status := .investigating, impact := .minor,
        affectedComponents := [1], createdAt := 40 * minute } }

theorem computeAvailability_prefilter_touchingPeriod :
    ∃ r r', computeAvailability (listComponents touchingPeriod)
          (listIncidentsOverlappingPeriod touchingPeriod (10 * minute) (40 * minute))
          (50 * minute) (10 * minute) (40 * minute) "half an hour" = .ok r ∧
      computeAvailability (listComponents touchingPeriod) touchingPeriod.incidents.docs
          (50 * minute) (10 * minute) (40 * minute) "half an hour" = .ok r' ∧
      SameReport r r' := by
  have hdb : Consistent touchingPeriod := by
    simp only [Consistent, TimedWhenResolved]
    decide
  exact computeAvailability_prefilter touchingPeriod hdb (50 * minute) (10 * minute)
    (40 * minute) "half an hour" (by decide)

end Statora.Availability
