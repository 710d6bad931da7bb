import Statora.Library.EventRun
import Statora.Worker.Steps

/-!
# Which incidents a recovery changes

The recovery branch of `detectOutage` looks for an unresolved incident by the
ids of the outage. The store does not say which incident the worker opened, so
the results speak of any set of incidents as the ones it opened for the outage.
-/

namespace Statora.Worker
open Library (Collection run)

def LeavesOthers (opened : ObjectID → Prop) (mon : Monitor) (rt : Runtime) (db : Database) :
    Prop :=
  (∀ incident ∈ db.incidents.docs, ¬ opened incident.id →
    incident ∈ ((detectOutage mon .up rt).run db).2.incidents.docs) ∧
  ((detectOutage mon .up rt).run db).2.incidentUpdates = db.incidentUpdates

/-- The first unresolved incident that names the component or the sub-component of the
outage, if there is one, is among those in `opened`. -/
def FindsOpened (opened : ObjectID → Prop) (mon : Monitor) (db : Database) : Prop :=
  ∀ outage incident, activeOutage mon.id db = some outage →
    recoveredIncident outage db = some incident → opened incident.id

theorem outageClosed_incidentUpdates (outage : Outage) (rt : Runtime) (db : Database) :
    (outageClosed outage rt db).incidentUpdates = db.incidentUpdates := by
  simp only [outageClosed, incidentRecovered]
  cases recoveredIncident outage db with
  | none => rfl
  | some incident =>
    dsimp only [Option.elim]
    split_ifs <;> rfl

theorem mem_resolveIncident {incident found : Incident} {db : Database} (now : ℤ)
    (hfound : found ∈ db.incidents.docs) (hopen : found.status ≠ .resolved)
    (hmem : incident ∈ db.incidents.docs) :
    incident ∈ (resolveIncident found now db).incidents.docs ↔ incident.id ≠ found.id := by
  simp only [resolveIncident]
  rw [Collection.updateByKey_docs]
  constructor
  · rintro hafter hid
    obtain rfl := Collection.eq_of_key_eq hmem hfound hid
    obtain ⟨before, hbefore, hchanged⟩ := List.mem_map.mp hafter
    by_cases hkey : Library.Keyed.key before = incident.id
    · rw [if_pos hkey] at hchanged
      exact hopen (hchanged ▸ rfl)
    · rw [if_neg hkey] at hchanged
      exact hkey (hchanged ▸ rfl)
  · intro hid
    exact List.mem_map.mpr ⟨incident, hmem, if_neg hid⟩

theorem leavesOthers_iff (opened : ObjectID → Prop) (mon : Monitor) (rt : Runtime)
    (db : Database) : LeavesOthers opened mon rt db ↔ FindsOpened opened mon db := by
  have hrun : (detectOutage mon .up rt).run db = (closeOutage mon.id rt).run db := rfl
  rw [LeavesOthers, FindsOpened, hrun, run_closeOutage]
  cases hactive : activeOutage mon.id db with
  | none => exact iff_of_true ⟨fun _ hmem _ => hmem, rfl⟩ fun _ _ h => nomatch h
  | some outage =>
    dsimp only [Option.elim]
    rw [outageClosed_incidentUpdates, outageClosed_incidents]
    cases hfound : recoveredIncident outage db with
    | none =>
      refine iff_of_true ⟨fun _ hmem _ => hmem, rfl⟩ ?_
      rintro closed incident ⟨⟩ hincident
      rw [hfound] at hincident
      cases hincident
    | some found =>
      obtain ⟨hmem, hopen⟩ := recoveredIncident_eq_some hfound
      dsimp only [Option.elim]
      constructor
      · rintro ⟨hkept, -⟩ closed incident hclosed hincident
        obtain rfl := Option.some.inj hclosed
        obtain rfl := Option.some.inj (hfound.symm.trans hincident)
        by_contra hother
        exact (mem_resolveIncident (rt.clock 1) hmem hopen hmem).mp
          (hkept found hmem hother) rfl
      · intro hopened
        refine ⟨fun incident hstored hother => ?_, rfl⟩
        rw [mem_resolveIncident (rt.clock 1) hmem hopen hstored]
        intro hid
        exact hother (hid ▸ hopened outage found rfl hfound)

def reportedOutage : Database :=
  run step
    { components := Collection.empty.insertOne
        { id := 7#96, name := "Gateway", status := .operational }
      incidents := Collection.empty.insertOne
        { id := 20#96, title := "Scheduled failover", status := .monitoring, impact := .minor,
          creatorID := some 5#96, creatorUsername := "ada", affectedComponents := [7#96] } }
    (portChecks portMonitor [false, false, false])

theorem recovery_resolves_reported :
    reportedOutage.incidents.docs.map (·.id) = [20#96] ∧
      (activeOutage portMonitor.id reportedOutage).isSome = true ∧
      ¬ LeavesOthers (fun _ => False) portMonitor (numberedRuntime 4).outage reportedOutage := by
  refine ⟨by decide, by decide, fun h => ?_⟩
  have hresolved : (reportedOutage.incidents.docs.all fun incident =>
      incident.status = .monitoring) = true ∧
      (((detectOutage portMonitor .up (numberedRuntime 4).outage).run
        reportedOutage).2.incidents.docs.all fun incident =>
          incident.status = .resolved) = true := by
    decide
  have hstored : ∃ incident, incident ∈ reportedOutage.incidents.docs :=
    List.exists_mem_of_length_pos (by decide)
  obtain ⟨incident, hmem⟩ := hstored
  have hbefore := List.all_eq_true.mp hresolved.1 incident hmem
  have hafter := List.all_eq_true.mp hresolved.2 incident (h.1 incident hmem not_false)
  rw [decide_eq_true_eq] at hbefore hafter
  exact absurd (hbefore.symm.trans hafter) (by decide)

end Statora.Worker
