import Statora.Incidents.Lifecycle
import Statora.Worker.TargetStatus

/-!
# The recovery of an outage

Between the check that opens an outage and the check that closes it, the service
and the worker may do anything. The recovery looks for an unresolved incident
that names the component or the sub-component of the outage, and restores the
target only if it finds one. The automatic incident of a sub-component names the
component above it, so that the recovery does not find it.
-/

namespace Statora.Incidents
open Library (Fallible Collection run run_cons run_append)
open Worker (Check Target target activeOutage recoveredIncident)

theorem step_outages (db : Database) (e : Event) :
    (∃ c, e = .check c) ∨ (step db e).outages = db.outages := by
  refine (step_elsewhere db e).imp_right fun h => ?_
  have hsame := congrArg Database.outages h
  exact hsame

/-- The outage stays in the store, unchanged while it is active, and then no other
outage of its monitor is active. -/
structure Pending (opened : Outage) (outages : Collection Outage) : Prop where
  stored : outages.contains opened.id = true
  same : ∀ outage ∈ outages.docs, outage.id = opened.id → outage.status = .active →
    outage = opened
  sole : opened ∈ outages.docs → ∀ outage ∈ outages.docs,
    outage.monitorID = opened.monitorID → outage.status = .active → outage = opened

theorem pending_opened {opening : Check} {db : Database} (hopens : opening.opens db = true)
    (hfresh : db.outages.contains opening.outage.id = false) :
    Pending opening.outage (Worker.step db opening).outages := by
  obtain ⟨hdown, hopen⟩ := (Bool.and_eq_true _ _ ▸ hopens : _ ∧ _)
  obtain ⟨_, hnone⟩ := (Bool.and_eq_true _ _ ▸ hopen : _ ∧ _)
  have hother := Worker.activeOutage_eq_none.mp (Option.isNone_iff_eq_none.mp hnone)
  rw [Worker.step_outages, if_pos hdown, if_pos hopen]
  have hdocs := Collection.insertOne_docs_of_fresh hfresh
  have hmem : ∀ {outage}, outage ∈ (db.outages.insertOne opening.outage).docs →
      outage ∈ db.outages.docs ∨ outage = opening.outage := by
    simp [hdocs]
  have hnew : opening.outage ∈ (db.outages.insertOne opening.outage).docs := by simp [hdocs]
  refine ⟨decide_eq_true (List.mem_map_of_mem hnew), ?_, ?_⟩
  · intro outage hout hid _
    exact Collection.eq_of_key_eq hout hnew hid
  · intro _ outage hout hmonitor hactive
    rcases hmem hout with hold | hsame
    · exact absurd hactive (hother outage hold hmonitor)
    · exact hsame

theorem Pending.insertOne {opened new : Outage} {outages : Collection Outage}
    (h : Pending opened outages) (hactive : opened.status = .active)
    (hnone : ∀ outage ∈ outages.docs, outage.monitorID = new.monitorID →
      outage.status ≠ .active) : Pending opened (outages.insertOne new) := by
  cases hfresh : outages.contains new.id with
  | true =>
    rw [Collection.insertOne_of_contains hfresh]
    exact h
  | false =>
    have hne : new.id ≠ opened.id := by
      intro heq
      rw [heq, h.stored] at hfresh
      exact absurd hfresh (by simp)
    have hmem : ∀ {outage}, outage ∈ (outages.insertOne new).docs →
        outage ∈ outages.docs ∨ outage = new := by
      simp [Collection.insertOne_docs_of_fresh hfresh]
    refine ⟨Collection.contains_insertOne h.stored, ?_, ?_⟩
    · intro outage hout hid hstatus
      rcases hmem hout with hold | rfl
      · exact h.same outage hold hid hstatus
      · exact absurd hid hne
    · intro hopened outage hout hmonitor hstatus
      have hold : opened ∈ outages.docs := (hmem hopened).resolve_right fun heq => hne (heq ▸ rfl)
      rcases hmem hout with hmem | rfl
      · exact h.sole hold outage hmem hmonitor hstatus
      · exact absurd hactive (hnone opened hold hmonitor.symm)

theorem Pending.endOutage {opened : Outage} {db : Database} (h : Pending opened db.outages)
    (hactive : opened.status = .active) (outage : Outage) (endTime : ℤ) :
    Pending opened (Worker.endOutage outage endTime db).outages := by
  have hmem : ∀ {stored}, stored ∈ (Worker.endOutage outage endTime db).outages.docs →
      stored.status = .active → stored ∈ db.outages.docs := by
    intro stored hstored hstatus
    unfold Worker.endOutage at hstored
    rw [Collection.updateByKey_docs] at hstored
    obtain ⟨before, hbefore, rfl⟩ := List.mem_map.mp hstored
    by_cases hkey : Library.Keyed.key before = outage.id
    · rw [if_pos hkey] at hstatus
      cases hstatus
    · rwa [if_neg hkey]
  have hkept : (Worker.endOutage outage endTime db).outages.contains opened.id = true := by
    unfold Worker.endOutage
    rw [Collection.contains_updateByKey]
    exact h.stored
  refine ⟨hkept, ?_, ?_⟩
  · intro stored hstored hid hstatus
    exact h.same stored (hmem hstored hstatus) hid hstatus
  · intro hopened stored hstored hmonitor hstatus
    exact h.sole (hmem hopened hactive) stored (hmem hstored hstatus) hmonitor hstatus

theorem Pending.check {opened : Outage} {db : Database} (h : Pending opened db.outages)
    (hactive : opened.status = .active) (c : Check) :
    Pending opened (Worker.step db c).outages := by
  rw [Worker.step_outages]
  split_ifs with hdown hopen
  · obtain ⟨_, hnone⟩ := (Bool.and_eq_true _ _ ▸ hopen : _ ∧ _)
    exact h.insertOne hactive (Worker.activeOutage_eq_none.mp (Option.isNone_iff_eq_none.mp hnone))
  · exact h
  · cases activeOutage c.mon.id db with
    | none => exact h
    | some outage => exact h.endOutage hactive outage _

theorem Pending.run {opened : Outage} {db : Database} (h : Pending opened db.outages)
    (hactive : opened.status = .active) (es : List Event) :
    Pending opened (run step db es).outages := by
  induction es generalizing db with
  | nil => exact h
  | cons e es ih =>
    refine ih ?_
    rcases step_outages db e with ⟨c, rfl⟩ | hsame
    · exact h.check hactive c
    · rwa [hsame]

theorem Pending.activeOutage_eq {opened : Outage} {db : Database} (h : Pending opened db.outages)
    {outage : Outage} (hmem : outage ∈ db.outages.docs) (hid : outage.id = opened.id)
    (hstatus : outage.status = .active) : activeOutage opened.monitorID db = some opened := by
  obtain rfl := h.same outage hmem hid hstatus
  cases hfound : activeOutage outage.monitorID db with
  | none => exact absurd hstatus (Worker.activeOutage_eq_none.mp hfound outage hmem rfl)
  | some found =>
    obtain ⟨hstored, hmonitor, hactive⟩ := Worker.activeOutage_eq_some hfound
    exact congrArg some (h.sole hmem found hstored hmonitor hactive)

def Recovered (T : Target) (incidentID : ObjectID) (db : Database) : Prop :=
  (∀ incident ∈ db.incidents.docs, incident.id = incidentID → incident.status = .resolved) ∧
    T.storedStatus db ≠ some .majorOutage

/-- The incident is resolved before the check or the one that its recovery finds, and
the recovery finds some incident unless the target needs no restoring. -/
def FindsIncident (T : Target) (incidentID : ObjectID) (outage : Outage) (recovery : Check)
    (db : Database) : Prop :=
  (∀ incident ∈ db.incidents.docs, incident.id = incidentID →
    incident.status = .resolved ∨ recoveredIncident outage db = some incident) ∧
  ((recoveredIncident outage db).isSome = true ∨ recovery.warns = true ∨
    T.storedStatus db ≠ some .majorOutage)

theorem resolved_iff (incidentID : ObjectID) {recovery : Check} {outage : Outage} {db : Database}
    (hcloses : recovery.closes db = some outage) (hopens : recovery.opens db = false) :
    (∀ incident ∈ (Worker.step db recovery).incidents.docs, incident.id = incidentID →
        incident.status = .resolved) ↔
      ∀ incident ∈ db.incidents.docs, incident.id = incidentID →
        incident.status = .resolved ∨ recoveredIncident outage db = some incident := by
  rw [Worker.step_incidents_eq, hopens, if_neg (by simp)]
  unfold Check.resolves
  rw [hcloses, Option.bind_some]
  cases hfound : recoveredIncident outage db with
  | none => simp
  | some found =>
    have hstored : found ∈ db.incidents.docs := List.mem_of_find?_eq_some hfound
    dsimp only [Option.elim, Worker.resolveIncident]
    rw [Collection.updateByKey_docs]
    constructor
    · intro h incident hmem hid
      by_cases hkey : incident.id = found.id
      · exact Or.inr (congrArg some (Collection.eq_of_key_eq hstored hmem hkey.symm))
      · exact Or.inl (h incident (List.mem_map.mpr ⟨incident, hmem, if_neg hkey⟩) hid)
    · intro h after hafter hid
      obtain ⟨incident, hmem, rfl⟩ := List.mem_map.mp hafter
      by_cases hkey : incident.id = found.id
      · rw [if_pos (show Library.Keyed.key incident = found.id from hkey)]
        rfl
      · rw [if_neg (show ¬ Library.Keyed.key incident = found.id from hkey)] at hid ⊢
        refine (h incident hmem hid).resolve_right fun heq => hkey ?_
        rw [Option.some.inj heq]

theorem not_major_iff {T : Target} {recovery : Check} {outage : Outage} {db : Database}
    (htarget : target recovery.mon = some T) (hof : T.IsOf outage)
    (hcloses : recovery.closes db = some outage) (hopens : recovery.opens db = false) :
    T.storedStatus (Worker.step db recovery) ≠ some .majorOutage ↔
      (recoveredIncident outage db).isSome = true ∨ recovery.warns = true ∨
        T.storedStatus db ≠ some .majorOutage := by
  have hrecovers : recovery.recovers T db = (recoveredIncident outage db).isSome := by
    simp [Check.recovers, hcloses, hof]
  rw [Worker.storedStatus_step htarget, hopens, hrecovers]
  cases T.storedStatus db with
  | none => simp
  | some status =>
    cases (recoveredIncident outage db).isSome with
    | true => simp
    | false =>
      cases hwarns : recovery.warns with
      | true => simp [Check.warnedStatus, hwarns]
      | false =>
        by_cases hdegraded : status = .degradedPerf <;>
          simp [Check.warnedStatus, hwarns, Worker.restored, hdegraded]
        split_ifs <;> simp

theorem isOf_outage {c : Check} {T : Target} (h : target c.mon = some T) : T.IsOf c.outage := by
  rcases Worker.target_ne_zero h with ⟨rfl, _⟩ | ⟨rfl, _⟩ <;> rfl

theorem closes_of_active {recovery : Check} {outage : Outage} {db : Database}
    (hup : recovery.isDown = false) (hactive : activeOutage recovery.mon.id db = some outage) :
    recovery.closes db = some outage ∧ recovery.opens db = false := by
  simp [Check.closes, Check.opens, hup, hactive]

theorem recovered_iff {T : Target} {opening recovery : Check} (db : Database) (es : List Event)
    (htarget : target opening.mon = some T) (hopens : opening.opens db = true)
    (hfresh : db.outages.contains opening.outage.id = false)
    (hmonitor : recovery.mon.id = opening.mon.id) (hsame : target recovery.mon = some T)
    (hup : recovery.isDown = false)
    (hactive : ∃ outage ∈ (run step db (.check opening :: es)).outages.docs,
      outage.id = opening.outage.id ∧ outage.status = .active) :
    Recovered T (opening.rt.outage.newID 1)
        (run step db (.check opening :: es ++ [.check recovery])) ↔
      FindsIncident T (opening.rt.outage.newID 1) opening.outage recovery
        (run step db (.check opening :: es)) := by
  obtain ⟨outage, hmem, hid, hstatus⟩ := hactive
  have hpending : Pending opening.outage (run step db (.check opening :: es)).outages :=
    (pending_opened hopens hfresh).run rfl es
  have hfound := hpending.activeOutage_eq hmem hid hstatus
  obtain ⟨hcloses, hnot⟩ := closes_of_active hup
    ((congrArg (activeOutage · _) hmonitor).trans hfound)
  rw [run_append]
  exact and_congr (resolved_iff _ hcloses hnot)
    (not_major_iff hsame (isOf_outage htarget) hcloses hnot)

def failingTwice (mon : Monitor) : Database :=
  run Worker.step
    { components := Collection.empty.insertOne
        { id := 7#96, name := "Gateway", status := .operational }
      subcomponents := Collection.empty.insertOne
        { id := 9#96, componentID := 7#96, name := "Port", status := .operational } }
    (Worker.portChecks mon [false, false])

def failedCheck (mon : Monitor) : Check := ⟨mon, { tcp := false }, Worker.numberedRuntime 2⟩

def answeredCheck (mon : Monitor) : Check := ⟨mon, {}, Worker.numberedRuntime 4⟩

def progress : Event :=
  .addUpdate ((failedCheck Worker.portMonitor).rt.outage.newID 1) "Restarting" .monitoring
    (Worker.numberedRuntime 3).outage

theorem recovered_iff_progress :
    Recovered (.component 7#96) ((failedCheck Worker.portMonitor).rt.outage.newID 1)
        (run step (failingTwice Worker.portMonitor) (.check (failedCheck Worker.portMonitor) ::
          [progress] ++ [.check (answeredCheck Worker.portMonitor)])) ↔
      FindsIncident (.component 7#96) ((failedCheck Worker.portMonitor).rt.outage.newID 1)
        (failedCheck Worker.portMonitor).outage (answeredCheck Worker.portMonitor)
        (run step (failingTwice Worker.portMonitor)
          (.check (failedCheck Worker.portMonitor) :: [progress])) :=
  recovered_iff (failingTwice Worker.portMonitor) [progress] (by decide) (by decide) (by decide)
    rfl (by decide) (by decide) (by decide)

def subComponentMonitor : Monitor :=
  { id := 1#96, name := "port", type := .tcp, subComponentID := 9#96 }

theorem subComponent_not_recovered :
    target subComponentMonitor = some (.subComponent 9#96) ∧
    (failedCheck subComponentMonitor).opens (failingTwice subComponentMonitor) = true ∧
    (answeredCheck subComponentMonitor).isDown = false ∧
    (∃ outage ∈ (run step (failingTwice subComponentMonitor)
        [.check (failedCheck subComponentMonitor)]).outages.docs,
      outage.id = (failedCheck subComponentMonitor).outage.id ∧ outage.status = .active) ∧
    (∀ outage ∈ (run step (failingTwice subComponentMonitor)
        [.check (failedCheck subComponentMonitor)]).outages.docs,
      outage.monitorID = subComponentMonitor.id) ∧
    ¬ Recovered (.subComponent 9#96) ((failedCheck subComponentMonitor).rt.outage.newID 1)
      (run step (failingTwice subComponentMonitor) [.check (failedCheck subComponentMonitor),
        .check (answeredCheck subComponentMonitor)]) := by
  refine ⟨by decide, by decide, by decide, by decide, by decide, fun h => ?_⟩
  exact absurd h.2 (by decide)

end Statora.Incidents
