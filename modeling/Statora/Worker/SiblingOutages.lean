import Statora.Library.EventRun
import Statora.Worker.TargetStatus

/-!
# Monitors that share a target

While one of several monitors of a target has an active outage, the checks of
the others keep the target in major outage and leave its incident open, unless
a check carries an expiry warning or closes an outage of its own: neither of
these asks for the outages of the siblings.
-/

namespace Statora.Worker
open Library (Collection AllSteps allSteps_congr allSteps_append run)

def Target.severity (db : Database) (T : Target) : ℕ :=
  (T.storedStatus db).elim 0 componentSeverityRank

def SiblingActive (monitorIDs : List ObjectID) (db : Database) (c : Check) : Prop :=
  ∃ outage ∈ db.outages.docs, outage.status = .active ∧ outage.monitorID ∈ monitorIDs ∧
    outage.monitorID ≠ c.mon.id

/-- The worker takes an unresolved incident that names the target's component for
the incident of the target. -/
def Affects (T : Target) (db : Database) (incident : Incident) : Prop :=
  ∃ id, T.componentID db = some id ∧ id ∈ incident.affectedComponents

def KeepsSeverity (T : Target) (db : Database) (c : Check) : Prop :=
  componentSeverityRank .majorOutage ≤ T.severity db →
    componentSeverityRank .majorOutage ≤ T.severity (step db c)

def KeepsIncidents (T : Target) (db : Database) (c : Check) : Prop :=
  ∀ incident ∈ db.incidents.docs, Affects T db incident → incident.status ≠ .resolved →
    ∀ after ∈ (step db c).incidents.docs, after.id = incident.id → after.status ≠ .resolved

def RespectsSiblings (monitorIDs : List ObjectID) (T : Target) (db : Database) (c : Check) :
    Prop :=
  SiblingActive monitorIDs db c → KeepsSeverity T db c ∧ KeepsIncidents T db c

/-- The check neither warns nor recovers the target while it is in major outage,
unless it opens an outage itself, and resolves no incident of the target. -/
def LeavesSiblings (monitorIDs : List ObjectID) (T : Target) (db : Database) (c : Check) :
    Prop :=
  SiblingActive monitorIDs db c →
    (T.storedStatus db = some .majorOutage →
      c.opens db = true ∨ (c.warns = false ∧ c.recovers T db = false)) ∧
    ∀ incident, c.resolves db = some incident → ¬ Affects T db incident

variable {T : Target} {db : Database} {c : Check}

theorem severity_major : componentSeverityRank .majorOutage ≤ T.severity db ↔
    T.storedStatus db = some .majorOutage := by
  unfold Target.severity
  cases T.storedStatus db with
  | none => simp [componentSeverityRank]
  | some status =>
    have hle := rank_le_five status
    rw [Option.elim, Option.some.injEq, ← rank_eq_five]
    constructor
    · intro h
      exact le_antisymm hle h
    · intro h
      exact h.ge

theorem keepsSeverity_iff (h : target c.mon = some T) :
    KeepsSeverity T db c ↔ (T.storedStatus db = some .majorOutage →
      c.opens db = true ∨ (c.warns = false ∧ c.recovers T db = false)) := by
  unfold KeepsSeverity
  rw [severity_major, severity_major]
  refine imp_congr_right fun hmajor => ?_
  rw [storedStatus_step h, hmajor, Option.map_some, Option.some.injEq]
  cases c.opens db <;> cases c.recovers T db <;> cases hwarns : c.warns <;>
    cases hrestores : c.checksExpiry && restores c.mon db <;>
    simp [Check.warnedStatus, restored, hwarns, hrestores]

theorem mem_of_resolves {incident : Incident} (h : c.resolves db = some incident) :
    incident ∈ db.incidents.docs ∧ incident.status ≠ .resolved := by
  obtain ⟨outage, _, hfound⟩ := Option.bind_eq_some_iff.mp h
  exact recoveredIncident_eq_some hfound

theorem not_resolves_of_opens (h : c.opens db = true) : c.resolves db = none := by
  have hdown : c.isDown = true := (Bool.and_eq_true _ _ ▸ h : _ ∧ _).1
  simp [Check.resolves, Check.closes, hdown]

theorem keepsIncidents_iff :
    KeepsIncidents T db c ↔
      ∀ incident, c.resolves db = some incident → ¬ Affects T db incident := by
  unfold KeepsIncidents
  rw [step_incidents_eq]
  cases hopens : c.opens db with
  | true =>
    rw [not_resolves_of_opens hopens, if_pos rfl]
    refine iff_of_true (fun incident hmem _ hopen after hafter hid => ?_) (by simp)
    have hsame : after = incident := by
      cases hnew : opensIncident c.mon (c.recorded db) with
      | none =>
        rw [hnew] at hafter
        exact Collection.eq_of_key_eq hafter hmem hid
      | some id =>
        rw [hnew] at hafter
        exact Collection.eq_of_key_eq hafter (Collection.mem_insertOne_of_mem hmem) hid
    rwa [hsame]
  | false =>
    rw [if_neg (by simp)]
    cases hresolves : c.resolves db with
    | none =>
      refine iff_of_true (fun incident hmem _ hopen after hafter hid => ?_) (by simp)
      rwa [Collection.eq_of_key_eq hafter hmem hid]
    | some resolved =>
      obtain ⟨hstored, hunresolved⟩ := mem_of_resolves hresolves
      dsimp only [Option.elim, resolveIncident]
      rw [Collection.updateByKey_docs]
      constructor
      · intro hkeeps incident hincident haffects
        obtain rfl := Option.some.inj hincident
        refine hkeeps resolved hstored haffects hunresolved
          (markResolved (c.rt.outage.clock 1) resolved) ?_ rfl rfl
        exact List.mem_map.mpr ⟨resolved, hstored, if_pos rfl⟩
      · intro hleaves incident hmem haffects hopen after hafter hid
        obtain ⟨stored, hold, rfl⟩ := List.mem_map.mp hafter
        by_cases hkey : Library.Keyed.key stored = resolved.id
        · rw [if_pos hkey] at hid
          have hsame : incident = resolved :=
            Collection.eq_of_key_eq hmem hstored (hid.symm.trans hkey)
          exact absurd (hsame ▸ haffects) (hleaves resolved rfl)
        · rw [if_neg hkey] at hid ⊢
          rwa [Collection.eq_of_key_eq hold hmem hid]

theorem respectsSiblings_iff (monitorIDs : List ObjectID) (h : target c.mon = some T) :
    RespectsSiblings monitorIDs T db c ↔ LeavesSiblings monitorIDs T db c :=
  imp_congr_right fun _ => and_congr (keepsSeverity_iff h) keepsIncidents_iff

theorem respectsSiblings_run_iff (monitorIDs : List ObjectID) (T : Target) (db : Database)
    (checks : List Check)
    (hgroup : ∀ c ∈ checks, c.mon.id ∈ monitorIDs ∧ target c.mon = some T) :
    AllSteps step (RespectsSiblings monitorIDs T) db checks ↔
      AllSteps step (LeavesSiblings monitorIDs T) db checks :=
  allSteps_congr fun c hc _ => respectsSiblings_iff monitorIDs (hgroup c hc).2

def portComponent : Database :=
  { components := Collection.empty.insertOne
      { id := 7#96, name := "Gateway", status := .operational } }

def certificateCheck : Check where
  mon := { id := 2#96, name := "certificate", type := .ssl, componentID := 7#96 }
  probes := { ssl := some ⟨true, 10, 14⟩ }
  rt := numberedRuntime 3

def warningDuringOutage : List Check :=
  portChecks portMonitor [false, false, false] ++ [certificateCheck]

theorem respectsSiblings_run_iff_warning :
    AllSteps step (RespectsSiblings [1#96, 2#96] (.component 7#96)) portComponent
        warningDuringOutage ↔
      AllSteps step (LeavesSiblings [1#96, 2#96] (.component 7#96)) portComponent
        warningDuringOutage :=
  respectsSiblings_run_iff [1#96, 2#96] (.component 7#96) portComponent warningDuringOutage
    (by decide)

theorem warningDuringOutage_lowers :
    (∀ c ∈ warningDuringOutage,
      c.mon.id ∈ [1#96, 2#96] ∧ target c.mon = some (.component 7#96)) ∧
    ¬ AllSteps step (RespectsSiblings [1#96, 2#96] (.component 7#96)) portComponent
      warningDuringOutage := by
  refine ⟨by decide, fun h => ?_⟩
  obtain ⟨_, hlast, _⟩ := allSteps_append.mp h
  have hactive : SiblingActive [1#96, 2#96]
      (run step portComponent (portChecks portMonitor [false, false, false])) certificateCheck := by
    refine ⟨(portChecks portMonitor [false, false, false])[2].outage, ?_, rfl, by decide, by decide⟩
    decide
  have hmajor := (hlast hactive).1
  exact absurd (hmajor (by decide)) (by decide)

end Statora.Worker
