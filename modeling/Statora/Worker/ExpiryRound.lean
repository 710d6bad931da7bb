import Statora.Library.EventRun
import Statora.Worker.TargetStatus

/-!
# A round of certificate and domain checks

Several monitors watch the certificate or the domain of one target. While no
outage and no incident is active, each check writes the status that its own
result asks for: a warning degrades the target, and a result without one makes
a degraded target operational, whatever the other monitors found.
-/

namespace Statora.Worker
open Library (run run_nil run_cons run_append AllSteps)

structure NoneActive (db : Database) : Prop where
  outages : ∀ outage ∈ db.outages.docs, outage.status ≠ .active
  incidents : ∀ incident ∈ db.incidents.docs, incident.status = .resolved

/-- The check finds no outage or incident active, and opens none. -/
def Undisturbed (db : Database) (c : Check) : Prop := NoneActive db ∧ c.opens db = false

def Watches (T : Target) (c : Check) : Prop := target c.mon = some T ∧ c.checksExpiry = true

/-- The target's status after the round is the same in every order of its checks, and
degraded when one of them warns. -/
def RoundAgrees (T : Target) (db : Database) (checks : List Check) : Prop :=
  (∀ order : List Check, order.Perm checks →
    T.storedStatus (run step db order) = T.storedStatus (run step db checks)) ∧
  ((∃ c ∈ checks, c.warning = true) → ∀ order : List Check, order.Perm checks →
    T.storedStatus (run step db order) = some .degradedPerf)

def expiryStatus (status : ComponentStatus) (c : Check) : ComponentStatus :=
  if c.warning then .degradedPerf else restored status

section Step
variable {T : Target} {db : Database} {c : Check}

theorem activeOutage_of_noneActive (h : NoneActive db) (monitorID : ObjectID) :
    activeOutage monitorID db = none :=
  activeOutage_eq_none.mpr fun outage hmem _ => h.outages outage hmem

theorem restores_of_noneActive (h : NoneActive db) (mon : Monitor) : restores mon db = true := by
  have houtage : activeOutageOnTarget mon db = none := by
    refine List.find?_eq_none.mpr fun outage hmem => ?_
    simp [h.outages outage hmem]
  have hincident : ∀ ids, unresolvedIncident ids db = none := fun ids => by
    refine List.find?_eq_none.mpr fun incident hmem => ?_
    simp [h.incidents incident hmem]
  rw [restores, hasActiveIncident, shouldRestoreOperational, houtage]
  cases (target mon).bind (Target.componentID db) with
  | none => rfl
  | some id => simp [hincident]

theorem storedStatus_expiry (hwatches : Watches T c) (h : Undisturbed db c) :
    T.storedStatus (step db c) = (T.storedStatus db).map fun status => expiryStatus status c := by
  have hcloses : c.closes db = none := by
    simp only [Check.closes]
    split_ifs
    · rfl
    · exact activeOutage_of_noneActive h.1 c.mon.id
  have hrecovers : c.recovers T db = false := by
    rw [Check.recovers, hcloses]
    rfl
  rw [storedStatus_step hwatches.1, h.2, hrecovers]
  simp [Check.warnedStatus, Check.warns, hwatches.2, restores_of_noneActive h.1, expiryStatus]

theorem storedStatus_round {checks : List Check} (hwatches : ∀ c ∈ checks, Watches T c)
    (h : AllSteps step Undisturbed db checks) :
    T.storedStatus (run step db checks) =
      (T.storedStatus db).map fun status => checks.foldl expiryStatus status := by
  induction checks generalizing db with
  | nil => simp
  | cons c checks ih =>
    rw [run_cons, ih (fun d hd => hwatches d (List.mem_cons_of_mem c hd)) h.2,
      storedStatus_expiry (hwatches c List.mem_cons_self) h.1, Option.map_map]
    rfl

end Step

section Statuses
variable {checks order : List Check} {status : ComponentStatus}

theorem foldl_expiryStatus_warning (h : ∀ c ∈ checks, c.warning = true) (hne : checks ≠ []) :
    checks.foldl expiryStatus status = .degradedPerf := by
  induction checks using List.reverseRecOn with
  | nil => exact absurd rfl hne
  | append_singleton checks c _ =>
    have hc : c.warning = true := h c (by simp)
    rw [List.foldl_append, List.foldl_cons, List.foldl_nil, expiryStatus, if_pos hc]

theorem foldl_expiryStatus_last {c : Check} (h : c.warning = false) :
    (checks ++ [c]).foldl expiryStatus status ≠ .degradedPerf := by
  rw [List.foldl_append, List.foldl_cons, List.foldl_nil, expiryStatus, h, if_neg (by simp),
    restored]
  split_ifs with hdegraded
  · simp
  · exact hdegraded

theorem foldl_expiryStatus_perm (hperm : order.Perm checks)
    (hsame : ∀ c ∈ order, ∀ d ∈ order, c.warning = d.warning) :
    order.foldl expiryStatus status = checks.foldl expiryStatus status := by
  refine hperm.foldl_eq' (fun c hc d hd s => ?_) status
  simp only [expiryStatus, hsame c hc d hd]

end Statuses

theorem roundAgrees_iff (T : Target) (db : Database) (checks : List Check)
    (hwatches : ∀ c ∈ checks, Watches T c)
    (hundisturbed : ∀ order : List Check, order.Perm checks →
      AllSteps step Undisturbed db order) :
    RoundAgrees T db checks ↔ (∀ c ∈ checks, c.warning = false) ∨
      ((T.storedStatus db).isSome = true ∧ ∀ c ∈ checks, c.warning = true) := by
  have hstatus : ∀ order : List Check, order.Perm checks →
      T.storedStatus (run step db order) =
        (T.storedStatus db).map fun status => order.foldl expiryStatus status :=
    fun order hperm =>
      storedStatus_round (fun c hc => hwatches c (hperm.subset hc)) (hundisturbed order hperm)
  constructor
  · rintro ⟨-, hdegraded⟩
    by_cases hhealthy : ∀ c ∈ checks, c.warning = false
    · exact Or.inl hhealthy
    push Not at hhealthy
    obtain ⟨warning, hmem, hwarns⟩ := hhealthy
    have hafter := hdegraded ⟨warning, hmem, by simpa using hwarns⟩
    refine Or.inr ⟨?_, fun c hc => ?_⟩
    · have hstored := (hstatus checks (List.Perm.refl _)).symm.trans (hafter _ (List.Perm.refl _))
      cases hs : T.storedStatus db with
      | none => simp [hs] at hstored
      | some status => rfl
    · -- A check without a warning may come last.
      by_contra hc'
      obtain ⟨before, after, rfl⟩ := List.append_of_mem hc
      have hperm : (before ++ after ++ [c]).Perm (before ++ c :: after) := by
        rw [List.append_assoc]
        exact List.Perm.append_left before List.perm_append_comm
      have hlast := (hstatus _ hperm).symm.trans (hafter _ hperm)
      obtain ⟨status, -, hlast⟩ := Option.map_eq_some_iff.mp hlast
      exact foldl_expiryStatus_last (by simpa using hc') hlast
  · intro hagree
    have hsame : ∀ c ∈ checks, ∀ d ∈ checks, c.warning = d.warning := by
      rcases hagree with hhealthy | ⟨-, hwarning⟩
      · exact fun c hc d hd => (hhealthy c hc).trans (hhealthy d hd).symm
      · exact fun c hc d hd => (hwarning c hc).trans (hwarning d hd).symm
    refine ⟨fun order hperm => ?_, ?_⟩
    · rw [hstatus order hperm, hstatus checks (List.Perm.refl _)]
      refine congrArg (Option.map · _) (funext fun status => ?_)
      exact foldl_expiryStatus_perm hperm fun c hc d hd =>
        hsame c (hperm.subset hc) d (hperm.subset hd)
    · rintro ⟨warning, hmem, hwarns⟩ order hperm
      rcases hagree with hhealthy | ⟨hstored, hwarning⟩
      · rw [hhealthy warning hmem] at hwarns
        exact absurd hwarns (by decide)
      · obtain ⟨status, hs⟩ := Option.isSome_iff_exists.mp hstored
        have hne : order ≠ [] := List.ne_nil_of_mem (hperm.symm.subset hmem)
        rw [hstatus order hperm, hs, Option.map_some,
          foldl_expiryStatus_warning (fun c hc => hwarning c (hperm.subset hc)) hne]

theorem undisturbed_of_up {db : Database} {checks : List Check} (h : NoneActive db)
    (hup : ∀ c ∈ checks, c.isDown = false) : AllSteps step Undisturbed db checks := by
  induction checks generalizing db with
  | nil => trivial
  | cons c checks ih =>
    have hc := hup c List.mem_cons_self
    have hnone := activeOutage_of_noneActive h c.mon.id
    have hopens : c.opens db = false := by
      simp [Check.opens, hc]
    have hafter : NoneActive (step db c) := by
      constructor
      · rw [step_outages, hc, hnone]
        exact h.outages
      · rw [step_incidents, hc, hnone]
        exact h.incidents
    exact ⟨⟨h, hopens⟩, ih hafter fun d hd => hup d (List.mem_cons_of_mem c hd)⟩

def expiryComponent : Database :=
  { components := Library.Collection.empty.insertOne
      { id := 7#96, name := "Gateway", status := .operational } }

def expiryCheck (number : ℕ) (daysRemaining : ℤ) : Check where
  mon := { id := BitVec.ofNat 96 number, name := "certificate", type := .ssl,
           componentID := 7#96 }
  probes := { ssl := some ⟨decide (daysRemaining ≤ 14), daysRemaining, 14⟩ }
  rt := numberedRuntime number

theorem noneActive_expiryComponent : NoneActive expiryComponent :=
  ⟨fun _ hmem => absurd hmem List.not_mem_nil, fun _ hmem => absurd hmem List.not_mem_nil⟩

theorem expiryRound_undisturbed {checks order : List Check} (hperm : order.Perm checks)
    (hup : ∀ c ∈ checks, c.isDown = false) : AllSteps step Undisturbed expiryComponent order :=
  undisturbed_of_up noneActive_expiryComponent fun c hc => hup c (hperm.subset hc)

theorem roundAgrees_iff_expiring :
    RoundAgrees (.component 7#96) expiryComponent [expiryCheck 1 10, expiryCheck 2 5] ↔
      (∀ c ∈ [expiryCheck 1 10, expiryCheck 2 5], c.warning = false) ∨
        ((Target.component 7#96).storedStatus expiryComponent).isSome = true ∧
          ∀ c ∈ [expiryCheck 1 10, expiryCheck 2 5], c.warning = true :=
  roundAgrees_iff (.component 7#96) expiryComponent [expiryCheck 1 10, expiryCheck 2 5]
    (by unfold Watches; decide) fun _ hperm => expiryRound_undisturbed hperm (by decide)

theorem healthyCheck_clears_warning :
    (∀ c ∈ [expiryCheck 1 10, expiryCheck 2 90], Watches (.component 7#96) c) ∧
      (∀ order : List Check, order.Perm [expiryCheck 1 10, expiryCheck 2 90] →
        AllSteps step Undisturbed expiryComponent order) ∧
      ¬ RoundAgrees (.component 7#96) expiryComponent [expiryCheck 1 10, expiryCheck 2 90] := by
  refine ⟨by unfold Watches; decide, fun _ hperm => expiryRound_undisturbed hperm (by decide), ?_⟩
  rintro ⟨-, hdegraded⟩
  have hafter := hdegraded ⟨expiryCheck 1 10, by simp, by decide⟩ _ (List.Perm.refl _)
  exact absurd hafter (by decide)

end Statora.Worker
