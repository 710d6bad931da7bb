import Statora.Library.EventRun
import Statora.Library.MaximalRuns
import Statora.Worker.Steps

/-!
# The outages of one monitor

The checks of one monitor, one after the other, keep an outage record for each
maximal run of at least three failed checks: opened by the third, closed by the
first good check after the run.
-/

namespace Statora.Worker
open Library (Block LongRuns HoldsAt trailing run AllSteps allSteps_append isTrailing
  holdsAt_snoc_of_true holdsAt_snoc_of_false
  trailing_snoc_of_true trailing_snoc_of_false le_trailing sortSlice_eq_reverse)

structure InsertsSucceed (db : Database) (c : Check) : Prop where
  log : db.monitorLogs.contains c.log.id = false
  outage : opensOutage c.mon.id (c.logged db) = true → db.outages.contains c.outage.id = false

def Check.close (c : Check) (outage : Outage) : Outage :=
  { outage with
    endedAt := some (c.rt.outage.clock 0)
    durationSeconds := Int.tdiv (c.rt.outage.clock 0 - outage.startedAt) second
    status := .resolved }

/-- The record of a run: opened by its third check and closed by the check after
it, if there is one. -/
def RecordOf (checks : List Check) (failed : Block) (outage : Outage) : Prop :=
  ∃ opening, checks[failed.start + 2]? = some opening ∧
    outage = checks[failed.stop]?.elim opening.outage fun closing => closing.close opening.outage

structure OutageHistory (monitorID : ObjectID) (checks : List Check) (db : Database) : Prop where
  active_iff : (∃ outage ∈ db.outages.docs, outage.monitorID = monitorID ∧
      outage.status = .active) ↔
    3 ≤ checks.length ∧ ∀ c ∈ checks.drop (checks.length - 3), c.isDown = true
  records : ∃ failed : List Block, LongRuns (HoldsAt Check.isDown checks) 3 failed ∧
    List.Forall₂ (RecordOf checks) failed
      (db.outages.find fun outage => outage.monitorID = monitorID)
  unique_active : ∀ outage ∈ db.outages.docs, ∀ outage' ∈ db.outages.docs,
    outage.monitorID = monitorID → outage'.monitorID = monitorID →
    outage.status = .active → outage'.status = .active → outage = outage'

structure Tracks (monitorID : ObjectID) (checks : List Check) (db : Database) : Prop where
  logs : db.monitorLogs.find (fun log => log.monitorID = monitorID) = checks.map Check.log
  records : ∃ failed : List Block, LongRuns (HoldsAt Check.isDown checks) 3 failed ∧
    List.Forall₂ (RecordOf checks) failed
      (db.outages.find fun outage => outage.monitorID = monitorID)

section Records
variable {monitorID : ObjectID} {checks : List Check} {c : Check} {db : Database}
  {r : Block} {outage : Outage}

theorem mem_ownOutages : outage ∈ db.outages.find (fun o => o.monitorID = monitorID) ↔
    outage ∈ db.outages.docs ∧ outage.monitorID = monitorID := by
  simp [Library.Collection.find]

theorem RecordOf.active_iff (h : RecordOf checks r outage)
    (hstop : r.stop ≤ checks.length) : outage.status = .active ↔ r.stop = checks.length := by
  obtain ⟨opening, _, rfl⟩ := h
  cases hclosing : checks[r.stop]? with
  | none =>
    have hle : checks.length ≤ r.stop := List.getElem?_eq_none_iff.mp hclosing
    simp only [Option.elim, Check.outage, newOutage, true_iff]
    omega
  | some closing =>
    have hlt := (List.getElem?_eq_some_iff.mp hclosing).1
    simp only [Option.elim, Check.close, reduceCtorEq, false_iff]
    omega

theorem RecordOf.snoc (h : RecordOf checks r outage) (hstop : r.stop < checks.length)
    (hlen : r.start + 2 < r.stop) : RecordOf (checks ++ [c]) r outage := by
  obtain ⟨opening, hopening, rfl⟩ := h
  refine ⟨opening, ?_, ?_⟩
  · rw [List.getElem?_append_left (by omega), hopening]
  · rw [List.getElem?_append_left hstop]

theorem RecordOf.extend (h : RecordOf checks r outage) (hstop : r.stop = checks.length)
    (hlen : r.start + 2 < r.stop) :
    RecordOf (checks ++ [c]) ⟨r.start, r.stop + 1⟩ outage := by
  obtain ⟨opening, hopening, rfl⟩ := h
  refine ⟨opening, ?_, ?_⟩
  · rw [List.getElem?_append_left (by dsimp only; omega), hopening]
  · rw [List.getElem?_eq_none (by omega), List.getElem?_eq_none (by simp; omega)]

theorem RecordOf.closed (h : RecordOf checks r outage) (hstop : r.stop = checks.length)
    (hlen : r.start + 2 < r.stop) : RecordOf (checks ++ [c]) r (c.close outage) := by
  obtain ⟨opening, hopening, rfl⟩ := h
  refine ⟨opening, ?_, ?_⟩
  · rw [List.getElem?_append_left (by omega), hopening]
  · rw [hstop, List.getElem?_eq_none le_rfl, List.getElem?_concat_length]
    rfl

theorem recordOf_opened (hlen : 2 ≤ checks.length) :
    RecordOf (checks ++ [c]) ⟨checks.length - 2, checks.length + 1⟩ c.outage := by
  refine ⟨c, ?_, ?_⟩
  · rw [Nat.sub_add_cancel hlen, List.getElem?_concat_length]
  · rw [List.getElem?_eq_none (by simp)]
    rfl

end Records

section Invariant
variable {monitorID : ObjectID} {checks : List Check} {c : Check} {db : Database}

theorem exists_run_of_record {failed : List Block} {outages : List Outage} {outage : Outage}
    (h : List.Forall₂ (RecordOf checks) failed outages) (hmem : outage ∈ outages) :
    ∃ r ∈ failed, RecordOf checks r outage := by
  induction h with
  | nil => exact absurd hmem (by simp)
  | cons hrecord _ ih =>
    rcases List.mem_cons.mp hmem with rfl | htail
    · exact ⟨_, List.mem_cons_self, hrecord⟩
    · obtain ⟨r, hr, hrecord⟩ := ih htail
      exact ⟨r, List.mem_cons_of_mem _ hr, hrecord⟩

theorem exists_record_of_run {failed : List Block} {outages : List Outage} {r : Block}
    (h : List.Forall₂ (RecordOf checks) failed outages) (hmem : r ∈ failed) :
    ∃ outage ∈ outages, RecordOf checks r outage := by
  induction h with
  | nil => exact absurd hmem (by simp)
  | cons hrecord _ ih =>
    rcases List.mem_cons.mp hmem with rfl | htail
    · exact ⟨_, List.mem_cons_self, hrecord⟩
    · obtain ⟨outage, houtage, hrecord⟩ := ih htail
      exact ⟨outage, List.mem_cons_of_mem _ houtage, hrecord⟩

theorem holdsAt_lt (checks : List Check) :
    ∀ k, HoldsAt Check.isDown checks k → k < checks.length := fun _ h => h.lt

theorem Tracks.record_of_active (h : Tracks monitorID checks db) {outage : Outage}
    (hmem : outage ∈ db.outages.docs) (hid : outage.monitorID = monitorID)
    (hactive : outage.status = .active) :
    3 ≤ trailing Check.isDown checks ∧
      RecordOf checks ⟨checks.length - trailing Check.isDown checks, checks.length⟩ outage := by
  obtain ⟨failed, hfailed, hrecords⟩ := h.records
  obtain ⟨r, hr, hrecord⟩ := exists_run_of_record hrecords (mem_ownOutages.mpr ⟨hmem, hid⟩)
  obtain ⟨hrun, hlen⟩ := (hfailed.mem_iff r).mp hr
  have hstop := (hrecord.active_iff (hrun.stop_le (holdsAt_lt checks))).mp hactive
  have heq := (hrun.eq_trailing (isTrailing checks) hstop).2
  have hle := (isTrailing (p := Check.isDown) checks).le
  rw [heq] at hlen hrecord
  dsimp only at hlen
  exact ⟨by omega, hrecord⟩

theorem Tracks.unique_active (h : Tracks monitorID checks db) {outage outage' : Outage}
    (hmem : outage ∈ db.outages.docs) (hmem' : outage' ∈ db.outages.docs)
    (hid : outage.monitorID = monitorID) (hid' : outage'.monitorID = monitorID)
    (hactive : outage.status = .active) (hactive' : outage'.status = .active) :
    outage = outage' := by
  obtain ⟨_, opening, hopening, rfl⟩ := h.record_of_active hmem hid hactive
  obtain ⟨_, opening', hopening', rfl⟩ := h.record_of_active hmem' hid' hactive'
  rw [hopening, Option.some.injEq] at hopening'
  rw [hopening']

theorem Tracks.active_iff (h : Tracks monitorID checks db) :
    (∃ outage ∈ db.outages.docs, outage.monitorID = monitorID ∧ outage.status = .active) ↔
      3 ≤ trailing Check.isDown checks := by
  constructor
  · rintro ⟨outage, hmem, hid, hactive⟩
    exact (h.record_of_active hmem hid hactive).1
  · intro hthree
    obtain ⟨failed, hfailed, hrecords⟩ := h.records
    have ht := isTrailing (p := Check.isDown) checks
    have hrun := Library.isMaximalRun_trailing (holdsAt_lt checks) ht (by omega)
    have hlen : 3 ≤ checks.length - (checks.length - trailing Check.isDown checks) := by
      have := ht.le
      omega
    obtain ⟨outage, houtage, hrecord⟩ :=
      exists_record_of_run hrecords ((hfailed.mem_iff _).mpr ⟨hrun, hlen⟩)
    obtain ⟨hdocs, hid⟩ := mem_ownOutages.mp houtage
    exact ⟨outage, hdocs, hid, (hrecord.active_iff le_rfl).mpr rfl⟩

theorem Tracks.activeOutage_isNone (h : Tracks monitorID checks db) :
    (activeOutage monitorID db).isNone = true ↔ trailing Check.isDown checks < 3 := by
  rw [← not_le, ← h.active_iff]
  cases hfound : activeOutage monitorID db with
  | none => simpa using activeOutage_eq_none.mp hfound
  | some outage => simpa using ⟨outage, activeOutage_eq_some hfound⟩

theorem Tracks.logs_snoc (h : Tracks monitorID checks db) (hid : c.mon.id = monitorID)
    (hfresh : db.monitorLogs.contains c.log.id = false) :
    (db.monitorLogs.insertOne c.log).find (fun log => log.monitorID = monitorID) =
      (checks ++ [c]).map Check.log := by
  have hlog : c.log.monitorID = monitorID := hid
  rw [Library.Collection.find, Library.Collection.insertOne_docs_of_fresh hfresh,
    List.filter_append, List.map_append, ← h.logs]
  simp [Library.Collection.find, hlog]

theorem latestLogs_eq {db : Database}
    (hlogs : db.monitorLogs.find (fun log => log.monitorID = monitorID) = checks.map Check.log)
    (htimes : (checks.map Check.checkedAt).Pairwise (· < ·)) :
    latestLogs monitorID db = (checks.reverse.take 3).map Check.log := by
  have hsorted : (checks.map Check.log).Pairwise
      (fun a b => decide (b.checkedAt > a.checkedAt) = true) := by
    rw [List.pairwise_map] at htimes ⊢
    exact htimes.imp fun hlt => decide_eq_true hlt
  rw [latestLogs, hlogs, sortSlice_eq_reverse hsorted, ← List.map_reverse, List.map_take]

theorem failsThrice_iff {db : Database}
    (hlogs : db.monitorLogs.find (fun log => log.monitorID = monitorID) = checks.map Check.log)
    (htimes : (checks.map Check.checkedAt).Pairwise (· < ·)) :
    failsThrice monitorID db = true ↔ 3 ≤ trailing Check.isDown checks := by
  have hdown : ∀ c : Check, c.log.status = .down ↔ c.isDown = true := fun c => by
    simp [Check.isDown, Check.log, logEntry]
  rw [trailing, Library.le_takeWhile_length, failsThrice, latestLogs_eq hlogs htimes,
    Bool.and_eq_true, List.all_eq_true, List.length_map, List.length_take, decide_eq_true_eq]
  simp only [List.forall_mem_map, decide_eq_true_eq, hdown]
  exact and_congr_left' (by omega)

theorem Tracks.opensOutage_iff (h : Tracks monitorID checks db) (hid : c.mon.id = monitorID)
    (hfresh : db.monitorLogs.contains c.log.id = false)
    (htimes : ((checks ++ [c]).map Check.checkedAt).Pairwise (· < ·)) (hdown : c.isDown = true) :
    opensOutage monitorID (c.logged db) = true ↔ trailing Check.isDown checks = 2 := by
  have hthree : failsThrice monitorID (c.logged db) = true ↔ _ :=
    failsThrice_iff (h.logs_snoc hid hfresh) htimes
  rw [trailing_snoc_of_true hdown] at hthree
  have hnone : activeOutage monitorID (c.logged db) = activeOutage monitorID db := rfl
  rw [opensOutage, Bool.and_eq_true, hthree, hnone, h.activeOutage_isNone]
  omega

def closeActive (c : Check) (outage : Outage) : Outage :=
  if outage.status = .active then c.close outage else outage

theorem Tracks.closed_outages (h : Tracks monitorID checks db) (hid : c.mon.id = monitorID)
    (hup : c.isDown = false) :
    (step db c).outages.find (fun outage => outage.monitorID = monitorID) =
      (db.outages.find fun outage => outage.monitorID = monitorID).map (closeActive c) := by
  rw [step_outages, hup, hid, if_neg (by simp)]
  cases hfound : activeOutage monitorID db with
  | none =>
    have hnone := activeOutage_eq_none.mp hfound
    refine ((List.map_congr_left fun outage hmem => ?_).trans (List.map_id _)).symm
    obtain ⟨hdocs, hown⟩ := mem_ownOutages.mp hmem
    have : outage.status ≠ .active := hnone outage hdocs hown
    simp [closeActive, this]
  | some active =>
    obtain ⟨hactive, hown, hstatus⟩ := activeOutage_eq_some hfound
    simp only [Option.elim, endOutage, Library.Collection.find,
      Library.Collection.updateByKey_docs, List.filter_map]
    have hfilter : ∀ outage : Outage, (decide ((if Library.Keyed.key outage = active.id then
        { outage with
          endedAt := some (c.rt.outage.clock 0)
          durationSeconds := Int.tdiv (c.rt.outage.clock 0 - active.startedAt) second
          status := .resolved } else outage).monitorID = monitorID)) =
        decide (outage.monitorID = monitorID) := fun outage => by
      split_ifs <;> rfl
    simp only [Function.comp_def, hfilter]
    refine List.map_congr_left fun outage hmem => ?_
    obtain ⟨hdocs, hown'⟩ := mem_ownOutages.mp hmem
    by_cases hkey : Library.Keyed.key outage = active.id
    · have heq : outage = active := Library.Collection.eq_of_key_eq hdocs hactive hkey
      rw [if_pos hkey, heq, closeActive, if_pos hstatus]
      rfl
    · have hne : outage.status ≠ .active := fun hs =>
        hkey (congrArg Outage.id (h.unique_active hdocs hactive hown' hown hs hstatus))
      rw [if_neg hkey, closeActive, if_neg hne]

theorem Tracks.step_down (h : Tracks monitorID checks db) (hid : c.mon.id = monitorID)
    (hstored : InsertsSucceed db c)
    (htimes : ((checks ++ [c]).map Check.checkedAt).Pairwise (· < ·)) (hdown : c.isDown = true) :
    (step db c).outages.find (fun outage => outage.monitorID = monitorID) =
      if trailing Check.isDown checks = 2 then
        db.outages.find (fun outage => outage.monitorID = monitorID) ++ [c.outage]
      else db.outages.find fun outage => outage.monitorID = monitorID := by
  have hopens := h.opensOutage_iff hid hstored.log htimes hdown
  rw [step_outages, hdown, if_pos rfl, hid]
  by_cases htwo : trailing Check.isDown checks = 2
  · have hfresh := hstored.outage (by rw [hid]; exact hopens.mpr htwo)
    have hown : c.outage.monitorID = monitorID := hid
    rw [if_pos (hopens.mpr htwo), if_pos htwo, Library.Collection.find,
      Library.Collection.insertOne_docs_of_fresh hfresh, List.filter_append]
    simp [Library.Collection.find, hown]
  · rw [if_neg (fun ho => htwo (hopens.mp ho)), if_neg htwo]

theorem Tracks.snoc_up (h : Tracks monitorID checks db) (hid : c.mon.id = monitorID)
    (hstored : InsertsSucceed db c) (hup : c.isDown = false) :
    Tracks monitorID (checks ++ [c]) (step db c) where
  logs := by
    rw [step_monitorLogs]
    exact h.logs_snoc hid hstored.log
  records := by
    obtain ⟨failed, hfailed, hrecords⟩ := h.records
    have hsame : HoldsAt Check.isDown (checks ++ [c]) = HoldsAt Check.isDown checks :=
      funext fun k => propext (holdsAt_snoc_of_false hup k)
    refine ⟨failed, by rwa [hsame], ?_⟩
    rw [h.closed_outages hid hup, List.forall₂_map_right_iff]
    refine ((List.forall₂_and_left _ _).mpr ⟨fun r hr => hr, hrecords⟩).imp
      fun r outage ⟨hr, hrecord⟩ => ?_
    obtain ⟨hrun, hlen⟩ := (hfailed.mem_iff r).mp hr
    have hle := hrun.stop_le (holdsAt_lt checks)
    have hactive := hrecord.active_iff hle
    by_cases hstop : r.stop = checks.length
    · rw [closeActive, if_pos (hactive.mpr hstop)]
      exact hrecord.closed hstop (by omega)
    · rw [closeActive, if_neg (fun hs => hstop (hactive.mp hs))]
      exact hrecord.snoc (by omega) (by omega)

theorem Tracks.snoc_down (h : Tracks monitorID checks db) (hid : c.mon.id = monitorID)
    (hstored : InsertsSucceed db c)
    (htimes : ((checks ++ [c]).map Check.checkedAt).Pairwise (· < ·)) (hdown : c.isDown = true) :
    Tracks monitorID (checks ++ [c]) (step db c) where
  logs := by
    rw [step_monitorLogs]
    exact h.logs_snoc hid hstored.log
  records := by
    obtain ⟨failed, hfailed, hrecords⟩ := h.records
    have ht := isTrailing (p := Check.isDown) checks
    have hQ : ∀ k, HoldsAt Check.isDown (checks ++ [c]) k ↔ _ ∨ k = checks.length :=
      holdsAt_snoc_of_true hdown
    have hkept := (List.forall₂_and_left _ _).mpr ⟨fun r hr => hr, hrecords⟩
    rw [h.step_down hid hstored htimes hdown]
    by_cases htwo : trailing Check.isDown checks = 2
    · have hruns := hfailed.snoc (holdsAt_lt checks) ht hQ (by omega)
      rw [htwo] at hruns
      rw [if_pos htwo]
      refine ⟨_, hruns, List.rel_append (hkept.imp fun r outage ⟨hr, hrecord⟩ => ?_)
        (.cons (recordOf_opened (by have := ht.le; omega)) .nil)⟩
      obtain ⟨hrun, hlen⟩ := (hfailed.mem_iff r).mp hr
      have hle := hrun.stop_le (holdsAt_lt checks)
      have hne : r.stop ≠ checks.length := fun hstop => by
        rw [(hrun.eq_trailing ht hstop).2] at hlen
        dsimp only at hlen
        omega
      exact hrecord.snoc (by omega) (by omega)
    · rw [if_neg htwo]
      refine ⟨_, hfailed.lengthen (holdsAt_lt checks) ht hQ (by omega) (by omega), ?_⟩
      rw [List.forall₂_map_left_iff]
      refine hkept.imp fun r outage ⟨hr, hrecord⟩ => ?_
      obtain ⟨hrun, hlen⟩ := (hfailed.mem_iff r).mp hr
      have hle := hrun.stop_le (holdsAt_lt checks)
      by_cases hstop : r.stop = checks.length
      · rw [Library.lengthen, if_pos hstop, ← hstop]
        exact hrecord.extend hstop (by omega)
      · rw [Library.lengthen, if_neg hstop]
        exact hrecord.snoc (by omega) (by omega)

theorem Tracks.run (h : Tracks monitorID [] db) (hmon : ∀ c ∈ checks, c.mon.id = monitorID)
    (htimes : (checks.map Check.checkedAt).Pairwise (· < ·))
    (hstored : AllSteps step InsertsSucceed db checks) :
    Tracks monitorID checks (Library.run step db checks) := by
  induction checks using List.reverseRecOn with
  | nil => exact h
  | append_singleton checks c ih =>
    obtain ⟨hbefore, hlast, _⟩ := allSteps_append.mp hstored
    have hearlier : (checks.map Check.checkedAt).Pairwise (· < ·) := by
      rw [List.map_append] at htimes
      exact (List.pairwise_append.mp htimes).1
    have hchecks := ih (fun c hc => hmon c (List.mem_append_left _ hc)) hearlier hbefore
    have hid := hmon c (by simp)
    rw [Library.run_append]
    cases hdown : c.isDown with
    | true => exact hchecks.snoc_down hid hlast htimes hdown
    | false => exact hchecks.snoc_up hid hlast hdown

end Invariant

theorem Tracks.history {monitorID : ObjectID} {checks : List Check} {db : Database}
    (h : Tracks monitorID checks db) : OutageHistory monitorID checks db where
  active_iff := h.active_iff.trans (le_trailing 3 checks)
  records := h.records
  unique_active _ hmem _ hmem' hid hid' := h.unique_active hmem hmem' hid hid'

/-- After every prefix of the checks the store holds the outage history of the prefix. -/
theorem outageHistory_of_prefixes (monitorID : ObjectID) (db : Database) (checks : List Check)
    (hlogs : db.monitorLogs.find (fun log => log.monitorID = monitorID) = [])
    (houtages : db.outages.find (fun outage => outage.monitorID = monitorID) = [])
    (hmon : ∀ c ∈ checks, c.mon.id = monitorID)
    (htimes : (checks.map Check.checkedAt).Pairwise (· < ·))
    (hstored : AllSteps step InsertsSucceed db checks) (k : ℕ) :
    OutageHistory monitorID (checks.take k) (run step db (checks.take k)) := by
  have hstart : Tracks monitorID [] db := by
    refine ⟨hlogs, [], ⟨List.Pairwise.nil, fun r => ?_⟩, by rw [houtages]; exact .nil⟩
    refine ⟨fun hr => absurd hr (by simp), fun ⟨hrun, _⟩ => ?_⟩
    have hle := hrun.stop_le (holdsAt_lt [])
    have hne := hrun.nonempty
    simp only [List.length_nil] at hle
    omega
  have hprefix : AllSteps step InsertsSucceed db (checks.take k) := by
    rw [← List.take_append_drop k checks] at hstored
    exact (allSteps_append.mp hstored).1
  refine (hstart.run (fun c hc => hmon c (List.mem_of_mem_take hc)) ?_ hprefix).history
  rw [List.map_take]
  exact htimes.sublist (List.take_sublist _ _)

theorem outageHistory_of_prefixes_flapping :
    OutageHistory 1#96
      (portChecks portMonitor [false, false, false, false, true, false, false, false])
      (run step {} (portChecks portMonitor
        [false, false, false, false, true, false, false, false])) :=
  outageHistory_of_prefixes 1#96 {}
    (portChecks portMonitor [false, false, false, false, true, false, false, false]) rfl rfl
    (by decide) (by decide)
    ⟨⟨rfl, fun _ => rfl⟩, ⟨rfl, fun _ => rfl⟩, ⟨rfl, fun _ => rfl⟩, ⟨rfl, fun _ => rfl⟩,
      ⟨rfl, fun _ => rfl⟩, ⟨rfl, fun _ => rfl⟩, ⟨rfl, fun _ => rfl⟩, ⟨rfl, fun _ => rfl⟩, trivial⟩
    8

end Statora.Worker
