import Mathlib.Tactic.FieldSimp
import Mathlib.Tactic.Linarith
import Statora.Library.Interleaving
import Statora.Worker.Check

/-!
# The daily uptime record under concurrent checks

`updateDailyUptime` reads the record of the day and then inserts it, or
increments its counters and sets the share it computed from what it read. The
calls of one monitor and one day are counted in one record, each once and with
the right share, exactly as long as no call writes on what is no longer so.
-/

namespace Statora.Worker
open Library (Prog Keyed Collection Thread Pool Act Observation AllStates AllSteps run OnOperations
  filter_updateFirst sum_map_set allStates_of_invariant allSteps_of_not_lost
  onOperations_of_no_calls)

structure UptimeCall (today : ℤ) where
  status : MonitorLogStatus
  rt : Runtime
  onDay : calendarDate (rt.clock 0) * day = today

section Calls
variable {today : ℤ} (monitorID : ObjectID)

def UptimeCall.successful (c : UptimeCall today) : ℤ := if c.status = .up then 1 else 0

def UptimeCall.program (c : UptimeCall today) : Prog Database Unit :=
  updateDailyUptime monitorID c.status c.rt

def readRecord (monitorID : ObjectID) (today : ℤ) (found : Option Database) :
    Option (Option DailyUptime) :=
  found.map fun db => db.dailyUptime.findOne (isToday monitorID today)

def UptimeCall.entry (c : UptimeCall today) : DailyUptime :=
  firstUptime monitorID today c.successful (c.rt.newID 0)

def UptimeCall.write (c : UptimeCall today) (found : Option Database) (db : Database) : Database :=
  match readRecord monitorID today found with
  | some none => { db with dailyUptime := db.dailyUptime.insertOne (c.entry monitorID) }
  | existing => { db with
      dailyUptime := db.dailyUptime.updateOne (isToday monitorID today)
        (countCheck existing.join c.successful) }

theorem UptimeCall.program_eq (c : UptimeCall today) :
    c.program monitorID = .op id fun found => .op (c.write monitorID found) fun _ => .ret () := by
  obtain ⟨status, rt, rfl⟩ := c
  unfold UptimeCall.program updateDailyUptime
  change Prog.op id _ = _
  congr 1
  funext found
  cases found with
  | none => rfl
  | some db =>
    unfold UptimeCall.write readRecord
    rw [Option.map_some]
    change (match some (db.dailyUptime.findOne
        (isToday monitorID (calendarDate (rt.clock 0) * day))) with
      | some none => _
      | existing => _) = _
    cases db.dailyUptime.findOne (isToday monitorID (calendarDate (rt.clock 0) * day)) with
    | none => rfl
    | some record => rfl

def dailyRecords (monitorID : ObjectID) (today : ℤ) (db : Database) : List DailyUptime :=
  db.dailyUptime.docs.filter (isToday monitorID today)

def UptimeCall.share (c : UptimeCall today) (totalChecks successfulChecks : ℤ) : ℚ :=
  ((successfulChecks + c.successful : ℤ) : ℚ) / ((totalChecks + 1 : ℤ) : ℚ)

theorem dailyRecords_write (c : UptimeCall today) (found : Option Database) (db : Database) :
    dailyRecords monitorID today (c.write monitorID found db) =
      match readRecord monitorID today found with
      | some none =>
        if db.dailyUptime.contains (c.rt.newID 0) then dailyRecords monitorID today db
        else dailyRecords monitorID today db ++ [c.entry monitorID]
      | existing =>
        (dailyRecords monitorID today db).modifyHead (countCheck existing.join c.successful) := by
  have hentry : isToday monitorID today (c.entry monitorID) = true := by
    simp [isToday, UptimeCall.entry, firstUptime]
  have hcount : ∀ existing (record : DailyUptime), isToday monitorID today record = true →
      isToday monitorID today (countCheck existing c.successful record) = true :=
    fun _ _ htoday => htoday
  unfold UptimeCall.write dailyRecords
  split
  · dsimp only
    cases hfresh : db.dailyUptime.contains (c.rt.newID 0) with
    | true => rw [if_pos rfl, Collection.insertOne_of_contains hfresh]
    | false =>
      rw [if_neg (by simp), Collection.insertOne_docs_of_fresh hfresh, List.filter_append]
      simp [hentry]
  · exact filter_updateFirst (hcount _) _

abbrev UptimePool (today : ℤ) := Pool (UptimeCall today) Database

def wrote (t : Thread (UptimeCall today) Database) : Bool := decide (2 ≤ t.seen.length)

def tally (weight : UptimeCall today → ℤ) (pool : UptimePool today) : ℤ :=
  (pool.threads.map fun t => if wrote t then weight t.call else 0).sum

/-- A call writes, successfully, on what is still so: there is no record of the day
when it found none, and otherwise the stored record has the share that it computed. -/
def WritesOnFound (pool : UptimePool today) (t : Thread (UptimeCall today) Database)
    (_ : Database → Database) (succeeds : Bool) : Prop :=
  ∀ o, t.seen = [o] → succeeds = true ∧
    match readRecord monitorID today o.found with
    | some none => dailyRecords monitorID today pool.store = [] ∧
        pool.store.dailyUptime.contains (t.call.rt.newID 0) = false
    | existing => ∃ record ∈ dailyRecords monitorID today pool.store,
        t.call.share (existing.join.elim 0 (·.totalChecks))
            (existing.join.elim 0 (·.successfulChecks)) =
          t.call.share record.totalChecks record.successfulChecks

def uptimeStep : UptimePool today → Act (UptimeCall today) → UptimePool today :=
  Pool.step (UptimeCall.program monitorID)

def CountsOnFound : UptimePool today → Act (UptimeCall today) → Prop :=
  OnOperations (UptimeCall.program monitorID) (WritesOnFound monitorID)

theorem rest_eq (t : Thread (UptimeCall today) Database) :
    t.rest (UptimeCall.program monitorID) = match t.seen with
      | [] => .op id fun found => .op (t.call.write monitorID found) fun _ => .ret ()
      | [o] => .op (t.call.write monitorID o.found) fun _ => .ret ()
      | _ :: _ :: _ => .ret () := by
  unfold Thread.rest
  rw [UptimeCall.program_eq]
  rcases t.seen with _ | ⟨o, _ | ⟨o', rest⟩⟩
  · rfl
  · rfl
  · cases rest <;> rfl

theorem uptime_step_cases (pool : UptimePool today) (act : Act (UptimeCall today)) :
    (CountsOnFound monitorID pool act ∧ (uptimeStep monitorID pool act).store = pool.store ∧
      ∀ weight, tally weight (uptimeStep monitorID pool act) = tally weight pool) ∨
    ∃ t o succeeds, t.seen = [o] ∧
      (CountsOnFound monitorID pool act ↔ WritesOnFound monitorID pool t id succeeds) ∧
      (uptimeStep monitorID pool act).store =
        (if succeeds then t.call.write monitorID o.found pool.store else pool.store) ∧
      ∀ weight, tally weight (uptimeStep monitorID pool act) =
        tally weight pool + weight t.call := by
  unfold CountsOnFound uptimeStep
  cases act with
  | call c =>
    refine Or.inl ⟨trivial, rfl, fun weight => ?_⟩
    simp [tally, Pool.step, wrote]
  | op k succeeds =>
    rcases pool.step_op_cases (UptimeCall.program monitorID) k succeeds with
      ⟨t, upd, next, h⟩ | ⟨hstay, hnone⟩
    · have hrest := h.rest
      rw [rest_eq] at hrest
      have htally : ∀ (o : Observation Database) (weight : UptimeCall today → ℤ),
          tally weight { pool with threads := pool.threads.set k (t.observe o) } =
            tally weight pool - (if wrote t then weight t.call else 0) +
              if wrote (t.observe o) then weight t.call else 0 := fun o weight =>
        sum_map_set h.thread (t.observe o) fun t => if wrote t then weight t.call else 0
      rcases hseen : t.seen with _ | ⟨o, _ | ⟨o', rest⟩⟩
      · rw [hseen, Prog.op.injEq] at hrest
        refine Or.inl ⟨h.onOperations_iff succeeds |>.mpr fun o ho => ?_, ?_, fun weight => ?_⟩
        · rw [hseen] at ho
          cases ho
        · rw [h.step_eq, ← hrest.1]
          cases succeeds <;> rfl
        · rw [h.step_eq]
          refine (htally _ weight).trans ?_
          simp [wrote, Thread.observe, hseen]
      · rw [hseen, Prog.op.injEq] at hrest
        refine Or.inr ⟨t, o, succeeds, hseen, h.onOperations_iff succeeds, ?_, fun weight => ?_⟩
        · rw [h.step_eq, ← hrest.1]
        · rw [h.step_eq]
          refine (htally _ weight).trans ?_
          simp [wrote, Thread.observe, hseen]
      · rw [hseen] at hrest
        cases hrest
    · refine Or.inl ⟨fun t upd next h => absurd h (hnone t upd next), ?_, fun weight => ?_⟩
      · rw [hstay]
      · rw [hstay]

def ShareRight (pool : UptimePool today) : Prop :=
  ∀ record ∈ dailyRecords monitorID today pool.store,
    record.uptimePercent = 100 * record.successfulChecks / record.totalChecks

def Complete (pool : UptimePool today) : Prop :=
  ∀ t ∈ pool.threads, (t.result (UptimeCall.program monitorID)).isSome

instance (pool : UptimePool today) : Decidable (Complete monitorID pool) :=
  inferInstanceAs (Decidable (∀ t ∈ pool.threads,
    (t.result (UptimeCall.program monitorID)).isSome = true))

/-- When there is a call, the day has one record and it counts every call. -/
def Counted (pool : UptimePool today) : Prop :=
  pool.threads ≠ [] → ∃ record, dailyRecords monitorID today pool.store = [record] ∧
    record.totalChecks = pool.threads.length ∧
    record.successfulChecks = pool.threads.countP (fun t => t.call.status = .up)

/-- One record counts the calls that have written, and there is none before the first. -/
def Tallied (pool : UptimePool today) : Prop :=
  (dailyRecords monitorID today pool.store = [] ∧ ∀ weight, tally weight pool = 0) ∨
    ∃ record, dailyRecords monitorID today pool.store = [record] ∧
      record.totalChecks = tally (fun _ => 1) pool ∧
      record.successfulChecks = tally UptimeCall.successful pool ∧
      record.uptimePercent = 100 * record.successfulChecks / record.totalChecks

/-- A second record, or a call that wrote without being counted: neither is undone. -/
def Miscounted (pool : UptimePool today) : Prop :=
  2 ≤ (dailyRecords monitorID today pool.store).length ∨
    ((dailyRecords monitorID today pool.store).map (·.totalChecks)).sum < tally (fun _ => 1) pool

theorem Tallied.shareRight {pool : UptimePool today} (h : Tallied monitorID pool) :
    ShareRight monitorID pool := by
  intro record hmem
  rcases h with ⟨hnone, -⟩ | ⟨stored, hone, -, -, hshare⟩
  · rw [hnone] at hmem
    cases hmem
  · rw [hone, List.mem_singleton] at hmem
    rwa [hmem]

theorem countCheck_share (existing : Option DailyUptime) (c : UptimeCall today)
    (record : DailyUptime) :
    (countCheck existing c.successful record).uptimePercent =
        100 * (countCheck existing c.successful record).successfulChecks /
          (countCheck existing c.successful record).totalChecks ↔
      c.share (existing.elim 0 (·.totalChecks)) (existing.elim 0 (·.successfulChecks)) =
        c.share record.totalChecks record.successfulChecks := by
  unfold countCheck UptimeCall.share
  dsimp only
  rw [mul_comm, mul_div_assoc]
  exact mul_right_inj' (by norm_num)

theorem entry_share (c : UptimeCall today) :
    (c.entry monitorID).uptimePercent =
      100 * (c.entry monitorID).successfulChecks / (c.entry monitorID).totalChecks := by
  simp [UptimeCall.entry, firstUptime, mul_comm]

theorem Tallied.sum_eq {pool : UptimePool today} (h : Tallied monitorID pool) :
    ((dailyRecords monitorID today pool.store).map (·.totalChecks)).sum =
      tally (fun _ => 1) pool := by
  rcases h with ⟨hnone, hzero⟩ | ⟨record, hone, htotal, -⟩
  · rw [hnone, hzero]
    rfl
  · rw [hone, List.map_singleton, List.sum_singleton, htotal]

section Writes
variable {pool pool' : UptimePool today} {c : UptimeCall today}
  (htally : ∀ weight, tally weight pool' = tally weight pool + weight c)
include htally

theorem Tallied.miscounted (h : Tallied monitorID pool)
    (hsame : dailyRecords monitorID today pool'.store = dailyRecords monitorID today pool.store) :
    Miscounted monitorID pool' := by
  refine Or.inr ?_
  rw [hsame, h.sum_eq, htally]
  omega

theorem Tallied.insert (h : Tallied monitorID pool)
    (hrecords : dailyRecords monitorID today pool'.store =
      dailyRecords monitorID today pool.store ++ [c.entry monitorID]) :
    (dailyRecords monitorID today pool.store = [] → Tallied monitorID pool') ∧
      (dailyRecords monitorID today pool.store ≠ [] → Miscounted monitorID pool') := by
  rcases h with ⟨hnone, hzero⟩ | ⟨record, hone, -⟩
  · rw [hnone, List.nil_append] at hrecords
    refine ⟨fun _ => Or.inr ⟨_, hrecords, ?_, ?_, entry_share monitorID c⟩,
      fun hne => absurd hnone hne⟩
    · rw [htally, hzero]
      rfl
    · rw [htally, hzero, zero_add]
      rfl
  · refine ⟨fun hnone => ?_, fun _ => Or.inl ?_⟩
    · rw [hone] at hnone
      cases hnone
    · rw [hrecords, hone]
      rfl

theorem Tallied.increment (h : Tallied monitorID pool) (existing : Option DailyUptime)
    (hrecords : dailyRecords monitorID today pool'.store =
      (dailyRecords monitorID today pool.store).modifyHead (countCheck existing c.successful)) :
    ((∃ record ∈ dailyRecords monitorID today pool.store,
        c.share (existing.elim 0 (·.totalChecks)) (existing.elim 0 (·.successfulChecks)) =
          c.share record.totalChecks record.successfulChecks) → Tallied monitorID pool') ∧
      (ShareRight monitorID pool' →
        (¬ ∃ record ∈ dailyRecords monitorID today pool.store,
          c.share (existing.elim 0 (·.totalChecks)) (existing.elim 0 (·.successfulChecks)) =
            c.share record.totalChecks record.successfulChecks) → Miscounted monitorID pool') := by
  rcases h with ⟨hnone, hzero⟩ | ⟨record, hone, htotal, hsuccessful, hshare⟩
  · rw [hnone] at hrecords ⊢
    refine ⟨fun ⟨_, hmem, _⟩ => absurd hmem List.not_mem_nil, fun _ _ => Or.inr ?_⟩
    rw [hrecords, htally, hzero]
    change (0 : ℤ) < 0 + 1
    omega
  · rw [hone, List.modifyHead_cons] at hrecords
    rw [hone]
    refine ⟨?_, fun hright hne => absurd ⟨record, List.mem_singleton_self _, ?_⟩ hne⟩
    · intro ⟨stored, hmem, hsame⟩
      rw [List.mem_singleton.mp hmem] at hsame
      refine Or.inr ⟨_, hrecords, ?_, ?_, (countCheck_share existing c record).mpr hsame⟩
      · rw [htally, ← htotal]
        rfl
      · rw [htally, ← hsuccessful]
        rfl
    · exact (countCheck_share existing c record).mp
        (hright _ (by rw [hrecords]; exact List.mem_singleton_self _))

end Writes

theorem Tallied.write {pool pool' : UptimePool today} (h : Tallied monitorID pool)
    {t : Thread (UptimeCall today) Database} {o : Observation Database} {succeeds : Bool}
    (hseen : t.seen = [o])
    (hstore : pool'.store =
      if succeeds then t.call.write monitorID o.found pool.store else pool.store)
    (htally : ∀ weight, tally weight pool' = tally weight pool + weight t.call) :
    (WritesOnFound monitorID pool t id succeeds → Tallied monitorID pool') ∧
      (ShareRight monitorID pool' → ¬ WritesOnFound monitorID pool t id succeeds →
        Miscounted monitorID pool') := by
  have hone : ∀ {P : Observation Database → Prop}, (∀ o', t.seen = [o'] → P o') ↔ P o := by
    intro P
    rw [hseen]
    exact ⟨fun hall => hall o rfl, fun hP o' ho' => by cases ho'; exact hP⟩
  unfold WritesOnFound
  rw [hone]
  cases succeeds with
  | false =>
    refine ⟨fun hfound => absurd hfound.1 (by simp), fun _ _ => ?_⟩
    exact h.miscounted monitorID htally (by rw [hstore]; rfl)
  | true =>
    rw [if_pos rfl] at hstore
    have hrecords := dailyRecords_write monitorID t.call o.found pool.store
    rw [← hstore] at hrecords
    rcases hread : readRecord monitorID today o.found with _ | (_ | read) <;>
      rw [hread] at hrecords <;> dsimp only at hrecords ⊢
    · simpa using h.increment monitorID htally none hrecords
    · cases hfresh : pool.store.dailyUptime.contains (t.call.rt.newID 0) with
      | true =>
        rw [hfresh, if_pos rfl] at hrecords
        exact ⟨fun hfound => absurd hfound.2.2 (by simp),
          fun _ _ => h.miscounted monitorID htally hrecords⟩
      | false =>
        rw [hfresh, if_neg (by simp)] at hrecords
        have hinsert := h.insert monitorID htally hrecords
        exact ⟨fun hfound => hinsert.1 hfound.2.1,
          fun _ hne => hinsert.2 fun hnone => hne ⟨rfl, hnone, rfl⟩⟩
    · simpa using h.increment monitorID htally (some read) hrecords

theorem Miscounted.step {pool : UptimePool today} (h : Miscounted monitorID pool)
    (act : Act (UptimeCall today)) :
    Miscounted monitorID (uptimeStep monitorID pool act) := by
  rcases uptime_step_cases monitorID pool act with
    ⟨-, hstore, htally⟩ | ⟨t, o, succeeds, -, -, hstore, htally⟩
  · unfold Miscounted
    rwa [hstore, htally]
  · unfold Miscounted
    rw [hstore, htally]
    cases succeeds with
    | false =>
      rw [if_neg (by simp)]
      exact h.imp_right fun hlt => by omega
    | true =>
      rw [if_pos rfl, dailyRecords_write]
      have hincrement : ∀ existing : Option DailyUptime,
          2 ≤ ((dailyRecords monitorID today pool.store).modifyHead
              (countCheck existing t.call.successful)).length ∨
            (((dailyRecords monitorID today pool.store).modifyHead
              (countCheck existing t.call.successful)).map (·.totalChecks)).sum <
                tally (fun _ => 1) pool + 1 := by
        intro existing
        refine h.imp (fun hlen => by rwa [List.length_modifyHead]) fun hlt => ?_
        cases hrecords : dailyRecords monitorID today pool.store with
        | nil =>
          rw [hrecords] at hlt
          exact hlt.trans (by omega)
        | cons record rest =>
          rw [hrecords, List.map_cons, List.sum_cons] at hlt
          rw [List.modifyHead_cons, List.map_cons, List.sum_cons]
          dsimp only [countCheck]
          omega
      rcases readRecord monitorID today o.found with _ | (_ | read) <;> dsimp only
      · exact hincrement none
      · split_ifs
        · exact h.imp_right fun hlt => by omega
        · rw [List.length_append, List.map_append, List.sum_append]
          refine h.imp (fun hlen => by omega) fun hlt => ?_
          change _ + 1 < _
          omega
      · exact hincrement (some read)

theorem Tallied.step {pool : UptimePool today} (h : Tallied monitorID pool)
    (act : Act (UptimeCall today)) :
    (CountsOnFound monitorID pool act → Tallied monitorID (uptimeStep monitorID pool act)) ∧
      (ShareRight monitorID (uptimeStep monitorID pool act) →
        ¬ CountsOnFound monitorID pool act →
          Miscounted monitorID (uptimeStep monitorID pool act)) := by
  rcases uptime_step_cases monitorID pool act with
    ⟨hfound, hstore, htally⟩ | ⟨t, o, succeeds, hseen, hiff, hstore, htally⟩
  · refine ⟨fun _ => ?_, fun _ hne => absurd hfound hne⟩
    unfold Tallied
    simp only [hstore, htally]
    exact h
  · rw [hiff]
    exact h.write monitorID hseen hstore htally

theorem result_isSome_iff (t : Thread (UptimeCall today) Database) :
    (t.result (UptimeCall.program monitorID)).isSome ↔ wrote t = true := by
  unfold Thread.result wrote
  rw [rest_eq]
  rcases t.seen with _ | ⟨o, _ | ⟨o', rest⟩⟩ <;> simp

theorem Complete.tally_eq {pool : UptimePool today} (h : Complete monitorID pool)
    (weight : UptimeCall today → ℤ) :
    tally weight pool = (pool.threads.map fun t => weight t.call).sum := by
  refine congrArg List.sum (List.map_congr_left fun t ht => if_pos ?_)
  exact (result_isSome_iff monitorID t).mp (h t ht)

theorem sum_successful (threads : List (Thread (UptimeCall today) Database)) :
    (threads.map fun t => t.call.successful).sum =
      threads.countP (fun t => t.call.status = .up) := by
  induction threads with
  | nil => rfl
  | cons t threads ih =>
    rw [List.map_cons, List.sum_cons, ih, List.countP_cons]
    unfold UptimeCall.successful
    split_ifs <;> simp_all [add_comm]

theorem Tallied.counted {pool : UptimePool today} (h : Tallied monitorID pool)
    (hcomplete : Complete monitorID pool) : Counted monitorID pool := by
  have hone : tally (fun _ => 1) pool = pool.threads.length := by
    rw [hcomplete.tally_eq]
    simp
  rintro hcalls
  rcases h with ⟨-, hzero⟩ | ⟨record, hrecord, htotal, hsuccessful, -⟩
  · rw [hzero] at hone
    exact absurd (List.length_eq_zero_iff.mp (by omega)) hcalls
  · refine ⟨record, hrecord, htotal.trans hone, ?_⟩
    rw [hsuccessful, hcomplete.tally_eq, sum_successful]

theorem Counted.not_miscounted {pool : UptimePool today} (h : Counted monitorID pool)
    (hcomplete : Complete monitorID pool) (hcalls : pool.threads ≠ []) :
    ¬ Miscounted monitorID pool := by
  obtain ⟨record, hrecord, htotal, -⟩ := h hcalls
  unfold Miscounted
  rw [hrecord, hcomplete.tally_eq]
  simp [htotal]

end Calls

theorem uptime_run_iff (monitorID : ObjectID) (today : ℤ) (db : Database)
    (acts : List (Act (UptimeCall today))) (hfirst : dailyRecords monitorID today db = []) :
    (AllSteps (uptimeStep monitorID) (CountsOnFound monitorID) { store := db } acts →
      AllStates (uptimeStep monitorID) (ShareRight monitorID) { store := db } acts) ∧
    (Complete monitorID (run (uptimeStep monitorID) { store := db } acts) →
      (AllStates (uptimeStep monitorID) (ShareRight monitorID) { store := db } acts ∧
          Counted monitorID (run (uptimeStep monitorID) { store := db } acts) ↔
        AllSteps (uptimeStep monitorID) (CountsOnFound monitorID) { store := db } acts)) := by
  have h0 : Tallied monitorID ({ store := db } : UptimePool today) :=
    Or.inl ⟨hfirst, fun _ => rfl⟩
  have hright (hfound : AllSteps (uptimeStep monitorID) (CountsOnFound monitorID) { store := db }
      acts) :=
    allStates_of_invariant (J := Tallied monitorID) (I := ShareRight monitorID)
      (fun _ h => h.shareRight) (fun _ act h => (h.step monitorID act).1) h0 hfound
  refine ⟨fun hfound => (hright hfound).2, fun hcomplete => ⟨fun ⟨hshare, hcounted⟩ => ?_,
    fun hfound => ⟨(hright hfound).2, (hright hfound).1.last.counted monitorID hcomplete⟩⟩⟩
  refine allSteps_of_not_lost (J := Tallied monitorID)
    (L := fun pool => pool.threads ≠ [] ∧ Miscounted monitorID pool)
    (fun pool act h => (h.step monitorID act).1) (fun pool act h hright hne => ?_)
    (fun pool act h => ⟨Pool.step_threads_ne_nil h.1 act, h.2.step monitorID act⟩) h0 hshare
    fun hlost => hcounted.not_miscounted monitorID hcomplete hlost.1 hlost.2
  have hcalls : pool.threads ≠ [] := fun hnil => hne (onOperations_of_no_calls hnil _ act)
  exact ⟨Pool.step_threads_ne_nil hcalls act, (h.step monitorID act).2 hright hne⟩

def firstCallsTogether : List (Act (UptimeCall 0)) :=
  [.call ⟨.up, ⟨fun _ => 0, fun _ => 1#96⟩, rfl⟩, .call ⟨.up, ⟨fun _ => 0, fun _ => 2#96⟩, rfl⟩,
    .op 0 true, .op 1 true, .op 0 true, .op 1 true]

theorem uptime_run_iff_together :
    AllStates (uptimeStep 7#96) (ShareRight 7#96) { store := {} } firstCallsTogether ∧
        Counted 7#96 (run (uptimeStep 7#96) { store := {} } firstCallsTogether) ↔
      AllSteps (uptimeStep 7#96) (CountsOnFound 7#96) { store := {} } firstCallsTogether :=
  (uptime_run_iff 7#96 0 {} firstCallsTogether rfl).2 (by decide +kernel)

theorem firstCallsTogether_miscounted :
    dailyRecords 7#96 0 {} = [] ∧
    Complete 7#96 (run (uptimeStep 7#96) { store := {} } firstCallsTogether) ∧
    ¬ Counted 7#96 (run (uptimeStep 7#96) { store := {} } firstCallsTogether) := by
  refine ⟨rfl, by decide +kernel, fun h => ?_⟩
  obtain ⟨record, hrecord, -⟩ := h (by decide +kernel)
  have htwo : (dailyRecords 7#96 0
      (run (uptimeStep 7#96) { store := {} } firstCallsTogether).store).length = 2 := by
    decide +kernel
  rw [hrecord] at htwo
  exact absurd htwo (by simp)

end Statora.Worker
