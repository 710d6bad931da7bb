import Statora.Worker.CheckProgress

/-!
# The scheduler

Every ten seconds a tick starts a cycle, unless the last one is still running. The
cycle reads the monitors, starts a check for each one that is due and does not
wait for the checks. What is due is decided on the time that the last check has
written. So the checks of a monitor come one after the other, its interval apart,
as long as a cycle reads no monitor whose check has yet to write.
-/

namespace Statora.Worker
open Library (Thread Pool AllStates AllSteps run pairwise_set allSteps_and allStates_of_invariant)

def defaultMonitorIntervalSeconds : ℤ := 60

def effectiveIntervalSeconds (interval : ℤ) : ℤ :=
  if interval ≤ 0 then defaultMonitorIntervalSeconds else interval

/-- The product of a number of seconds with `time.Second`, in 64 bits. -/
def durationOfSeconds (seconds : ℤ) : ℤ := Int.bmod (seconds * second) 18446744073709551616

def shouldRunMonitor (mon : Monitor) (now : ℤ) : Bool :=
  match mon.lastCheckedAt with
  | none => true
  | some lastCheckedAt =>
    let nextRun := lastCheckedAt + durationOfSeconds (effectiveIntervalSeconds mon.intervalSeconds)
    !decide (now < nextRun)

/-- What the cycle is at: with `rest` still to be examined, then `due` to be started. -/
inductive Cycle
  | idle
  | fetching
  | running (rest due : List Monitor)
  deriving DecidableEq

/-- `now` is the last reading of the clock in `shouldRunMonitor`. -/
structure Scheduler where
  pool : Pool Check Database
  cycle : Cycle := .idle
  now : ℤ

inductive SchedulerEvent
  | tick
  | fetch (succeeds : Bool)
  | examine (now : ℤ)
  | launch (probes : Probes) (rt : CheckRuntime)
  | op (k : ℕ) (succeeds : Bool)
  | finish

def Scheduler.step (s : Scheduler) : SchedulerEvent → Scheduler
  | .tick =>
    match s.cycle with
    | .idle => { s with cycle := .fetching }
    -- The previous cycle is still running and the tick is skipped.
    | _ => s
  | .fetch succeeds =>
    match s.cycle with
    | .fetching =>
      { s with cycle := .running (if succeeds then s.pool.store.monitors.docs else []) [] }
    | _ => s
  | .examine now =>
    match s.cycle with
    | .running (mon :: rest) due =>
      { s with
        cycle := .running rest (if shouldRunMonitor mon now then due ++ [mon] else due)
        now := now }
    | _ => s
  | .launch probes rt =>
    match s.cycle with
    | .running [] (mon :: due) =>
      { s with
        pool := s.pool.step Check.program (.call ⟨mon, probes, rt⟩)
        cycle := .running [] due }
    | _ => s
  | .op k succeeds => { s with pool := s.pool.step Check.program (.op k succeeds) }
  | .finish =>
    match s.cycle with
    | .running [] [] => { s with cycle := .idle }
    | _ => s

def Timely (s : Scheduler) : SchedulerEvent → Prop
  | .examine now => s.now ≤ now
  | .launch _ rt => s.now ≤ rt.check.clock 0 ∧ rt.check.clock 0 ≤ rt.check.clock 3
  | _ => True

instance (s : Scheduler) : (event : SchedulerEvent) → Decidable (Timely s event)
  | .examine now => inferInstanceAs (Decidable (s.now ≤ now))
  | .launch _ rt => inferInstanceAs (Decidable (s.now ≤ rt.check.clock 0 ∧ _))
  | .tick | .fetch _ | .op _ _ | .finish => inferInstanceAs (Decidable True)

/-- What a check may take from the time it writes to its monitor: what is left of its own
five seconds, five for the daily uptime and ten for the outage. -/
def contextTime : ℤ := 20 * second

/-- No check runs longer than its contexts let it. -/
def WithinContexts (s : Scheduler) : SchedulerEvent → Prop
  | .examine now => ∀ t ∈ s.pool.threads, Running t → now ≤ t.call.lastCheckedAt + contextTime
  | _ => True

instance (s : Scheduler) : (event : SchedulerEvent) → Decidable (WithinContexts s event)
  | .examine now => inferInstanceAs (Decidable (∀ t ∈ s.pool.threads, Running t →
      now ≤ t.call.lastCheckedAt + contextTime))
  | .tick | .fetch _ | .launch _ _ | .op _ _ | .finish => inferInstanceAs (Decidable True)

def interval (mon : Monitor) : ℤ := effectiveIntervalSeconds mon.intervalSeconds * second

/-- Of two checks of one monitor the first has ended, and the second started at
least the monitor's interval after it. -/
def Apart (t t' : Thread Check Database) : Prop :=
  t.call.mon.id = t'.call.mon.id →
    ¬ (Running t ∧ Running t') ∧ t.call.startedAt + interval t'.call.mon ≤ t'.call.startedAt

instance (t t' : Thread Check Database) : Decidable (Apart t t') :=
  inferInstanceAs (Decidable (_ → _))

def OneAtATime (s : Scheduler) : Prop := s.pool.threads.Pairwise Apart

/-- When a cycle reads a monitor, every check of it that was started before has written to
it, and what such a check may still take is less than the interval. -/
def ReadsStored (s : Scheduler) : SchedulerEvent → Prop
  | .fetch true => s.cycle = .fetching → ∀ mon ∈ s.pool.store.monitors.docs,
      ∀ t ∈ s.pool.threads, t.call.mon.id = mon.id →
        Stored t ∧ (Running t → contextTime < interval mon) ∧ interval mon < 9223372036854775808
  | _ => True

instance (s : Scheduler) : (event : SchedulerEvent) → Decidable (ReadsStored s event)
  | .fetch true => inferInstanceAs (Decidable (s.cycle = .fetching →
      ∀ mon ∈ s.pool.store.monitors.docs, ∀ t ∈ s.pool.threads, t.call.mon.id = mon.id →
        Stored t ∧ (Running t → contextTime < interval mon) ∧
          interval mon < 9223372036854775808))
  | .tick | .fetch false | .examine _ | .launch _ _ | .op _ _ | .finish =>
    inferInstanceAs (Decidable True)

theorem effectiveIntervalSeconds_pos (interval : ℤ) : 0 < effectiveIntervalSeconds interval := by
  unfold effectiveIntervalSeconds defaultMonitorIntervalSeconds
  split_ifs <;> omega

theorem durationOfSeconds_effective {mon : Monitor} (h : interval mon < 9223372036854775808) :
    durationOfSeconds (effectiveIntervalSeconds mon.intervalSeconds) = interval mon := by
  have hpos := effectiveIntervalSeconds_pos mon.intervalSeconds
  unfold interval second at h
  unfold durationOfSeconds interval second
  exact Int.bmod_eq_of_le (by omega) (by omega)

theorem shouldRunMonitor_iff {mon : Monitor} (h : interval mon < 9223372036854775808) (now : ℤ) :
    shouldRunMonitor mon now = true ↔
      ∀ lastCheckedAt ∈ mon.lastCheckedAt, lastCheckedAt + interval mon ≤ now := by
  unfold shouldRunMonitor
  rw [durationOfSeconds_effective h]
  cases mon.lastCheckedAt <;> simp

/-- A cycle is left alone by the ticks that come while it is under way: nothing is read
again until its monitors are examined and the due ones started. -/
theorem Scheduler.step_cases (s : Scheduler) (event : SchedulerEvent) :
    (∃ k succeeds, event = .op k succeeds) ∨
    (∃ probes rt mon due, event = .launch probes rt ∧ s.cycle = .running [] (mon :: due) ∧
      s.step event = { s with
        pool := s.pool.step Check.program (.call ⟨mon, probes, rt⟩), cycle := .running [] due }) ∨
    (∃ now mon rest due, event = .examine now ∧ s.cycle = .running (mon :: rest) due ∧
      s.step event = { s with
        cycle := .running rest (if shouldRunMonitor mon now then due ++ [mon] else due)
        now := now }) ∨
    (event = .fetch true ∧ s.cycle = .fetching ∧
      s.step event = { s with cycle := .running s.pool.store.monitors.docs [] }) ∨
    (s.step event).pool = s.pool ∧ (s.step event).now = s.now ∧
      ∀ rest due, (s.step event).cycle = .running rest due →
        rest = [] ∧ due = [] ∨ s.cycle = .running rest due := by
  obtain ⟨pool, cycle, now⟩ := s
  cases event with
  | op k succeeds => exact Or.inl ⟨k, succeeds, rfl⟩
  | launch probes rt =>
    rcases cycle with _ | _ | ⟨_ | ⟨mon, rest⟩, _ | ⟨mon', due⟩⟩
    case running.nil.cons => exact Or.inr (Or.inl ⟨probes, rt, mon', due, rfl, rfl, rfl⟩)
    all_goals exact Or.inr (Or.inr (Or.inr (Or.inr ⟨rfl, rfl, fun _ _ h => Or.inr h⟩)))
  | examine now' =>
    rcases cycle with _ | _ | ⟨_ | ⟨mon, rest⟩, due⟩
    case running.cons => exact Or.inr (Or.inr (Or.inl ⟨now', mon, rest, due, rfl, rfl, rfl⟩))
    all_goals exact Or.inr (Or.inr (Or.inr (Or.inr ⟨rfl, rfl, fun _ _ h => Or.inr h⟩)))
  | fetch succeeds =>
    refine Or.inr (Or.inr (Or.inr ?_))
    cases cycle with
    | fetching =>
      cases succeeds with
      | true => exact Or.inl ⟨rfl, rfl, rfl⟩
      | false => exact Or.inr ⟨rfl, rfl, fun _ _ h => by cases h; exact Or.inl ⟨rfl, rfl⟩⟩
    | idle | running rest due => exact Or.inr ⟨rfl, rfl, fun _ _ h => Or.inr h⟩
  | tick =>
    refine Or.inr (Or.inr (Or.inr (Or.inr ?_)))
    cases cycle with
    | idle => exact ⟨rfl, rfl, fun _ _ h => by cases h⟩
    | fetching | running rest due => exact ⟨rfl, rfl, fun _ _ h => Or.inr h⟩
  | finish =>
    refine Or.inr (Or.inr (Or.inr (Or.inr ?_)))
    rcases cycle with _ | _ | ⟨_ | ⟨mon, rest⟩, _ | ⟨mon', due⟩⟩
    case running.nil.nil => exact ⟨rfl, rfl, fun _ _ h => by cases h⟩
    all_goals exact ⟨rfl, rfl, fun _ _ h => Or.inr h⟩

/-- The check has ended, and the monitor's interval has passed since the time it wrote. -/
structure Elapsed (t : Thread Check Database) (mon : Monitor) (time : ℤ) : Prop where
  stored : Stored t
  ended : ¬ Running t
  waited : t.call.lastCheckedAt + interval mon ≤ time

structure ReadSince (t : Thread Check Database) (mon : Monitor) : Prop where
  stored : Stored t
  short : Running t → contextTime < interval mon
  fits : interval mon < 9223372036854775808
  checked : ∃ lastCheckedAt ∈ mon.lastCheckedAt, t.call.lastCheckedAt ≤ lastCheckedAt

/-- What holds of the monitors that a cycle has read, with `rest` still to be examined and
`due` to be started. -/
structure ReadInTurn (s : Scheduler) (rest due : List Monitor) : Prop where
  distinct : ((due ++ rest).map (·.id)).Nodup
  rest : ∀ mon ∈ rest, ∀ t ∈ s.pool.threads, t.call.mon.id = mon.id → ReadSince t mon
  due : ∀ mon ∈ due, ∀ t ∈ s.pool.threads, t.call.mon.id = mon.id → Elapsed t mon s.now

def Follows (t t' : Thread Check Database) : Prop :=
  t.call.mon.id = t'.call.mon.id → Elapsed t t'.call.mon t'.call.startedAt

/-- A check is started when the interval has passed since the earlier ones of its monitor
have written, and they have ended. -/
structure InTurn (s : Scheduler) : Prop where
  started : ∀ t ∈ s.pool.threads, t.call.startedAt ≤ t.call.lastCheckedAt
  inTurn : s.pool.threads.Pairwise Follows
  upToDate : MonitorsUpToDate s.pool
  read : ∀ rest due, s.cycle = .running rest due → ReadInTurn s rest due

section Pair
variable {t : Thread Check Database} {mon : Monitor} {time : ℤ}

theorem interval_pos (mon : Monitor) : 0 < interval mon :=
  Int.mul_pos (effectiveIntervalSeconds_pos mon.intervalSeconds) (by decide)

theorem Elapsed.later (h : Elapsed t mon time) {later : ℤ} (hle : time ≤ later) :
    Elapsed t mon later :=
  ⟨h.stored, h.ended, h.waited.trans hle⟩

theorem ReadSince.observe (h : ReadSince t mon) (hrunning : Running t)
    (o : Library.Observation Database) : ReadSince (t.observe o) mon :=
  ⟨h.stored.observe o, fun _ => h.short hrunning, h.fits, h.checked⟩

theorem ReadSince.elapsed (h : ReadSince t mon) (hdue : shouldRunMonitor mon time = true)
    (hcontexts : Running t → time ≤ t.call.lastCheckedAt + contextTime) : Elapsed t mon time := by
  obtain ⟨lastCheckedAt, hlast, hchecked⟩ := h.checked
  have hwaited : t.call.lastCheckedAt + interval mon ≤ time :=
    calc t.call.lastCheckedAt + interval mon ≤ lastCheckedAt + interval mon := by omega
      _ ≤ time := (shouldRunMonitor_iff h.fits time).mp hdue lastCheckedAt hlast
  refine ⟨h.stored, fun hrunning => ?_, hwaited⟩
  have hexpired := hcontexts hrunning
  have hshort := h.short hrunning
  omega

end Pair

theorem InTurn.oneAtATime {s : Scheduler} (h : InTurn s) : OneAtATime s := by
  refine h.inTurn.imp_of_mem fun {t t'} hmem _ helapsed hsame => ?_
  have hended := helapsed hsame
  refine ⟨fun hboth => hended.ended hboth.1, ?_⟩
  calc t.call.startedAt + interval t'.call.mon ≤ t.call.lastCheckedAt + interval t'.call.mon := by
        have hstarted := h.started t hmem
        omega
    _ ≤ t'.call.startedAt := hended.waited

/-- Of any two checks of one monitor one follows the other. -/
theorem InTurn.follows {s : Scheduler} (h : InTurn s) {i j : ℕ} {t t' : Thread Check Database}
    (hi : s.pool.threads[i]? = some t) (hj : s.pool.threads[j]? = some t') (hne : i ≠ j) :
    Follows t t' ∨ Follows t' t := by
  obtain ⟨hilt, rfl⟩ := List.getElem?_eq_some_iff.mp hi
  obtain ⟨hjlt, rfl⟩ := List.getElem?_eq_some_iff.mp hj
  have hordered := List.pairwise_iff_getElem.mp h.inTurn
  rcases Nat.lt_or_gt_of_ne hne with hlt | hlt
  · exact Or.inl (hordered i j hilt hjlt hlt)
  · exact Or.inr (hordered j i hjlt hilt hlt)

theorem InTurn.op {s : Scheduler} (h : InTurn s) (k : ℕ) (succeeds : Bool) :
    InTurn (s.step (.op k succeeds)) := by
  have hupToDate : MonitorsUpToDate (s.pool.step Check.program (.op k succeeds)) := by
    refine h.upToDate.op (fun t hmem hrunning hunstored t' hmem' hstored hsame => ?_) k succeeds
    obtain ⟨i, hi⟩ := List.mem_iff_getElem?.mp hmem'
    obtain ⟨j, hj⟩ := List.mem_iff_getElem?.mp hmem
    have hne : i ≠ j := by
      rintro rfl
      exact hunstored (Option.some.inj (hi.symm.trans hj) ▸ hstored)
    rcases h.follows hi hj hne with hfollows | hfollows
    · have hpos := interval_pos t.call.mon
      have hstarted := h.started t hmem
      have hwaited := (hfollows hsame).waited
      omega
    · exact absurd hrunning (hfollows hsame.symm).ended
  rcases s.pool.step_op_cases Check.program k succeeds with
    ⟨t, upd, next, hperforming⟩ | ⟨hstay, -⟩
  · have hrunning := running_of_rest hperforming.rest
    refine ⟨hperforming.forall_step h.started (h.started t hperforming.mem), ?_, hupToDate,
      fun rest due hcycle => ?_⟩
    · change (s.pool.step Check.program (.op k succeeds)).threads.Pairwise _
      rw [hperforming.step_eq]
      exact pairwise_set hperforming.thread h.inTurn
        (fun t' hfollows hsame => absurd hrunning (hfollows hsame).ended)
        fun t' hfollows hsame => hfollows hsame
    · have hread := h.read rest due hcycle
      refine ⟨hread.distinct, fun mon hmem => ?_, fun mon hmem => ?_⟩
      · exact hperforming.forall_step (hread.rest mon hmem) fun hsame =>
          (hread.rest mon hmem t hperforming.mem hsame).observe hrunning _
      · exact hperforming.forall_step (hread.due mon hmem) fun hsame =>
          absurd hrunning (hread.due mon hmem t hperforming.mem hsame).ended
  · change InTurn { s with pool := s.pool.step Check.program (.op k succeeds) }
    rwa [hstay]

theorem InTurn.launch {s : Scheduler} (h : InTurn s) {mon : Monitor} {due : List Monitor}
    (hcycle : s.cycle = .running [] (mon :: due)) {probes : Probes} {rt : CheckRuntime}
    (htimely : Timely s (.launch probes rt)) :
    InTurn { s with
      pool := s.pool.step Check.program (.call ⟨mon, probes, rt⟩), cycle := .running [] due } := by
  have hread := h.read _ _ hcycle
  have hdistinct := hread.distinct
  rw [List.append_nil, List.map_cons, List.nodup_cons] at hdistinct
  have hthreads : ∀ {P : Thread Check Database → Prop}, (∀ t ∈ s.pool.threads, P t) →
      P { call := ⟨mon, probes, rt⟩ } →
        ∀ t ∈ (s.pool.step Check.program (.call ⟨mon, probes, rt⟩)).threads, P t :=
    Pool.forall_step_call
  refine ⟨hthreads h.started htimely.2, ?_, ?_, fun rest' due' hnow => ?_⟩
  · refine List.pairwise_append.mpr ⟨h.inTurn, List.pairwise_singleton _ _,
      fun t hmem t' hmem' hsame => ?_⟩
    obtain rfl := List.mem_singleton.mp hmem'
    exact (hread.due mon List.mem_cons_self t hmem hsame).later htimely.1
  · exact hthreads h.upToDate fun hstored => absurd hstored.two_le (by simp)
  · cases hnow
    refine ⟨by simpa using hdistinct.2, fun mon' hmem => absurd hmem List.not_mem_nil,
      fun mon' hmem => ?_⟩
    refine hthreads (hread.due mon' (List.mem_cons_of_mem _ hmem)) fun hsame => ?_
    exact absurd (List.mem_map.mpr ⟨mon', hmem, hsame.symm⟩) hdistinct.1

theorem InTurn.examine {s : Scheduler} (h : InTurn s) {mon : Monitor} {rest due : List Monitor}
    (hcycle : s.cycle = .running (mon :: rest) due) {now : ℤ} (htimely : Timely s (.examine now))
    (hcontexts : WithinContexts s (.examine now)) :
    InTurn { s with
      cycle := .running rest (if shouldRunMonitor mon now then due ++ [mon] else due)
      now := now } := by
  have hread := h.read _ _ hcycle
  have hearlier : ∀ mon' ∈ due, ∀ t ∈ s.pool.threads, t.call.mon.id = mon'.id →
      Elapsed t mon' now := fun mon' hmem t ht hsame =>
    (hread.due mon' hmem t ht hsame).later htimely
  refine ⟨h.started, h.inTurn, h.upToDate, fun rest' due' hnow => ?_⟩
  cases hnow
  refine ⟨?_, fun mon' hmem => hread.rest mon' (List.mem_cons_of_mem _ hmem), ?_⟩
  · split_ifs
    · simpa using hread.distinct
    · exact hread.distinct.sublist (((List.sublist_cons_self mon rest).append_left due).map _)
  · intro mon' hmem t ht hsame
    split_ifs at hmem with hdue
    · rcases List.mem_append.mp hmem with hmem | hmem
      · exact hearlier mon' hmem t ht hsame
      · obtain rfl := List.mem_singleton.mp hmem
        exact (hread.rest mon' List.mem_cons_self t ht hsame).elapsed hdue (hcontexts t ht)
    · exact hearlier mon' hmem t ht hsame

theorem InTurn.fetch {s : Scheduler} (h : InTurn s) (hcycle : s.cycle = .fetching)
    (hstored : ReadsStored s (.fetch true)) :
    InTurn { s with cycle := .running s.pool.store.monitors.docs [] } := by
  refine ⟨h.started, h.inTurn, h.upToDate, fun rest due hnow => ?_⟩
  cases hnow
  refine ⟨s.pool.store.monitors.nodup, fun mon hmem t ht hsame => ?_,
    fun mon hmem => absurd hmem List.not_mem_nil⟩
  obtain ⟨hwritten, hshort, hfits⟩ := hstored hcycle mon hmem t ht hsame
  exact ⟨hwritten, hshort, hfits, h.upToDate t ht hwritten mon hmem hsame⟩

theorem InTurn.step {s : Scheduler} (h : InTurn s) {event : SchedulerEvent}
    (htimely : Timely s event) (hcontexts : WithinContexts s event)
    (hstored : ReadsStored s event) : InTurn (s.step event) := by
  rcases s.step_cases event with ⟨k, succeeds, rfl⟩ |
    ⟨probes, rt, mon, due, rfl, hcycle, hstep⟩ | ⟨now, mon, rest, due, rfl, hcycle, hstep⟩ |
    ⟨rfl, hcycle, hstep⟩ | ⟨hpool, hnow, hread⟩
  · exact h.op k succeeds
  · rw [hstep]
    exact h.launch hcycle htimely
  · rw [hstep]
    exact h.examine hcycle htimely hcontexts
  · rw [hstep]
    exact h.fetch hcycle hstored
  · refine ⟨by rw [hpool]; exact h.started, by rw [hpool]; exact h.inTurn,
      by rw [hpool]; exact h.upToDate, fun rest due hrunning => ?_⟩
    rcases hread rest due hrunning with ⟨rfl, rfl⟩ | hsame
    · exact ⟨List.nodup_nil, fun mon hmem => absurd hmem List.not_mem_nil,
        fun mon hmem => absurd hmem List.not_mem_nil⟩
    · have hbefore := h.read rest due hsame
      refine ⟨hbefore.distinct, ?_, ?_⟩
      · rw [hpool]
        exact hbefore.rest
      · rw [hpool, hnow]
        exact hbefore.due

theorem inTurn_initial (db : Database) (now : ℤ) : InTurn ⟨{ store := db }, .idle, now⟩ :=
  ⟨fun _ hmem => absurd hmem List.not_mem_nil, List.Pairwise.nil,
    fun _ hmem => absurd hmem List.not_mem_nil, fun _ _ hcycle => Cycle.noConfusion hcycle⟩

theorem oneAtATime_run (db : Database) (now : ℤ) (events : List SchedulerEvent)
    (htimely : AllSteps Scheduler.step Timely ⟨{ store := db }, .idle, now⟩ events)
    (hcontexts : AllSteps Scheduler.step WithinContexts ⟨{ store := db }, .idle, now⟩ events)
    (hstored : AllSteps Scheduler.step ReadsStored ⟨{ store := db }, .idle, now⟩ events) :
    AllStates Scheduler.step OneAtATime ⟨{ store := db }, .idle, now⟩ events := by
  have hsteps := allSteps_and.mpr ⟨htimely, allSteps_and.mpr ⟨hcontexts, hstored⟩⟩
  exact (allStates_of_invariant (fun _ h => h.oneAtATime)
    (fun s event h hstep => h.step hstep.1 hstep.2.1 hstep.2.2) (inTurn_initial db now) hsteps).2

def probing (start done : ℤ) (number : ℕ) : CheckRuntime :=
  let rt : Runtime :=
    ⟨fun k => if k = 0 then start else done, fun k => BitVec.ofNat 96 (8 * number + k + 1)⟩
  ⟨rt, rt, rt, rt⟩

def cycleAt (now : ℤ) (rt : CheckRuntime) : List SchedulerEvent :=
  [.tick, .fetch true, .examine now, .launch {} rt, .finish]

def onePort : Database := { monitors := .insertOne .empty portMonitor }

def quickChecks : List SchedulerEvent :=
  cycleAt (10 * second) (probing (10 * second) (19 * second) 0) ++ [.op 0 true, .op 0 true] ++
    [.tick, .fetch true, .examine (20 * second), .finish] ++ List.replicate 3 (.op 0 true) ++
    cycleAt (79 * second) (probing (79 * second) (80 * second) 1)

theorem oneAtATime_run_quick :
    AllStates Scheduler.step OneAtATime ⟨{ store := onePort }, .idle, 0⟩ quickChecks :=
  oneAtATime_run onePort 0 quickChecks (by decide +kernel) (by decide +kernel) (by decide +kernel)

def slowCheck : List SchedulerEvent :=
  cycleAt (10 * second) (probing (10 * second) (35 * second) 0) ++
    cycleAt (20 * second) (probing (20 * second) (21 * second) 1)

theorem slowCheck_overlaps :
    AllSteps Scheduler.step Timely ⟨{ store := onePort }, .idle, 0⟩ slowCheck ∧
    AllSteps Scheduler.step WithinContexts ⟨{ store := onePort }, .idle, 0⟩ slowCheck ∧
    (∀ t ∈ (run Scheduler.step ⟨{ store := onePort }, .idle, 0⟩ slowCheck).pool.threads,
      t.call.mon.id = portMonitor.id ∧ Running t) ∧
    ¬ AllStates Scheduler.step OneAtATime ⟨{ store := onePort }, .idle, 0⟩ slowCheck := by
  have htogether :
      ¬ OneAtATime (run Scheduler.step ⟨{ store := onePort }, .idle, 0⟩ slowCheck) := by
    unfold OneAtATime
    decide +kernel
  exact ⟨by decide +kernel, by decide +kernel, by decide +kernel, fun h => htogether h.last⟩

end Statora.Worker
