import Statora.Worker.Scheduler

/-!
# Fetches that come too early

Until a check has written, its monitor is stored as the cycle read it that started the
check. A cycle that reads it then finds it due once more, however little time has
passed, and starts a second check.
-/

namespace Statora.Worker
open Library (Collection AllStates AllSteps Pool Thread allSteps_and allStates_of_invariant)

/-- A monitor whose check has yet to write is due at any time from now on. -/
def DueUntilStored (s : Scheduler) : Prop :=
  ∀ t ∈ s.pool.threads, ¬ Stored t → ∀ mon ∈ s.pool.store.monitors.docs,
    t.call.mon.id = mon.id → ∀ later, s.now ≤ later → shouldRunMonitor mon later = true

/-- The monitor is stored as it was read, and due. -/
structure StillDue (db : Database) (now : ℤ) (mon : Monitor) : Prop where
  stored : mon ∈ db.monitors.docs
  due : shouldRunMonitor mon now = true

/-- What a cycle has read, and what a check was started with, is stored until the check
has written. -/
structure AsRead (s : Scheduler) : Prop where
  pending : ∀ t ∈ s.pool.threads, ¬ Stored t → StillDue s.pool.store s.now t.call.mon
  rest : ∀ rest due, s.cycle = .running rest due → ∀ mon ∈ rest, mon ∈ s.pool.store.monitors.docs
  due : ∀ rest due, s.cycle = .running rest due → ∀ mon ∈ due, StillDue s.pool.store s.now mon

theorem shouldRunMonitor_mono {mon : Monitor} {now later : ℤ} (hle : now ≤ later)
    (h : shouldRunMonitor mon now = true) : shouldRunMonitor mon later = true := by
  unfold shouldRunMonitor at h ⊢
  cases hlast : mon.lastCheckedAt with
  | none => rfl
  | some lastCheckedAt =>
    simp only [hlast, Bool.not_eq_true', decide_eq_false_iff_not, not_lt] at h ⊢
    omega

theorem StillDue.later {db : Database} {now later : ℤ} {mon : Monitor} (h : StillDue db now mon)
    (hle : now ≤ later) : StillDue db later mon :=
  ⟨h.stored, shouldRunMonitor_mono hle h.due⟩

variable {s : Scheduler}

theorem AsRead.dueUntilStored (h : AsRead s) : DueUntilStored s := by
  intro t ht hunstored mon hmon hsame later hle
  have hread := h.pending t ht hunstored
  have hmonitor : t.call.mon = mon := Collection.eq_of_key_eq hread.stored hmon hsame
  exact hmonitor ▸ (hread.later hle).due

theorem AsRead.op (h : AsRead s) (hturn : InTurn s) (k : ℕ) (succeeds : Bool) :
    AsRead (s.step (.op k succeeds)) := by
  rcases s.pool.step_op_cases Check.program k succeeds with
    ⟨t, upd, next, hperforming⟩ | ⟨hstay, -⟩
  · have hrunning := running_of_rest hperforming.rest
    have hkept : ∀ {mon : Monitor}, mon ∈ s.pool.store.monitors.docs →
        ¬ (t.call.mon.id = mon.id ∧ Records t succeeds) →
          mon ∈ (s.pool.step Check.program (.op k succeeds)).store.monitors.docs :=
      mem_monitors_step hperforming
    refine ⟨fun t' hmem hunstored => ?_, fun rest due hcycle mon hmem => ?_,
      fun rest due hcycle mon hmem => ?_⟩
    · obtain ⟨i, hi⟩ := List.mem_iff_getElem?.mp hmem
      change (s.pool.step Check.program (.op k succeeds)).threads[i]? = some t' at hi
      rw [hperforming.getElem?_step] at hi
      by_cases hsame : i = k
      · rw [if_pos hsame] at hi
        obtain rfl := Option.some.inj hi
        have hbefore := h.pending t hperforming.mem fun hstored => hunstored (hstored.observe _)
        exact ⟨hkept hbefore.stored fun ⟨_, hrecords⟩ => hunstored hrecords.stored, hbefore.due⟩
      · rw [if_neg hsame] at hi
        have hbefore := h.pending t' (List.mem_of_getElem? hi) hunstored
        refine ⟨hkept hbefore.stored fun ⟨hid, _⟩ => ?_, hbefore.due⟩
        rcases hturn.follows hi hperforming.thread hsame with hfollows | hfollows
        · exact hunstored (hfollows hid.symm).stored
        · exact (hfollows hid).ended hrunning
    · refine hkept (h.rest rest due hcycle mon hmem) fun ⟨hsame, hrecords⟩ => ?_
      exact hrecords.not_stored ((hturn.read rest due hcycle).rest mon hmem t hperforming.mem
        hsame).stored
    · have hdue := h.due rest due hcycle mon hmem
      refine ⟨hkept hdue.stored fun ⟨hsame, hrecords⟩ => ?_, hdue.due⟩
      exact hrecords.not_stored ((hturn.read rest due hcycle).due mon hmem t hperforming.mem
        hsame).stored
  · change AsRead { s with pool := s.pool.step Check.program (.op k succeeds) }
    rwa [hstay]

theorem AsRead.launch (h : AsRead s) {mon : Monitor} {due : List Monitor}
    (hcycle : s.cycle = .running [] (mon :: due)) (probes : Probes) (rt : CheckRuntime) :
    AsRead { s with
      pool := s.pool.step Check.program (.call ⟨mon, probes, rt⟩), cycle := .running [] due } := by
  have hdue : ∀ mon' ∈ mon :: due, StillDue s.pool.store s.now mon' := h.due _ _ hcycle
  have hthreads : ∀ t ∈ (s.pool.step Check.program (.call ⟨mon, probes, rt⟩)).threads,
      ¬ Stored t → StillDue s.pool.store s.now t.call.mon :=
    Pool.forall_step_call h.pending fun _ => hdue mon List.mem_cons_self
  refine ⟨hthreads, fun rest' due' hnow => ?_, fun rest' due' hnow => ?_⟩
  · cases hnow
    exact fun mon' hmem => absurd hmem List.not_mem_nil
  · cases hnow
    exact fun mon' hmem => hdue mon' (List.mem_cons_of_mem _ hmem)

theorem AsRead.examine (h : AsRead s) {mon : Monitor} {rest due : List Monitor}
    (hcycle : s.cycle = .running (mon :: rest) due) {now : ℤ} (hle : s.now ≤ now) :
    AsRead { s with
      cycle := .running rest (if shouldRunMonitor mon now then due ++ [mon] else due)
      now := now } := by
  refine ⟨fun t ht hunstored => (h.pending t ht hunstored).later hle,
    fun rest' due' hnow mon' hmem => ?_, fun rest' due' hnow mon' hmem => ?_⟩
  · cases hnow
    exact h.rest _ _ hcycle mon' (List.mem_cons_of_mem _ hmem)
  · cases hnow
    have hearlier : ∀ mon' ∈ due, StillDue s.pool.store now mon' :=
      fun mon' hmem => (h.due _ _ hcycle mon' hmem).later hle
    split_ifs at hmem with hruns
    · rcases List.mem_append.mp hmem with hmem | hmem
      · exact hearlier mon' hmem
      · obtain rfl := List.mem_singleton.mp hmem
        exact ⟨h.rest _ _ hcycle mon' List.mem_cons_self, hruns⟩
    · exact hearlier mon' hmem

theorem AsRead.fetch (h : AsRead s) :
    AsRead { s with cycle := .running s.pool.store.monitors.docs [] } := by
  refine ⟨h.pending, fun rest due hnow => ?_, fun rest due hnow => ?_⟩
  · cases hnow
    exact fun mon hmem => hmem
  · cases hnow
    exact fun mon hmem => absurd hmem List.not_mem_nil

theorem AsRead.step (h : AsRead s) (hturn : InTurn s) {event : SchedulerEvent}
    (htimely : Timely s event) : AsRead (s.step event) := by
  rcases s.step_cases event with ⟨k, succeeds, rfl⟩ |
    ⟨probes, rt, mon, due, rfl, hcycle, hstep⟩ | ⟨now, mon, rest, due, rfl, hcycle, hstep⟩ |
    ⟨rfl, hcycle, hstep⟩ | ⟨hpool, hnow, hread⟩
  · exact h.op hturn k succeeds
  · rw [hstep]
    exact h.launch hcycle probes rt
  · rw [hstep]
    exact h.examine hcycle htimely
  · rw [hstep]
    exact h.fetch
  · refine ⟨by rw [hpool, hnow]; exact h.pending, fun rest due hrunning => ?_,
      fun rest due hrunning => ?_⟩
    · rw [hpool]
      rcases hread rest due hrunning with ⟨rfl, -⟩ | hsame
      · exact fun mon hmem => absurd hmem List.not_mem_nil
      · exact h.rest rest due hsame
    · rw [hpool, hnow]
      rcases hread rest due hrunning with ⟨-, rfl⟩ | hsame
      · exact fun mon hmem => absurd hmem List.not_mem_nil
      · exact h.due rest due hsame

/-- A run whose fetches all came late enough reaches only states in which the next one finds
every monitor due whose check has yet to write. -/
theorem dueUntilStored_run (db : Database) (now : ℤ) (events : List SchedulerEvent)
    (htimely : AllSteps Scheduler.step Timely ⟨{ store := db }, .idle, now⟩ events)
    (hcontexts : AllSteps Scheduler.step WithinContexts ⟨{ store := db }, .idle, now⟩ events)
    (hstored : AllSteps Scheduler.step ReadsStored ⟨{ store := db }, .idle, now⟩ events) :
    AllStates Scheduler.step DueUntilStored ⟨{ store := db }, .idle, now⟩ events := by
  have h0 : AsRead ⟨{ store := db }, .idle, now⟩ :=
    ⟨fun _ hmem => absurd hmem List.not_mem_nil, fun _ _ hcycle => Cycle.noConfusion hcycle,
      fun _ _ hcycle => Cycle.noConfusion hcycle⟩
  have hsteps := allSteps_and.mpr ⟨htimely, allSteps_and.mpr ⟨hcontexts, hstored⟩⟩
  exact (allStates_of_invariant (J := fun s => AsRead s ∧ InTurn s)
    (fun _ h => h.1.dueUntilStored)
    (fun s event h hstep => ⟨h.1.step h.2 hstep.1, h.2.step hstep.1 hstep.2.1 hstep.2.2⟩)
    ⟨h0, inTurn_initial db now⟩ hsteps).2

end Statora.Worker
