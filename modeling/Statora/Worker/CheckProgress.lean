import Statora.Worker.ParallelChecks

/-!
# How far a check has come

The time of a check reaches the monitor with its second operation, and the due
test reads it there. As long as the checks of a monitor come one after the other,
the monitor carries a time that is not before that of any check that has written.
-/

namespace Statora.Worker
open Library (Prog Collection Observation Thread Pool)

def Check.startedAt (c : Check) : ℤ := c.rt.check.clock 0

def Check.lastCheckedAt (c : Check) : ℤ := c.rt.check.clock 3

def Running (t : Thread Check Database) : Prop := t.result Check.program = none

instance (t : Thread Check Database) : Decidable (Running t) :=
  decidable_of_iff ((t.result Check.program).isNone = true) Option.isNone_iff_eq_none

/-- The write of the check to its monitor has succeeded. -/
def Stored (t : Thread Check Database) : Prop := ∃ o ∈ t.seen[1]?, o.found.isSome = true

instance (t : Thread Check Database) : Decidable (Stored t) :=
  inferInstanceAs (Decidable (∃ o ∈ t.seen[1]?, o.found.isSome = true))

section Operation
variable {t : Thread Check Database} {upd : Database → Database}
  {next : Option Database → Prog Database Unit}

theorem running_of_rest (h : t.rest Check.program = .op upd next) : Running t :=
  Thread.result_eq_none h

theorem Stored.two_le (h : Stored t) : 2 ≤ t.seen.length := by
  obtain ⟨o, ho, -⟩ := h
  exact (List.getElem?_eq_some_iff.mp ho).1

theorem Stored.observe (h : Stored t) (o : Observation Database) : Stored (t.observe o) := by
  have hlength := h.two_le
  obtain ⟨written, hwritten, hfound⟩ := h
  exact ⟨written, by rwa [Thread.observe, List.getElem?_append_left hlength], hfound⟩

theorem stored_of_observe {o : Observation Database} (h : Stored (t.observe o)) :
    Stored t ∨ t.seen.length = 1 ∧ o.found.isSome = true := by
  have hlength : 2 ≤ t.seen.length + 1 := by simpa [Thread.observe] using h.two_le
  obtain ⟨written, hwritten, hfound⟩ := h
  have hseen : (t.seen ++ [o])[1]? = some written := hwritten
  rcases Nat.lt_or_ge 1 t.seen.length with hmore | hone
  · rw [List.getElem?_append_left hmore] at hseen
    exact Or.inl ⟨written, hseen, hfound⟩
  · have hsame : t.seen.length = 1 := by omega
    rw [List.getElem?_append_right hone, hsame] at hseen
    obtain rfl := Option.some.inj hseen
    exact Or.inr ⟨hsame, hfound⟩

theorem next_operation (h : t.rest Check.program = .op upd next) :
    t.seen.length = 1 ∧ upd = recordResult t.call ∨
      t.seen.length ≠ 1 ∧ ∀ db, (upd db).monitors = db.monitors := by
  unfold Thread.rest at h
  rw [Check.program_eq] at h
  rcases hseen : t.seen with _ | ⟨o, _ | ⟨o', seen⟩⟩ <;> rw [hseen] at h
  · cases h
    exact Or.inr ⟨by simp, fun _ => rfl⟩
  · cases h
    exact Or.inl ⟨rfl, rfl⟩
  · have hrest : t.call.following.after (seen.map (·.found)) = .op upd next := h
    exact Or.inr ⟨by simp, (t.call.following_performs.next_op hrest).monitors⟩

end Operation

def MonitorsUpToDate (pool : Pool Check Database) : Prop :=
  ∀ t ∈ pool.threads, Stored t → ∀ mon ∈ pool.store.monitors.docs, t.call.mon.id = mon.id →
    ∃ lastCheckedAt ∈ mon.lastCheckedAt, t.call.lastCheckedAt ≤ lastCheckedAt

theorem mem_recordResult {c : Check} {db : Database} {mon : Monitor}
    (h : mon ∈ (recordResult c db).monitors.docs) :
    mon.id = c.mon.id ∧ mon.lastCheckedAt = some c.lastCheckedAt ∨
      mon.id ≠ c.mon.id ∧ mon ∈ db.monitors.docs := by
  unfold recordResult recordCheck at h
  dsimp only at h
  rw [Collection.updateByKey_docs] at h
  obtain ⟨old, hold, rfl⟩ := List.mem_map.mp h
  split_ifs with hid
  · exact Or.inl ⟨hid, rfl⟩
  · exact Or.inr ⟨hid, hold⟩

section Step
variable {pool : Pool Check Database} {k : ℕ} {t : Thread Check Database}
  {upd : Database → Database} {next : Option Database → Prog Database Unit} {succeeds : Bool}

def Records (t : Thread Check Database) (succeeds : Bool) : Prop :=
  t.seen.length = 1 ∧ succeeds = true

theorem Records.not_stored (h : Records t succeeds) : ¬ Stored t := fun hstored => by
  have hmore := hstored.two_le
  have hone := h.1
  omega

theorem Records.stored (h : Records t succeeds) :
    Stored (t.observe ⟨pool.time, if succeeds then some pool.store else none⟩) := by
  obtain ⟨hlength, rfl⟩ := h
  refine ⟨⟨pool.time, some pool.store⟩, ?_, rfl⟩
  rw [Thread.observe, List.getElem?_append_right (by omega), hlength]
  rfl

theorem stored_of_step (h : pool.Performing Check.program k t upd next)
    {t' : Thread Check Database} (hmem : t' ∈ (pool.step Check.program (.op k succeeds)).threads)
    (hstored : Stored t') :
    (∃ old ∈ pool.threads, Stored old ∧ old.call = t'.call) ∨
      t'.call = t.call ∧ Records t succeeds := by
  rcases h.mem_step hmem with hmem | rfl
  · exact Or.inl ⟨t', hmem, hstored, rfl⟩
  · rcases stored_of_observe hstored with hstored | ⟨hlength, hfound⟩
    · exact Or.inl ⟨t, h.mem, hstored, rfl⟩
    · exact Or.inr ⟨rfl, hlength, by cases succeeds <;> simp_all⟩

theorem monitor_of_step (h : pool.Performing Check.program k t upd next) {mon : Monitor}
    (hmem : mon ∈ (pool.step Check.program (.op k succeeds)).store.monitors.docs) :
    mon ∈ pool.store.monitors.docs ∧ ¬ (t.call.mon.id = mon.id ∧ Records t succeeds) ∨
      t.call.mon.id = mon.id ∧ mon.lastCheckedAt = some t.call.lastCheckedAt ∧
        Records t succeeds := by
  rw [h.store_step] at hmem
  rcases next_operation h.rest with ⟨hlength, rfl⟩ | ⟨hlength, hmonitors⟩
  · cases succeeds with
    | false => exact Or.inl ⟨hmem, fun hwrite => Bool.noConfusion hwrite.2.2⟩
    | true =>
      rcases mem_recordResult hmem with ⟨hsame, hlast⟩ | ⟨hother, hmem⟩
      · exact Or.inr ⟨hsame.symm, hlast, hlength, rfl⟩
      · exact Or.inl ⟨hmem, fun hwrite => hother hwrite.1.symm⟩
  · refine Or.inl ⟨?_, fun hwrite => hlength hwrite.2.1⟩
    split_ifs at hmem
    · rwa [hmonitors] at hmem
    · exact hmem

/-- A write to another monitor, or a failed one, leaves a monitor stored as it is. -/
theorem mem_monitors_step (h : pool.Performing Check.program k t upd next) {mon : Monitor}
    (hmem : mon ∈ pool.store.monitors.docs)
    (hnot : ¬ (t.call.mon.id = mon.id ∧ Records t succeeds)) :
    mon ∈ (pool.step Check.program (.op k succeeds)).store.monitors.docs := by
  rw [h.store_step]
  rcases next_operation h.rest with ⟨hlength, rfl⟩ | ⟨-, hmonitors⟩
  · cases succeeds with
    | false => exact hmem
    | true =>
      have hother : mon.id ≠ t.call.mon.id := fun hsame => hnot ⟨hsame.symm, hlength, rfl⟩
      unfold recordResult recordCheck
      rw [if_pos rfl]
      dsimp only
      rw [Collection.updateByKey_docs]
      exact List.mem_map.mpr ⟨mon, hmem, if_neg hother⟩
  · split_ifs
    · rwa [hmonitors]
    · exact hmem

end Step

theorem MonitorsUpToDate.op {pool : Pool Check Database} (h : MonitorsUpToDate pool)
    (hlater : ∀ t ∈ pool.threads, Running t → ¬ Stored t → ∀ t' ∈ pool.threads, Stored t' →
      t'.call.mon.id = t.call.mon.id → t'.call.lastCheckedAt ≤ t.call.lastCheckedAt)
    (k : ℕ) (succeeds : Bool) : MonitorsUpToDate (pool.step Check.program (.op k succeeds)) := by
  rcases pool.step_op_cases Check.program k succeeds with
    ⟨t, upd, next, hperforming⟩ | ⟨hstay, -⟩
  · intro t' hmem hstored mon hmon hid
    rcases stored_of_step hperforming hmem hstored with
      ⟨old, hold, holdstored, hcall⟩ | ⟨hcall, hrecords⟩
    · rw [← hcall] at hid ⊢
      rcases monitor_of_step hperforming hmon with ⟨hmon, -⟩ | ⟨hsame, hlast, hrecords⟩
      · exact h old hold holdstored mon hmon hid
      · exact ⟨t.call.lastCheckedAt, hlast, hlater t hperforming.mem
          (running_of_rest hperforming.rest) hrecords.not_stored old hold holdstored
          (hid.trans hsame.symm)⟩
    · rw [hcall] at hid ⊢
      rcases monitor_of_step hperforming hmon with ⟨-, hnot⟩ | ⟨-, hlast, -⟩
      · exact absurd ⟨hid, hrecords⟩ hnot
      · exact ⟨t.call.lastCheckedAt, hlast, le_refl _⟩
  · rwa [hstay]

end Statora.Worker
