import Mathlib.Algebra.BigOperators.Group.List.Basic
import Mathlib.Algebra.Ring.Int.Defs
import Statora.Library.EventRun
import Statora.Library.StoreProgram

/-!
# Interleaved runs of programs over one store

A pool is a store together with the calls made so far. Any call may be made at
any moment, and any call may perform its next operation, which succeeds or
fails. A call is known by what its operations have seen: that fixes what is left
of its program.
-/

namespace Statora.Library

namespace Prog
variable {σ α β : Type}

/-- What is left of a program after its first operations have seen these states,
`none` standing for an operation that failed. -/
def after : Prog σ α → List (Option σ) → Prog σ α
  | p, [] => p
  | .ret a, _ => .ret a
  | .op _ next, found :: rest => (next found).after rest

@[simp] theorem after_nil (p : Prog σ α) : p.after [] = p := by cases p <;> rfl

theorem after_append (p : Prog σ α) (seen rest : List (Option σ)) :
    p.after (seen ++ rest) = (p.after seen).after rest := by
  induction seen generalizing p with
  | nil => rw [List.nil_append, after_nil]
  | cons found seen ih =>
    cases p with
    | ret a => cases rest <;> rfl
    | op upd next => exact ih (next found)

theorem after_snoc {p : Prog σ α} {seen : List (Option σ)} {upd : σ → σ}
    {next : Option σ → Prog σ α} (h : p.after seen = .op upd next) (found : Option σ) :
    p.after (seen ++ [found]) = next found := by
  rw [after_append, h, after, after_nil]

theorem after_ret (a : α) (seen : List (Option σ)) : (ret a : Prog σ α).after seen = .ret a := by
  cases seen <;> rfl

/-- The first operations of a program that succeeded, each with the state it found. -/
def performed : Prog σ α → List (Option σ) → List ((σ → σ) × σ)
  | _, [] | .ret _, _ => []
  | .op upd next, found :: rest =>
    (found.map fun s => (upd, s)).toList ++ (next found).performed rest

@[simp] theorem performed_nil (p : Prog σ α) : p.performed [] = [] := by cases p <;> rfl

theorem performed_snoc {p : Prog σ α} {seen : List (Option σ)} {upd : σ → σ}
    {next : Option σ → Prog σ α} (h : p.after seen = .op upd next) (found : Option σ) :
    p.performed (seen ++ [found]) =
      p.performed seen ++ (found.map fun s => (upd, s)).toList := by
  induction seen generalizing p with
  | nil =>
    rw [after_nil] at h
    subst h
    simp [performed]
  | cons first seen ih =>
    cases p with
    | ret a => cases h
    | op upd' next' =>
      rw [List.cons_append, performed, performed, List.append_assoc]
      exact congrArg _ (ih h)

def Performs (P : (σ → σ) → Prop) : Prog σ α → Prop
  | .ret _ => True
  | .op upd next => P upd ∧ ∀ found, (next found).Performs P

section Performs
variable {P : (σ → σ) → Prop}

theorem performs_pure (a : α) : Performs P (pure a : Prog σ α) := trivial

theorem performs_query (h : P id) (f : σ → β) : Performs P (query f) := ⟨h, fun _ => trivial⟩

theorem performs_exec {f : σ → σ} (h : P f) : Performs P (exec f) := ⟨h, fun _ => trivial⟩

theorem performs_update (seen : σ → β) {f : σ → σ} (h : P f) : Performs P (update seen f) :=
  ⟨h, fun _ => trivial⟩

theorem Performs.mono {Q : (σ → σ) → Prop} {p : Prog σ α} (hp : p.Performs P)
    (h : ∀ upd, P upd → Q upd) : p.Performs Q := by
  induction p with
  | ret a => trivial
  | op upd next ih => exact ⟨h upd hp.1, fun found => ih found (hp.2 found)⟩

theorem Performs.bind {p : Prog σ α} {k : α → Prog σ β} (hp : p.Performs P)
    (hk : ∀ a, (k a).Performs P) : (p >>= k).Performs P := by
  change (p.bind k).Performs P
  induction p with
  | ret a => exact hk a
  | op upd next ih => exact ⟨hp.1, fun found => ih found (hp.2 found)⟩

theorem Performs.after {p : Prog σ α} (hp : p.Performs P) (seen : List (Option σ)) :
    (p.after seen).Performs P := by
  induction seen generalizing p with
  | nil => rwa [after_nil]
  | cons found seen ih =>
    cases p with
    | ret a => trivial
    | op upd next => exact ih (hp.2 found)

theorem Performs.next_op {p : Prog σ α} (hp : p.Performs P) {seen : List (Option σ)}
    {upd : σ → σ} {next : Option σ → Prog σ α} (h : p.after seen = .op upd next) : P upd := by
  have hrest := hp.after seen
  rw [h] at hrest
  exact hrest.1

end Performs
end Prog

namespace Fallible
variable {σ ε α β : Type} {P : (σ → σ) → Prop}

theorem performs_find (h : P id) (failed missing : ε) (f : σ → Option β) :
    Prog.Performs P (find failed missing f) := by
  refine ⟨h, fun found => ?_⟩
  cases found <;> trivial

theorem performs_exec {f : σ → σ} (h : P f) (failed : ε) : Prog.Performs P (exec failed f) := by
  refine ⟨h, fun found => ?_⟩
  cases found <;> trivial

theorem performs_execIf {guard : σ → Bool} {f : σ → σ} (h : P fun s => if guard s then f s else s)
    (failed refused : ε) : Prog.Performs P (execIf failed refused guard f) := by
  refine ⟨h, fun found => ?_⟩
  cases found <;> trivial

theorem performs_bind {p : Fallible σ ε α} {k : α → Fallible σ ε β} (hp : Prog.Performs P p)
    (hk : ∀ a, Prog.Performs P (k a)) :
    Prog.Performs P (p >>= k : Fallible σ ε β) := by
  refine Prog.Performs.bind hp fun r => ?_
  cases r with
  | error e => trivial
  | ok a => exact hk a

end Fallible

/-- One operation that a call has performed: when, counted in operations of the
whole pool, and the store it found, `none` when it failed. -/
structure Observation (σ : Type) where
  time : ℕ
  found : Option σ

structure Thread (κ σ : Type) where
  call : κ
  seen : List (Observation σ) := []

structure Pool (κ σ : Type) where
  store : σ
  threads : List (Thread κ σ) := []
  time : ℕ := 0

inductive Act (κ : Type)
  | call (c : κ)
  | op (k : ℕ) (succeeds : Bool)
  deriving DecidableEq, Repr

variable {κ σ α : Type} (program : κ → Prog σ α)

def Thread.rest (t : Thread κ σ) : Prog σ α := (program t.call).after (t.seen.map (·.found))

def Thread.observe (t : Thread κ σ) (o : Observation σ) : Thread κ σ :=
  { t with seen := t.seen ++ [o] }

def Thread.result (t : Thread κ σ) : Option α :=
  match t.rest program with
  | .ret a => some a
  | .op _ _ => none

/-- The operations of the call that have succeeded, each with the store it found. -/
def Thread.performed (t : Thread κ σ) : List ((σ → σ) × σ) :=
  (program t.call).performed (t.seen.map (·.found))

def Pool.Returned (pool : Pool κ σ) : Prop :=
  ∀ t ∈ pool.threads, (t.result program).isSome = true

def Pool.step (pool : Pool κ σ) : Act κ → Pool κ σ
  | .call c => { pool with threads := pool.threads ++ [{ call := c }] }
  | .op k succeeds =>
    match pool.threads[k]? with
    | none => pool
    | some t =>
      match t.rest program with
      | .ret _ => pool
      | .op upd _ =>
        { store := if succeeds then upd pool.store else pool.store
          threads := pool.threads.set k
            (t.observe ⟨pool.time, if succeeds then some pool.store else none⟩)
          time := pool.time + 1 }

/-- The next operation of the `k`-th call, with what the call does after it. -/
structure Pool.Performing (pool : Pool κ σ) (k : ℕ) (t : Thread κ σ) (upd : σ → σ)
    (next : Option σ → Prog σ α) : Prop where
  thread : pool.threads[k]? = some t
  rest : t.rest program = .op upd next

def OnOperations (Q : Pool κ σ → Thread κ σ → (σ → σ) → Bool → Prop) (pool : Pool κ σ) :
    Act κ → Prop
  | .call _ => True
  | .op k succeeds => ∀ t upd next, pool.Performing program k t upd next → Q pool t upd succeeds

section Steps
variable {program} {pool : Pool κ σ} {k : ℕ} {t : Thread κ σ} {upd : σ → σ}
  {next : Option σ → Prog σ α}

theorem Pool.Performing.step_eq (h : pool.Performing program k t upd next) (succeeds : Bool) :
    pool.step program (.op k succeeds) =
      { store := if succeeds then upd pool.store else pool.store
        threads := pool.threads.set k
          (t.observe ⟨pool.time, if succeeds then some pool.store else none⟩)
        time := pool.time + 1 } := by
  rw [Pool.step, h.thread]
  dsimp only
  rw [h.rest]

theorem Pool.Performing.mem_step (h : pool.Performing program k t upd next) {succeeds : Bool}
    {t' : Thread κ σ} (hmem : t' ∈ (pool.step program (.op k succeeds)).threads) :
    t' ∈ pool.threads ∨
      t' = t.observe ⟨pool.time, if succeeds then some pool.store else none⟩ := by
  rw [h.step_eq] at hmem
  exact List.mem_or_eq_of_mem_set hmem

theorem Pool.Performing.observe_mem_step (h : pool.Performing program k t upd next)
    (succeeds : Bool) : t.observe ⟨pool.time, if succeeds then some pool.store else none⟩ ∈
      (pool.step program (.op k succeeds)).threads := by
  rw [h.step_eq]
  exact List.mem_set (List.getElem?_eq_some_iff.mp h.thread).1 _

theorem Pool.Performing.store_step (h : pool.Performing program k t upd next) (succeeds : Bool) :
    (pool.step program (.op k succeeds)).store =
      if succeeds then upd pool.store else pool.store := by
  rw [h.step_eq]

theorem Pool.Performing.forall_step {P : Thread κ σ → Prop}
    (h : pool.Performing program k t upd next) {succeeds : Bool}
    (hold : ∀ t' ∈ pool.threads, P t')
    (hnew : P (t.observe ⟨pool.time, if succeeds then some pool.store else none⟩)) :
    ∀ t' ∈ (pool.step program (.op k succeeds)).threads, P t' := by
  intro t' hmem
  rcases h.mem_step hmem with hmem | rfl
  · exact hold t' hmem
  · exact hnew

theorem Pool.forall_step_call {P : Thread κ σ → Prop} {c : κ} (hold : ∀ t ∈ pool.threads, P t)
    (hnew : P { call := c }) : ∀ t ∈ (pool.step program (.call c)).threads, P t := by
  intro t hmem
  rcases List.mem_append.mp hmem with hmem | hmem
  · exact hold t hmem
  · rw [List.mem_singleton.mp hmem]
    exact hnew

theorem Pool.Performing.getElem?_step (h : pool.Performing program k t upd next)
    (succeeds : Bool) (j : ℕ) : (pool.step program (.op k succeeds)).threads[j]? =
      if j = k then some (t.observe ⟨pool.time, if succeeds then some pool.store else none⟩)
      else pool.threads[j]? := by
  rw [h.step_eq]
  by_cases hj : j = k
  · subst hj
    rw [if_pos rfl]
    exact List.getElem?_set_self (List.getElem?_eq_some_iff.mp h.thread).1
  · rw [if_neg hj]
    exact List.getElem?_set_ne (Ne.symm hj)

theorem Pool.Performing.mem (h : pool.Performing program k t upd next) : t ∈ pool.threads :=
  List.mem_of_getElem? h.thread

theorem Pool.Performing.unique {t' : Thread κ σ} {upd' : σ → σ} {next' : Option σ → Prog σ α}
    (h : pool.Performing program k t upd next) (h' : pool.Performing program k t' upd' next') :
    t' = t ∧ upd' = upd := by
  have ht : t' = t := Option.some.inj (h'.thread.symm.trans h.thread)
  subst ht
  have hrest := h'.rest.symm.trans h.rest
  rw [Prog.op.injEq] at hrest
  exact ⟨rfl, hrest.1⟩

theorem Pool.Performing.onOperations_iff (h : pool.Performing program k t upd next)
    {Q : Pool κ σ → Thread κ σ → (σ → σ) → Bool → Prop} (succeeds : Bool) :
    OnOperations program Q pool (.op k succeeds) ↔ Q pool t upd succeeds := by
  constructor
  · exact fun hall => hall t upd next h
  · intro hQ t' upd' next' h'
    obtain ⟨rfl, rfl⟩ := h.unique h'
    exact hQ

instance OnOperations.decidable (Q : Pool κ σ → Thread κ σ → (σ → σ) → Bool → Prop)
    [∀ pool t upd succeeds, Decidable (Q pool t upd succeeds)] (pool : Pool κ σ) :
    (act : Act κ) → Decidable (OnOperations program Q pool act)
  | .call _ => .isTrue trivial
  | .op k succeeds =>
    match hthread : pool.threads[k]? with
    | none => .isTrue fun _ _ _ h => by cases hthread.symm.trans h.thread
    | some t =>
      match hrest : t.rest program with
      | .op upd _ => decidable_of_iff _ (Pool.Performing.onOperations_iff ⟨hthread, hrest⟩
          succeeds : OnOperations program Q pool (.op k succeeds) ↔ Q pool t upd succeeds).symm
      | .ret _ => .isTrue fun _ _ _ h => by
        obtain rfl := Option.some.inj (hthread.symm.trans h.thread)
        cases hrest.symm.trans h.rest

theorem Pool.step_op_cases (program : κ → Prog σ α) (pool : Pool κ σ) (k : ℕ) (succeeds : Bool) :
    (∃ t upd next, pool.Performing program k t upd next) ∨
      pool.step program (.op k succeeds) = pool ∧
        ∀ t upd next, ¬ pool.Performing program k t upd next := by
  cases hthread : pool.threads[k]? with
  | none =>
    refine Or.inr ⟨by rw [Pool.step, hthread], fun t upd next h => ?_⟩
    exact absurd (h.thread.symm.trans hthread) (by simp)
  | some t =>
    cases hrest : t.rest program with
    | ret a =>
      refine Or.inr ⟨?_, fun t' upd next h => ?_⟩
      · rw [Pool.step, hthread]
        dsimp only
        rw [hrest]
      · have ht : t' = t := Option.some.inj (h.thread.symm.trans hthread)
        exact absurd (hrest.symm.trans (ht ▸ h.rest)) (by simp)
    | op upd next => exact Or.inl ⟨t, upd, next, hthread, hrest⟩

/-- The exact form of the invariant rule for interleaved calls: only operations can
break the invariant, and they keep it exactly when they meet the condition. -/
theorem allStates_iff_onOperations {I : Pool κ σ → Prop}
    {Q : Pool κ σ → Thread κ σ → (σ → σ) → Bool → Prop}
    (hcall : ∀ pool c, I pool → I (pool.step program (.call c)))
    (hop : ∀ pool k t upd next succeeds, I pool → pool.Performing program k t upd next →
      (I (pool.step program (.op k succeeds)) ↔ Q pool t upd succeeds))
    (h0 : I pool) (acts : List (Act κ)) :
    AllStates (Pool.step program) I pool acts ↔
      AllSteps (Pool.step program) (OnOperations program Q) pool acts := by
  refine allStates_iff_allSteps (P := fun _ _ => True) (fun pool act h _ => ?_) h0
    (allSteps_of_forall fun _ _ _ => trivial)
  cases act with
  | call c => exact iff_of_true (hcall pool c h) trivial
  | op k succeeds =>
    rcases pool.step_op_cases program k succeeds with
      ⟨t, upd, next, hperforming⟩ | ⟨hstay, hnone⟩
    · exact (hop pool k t upd next succeeds h hperforming).trans
        (hperforming.onOperations_iff succeeds).symm
    · rw [hstay]
      exact iff_of_true h fun t upd next hperforming => absurd hperforming (hnone t upd next)

theorem Pool.Performing.performs {P : (σ → σ) → Prop}
    (h : pool.Performing program k t upd next) (hP : (program t.call).Performs P) : P upd :=
  hP.next_op h.rest

theorem Pool.step_threads_ne_nil (h : pool.threads ≠ []) (act : Act κ) :
    (pool.step program act).threads ≠ [] := by
  cases act with
  | call c => simp [Pool.step]
  | op k succeeds =>
    rcases pool.step_op_cases program k succeeds with
      ⟨t, upd, next, hperforming⟩ | ⟨hstay, -⟩
    · rw [hperforming.step_eq]
      simpa using h
    · rwa [hstay]

theorem onOperations_of_no_calls (h : pool.threads = [])
    (Q : Pool κ σ → Thread κ σ → (σ → σ) → Bool → Prop) (act : Act κ) :
    OnOperations program Q pool act := by
  cases act with
  | call c => trivial
  | op k succeeds =>
    intro t upd next hperforming
    have hmem := hperforming.mem
    rw [h] at hmem
    cases hmem

theorem Thread.rest_observe (h : t.rest program = .op upd next) (o : Observation σ) :
    (t.observe o).rest program = next o.found := by
  unfold Thread.rest Thread.observe
  rw [List.map_append, List.map_singleton]
  exact Prog.after_snoc h o.found

theorem Thread.rest_of_fresh (h : t.seen = []) : t.rest program = program t.call := by
  unfold Thread.rest
  rw [h, List.map_nil, Prog.after_nil]

theorem Thread.performed_of_fresh (h : t.seen = []) : t.performed program = [] := by
  unfold Thread.performed
  rw [h, List.map_nil, Prog.performed_nil]

theorem Thread.performed_observe (h : t.rest program = .op upd next) (o : Observation σ) :
    (t.observe o).performed program =
      t.performed program ++ (o.found.map fun s => (upd, s)).toList := by
  unfold Thread.performed Thread.observe
  rw [List.map_append, List.map_singleton]
  exact Prog.performed_snoc h o.found

theorem Thread.mem_performed_observe (h : t.rest program = .op upd next) {o : Observation σ}
    {op : (σ → σ) × σ} : op ∈ (t.observe o).performed program ↔
      op ∈ t.performed program ∨ ∃ s ∈ o.found, op = (upd, s) := by
  rw [Thread.performed_observe h, List.mem_append, Option.mem_toList, Option.map_eq_some_iff]
  simp only [Option.mem_def, eq_comm]

theorem Thread.result_eq_none (h : t.rest program = .op upd next) : t.result program = none := by
  unfold Thread.result
  rw [h]

theorem Pool.Returned.rest {t : Thread κ σ} (h : pool.Returned program)
    (hmem : t ∈ pool.threads) : ∃ a, t.rest program = .ret a := by
  cases hrest : t.rest program with
  | ret a => exact ⟨a, rfl⟩
  | op upd next =>
    have hresult := h t hmem
    rw [Thread.result_eq_none hrest] at hresult
    cases hresult

theorem Pool.mem_step_of_returned {done : Thread κ σ} (h : done ∈ pool.threads) {a : α}
    (hdone : done.result program = some a) (act : Act κ) :
    done ∈ (pool.step program act).threads := by
  cases act with
  | call c => exact List.mem_append_left _ h
  | op k succeeds =>
    rcases pool.step_op_cases program k succeeds with
      ⟨t, upd, next, hperforming⟩ | ⟨hstay, -⟩
    · rw [hperforming.step_eq]
      obtain ⟨j, hj⟩ := List.mem_iff_getElem?.mp h
      have hne : k ≠ j := by
        rintro rfl
        have hsame : done = t := Option.some.inj (hj.symm.trans hperforming.thread)
        rw [hsame, Thread.result_eq_none hperforming.rest] at hdone
        cases hdone
      exact List.mem_iff_getElem?.mpr ⟨j, by rw [List.getElem?_set_ne hne, hj]⟩
    · rwa [hstay]

def Pool.Timed (pool : Pool κ σ) : Prop := ∀ t ∈ pool.threads, ∀ o ∈ t.seen, o.time < pool.time

theorem Pool.Timed.step (h : pool.Timed) (act : Act κ) : (pool.step program act).Timed := by
  cases act with
  | call c => exact Pool.forall_step_call h fun o ho => absurd ho List.not_mem_nil
  | op k succeeds =>
    rcases pool.step_op_cases program k succeeds with
      ⟨t, upd, next, hperforming⟩ | ⟨hstay, -⟩
    · have htime : (pool.step program (.op k succeeds)).time = pool.time + 1 := by
        rw [hperforming.step_eq]
      rw [Pool.Timed, htime]
      refine hperforming.forall_step (fun t' hmem o ho => ?_) fun o ho => ?_
      · exact (h t' hmem o ho).trans (Nat.lt_succ_self _)
      · rcases List.mem_append.mp ho with ho | ho
        · exact (h t hperforming.mem o ho).trans (Nat.lt_succ_self _)
        · rw [List.mem_singleton.mp ho]
          exact Nat.lt_succ_self _
    · rwa [hstay]

end Steps

theorem pairwise_set {β : Type} {R : β → β → Prop} {l : List β} {k : ℕ} {b b' : β}
    (h : l[k]? = some b) (hl : l.Pairwise R) (hleft : ∀ c, R b c → R b' c)
    (hright : ∀ c, R c b → R c b') : (l.set k b').Pairwise R := by
  induction l generalizing k with
  | nil => simp at h
  | cons a l ih =>
    obtain ⟨ha, hl⟩ := List.pairwise_cons.mp hl
    cases k with
    | zero =>
      rw [List.getElem?_cons_zero, Option.some.injEq] at h
      subst h
      rw [List.set_cons_zero]
      exact List.pairwise_cons.mpr ⟨fun c hc => hleft c (ha c hc), hl⟩
    | succ k =>
      rw [List.getElem?_cons_succ] at h
      rw [List.set_cons_succ]
      refine List.pairwise_cons.mpr ⟨fun c hc => ?_, ih h hl⟩
      rcases List.mem_or_eq_of_mem_set hc with hc | rfl
      · exact ha c hc
      · exact hright a (ha b (List.mem_of_getElem? h))

theorem sum_map_set {β : Type} {l : List β} {k : ℕ} {b : β} (h : l[k]? = some b) (b' : β)
    (weight : β → ℤ) :
    ((l.set k b').map weight).sum = (l.map weight).sum - weight b + weight b' := by
  induction l generalizing k with
  | nil => simp at h
  | cons a l ih =>
    cases k with
    | zero =>
      rw [List.getElem?_cons_zero, Option.some.injEq] at h
      rw [h, List.set_cons_zero, List.map_cons, List.map_cons, List.sum_cons, List.sum_cons]
      omega
    | succ k =>
      rw [List.getElem?_cons_succ] at h
      rw [List.set_cons_succ, List.map_cons, List.map_cons, List.sum_cons, List.sum_cons, ih h]
      omega

end Statora.Library
