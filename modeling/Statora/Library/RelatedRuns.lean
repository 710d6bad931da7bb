import Mathlib.Data.List.Forall2
import Statora.Library.Interleaving

/-!
# Two runs that look alike

Two programs, over stores of their own, are related when their operations take related
stores to related stores and, whatever each has found, the rests are related again. Pools of
related programs that take the same steps stay related, so what they return is related too.
-/

namespace Statora.Library
variable {κ κ' σ σ' ε α α' β β' : Type}

def Prog.Related (R : σ → σ' → Prop) (Q : α → α' → Prop) : Prog σ α → Prog σ' α' → Prop
  | .ret a, .ret a' => Q a a'
  | .op upd next, .op upd' next' =>
    (∀ s s', R s s' → R (upd s) (upd' s')) ∧ (next none).Related R Q (next' none) ∧
      ∀ s s', R s s' → (next (some s)).Related R Q (next' (some s'))
  | _, _ => False

theorem Prog.Related.cases {R : σ → σ' → Prop} {Q : α → α' → Prop} {p : Prog σ α} {p' : Prog σ' α'}
    (h : p.Related R Q p') :
    (∃ a a', p = .ret a ∧ p' = .ret a' ∧ Q a a') ∨
      ∃ upd next upd' next', p = .op upd next ∧ p' = .op upd' next' ∧
        (∀ s s', R s s' → R (upd s) (upd' s')) ∧ (next none).Related R Q (next' none) ∧
        ∀ s s', R s s' → (next (some s)).Related R Q (next' (some s')) := by
  cases p with
  | ret a =>
    cases p' with
    | ret a' => exact Or.inl ⟨a, a', rfl, rfl, h⟩
    | op upd' next' => exact h.elim
  | op upd next =>
    cases p' with
    | ret a' => exact h.elim
    | op upd' next' => exact Or.inr ⟨upd, next, upd', next', rfl, rfl, h⟩

@[simp] theorem related_ret {R : σ → σ' → Prop} {Q : α → α' → Prop} {a : α} {a' : α'} :
    Prog.Related R Q (.ret a) (.ret a') ↔ Q a a' := Iff.rfl

theorem Prog.Related.bind {R : σ → σ' → Prop} {T : β → β' → Prop} {Q : α → α' → Prop}
    {p : Prog σ β} {p' : Prog σ' β'} (h : p.Related R T p') {k : β → Prog σ α}
    {k' : β' → Prog σ' α'} (hk : ∀ b b', T b b' → (k b).Related R Q (k' b')) :
    (p.bind k).Related R Q (p'.bind k') := by
  induction p generalizing p' with
  | ret b =>
    cases p' with
    | ret b' => exact hk b b' h
    | op upd' next' => exact h.elim
  | op upd next ih =>
    cases p' with
    | ret b' => exact h.elim
    | op upd' next' => exact ⟨h.1, ih none h.2.1, fun s s' hs => ih (some s) (h.2.2 s s' hs)⟩

namespace Fallible

/-- Both calls fail in the same way, or both return related values. -/
inductive SameOutcome (T : α → α' → Prop) : Except ε α → Except ε α' → Prop
  | ok {a : α} {a' : α'} (h : T a a') : SameOutcome T (.ok a) (.ok a')
  | error (e : ε) : SameOutcome T (.error e) (.error e)

abbrev Related (R : σ → σ' → Prop) (T : α → α' → Prop) (p : Fallible σ ε α)
    (p' : Fallible σ' ε α') : Prop :=
  Prog.Related R (SameOutcome T) p p'

variable {R : σ → σ' → Prop} {S : β → β' → Prop} {T : α → α' → Prop}

theorem related_pure {a : α} {a' : α'} (h : T a a') :
    Related R T (pure a : Fallible σ ε α) (pure a' : Fallible σ' ε α') := SameOutcome.ok h

theorem related_throw (e : ε) :
    Related R T (throw e : Fallible σ ε α) (throw e : Fallible σ' ε α') := SameOutcome.error e

theorem related_bind {p : Fallible σ ε β} {p' : Fallible σ' ε β'} (h : Related R S p p')
    {k : β → Fallible σ ε α} {k' : β' → Fallible σ' ε α'}
    (hk : ∀ b b', S b b' → Related R T (k b) (k' b')) : Related R T (p >>= k) (p' >>= k') := by
  refine Prog.Related.bind h fun b b' hb => ?_
  cases hb with
  | ok hb => exact hk _ _ hb
  | error e => exact SameOutcome.error e

theorem related_mapError {ε' : Type} {g : ε → ε'} {p : Fallible σ ε α} {p' : Fallible σ' ε α'}
    (h : Related R T p p') : Related R T (mapError g p) (mapError g p') := by
  refine Prog.Related.bind h fun r r' hr => ?_
  cases hr with
  | ok h => exact .ok h
  | error e => exact .error (g e)

theorem related_query {failed : ε} {f : σ → α} {f' : σ' → α'}
    (h : ∀ s s', R s s' → T (f s) (f' s')) : Related R T (query failed f) (query failed f') :=
  ⟨fun _ _ hs => hs, .error failed, fun s s' hs => .ok (h s s' hs)⟩

theorem related_exec {failed : ε} {f : σ → σ} {f' : σ' → σ'}
    (h : ∀ s s', R s s' → R (f s) (f' s')) :
    Related R (fun _ _ => True) (exec failed f) (exec failed f') :=
  ⟨h, .error failed, fun _ _ _ => .ok trivial⟩

theorem sameOutcome_answer {missing : ε} {found : Option α} {found' : Option α'}
    (h : Option.Rel T found found') :
    SameOutcome T (found.elim (.error missing) .ok) (found'.elim (.error missing) .ok) := by
  cases h with
  | none => exact .error missing
  | some h => exact .ok h

theorem related_find {failed missing : ε} {f : σ → Option α} {f' : σ' → Option α'}
    (h : ∀ s s', R s s' → Option.Rel T (f s) (f' s')) :
    Related R T (find failed missing f) (find failed missing f') :=
  ⟨fun _ _ hs => hs, .error failed, fun s s' hs => sameOutcome_answer (h s s' hs)⟩

theorem related_findAndUpdate {failed missing : ε} {f : σ → σ} {f' : σ' → σ'}
    {after : σ → Option α} {after' : σ' → Option α'} (hf : ∀ s s', R s s' → R (f s) (f' s'))
    (hafter : ∀ s s', R s s' → Option.Rel T (after s) (after' s')) :
    Related R T (findAndUpdate failed missing f after)
      (findAndUpdate failed missing f' after') :=
  ⟨hf, .error failed, fun s s' hs => sameOutcome_answer (hafter _ _ (hf s s' hs))⟩

end Fallible

section Pools
variable (program : κ → Prog σ α) (program' : κ' → Prog σ' α') (R : σ → σ' → Prop)
  (Q : α → α' → Prop)

inductive Act.Alike : Act κ → Act κ' → Prop
  | call {c : κ} {c' : κ'} (h : (program c).Related R Q (program' c')) :
    Act.Alike (.call c) (.call c')
  | op (k : ℕ) (succeeds : Bool) : Act.Alike (.op k succeeds) (.op k succeeds)

structure Pool.Alike (pool : Pool κ σ) (pool' : Pool κ' σ') : Prop where
  store : R pool.store pool'.store
  threads : List.Forall₂ (fun t t' => (t.rest program).Related R Q (t'.rest program'))
    pool.threads pool'.threads

variable {program program' R Q} {pool : Pool κ σ} {pool' : Pool κ' σ'}

theorem forall₂_set {β γ : Type} {S : β → γ → Prop} {l : List β} {l' : List γ}
    (h : List.Forall₂ S l l') (k : ℕ) {b : β} {c : γ} (hbc : S b c) :
    List.Forall₂ S (l.set k b) (l'.set k c) := by
  induction h generalizing k with
  | nil => exact .nil
  | cons hfirst hrest ih =>
    cases k with
    | zero => exact .cons hbc hrest
    | succ k => exact .cons hfirst (ih k)

theorem Pool.Alike.thread_cases (h : pool.Alike program program' R Q pool') (k : ℕ) :
    pool.threads[k]? = none ∧ pool'.threads[k]? = none ∨
      ∃ t t', pool.threads[k]? = some t ∧ pool'.threads[k]? = some t' ∧
        (t.rest program).Related R Q (t'.rest program') := by
  have hthreads := h.threads
  generalize pool.threads = threads at hthreads
  generalize pool'.threads = threads' at hthreads
  induction hthreads generalizing k with
  | nil => exact Or.inl ⟨rfl, rfl⟩
  | cons hfirst hrest ih =>
    cases k with
    | zero => exact Or.inr ⟨_, _, rfl, rfl, hfirst⟩
    | succ k => exact ih k

theorem Pool.Alike.step_call (h : pool.Alike program program' R Q pool') {c : κ}
    {c' : κ'} (hc : (program c).Related R Q (program' c')) :
    (pool.step program (.call c)).Alike program program' R Q (pool'.step program' (.call c')) := by
  refine ⟨h.store, List.rel_append h.threads (.cons ?_ .nil)⟩
  rwa [Thread.rest_of_fresh rfl, Thread.rest_of_fresh rfl]

theorem Pool.Alike.step_op (h : pool.Alike program program' R Q pool') (k : ℕ) (succeeds : Bool) :
    (pool.step program (.op k succeeds)).Alike program program' R Q
      (pool'.step program' (.op k succeeds)) := by
  unfold Pool.step
  dsimp only
  rcases h.thread_cases k with ⟨hthread, hthread'⟩ | ⟨t, t', hthread, hthread', hrelated⟩
  · rw [hthread, hthread']
    exact h
  rw [hthread, hthread']
  dsimp only
  rcases hrelated.cases with ⟨a, a', hrest, hrest', -⟩ |
    ⟨upd, next, upd', next', hrest, hrest', hupd, hfailed, hfound⟩
  · rw [hrest, hrest']
    exact h
  rw [hrest, hrest']
  refine ⟨?_, forall₂_set h.threads k ?_⟩
  · cases succeeds with
    | true => exact hupd _ _ h.store
    | false => exact h.store
  · rw [Thread.rest_observe hrest, Thread.rest_observe hrest']
    cases succeeds with
    | true => exact hfound _ _ h.store
    | false => exact hfailed

theorem Pool.Alike.run (h : pool.Alike program program' R Q pool') {acts : List (Act κ)}
    {acts' : List (Act κ')} (hacts : List.Forall₂ (Act.Alike program program' R Q) acts acts') :
    (Library.run (Pool.step program) pool acts).Alike program program' R Q
      (Library.run (Pool.step program') pool' acts') := by
  induction hacts generalizing pool pool' with
  | nil => exact h
  | cons hact hrest ih =>
    cases hact with
    | call hc => exact ih (h.step_call hc)
    | op k succeeds => exact ih (h.step_op k succeeds)

theorem Pool.Alike.results (h : pool.Alike program program' R Q pool') :
    List.Forall₂ (fun t t' => Option.Rel Q (t.result program) (t'.result program'))
      pool.threads pool'.threads := by
  refine h.threads.imp fun t t' hrelated => ?_
  unfold Thread.result
  rcases hrelated.cases with ⟨a, a', hrest, hrest', ha⟩ | ⟨_, _, _, _, hrest, hrest', -⟩
  · rw [hrest, hrest']
    exact .some ha
  · rw [hrest, hrest']
    exact .none

end Pools
end Statora.Library
