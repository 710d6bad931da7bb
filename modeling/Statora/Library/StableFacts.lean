import Statora.Library.Interleaving

/-!
# Facts about the store that stay true

An operation may be safe only where some fact about the store holds. When every
operation keeps the fact, a call may rely on it from the moment it has found or
established it, whatever the other calls do in between.
-/

namespace Statora.Library
variable {κ σ ε α β : Type}

/-- Every operation of the program keeps the invariant `I` and the fact `E`, where those
that come after the fact is known may rely on it. -/
def Prog.Relies (I E : σ → Prop) : Prop → Prog σ α → Prop
  | _, .ret _ => True
  | known, .op upd next =>
    (∀ s, I s → (known → E s) → I (upd s) ∧ (E s → E (upd s))) ∧
      (next none).Relies I E known ∧
      ∀ s, I s → (known → E s) → (next (some s)).Relies I E (E (upd s))

section Rules
variable {I E : σ → Prop} {known : Prop}

theorem Prog.Relies.mono {p : Prog σ α} {known' : Prop} (h : p.Relies I E known)
    (hknown : known → known') : p.Relies I E known' := by
  induction p with
  | ret a => trivial
  | op upd next ih =>
    exact ⟨fun s hs hE => h.1 s hs fun hk => hE (hknown hk), ih none h.2.1,
      fun s hs hE => h.2.2 s hs fun hk => hE (hknown hk)⟩

namespace Fallible

theorem relies_throw (e : ε) : Prog.Relies I E known (throw e : Fallible σ ε α) := trivial

theorem relies_query_bind {failed : ε} {f : σ → β} {k : β → Fallible σ ε α}
    (h : ∀ s, I s → (known → E s) → Prog.Relies I E (E s) (k (f s))) :
    Prog.Relies I E known (query failed f >>= k : Fallible σ ε α) :=
  ⟨fun _ hs _ => ⟨hs, fun hE => hE⟩, trivial, h⟩

theorem relies_exec_bind {failed : ε} {f : σ → σ} {k : Unit → Fallible σ ε α}
    (hf : ∀ s, I s → (known → E s) → I (f s) ∧ (E s → E (f s)))
    (h : ∀ s, I s → (known → E s) → Prog.Relies I E (E (f s)) (k ())) :
    Prog.Relies I E known (exec failed f >>= k : Fallible σ ε α) :=
  ⟨hf, trivial, h⟩

theorem relies_answer {missing : ε} {found : Option β} {k : β → Fallible σ ε α}
    (h : ∀ b, found = some b → Prog.Relies I E known (k b)) :
    Prog.Relies I E known ((Prog.ret (found.elim (.error missing) .ok) : Fallible σ ε β) >>= k :
      Fallible σ ε α) := by
  cases found with
  | none => trivial
  | some b => exact h b rfl

theorem relies_findAndUpdate_bind {failed missing : ε} {f : σ → σ} {after : σ → Option β}
    {k : β → Fallible σ ε α} (hf : ∀ s, I s → (known → E s) → I (f s) ∧ (E s → E (f s)))
    (h : ∀ s b, I s → (known → E s) → after (f s) = some b → Prog.Relies I E (E (f s)) (k b)) :
    Prog.Relies I E known (findAndUpdate failed missing f after >>= k : Fallible σ ε α) :=
  ⟨hf, trivial, fun s hs hE => relies_answer fun b hb => h s b hs hE hb⟩

theorem relies_find_bind {failed missing : ε} {f : σ → Option β} {k : β → Fallible σ ε α}
    (h : ∀ s b, I s → (known → E s) → f s = some b → Prog.Relies I E (E s) (k b)) :
    Prog.Relies I E known (find failed missing f >>= k : Fallible σ ε α) :=
  ⟨fun _ hs _ => ⟨hs, fun hE => hE⟩, trivial,
    fun s hs hE => relies_answer fun b hb => h s b hs hE hb⟩

end Fallible
end Rules

section Pools
variable {program : κ → Prog σ α} {I E : σ → Prop} {pool : Pool κ σ}

structure Pool.Keeping (program : κ → Prog σ α) (I E : σ → Prop) (pool : Pool κ σ) : Prop where
  store : I pool.store
  threads : ∀ t ∈ pool.threads, (t.rest program).Relies I E (E pool.store)

theorem Pool.Keeping.step (h : pool.Keeping program I E)
    (hprogram : ∀ c, (program c).Relies I E False) (act : Act κ) :
    (pool.step program act).Keeping program I E := by
  cases act with
  | call c =>
    refine ⟨h.store, Pool.forall_step_call h.threads ?_⟩
    rw [Thread.rest_of_fresh rfl]
    exact (hprogram c).mono False.elim
  | op k succeeds =>
    rcases pool.step_op_cases program k succeeds with
      ⟨t, upd, next, hperforming⟩ | ⟨hstay, -⟩
    · have hrelies := h.threads t hperforming.mem
      rw [hperforming.rest] at hrelies
      have hkeep := hrelies.1 pool.store h.store id
      refine ⟨?_, hperforming.forall_step (fun t' hmem => ?_) ?_⟩
      · rw [hperforming.store_step]
        split_ifs
        · exact hkeep.1
        · exact h.store
      · rw [hperforming.store_step]
        split_ifs
        · exact (h.threads t' hmem).mono hkeep.2
        · exact h.threads t' hmem
      · rw [hperforming.store_step, Thread.rest_observe hperforming.rest]
        cases succeeds with
        | true => exact hrelies.2.2 pool.store h.store id
        | false => exact hrelies.2.1
    · rwa [hstay]

theorem Pool.allStates_of_relies (hprogram : ∀ c, (program c).Relies I E False) {s : σ} (h : I s)
    (acts : List (Act κ)) :
    AllStates (Pool.step program) (fun pool => I pool.store) { store := s } acts :=
  (allStates_of_invariant (J := Pool.Keeping program I E) (Q := fun _ _ => True)
    (fun _ h => h.store) (fun _ act h _ => h.step hprogram act)
    ⟨h, fun _ hmem => absurd hmem List.not_mem_nil⟩ (allSteps_of_forall fun _ _ _ => trivial)).2

end Pools
end Statora.Library
