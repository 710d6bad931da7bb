import Statora.Library.Interleaving

/-!
# Calls that are applied at most once

What callers see of the store changes only by whole calls: every operation leaves the view
as it is, or applies the call to it, and a call that has been applied only reads. Then the
view after any interleaving is the first view with some of the calls applied one after
another, each at most once, and all of those whose answer says so.
-/

namespace Statora.Library
variable {κ σ ε α β δ : Type}

def Unseen (view : σ → Option δ) (upd : σ → σ) : Prop :=
  ∀ s d, view s = some d → view (upd s) = some d

/-- The operation applies the function to a view that is there. -/
def Applies (view : σ → Option δ) (f : δ → δ) (upd : σ → σ) : Prop :=
  ∀ s d, view s = some d → view (upd s) = some (f d)

/-- The program applies `f` at most once, and before any answer that confirms it. -/
def Prog.AppliesOnce (view : σ → Option δ) (f : δ → δ) (confirms : α → Prop) : Prog σ α → Prop
  | .ret a => ¬confirms a
  | .op upd next =>
    Unseen view upd ∧ (∀ found, (next found).AppliesOnce view f confirms) ∨
      Applies view f upd ∧ (next none).AppliesOnce view f confirms ∧
        ∀ s, (next (some s)).Performs (Unseen view)

theorem unseen_id (view : σ → Option δ) : Unseen view id := fun _ _ h => h

namespace Fallible
variable {view : σ → Option δ} {f : δ → δ} {confirms : Except ε α → Prop}

theorem appliesOnce_query_bind {failed : ε} {g : σ → β} {k : β → Fallible σ ε α}
    (hfailed : ¬confirms (.error failed)) (hk : ∀ b, Prog.AppliesOnce view f confirms (k b)) :
    Prog.AppliesOnce view f confirms (query failed g >>= k : Fallible σ ε α) := by
  rw [query_bind]
  refine Or.inl ⟨unseen_id view, fun found => ?_⟩
  cases found with
  | none => exact hfailed
  | some s => exact hk (g s)

theorem appliesOnce_exec_bind {failed : ε} {g : σ → σ} {k : Unit → Fallible σ ε α}
    (hfailed : ¬confirms (.error failed)) (hg : Unseen view g)
    (hk : Prog.AppliesOnce view f confirms (k ())) :
    Prog.AppliesOnce view f confirms (exec failed g >>= k : Fallible σ ε α) := by
  rw [exec_bind]
  refine Or.inl ⟨hg, fun found => ?_⟩
  cases found with
  | none => exact hfailed
  | some s => exact hk

theorem appliesOnce_findAndUpdate_bind {failed missing : ε} {g : σ → σ} {after : σ → Option β}
    {k : β → Fallible σ ε α} (hfailed : ¬confirms (.error failed)) (hg : Applies view f g)
    (hk : ∀ b, Prog.Performs (Unseen view) (k b)) :
    Prog.AppliesOnce view f confirms (findAndUpdate failed missing g after >>= k :
      Fallible σ ε α) := by
  refine Or.inr ⟨hg, hfailed, fun s => ?_⟩
  change Prog.Performs (Unseen view) ((Prog.ret ((after (g s)).elim (.error missing) .ok) :
    Fallible σ ε β) >>= k : Fallible σ ε α)
  cases after (g s) with
  | none => trivial
  | some b => exact hk b

end Fallible

section Pools
variable {program : κ → Prog σ α} {view : σ → Option δ} {apply : κ → δ → δ}
  {confirms : α → Prop} {pool : Pool κ σ} {d : δ} {applied : List (ℕ × κ)}

def applyAll (apply : κ → δ → δ) (applied : List (ℕ × κ)) (d : δ) : δ :=
  applied.foldl (fun d call => apply call.2 d) d

/-- The view is the first one with these calls applied, each once; they are named with
their places among the calls. -/
structure Pool.Applied (program : κ → Prog σ α) (view : σ → Option δ) (apply : κ → δ → δ)
    (confirms : α → Prop) (d : δ) (applied : List (ℕ × κ)) (pool : Pool κ σ) : Prop where
  store : view pool.store = some (applyAll apply applied d)
  nodup : (applied.map Prod.fst).Nodup
  calls : ∀ call ∈ applied, ∃ t, pool.threads[call.1]? = some t ∧ t.call = call.2
  threads : ∀ k t, pool.threads[k]? = some t →
    k ∈ applied.map Prod.fst ∧ (t.rest program).Performs (Unseen view) ∨
      k ∉ applied.map Prod.fst ∧ (t.rest program).AppliesOnce view (apply t.call) confirms

theorem Pool.Applied.lt (h : pool.Applied program view apply confirms d applied) {k : ℕ}
    (hk : k ∈ applied.map Prod.fst) : k < pool.threads.length := by
  obtain ⟨call, hcall, rfl⟩ := List.mem_map.mp hk
  obtain ⟨t, ht, -⟩ := h.calls call hcall
  exact (List.getElem?_eq_some_iff.mp ht).1

theorem Pool.Applied.call (h : pool.Applied program view apply confirms d applied)
    (hprogram : ∀ c, (program c).AppliesOnce view (apply c) confirms) (c : κ) :
    (pool.step program (.call c)).Applied program view apply confirms d applied := by
  refine ⟨h.store, h.nodup, fun call hcall => ?_, fun k t ht => ?_⟩
  · obtain ⟨t, ht, hname⟩ := h.calls call hcall
    exact ⟨t, (List.getElem?_append_left (List.getElem?_eq_some_iff.mp ht).1).trans ht, hname⟩
  · change (pool.threads ++ [{ call := c }])[k]? = some t at ht
    rcases lt_or_ge k pool.threads.length with hlt | hge
    · rw [List.getElem?_append_left hlt] at ht
      exact h.threads k t ht
    · rw [List.getElem?_append_right hge] at ht
      obtain rfl := List.mem_singleton.mp (List.mem_of_getElem? ht)
      refine Or.inr ⟨fun hk => absurd (h.lt hk) (not_lt.mpr hge), ?_⟩
      rw [Thread.rest_of_fresh rfl]
      exact hprogram c

section Operations
variable {k : ℕ} {t : Thread κ σ} {upd : σ → σ} {next : Option σ → Prog σ α}

theorem Pool.Performing.calls_step (hop : pool.Performing program k t upd next) (succeeds : Bool)
    {j : ℕ} {t' : Thread κ σ} (h : pool.threads[j]? = some t') :
    ∃ t'', (pool.step program (.op k succeeds)).threads[j]? = some t'' ∧ t''.call = t'.call := by
  rw [hop.getElem?_step]
  by_cases hj : j = k
  · subst hj
    obtain rfl := Option.some.inj (hop.thread.symm.trans h)
    rw [if_pos rfl]
    exact ⟨_, rfl, rfl⟩
  · rw [if_neg hj]
    exact ⟨t', h, rfl⟩

theorem Pool.Applied.op_unseen (h : pool.Applied program view apply confirms d applied)
    (hop : pool.Performing program k t upd next) {succeeds : Bool}
    (hupd : succeeds = true → Unseen view upd)
    (hnext : k ∈ applied.map Prod.fst ∧
        (next (if succeeds then some pool.store else none)).Performs (Unseen view) ∨
      k ∉ applied.map Prod.fst ∧ (next (if succeeds then some pool.store else none)).AppliesOnce
        view (apply t.call) confirms) :
    (pool.step program (.op k succeeds)).Applied program view apply confirms d applied := by
  refine ⟨?_, h.nodup, fun call hcall => ?_, fun j t' ht' => ?_⟩
  · rw [hop.store_step]
    split_ifs with hsucceeds
    · exact hupd hsucceeds _ _ h.store
    · exact h.store
  · obtain ⟨t', ht', hname⟩ := h.calls call hcall
    obtain ⟨t'', ht'', hcall'⟩ := hop.calls_step succeeds ht'
    exact ⟨t'', ht'', hcall'.trans hname⟩
  · rw [hop.getElem?_step] at ht'
    by_cases hj : j = k
    · rw [if_pos hj] at ht'
      obtain rfl := Option.some.inj ht'
      rw [hj, Thread.rest_observe hop.rest]
      exact hnext
    · rw [if_neg hj] at ht'
      exact h.threads j t' ht'

theorem Pool.Applied.op_applies (h : pool.Applied program view apply confirms d applied)
    (hop : pool.Performing program k t upd next) (hk : k ∉ applied.map Prod.fst)
    (hupd : Applies view (apply t.call) upd)
    (hnext : (next (some pool.store)).Performs (Unseen view)) :
    (pool.step program (.op k true)).Applied program view apply confirms d
      (applied ++ [(k, t.call)]) := by
  have hnames : (applied ++ [(k, t.call)]).map Prod.fst = applied.map Prod.fst ++ [k] :=
    List.map_append
  refine ⟨?_, ?_, fun call hcall => ?_, fun j t' ht' => ?_⟩
  · rw [hop.store_step, if_pos rfl, applyAll, List.foldl_append]
    exact hupd _ _ h.store
  · rw [hnames]
    refine List.nodup_append.mpr ⟨h.nodup, List.pairwise_singleton _ k, ?_⟩
    rintro j hj _ hk' rfl
    exact hk (List.mem_singleton.mp hk' ▸ hj)
  · rcases List.mem_append.mp hcall with hcall | hcall
    · obtain ⟨t', ht', hname⟩ := h.calls call hcall
      obtain ⟨t'', ht'', hcall'⟩ := hop.calls_step true ht'
      exact ⟨t'', ht'', hcall'.trans hname⟩
    · rw [List.mem_singleton.mp hcall]
      exact hop.calls_step true hop.thread
  · rw [hop.getElem?_step] at ht'
    rw [hnames]
    by_cases hj : j = k
    · rw [if_pos hj] at ht'
      obtain rfl := Option.some.inj ht'
      rw [Thread.rest_observe hop.rest, hj]
      exact Or.inl ⟨List.mem_append_right _ List.mem_cons_self, hnext⟩
    · rw [if_neg hj] at ht'
      rw [List.mem_append, List.mem_singleton, or_iff_left hj]
      exact h.threads j t' ht'

end Operations

theorem Pool.Applied.step (h : pool.Applied program view apply confirms d applied)
    (hprogram : ∀ c, (program c).AppliesOnce view (apply c) confirms) (act : Act κ) :
    ∃ applied', (pool.step program act).Applied program view apply confirms d applied' := by
  cases act with
  | call c => exact ⟨applied, h.call hprogram c⟩
  | op k succeeds =>
    rcases pool.step_op_cases program k succeeds with ⟨t, upd, next, hop⟩ | ⟨hstay, -⟩
    · have hthread := h.threads k t hop.thread
      rw [hop.rest] at hthread
      rcases hthread with ⟨hk, hunseen, hnext⟩ | ⟨hk, ⟨hunseen, hnext⟩ | ⟨happlies, hfailed, hnext⟩⟩
      · exact ⟨applied, h.op_unseen hop (fun _ => hunseen) (Or.inl ⟨hk, hnext _⟩)⟩
      · exact ⟨applied, h.op_unseen hop (fun _ => hunseen) (Or.inr ⟨hk, hnext _⟩)⟩
      · cases succeeds with
        | true => exact ⟨_, h.op_applies hop hk happlies (hnext pool.store)⟩
        | false => exact ⟨applied, h.op_unseen hop (fun hs => by cases hs) (Or.inr ⟨hk, hfailed⟩)⟩
    · rw [hstay]
      exact ⟨applied, h⟩

theorem Pool.applied_run (hprogram : ∀ c, (program c).AppliesOnce view (apply c) confirms) {s : σ}
    (h : view s = some d) (acts : List (Act κ)) :
    ∃ applied, (run (Pool.step program) { store := s } acts).Applied program view apply confirms d
      applied := by
  refine run_invariant (J := fun pool : Pool κ σ => ∃ applied,
    pool.Applied program view apply confirms d applied) ?_ ⟨[], h, List.Pairwise.nil, ?_, ?_⟩
  · rintro pool act ⟨applied, happlied⟩
    exact happlied.step hprogram act
  · exact fun call hcall => absurd hcall List.not_mem_nil
  · exact fun k t ht => by cases ht

theorem Pool.Applied.mem_of_confirms (h : pool.Applied program view apply confirms d applied)
    {k : ℕ} {t : Thread κ σ} (ht : pool.threads[k]? = some t) {a : α}
    (ha : t.result program = some a) (hconfirms : confirms a) : k ∈ applied.map Prod.fst := by
  rcases h.threads k t ht with ⟨hk, -⟩ | ⟨-, honce⟩
  · exact hk
  · unfold Thread.result at ha
    cases hrest : t.rest program with
    | ret b =>
      rw [hrest] at ha honce
      obtain rfl := Option.some.inj ha
      exact absurd hconfirms honce
    | op upd next =>
      rw [hrest] at ha
      cases ha

end Pools
end Statora.Library
