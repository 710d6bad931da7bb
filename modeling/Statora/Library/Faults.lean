import Statora.Library.StoreProgram

/-!
# Programs whose store operations fail

`runWith` is the run in which some of the operations fail. A program that stops at a
failure ends where a run without failures has been before that operation.
-/

namespace Statora.Library

/-- Where a run has ended, and the number of operations made, the failed one included. -/
structure Outcome (σ α : Type) where
  result : α
  store : σ
  steps : ℕ

namespace Prog
variable {σ α β : Type}

/-- The run in which the operations that `fails` names fail; the first one is number `n`. -/
def runWith (fails : ℕ → Bool) : Prog σ α → σ → ℕ → Outcome σ α
  | .ret a, s, n => ⟨a, s, n⟩
  | .op upd next, s, n =>
    if fails n then (next none).runWith fails s (n + 1)
    else (next (some s)).runWith fails (upd s) (n + 1)

theorem runWith_op_of_fails {fails : ℕ → Bool} {n : ℕ} (h : fails n = true) (upd : σ → σ)
    (next : Option σ → Prog σ α) (s : σ) :
    (Prog.op upd next).runWith fails s n = (next none).runWith fails s (n + 1) := if_pos h

theorem runWith_op_of_succeeds {fails : ℕ → Bool} {n : ℕ} (h : fails n = false) (upd : σ → σ)
    (next : Option σ → Prog σ α) (s : σ) :
    (Prog.op upd next).runWith fails s n = (next (some s)).runWith fails (upd s) (n + 1) :=
  if_neg (Bool.not_eq_true _ ▸ h)

def found : Prog σ α → σ → List σ
  | .ret _, _ => []
  | .op upd next, s => s :: (next (some s)).found (upd s)

theorem runWith_of_no_failure {fails : ℕ → Bool} (h : ∀ n, fails n = false) (p : Prog σ α)
    (s : σ) (n : ℕ) :
    p.runWith fails s n = ⟨(p.run s).1, (p.run s).2, n + (p.found s).length⟩ := by
  induction p generalizing s n with
  | ret a => rfl
  | op upd next ih =>
    rw [runWith_op_of_succeeds (h n), ih (some s), run, found, List.length_cons]
    congr 1
    omega

theorem found_bind (p : Prog σ α) (k : α → Prog σ β) (s : σ) :
    (p.bind k).found s = p.found s ++ (k (p.run s).1).found (p.run s).2 := by
  induction p generalizing s with
  | ret a => rfl
  | op upd next ih => exact congrArg (List.cons s) (ih (some s) (upd s))

theorem le_steps_runWith (fails : ℕ → Bool) (p : Prog σ α) (s : σ) (n : ℕ) :
    n ≤ (p.runWith fails s n).steps := by
  induction p generalizing s n with
  | ret a => exact Nat.le_refl n
  | op upd next ih =>
    cases hn : fails n with
    | true =>
      rw [runWith_op_of_fails hn]
      exact Nat.le_of_succ_le (ih none s (n + 1))
    | false =>
      rw [runWith_op_of_succeeds hn]
      exact Nat.le_of_succ_le (ih (some s) (upd s) (n + 1))

theorem lt_steps_runWith_op (fails : ℕ → Bool) (upd : σ → σ) (next : Option σ → Prog σ α)
    (s : σ) (n : ℕ) : n < ((Prog.op upd next).runWith fails s n).steps := by
  cases hn : fails n with
  | true =>
    rw [runWith_op_of_fails hn]
    exact le_steps_runWith fails (next none) s (n + 1)
  | false =>
    rw [runWith_op_of_succeeds hn]
    exact le_steps_runWith fails (next (some s)) (upd s) (n + 1)

end Prog

namespace Fallible
variable {σ τ ε α β : Type} {proj : σ → τ}

def runWith (fails : ℕ → Bool) (p : Fallible σ ε α) (s : σ) (n : ℕ) : Outcome σ (Except ε α) :=
  Prog.runWith fails p s n

def found (p : Fallible σ ε α) (s : σ) : List σ := Prog.found p s

@[simp] theorem found_pure (a : α) (s : σ) : (pure a : Fallible σ ε α).found s = [] := rfl

@[simp] theorem found_throw (e : ε) (s : σ) : (throw e : Fallible σ ε α).found s = [] := rfl

@[simp] theorem found_find (failed missing : ε) (f : σ → Option β) (s : σ) :
    (find failed missing f).found s = [s] := rfl

@[simp] theorem found_query (failed : ε) (f : σ → β) (s : σ) :
    (query failed f).found s = [s] := rfl

@[simp] theorem found_execIf (failed refused : ε) (guard : σ → Bool) (f : σ → σ) (s : σ) :
    (execIf failed refused guard f).found s = [s] := rfl

@[simp] theorem found_findAndUpdate (failed missing : ε) (f : σ → σ) (after : σ → Option β)
    (s : σ) : (findAndUpdate failed missing f after).found s = [s] := rfl

@[simp] theorem found_exec (failed : ε) (f : σ → σ) (s : σ) : (exec failed f).found s = [s] :=
  rfl

theorem found_bind (p : Fallible σ ε α) (k : α → Fallible σ ε β) (s : σ) :
    (p >>= k).found s = p.found s ++ match p.run s with
      | (.ok a, s') => (k a).found s'
      | (.error _, _) => [] := by
  refine (Prog.found_bind (σ := σ) p _ s).trans ?_
  change p.found s ++ Prog.found _ (p.run s).2 = _
  rcases hp : p.run s with ⟨e | a, s'⟩ <;> simp only [run] at hp <;> rw [hp] <;> rfl

theorem found_bind_of_ok {p : Fallible σ ε α} {k : α → Fallible σ ε β} {s s' : σ} {a : α}
    (h : p.run s = (.ok a, s')) : (p >>= k).found s = p.found s ++ (k a).found s' := by
  rw [found_bind, h]

theorem found_bind_of_error {p : Fallible σ ε α} {k : α → Fallible σ ε β} {s s' : σ} {e : ε}
    (h : p.run s = (.error e, s')) : (p >>= k).found s = p.found s := by
  rw [found_bind, h, List.append_nil]

theorem found_bind_pure (p : Fallible σ ε α) (f : α → β) (s : σ) :
    (p >>= fun a => pure (f a)).found s = p.found s := by
  rw [found_bind]
  rcases p.run s with ⟨e | a, s'⟩ <;> exact List.append_nil _

/-- A failed operation ends the program, and one that ends it by a refusal has left this
part of the store as it was. -/
inductive Stops (proj : σ → τ) : Fallible σ ε α → Prop
  | ret (r : Except ε α) : Stops proj (Prog.ret r)
  | op {upd : σ → σ} {next : Option σ → Prog σ (Except ε α)}
      (failed : ∃ e, next none = Prog.ret (.error e))
      (refused : ∀ s e, next (some s) = Prog.ret (.error e) → proj (upd s) = proj s)
      (rest : ∀ s, Stops proj (next (some s))) : Stops proj (Prog.op upd next)

theorem stops_pure (a : α) : Stops proj (pure a : Fallible σ ε α) := .ret _

theorem stops_throw (e : ε) : Stops proj (throw e : Fallible σ ε α) := .ret _

theorem stops_find (failed missing : ε) (f : σ → Option β) :
    Stops proj (find failed missing f) :=
  .op ⟨failed, rfl⟩ (fun _ _ _ => rfl) fun _ => .ret _

theorem stops_execIf (failed refused : ε) (guard : σ → Bool) (f : σ → σ) :
    Stops proj (execIf failed refused guard f) := by
  refine .op ⟨failed, rfl⟩ (fun s e h => ?_) fun _ => .ret _
  dsimp only at h ⊢
  split_ifs at h with hguard
  · cases h
  · rw [if_neg hguard]

theorem stops_findAndUpdate (failed missing : ε) {f : σ → σ} {after : σ → Option β}
    (h : ∀ s, after (f s) = none → proj (f s) = proj s) :
    Stops proj (findAndUpdate failed missing f after) := by
  refine .op ⟨failed, rfl⟩ (fun s e hrefused => h s ?_) fun _ => .ret _
  dsimp only at hrefused
  cases hafter : after (f s) with
  | none => rfl
  | some b =>
    rw [hafter] at hrefused
    cases hrefused

theorem stops_exec (failed : ε) (f : σ → σ) : Stops proj (exec failed f) :=
  .op ⟨failed, rfl⟩ (fun _ _ h => by cases h) fun _ => .ret _

theorem Stops.bind {p : Fallible σ ε α} {k : α → Fallible σ ε β} (hp : Stops proj p)
    (hk : ∀ a, Stops proj (k a)) (hgoes : ∀ a e, k a ≠ throw e) : Stops proj (p >>= k) := by
  induction hp with
  | ret r =>
    cases r with
    | ok a => exact hk a
    | error e => exact .ret _
  | @op upd next failed refused rest ih =>
    obtain ⟨e, hfailed⟩ := failed
    refine .op ⟨e, by rw [hfailed]; rfl⟩ (fun s e h => ?_) ih
    cases hnext : next (some s) with
    | ret r =>
      rw [hnext] at h
      cases r with
      | ok a => exact absurd h (hgoes a e)
      | error e' => exact refused s e' hnext
    | op upd' next' =>
      rw [hnext] at h
      cases h

theorem Stops.bind_pure {p : Fallible σ ε α} (h : Stops proj p) (f : α → β) :
    Stops proj (p >>= fun a => pure (f a)) :=
  h.bind (fun _ => stops_pure _) fun _ _ h => by cases h

theorem stops_query_bind {failed : ε} {f : σ → β} {k : β → Fallible σ ε α}
    (hk : ∀ b, Stops proj (k b)) : Stops proj (query failed f >>= k) := by
  rw [query_bind]
  exact .op ⟨failed, rfl⟩ (fun _ _ _ => rfl) fun s => hk (f s)

theorem eq_throw_of_steps_eq {p : Fallible σ ε α} {fails : ℕ → Bool} {s : σ} {n : ℕ} {e : ε}
    (herror : (p.runWith fails s n).result = .error e) (hsteps : (p.runWith fails s n).steps = n) :
    ∃ e, p = throw e := by
  cases p with
  | ret r =>
    obtain rfl : r = .error e := herror
    exact ⟨e, rfl⟩
  | op upd next =>
    have hle := Prog.lt_steps_runWith_op fails upd next s n
    exact absurd hsteps (Nat.ne_of_gt hle)

theorem Stops.found_of_error {p : Fallible σ ε α} (h : Stops proj p) {fails : ℕ → Bool} {s : σ}
    {n : ℕ} {e : ε} (herror : (p.runWith fails s n).result = .error e) :
    (p.runWith fails s n).steps = n ∧ (p.runWith fails s n).store = s ∨
      ∃ m s', (p.runWith fails s n).steps = n + m + 1 ∧ (p.found s)[m]? = some s' ∧
        proj (p.runWith fails s n).store = proj s' := by
  induction h generalizing s n with
  | ret r => exact Or.inl ⟨rfl, rfl⟩
  | @op upd next failed refused rest ih =>
    refine Or.inr ?_
    obtain ⟨e', hfailed⟩ := failed
    cases hn : fails n with
    | true =>
      have hrun : runWith fails (Prog.op upd next) s n = ⟨.error e', s, n + 1⟩ :=
        (Prog.runWith_op_of_fails hn upd next s).trans (by rw [hfailed]; rfl)
      rw [hrun]
      exact ⟨0, s, rfl, rfl, rfl⟩
    | false =>
      have hrun : runWith fails (Prog.op upd next) s n =
          runWith fails (next (some s)) (upd s) (n + 1) :=
        Prog.runWith_op_of_succeeds hn upd next s
      rw [hrun] at herror ⊢
      obtain ⟨hsteps, hstore⟩ | ⟨m, s', hsteps, hfound, hproj⟩ := ih s herror
      · -- The rest has made no operation, so this one was refused.
        obtain ⟨e'', hnext⟩ := eq_throw_of_steps_eq herror hsteps
        exact ⟨0, s, hsteps, rfl, by rw [hstore]; exact refused s e'' hnext⟩
      · exact ⟨m + 1, s', by omega, hfound, hproj⟩

def applied (writes : List (σ → σ)) (s : σ) : σ := writes.foldl (fun s write => write s) s

def Silent (proj : σ → τ) (p : Fallible σ ε α) : Prop := ∀ s, ∀ s' ∈ p.found s, proj s' = proj s

def Writes (proj : σ → τ) (reads : ℕ) (writes : List (σ → σ)) (p : Fallible σ ε α) (s : σ) :
    Prop :=
  ∀ m s', (p.found s)[m]? = some s' → proj s' = proj (applied (writes.take (m - reads)) s)

theorem silent_pure (a : α) : Silent proj (pure a : Fallible σ ε α) := fun s s' h => by cases h

theorem silent_throw (e : ε) : Silent proj (throw e : Fallible σ ε α) := fun s s' h => by cases h

theorem silent_query (failed : ε) (f : σ → β) : Silent proj (query failed f) := fun s s' h => by
  rw [found_query, List.mem_singleton] at h
  rw [h]

theorem silent_execIf (failed refused : ε) (guard : σ → Bool) (f : σ → σ) :
    Silent proj (execIf failed refused guard f) := fun s s' h => by
  rw [found_execIf, List.mem_singleton] at h
  rw [h]

theorem Silent.bind {p : Fallible σ ε α} {k : α → Fallible σ ε β} (hp : Silent proj p)
    (hleaves : Leaves proj p) (hk : ∀ a, Silent proj (k a)) : Silent proj (p >>= k) := by
  intro s s' h
  rw [found_bind, List.mem_append] at h
  rcases h with h | h
  · exact hp s s' h
  · have hproj := hleaves s
    rcases hrun : p.run s with ⟨e | a, s₁⟩ <;> rw [hrun] at h hproj
    · cases h
    · exact (hk a s₁ s' h).trans hproj

theorem writes_of_silent {p : Fallible σ ε α} (h : Silent proj p) (reads : ℕ) (s : σ) :
    Writes proj reads [] p s := by
  intro m s' hm
  rw [List.take_nil]
  exact h s s' (List.mem_of_getElem? hm)

section Writes
variable {reads : ℕ} {writes : List (σ → σ)} {s : σ}

theorem writes_bind_of_reads {p : Fallible σ ε α} {k : α → Fallible σ ε β} {a : α}
    (hrun : p.run s = (.ok a, s)) (hfound : p.found s = List.replicate reads s)
    (hk : Writes proj 0 writes (k a) s) : Writes proj reads writes (p >>= k) s := by
  intro m s' hm
  rw [found_bind_of_ok hrun, hfound] at hm
  by_cases hlt : m < reads
  · rw [List.getElem?_append_left (by rwa [List.length_replicate]),
      List.getElem?_replicate_of_lt hlt] at hm
    obtain rfl := Option.some.inj hm
    rw [Nat.sub_eq_zero_of_le (Nat.le_of_lt hlt)]
    rfl
  · rw [List.getElem?_append_right (by rw [List.length_replicate]; omega),
      List.length_replicate] at hm
    exact hk (m - reads) s' hm

theorem writes_bind_of_error {p : Fallible σ ε α} {k : α → Fallible σ ε β} {e : ε} {s₁ : σ}
    (hrun : p.run s = (.error e, s₁)) (hfound : p.found s = [s]) :
    Writes proj reads writes (p >>= k) s := by
  intro m s' hm
  rw [found_bind_of_error hrun, hfound] at hm
  cases m with
  | zero =>
    obtain rfl := Option.some.inj hm
    rw [Nat.zero_sub]
    rfl
  | succ m => cases hm

theorem writes_bind_of_write {p : Fallible σ ε α} {k : α → Fallible σ ε β} {a : α} {w : σ → σ}
    (hrun : p.run s = (.ok a, w s)) (hfound : p.found s = [s])
    (hk : Writes proj 0 writes (k a) (w s)) : Writes proj 0 (w :: writes) (p >>= k) s := by
  intro m s' hm
  rw [found_bind_of_ok hrun, hfound] at hm
  cases m with
  | zero =>
    obtain rfl := Option.some.inj hm
    rfl
  | succ m => exact hk m s' hm

theorem Writes.bind_pure {p : Fallible σ ε α} (h : Writes proj reads writes p s) (f : α → β) :
    Writes proj reads writes (p >>= fun a => pure (f a)) s := by
  intro m s' hm
  rw [found_bind_pure] at hm
  exact h m s' hm

theorem writes_execIf_bind (failed refused : ε) (guard : σ → Bool) {f : σ → σ}
    {k : Unit → Fallible σ ε β} (hk : Writes proj 0 writes (k ()) (f s)) :
    Writes proj 0 (f :: writes) (execIf failed refused guard f >>= k) s := by
  cases hguard : guard s with
  | true => exact writes_bind_of_write (by simp [hguard]) rfl hk
  | false =>
    have hrun : (execIf failed refused guard f).run s = (.error refused, s) := by simp [hguard]
    exact writes_bind_of_error hrun rfl

theorem writes_findAndUpdate_bind (failed missing : ε) {f : σ → σ} {after : σ → Option α}
    {k : α → Fallible σ ε β} (hk : ∀ a, Writes proj 0 writes (k a) (f s)) :
    Writes proj 0 (f :: writes) (findAndUpdate failed missing f after >>= k) s := by
  cases hafter : after (f s) with
  | some a => exact writes_bind_of_write (by rw [run_findAndUpdate, hafter]; rfl) rfl (hk a)
  | none => exact writes_bind_of_error (by rw [run_findAndUpdate, hafter]; rfl) rfl

theorem writes_exec_bind (failed : ε) {f : σ → σ} {k : Unit → Fallible σ ε β}
    (hk : Writes proj 0 writes (k ()) (f s)) :
    Writes proj 0 (f :: writes) (exec failed f >>= k) s :=
  writes_bind_of_write rfl rfl hk

theorem Stops.writes_of_error {p : Fallible σ ε α} (h : Stops proj p)
    (hwrites : Writes proj reads writes p s) {fails : ℕ → Bool} {e : ε}
    (herror : (p.runWith fails s 0).result = .error e) :
    proj (p.runWith fails s 0).store =
      proj (applied (writes.take ((p.runWith fails s 0).steps - 1 - reads)) s) := by
  obtain ⟨hsteps, hstore⟩ | ⟨m, s', hsteps, hfound, hproj⟩ := h.found_of_error herror
  · rw [hsteps, hstore, Nat.zero_sub]
    rfl
  · rw [hproj, hwrites m s' hfound, hsteps]
    congr 3
    omega

end Writes
end Fallible
end Statora.Library
