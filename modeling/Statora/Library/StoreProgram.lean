import Mathlib.Tactic.Common

/-!
# Programs over a shared store

A program is a tree of single store operations. Each operation either succeeds,
when it updates the store and hands the state it found to the rest of the
program, or fails, when it leaves the store alone and hands over nothing. `run`
is the sequential execution in which every operation succeeds.

`Fallible` adds a result of the form "value or error" on top, with the usual
early exit.
-/

namespace Statora.Library

inductive Prog (σ α : Type) where
  | ret (a : α) : Prog σ α
  | op (upd : σ → σ) (next : Option σ → Prog σ α) : Prog σ α

namespace Prog
variable {σ α β : Type}

def bind : Prog σ α → (α → Prog σ β) → Prog σ β
  | .ret a, k => k a
  | .op upd next, k => .op upd fun seen => (next seen).bind k

instance : Monad (Prog σ) where
  pure := .ret
  bind := bind

/-- Reads from the store; `none` when the operation fails. -/
def query (f : σ → β) : Prog σ (Option β) := .op id fun seen => .ret (seen.map f)

/-- Writes to the store; the answer tells whether the operation succeeded. -/
def exec (f : σ → σ) : Prog σ Bool := .op f fun seen => .ret seen.isSome

/-- Writes to the store; the answer tells what the write found there. -/
def update (seen : σ → β) (f : σ → σ) : Prog σ (Option β) :=
  .op f fun found => .ret (found.map seen)

def run : Prog σ α → σ → α × σ
  | .ret a, s => (a, s)
  | .op upd next, s => (next (some s)).run (upd s)

@[simp] theorem run_pure (a : α) (s : σ) : (pure a : Prog σ α).run s = (a, s) := rfl

@[simp] theorem run_bind (p : Prog σ α) (k : α → Prog σ β) (s : σ) :
    (p >>= k).run s = (k (p.run s).1).run (p.run s).2 := by
  change (p.bind k).run s = _
  induction p generalizing s with
  | ret a => rfl
  | op upd next ih => exact ih (some s) (upd s)

theorem bind_assoc {γ : Type} (p : Prog σ α) (k : α → Prog σ β) (k' : β → Prog σ γ) :
    (p.bind k).bind k' = p.bind fun a => (k a).bind k' := by
  induction p with
  | ret a => rfl
  | op upd next ih => exact congrArg (Prog.op upd) (funext ih)

@[simp] theorem run_query (f : σ → β) (s : σ) : (query f).run s = (some (f s), s) := rfl

@[simp] theorem run_exec (f : σ → σ) (s : σ) : (exec f).run s = (true, f s) := rfl

@[simp] theorem run_update (seen : σ → β) (f : σ → σ) (s : σ) :
    (update seen f).run s = (some (seen s), f s) := rfl

theorem run_ite (c : Prop) [Decidable c] (p q : Prog σ α) (s : σ) :
    (if c then p else q).run s = if c then p.run s else q.run s := by
  split_ifs <;> rfl

end Prog

def Fallible (σ ε α : Type) := Prog σ (Except ε α)

namespace Fallible
variable {σ ε α β : Type}

instance : Monad (Fallible σ ε) where
  pure a := Prog.ret (.ok a)
  bind p k := Prog.bind p fun
    | .ok a => k a
    | .error e => Prog.ret (.error e)

def run (p : Fallible σ ε α) (s : σ) : Except ε α × σ := Prog.run p s

def throw (e : ε) : Fallible σ ε α := Prog.ret (.error e)

/-- Reads a document: `failed` when the operation fails, `missing` when there is none. -/
def find (failed missing : ε) (f : σ → Option β) : Fallible σ ε β :=
  .op id fun
    | none => .ret (.error failed)
    | some s => .ret ((f s).elim (.error missing) .ok)

def query (failed : ε) (f : σ → β) : Fallible σ ε β :=
  .op id fun
    | none => .ret (.error failed)
    | some s => .ret (.ok (f s))

/-- Writes to the store when the guard accepts the state found there, and is
refused with `refused` otherwise. -/
def execIf (failed refused : ε) (guard : σ → Bool) (f : σ → σ) : Fallible σ ε Unit :=
  .op (fun s => if guard s then f s else s) fun
    | none => .ret (.error failed)
    | some s => .ret (if guard s then .ok () else .error refused)

def findAndUpdate (failed missing : ε) (f : σ → σ) (after : σ → Option β) : Fallible σ ε β :=
  .op f fun
    | none => .ret (.error failed)
    | some s => .ret ((after (f s)).elim (.error missing) .ok)

def exec (failed : ε) (f : σ → σ) : Fallible σ ε Unit :=
  .op f fun
    | none => .ret (.error failed)
    | some _ => .ret (.ok ())

def update (failed : ε) (seen : σ → β) (f : σ → σ) : Fallible σ ε β :=
  .op f fun
    | none => .ret (.error failed)
    | some s => .ret (.ok (seen s))

def mapError {ε' : Type} (f : ε → ε') (p : Fallible σ ε α) : Fallible σ ε' α :=
  Prog.bind p fun r => Prog.ret (r.mapError f)

@[simp] theorem run_pure (a : α) (s : σ) :
    (pure a : Fallible σ ε α).run s = (.ok a, s) := rfl

@[simp] theorem run_throw (e : ε) (s : σ) :
    (throw e : Fallible σ ε α).run s = (.error e, s) := rfl

@[simp] theorem run_find (failed missing : ε) (f : σ → Option β) (s : σ) :
    (find failed missing f).run s = ((f s).elim (.error missing) .ok, s) := rfl

@[simp] theorem run_query (failed : ε) (f : σ → β) (s : σ) :
    (query failed f).run s = (.ok (f s), s) := rfl

@[simp] theorem run_execIf (failed refused : ε) (guard : σ → Bool) (f : σ → σ) (s : σ) :
    (execIf failed refused guard f).run s =
      (if guard s then .ok () else .error refused, if guard s then f s else s) := rfl

@[simp] theorem run_findAndUpdate (failed missing : ε) (f : σ → σ) (after : σ → Option β)
    (s : σ) : (findAndUpdate failed missing f after).run s =
      ((after (f s)).elim (.error missing) .ok, f s) := rfl

@[simp] theorem run_exec (failed : ε) (f : σ → σ) (s : σ) :
    (exec failed f).run s = (.ok (), f s) := rfl

@[simp] theorem run_update (failed : ε) (seen : σ → β) (f : σ → σ) (s : σ) :
    (update failed seen f : Fallible σ ε β).run s = (.ok (seen s), f s) := rfl

theorem run_bind (p : Fallible σ ε α) (k : α → Fallible σ ε β) (s : σ) :
    (p >>= k).run s = match p.run s with
      | (.ok a, s') => (k a).run s'
      | (.error e, s') => (.error e, s') := by
  change Prog.run (Prog.bind p _) s = _
  have h := Prog.run_bind (σ := σ) p
    (fun r => match r with | .ok a => k a | .error e => Prog.ret (.error e)) s
  refine h.trans ?_
  change Prog.run _ (p.run s).2 = _
  rcases hp : p.run s with ⟨r | a, s'⟩ <;>
    simp only [run] at hp <;> simp [hp, run, Prog.run]

@[simp] theorem run_mapError {ε' : Type} (f : ε → ε') (p : Fallible σ ε α) (s : σ) :
    (mapError f p).run s = ((p.run s).1.mapError f, (p.run s).2) :=
  Prog.run_bind p _ s

theorem find_bind (failed missing : ε) (f : σ → Option β) (k : β → Fallible σ ε α) :
    find failed missing f >>= k =
      Prog.op id fun seen => seen.elim (throw failed) fun s => (f s).elim (throw missing) k := by
  change Prog.op id _ = _
  congr 1
  funext seen
  cases seen with
  | none => rfl
  | some s =>
    dsimp only [Option.elim]
    cases f s <;> rfl

theorem query_bind (failed : ε) (f : σ → β) (k : β → Fallible σ ε α) :
    query failed f >>= k =
      Prog.op id fun seen => seen.elim (throw failed) fun s => k (f s) := by
  change Prog.op id _ = _
  congr 1
  funext seen
  cases seen <;> rfl

theorem exec_bind (failed : ε) (f : σ → σ) (k : Unit → Fallible σ ε α) :
    exec failed f >>= k = Prog.op f fun seen => seen.elim (throw failed) fun _ => k () := by
  change Prog.op f _ = _
  congr 1
  funext seen
  cases seen <;> rfl

theorem execIf_bind (failed refused : ε) (guard : σ → Bool) (f : σ → σ)
    (k : Unit → Fallible σ ε α) : execIf failed refused guard f >>= k =
      Prog.op (fun s => if guard s then f s else s) fun seen =>
        seen.elim (throw failed) fun s => if guard s then k () else throw refused := by
  change Prog.op _ _ = _
  congr 1
  funext seen
  cases seen with
  | none => rfl
  | some s =>
    change Prog.bind (Prog.ret (if guard s then Except.ok () else Except.error refused)) _ = _
    dsimp only [Option.elim]
    cases guard s <;> rfl

theorem bind_assoc {γ : Type} (p : Fallible σ ε α) (k : α → Fallible σ ε β)
    (k' : β → Fallible σ ε γ) : p >>= k >>= k' = p >>= fun a => k a >>= k' := by
  refine (Prog.bind_assoc p _ _).trans (congrArg (Prog.bind p) (funext fun r => ?_))
  cases r <;> rfl

@[simp] theorem pure_bind (a : α) (k : α → Fallible σ ε β) :
    (pure a : Fallible σ ε α) >>= k = k a := rfl

@[simp] theorem throw_bind (e : ε) (k : α → Fallible σ ε β) :
    (throw e : Fallible σ ε α) >>= k = throw e := rfl

section MapError
variable {ε' : Type} (g : ε → ε')

@[simp] theorem mapError_pure (a : α) :
    mapError g (pure a : Fallible σ ε α) = pure a := rfl

@[simp] theorem mapError_throw (e : ε) :
    mapError g (throw e : Fallible σ ε α) = throw (g e) := rfl

theorem mapError_query (failed : ε) (f : σ → β) :
    mapError g (query failed f) = query (g failed) f := by
  change Prog.op id _ = Prog.op id _
  congr 1
  funext seen
  cases seen <;> rfl

theorem mapError_execIf (failed refused : ε) (guard : σ → Bool) (f : σ → σ) :
    mapError g (execIf failed refused guard f) = execIf (g failed) (g refused) guard f := by
  change Prog.op _ _ = Prog.op _ _
  congr 1
  funext seen
  cases seen with
  | none => rfl
  | some s =>
    change Prog.ret _ = Prog.ret _
    cases guard s <;> rfl

theorem mapError_bind (p : Fallible σ ε α) (k : α → Fallible σ ε β) :
    mapError g (p >>= k) = mapError g p >>= fun a => mapError g (k a) := by
  refine (Prog.bind_assoc p _ _).trans ((Prog.bind_assoc p _ _).trans ?_).symm
  refine congrArg (Prog.bind p) (funext fun r => ?_)
  cases r <;> rfl

end MapError

theorem run_bind_eq_ok {p : Fallible σ ε α} {k : α → Fallible σ ε β} {s s' : σ} {b : β}
    (h : (p >>= k).run s = (.ok b, s')) :
    ∃ a s₁, p.run s = (.ok a, s₁) ∧ (k a).run s₁ = (.ok b, s') := by
  rw [run_bind] at h
  rcases hp : p.run s with ⟨_ | a, s₁⟩ <;> rw [hp] at h
  · cases h
  · exact ⟨a, s₁, rfl, h⟩

theorem run_pure_eq_ok {s s' : σ} {a b : α}
    (h : (pure a : Fallible σ ε α).run s = (.ok b, s')) : b = a := by
  rw [run_pure, Prod.mk.injEq, Except.ok.injEq] at h
  exact h.1.symm

theorem run_find_eq_ok {failed missing : ε} {f : σ → Option β} {s s' : σ} {b : β}
    (h : (find failed missing f).run s = (.ok b, s')) : f s = some b ∧ s' = s := by
  rw [run_find, Prod.mk.injEq] at h
  cases hf : f s with
  | none => simp [hf] at h
  | some found =>
    simp only [hf, Option.elim, Except.ok.injEq] at h
    exact ⟨congrArg some h.1, h.2.symm⟩

theorem run_mapError_eq_ok {ε' : Type} {f : ε → ε'} {p : Fallible σ ε α} {s s' : σ} {a : α}
    (h : (mapError f p).run s = (.ok a, s')) : p.run s = (.ok a, s') := by
  rw [run_mapError, Prod.mk.injEq] at h
  rcases hp : p.run s with ⟨_ | found, s₁⟩ <;> simp only [hp, Except.mapError] at h
  · cases h.1
  · rw [Except.ok.inj h.1, h.2]

theorem run_bind_frame {τ : Type} (proj : σ → τ) {p : Fallible σ ε α}
    {k : α → Fallible σ ε β} (hk : ∀ a s', proj ((k a).run s').2 = proj s') (s : σ) :
    proj ((p >>= k).run s).2 = proj (p.run s).2 := by
  rw [run_bind]
  rcases p.run s with ⟨_ | a, s'⟩
  · rfl
  · exact hk a s'

@[simp] theorem run_bind_pure_snd (p : Fallible σ ε α) (f : α → β) (s : σ) :
    ((p >>= fun a => pure (f a)).run s).2 = (p.run s).2 :=
  run_bind_frame (fun s => s) (fun _ _ => rfl) s

theorem run_bind_of_ok {p : Fallible σ ε α} {k : α → Fallible σ ε β} {s s' : σ} {a : α}
    (h : p.run s = (.ok a, s')) : (p >>= k).run s = (k a).run s' := by
  rw [run_bind, h]

theorem run_bind_of_error {p : Fallible σ ε α} {k : α → Fallible σ ε β} {s s' : σ} {e : ε}
    (h : p.run s = (.error e, s')) : (p >>= k).run s = (.error e, s') := by
  rw [run_bind, h]

/-- The program, run from this state, ends in the value. -/
def Returns (p : Fallible σ ε α) (s : σ) (a : α) : Prop := (p.run s).1 = .ok a

theorem returns_bind {p : Fallible σ ε α} {k : α → Fallible σ ε β} {s : σ} {b : β} :
    Returns (p >>= k) s b ↔ ∃ a, Returns p s a ∧ Returns (k a) (p.run s).2 b := by
  unfold Returns
  rw [run_bind]
  rcases p.run s with ⟨e | a, s'⟩ <;> simp

theorem returns_bind_of_ok {p : Fallible σ ε α} {k : α → Fallible σ ε β} {s s' : σ} {a : α}
    {b : β} (h : p.run s = (.ok a, s')) : Returns (p >>= k) s b ↔ Returns (k a) s' b := by
  rw [Returns, run_bind_of_ok h, Returns]

theorem not_returns_bind_of_error {p : Fallible σ ε α} {k : α → Fallible σ ε β} {s s' : σ}
    {e : ε} {b : β} (h : p.run s = (.error e, s')) : ¬ Returns (p >>= k) s b := by
  rw [Returns, run_bind_of_error h]
  exact fun hok => by cases hok

@[simp] theorem returns_pure {s : σ} {a b : α} :
    Returns (pure a : Fallible σ ε α) s b ↔ b = a := by
  rw [Returns, run_pure, Except.ok.injEq, eq_comm]

@[simp] theorem not_returns_throw {e : ε} {s : σ} {a : α} :
    ¬ Returns (throw e : Fallible σ ε α) s a := fun h => by cases h

@[simp] theorem returns_find {failed missing : ε} {f : σ → Option β} {s : σ} {b : β} :
    Returns (find failed missing f) s b ↔ f s = some b := by
  rw [Returns, run_find]
  cases f s <;> simp

@[simp] theorem returns_execIf {failed refused : ε} {guard : σ → Bool} {f : σ → σ} {s : σ}
    {u : Unit} : Returns (execIf failed refused guard f) s u ↔ guard s = true := by
  rw [Returns, run_execIf]
  cases guard s <;> simp

@[simp] theorem returns_findAndUpdate {failed missing : ε} {f : σ → σ} {after : σ → Option β}
    {s : σ} {b : β} : Returns (findAndUpdate failed missing f after) s b ↔
      after (f s) = some b := by
  rw [Returns, run_findAndUpdate]
  cases after (f s) <;> simp

@[simp] theorem returns_exec {failed : ε} {f : σ → σ} {s : σ} {u : Unit} :
    Returns (exec failed f) s u := rfl

def Leaves {τ : Type} (proj : σ → τ) (p : Fallible σ ε α) : Prop :=
  ∀ s, proj (p.run s).2 = proj s

section Leaves
variable {τ : Type} {proj : σ → τ}

theorem leaves_pure (a : α) : Leaves proj (pure a : Fallible σ ε α) := fun _ => rfl

theorem leaves_throw (e : ε) : Leaves proj (throw e : Fallible σ ε α) := fun _ => rfl

theorem leaves_find (failed missing : ε) (f : σ → Option β) :
    Leaves proj (find failed missing f) := fun _ => rfl

theorem leaves_execIf (failed refused : ε) (guard : σ → Bool) {f : σ → σ}
    (h : ∀ s, proj (f s) = proj s) : Leaves proj (execIf failed refused guard f) := by
  intro s
  rw [run_execIf]
  split_ifs
  · exact h s
  · rfl

theorem leaves_findAndUpdate (failed missing : ε) {f : σ → σ} (after : σ → Option β)
    (h : ∀ s, proj (f s) = proj s) : Leaves proj (findAndUpdate failed missing f after) := h

theorem leaves_exec (failed : ε) {f : σ → σ} (h : ∀ s, proj (f s) = proj s) :
    Leaves proj (exec failed f) := h

theorem Leaves.mapError {ε' : Type} {p : Fallible σ ε α} (hp : Leaves proj p) (f : ε → ε') :
    Leaves proj (mapError f p) := fun s => by
  rw [run_mapError]
  exact hp s

theorem Leaves.bind {p : Fallible σ ε α} {k : α → Fallible σ ε β} (hp : Leaves proj p)
    (hk : ∀ a, Leaves proj (k a)) : Leaves proj (p >>= k) := fun s =>
  (run_bind_frame proj hk s).trans (hp s)

end Leaves
end Fallible
end Statora.Library
