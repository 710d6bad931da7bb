import Statora.Library.Interleaving
import Statora.Subscribers.History

/-!
# Unsubscribing under concurrent requests

A request reads a subscriber and later replaces the whole document. One that has read
before an unsubscribe and writes after it undoes the unsubscribe.
-/

namespace Statora.Subscribers
open Library (Prog Fallible Collection Thread Pool Act Observation AllStates AllSteps run
  OnOperations)

variable (lower : Char → Char)

abbrev RequestPool := Pool Request Database

def requestStep : RequestPool → Act Request → RequestPool :=
  Pool.step (Request.program lower)

def foundBy (t : Thread Request Database) : Option Subscriber :=
  t.seen.head?.bind fun o => o.found.bind (t.call.lookup lower)

structure Outcome where
  began : ℕ
  ended : ℕ
  sub : Subscriber

def outcome (t : Thread Request Database) : Option Outcome :=
  match t.seen, t.result (Request.program lower) with
  | [lookup, write], some (.ok sub) => some ⟨lookup.time, write.time, sub⟩
  | _, _ => none

def Request.issues : Request → Bool
  | .subscribe _ _ | .resendVerification _ _ => true
  | .verify _ _ | .unsubscribe _ _ => false

def Request.verifies : Request → Option String
  | .verify token _ => some token
  | .subscribe _ _ | .unsubscribe _ _ | .resendVerification _ _ => none

def Request.ends : Request → Bool
  | .unsubscribe _ _ => true
  | .subscribe _ _ | .verify _ _ | .resendVerification _ _ => false

/-- An unsubscribe of the subscriber with this id has succeeded, and wrote at the time
`at_`. -/
def UnsubscribedAt (pool : RequestPool) (at_ : ℕ) (id : ObjectID) : Prop :=
  ∃ t ∈ pool.threads, t.call.ends = true ∧ ∃ done ∈ outcome lower t,
    done.ended = at_ ∧ done.sub.id = id

def IssuedAfter (pool : RequestPool) (at_ : ℕ) (id : ObjectID) (token : String) : Prop :=
  ∃ t ∈ pool.threads, t.call.issues = true ∧ ∃ done ∈ outcome lower t,
    at_ < done.began ∧ done.sub.id = id ∧ done.sub.verificationToken = token

def VerifiedAfter (pool : RequestPool) (at_ : ℕ) (id : ObjectID) : Prop :=
  ∃ t ∈ pool.threads, ∃ token ∈ t.call.verifies, ∃ done ∈ outcome lower t,
    at_ < done.ended ∧ done.sub.id = id ∧ IssuedAfter lower pool at_ id token

/-- After an unsubscribe that has returned, its subscriber is on the mail list only once
a token that was asked for later is verified. -/
def UnsubscribesHold (pool : RequestPool) : Prop :=
  ∀ at_ id, UnsubscribedAt lower pool at_ id →
    ∀ sub ∈ listVerified pool.store, sub.id = id → VerifiedAfter lower pool at_ id

def Request.keepsEnded (request : Request) (found : Subscriber) : Bool :=
  match request with
  | .subscribe _ _ => found.unsubscribed && !found.verified
  | .verify _ _ | .resendVerification _ _ => found.unsubscribed
  | .unsubscribe _ _ => true

def UnsubscribedSince (pool : RequestPool) (time : ℕ) (id : ObjectID) : Prop :=
  ∃ t ∈ pool.threads, t.call.ends = true ∧ ∃ done ∈ outcome lower t,
    time ≤ done.ended ∧ done.sub.id = id

/-- A request that writes after an unsubscribe what it has read before it leaves the
subscriber marked unsubscribed. -/
def WritesCurrent (pool : RequestPool) (t : Thread Request Database) (_ : Database → Database)
    (succeeds : Bool) : Prop :=
  succeeds = true → ∀ lookup ∈ t.seen, ∀ found ∈ foundBy lower t,
    UnsubscribedSince lower pool lookup.time found.id → t.call.keepsEnded found = true

instance (pool : RequestPool) (time : ℕ) (id : ObjectID) :
    Decidable (UnsubscribedSince lower pool time id) :=
  inferInstanceAs (Decidable (∃ t ∈ pool.threads, _ ∧ ∃ done ∈ outcome lower t, _ ∧ _))

instance (pool : RequestPool) (at_ : ℕ) (id : ObjectID) :
    Decidable (UnsubscribedAt lower pool at_ id) :=
  inferInstanceAs (Decidable (∃ t ∈ pool.threads, _ ∧ ∃ done ∈ outcome lower t, _ ∧ _))

instance (pool : RequestPool) (at_ : ℕ) (id : ObjectID) (token : String) :
    Decidable (IssuedAfter lower pool at_ id token) :=
  inferInstanceAs (Decidable (∃ t ∈ pool.threads, _ ∧ ∃ done ∈ outcome lower t, _ ∧ _ ∧ _))

instance (pool : RequestPool) (at_ : ℕ) (id : ObjectID) :
    Decidable (VerifiedAfter lower pool at_ id) :=
  inferInstanceAs (Decidable (∃ t ∈ pool.threads, ∃ token ∈ t.call.verifies,
    ∃ done ∈ outcome lower t, _ ∧ _ ∧ _))

instance (pool : RequestPool) (t : Thread Request Database) (upd : Database → Database)
    (succeeds : Bool) : Decidable (WritesCurrent lower pool t upd succeeds) :=
  inferInstanceAs (Decidable (_ → ∀ lookup ∈ t.seen, ∀ found ∈ foundBy lower t, _ → _))

instance (pool : RequestPool) (act : Act Request) :
    Decidable (OnOperations (Request.program lower) (WritesCurrent lower) pool act) :=
  OnOperations.decidable (WritesCurrent lower) pool act

theorem Planned.unsubscribed {request : Request} {found sub' : Subscriber}
    (h : Planned lower request (some found) (.replace sub')) :
    sub'.unsubscribed = request.keepsEnded found := by
  cases h with
  | pending email rt _ hpending =>
    change found.unsubscribed = (found.unsubscribed && !found.verified)
    rw [hpending, Bool.not_false, Bool.and_true]
  | reactivate email rt _ hverified hended =>
    change false = (found.unsubscribed && !found.verified)
    rw [hverified, Bool.not_true, Bool.and_false]
  | verify token rt _ _ | unsubscribe token rt _ | resend id rt _ _ => rfl

theorem rest_after_lookup {t : Thread Request Database} {o : Observation Database}
    {rest : List (Observation Database)} (hseen : t.seen = o :: rest) :
    t.rest (Request.program lower) = Prog.after (o.found.elim (Fallible.throw .store) fun db =>
      planned (t.call.plan lower (t.call.lookup lower db))) (rest.map (·.found)) := by
  unfold Thread.rest
  rw [hseen, Request.program_eq]
  rfl

theorem head?_observe {t : Thread Request Database} {lookup : Observation Database}
    (hseen : t.seen = [lookup]) (o : Observation Database) :
    (t.observe o).seen.head? = t.seen.head? := by
  unfold Thread.observe
  rw [hseen]
  rfl

theorem foundBy_observe {t : Thread Request Database} {lookup : Observation Database}
    (hseen : t.seen = [lookup]) (o : Observation Database) :
    foundBy lower (t.observe o) = foundBy lower t := by
  unfold foundBy
  rw [head?_observe hseen o]
  rfl

theorem mem_of_foundBy_observe {t : Thread Request Database} (hseen : t.seen = [])
    {o : Observation Database} {found : Subscriber} (h : found ∈ foundBy lower (t.observe o)) :
    ∃ db ∈ o.found, found ∈ db.subscribers.docs := by
  unfold foundBy Thread.observe at h
  rw [hseen, List.nil_append, List.head?_cons, Option.bind_some] at h
  obtain ⟨db, hdb, hfound⟩ := Option.bind_eq_some_iff.mp h
  exact ⟨db, hdb, Request.lookup_mem lower hfound⟩

theorem request_op_cases {pool : RequestPool} {k : ℕ} {t : Thread Request Database}
    {upd : Database → Database}
    {next : Option Database → Prog Database (Except ServiceError Subscriber)}
    (h : pool.Performing (Request.program lower) k t upd next) :
    (t.seen = [] ∧ upd = id) ∨
    ∃ o db write, t.seen = [o] ∧ o.found = some db ∧
      t.call.plan lower (t.call.lookup lower db) = .ok write ∧ upd = write.apply ∧
      ∀ o', (t.observe o').result (Request.program lower) = some (write.answer o'.found) := by
  have hrest := h.rest
  rcases hseen : t.seen with _ | ⟨o, rest⟩
  · left
    unfold Thread.rest at hrest
    rw [hseen, List.map_nil] at hrest
    have hprogram := (Request.program_eq lower t.call).symm.trans
      ((Prog.after_nil _).symm.trans hrest)
    exact ⟨rfl, (Prog.op.inj hprogram).1.symm⟩
  · right
    have hthrow : ∀ e : ServiceError,
        Prog.after (Fallible.throw e : Fallible Database ServiceError Subscriber)
          (rest.map (·.found)) ≠ .op upd next := fun e => by
      unfold Fallible.throw
      rw [Prog.after_ret]
      simp
    rw [rest_after_lookup lower hseen] at hrest
    cases hfound : o.found with
    | none =>
      rw [hfound] at hrest
      exact absurd hrest (hthrow _)
    | some db =>
      rw [hfound] at hrest
      dsimp only [Option.elim] at hrest
      cases hplan : t.call.plan lower (t.call.lookup lower db) with
      | error e =>
        rw [hplan] at hrest
        exact absurd hrest (hthrow e)
      | ok write =>
        rw [hplan, show planned (.ok write) = write.program from rfl, Write.program_eq] at hrest
        cases rest with
        | cons o' rest =>
          rw [List.map_cons, Prog.after, Prog.after_ret] at hrest
          cases hrest
        | nil =>
          rw [List.map_nil, Prog.after_nil, Prog.op.injEq] at hrest
          refine ⟨o, db, write, rfl, hfound, hplan, hrest.1.symm, fun o' => ?_⟩
          unfold Thread.result
          rw [Thread.rest_observe h.rest, ← hrest.2]

section Steps
variable {lower} {pool : RequestPool} {act : Act Request}

theorem result_of_outcome {t : Thread Request Database} {done : Outcome}
    (h : done ∈ outcome lower t) : t.result (Request.program lower) = some (.ok done.sub) := by
  unfold outcome at h
  split at h
  · cases h
    assumption
  · cases h

theorem outcome_eq_none {t : Thread Request Database} (h : t.seen.length ≠ 2) :
    outcome lower t = none := by
  unfold outcome
  split
  · rename_i hseen _
    exact absurd (by rw [hseen]; rfl) h
  · rfl

theorem mem_step_of_outcome {t : Thread Request Database} {done : Outcome}
    (h : t ∈ pool.threads) (hdone : done ∈ outcome lower t) (act : Act Request) :
    t ∈ (requestStep lower pool act).threads :=
  Pool.mem_step_of_returned h (result_of_outcome hdone) act

theorem IssuedAfter.step {at_ : ℕ} {id : ObjectID} {token : String}
    (h : IssuedAfter lower pool at_ id token) (act : Act Request) :
    IssuedAfter lower (requestStep lower pool act) at_ id token := by
  obtain ⟨t, hmem, hissues, done, hdone, hafter⟩ := h
  exact ⟨t, mem_step_of_outcome hmem hdone act, hissues, done, hdone, hafter⟩

theorem VerifiedAfter.step {at_ : ℕ} {id : ObjectID} (h : VerifiedAfter lower pool at_ id)
    (act : Act Request) : VerifiedAfter lower (requestStep lower pool act) at_ id := by
  obtain ⟨t, hmem, token, hverifies, done, hdone, hafter, hid, hissued⟩ := h
  exact ⟨t, mem_step_of_outcome hmem hdone act, token, hverifies, done, hdone, hafter, hid,
    hissued.step act⟩

structure BackedAfter (lower : Char → Char) (pool : RequestPool) (at_ : ℕ)
    (sub : Subscriber) : Prop where
  token : sub.unsubscribed = false → sub.verificationToken ≠ "" →
    IssuedAfter lower pool at_ sub.id sub.verificationToken
  verified : sub.unsubscribed = false → sub.verified = true →
    VerifiedAfter lower pool at_ sub.id

theorem BackedAfter.step {at_ : ℕ} {sub : Subscriber} (h : BackedAfter lower pool at_ sub)
    (act : Act Request) : BackedAfter lower (requestStep lower pool act) at_ sub :=
  ⟨fun hactive htoken => (h.token hactive htoken).step act,
    fun hactive hverified => (h.verified hactive hverified).step act⟩

theorem backedAfter_of_unsubscribed {at_ : ℕ} {sub : Subscriber} (h : sub.unsubscribed = true) :
    BackedAfter lower pool at_ sub := by
  have hended : sub.unsubscribed ≠ false := by simp [h]
  exact ⟨fun hactive => absurd hactive hended, fun hactive => absurd hactive hended⟩

theorem backedAfter_of_issued {at_ : ℕ} {sub : Subscriber}
    (h : IssuedAfter lower pool at_ sub.id sub.verificationToken)
    (hpending : sub.verified = false) : BackedAfter lower pool at_ sub :=
  ⟨fun _ _ => h, fun _ hverified => absurd hverified (by simp [hpending])⟩

structure ReadBacked (lower : Char → Char) (pool : RequestPool)
    (t : Thread Request Database) : Prop where
  stored : ∀ found ∈ foundBy lower t, pool.store.subscribers.contains found.id = true
  backed : ∀ lookup ∈ t.seen.head?, ∀ found ∈ foundBy lower t, ∀ at_ < lookup.time,
    UnsubscribedAt lower pool at_ found.id → BackedAfter lower pool at_ found

/-- The invariant: a stored subscriber is backed for every unsubscribe of it, and what a
request has read for those before its lookup. -/
structure PoolBacked (lower : Char → Char) (pool : RequestPool) : Prop where
  timed : pool.Timed
  ended : ∀ at_ id, UnsubscribedAt lower pool at_ id → pool.store.subscribers.contains id = true
  stored : ∀ sub ∈ pool.store.subscribers.docs, ∀ at_, UnsubscribedAt lower pool at_ sub.id →
    BackedAfter lower pool at_ sub
  read : ∀ t ∈ pool.threads, ReadBacked lower pool t

theorem PoolBacked.unsubscribesHold (h : PoolBacked lower pool) : UnsubscribesHold lower pool := by
  rintro at_ id hended sub hlisted rfl
  unfold listVerified at hlisted
  obtain ⟨hmem, hmatch⟩ := List.mem_filter.mp hlisted
  rw [Bool.and_eq_true, Bool.not_eq_true'] at hmatch
  exact (h.stored sub hmem at_ hended).verified hmatch.2 hmatch.1

theorem UnsubscribedAt.lt_time (h : PoolBacked lower pool) {at_ : ℕ} {id : ObjectID}
    (hended : UnsubscribedAt lower pool at_ id) : at_ < pool.time := by
  obtain ⟨t, hmem, -, done, hdone, rfl, -⟩ := hended
  unfold outcome at hdone
  split at hdone
  · rename_i lookup write _ hseen _
    cases hdone
    exact h.timed t hmem write (by simp [hseen])
  · cases hdone

theorem ReadBacked.step {t : Thread Request Database} (h : ReadBacked lower pool t)
    (hcontains : ∀ id, pool.store.subscribers.contains id = true →
      (requestStep lower pool act).store.subscribers.contains id = true)
    (hended : ∀ lookup ∈ t.seen.head?, ∀ at_ < lookup.time, ∀ id,
      UnsubscribedAt lower (requestStep lower pool act) at_ id → UnsubscribedAt lower pool at_ id) :
    ReadBacked lower (requestStep lower pool act) t :=
  ⟨fun found hfound => hcontains found.id (h.stored found hfound),
    fun lookup hlookup found hfound at_ hlt hafter =>
      (h.backed lookup hlookup found hfound at_ hlt
        (hended lookup hlookup at_ hlt found.id hafter)).step act⟩

theorem ReadBacked.observe {t : Thread Request Database} (h : ReadBacked lower pool t)
    {lookup : Observation Database} (hseen : t.seen = [lookup]) (o : Observation Database) :
    ReadBacked lower pool (t.observe o) := by
  have hfound := foundBy_observe lower hseen o
  exact ⟨by rw [hfound]; exact h.stored, by rw [hfound, head?_observe hseen o]; exact h.backed⟩

theorem PoolBacked.quiet (h : PoolBacked lower pool)
    (hstore : (requestStep lower pool act).store = pool.store)
    (hnew : ∀ t ∈ (requestStep lower pool act).threads,
      t ∈ pool.threads ∨ outcome lower t = none ∧ ReadBacked lower pool t) :
    PoolBacked lower (requestStep lower pool act) := by
  have hended : ∀ at_ id, UnsubscribedAt lower (requestStep lower pool act) at_ id →
      UnsubscribedAt lower pool at_ id := fun at_ id ⟨t, hmem, hends, done, hdone, hafter⟩ => by
    rcases hnew t hmem with hold | ⟨hnone, -⟩
    · exact ⟨t, hold, hends, done, hdone, hafter⟩
    · rw [hnone] at hdone
      cases hdone
  refine ⟨h.timed.step act, fun at_ id hafter => ?_, fun sub hmem at_ hafter => ?_,
    fun t hmem => ?_⟩
  · rw [hstore]
    exact h.ended at_ id (hended at_ id hafter)
  · rw [hstore] at hmem
    exact (h.stored sub hmem at_ (hended at_ sub.id hafter)).step act
  · have hread : ReadBacked lower pool t := (hnew t hmem).elim (h.read t) And.right
    exact hread.step (fun id hid => by rwa [hstore]) fun _ _ at_ _ id => hended at_ id

theorem PoolBacked.call (h : PoolBacked lower pool) (request : Request) :
    PoolBacked lower (requestStep lower pool (.call request)) := by
  have hnone : ∀ found, found ∉ foundBy lower { call := request } := fun found hfound => by
    cases hfound
  refine h.quiet rfl (Pool.forall_step_call (fun t hold => Or.inl hold) (Or.inr ?_))
  exact ⟨outcome_eq_none (by simp), fun found hfound => absurd hfound (hnone found),
    fun _ _ found hfound => absurd hfound (hnone found)⟩

theorem PoolBacked.lookup (h : PoolBacked lower pool) {k : ℕ} {t : Thread Request Database}
    {next : Option Database → Prog Database (Except ServiceError Subscriber)}
    (hperforming : pool.Performing (Request.program lower) k t id next) (hseen : t.seen = [])
    (succeeds : Bool) : PoolBacked lower (requestStep lower pool (.op k succeeds)) := by
  have hstep := hperforming.step_eq succeeds
  refine h.quiet ?_ fun t' hmem => (hperforming.mem_step hmem).imp id ?_
  · unfold requestStep
    rw [hstep]
    exact ite_self _
  · rintro rfl
    refine ⟨outcome_eq_none (by simp [Thread.observe, hseen]), ?_⟩
    have hstored : ∀ found ∈ foundBy lower (t.observe
        ⟨pool.time, if succeeds then some pool.store else none⟩),
        found ∈ pool.store.subscribers.docs := fun found hfound => by
      obtain ⟨db, hdb, hmem⟩ := mem_of_foundBy_observe lower hseen hfound
      cases succeeds with
      | false => cases hdb
      | true =>
        cases hdb
        exact hmem
    refine ⟨fun found hfound => ?_, fun lookup _ found hfound at_ _ hafter => ?_⟩
    · exact decide_eq_true (List.mem_map_of_mem (hstored found hfound))
    · exact h.stored found (hstored found hfound) at_ hafter

theorem PoolBacked.refused (h : PoolBacked lower pool) {k : ℕ} {t : Thread Request Database}
    {upd : Database → Database}
    {next : Option Database → Prog Database (Except ServiceError Subscriber)}
    (hperforming : pool.Performing (Request.program lower) k t upd next)
    {lookup : Observation Database} (hseen : t.seen = [lookup]) {succeeds : Bool}
    (hstore : (requestStep lower pool (.op k succeeds)).store = pool.store)
    (hresult : (t.observe ⟨pool.time, if succeeds then some pool.store else none⟩).result
      (Request.program lower) = some (.error .store)) :
    PoolBacked lower (requestStep lower pool (.op k succeeds)) := by
  refine h.quiet hstore fun t' hmem => (hperforming.mem_step hmem).imp id ?_
  rintro rfl
  refine ⟨?_, (h.read t hperforming.mem).observe hseen _⟩
  unfold outcome
  rw [hresult]
  split
  · rename_i hok
    cases hok
  · rfl

structure Writing (lower : Char → Char) (pool : RequestPool) (k : ℕ)
    (t : Thread Request Database) (lookup : Observation Database) (upd : Database → Database)
    (written : Subscriber) : Prop where
  performing : ∃ next, pool.Performing (Request.program lower) k t upd next
  seen : t.seen = [lookup]
  result : (t.observe ⟨pool.time, some pool.store⟩).result (Request.program lower) =
    some (.ok written)

section Writes
variable {k : ℕ} {t : Thread Request Database} {lookup : Observation Database}
  {upd : Database → Database} {written : Subscriber}

theorem Writing.mem (h : Writing lower pool k t lookup upd written) : t ∈ pool.threads := by
  obtain ⟨next, hperforming⟩ := h.performing
  exact hperforming.mem

theorem Writing.store (h : Writing lower pool k t lookup upd written) :
    (requestStep lower pool (.op k true)).store = upd pool.store := by
  obtain ⟨next, hperforming⟩ := h.performing
  unfold requestStep
  rw [hperforming.step_eq]
  rfl

theorem Writing.outcome (h : Writing lower pool k t lookup upd written) :
    outcome lower (t.observe ⟨pool.time, some pool.store⟩) =
      some ⟨lookup.time, pool.time, written⟩ := by
  unfold Subscribers.outcome
  rw [h.result]
  unfold Thread.observe
  rw [h.seen]
  rfl

theorem Writing.mem_step (h : Writing lower pool k t lookup upd written)
    {t' : Thread Request Database} :
    t' ∈ (requestStep lower pool (.op k true)).threads →
      t' ∈ pool.threads ∨ t' = t.observe ⟨pool.time, some pool.store⟩ := by
  obtain ⟨next, hperforming⟩ := h.performing
  exact hperforming.mem_step

theorem Writing.observe_mem_step (h : Writing lower pool k t lookup upd written) :
    t.observe ⟨pool.time, some pool.store⟩ ∈ (requestStep lower pool (.op k true)).threads := by
  obtain ⟨next, hperforming⟩ := h.performing
  exact hperforming.observe_mem_step true

theorem Writing.unsubscribedAt (h : Writing lower pool k t lookup upd written) {at_ : ℕ}
    {id : ObjectID} (hafter : UnsubscribedAt lower (requestStep lower pool (.op k true)) at_ id) :
    UnsubscribedAt lower pool at_ id ∨
      t.call.ends = true ∧ at_ = pool.time ∧ id = written.id := by
  obtain ⟨t', hmem, hends, done, hdone, hended, hid⟩ := hafter
  rcases h.mem_step hmem with hold | rfl
  · exact Or.inl ⟨t', hold, hends, done, hdone, hended, hid⟩
  · rw [h.outcome] at hdone
    cases hdone
    exact Or.inr ⟨hends, hended.symm, hid.symm⟩

theorem Writing.backed (hwriting : Writing lower pool k t lookup upd written)
    (h : PoolBacked lower pool)
    (hcontains : ∀ id, pool.store.subscribers.contains id = true →
      (upd pool.store).subscribers.contains id = true)
    (hends : t.call.ends = true → (upd pool.store).subscribers.contains written.id = true)
    (hdocs : ∀ sub ∈ (upd pool.store).subscribers.docs,
      sub = written ∨ sub ∈ pool.store.subscribers.docs ∧ sub.id ≠ written.id)
    (hwritten : ∀ at_,
      UnsubscribedAt lower (requestStep lower pool (.op k true)) at_ written.id →
        BackedAfter lower (requestStep lower pool (.op k true)) at_ written) :
    PoolBacked lower (requestStep lower pool (.op k true)) := by
  refine ⟨h.timed.step _, fun at_ id hafter => ?_, fun sub hmem at_ hafter => ?_,
    fun t' hmem => ?_⟩
  · rw [hwriting.store]
    rcases hwriting.unsubscribedAt hafter with hold | ⟨hends', -, rfl⟩
    · exact hcontains id (h.ended at_ id hold)
    · exact hends hends'
  · rw [hwriting.store] at hmem
    rcases hdocs sub hmem with rfl | ⟨hold, hother⟩
    · exact hwritten at_ hafter
    · rcases hwriting.unsubscribedAt hafter with hbefore | ⟨-, -, hid⟩
      · exact (h.stored sub hold at_ hbefore).step _
      · exact absurd hid hother
  · have hread : ReadBacked lower pool t' ∧ ∀ o ∈ t'.seen.head?, o.time < pool.time := by
      have hold : ∀ u ∈ pool.threads, ReadBacked lower pool u ∧
          ∀ o ∈ u.seen.head?, o.time < pool.time := fun u hu =>
        ⟨h.read u hu, fun o ho => h.timed u hu o (List.mem_of_mem_head? ho)⟩
      rcases hwriting.mem_step hmem with ht' | rfl
      · exact hold t' ht'
      · have ht := hold t hwriting.mem
        refine ⟨ht.1.observe hwriting.seen _, fun o ho => ht.2 o ?_⟩
        rw [hwriting.seen]
        unfold Thread.observe at ho
        rwa [hwriting.seen] at ho
    refine hread.1.step (fun id hid => ?_) fun o ho at_ hlt id hafter => ?_
    · rw [hwriting.store]
      exact hcontains id hid
    · refine (hwriting.unsubscribedAt hafter).resolve_right fun hnow => ?_
      have := hread.2 o ho
      omega

theorem Writing.inserted
    (hwriting : Writing lower pool k t lookup (insertSubscriber written) written)
    (h : PoolBacked lower pool) (hends : t.call.ends = false)
    (hfresh : pool.store.subscribers.contains written.id = false) :
    PoolBacked lower (requestStep lower pool (.op k true)) := by
  have hnever : t.call.ends ≠ true := by simp [hends]
  refine hwriting.backed h (fun id hid => Collection.contains_insertOne hid)
    (fun hunsubscribe => absurd hunsubscribe hnever) (fun sub hmem => ?_) fun at_ hafter => ?_
  · refine (Collection.mem_of_mem_insertOne hmem).symm.imp id fun hold => ⟨hold, fun hid => ?_⟩
    have hstored : pool.store.subscribers.contains sub.id = true :=
      decide_eq_true (List.mem_map_of_mem hold)
    rw [hid, hfresh] at hstored
    cases hstored
  · rcases hwriting.unsubscribedAt hafter with hbefore | ⟨hunsubscribe, -⟩
    · rw [h.ended at_ _ hbefore] at hfresh
      cases hfresh
    · exact absurd hunsubscribe hnever

theorem Writing.issuedAfter (h : Writing lower pool k t lookup upd written)
    (hissues : t.call.issues = true) {at_ : ℕ} (hlt : at_ < lookup.time) :
    IssuedAfter lower (requestStep lower pool (.op k true)) at_ written.id
      written.verificationToken :=
  ⟨_, h.observe_mem_step, hissues, _, h.outcome, hlt, rfl, rfl⟩

theorem Writing.verifiedAfter (h : Writing lower pool k t lookup upd written) {token : String}
    (hverifies : t.call.verifies = some token) {at_ : ℕ} (hlt : at_ < pool.time)
    (hissued : IssuedAfter lower pool at_ written.id token) :
    VerifiedAfter lower (requestStep lower pool (.op k true)) at_ written.id :=
  ⟨_, h.observe_mem_step, token, hverifies, _, h.outcome, hlt, rfl, hissued.step _⟩

theorem verificationToken_of_foundBy {token : String} {rt : TokenRuntime} {found : Subscriber}
    (hcall : t.call = .verify token rt) (hfound : foundBy lower t = some found) :
    found.verificationToken ≠ "" ∧ found.verificationToken = token := by
  unfold foundBy at hfound
  rw [hcall] at hfound
  obtain ⟨lookup, -, hlookup⟩ := Option.bind_eq_some_iff.mp hfound
  obtain ⟨db, -, hdb⟩ := Option.bind_eq_some_iff.mp hlookup
  have hmatch := List.find?_some hdb
  rwa [hasField, Bool.and_eq_true, decide_eq_true_eq, decide_eq_true_eq] at hmatch

theorem Writing.backedAfter (h : Writing lower pool k t lookup upd written)
    {found : Subscriber} (hfound : foundBy lower t = some found)
    (hplanned : Planned lower t.call (some found) (.replace written)) {at_ : ℕ}
    (hlt : at_ < lookup.time) (hnow : at_ < pool.time)
    (hbacked : BackedAfter lower pool at_ found) :
    BackedAfter lower (requestStep lower pool (.op k true)) at_ written := by
  generalize hcall : t.call = request at hplanned
  have hissued : request.issues = true → IssuedAfter lower (requestStep lower pool (.op k true))
      at_ written.id written.verificationToken := fun hissues =>
    h.issuedAfter (hcall ▸ hissues) hlt
  cases hplanned with
  | pending email rt _ hpending => exact backedAfter_of_issued (hissued rfl) hpending
  | reactivate email rt _ hverified hended => exact backedAfter_of_issued (hissued rfl) rfl
  | resend id rt _ hlisted => exact backedAfter_of_issued (hissued rfl) rfl
  | unsubscribe token rt _ => exact backedAfter_of_unsubscribed rfl
  | verify token rt _ hexpired =>
    obtain ⟨hset, rfl⟩ := verificationToken_of_foundBy hcall hfound
    refine ⟨fun _ hnonempty => absurd rfl hnonempty, fun hactive _ => ?_⟩
    exact h.verifiedAfter (hcall ▸ rfl) hnow (hbacked.token hactive hset)

theorem Writing.replaced
    (hwriting : Writing lower pool k t lookup (replaceSubscriber written) written)
    (h : PoolBacked lower pool) {found : Subscriber} (hfound : foundBy lower t = some found)
    (hplanned : Planned lower t.call (some found) (.replace written))
    (hcurrent : WritesCurrent lower pool t (replaceSubscriber written) true) :
    PoolBacked lower (requestStep lower pool (.op k true)) := by
  obtain ⟨hid, -⟩ := hplanned.kept
  have hread := h.read t hwriting.mem
  have hhead : t.seen.head? = some lookup := by
    rw [hwriting.seen]
    rfl
  have hcontains : ∀ id, (replaceSubscriber written pool.store).subscribers.contains id =
      pool.store.subscribers.contains id := fun id => by
    unfold replaceSubscriber
    rw [Collection.contains_updateByKey]
  refine hwriting.backed h (fun id hstored => by rwa [hcontains]) (fun _ => ?_)
    (fun sub hmem => mem_replaceSubscriber hmem) fun at_ hafter => ?_
  · rw [hcontains, hid]
    exact hread.stored found hfound
  · cases hkeeps : t.call.keepsEnded found with
    | true => exact backedAfter_of_unsubscribed (hplanned.unsubscribed.trans hkeeps)
    | false =>
      -- Not an unsubscribe: the one in question is older, and this request read after it.
      have hbefore : UnsubscribedAt lower pool at_ found.id := by
        rw [← hid]
        refine (hwriting.unsubscribedAt hafter).resolve_right fun ⟨hends, _⟩ => ?_
        generalize t.call = request at hends hkeeps
        cases request with
        | unsubscribe token rt => cases hkeeps
        | subscribe _ _ | verify _ _ | resendVerification _ _ => cases hends
      have hlt : at_ < lookup.time := by
        by_contra hle
        obtain ⟨u, hu, hends, done, hdone, hended, hsame⟩ := hbefore
        have hsince : UnsubscribedSince lower pool lookup.time found.id :=
          ⟨u, hu, hends, done, hdone, by omega, hsame⟩
        have hkept := hcurrent rfl lookup (by simp [hwriting.seen]) found hfound hsince
        rw [hkept] at hkeeps
        cases hkeeps
      exact hwriting.backedAfter hfound hplanned hlt (UnsubscribedAt.lt_time h hbefore)
        (hread.backed lookup hhead found hfound at_ hlt hbefore)

end Writes

theorem PoolBacked.step (h : PoolBacked lower pool)
    (hcurrent : OnOperations (Request.program lower) (WritesCurrent lower) pool act) :
    PoolBacked lower (requestStep lower pool act) := by
  cases act with
  | call request => exact h.call request
  | op k succeeds =>
    rcases pool.step_op_cases (Request.program lower) k succeeds with
      ⟨t, upd, next, hperforming⟩ | ⟨hstay, -⟩
    · have hstep := hperforming.step_eq succeeds
      rcases request_op_cases lower hperforming with
        ⟨hseen, rfl⟩ | ⟨lookup, db, write, hseen, hdb, hplan, rfl, hresult⟩
      · exact h.lookup hperforming hseen succeeds
      · have hfound : t.call.lookup lower db = foundBy lower t := by
          unfold foundBy
          rw [hseen, List.head?_cons, Option.bind_some, hdb, Option.bind_some]
        rw [hfound] at hplan
        have hplanned := Request.planned_of_ok lower hplan
        cases succeeds with
        | false =>
          refine h.refused hperforming hseen ?_ (hresult _)
          unfold requestStep
          rw [hstep]
          rfl
        | true =>
          have hcurrent := (hperforming.onOperations_iff true).mp hcurrent
          have hanswer := hresult ⟨pool.time, some pool.store⟩
          cases write with
          | insert sub =>
            have hends : t.call.ends = false := by
              generalize t.call = request at hplanned
              generalize foundBy lower t = found at hplanned
              cases hplanned
              rfl
            unfold Write.answer at hanswer
            dsimp only at hanswer
            cases haccepted : (Write.insert sub).accepted pool.store with
            | false =>
              have hstored : pool.store.subscribers.contains sub.id = true := by
                simpa [Write.accepted] using haccepted
              rw [haccepted] at hanswer
              refine h.refused hperforming hseen ?_ hanswer
              unfold requestStep
              rw [hstep]
              exact insertSubscriber_of_contains hstored
            | true =>
              have hfresh : pool.store.subscribers.contains sub.id = false := by
                simpa [Write.accepted] using haccepted
              rw [haccepted] at hanswer
              have hwriting : Writing lower pool k t lookup (insertSubscriber sub) sub :=
                ⟨⟨next, hperforming⟩, hseen, hanswer⟩
              exact hwriting.inserted h hends hfresh
          | replace sub =>
            have hwriting : Writing lower pool k t lookup (replaceSubscriber sub) sub :=
              ⟨⟨next, hperforming⟩, hseen, hanswer⟩
            cases hsome : foundBy lower t with
            | none =>
              rw [hsome] at hplanned
              generalize t.call = request at hplanned
              cases hplanned
            | some found =>
              rw [hsome] at hplanned
              exact hwriting.replaced h hsome hplanned hcurrent
    · unfold requestStep
      rwa [hstay]

end Steps

theorem unsubscribesHold_run (db : Database) (acts : List (Act Request))
    (h : AllSteps (requestStep lower) (OnOperations (Request.program lower) (WritesCurrent lower))
      { store := db } acts) :
    AllStates (requestStep lower) (UnsubscribesHold lower) { store := db } acts := by
  have hnone : ∀ t, t ∉ ({ store := db } : RequestPool).threads := fun _ => List.not_mem_nil
  have hstart : PoolBacked lower { store := db } :=
    ⟨fun t hmem => absurd hmem (hnone t), fun _ _ ⟨t, hmem, _⟩ => absurd hmem (hnone t),
      fun _ _ _ ⟨t, hmem, _⟩ => absurd hmem (hnone t), fun t hmem => absurd hmem (hnone t)⟩
  exact (Library.allStates_of_invariant (fun _ hbacked => hbacked.unsubscribesHold)
    (fun _ _ hbacked hcurrent => hbacked.step hcurrent) hstart h).2

def pendingToken (number : ℕ) : String := newSubscriberToken ((runtimeAt 0 number).random 0)

def endingToken (number : ℕ) : String := newSubscriberToken ((runtimeAt 0 number).random 1)

def backOnTheList : List (Act Request) :=
  [.call (.subscribe "user@example.com" (runtimeAt 0 0)), .op 0 true, .op 0 true,
    .call (.verify (pendingToken 0) (runtimeAt 1 1)), .op 1 true, .op 1 true,
    .call (.unsubscribe (endingToken 0) (runtimeAt 2 2)), .op 2 true, .op 2 true,
    .call (.subscribe "user@example.com" (runtimeAt 3 3)), .op 3 true, .op 3 true,
    .call (.verify (pendingToken 3) (runtimeAt 4 4)), .op 4 true, .op 4 true]

theorem unsubscribesHold_run_backOnTheList :
    AllStates (requestStep toLower) (UnsubscribesHold toLower) { store := {} } backOnTheList :=
  unsubscribesHold_run toLower {} backOnTheList (by decide +kernel)

def verifyAcrossUnsubscribe : List (Act Request) :=
  [.call (.subscribe "user@example.com" (runtimeAt 0 0)), .op 0 true, .op 0 true,
    .call (.verify (pendingToken 0) (runtimeAt 1 1)), .op 1 true,
    .call (.unsubscribe (endingToken 0) (runtimeAt 2 2)), .op 2 true, .op 2 true,
    .op 1 true]

theorem verifyAcrossUnsubscribe_lost :
    ¬ AllStates (requestStep toLower) (UnsubscribesHold toLower) { store := {} }
      verifyAcrossUnsubscribe := by
  intro h
  have hended : UnsubscribedAt toLower (run (requestStep toLower) { store := {} }
      verifyAcrossUnsubscribe) 4 ((runtimeAt 0 0).newID 0) := by
    decide +kernel
  have hlisted : ∃ sub ∈ listVerified (run (requestStep toLower) { store := {} }
      verifyAcrossUnsubscribe).store, sub.id = (runtimeAt 0 0).newID 0 := by
    decide +kernel
  have hnever : ¬ VerifiedAfter toLower (run (requestStep toLower) { store := {} }
      verifyAcrossUnsubscribe) 4 ((runtimeAt 0 0).newID 0) := by
    decide +kernel
  obtain ⟨sub, hsub, hid⟩ := hlisted
  exact hnever (h.last 4 _ hended sub hsub hid)

end Statora.Subscribers
