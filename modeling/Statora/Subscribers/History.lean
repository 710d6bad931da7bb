import Statora.Library.EventRun
import Statora.Subscribers.Service

/-!
# Runs of subscriber operations

The operations run one after the other. A run keeps the list of what was asked and
what came back, so that a property can speak of tokens issued and used before.
-/

namespace Statora.Subscribers
open Library (Fallible Collection Keyed run)

inductive Event
  | request (request : Request)
  | delete (id : ObjectID)
  | prune (olderThan now : ℤ)

/-- An operation, with the subscriber that a request returned when it succeeded. -/
structure Entry where
  event : Event
  result : Option Subscriber := none

structure Log where
  db : Database
  history : List Entry

def Entry.issued (entry : Entry) : Option Subscriber :=
  match entry.event with
  | .request (.subscribe _ _) | .request (.resendVerification _ _) => entry.result
  | _ => none

def Entry.confirmed (entry : Entry) : Option (String × ℤ × Subscriber) :=
  match entry.event with
  | .request (.verify token rt) => entry.result.map fun sub => (token, rt.clock 0, sub)
  | _ => none

def Entry.ended (entry : Entry) : Option Subscriber :=
  match entry.event with
  | .request (.unsubscribe _ _) => entry.result
  | _ => none

section Runs
variable (lower : Char → Char)

def step (s : Log) : Event → Log
  | .request request =>
    let (result, db) := (request.program lower).run s.db
    ⟨db, s.history ++ [⟨.request request, result.toOption⟩]⟩
  | .delete id => ⟨((deleteByID id).run s.db).2, s.history ++ [⟨.delete id, none⟩]⟩
  | .prune olderThan now =>
    ⟨((pruneUnverified olderThan now).run s.db).2, s.history ++ [⟨.prune olderThan now, none⟩]⟩

theorem step_delete_subscribers (s : Log) (id : ObjectID) :
    (step lower s (.delete id)).db.subscribers = s.db.subscribers.deleteByKey id := by
  unfold step deleteByID
  dsimp only
  rw [Fallible.run_execIf]
  dsimp only
  cases hcontains : s.db.subscribers.contains id with
  | true => rw [if_pos rfl]
  | false => rw [if_neg (by simp), Collection.deleteByKey_of_not_contains hcontains]

inductive Planned : Request → Option Subscriber → Write → Prop
  | new (email : String) (rt : TokenRuntime) :
    Planned (.subscribe email rt) none
      (.insert (newSubscriberWithTokens (normalize lower email) rt))
  | pending (email : String) (rt : TokenRuntime) (sub : Subscriber) (h : sub.verified = false) :
    Planned (.subscribe email rt) (some sub) (.replace (refreshed sub rt))
  | reactivate (email : String) (rt : TokenRuntime) (sub : Subscriber)
    (h : sub.verified = true) (hended : sub.unsubscribed = true) :
    Planned (.subscribe email rt) (some sub) (.replace (reactivated sub rt))
  | verify (token : String) (rt : TokenRuntime) (sub : Subscriber)
    (h : expired sub (rt.clock 0) = false) :
    Planned (.verify token rt) (some sub) (.replace (verifiedAtTime sub (rt.clock 1)))
  | unsubscribe (token : String) (rt : TokenRuntime) (sub : Subscriber) :
    Planned (.unsubscribe token rt) (some sub) (.replace (unsubscribedAtTime sub (rt.clock 0)))
  | resend (id : ObjectID) (rt : TokenRuntime) (sub : Subscriber)
    (h : (sub.verified && !sub.unsubscribed) = false) :
    Planned (.resendVerification id rt) (some sub)
      (.replace { refreshed sub rt with verified := false })

theorem Request.planned_of_ok {request : Request} {found : Option Subscriber} {write : Write}
    (h : request.plan lower found = .ok write) : Planned lower request found write := by
  cases request with
  | subscribe email rt =>
    cases found with
    | none =>
      cases h
      exact .new email rt
    | some sub =>
      unfold Request.plan at h
      dsimp only at h
      split_ifs at h with hlisted hpending <;> cases h
      · exact .pending email rt sub (by simpa using hpending)
      · simp only [Bool.not_eq_true, Bool.not_eq_false'] at hpending
        exact .reactivate email rt sub hpending (by simpa [hpending] using hlisted)
  | verify token rt =>
    cases found with
    | none => cases h
    | some sub =>
      unfold Request.plan at h
      dsimp only at h
      split_ifs at h with hexpired
      cases h
      exact .verify token rt sub (by simpa using hexpired)
  | unsubscribe token rt =>
    cases found with
    | none => cases h
    | some sub =>
      cases h
      exact .unsubscribe token rt sub
  | resendVerification id rt =>
    cases found with
    | none => cases h
    | some sub =>
      unfold Request.plan at h
      dsimp only at h
      split_ifs at h with hlisted
      cases h
      exact .resend id rt sub (by simpa using hlisted)

theorem Request.lookup_mem {request : Request} {db : Database} {sub : Subscriber}
    (h : request.lookup lower db = some sub) : sub ∈ db.subscribers.docs := by
  cases request with
  | subscribe email rt | verify token rt | unsubscribe token rt | resendVerification id rt =>
    exact List.mem_of_find?_eq_some h

/-- A request fails and leaves the store alone, inserts a new subscriber, or replaces the
one that it has found. -/
theorem step_request_cases (s : Log) (request : Request) :
    step lower s (.request request) = ⟨s.db, s.history ++ [⟨.request request, none⟩]⟩ ∨
    (∃ email rt, request = .subscribe email rt ∧
      findByEmail (normalize lower email) s.db = none ∧
      s.db.subscribers.contains (rt.newID 0) = false ∧
      step lower s (.request request) =
        ⟨insertSubscriber (newSubscriberWithTokens (normalize lower email) rt) s.db,
          s.history ++ [⟨.request request,
            some (newSubscriberWithTokens (normalize lower email) rt)⟩]⟩) ∨
    ∃ sub sub', request.lookup lower s.db = some sub ∧
      Planned lower request (some sub) (.replace sub') ∧
      step lower s (.request request) =
        ⟨replaceSubscriber sub' s.db, s.history ++ [⟨.request request, some sub'⟩]⟩ := by
  have hrun := request.run_program lower s.db
  unfold step
  dsimp only
  rw [hrun]
  cases hplan : request.plan lower (request.lookup lower s.db) with
  | error e => exact Or.inl rfl
  | ok write =>
    have hplanned := Request.planned_of_ok lower hplan
    cases write with
    | insert sub =>
      generalize hfound : request.lookup lower s.db = found at hplanned
      cases hplanned with
      | new email rt =>
        have haccepted :
            (Write.insert (newSubscriberWithTokens (normalize lower email) rt)).accepted s.db =
              !s.db.subscribers.contains (rt.newID 0) := rfl
        cases hstored : s.db.subscribers.contains (rt.newID 0) with
        | true =>
          have hsame : insertSubscriber (newSubscriberWithTokens (normalize lower email) rt) s.db =
              s.db := insertSubscriber_of_contains hstored
          dsimp only [Write.apply]
          rw [haccepted, hstored, hsame]
          exact Or.inl rfl
        | false =>
          dsimp only [Write.apply]
          rw [haccepted, hstored]
          exact Or.inr (Or.inl ⟨email, rt, rfl, hfound, hstored, rfl⟩)
    | replace sub' =>
      cases hfound : request.lookup lower s.db with
      | none =>
        rw [hfound] at hplanned
        cases hplanned
      | some sub =>
        rw [hfound] at hplanned
        exact Or.inr (Or.inr ⟨sub, sub', rfl, hplanned, rfl⟩)

theorem replaceSubscriber_docs (sub : Subscriber) (db : Database) :
    (replaceSubscriber sub db).subscribers.docs =
      db.subscribers.docs.map fun stored => if stored.id = sub.id then sub else stored := by
  unfold replaceSubscriber
  dsimp only
  rw [Collection.updateByKey_docs]
  refine List.map_congr_left fun stored _ => ?_
  by_cases hid : stored.id = sub.id
  · have hkey : Keyed.key stored = sub.id := hid
    rw [if_pos hkey, if_pos hid, hid]
    rfl
  · have hkey : Keyed.key stored ≠ sub.id := hid
    rw [if_neg hkey, if_neg hid]

theorem mem_replaceSubscriber {sub stored : Subscriber} {db : Database}
    (h : stored ∈ (replaceSubscriber sub db).subscribers.docs) :
    stored = sub ∨ stored ∈ db.subscribers.docs ∧ stored.id ≠ sub.id := by
  rw [replaceSubscriber_docs] at h
  obtain ⟨before, hbefore, rfl⟩ := List.mem_map.mp h
  split_ifs with hid
  · exact Or.inl rfl
  · exact Or.inr ⟨hbefore, hid⟩

theorem mem_replaceSubscriber_self {sub stored : Subscriber} {db : Database}
    (h : stored ∈ db.subscribers.docs) (hid : stored.id = sub.id) :
    sub ∈ (replaceSubscriber sub db).subscribers.docs := by
  rw [replaceSubscriber_docs]
  exact List.mem_map.mpr ⟨stored, h, if_pos hid⟩

theorem mem_replaceSubscriber_of_ne {sub stored : Subscriber} {db : Database}
    (h : stored ∈ db.subscribers.docs) (hid : stored.id ≠ sub.id) :
    stored ∈ (replaceSubscriber sub db).subscribers.docs := by
  rw [replaceSubscriber_docs]
  exact List.mem_map.mpr ⟨stored, h, if_neg hid⟩

theorem Planned.kept {request : Request} {sub sub' : Subscriber}
    (h : Planned lower request (some sub) (.replace sub')) :
    sub'.id = sub.id ∧ sub'.email = sub.email ∧ sub'.unsubscribeToken = sub.unsubscribeToken ∧
      sub'.createdAt = sub.createdAt := by
  cases h <;> exact ⟨rfl, rfl, rfl, rfl⟩

end Runs

theorem verify_run (token : String) (rt : TokenRuntime) (db : Database) :
    (verify token rt).run db = match findByVerificationToken token db with
      | none => (.error errUnknownVerificationToken, db)
      | some sub =>
        if expired sub (rt.clock 0) then (.error errTokenExpired, db)
        else (.ok (verifiedAtTime sub (rt.clock 1)),
          replaceSubscriber (verifiedAtTime sub (rt.clock 1)) db) := by
  refine (Request.run_program id (.verify token rt) db).trans ?_
  unfold Request.lookup Request.plan
  dsimp only
  cases findByVerificationToken token db with
  | none => rfl
  | some sub =>
    dsimp only
    cases expired sub (rt.clock 0) <;> rfl

def runtimeAt (now : ℤ) (number : ℕ) : TokenRuntime where
  clock _ := now
  newID k := BitVec.ofNat 96 (8 * number + k + 1)
  random k := Vector.replicate 32 (UInt8.ofNat (8 * number + k + 1))

end Statora.Subscribers
