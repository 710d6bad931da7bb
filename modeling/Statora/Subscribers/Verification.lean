import Statora.Subscribers.History

/-!
# Verification takes effect

A verification that succeeds is meant to put the subscriber on the mail list. It sets
`verified` and leaves `unsubscribed` as it is, which is set when the subscription was
ended while it was pending: subscribing again does not clear it then.
-/

namespace Statora.Subscribers
open Library (Collection Fallible AllSteps run allSteps_congr allSteps_of_invariant)

section Runs
variable (lower : Char → Char)

/-- The subscriber that a successful verification returns is on the mail list after it. -/
def TakesEffect (s : Log) (event : Event) : Prop :=
  match event with
  | .request (.verify token rt) => ∀ sub, ((verify token rt).run s.db).1 = .ok sub →
      sub ∈ listVerified (step lower s event).db
  | _ => True

/-- The subscriber that an unexpired token finds is not marked unsubscribed. -/
def FindsActive (s : Log) : Event → Prop
  | .request (.verify token rt) => ∀ sub, findByVerificationToken token s.db = some sub →
      expired sub (rt.clock 0) = false → sub.unsubscribed = false
  | _ => True

theorem takesEffect_iff (s : Log) (event : Event) :
    TakesEffect lower s event ↔ FindsActive s event := by
  cases event with
  | delete id | prune olderThan now => exact Iff.rfl
  | request request =>
    cases request with
    | subscribe email rt | unsubscribe token rt | resendVerification id rt => exact Iff.rfl
    | verify token rt =>
      unfold TakesEffect FindsActive step Request.program
      dsimp only
      rw [verify_run]
      cases hfound : findByVerificationToken token s.db with
      | none => simp
      | some sub =>
        cases hexpired : expired sub (rt.clock 0) with
        | true => simp [hexpired]
        | false =>
          have hstored : verifiedAtTime sub (rt.clock 1) ∈
              (replaceSubscriber (verifiedAtTime sub (rt.clock 1)) s.db).subscribers.docs :=
            mem_replaceSubscriber_self (List.mem_of_find?_eq_some hfound) rfl
          simp only [Bool.false_eq_true, if_false, Except.ok.injEq, Option.some.injEq, forall_eq',
            hexpired, forall_const]
          refine ⟨fun hlisted => ?_, fun hactive => List.mem_filter.mpr ⟨hstored, ?_⟩⟩
          · have hboth := (List.mem_filter.mp hlisted).2
            rw [Bool.and_eq_true, Bool.not_eq_true'] at hboth
            exact hboth.2
          · change (true && !sub.unsubscribed) = true
            rw [hactive]
            rfl

theorem takesEffect_run_iff (db : Database) (events : List Event) :
    AllSteps (step lower) (TakesEffect lower) ⟨db, []⟩ events ↔
      AllSteps (step lower) FindsActive ⟨db, []⟩ events :=
  allSteps_congr fun event _ s => takesEffect_iff lower s event

structure Settled (sub : Subscriber) : Prop where
  token : sub.verified = true → sub.verificationToken = ""
  verified : sub.unsubscribed = true → sub.verified = true

def AllSettled (s : Log) : Prop := ∀ sub ∈ s.db.subscribers.docs, Settled sub

def EndsVerified (s : Log) : Event → Prop
  | .request (.unsubscribe token _) => ∀ sub, findByUnsubscribeToken token s.db = some sub →
      sub.verified = true
  | .request (.resendVerification id _) => ∀ sub, findByID id s.db = some sub →
      sub.unsubscribed = false
  | _ => True

theorem AllSettled.findsActive {s : Log} (h : AllSettled s) (event : Event) :
    FindsActive s event := by
  cases event with
  | delete id | prune olderThan now => trivial
  | request request =>
    cases request with
    | subscribe email rt | unsubscribe token rt | resendVerification id rt => trivial
    | verify token rt =>
      intro sub hfound _
      have htoken := List.find?_some hfound
      rw [hasField, Bool.and_eq_true, decide_eq_true_eq] at htoken
      have hsettled := h sub (List.mem_of_find?_eq_some hfound)
      cases hended : sub.unsubscribed with
      | false => rfl
      | true => exact absurd (hsettled.token (hsettled.verified hended)) htoken.1

theorem settled_of_pending {sub : Subscriber} (hpending : sub.verified = false)
    (hactive : sub.unsubscribed = false) : Settled sub := by
  refine ⟨fun hverified => ?_, fun hended => ?_⟩
  · exact absurd (hpending.symm.trans hverified) (by simp)
  · exact absurd (hactive.symm.trans hended) (by simp)

theorem Settled.not_unsubscribed {sub : Subscriber} (h : Settled sub)
    (hpending : sub.verified = false) : sub.unsubscribed = false := by
  cases hended : sub.unsubscribed with
  | false => rfl
  | true => exact absurd (hpending.symm.trans (h.verified hended)) (by simp)

theorem Planned.settled {s : Log} {request : Request} {sub sub' : Subscriber}
    (h : Planned lower request (some sub) (.replace sub'))
    (hfound : request.lookup lower s.db = some sub) (hends : EndsVerified s (.request request))
    (hsub : Settled sub) : Settled sub' := by
  cases h with
  | pending email rt _ hpending =>
    exact settled_of_pending hpending (hsub.not_unsubscribed hpending)
  | reactivate email rt _ _ _ => exact settled_of_pending rfl rfl
  | verify token rt _ hexpired => exact ⟨fun _ => rfl, fun _ => rfl⟩
  | unsubscribe token rt _ =>
    have hverified : sub.verified = true := hends sub hfound
    exact ⟨hsub.token, fun _ => hverified⟩
  | resend id rt _ hlisted =>
    have hactive : sub.unsubscribed = false := hends sub hfound
    exact settled_of_pending rfl hactive

theorem AllSettled.step {s : Log} (h : AllSettled s) {event : Event}
    (hends : EndsVerified s event) : AllSettled (step lower s event) := by
  intro stored hmem
  cases event with
  | delete id =>
    rw [step_delete_subscribers] at hmem
    exact h stored (Collection.mem_deleteByKey.mp hmem).1
  | prune olderThan now => exact h stored (List.mem_of_mem_filter hmem)
  | request request =>
    rcases step_request_cases lower s request with hfails |
      ⟨email, rt, rfl, hnone, hfresh, hinsert⟩ | ⟨sub, sub', hfound, hplanned, hreplace⟩
    · rw [hfails] at hmem
      exact h stored hmem
    · rw [hinsert] at hmem
      rcases Collection.mem_of_mem_insertOne hmem with hmem | rfl
      · exact h stored hmem
      · exact settled_of_pending rfl rfl
    · rw [hreplace] at hmem
      rcases mem_replaceSubscriber hmem with rfl | ⟨hmem, -⟩
      · exact hplanned.settled lower hfound hends (h sub (Request.lookup_mem lower hfound))
      · exact h stored hmem

theorem takesEffect_of_endsVerified (events : List Event)
    (hends : AllSteps (step lower) EndsVerified ⟨{}, []⟩ events) :
    AllSteps (step lower) (TakesEffect lower) ⟨{}, []⟩ events := by
  rw [takesEffect_run_iff]
  exact allSteps_of_invariant (J := AllSettled) (fun _ event h _ => h.findsActive event)
    (fun _ _ h => h.step lower) (fun sub hmem => absurd hmem List.not_mem_nil) hends

end Runs

def endedWhilePending : List Event :=
  [.request (.subscribe "user@example.com" (runtimeAt 0 0)),
    .request (.unsubscribe (newSubscriberToken ((runtimeAt 0 0).random 1)) (runtimeAt hour 1)),
    .request (.subscribe "user@example.com" (runtimeAt (2 * hour) 2)),
    .request (.verify (newSubscriberToken ((runtimeAt 0 2).random 0)) (runtimeAt (3 * hour) 3))]

theorem endedWhilePending_not_listed :
    ¬ AllSteps (step toLower) (TakesEffect toLower) ⟨{}, []⟩ endedWhilePending := by
  intro h
  have hsucceeds : ((verify (newSubscriberToken ((runtimeAt 0 2).random 0))
      (runtimeAt (3 * hour) 3)).run (run (step toLower) ⟨{}, []⟩
        (endedWhilePending.take 3)).db).1.toOption.isSome = true := by
    decide +kernel
  have hnobody : listVerified (run (step toLower) ⟨{}, []⟩ endedWhilePending).db = [] := by
    decide +kernel
  cases hresult : ((verify (newSubscriberToken ((runtimeAt 0 2).random 0))
      (runtimeAt (3 * hour) 3)).run (run (step toLower) ⟨{}, []⟩
        (endedWhilePending.take 3)).db).1 with
  | error e =>
    rw [hresult] at hsucceeds
    cases hsucceeds
  | ok sub =>
    have hlisted : sub ∈ listVerified (run (step toLower) ⟨{}, []⟩ endedWhilePending).db :=
      h.2.2.2.1 sub hresult
    rw [hnobody] at hlisted
    cases hlisted

end Statora.Subscribers
