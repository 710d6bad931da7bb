import Statora.Library.PastEvents
import Statora.Subscribers.History

/-!
# Consent

Who is sent mail has asked for it: the subscriber used a token in time that was issued
for the address, and has not ended the subscription since the token was issued.
-/

namespace Statora.Subscribers
open Library (Collection Fallible Since since_now AllStates AllSteps run allStates_of_invariant
  allSteps_of_forall)

def IssuedFor (email token : String) (expiresAt : ℤ) (entry : Entry) : Prop :=
  ∃ sub, entry.issued = some sub ∧ sub.email = email ∧ sub.verificationToken = token ∧
    sub.verificationTokenExpiresAt = some expiresAt

def EndedFor (email : String) (entry : Entry) : Prop :=
  ∃ sub, entry.ended = some sub ∧ sub.email = email

/-- The token was issued for the address, which has not been unsubscribed since. -/
def Outstanding (email token : String) (expiresAt : ℤ) : List Entry → Prop :=
  Since (fun _ entry => IssuedFor email token expiresAt entry) fun entry => ¬ EndedFor email entry

/-- A successful use of an outstanding token, in time. -/
def ConfirmedFor (email : String) (before : List Entry) (entry : Entry) : Prop :=
  ∃ token now sub expiresAt, entry.confirmed = some (token, now, sub) ∧ sub.email = email ∧
    now ≤ expiresAt ∧ Outstanding email token expiresAt before

def Consented (email : String) : List Entry → Prop :=
  Since (ConfirmedFor email) fun entry => ¬ EndedFor email entry

def ListedConsented (s : Log) : Prop :=
  ∀ sub ∈ listVerified s.db, Consented sub.email s.history

/-- The token of a subscriber is outstanding and its verification was consented to,
unless the subscriber is marked unsubscribed. -/
structure Backed (history : List Entry) (sub : Subscriber) : Prop where
  token : sub.unsubscribed = false → sub.verificationToken ≠ "" →
    ∃ expiresAt, sub.verificationTokenExpiresAt = some expiresAt ∧
      Outstanding sub.email sub.verificationToken expiresAt history
  verified : sub.unsubscribed = false → sub.verified = true → Consented sub.email history

structure Consistent (s : Log) : Prop where
  emails : (s.db.subscribers.docs.map (·.email)).Nodup
  backed : ∀ sub ∈ s.db.subscribers.docs, Backed s.history sub

theorem Backed.snoc {history : List Entry} {sub : Subscriber} {entry : Entry}
    (h : Backed history sub) (hentry : ¬ EndedFor sub.email entry) :
    Backed (history ++ [entry]) sub := by
  refine ⟨fun hactive htoken => ?_, fun hactive hverified => ?_⟩
  · obtain ⟨expiresAt, hexpires, houtstanding⟩ := h.token hactive htoken
    exact ⟨expiresAt, hexpires, houtstanding.snoc hentry⟩
  · exact (h.verified hactive hverified).snoc hentry

theorem backed_of_issued {history : List Entry} {sub : Subscriber} {entry : Entry}
    (hissued : entry.issued = some sub) {expiresAt : ℤ}
    (hexpires : sub.verificationTokenExpiresAt = some expiresAt)
    (hpending : sub.verified = false) : Backed (history ++ [entry]) sub := by
  refine ⟨fun _ _ => ⟨expiresAt, hexpires, since_now ⟨sub, hissued, rfl, rfl, hexpires⟩⟩,
    fun _ hverified => ?_⟩
  rw [hpending] at hverified
  cases hverified

theorem Consistent.eq_of_email_eq {s : Log} (h : Consistent s) {sub stored : Subscriber}
    (hsub : sub ∈ s.db.subscribers.docs) (hstored : stored ∈ s.db.subscribers.docs)
    (hemail : sub.email = stored.email) : sub = stored :=
  List.inj_on_of_nodup_map h.emails hsub hstored hemail

theorem Consistent.listedConsented {s : Log} (h : Consistent s) : ListedConsented s := by
  intro sub hmem
  obtain ⟨hstored, hlisted⟩ := List.mem_filter.mp hmem
  rw [Bool.and_eq_true, Bool.not_eq_true'] at hlisted
  exact (h.backed sub hstored).verified hlisted.2 hlisted.1

theorem Consistent.of_sublist {s s' : Log} (h : Consistent s) {entry : Entry}
    (hdocs : s'.db.subscribers.docs.Sublist s.db.subscribers.docs)
    (hhistory : s'.history = s.history ++ [entry]) (hended : entry.ended = none) :
    Consistent s' := by
  refine ⟨(hdocs.map _).nodup h.emails, fun sub hmem => ?_⟩
  rw [hhistory]
  refine (h.backed sub (hdocs.subset hmem)).snoc fun ⟨ended, hsome, _⟩ => ?_
  rw [hended] at hsome
  cases hsome

section Requests
variable (lower : Char → Char)

theorem Consistent.insert {s s' : Log} (h : Consistent s) {email : String} {rt : TokenRuntime}
    (hnone : findByEmail (normalize lower email) s.db = none)
    (hfresh : s.db.subscribers.contains (rt.newID 0) = false)
    (hstep : s' = ⟨insertSubscriber (newSubscriberWithTokens (normalize lower email) rt) s.db,
      s.history ++ [⟨.request (.subscribe email rt),
        some (newSubscriberWithTokens (normalize lower email) rt)⟩]⟩) :
    Consistent s' := by
  have hdocs : s'.db.subscribers.docs = s.db.subscribers.docs ++
      [newSubscriberWithTokens (normalize lower email) rt] := by
    rw [hstep]
    exact Collection.insertOne_docs_of_fresh hfresh
  have hends : ∀ address, ¬ EndedFor address ⟨.request (.subscribe email rt),
      some (newSubscriberWithTokens (normalize lower email) rt)⟩ := fun _ ⟨_, hsome, _⟩ => by
    cases hsome
  have hother : ∀ sub ∈ s.db.subscribers.docs, sub.email ≠ normalize lower email := by
    simpa [findByEmail, Collection.findOne, List.find?_eq_none] using hnone
  refine ⟨?_, fun sub hmem => ?_⟩
  · rw [hdocs, List.map_append, List.map_singleton]
    refine List.nodup_append.mpr ⟨h.emails, List.nodup_singleton _, ?_⟩
    intro address haddress new hnew
    obtain ⟨sub, hsub, rfl⟩ := List.mem_map.mp haddress
    rw [List.mem_singleton.mp hnew]
    exact hother sub hsub
  · rw [hdocs, List.mem_append, List.mem_singleton] at hmem
    rw [hstep]
    rcases hmem with hmem | rfl
    · exact (h.backed sub hmem).snoc (hends _)
    · exact backed_of_issued rfl rfl rfl

theorem Planned.backed {history : List Entry} {request : Request} {sub sub' : Subscriber}
    {db : Database} (h : Planned lower request (some sub) (.replace sub'))
    (hfound : request.lookup lower db = some sub) (hsub : Backed history sub) :
    Backed (history ++ [⟨.request request, some sub'⟩]) sub' := by
  cases h with
  | pending email rt _ hpending => exact backed_of_issued rfl rfl hpending
  | reactivate email rt _ hverified hended => exact backed_of_issued rfl rfl rfl
  | verify token rt _ hexpired =>
    refine ⟨fun _ htoken => absurd rfl htoken, fun hactive _ => ?_⟩
    have htoken := List.find?_some hfound
    rw [hasField, Bool.and_eq_true, decide_eq_true_eq, decide_eq_true_eq] at htoken
    obtain ⟨expiresAt, hexpires, houtstanding⟩ := hsub.token hactive htoken.1
    have hintime : rt.clock 0 ≤ expiresAt := by
      simpa [expired, hexpires] using hexpired
    rw [htoken.2] at houtstanding
    exact since_now ⟨token, rt.clock 0, _, expiresAt, rfl, rfl, hintime, houtstanding⟩
  | unsubscribe token rt _ =>
    have hended : (unsubscribedAtTime sub (rt.clock 0)).unsubscribed = true := rfl
    refine ⟨fun hactive => ?_, fun hactive => ?_⟩ <;>
    · rw [hended] at hactive
      cases hactive
  | resend id rt _ hlisted => exact backed_of_issued rfl rfl rfl

theorem not_endedFor {request : Request} {sub' : Subscriber} {email : String}
    (h : sub'.email ≠ email) : ¬ EndedFor email ⟨.request request, some sub'⟩ := by
  rintro ⟨sub, hended, hemail⟩
  cases request with
  | unsubscribe token rt =>
    cases hended
    exact h hemail
  | subscribe address rt | verify token rt | resendVerification id rt => cases hended

theorem Consistent.replace {s s' : Log} (h : Consistent s) {request : Request}
    {sub sub' : Subscriber} (hfound : request.lookup lower s.db = some sub)
    (hplanned : Planned lower request (some sub) (.replace sub'))
    (hstep : s' = ⟨replaceSubscriber sub' s.db, s.history ++ [⟨.request request, some sub'⟩]⟩) :
    Consistent s' := by
  have hsub := Request.lookup_mem lower hfound
  obtain ⟨hid, hemail, -⟩ := hplanned.kept
  refine ⟨?_, fun stored hmem => ?_⟩
  · have hemails : s'.db.subscribers.docs.map (·.email) =
        s.db.subscribers.docs.map (·.email) := by
      rw [hstep, replaceSubscriber_docs, List.map_map]
      refine List.map_congr_left fun stored hstored => ?_
      simp only [Function.comp_apply]
      split_ifs with hkey
      · have hsame : stored = sub := Collection.eq_of_key_eq hstored hsub (hkey.trans hid)
        rw [hsame]
        exact hemail
      · rfl
    rw [hemails]
    exact h.emails
  · rw [hstep] at hmem ⊢
    rcases mem_replaceSubscriber hmem with rfl | ⟨hstored, hother⟩
    · exact hplanned.backed lower hfound (h.backed sub hsub)
    · refine (h.backed stored hstored).snoc (not_endedFor fun hsame => hother ?_)
      rw [hid, h.eq_of_email_eq hsub hstored (hemail.symm.trans hsame)]

theorem Consistent.step {s : Log} (h : Consistent s) (event : Event) :
    Consistent (step lower s event) := by
  cases event with
  | request request =>
    rcases step_request_cases lower s request with hfails |
      ⟨email, rt, rfl, hnone, hfresh, hinsert⟩ | ⟨sub, sub', hfound, hplanned, hreplace⟩
    · rw [hfails]
      refine h.of_sublist (List.Sublist.refl _) rfl ?_
      cases request <;> rfl
    · exact h.insert lower hnone hfresh hinsert
    · exact h.replace lower hfound hplanned hreplace
  | delete id =>
    refine h.of_sublist ?_ rfl rfl
    rw [step_delete_subscribers]
    exact List.filter_sublist
  | prune olderThan now => exact h.of_sublist List.filter_sublist rfl rfl

theorem listedConsented_run (events : List Event) :
    AllStates (step lower) ListedConsented ⟨{}, []⟩ events := by
  have h0 : Consistent ⟨{}, []⟩ := ⟨List.nodup_nil, fun sub hmem => absurd hmem List.not_mem_nil⟩
  exact (allStates_of_invariant (J := Consistent) (Q := fun _ _ => True)
    (fun _ h => h.listedConsented) (fun _ event h _ => h.step lower event) h0
    (allSteps_of_forall fun _ _ _ => trivial)).2

end Requests
end Statora.Subscribers
