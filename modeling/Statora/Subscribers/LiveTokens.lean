import Statora.Library.PastEvents
import Statora.Subscribers.History

/-!
# Live tokens

A token that was issued is good until it expires, unless it is used, a later one is
issued for the address or the subscriber is deleted. Pruning looks at the time a
subscriber was created, and not at the time its token expires: the two agree until a
token is issued again.
-/

namespace Statora.Subscribers
open Library (Collection Fallible Keyed Since since_snoc_iff AllStates AllSteps run
  allStates_of_invariant allSteps_congr allSteps_and)

structure Spares (sub : Subscriber) (t : ℤ) (entry : Entry) : Prop where
  used : ∀ now verified, entry.confirmed ≠ some (sub.verificationToken, now, verified)
  superseded : ∀ later, entry.issued = some later → later.email ≠ sub.email
  deleted : entry.event ≠ .delete sub.id
  pruned : ∀ olderThan now, entry.event = .prune olderThan now → now ≤ t

/-- Every token that was issued and spared is accepted before it expires. -/
def Honoured (s : Log) : Prop :=
  ∀ sub expiresAt t, sub.verificationTokenExpiresAt = some expiresAt →
    Since (fun _ entry => entry.issued = some sub) (Spares sub t) s.history → t < expiresAt →
      ∀ rt : TokenRuntime, rt.clock 0 = t →
        ∃ verified, ((verify sub.verificationToken rt).run s.db).1 = .ok verified

section Runs
variable (lower : Char → Char)

def PruneKeepsLive (s : Log) (event : Event) : Prop :=
  match event with
  | .prune _ now => ∀ sub ∈ s.db.subscribers.docs, sub.verificationToken ≠ "" →
      expired sub now = false → sub ∈ (step lower s event).db.subscribers.docs
  | _ => True

/-- When pruning runs, the token of an unverified subscriber that is old enough has expired. -/
def OldHaveExpired (s : Log) : Event → Prop
  | .prune olderThan now => ∀ sub ∈ s.db.subscribers.docs, sub.verified = false →
      sub.verificationToken ≠ "" → sub.createdAt < now - olderThan → expired sub now = true
  | _ => True

def FreshToken (s : Log) : Event → Prop
  | .request (.subscribe _ rt) | .request (.resendVerification _ rt) =>
    ∀ sub ∈ s.db.subscribers.docs, sub.verificationToken ≠ newSubscriberToken (rt.random 0)
  | _ => True

instance (s : Log) : (event : Event) → Decidable (FreshToken s event)
  | .request (.subscribe _ rt) | .request (.resendVerification _ rt) =>
    inferInstanceAs (Decidable (∀ sub ∈ s.db.subscribers.docs,
      sub.verificationToken ≠ newSubscriberToken (rt.random 0)))
  | .request (.verify _ _) | .request (.unsubscribe _ _) | .delete _ | .prune _ _ =>
    inferInstanceAs (Decidable True)

theorem pruneKeepsLive_iff (s : Log) (event : Event) :
    PruneKeepsLive lower s event ↔ OldHaveExpired s event := by
  cases event with
  | request request | delete id => exact Iff.rfl
  | prune olderThan now =>
    refine forall₂_congr fun sub hmem => ?_
    have hkept : sub ∈ (step lower s (.prune olderThan now)).db.subscribers.docs ↔
        ¬ (sub.verified = false ∧ sub.createdAt < now - olderThan) := by
      change sub ∈ s.db.subscribers.docs.filter _ ↔ _
      rw [List.mem_filter]
      cases hverified : sub.verified <;> simp [hmem, hverified]
    rw [hkept]
    cases expired sub now with
    | true => simp
    | false =>
      exact ⟨fun h hpending hne hold => absurd ⟨hpending, hold⟩ (h hne rfl),
        fun h hne _ hboth => absurd (h hboth.1 hne hboth.2) (by simp)⟩

theorem newSubscriberToken_ne_empty (buf : Vector UInt8 32) : newSubscriberToken buf ≠ "" := by
  intro hempty
  have hchars := congrArg String.toList hempty
  unfold newSubscriberToken at hchars
  rw [String.toList_ofList] at hchars
  cases hbytes : buf.toList with
  | nil =>
    have hlength := buf.length_toList
    rw [hbytes] at hlength
    cases hlength
  | cons byte rest =>
    have htwo := length_hexDigits 2 byte.toNat
    rw [hbytes, List.flatMap_cons] at hchars
    have hnone := (List.append_eq_nil_iff.mp hchars).1
    rw [List.map_eq_nil_iff] at hnone
    rw [hnone] at htwo
    cases htwo

def TokensDiffer (db : Database) : Prop :=
  ∀ sub ∈ db.subscribers.docs, ∀ other ∈ db.subscribers.docs, sub.verificationToken ≠ "" →
    sub.verificationToken = other.verificationToken → sub = other

/-- A stored subscriber that is pending with the token that was issued. -/
structure Holds (sub stored : Subscriber) : Prop where
  id : stored.id = sub.id
  email : stored.email = sub.email
  token : stored.verificationToken = sub.verificationToken
  expiresAt : stored.verificationTokenExpiresAt = sub.verificationTokenExpiresAt
  pending : stored.verified = false

structure TokensLive (s : Log) : Prop where
  differ : TokensDiffer s.db
  live : ∀ sub expiresAt t, sub.verificationTokenExpiresAt = some expiresAt →
    Since (fun _ entry => entry.issued = some sub) (Spares sub t) s.history → t < expiresAt →
      sub.verificationToken ≠ "" ∧ ∃ stored ∈ s.db.subscribers.docs, Holds sub stored

theorem TokensLive.honoured {s : Log} (h : TokensLive s) : Honoured s := by
  intro sub expiresAt t hexpires hsince hlt rt hnow
  obtain ⟨hne, stored, hmem, hholds⟩ := h.live sub expiresAt t hexpires hsince hlt
  have hstored : hasField stored.verificationToken sub.verificationToken = true := by
    simp [hasField, hholds.token, hne]
  have hfound : findByVerificationToken sub.verificationToken s.db = some stored := by
    cases hfind : findByVerificationToken sub.verificationToken s.db with
    | none => exact absurd hstored (List.find?_eq_none.mp hfind stored hmem)
    | some found =>
      have hfield := List.find?_some hfind
      rw [hasField, Bool.and_eq_true, decide_eq_true_eq, decide_eq_true_eq] at hfield
      exact congrArg some (h.differ found (List.mem_of_find?_eq_some hfind) stored hmem hfield.1
        (hfield.2.trans hholds.token.symm))
  have hlive : expired stored (rt.clock 0) = false := by
    simp only [expired, hholds.expiresAt, hexpires, Option.any_some, decide_eq_false_iff_not,
      not_lt, hnow, gt_iff_lt]
    omega
  refine ⟨verifiedAtTime stored (rt.clock 1), ?_⟩
  rw [verify_run, hfound]
  simp [hlive]

theorem Planned.holds {request : Request} {db : Database} {sub found sub' : Subscriber} {t : ℤ}
    (h : Planned lower request (some found) (.replace sub'))
    (hfound : request.lookup lower db = some found)
    (hspares : Spares sub t ⟨.request request, some sub'⟩) (hholds : Holds sub found) :
    Holds sub sub' := by
  cases h with
  | pending email rt _ hpending =>
    exact absurd hholds.email (hspares.superseded (refreshed found rt) rfl)
  | reactivate email rt _ _ _ =>
    exact absurd hholds.email (hspares.superseded (reactivated found rt) rfl)
  | verify token rt _ hexpired =>
    have hfield := List.find?_some hfound
    rw [hasField, Bool.and_eq_true, decide_eq_true_eq, decide_eq_true_eq] at hfield
    refine absurd ?_ (hspares.used (rt.clock 0) (verifiedAtTime found (rt.clock 1)))
    rw [← hholds.token, hfield.2]
    rfl
  | unsubscribe token rt _ =>
    exact ⟨hholds.id, hholds.email, hholds.token, hholds.expiresAt, hholds.pending⟩
  | resend id rt _ hlisted =>
    exact absurd hholds.email
      (hspares.superseded { refreshed found rt with verified := false } rfl)

theorem Planned.issued {request : Request} {found sub sub' : Subscriber}
    (h : Planned lower request (some found) (.replace sub'))
    (hissued : Entry.issued ⟨.request request, some sub'⟩ = some sub) :
    sub' = sub ∧ sub.verificationToken ≠ "" ∧ sub.verified = false := by
  cases h with
  | pending email rt _ hpending =>
    cases hissued
    exact ⟨rfl, newSubscriberToken_ne_empty _, hpending⟩
  | reactivate email rt _ _ _ | resend id rt _ _ =>
    cases hissued
    exact ⟨rfl, newSubscriberToken_ne_empty _, rfl⟩
  | verify token rt _ _ | unsubscribe token rt _ => cases hissued

theorem Planned.token {s : Log} {request : Request} {found sub' : Subscriber}
    (h : Planned lower request (some found) (.replace sub'))
    (hfresh : FreshToken s (.request request)) :
    sub'.verificationToken = "" ∨ sub'.verificationToken = found.verificationToken ∨
      ∀ stored ∈ s.db.subscribers.docs, stored.verificationToken ≠ sub'.verificationToken := by
  cases h with
  | pending email rt _ _ | reactivate email rt _ _ _ | resend id rt _ _ =>
    exact Or.inr (Or.inr hfresh)
  | verify token rt _ _ => exact Or.inl rfl
  | unsubscribe token rt _ => exact Or.inr (Or.inl rfl)

theorem TokensDiffer.of_subset {db db' : Database} (h : TokensDiffer db)
    (hdocs : ∀ sub ∈ db'.subscribers.docs, sub ∈ db.subscribers.docs) : TokensDiffer db' :=
  fun sub hsub other hother => h sub (hdocs sub hsub) other (hdocs other hother)

theorem TokensDiffer.insert {db : Database} (h : TokensDiffer db) {sub : Subscriber}
    (hfresh : ∀ stored ∈ db.subscribers.docs, stored.verificationToken ≠ sub.verificationToken) :
    TokensDiffer (insertSubscriber sub db) := by
  intro stored hstored other hother hne hsame
  rcases Collection.mem_of_mem_insertOne hstored with hmem | rfl <;>
    rcases Collection.mem_of_mem_insertOne hother with hmem' | rfl
  · exact h stored hmem other hmem' hne hsame
  · exact absurd hsame (hfresh stored hmem)
  · exact absurd hsame.symm (hfresh other hmem')
  · rfl

theorem TokensDiffer.replace {db : Database} (h : TokensDiffer db) {found sub : Subscriber}
    (hfound : found ∈ db.subscribers.docs) (hid : sub.id = found.id)
    (htoken : sub.verificationToken = "" ∨ sub.verificationToken = found.verificationToken ∨
      ∀ stored ∈ db.subscribers.docs, stored.verificationToken ≠ sub.verificationToken) :
    TokensDiffer (replaceSubscriber sub db) := by
  have hothers : ∀ stored ∈ db.subscribers.docs, stored.id ≠ sub.id →
      stored.verificationToken ≠ "" → stored.verificationToken ≠ sub.verificationToken := by
    intro stored hstored hother hne hsame
    rcases htoken with hempty | hkept | hfresh
    · exact hne (hsame.trans hempty)
    · refine hother ?_
      rw [h stored hstored found hfound hne (hsame.trans hkept), hid]
    · exact hfresh stored hstored hsame
  intro stored hstored other hother hne hsame
  rcases mem_replaceSubscriber hstored with rfl | ⟨hmem, hdiffers⟩ <;>
    rcases mem_replaceSubscriber hother with rfl | ⟨hmem', hdiffers'⟩
  · rfl
  · exact absurd hsame.symm (hothers other hmem' hdiffers' (hsame ▸ hne))
  · exact absurd hsame (hothers stored hmem hdiffers hne)
  · exact h stored hmem other hmem' hne hsame

theorem TokensLive.of_step {s s' : Log} (h : TokensLive s) {entry : Entry}
    (hhistory : s'.history = s.history ++ [entry]) (hdiffer : TokensDiffer s'.db)
    (hissued : ∀ sub, entry.issued = some sub → sub.verificationToken ≠ "" ∧
      ∃ stored ∈ s'.db.subscribers.docs, Holds sub stored)
    (hspared : ∀ sub expiresAt t stored, sub.verificationTokenExpiresAt = some expiresAt →
      t < expiresAt → Spares sub t entry → sub.verificationToken ≠ "" →
        stored ∈ s.db.subscribers.docs → Holds sub stored →
          ∃ stored ∈ s'.db.subscribers.docs, Holds sub stored) :
    TokensLive s' := by
  refine ⟨hdiffer, fun sub expiresAt t hexpires hsince hlt => ?_⟩
  rw [hhistory] at hsince
  rcases since_snoc_iff.mp hsince with hnow | ⟨hearlier, hspares⟩
  · exact hissued sub hnow
  · obtain ⟨hne, stored, hmem, hholds⟩ := h.live sub expiresAt t hexpires hearlier hlt
    exact ⟨hne, hspared sub expiresAt t stored hexpires hlt hspares hne hmem hholds⟩

theorem TokensLive.request {s : Log} (h : TokensLive s) {request : Request}
    (hfresh : FreshToken s (.request request)) : TokensLive (step lower s (.request request)) := by
  rcases step_request_cases lower s request with hfails |
    ⟨email, rt, rfl, hnone, hnew, hinsert⟩ | ⟨found, sub', hfound, hplanned, hreplace⟩
  · rw [hfails]
    refine h.of_step rfl h.differ (fun sub hissued => ?_)
      fun sub expiresAt t stored _ _ _ _ hmem hholds => ⟨stored, hmem, hholds⟩
    cases request <;> cases hissued
  · rw [hinsert]
    have hdocs := Collection.insertOne_docs_of_fresh (c := s.db.subscribers)
      (a := newSubscriberWithTokens (normalize lower email) rt) hnew
    refine h.of_step rfl (h.differ.insert hfresh) (fun sub hissued => ?_)
      fun sub expiresAt t stored _ _ _ _ hmem hholds =>
        ⟨stored, Collection.mem_insertOne_of_mem hmem, hholds⟩
    cases hissued
    refine ⟨newSubscriberToken_ne_empty _, _, ?_, ⟨rfl, rfl, rfl, rfl, rfl⟩⟩
    change _ ∈ (s.db.subscribers.insertOne _).docs
    rw [hdocs]
    exact List.mem_append_right _ (List.mem_singleton_self _)
  · rw [hreplace]
    have hmem := Request.lookup_mem lower hfound
    have hid := hplanned.kept.1
    have hstored := mem_replaceSubscriber_self hmem hid.symm
    refine h.of_step rfl (h.differ.replace hmem hid (hplanned.token lower hfresh))
      (fun sub hissued => ?_) fun sub expiresAt t stored _ _ hspares _ hmem' hholds => ?_
    · obtain ⟨rfl, hne, hpending⟩ := hplanned.issued lower hissued
      exact ⟨hne, sub', hstored, ⟨rfl, rfl, rfl, rfl, hpending⟩⟩
    · by_cases hsame : stored.id = found.id
      · have hfoundHolds : Holds sub found := by
          rwa [← Collection.eq_of_key_eq hmem' hmem hsame]
        exact ⟨sub', hstored, hplanned.holds lower hfound hspares hfoundHolds⟩
      · exact ⟨stored, mem_replaceSubscriber_of_ne hmem' (hid ▸ hsame), hholds⟩

theorem TokensLive.delete {s : Log} (h : TokensLive s) (id : ObjectID) :
    TokensLive (step lower s (.delete id)) := by
  have hdocs : ∀ stored, stored ∈ (step lower s (.delete id)).db.subscribers.docs ↔
      stored ∈ s.db.subscribers.docs ∧ stored.id ≠ id := by
    intro stored
    rw [step_delete_subscribers]
    exact Collection.mem_deleteByKey
  refine h.of_step rfl (h.differ.of_subset fun sub hsub => ((hdocs sub).mp hsub).1)
    (fun sub hissued => by cases hissued) fun sub expiresAt t stored _ _ hspares _ hmem hholds => ?_
  refine ⟨stored, (hdocs stored).mpr ⟨hmem, fun hid => ?_⟩, hholds⟩
  exact hspares.deleted (congrArg Event.delete (hid.symm.trans hholds.id))

theorem TokensLive.prune {s : Log} (h : TokensLive s) {olderThan now : ℤ}
    (hold : OldHaveExpired s (.prune olderThan now)) :
    TokensLive (step lower s (.prune olderThan now)) := by
  have hkeeps := (pruneKeepsLive_iff lower s (.prune olderThan now)).mpr hold
  refine h.of_step rfl (h.differ.of_subset fun sub hsub => List.mem_of_mem_filter hsub)
    (fun sub hissued => by cases hissued) fun sub expiresAt t stored hexpires hlt hspares hne hmem
      hholds => ⟨stored, hkeeps stored hmem (hholds.token ▸ hne) ?_, hholds⟩
  have hnow := hspares.pruned olderThan now rfl
  simp only [expired, hholds.expiresAt, hexpires, Option.any_some, decide_eq_false_iff_not,
    gt_iff_lt]
  omega

theorem honoured_run_iff (events : List Event)
    (hfresh : AllSteps (step lower) FreshToken ⟨{}, []⟩ events) :
    AllStates (step lower) Honoured ⟨{}, []⟩ events ∧
        AllSteps (step lower) (PruneKeepsLive lower) ⟨{}, []⟩ events ↔
      AllSteps (step lower) OldHaveExpired ⟨{}, []⟩ events := by
  have hprune : AllSteps (step lower) (PruneKeepsLive lower) ⟨{}, []⟩ events ↔
      AllSteps (step lower) OldHaveExpired ⟨{}, []⟩ events :=
    allSteps_congr fun event _ s => pruneKeepsLive_iff lower s event
  refine ⟨fun h => hprune.mp h.2, fun hold => ⟨?_, hprune.mpr hold⟩⟩
  have h0 : TokensLive ⟨{}, []⟩ := by
    refine ⟨fun sub hmem => absurd hmem List.not_mem_nil, fun sub expiresAt t _ hsince _ => ?_⟩
    obtain ⟨before, entry, after, hnil, -⟩ := hsince
    exact absurd hnil (by simp)
  refine (allStates_of_invariant (J := TokensLive)
    (Q := fun s event => FreshToken s event ∧ OldHaveExpired s event) (fun _ h => h.honoured)
    (fun s event h hstep => ?_) h0 (allSteps_and.mpr ⟨hfresh, hold⟩)).2
  cases event with
  | request request => exact h.request lower hstep.1
  | delete id => exact h.delete lower id
  | prune olderThan now => exact h.prune lower hstep.2

end Runs

def neverVerified : List Event :=
  [.request (.subscribe "user@example.com" (runtimeAt 0 0)), .prune unverifiedRetention (72 * hour)]

theorem honoured_run_iff_neverVerified :
    AllStates (step toLower) Honoured ⟨{}, []⟩ neverVerified ∧
        AllSteps (step toLower) (PruneKeepsLive toLower) ⟨{}, []⟩ neverVerified ↔
      AllSteps (step toLower) OldHaveExpired ⟨{}, []⟩ neverVerified :=
  honoured_run_iff toLower neverVerified (by decide +kernel)

def askedAgain : List Event :=
  [.request (.subscribe "user@example.com" (runtimeAt 0 0)),
    .request (.subscribe "user@example.com" (runtimeAt (47 * hour) 1)),
    .prune unverifiedRetention (49 * hour)]

theorem askedAgain_not_honoured :
    AllSteps (step toLower) FreshToken ⟨{}, []⟩ askedAgain ∧
    ¬ (AllStates (step toLower) Honoured ⟨{}, []⟩ askedAgain ∧
      AllSteps (step toLower) (PruneKeepsLive toLower) ⟨{}, []⟩ askedAgain) := by
  refine ⟨by decide +kernel, fun h => ?_⟩
  have hlive : ∃ sub ∈ (run (step toLower) ⟨{}, []⟩ (askedAgain.take 2)).db.subscribers.docs,
      sub.verificationToken ≠ "" ∧ expired sub (49 * hour) = false := by
    decide +kernel
  have hnobody : (run (step toLower) ⟨{}, []⟩ askedAgain).db.subscribers.docs = [] := by
    decide +kernel
  obtain ⟨sub, hmem, hne, hnotExpired⟩ := hlive
  have hkept : sub ∈ (run (step toLower) ⟨{}, []⟩ askedAgain).db.subscribers.docs :=
    h.2.2.2.1 sub hmem hne hnotExpired
  rw [hnobody] at hkept
  cases hkept

end Statora.Subscribers
