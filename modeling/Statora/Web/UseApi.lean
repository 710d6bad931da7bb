import Mathlib.Data.List.Basic
import Statora.Library.EventRun
import Statora.Web.ContentModel

/-!
# The requests of a hook

`useApi` starts a request at every change of its URL or its dependencies and at every
refetch. A response is shown whenever it comes, whichever request it is for.
-/

namespace Statora.Web
open Library (AllSteps AllStates)

structure Content where
  data : JSONValue
  total : JSONValue
  page : JSONValue
  totalPages : JSONValue

structure HookState extends Content where
  loading : Bool
  error : Option String

def initialHook : HookState where
  data := .null
  total := .number 0
  page := .number 1
  totalPages := .number 1
  loading := true
  error := none

/-- A field that is not there is undefined, which is falsy like null. -/
def fieldOf (name : String) : JSONValue → JSONValue
  | .object fields => (fields.lookup name).getD .null
  | _ => .null

def isPaginatedEnvelope (value : JSONValue) : Bool :=
  match value, fieldOf "items" value, fieldOf "total" value with
  | .object _, .array _, .number _ => true
  | _, _, _ => false

def orOne (value : JSONValue) : JSONValue := if truthy value then value else .number 1

def contentOf (body : JSONValue) : Content :=
  if isPaginatedEnvelope body then
    { data := fieldOf "items" body
      total := fieldOf "total" body
      page := orOne (fieldOf "page" body)
      totalPages := orOne (fieldOf "total_pages" body) }
  else
    { data := body
      total := match body with
        | .array items => .number items.length
        | _ => .number 0
      page := .number 1
      totalPages := .number 1 }

inductive Thrown
  | error (message : String)
  | other

def messageOf : Thrown → String
  | .error message => message
  | .other => "Request failed"

inductive Outcome
  | success (body : JSONValue)
  | failure (thrown : Thrown)

def fetchStarted (hook : HookState) : HookState := { hook with loading := true, error := none }

def fetchSettled (hook : HookState) : Outcome → HookState
  | .success body => { hook with toContent := contentOf body, loading := false }
  | .failure thrown => { hook with error := some (messageOf thrown), loading := false }

structure Session where
  hook : HookState := initialHook
  /-- In the order of issue, each with its outcome once it has one. -/
  requests : List (Option Outcome) := []

inductive Event
  | issue
  | complete (request : ℕ) (outcome : Outcome)

def Session.step (s : Session) : Event → Session
  | .issue => { hook := fetchStarted s.hook, requests := s.requests ++ [none] }
  | .complete request outcome =>
    match s.requests[request]? with
    | some none =>
      { hook := fetchSettled s.hook outcome, requests := s.requests.set request (some outcome) }
    | _ => s

def Session.latest (s : Session) : Option (Option Outcome) := s.requests.getLast?

def Reflects (hook : HookState) : Outcome → Prop
  | .success body => hook.toContent = contentOf body ∧ hook.error = none ∧ hook.loading = false
  | .failure thrown => hook.error = some (messageOf thrown) ∧ hook.loading = false

structure LatestWins (s : Session) : Prop where
  settled : ∀ outcome, s.latest = some (some outcome) →
    (∀ request ∈ s.requests, request.isSome) → Reflects s.hook outcome
  loading : s.requests ≠ [] → s.hook.loading = false → ∃ outcome, s.latest = some (some outcome)

/-- What a late response leaves of the latest one. -/
def Agrees (hook : HookState) : Outcome → Outcome → Prop
  | .success body, .success late => contentOf late = contentOf body ∧ hook.error = none
  | .success _, .failure _ => False
  | .failure thrown, .success _ => hook.error = some (messageOf thrown)
  | .failure thrown, .failure late => messageOf late = messageOf thrown

/-- A request other than the latest completes after it. If it is the last one to complete,
it brings nothing that the latest did not. -/
def KeepsLatest (s : Session) : Event → Prop
  | .issue => True
  | .complete request outcome =>
    s.requests[request]? = some none → request + 1 ≠ s.requests.length →
      ∃ latest, s.latest = some (some latest) ∧
        ((∀ other ≠ request, s.requests[other]? ≠ some none) → Agrees s.hook latest outcome)

variable {s : Session} {request : ℕ} {outcome latest : Outcome}

theorem step_complete_pending (h : s.requests[request]? = some none) (outcome : Outcome) :
    s.step (.complete request outcome) =
      { hook := fetchSettled s.hook outcome
        requests := s.requests.set request (some outcome) } := by
  simp [Session.step, h]

theorem step_complete_other (h : s.requests[request]? ≠ some none) (outcome : Outcome) :
    s.step (.complete request outcome) = s := by
  simp only [Session.step]

theorem loading_fetchSettled (hook : HookState) (outcome : Outcome) :
    (fetchSettled hook outcome).loading = false := by
  cases outcome <;> rfl

theorem reflects_fetchSettled_iff (hook : HookState) (latest late : Outcome) :
    Reflects (fetchSettled hook late) latest ↔ Agrees hook latest late := by
  cases latest <;> cases late <;> simp [Reflects, fetchSettled, Agrees]

theorem reflects_fetchSettled_self {hook : HookState} (h : hook.error = none) (outcome : Outcome) :
    Reflects (fetchSettled hook outcome) outcome := by
  rw [reflects_fetchSettled_iff]
  cases outcome <;> simp [Agrees, h]

theorem getLast?_set_last {l : List (Option Outcome)} (outcome : Outcome)
    (h : request + 1 = l.length) :
    (l.set request (some outcome)).getLast? = some (some outcome) := by
  rw [List.getLast?_eq_getElem?, List.length_set, ← h, Nat.add_sub_cancel,
    List.getElem?_set_self (by omega)]

theorem getLast?_set_other {l : List (Option Outcome)} (h : request + 1 ≠ l.length)
    (hrequest : request < l.length) :
    (l.set request (some outcome)).getLast? = l.getLast? := by
  rw [List.getLast?_eq_getElem?, List.getLast?_eq_getElem?, List.length_set,
    List.getElem?_set_ne (by omega)]

theorem allCompleted_set_iff {l : List (Option Outcome)} :
    (∀ r ∈ l.set request (some outcome), r.isSome) ↔
      ∀ other ≠ request, l[other]? ≠ some none := by
  constructor
  · intro h other hother hpending
    have hmem : (none : Option Outcome) ∈ l.set request (some outcome) :=
      List.mem_of_getElem? ((List.getElem?_set_ne hother.symm).trans hpending)
    exact Bool.false_ne_true (h none hmem)
  · intro h r hr
    obtain ⟨i, hi⟩ := List.mem_iff_getElem?.mp hr
    rcases eq_or_ne request i with rfl | hne
    · obtain ⟨hlt, hvalue⟩ := List.getElem?_eq_some_iff.mp hi
      rw [List.getElem_set_self] at hvalue
      rw [← hvalue]
      rfl
    · rw [List.getElem?_set_ne hne] at hi
      cases r with
      | none => exact absurd hi (h i hne.symm)
      | some value => rfl

structure KeepsWaiting (s : Session) : Prop where
  latestWins : LatestWins s
  waiting : s.latest = some none → s.hook.loading = true ∧ s.hook.error = none

theorem keepsLatest_of_latestWins {e : Event} (h : LatestWins (s.step e)) : KeepsLatest s e := by
  cases e with
  | issue => trivial
  | complete request outcome =>
    intro hpending hother
    obtain ⟨hlt, -⟩ := List.getElem?_eq_some_iff.mp hpending
    rw [step_complete_pending hpending] at h
    have hlatest : (s.requests.set request (some outcome)).getLast? = s.latest :=
      getLast?_set_other hother hlt
    have hsome : s.requests.set request (some outcome) ≠ [] :=
      List.ne_nil_of_length_pos (by rw [List.length_set]; omega)
    obtain ⟨latest, heq⟩ := h.loading hsome (loading_fetchSettled _ _)
    refine ⟨latest, hlatest.symm.trans heq, fun hall => ?_⟩
    rw [← reflects_fetchSettled_iff]
    exact h.settled latest heq (allCompleted_set_iff.mpr hall)

theorem KeepsWaiting.issue (s : Session) : KeepsWaiting (s.step .issue) := by
  have hlatest : (s.step .issue).latest = some none := List.getLast?_concat
  refine ⟨⟨fun outcome h => ?_, fun _ hloading => ?_⟩, fun _ => ⟨rfl, rfl⟩⟩
  · rw [hlatest] at h
    cases h
  · cases hloading

theorem KeepsWaiting.complete (hs : KeepsWaiting s) (hpending : s.requests[request]? = some none)
    (h : KeepsLatest s (.complete request outcome)) :
    KeepsWaiting (s.step (.complete request outcome)) := by
  obtain ⟨hlt, hnone⟩ := List.getElem?_eq_some_iff.mp hpending
  rw [step_complete_pending hpending]
  by_cases hlast : request + 1 = s.requests.length
  · -- The latest request itself; nothing has been shown since it was issued.
    have hlatest : s.latest = some none := by
      rw [Session.latest, List.getLast?_eq_getElem?, ← hlast, Nat.add_sub_cancel, hpending]
    have hnew := getLast?_set_last outcome hlast
    refine ⟨⟨fun o ho _ => ?_, fun _ _ => ⟨outcome, hnew⟩⟩, fun hwaiting => ?_⟩
    · obtain rfl : outcome = o := by simpa [Session.latest, hnew] using ho
      exact reflects_fetchSettled_self (hs.waiting hlatest).2 outcome
    · simp [Session.latest, hnew] at hwaiting
  · obtain ⟨latest, hlatest, hagrees⟩ := h hpending hlast
    have hsame : (s.requests.set request (some outcome)).getLast? = some (some latest) :=
      (getLast?_set_other hlast hlt).trans hlatest
    refine ⟨⟨fun o ho hall => ?_, fun _ _ => ⟨latest, hsame⟩⟩, fun hwaiting => ?_⟩
    · obtain rfl : latest = o := by simpa [Session.latest, hsame] using ho
      rw [reflects_fetchSettled_iff]
      exact hagrees (allCompleted_set_iff.mp hall)
    · simp [Session.latest, hsame] at hwaiting

theorem KeepsWaiting.step {e : Event} (hs : KeepsWaiting s) (h : KeepsLatest s e) :
    KeepsWaiting (s.step e) := by
  cases e with
  | issue => exact .issue s
  | complete request outcome =>
    by_cases hpending : s.requests[request]? = some none
    · exact hs.complete hpending h
    · rwa [step_complete_other hpending]

theorem keepsWaiting_initial : KeepsWaiting {} where
  latestWins := ⟨by simp [Session.latest], fun h => absurd rfl h⟩
  waiting := by simp [Session.latest]

theorem latestWins_iff (es : List Event) :
    AllStates Session.step LatestWins {} es ↔ AllSteps Session.step KeepsLatest {} es :=
  Library.allStates_iff_of_invariant (P := fun _ _ => True) (fun _ h => h.latestWins)
    (fun _ _ _ _ h => keepsLatest_of_latestWins h) (fun _ _ hs _ h => hs.step h)
    keepsWaiting_initial (Library.allSteps_of_forall fun _ _ _ => trivial)

theorem staleResponse_wins : ¬ AllStates Session.step LatestWins {}
    [.issue, .issue, .complete 1 (.success (.string "second")),
      .complete 0 (.success (.string "first"))] := by
  intro h
  have hshown := ((Library.AllStates.last h).settled (.success (.string "second")) rfl
    (by simp [Session.step])).1
  have hdata : "first" = "second" := JSONValue.string.inj (congrArg Content.data hshown)
  exact absurd hdata (by decide)

end Statora.Web
