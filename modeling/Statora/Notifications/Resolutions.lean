import Statora.Library.EventRun
import Statora.Notifications.Effects

/-!
# Resolutions and their notifications

The handlers choose the event from the status that an incident has afterwards, or from
the route, and none looks at the status before. An edit of a resolved incident announces
a resolution, and an update that resolves one announces none.
-/

namespace Statora.Notifications
open Library (Fallible Collection AllSteps sumSteps sumSteps_eq_iff allSteps_forall allSteps_congr
  allSteps_mono)

def resolvedNotices (id : ObjectID) (db : Database) (e : Event) : ℕ :=
  if (announced db e).any fun a =>
    a.eventType = .incidentResolved && a.data.incidentID = some id then 1 else 0

def resolves (id : ObjectID) (db : Database) (e : Event) : Bool :=
  (db.incidents.findByKey id).any (fun stored => stored.status ≠ .resolved) &&
    ((step db e).incidents.findByKey id).any fun after => after.status = .resolved

def resolutions (id : ObjectID) (db : Database) (e : Event) : ℕ :=
  if resolves id db e then 1 else 0

/-- For each incident, a request dispatches a notification of its resolution only when it
resolves it, and along the run there are as many of them as resolutions. -/
def ResolutionsAnnounced (db : Database) (events : List Event) : Prop :=
  ∀ id, AllSteps step (fun db e => resolvedNotices id db e ≤ resolutions id db e) db events ∧
    sumSteps step (resolvedNotices id) db events = sumSteps step (resolutions id) db events

def Request.announcesStatus : Request → Bool
  | .updateIncident _ _ | .resolveIncident _ => true
  | .createIncident _ _ _ | .addIncidentUpdate _ _ _ | .createMaintenance _ _ _
  | .updateMaintenance _ _ => false

/-- A request that leaves a stored incident resolved is an edit or a resolve whose audit
logs are stored, exactly if the incident was not resolved before. -/
def AnnouncedOnce (db : Database) (e : Event) : Prop :=
  ∀ stored, e.request.storedIncident db e.rt = some stored → e.request.Written db e.rt →
    e.request.statusAfter stored.status = .resolved →
      (e.request.announcesStatus = true ∧ e.request.Audited db e.rt ↔ stored.status ≠ .resolved)

section Steps
variable {db : Database} {e : Event} {id : ObjectID}

theorem event_eq_resolved_iff (h : e.request.Written db e.rt) :
    e.request.event db e.rt = .incidentResolved ↔ e.request.announcesStatus = true ∧
      ∃ stored, e.request.storedIncident db e.rt = some stored ∧
        e.request.statusAfter stored.status = .resolved := by
  obtain ⟨request, rt, outlets⟩ := e
  cases request with
  | updateIncident rawID req =>
    dsimp only [Request.event, Request.announcesStatus]
    cases (Request.updateIncident rawID req).storedIncident db rt with
    | none => simp
    | some stored => simp
  | resolveIncident rawID =>
    obtain ⟨id, hid, hstored⟩ := h
    obtain ⟨stored, hfound⟩ := exists_found hstored
    refine iff_of_true rfl ⟨rfl, stored, ?_, rfl⟩
    rw [Request.storedIncident, Request.subject, hid, Option.bind_some, hfound]
  | createIncident user username req | addIncidentUpdate rawID message status
  | createMaintenance user username req | updateMaintenance rawID req =>
    exact iff_of_false (by simp [Request.event]) (by simp [Request.announcesStatus])

theorem storedIncident_eq_some_iff (hsubject : e.request.subject e.rt = some id)
    {stored : Incident} :
    e.request.storedIncident db e.rt = some stored ↔ db.incidents.findByKey id = some stored := by
  rw [Request.storedIncident, hsubject, Option.bind_some]

theorem noticed_iff : (announced db e).any (fun a =>
      a.eventType = .incidentResolved && a.data.incidentID = some id) = true ↔
    e.request.subject e.rt = some id ∧ e.request.Written db e.rt ∧
      e.request.Audited db e.rt ∧ e.request.event db e.rt = .incidentResolved := by
  rw [Option.any_eq_true]
  simp only [Bool.and_eq_true, decide_eq_true_eq]
  constructor
  · rintro ⟨a, ha, hevent, hid⟩
    obtain ⟨hwritten, haudit, hannounces⟩ := announces_of_returns (announced_eq_some_iff.mp ha)
    exact ⟨hannounces.incident id hid, hwritten, haudit, hannounces.eventType ▸ hevent⟩
  · rintro ⟨hsubject, hwritten, haudit, hevent⟩
    obtain ⟨a, ha⟩ := returns_of_written hwritten haudit
    obtain ⟨-, -, hannounces⟩ := announces_of_returns ha
    refine ⟨a, announced_eq_some_iff.mpr ha, hannounces.eventType.trans hevent, ?_⟩
    -- The event is sent with an incident, which is the one that the request is about.
    have hcarries := hannounces.carries
    rw [hannounces.eventType, hevent] at hcarries
    cases hdata : a.data with
    | incident i =>
      have hi := hannounces.incident i.id (by rw [hdata]; rfl)
      exact hi.symm.trans hsubject
    | incidentUpdate update =>
      rw [hdata] at hcarries
      cases hcarries
    | maintenance m =>
      rw [hdata] at hcarries
      cases hcarries

theorem resolves_iff : resolves id db e = true ↔
    e.request.subject e.rt = some id ∧ e.request.Written db e.rt ∧
      ∃ stored, db.incidents.findByKey id = some stored ∧ stored.status ≠ .resolved ∧
        e.request.statusAfter stored.status = .resolved := by
  unfold resolves
  simp only [Bool.and_eq_true, Option.any_eq_true, decide_eq_true_eq]
  constructor
  · rintro ⟨⟨stored, hfound, hopen⟩, after, hafter, hresolved⟩
    obtain ⟨after', hafter', hfollows⟩ := step_incident (e := e) hfound
    obtain rfl : after' = after := Option.some.inj (hafter'.symm.trans hafter)
    have hid : stored.id = id := (Collection.mem_of_findByKey hfound).2
    by_cases hhit : e.request.subject e.rt = some stored.id ∧ e.request.Written db e.rt
    · refine ⟨hid ▸ hhit.1, hhit.2, stored, hfound, hopen, ?_⟩
      rw [← (hfollows.written hhit.1 hhit.2).1]
      exact hresolved
    · rw [hfollows.kept hhit] at hresolved
      exact absurd hresolved hopen
  · rintro ⟨hsubject, hwritten, stored, hfound, hopen, hresolved⟩
    obtain ⟨after, hafter, hfollows⟩ := step_incident (e := e) hfound
    have hid : stored.id = id := (Collection.mem_of_findByKey hfound).2
    refine ⟨⟨stored, hfound, hopen⟩, after, hafter, ?_⟩
    rw [(hfollows.written (hid.symm ▸ hsubject) hwritten).1]
    exact hresolved

theorem notices_eq_iff (id : ObjectID) (db : Database) (e : Event) :
    resolvedNotices id db e = resolutions id db e ↔
      (e.request.subject e.rt = some id → AnnouncedOnce db e) := by
  have hcounts : resolvedNotices id db e = resolutions id db e ↔
      ((announced db e).any (fun a =>
        a.eventType = .incidentResolved && a.data.incidentID = some id) = true ↔
          resolves id db e = true) := by
    unfold resolvedNotices resolutions
    split_ifs with hnoticed hresolved <;> simp [*]
  rw [hcounts, noticed_iff, resolves_iff]
  constructor
  · intro hiff hsubject stored hstored hwritten hresolved
    have hfound := (storedIncident_eq_some_iff hsubject).mp hstored
    constructor
    · rintro ⟨hannounces, haudit⟩
      have hevent := (event_eq_resolved_iff hwritten).mpr ⟨hannounces, stored, hstored, hresolved⟩
      obtain ⟨-, -, stored', hfound', hopen, -⟩ :=
        hiff.mp ⟨hsubject, hwritten, haudit, hevent⟩
      rwa [Option.some.inj (hfound.symm.trans hfound')]
    · intro hopen
      obtain ⟨-, -, haudit, hevent⟩ :=
        hiff.mpr ⟨hsubject, hwritten, stored, hfound, hopen, hresolved⟩
      exact ⟨((event_eq_resolved_iff hwritten).mp hevent).1, haudit⟩
  · intro honce
    constructor
    · rintro ⟨hsubject, hwritten, haudit, hevent⟩
      obtain ⟨hannounces, stored, hstored, hresolved⟩ := (event_eq_resolved_iff hwritten).mp hevent
      have hopen := (honce hsubject stored hstored hwritten hresolved).mp ⟨hannounces, haudit⟩
      exact ⟨hsubject, hwritten, stored, (storedIncident_eq_some_iff hsubject).mp hstored, hopen,
        hresolved⟩
    · rintro ⟨hsubject, hwritten, stored, hfound, hopen, hresolved⟩
      have hstored := (storedIncident_eq_some_iff hsubject).mpr hfound
      obtain ⟨hannounces, haudit⟩ := (honce hsubject stored hstored hwritten hresolved).mpr hopen
      exact ⟨hsubject, hwritten, haudit,
        (event_eq_resolved_iff hwritten).mpr ⟨hannounces, stored, hstored, hresolved⟩⟩

theorem notices_eq_all_iff (db : Database) (e : Event) :
    (∀ id, resolvedNotices id db e = resolutions id db e) ↔ AnnouncedOnce db e := by
  simp only [notices_eq_iff]
  constructor
  · intro h stored hstored
    obtain ⟨id, hsubject, -⟩ := Option.bind_eq_some_iff.mp hstored
    exact h id hsubject stored hstored
  · exact fun h _ _ => h

end Steps

theorem resolutionsAnnounced_iff (db : Database) (events : List Event) :
    ResolutionsAnnounced db events ↔ AllSteps step AnnouncedOnce db events := by
  have hsteps : AllSteps step AnnouncedOnce db events ↔ ∀ id, AllSteps step
      (fun db e => resolvedNotices id db e = resolutions id db e) db events := by
    rw [← allSteps_forall]
    exact allSteps_congr fun e _ db => (notices_eq_all_iff db e).symm
  rw [hsteps]
  refine forall_congr' fun id => ⟨fun ⟨hle, hsum⟩ => (sumSteps_eq_iff hle).mp hsum, fun heq => ?_⟩
  have hle := allSteps_mono heq fun _ _ h => le_of_eq h
  exact ⟨hle, (sumSteps_eq_iff hle).mpr heq⟩

def firstID : String := "000000000000000000000001"

def retitledResolved : List Event :=
  [⟨.createIncident operator .missing { title := "Outage" }, someRuntime 0, hubOnly⟩,
    ⟨.resolveIncident firstID, someRuntime 1, hubOnly⟩,
    ⟨.updateIncident firstID { title := "Outage of the store" }, someRuntime 2, hubOnly⟩]

theorem retitledResolved_announced_twice : ¬ ResolutionsAnnounced {} retitledResolved := by
  have hnotices : sumSteps step (resolvedNotices 1#96) {} retitledResolved = 2 := by
    decide +kernel
  have hresolutions : sumSteps step (resolutions 1#96) {} retitledResolved = 1 := by
    decide +kernel
  intro h
  have hsum := (h 1#96).2
  rw [hnotices, hresolutions] at hsum
  exact absurd hsum (by decide)

end Statora.Notifications
