import Statora.Status.ReadModels
import Statora.Time

/-!
# The incidents of the status page

`getStatusIncidents` is the handler behind `GET /status/incidents`. Without dates
it asks for the incidents created in the last seven days, so that the branch of
`buildIncidents` that lists the active ones is never taken.
-/

namespace Statora.Status

def parseBoundaryDate (raw : String) (isStart : Bool) : Except String ℤ :=
  match parseDateOnly raw with
  | some parsedDateOnly => .ok (if isStart then parsedDateOnly else parsedDateOnly + 24 * hour)
  | none =>
    match parseRFC3339 raw with
    | some parsedDateTime => .ok parsedDateTime
    | none => .error "expected RFC3339 or YYYY-MM-DD"

def parseOptionalDate (raw name : String) (isStart : Bool) : Except String (Option ℤ) :=
  if raw = "" then .ok none
  else
    match parseBoundaryDate raw isStart with
    | .ok parsed => .ok (some parsed)
    | .error text => .error ("invalid " ++ name ++ ": " ++ text)

def parseDateRangeParams (startDateRaw endDateRaw : String) :
    Except String (Option ℤ × Option ℤ) := do
  let start ← parseOptionalDate startDateRaw "start_date" true
  let stop ← parseOptionalDate endDateRaw "end_date" false
  match start, stop with
  | some startDate, some endDate =>
    if ¬ startDate < endDate then throw "start_date must be before or equal to end_date"
    else return (start, stop)
  | _, _ => return (start, stop)

/-- The error is the text of a bad request. The clock is read at `defaultStartDate` and
at `now`. -/
def getStatusIncidents (clock : ℕ → ℤ) (db : Database) (startDateRaw endDateRaw : String) :
    Except String IncidentsResponse := do
  let (startDate, endDate) ← parseDateRangeParams startDateRaw endDateRaw
  let startDate := if startDate.isNone && endDate.isNone then some (addDays (clock 0) (-7))
    else startDate
  return buildIncidents db (clock 1) startDate endDate

/-- The active list holds exactly the unresolved incidents of the store, as many as the
summary counts. -/
def ShowsActive (response : IncidentsResponse) (db : Database) (activeIncidents : ℕ) : Prop :=
  (response.active.map (·.incident)).Perm (db.incidents.find (·.status ≠ .resolved)) ∧
    response.active.length = activeIncidents

/-- The incident lies in the range of creation times that the handler asks for. -/
def CreatedRecently (clock : ℕ → ℤ) (incident : Incident) : Prop :=
  addDays (clock 0) (-7) ≤ incident.createdAt ∧ incident.createdAt < lastTime

instance (clock : ℕ → ℤ) (incident : Incident) : Decidable (CreatedRecently clock incident) :=
  inferInstanceAs (Decidable (_ ∧ _))

theorem getStatusIncidents_default (clock : ℕ → ℤ) (db : Database) :
    getStatusIncidents clock db "" "" =
      .ok (buildIncidents db (clock 1) (some (addDays (clock 0) (-7))) none) := rfl

theorem active_buildIncidents (db : Database) (now : ℤ) (startDate endDate : Option ℤ) :
    (buildIncidents db now startDate endDate).active.map (·.incident) =
      (listedIncidents db now startDate endDate).filter (·.status ≠ .resolved) := by
  simp only [buildIncidents, incidentItem, List.map_map, Function.comp_def, List.map_id']

theorem listedIncidents_default (clock : ℕ → ℤ) (db : Database) :
    (listedIncidents db (clock 1) (some (addDays (clock 0) (-7))) none).Perm
      (db.incidents.docs.filter (CreatedRecently clock ·)) := by
  have hrange : (listedIncidents db (clock 1) (some (addDays (clock 0) (-7))) none).Perm
      (db.incidents.find fun incident =>
        decide (addDays (clock 0) (-7) ≤ incident.createdAt) &&
          decide (incident.createdAt < lastTime)) := Library.sortSlice_perm _ _
  refine hrange.trans (List.Perm.of_eq (List.filter_congr fun incident _ => ?_))
  rw [← Bool.decide_and]
  rfl

theorem active_default (clock : ℕ → ℤ) (db : Database) {response : IncidentsResponse}
    (hresponse : getStatusIncidents clock db "" "" = .ok response) :
    (response.active.map (·.incident)).Perm
      ((db.incidents.find (·.status ≠ .resolved)).filter (CreatedRecently clock ·)) := by
  rw [getStatusIncidents_default] at hresponse
  obtain rfl := Except.ok.inj hresponse
  rw [active_buildIncidents]
  refine ((listedIncidents_default clock db).filter _).trans (List.Perm.of_eq ?_)
  rw [Library.Collection.find, List.filter_filter, List.filter_filter]
  exact List.filter_congr fun incident _ => Bool.and_comm _ _

theorem buildSummary_activeIncidents (order : MapOrder) (db : Database) (now : ℤ) :
    (buildSummary order db now).activeIncidents =
      (db.incidents.find (·.status ≠ .resolved)).length := rfl

theorem showsActive_iff (order : MapOrder) (clock : ℕ → ℤ) (db : Database) (now : ℤ) :
    (∃ response, getStatusIncidents clock db "" "" = .ok response ∧
        ShowsActive response db (buildSummary order db now).activeIncidents) ↔
      ∀ incident ∈ db.incidents.docs, incident.status ≠ .resolved →
        CreatedRecently clock incident := by
  have hfilter : (∀ incident ∈ db.incidents.docs, incident.status ≠ .resolved →
      CreatedRecently clock incident) ↔
      (db.incidents.find (·.status ≠ .resolved)).filter (CreatedRecently clock ·) =
        db.incidents.find (·.status ≠ .resolved) := by
    rw [List.filter_eq_self]
    simp only [Library.Collection.find, List.mem_filter, decide_eq_true_eq, and_imp]
  rw [hfilter]
  constructor
  · rintro ⟨response, hresponse, hperm, -⟩
    have hsame := (active_default clock db hresponse).symm.trans hperm
    exact List.filter_sublist.eq_of_length hsame.length_eq
  · intro hall
    refine ⟨_, getStatusIncidents_default clock db, ?_⟩
    have hperm := active_default clock db (getStatusIncidents_default clock db)
    rw [hall] at hperm
    refine ⟨hperm, ?_⟩
    rw [buildSummary_activeIncidents, ← hperm.length_eq, List.length_map]

def longIncident : Database :=
  { incidents := Library.Collection.empty.insertOne
      { id := 1, title := "slow", status := .monitoring, impact := .minor, createdAt := 0 } }

theorem longIncident_not_shown :
    ¬ ∃ response, getStatusIncidents (fun _ => 8 * day) longIncident "" "" = .ok response ∧
      ShowsActive response longIncident
        (buildSummary .insertion longIncident (8 * day)).activeIncidents := by
  rintro ⟨response, hresponse, -, hlength⟩
  have hactive := (active_default (fun _ => 8 * day) longIncident hresponse).length_eq
  rw [List.length_map, hlength] at hactive
  exact absurd hactive (by decide)

end Statora.Status
