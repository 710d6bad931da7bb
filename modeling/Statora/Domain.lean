import Mathlib.Data.Rat.Floor
import Statora.Models
import Statora.Text

/-!
# Domain rules shared by the services

Errors, component severity, id deduplication and the thirty-day bars. Shares of
checks are exact rationals where the source has floating point.
-/

namespace Statora

/-- The shared errors, each with the text the service adds to it; `store` is any
error that the database driver returns. -/
inductive ServiceError
  | notFound (detail : String)
  | invalidInput (detail : String)
  | unauthorized (detail : String)
  | conflict (detail : String)
  | store
  deriving DecidableEq, Repr

def componentSeverityRank : ComponentStatus → ℕ
  | .majorOutage => 5
  | .partialOutage => 4
  | .degradedPerf => 3
  | .maintenance => 2
  | .operational => 1
  | .other _ => 0

theorem rank_eq_five {status : ComponentStatus} :
    componentSeverityRank status = 5 ↔ status = .majorOutage := by
  cases status <;> simp [componentSeverityRank]

theorem rank_le_five (status : ComponentStatus) : componentSeverityRank status ≤ 5 := by
  cases status <;> simp [componentSeverityRank]

def maxComponentStatus (a b : ComponentStatus) : ComponentStatus :=
  if componentSeverityRank a ≥ componentSeverityRank b then a else b

def objectIDFromHex (s : String) : Option ObjectID :=
  if s.toList.length ≠ 24 then none
  else (s.toList.mapM hexDigit).map fun digits =>
    BitVec.ofNat 96 (digits.foldl (fun value digit => 16 * value + digit) 0)

def ObjectID.hex (id : ObjectID) : String :=
  String.ofList ((hexDigits 24 id.toNat).map hexChar)

theorem objectIDFromHex_hex (id : ObjectID) : objectIDFromHex id.hex = some id := by
  have hlt : id.toNat < 16 ^ 24 := id.isLt
  unfold objectIDFromHex ObjectID.hex
  rw [String.toList_ofList, List.length_map, length_hexDigits, if_neg (by simp),
    mapM_hexDigit fun _ => hexDigits_lt, Option.map_some, foldl_hexDigits,
    Nat.mod_eq_of_lt hlt, BitVec.ofNat_toNat, BitVec.setWidth_eq]

def dedupeObjectIDs (objectIDs : List ObjectID) : List ObjectID :=
  objectIDs.foldl (fun result id => if id ∈ result then result else result ++ [id]) []

theorem dedupeObjectIDs_append (ids : List ObjectID) (id : ObjectID) :
    dedupeObjectIDs (ids ++ [id]) =
      if id ∈ dedupeObjectIDs ids then dedupeObjectIDs ids else dedupeObjectIDs ids ++ [id] := by
  unfold dedupeObjectIDs
  rw [List.foldl_append, List.foldl_cons, List.foldl_nil]

theorem mem_dedupeObjectIDs {ids : List ObjectID} {id : ObjectID} :
    id ∈ dedupeObjectIDs ids ↔ id ∈ ids := by
  induction ids using List.reverseRecOn with
  | nil => exact Iff.rfl
  | append_singleton ids last ih =>
    rw [dedupeObjectIDs_append, List.mem_append, List.mem_singleton]
    split_ifs with hlast
    · refine ih.trans (iff_of_eq ?_)
      by_cases hid : id = last
      · subst hid
        simp [ih.mp hlast]
      · simp [hid]
    · rw [List.mem_append, List.mem_singleton, ih]

theorem nodup_dedupeObjectIDs (ids : List ObjectID) : (dedupeObjectIDs ids).Nodup := by
  induction ids using List.reverseRecOn with
  | nil => exact List.nodup_nil
  | append_singleton ids last ih =>
    rw [dedupeObjectIDs_append]
    split_ifs with hlast
    · exact ih
    · refine List.nodup_append.mpr ⟨ih, List.nodup_singleton last, fun id hid id' hid' heq => ?_⟩
      rw [List.mem_singleton] at hid'
      exact hlast (hid' ▸ heq ▸ hid)

def second : ℤ := 1000000000
def minute : ℤ := 60 * second
def hour : ℤ := 60 * minute
def day : ℤ := 24 * hour

theorem hour_pos : 0 < hour := by decide

theorem day_pos : 0 < day := by decide

def minutes (duration : ℤ) : ℚ := duration / minute

def hours (duration : ℤ) : ℚ := duration / hour

/-- The UTC calendar date of an instant, as a number of days since the epoch. -/
def calendarDate (t : ℤ) : ℤ := t / day

def addDays (t : ℤ) (n : ℤ) : ℤ := t + n * day

structure DailyBar where
  date : ℤ
  uptimePercent : ℚ
  status : ComponentStatus
  deriving DecidableEq, Repr

def barStatus (uptimePercent : ℚ) : ComponentStatus :=
  if uptimePercent < 50 then .majorOutage
  else if uptimePercent < 999 / 10 then .degradedPerf
  else .operational

def dailyBar (records : List DailyUptime) (date : ℤ) : DailyBar :=
  let onDay := records.filter (fun record => calendarDate record.date = date)
  let totalChecks := (onDay.map (·.totalChecks)).sum
  let successfulChecks := (onDay.map (·.successfulChecks)).sum
  if totalChecks > 0 then
    let uptimePercent : ℚ := successfulChecks / totalChecks * 100
    ⟨date, uptimePercent, barStatus uptimePercent⟩
  else ⟨date, 100, .operational⟩

def build30DayBars (now : ℤ) (monitorIDs : List ObjectID)
    (uptimeByMonitorID : ObjectID → List DailyUptime) : List DailyBar :=
  if monitorIDs = [] then []
  else (List.range 30).map fun k =>
    dailyBar (monitorIDs.flatMap uptimeByMonitorID) (calendarDate (addDays now (k - 29)))

end Statora
