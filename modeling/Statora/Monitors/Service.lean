import Mathlib.Data.Int.Notation
import Statora.Domain
import Statora.Library.StoreProgram

/-!
# The monitor service

Create, update and delete. An input is validated and completed to a monitor
before the store is asked.
-/

namespace Statora.Monitors
open Library (Fallible)

structure URL where
  scheme : String
  hostname : String
  deriving DecidableEq, Repr

structure Addresses where
  parse : String → Except String URL
  isIP : String → Bool
  splitHostPort : String → Option String

structure MonitorUpsertInput where
  name : String := ""
  type : MonitorType
  target : String := ""
  advanced : MonitorAdvancedOptions := {}
  sslThresholds : List ℤ := []
  intervalSeconds : ℤ := 0
  timeoutSeconds : ℤ := 0
  componentID : String := ""
  subComponentID : String := ""

def errIPTarget : String := "domain_expiry does not support IP targets"

def extractDomain (net : Addresses) (target : String) (type : MonitorType) :
    Except String String :=
  if type = .http then
    match net.parse target with
    | .error e => .error e
    | .ok url =>
      if url.hostname = "" then .error "target has no hostname"
      else if net.isIP url.hostname then .error errIPTarget
      else .ok url.hostname
  else
    let host := trimSpace ((net.splitHostPort target).getD target)
    if host = "" then .error "empty host"
    else if net.isIP host then .error errIPTarget
    else .ok host

def supportsDomainExpiry (type : MonitorType) : Bool := type = .http || type = .ssl

def supportsCertExpiry (type : MonitorType) : Bool := type = .http || type = .ssl

def supportsIgnoreTLSError (type : MonitorType) : Bool := type = .http

/-- `strings.EqualFold` of a scheme, which has only ASCII letters, with "https". -/
def isHTTPS (url : URL) : Bool := url.scheme.toList.map toLower = "https".toList

def validateAdvancedOptions (net : Addresses) (type : MonitorType) (target : String)
    (advanced : MonitorAdvancedOptions) : Except String Unit :=
  if advanced.ignoreTLSError && !supportsIgnoreTLSError type then
    .error "monitoring.advanced.ignore_tls_error is only supported for http monitors"
  else if advanced.certExpiry && !supportsCertExpiry type then
    .error "monitoring.advanced.cert_expiry is only supported for http and ssl monitors"
  else if advanced.domainExpiry && !supportsDomainExpiry type then
    .error "monitoring.advanced.domain_expiry is only supported for http and ssl monitors"
  else if advanced.ignoreTLSError && advanced.certExpiry then
    .error ("monitoring.advanced.ignore_tls_error cannot be enabled together with " ++
      "monitoring.advanced.cert_expiry")
  else if type = .http && (advanced.ignoreTLSError || advanced.certExpiry) &&
      !((net.parse target).toOption.any isHTTPS) then
    .error "http monitor target must use https when cert_expiry or ignore_tls_error is enabled"
  else if advanced.domainExpiry then
    match extractDomain net target type with
    | .error e => .error ("invalid domain target for domain_expiry: " ++ e)
    | .ok _ => .ok ()
  else .ok ()

/-- The inner loop of the sort: the first place takes every larger value it meets. -/
def selectLargest (first : ℤ) : List ℤ → ℤ × List ℤ
  | [] => (first, [])
  | value :: rest =>
    if first < value then
      let (largest, rest) := selectLargest value rest
      (largest, first :: rest)
    else
      let (largest, rest) := selectLargest first rest
      (largest, value :: rest)

/-- The outer loop, for as many places as there are values. -/
def exchangeSort : ℕ → List ℤ → List ℤ
  | places + 1, first :: rest =>
    let (largest, rest) := selectLargest first rest
    largest :: exchangeSort places rest
  | _, values => values

def validThresholds (thresholds : List ℤ) : List ℤ :=
  thresholds.foldl (fun valid threshold =>
    if threshold ≤ 0 then valid else if threshold ∈ valid then valid else valid ++ [threshold]) []

def sanitizeSSLThresholds (thresholds : List ℤ) : List ℤ :=
  if thresholds.length = 0 then [30, 14, 7]
  else
    let valid := validThresholds thresholds
    if valid.length = 0 then [30, 14, 7] else exchangeSort valid.length valid

def zeroHex : String := "000000000000000000000000"

/-- The ids of the component and of the sub-component; the latter goes first. -/
def targetIDs (input : MonitorUpsertInput) : Except String (ObjectID × ObjectID) :=
  if input.subComponentID ≠ "" && input.subComponentID ≠ zeroHex then
    match objectIDFromHex input.subComponentID with
    | none => .error "invalid subComponentId"
    | some oid => .ok (NilObjectID, oid)
  else if input.componentID ≠ "" && input.componentID ≠ zeroHex then
    match objectIDFromHex input.componentID with
    | none => .error "invalid componentId"
    | some oid => .ok (oid, NilObjectID)
  else .ok (NilObjectID, NilObjectID)

def buildMonitor (net : Addresses) (input : MonitorUpsertInput) (rt : Runtime) :
    Except String Monitor := do
  if input.componentID = "" && input.subComponentID = "" then
    throw "must specify componentId or subComponentId"
  let intervalSeconds := if input.intervalSeconds = 0 then 60 else input.intervalSeconds
  let timeoutSeconds := if input.timeoutSeconds = 0 then 30 else input.timeoutSeconds
  validateAdvancedOptions net input.type input.target input.advanced
  let (compID, subCompID) ← targetIDs input
  return {
    id := rt.newID 0
    name := input.name
    type := input.type
    target := input.target
    advanced := input.advanced
    sslThresholds := sanitizeSSLThresholds input.sslThresholds
    intervalSeconds := intervalSeconds
    timeoutSeconds := timeoutSeconds
    componentID := compID
    subComponentID := subCompID
    createdAt := rt.clock 0 }

def insert (monitor : Monitor) : Fallible Database ServiceError Unit :=
  Fallible.execIf .store .store (fun db => !db.monitors.contains monitor.id)
    fun db => { db with monitors := db.monitors.insertOne monitor }

def create (net : Addresses) (input : MonitorUpsertInput) (rt : Runtime) :
    Fallible Database ServiceError Monitor :=
  match buildMonitor net input rt with
  | .error message => Fallible.throw (.invalidInput message)
  | .ok monitor => do
    insert monitor
    return monitor

def setFields (built : Monitor) (now : ℤ) (monitor : Monitor) : Monitor :=
  { monitor with
    name := built.name
    type := built.type
    target := built.target
    advanced := built.advanced
    sslThresholds := built.sslThresholds
    intervalSeconds := built.intervalSeconds
    timeoutSeconds := built.timeoutSeconds
    componentID := built.componentID
    subComponentID := built.subComponentID
    updatedAt := some now }

theorem setFields_id (built : Monitor) (now : ℤ) (monitor : Monitor) :
    (setFields built now monitor).id = monitor.id := rfl

/-- The answer tells whether there is such a monitor. -/
def update (net : Addresses) (id : ObjectID) (input : MonitorUpsertInput) (rt : Runtime) :
    Fallible Database ServiceError Bool :=
  match buildMonitor net input rt with
  | .error message => Fallible.throw (.invalidInput message)
  | .ok monitor =>
    Fallible.update .store (fun db => db.monitors.contains id) fun db => { db with
      monitors := db.monitors.updateByKey id (setFields monitor (rt.clock 1))
        (setFields_id monitor _) }

def delete (id : ObjectID) : Fallible Database ServiceError Unit :=
  Fallible.execIf .store (.notFound "") (fun db => db.monitors.contains id)
    fun db => { db with monitors := db.monitors.deleteByKey id }

theorem run_create (net : Addresses) (input : MonitorUpsertInput) (rt : Runtime)
    (db : Database) : ((create net input rt).run db).2 =
      (buildMonitor net input rt).toOption.elim db fun monitor =>
        { db with monitors := db.monitors.insertOne monitor } := by
  simp only [create]
  cases buildMonitor net input rt with
  | error message => rfl
  | ok monitor =>
    refine (Fallible.run_bind_frame (fun db => db) (fun _ _ => rfl) db).trans ?_
    rw [insert, Fallible.run_execIf]
    cases hfresh : db.monitors.contains monitor.id with
    | true =>
      dsimp only [Except.toOption, Option.elim]
      rw [Library.Collection.insertOne_of_contains hfresh]
      rfl
    | false => rfl

theorem run_update (net : Addresses) (id : ObjectID) (input : MonitorUpsertInput)
    (rt : Runtime) (db : Database) : ((update net id input rt).run db).2 =
      (buildMonitor net input rt).toOption.elim db fun monitor => { db with
        monitors := db.monitors.updateByKey id (setFields monitor (rt.clock 1))
          (setFields_id monitor _) } := by
  simp only [update]
  cases buildMonitor net input rt <;> rfl

theorem run_delete (id : ObjectID) (db : Database) :
    ((delete id).run db).2 = { db with monitors := db.monitors.deleteByKey id } := by
  rw [delete, Fallible.run_execIf]
  cases hstored : db.monitors.contains id with
  | true => rfl
  | false => rw [Library.Collection.deleteByKey_of_not_contains hstored]; rfl

end Statora.Monitors
