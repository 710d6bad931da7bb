import Mathlib.Data.Rat.Defs
import Statora.Library.Collection

/-!
# The data model

Documents of the status page as the service structs have them. An instant is a
number of nanoseconds since the Unix epoch; a Go zero time that stands for
"absent" is `none`. The string types of the source accept any text, so each
enumeration has its named values and `other` for every remaining text, the
empty one included.
-/

namespace Statora
open Library (Keyed Collection)

abbrev ObjectID := BitVec 96

-- Every membership test on ids uses this one instance.
instance : LawfulBEq ObjectID := inferInstance

def NilObjectID : ObjectID := 0#96

def ObjectID.isZero (id : ObjectID) : Bool := id == NilObjectID

inductive ComponentStatus
  | operational
  | degradedPerf
  | partialOutage
  | majorOutage
  | maintenance
  | other (text : String)
  deriving DecidableEq, Repr

inductive IncidentStatus
  | investigating
  | identified
  | monitoring
  | resolved
  | other (text : String)
  deriving DecidableEq, Repr

inductive IncidentImpact
  | none
  | minor
  | major
  | critical
  | other (text : String)
  deriving DecidableEq, Repr

inductive IncidentVisibilityState
  | draft
  | published
  | other (text : String)
  deriving DecidableEq, Repr

inductive MaintenanceStatus
  | draft
  | scheduled
  | inProgress
  | active
  | completed
  | other (text : String)
  deriving DecidableEq, Repr

inductive MonitorType
  | http
  | tcp
  | dns
  | ping
  | ssl
  | other (text : String)
  deriving DecidableEq, Repr

inductive MonitorLogStatus
  | up
  | down
  deriving DecidableEq, Repr

inductive OutageStatus
  | active
  | resolved
  deriving DecidableEq, Repr

inductive AuditResourceType
  | incident
  | incidentUpdate
  | maintenance
  deriving DecidableEq, Repr

inductive AuditAction
  | created
  | edited
  | updateAdded
  | resolved
  | deleted
  | published
  | draftSaved
  deriving DecidableEq, Repr

/-- A decoded JSON value, as rich text documents hold them. -/
inductive JSONValue
  | null
  | bool (value : Bool)
  | number (value : ℚ)
  | string (value : String)
  | array (items : List JSONValue)
  | object (fields : List (String × JSONValue))

/-- `none` is the nil map, which a request leaves when it has no such field. -/
abbrev RichTextDocument := Option (List (String × JSONValue))

structure Component where
  id : ObjectID
  name : String
  description : String := ""
  status : ComponentStatus
  order : ℤ := 0
  createdAt : ℤ := 0
  updatedAt : ℤ := 0
  deriving DecidableEq, Repr

structure SubComponent where
  id : ObjectID
  componentID : ObjectID
  name : String
  description : String := ""
  status : ComponentStatus
  order : ℤ := 0
  createdAt : ℤ := 0
  updatedAt : ℤ := 0
  deriving DecidableEq, Repr

/-- An empty list of sub-components stands for the whole component. -/
structure IncidentAffectedComponent where
  componentID : ObjectID
  subComponentIDs : List ObjectID := []
  deriving DecidableEq, Repr

structure Incident where
  id : ObjectID
  title : String
  description : String := ""
  descriptionJSON : RichTextDocument := none
  visibilityState : IncidentVisibilityState := .other ""
  status : IncidentStatus
  impact : IncidentImpact
  creatorID : Option ObjectID := none
  creatorUsername : String := ""
  affectedComponents : List ObjectID := []
  affectedComponentTargets : List IncidentAffectedComponent := []
  createdAt : ℤ := 0
  updatedAt : ℤ := 0
  resolvedAt : Option ℤ := none

structure IncidentUpdate where
  id : ObjectID
  incidentID : ObjectID
  message : String
  status : IncidentStatus
  createdAt : ℤ
  deriving DecidableEq, Repr

structure Maintenance where
  id : ObjectID
  title : String := ""
  description : String := ""
  descriptionJSON : RichTextDocument := none
  creatorID : Option ObjectID := none
  creatorUsername : String := ""
  components : List ObjectID
  startTime : ℤ
  endTime : ℤ
  status : MaintenanceStatus
  updatedAt : ℤ := 0

structure MonitorAdvancedOptions where
  domainExpiry : Bool := false
  certExpiry : Bool := false
  ignoreTLSError : Bool := false
  deriving DecidableEq, Repr

structure Monitor where
  id : ObjectID
  name : String
  type : MonitorType
  target : String := ""
  advanced : MonitorAdvancedOptions := {}
  sslThresholds : List ℤ := []
  intervalSeconds : ℤ := 60
  timeoutSeconds : ℤ := 30
  componentID : ObjectID := NilObjectID
  subComponentID : ObjectID := NilObjectID
  lastStatus : Option MonitorLogStatus := none
  sslWarning : Bool := false
  sslDaysRemaining : ℤ := 0
  sslTriggeredThreshold : ℤ := 0
  domainWarning : Bool := false
  domainDaysRemaining : ℤ := 0
  domainTriggeredThreshold : ℤ := 0
  lastCheckedAt : Option ℤ := none
  createdAt : ℤ := 0
  updatedAt : Option ℤ := none
  deriving DecidableEq, Repr

structure MonitorLog where
  id : ObjectID
  monitorID : ObjectID
  status : MonitorLogStatus
  sslWarning : Bool := false
  sslDaysRemaining : ℤ := 0
  sslTriggeredThreshold : ℤ := 0
  domainWarning : Bool := false
  domainDaysRemaining : ℤ := 0
  domainTriggeredThreshold : ℤ := 0
  responseTime : ℤ := 0
  statusCode : ℤ := 0
  checkedAt : ℤ
  deriving DecidableEq, Repr

structure Outage where
  id : ObjectID
  monitorID : ObjectID
  componentID : ObjectID := NilObjectID
  subComponentID : ObjectID := NilObjectID
  startedAt : ℤ
  endedAt : Option ℤ := none
  durationSeconds : ℤ := 0
  status : OutageStatus
  deriving DecidableEq, Repr

structure DailyUptime where
  id : ObjectID
  monitorID : ObjectID
  date : ℤ
  totalChecks : ℤ
  successfulChecks : ℤ
  uptimePercent : ℚ
  deriving DecidableEq, Repr

structure AuditLog where
  id : ObjectID
  resourceType : AuditResourceType
  resourceID : ObjectID
  action : AuditAction
  actorID : Option ObjectID := none
  actorUsername : String := ""
  at_ : ℤ
  summary : String
  deriving DecidableEq, Repr

structure UserSSO where
  enabled : Bool := false
  deriving DecidableEq, Repr

/-- The stored email is encrypted, and looked up by its hash. -/
structure User where
  id : ObjectID
  username : String
  email : String
  emailHash : String
  role : String := ""
  status : String := ""
  sso : UserSSO := {}
  mfaEnabled : Bool := false
  mfaSecretEnc : String := ""
  mfaRecoveryCodesHash : List String := []
  invitedBy : Option ObjectID := none
  passwordHash : String
  createdAt : ℤ := 0
  deriving DecidableEq, Repr

structure UserInvitation where
  id : ObjectID
  tokenHash : String
  email : String
  emailHash : String
  role : String
  expiresAt : ℤ
  createdBy : ObjectID
  acceptedAt : Option ℤ := none
  revokedAt : Option ℤ := none
  createdAt : ℤ
  deriving DecidableEq, Repr

/-- An empty token is a field that the stored document does not have. -/
structure Subscriber where
  id : ObjectID
  email : String
  verified : Bool := false
  verificationToken : String := ""
  verificationTokenExpiresAt : Option ℤ := none
  verifiedAt : Option ℤ := none
  unsubscribeToken : String := ""
  unsubscribed : Bool := false
  unsubscribedAt : Option ℤ := none
  createdAt : ℤ
  deriving DecidableEq, Repr

structure StatusPageSSOSettings where
  enabled : Bool := false
  issuer : String := ""
  audience : String := ""
  algorithm : String := ""
  sharedSecret : String := ""
  publicKeyPEM : String := ""
  deriving DecidableEq, Repr

instance : Keyed Component ObjectID := ⟨Component.id⟩
instance : Keyed SubComponent ObjectID := ⟨SubComponent.id⟩
instance : Keyed Incident ObjectID := ⟨Incident.id⟩
instance : Keyed IncidentUpdate ObjectID := ⟨IncidentUpdate.id⟩
instance : Keyed Maintenance ObjectID := ⟨Maintenance.id⟩
instance : Keyed Monitor ObjectID := ⟨Monitor.id⟩
instance : Keyed MonitorLog ObjectID := ⟨MonitorLog.id⟩
instance : Keyed Outage ObjectID := ⟨Outage.id⟩
instance : Keyed DailyUptime ObjectID := ⟨DailyUptime.id⟩
instance : Keyed AuditLog ObjectID := ⟨AuditLog.id⟩
instance : Keyed User ObjectID := ⟨User.id⟩
instance : Keyed UserInvitation ObjectID := ⟨UserInvitation.id⟩
instance : Keyed Subscriber ObjectID := ⟨Subscriber.id⟩

/-- The collections behind the status page, each with its unique `_id` index, and what
the only document of the settings says about single sign-on. -/
structure Database where
  components : Collection Component := .empty
  subcomponents : Collection SubComponent := .empty
  monitors : Collection Monitor := .empty
  monitorLogs : Collection MonitorLog := .empty
  dailyUptime : Collection DailyUptime := .empty
  outages : Collection Outage := .empty
  incidents : Collection Incident := .empty
  incidentUpdates : Collection IncidentUpdate := .empty
  maintenance : Collection Maintenance := .empty
  auditLogs : Collection AuditLog := .empty
  users : Collection User := .empty
  userInvitations : Collection UserInvitation := .empty
  subscribers : Collection Subscriber := .empty
  ssoSettings : Option StatusPageSSOSettings := none

/-- What the runtime supplies to one call: `clock k` is the reading at its `k`-th
place that asks for the time, and `newID k` the id at its `k`-th place that
generates one. -/
structure Runtime where
  clock : ℕ → ℤ
  newID : ℕ → ObjectID

end Statora
