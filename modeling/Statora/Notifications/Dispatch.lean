import Mathlib.Data.List.DropRight
import Statora.Models

/-!
# Notifications

An event is dispatched to the enabled webhook channels, to the verified subscribers by
mail, and to the broadcast channel of the WebSocket hub. All three are best effort: what
cannot be loaded, rendered or queued is passed over.
-/

namespace Statora.Notifications

inductive EventType
  | incidentCreated
  | incidentUpdated
  | incidentResolved
  | incidentUpdateAdded
  | maintenanceCreated
  | maintenanceUpdated
  deriving DecidableEq, Repr

def EventType.text : EventType → String
  | .incidentCreated => "incident_created"
  | .incidentUpdated => "incident_updated"
  | .incidentResolved => "incident_resolved"
  | .incidentUpdateAdded => "incident_update_added"
  | .maintenanceCreated => "maintenance_created"
  | .maintenanceUpdated => "maintenance_updated"

inductive Payload
  | incident (incident : Incident)
  | incidentUpdate (update : IncidentUpdate)
  | maintenance (maintenance : Maintenance)

structure WebhookChannel where
  name : String
  url : String
  enabled : Bool

structure MailSettings where
  siteName : String := ""
  baseURL : String := ""

/-- What a dispatch finds: the channels and subscribers that it loads (`none` when that
fails), the urls that `http.NewRequest` takes, the mail settings (`none` when delivery is
disabled or fails), and whether the hub takes one more broadcast. -/
structure Outlets where
  channels : Option (List WebhookChannel)
  requestable : String → Bool
  mail : Option MailSettings
  verified : Option (List Subscriber)
  hasRoom : Bool

structure IncidentEmailData where
  siteName : String
  incidentTitle : String
  incidentStatus : IncidentStatus
  impact : IncidentImpact
  description : String
  startedAt : ℤ
  resolvedAt : Option ℤ
  incidentURL : String
  unsubscribeURL : String

structure MaintenanceEmailData where
  siteName : String
  title : String
  description : String
  startTime : ℤ
  endTime : ℤ
  unsubscribeURL : String

inductive EmailBody
  | incidentCreated (data : IncidentEmailData)
  | incidentResolved (data : IncidentEmailData)
  | maintenanceCreated (data : MaintenanceEmailData)
  | maintenanceUpdated (data : MaintenanceEmailData)

structure Email where
  to_ : String
  body : EmailBody
  unsubscribeURL : String

def statusPagePath (baseURL path : String) : String :=
  if baseURL = "" then path else baseURL ++ path

def errUnexpectedPayload (eventType : EventType) : String :=
  "unexpected payload type for event " ++ eventType.text

def incidentEmailData (incident : Incident) (siteName baseURL unsubscribeURL : String) :
    IncidentEmailData where
  siteName := siteName
  incidentTitle := incident.title
  incidentStatus := incident.status
  impact := incident.impact
  description := incident.description
  startedAt := incident.createdAt
  resolvedAt := incident.resolvedAt
  incidentURL := statusPagePath baseURL "/history"
  unsubscribeURL := unsubscribeURL

def maintenanceEmailData (m : Maintenance) (siteName unsubscribeURL : String) :
    MaintenanceEmailData where
  siteName := siteName
  title := m.title
  description := m.description
  startTime := m.startTime
  endTime := m.endTime
  unsubscribeURL := unsubscribeURL

def buildSubscriberMessage (eventType : EventType) (data : Payload) (sub : Subscriber)
    (siteName baseURL : String) : Except String Email :=
  let unsubscribeURL := if baseURL ≠ "" then
    baseURL ++ "/api/subscribe/unsubscribe?token=" ++ sub.unsubscribeToken else ""
  match eventType, data with
  | .incidentCreated, .incident incident => .ok {
      to_ := sub.email
      body := .incidentCreated (incidentEmailData incident siteName baseURL unsubscribeURL)
      unsubscribeURL := unsubscribeURL }
  | .incidentResolved, .incident incident => .ok {
      to_ := sub.email
      body := .incidentResolved (incidentEmailData incident siteName baseURL unsubscribeURL)
      unsubscribeURL := unsubscribeURL }
  | .maintenanceCreated, .maintenance m => .ok {
      to_ := sub.email
      body := .maintenanceCreated (maintenanceEmailData m siteName unsubscribeURL)
      unsubscribeURL := unsubscribeURL }
  | .maintenanceUpdated, .maintenance m => .ok {
      to_ := sub.email
      body := .maintenanceUpdated (maintenanceEmailData m siteName unsubscribeURL)
      unsubscribeURL := unsubscribeURL }
  | eventType, _ => .error (errUnexpectedPayload eventType)

inductive Message
  | webhook (url : String) (eventType : EventType) (data : Payload)
  | email (email : Email)
  | broadcast (eventType : EventType) (data : Payload)

def dispatchWebhookEvent (outlets : Outlets) (eventType : EventType) (data : Payload) :
    List Message :=
  match outlets.channels with
  | none => []
  | some channels =>
    (channels.filter fun channel => channel.enabled && outlets.requestable channel.url).map
      fun channel => .webhook channel.url eventType data

def dispatchSubscriberEmail (outlets : Outlets) (eventType : EventType) (data : Payload) :
    List Message :=
  match outlets.mail, outlets.verified with
  | some settings, some subscribers =>
    let baseURL := String.ofList (settings.baseURL.toList.rdropWhile (· = '/'))
    let siteName := if settings.siteName = "" then "Statora" else settings.siteName
    subscribers.filterMap fun sub =>
      (buildSubscriberMessage eventType data sub siteName baseURL).toOption.map .email
  | _, _ => []

def broadcastEvent (outlets : Outlets) (eventType : EventType) (data : Payload) : List Message :=
  if outlets.hasRoom then [.broadcast eventType data] else []

inductive Outlet
  | webhook
  | email
  | broadcast
  deriving DecidableEq, Repr

structure Announcement where
  eventType : EventType
  data : Payload
  sentTo : List Outlet

def Outlet.dispatch (outlets : Outlets) (eventType : EventType) (data : Payload) :
    Outlet → List Message
  | .webhook => dispatchWebhookEvent outlets eventType data
  | .email => dispatchSubscriberEmail outlets eventType data
  | .broadcast => broadcastEvent outlets eventType data

def Announcement.messages (a : Announcement) (outlets : Outlets) : List Message :=
  a.sentTo.flatMap (Outlet.dispatch outlets a.eventType a.data)

def EventType.mailed : EventType → Bool
  | .incidentCreated | .incidentResolved | .maintenanceCreated | .maintenanceUpdated => true
  | .incidentUpdated | .incidentUpdateAdded => false

def EventType.carries : EventType → Payload → Bool
  | .incidentCreated, .incident _ | .incidentUpdated, .incident _ => true
  | .incidentResolved, .incident _ | .incidentUpdateAdded, .incidentUpdate _ => true
  | .maintenanceCreated, .maintenance _ | .maintenanceUpdated, .maintenance _ => true
  | _, _ => false

/-- Someone listens at the outlet for the event. -/
def Outlet.Open (outlets : Outlets) (eventType : EventType) : Outlet → Prop
  | .webhook => ∃ channels ∈ outlets.channels, ∃ channel ∈ channels,
      channel.enabled = true ∧ outlets.requestable channel.url = true
  | .email => eventType.mailed = true ∧ outlets.mail.isSome = true ∧
      ∃ subscribers ∈ outlets.verified, subscribers ≠ []
  | .broadcast => outlets.hasRoom = true

theorem buildSubscriberMessage_isOk {eventType : EventType} {data : Payload}
    (h : eventType.carries data = true) (sub : Subscriber) (siteName baseURL : String) :
    (buildSubscriberMessage eventType data sub siteName baseURL).isOk = eventType.mailed := by
  cases eventType <;> cases data <;> first | rfl | cases h

theorem dispatchWebhookEvent_eq_nil_iff (outlets : Outlets) (eventType : EventType)
    (data : Payload) : dispatchWebhookEvent outlets eventType data = [] ↔
      ¬ Outlet.Open outlets eventType .webhook := by
  unfold dispatchWebhookEvent Outlet.Open
  cases outlets.channels with
  | none => simp
  | some channels => simp [List.filter_eq_nil_iff]

theorem dispatchSubscriberEmail_eq_nil_iff (outlets : Outlets) {eventType : EventType}
    {data : Payload} (h : eventType.carries data = true) :
    dispatchSubscriberEmail outlets eventType data = [] ↔
      ¬ Outlet.Open outlets eventType .email := by
  unfold dispatchSubscriberEmail Outlet.Open
  cases outlets.mail with
  | none => simp
  | some settings =>
    cases outlets.verified with
    | none => simp
    | some subscribers =>
      have hrendered : ∀ sub siteName baseURL,
          (buildSubscriberMessage eventType data sub siteName baseURL).toOption = none ↔
            eventType.mailed = false := fun sub siteName baseURL => by
        rw [← buildSubscriberMessage_isOk h sub siteName baseURL]
        cases buildSubscriberMessage eventType data sub siteName baseURL <;> simp [Except.isOk,
          Except.toBool, Except.toOption]
      simp only [List.filterMap_eq_nil_iff, Option.map_eq_none_iff, hrendered]
      cases hmailed : eventType.mailed with
      | true => simp [List.eq_nil_iff_forall_not_mem]
      | false => simp

theorem broadcastEvent_eq_nil_iff (outlets : Outlets) (eventType : EventType) (data : Payload) :
    broadcastEvent outlets eventType data = [] ↔ ¬ Outlet.Open outlets eventType .broadcast := by
  unfold broadcastEvent Outlet.Open
  cases outlets.hasRoom <;> simp

theorem Announcement.messages_eq_nil_iff {a : Announcement}
    (h : a.eventType.carries a.data = true) (outlets : Outlets) :
    a.messages outlets = [] ↔ ∀ outlet ∈ a.sentTo, ¬ outlet.Open outlets a.eventType := by
  rw [messages, List.flatMap_eq_nil_iff]
  refine forall_congr' fun outlet => imp_congr_right fun _ => ?_
  cases outlet with
  | webhook => exact dispatchWebhookEvent_eq_nil_iff outlets a.eventType a.data
  | email => exact dispatchSubscriberEmail_eq_nil_iff outlets h
  | broadcast => exact broadcastEvent_eq_nil_iff outlets a.eventType a.data

end Statora.Notifications
