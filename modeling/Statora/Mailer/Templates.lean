import Statora.Calendar
import Statora.Library.Template
import Statora.Notifications.Dispatch
import Statora.Status.ReadModels

/-!
# The mails

Each mail is a subject, a text and an HTML document, made from formats with the data of
the mail in their holes. Everything that is not markup is escaped on its way into a
document, so a document is read as its template with the data as plain texts and links.
-/

namespace Statora.Mailer
open Library
open Library.Markup (fill parseFormat)
open Notifications (IncidentEmailData MaintenanceEmailData)
open Status (zeroTime)

structure VerificationEmailData where
  siteName : String
  verificationURL : String
  expiresAt : ℤ

structure TestEmailData where
  siteName : String
  provider : String
  sentAt : ℤ
  recipient : String

structure Rendered where
  subject : String
  text : String
  html : String
  deriving DecidableEq, Repr

def sprintf (format : String) (values : List String) : String :=
  String.ofList (fill (parseFormat format.toList) (values.map String.toList))

def escapeString (s : String) : String := String.ofList (Markup.escape s.toList)

def layoutCSS : String :=
  "max-width:560px;margin:0 auto;padding:24px;font-family:Arial,Helvetica,sans-serif;" ++
    "color:#1f2937;line-height:1.5"

def unsubscribeFormat : String :=
  "<p style=\"font-size:12px;color:#6b7280;margin-top:24px\">You are receiving this because " ++
    "you subscribed to status updates. <a href=\"%s\" style=\"color:#6b7280\">Unsubscribe</a></p>"

def documentFormat : String :=
  "<!DOCTYPE html>\n<html>\n<body style=\"margin:0;background:#f9fafb\">\n<div style=\"%s\">\n" ++
    "<h2 style=\"margin:0 0 16px;font-size:18px\">%s</h2>\n%s\n%s\n</div>\n</body>\n</html>"

def renderHTMLDocument (title bodyHTML unsubscribeURL : String) : String :=
  let unsub := if unsubscribeURL ≠ "" then
    sprintf unsubscribeFormat [escapeString unsubscribeURL] else ""
  sprintf documentFormat [layoutCSS, escapeString title, bodyHTML, unsub]

/-- The layout `2006-01-02 15:04 UTC`. -/
def formatTime (t : ℤ) : String :=
  if t = zeroTime then ""
  else formatDate (calendarDate t) ++ " " ++ String.ofList (appendInt (t % day / hour) 2 ++
    ':' :: appendInt (t % hour / minute) 2) ++ " UTC"

def renderDescriptionHTML (description : String) : String :=
  if trimSpace description = "" then ""
  else
    let lines := (trimSpace description).toList.splitOn '\n'
    let escaped := lines.map Markup.escape
    "<p style=\"white-space:pre-line\">" ++ String.ofList (['\n'].intercalate escaped) ++ "</p>"

def siteOf (siteName : String) : String := if siteName = "" then "Status" else siteName

def verificationTextFormat : String :=
  "Hello,\n\nPlease confirm your subscription to %s status updates:\n\n%s\n\n" ++
    "This link expires at %s.\nIf you did not request this, you can ignore this email.\n"

def verificationFormat : String :=
  "<p>Hello,</p><p>Please confirm your subscription to <strong>%s</strong> status updates:</p>" ++
    "<p><a href=\"%s\" style=\"display:inline-block;background:#16a34a;color:#ffffff;" ++
    "padding:10px 18px;border-radius:6px;text-decoration:none\">Confirm subscription</a></p>" ++
    "<p style=\"font-size:13px;color:#6b7280\">Or copy this link: %s</p>" ++
    "<p style=\"font-size:13px;color:#6b7280\">This link expires at %s. " ++
    "If you did not request this, ignore this email.</p>"

def renderVerificationEmail (data : VerificationEmailData) : Except String Rendered :=
  if trimSpace data.verificationURL = "" then .error "mailer: verification URL is required"
  else
    let site := siteOf data.siteName
    let text := sprintf verificationTextFormat
      [site, data.verificationURL, formatTime data.expiresAt]
    let bodyHTML := sprintf verificationFormat [escapeString site,
      escapeString data.verificationURL, escapeString data.verificationURL,
      formatTime data.expiresAt]
    .ok ⟨"Confirm your " ++ site ++ " subscription", text,
      renderHTMLDocument "Confirm your subscription" bodyHTML ""⟩

def impactName : IncidentImpact → String
  | .none => "none"
  | .minor => "minor"
  | .major => "major"
  | .critical => "critical"
  | .other text => text

section Incidents
variable (upper : String → String)

/-- The impact in capitals; `upper` is `strings.ToUpper`. -/
def impactOf (impact : IncidentImpact) : String :=
  let impact := upper (trimSpace (impactName impact))
  if impact = "" then "NOTICE" else impact

def incidentCreatedTextFormat : String :=
  "A new incident was created on %s.\n\nTitle: %s\nImpact: %s\nStarted: %s\n\n%s\n\n" ++
    "View details: %s\nUnsubscribe: %s\n"

def incidentCreatedFormat : String :=
  "<p>A new incident was created on <strong>%s</strong>.</p><p><strong>Title:</strong> %s<br/>" ++
    "<strong>Impact:</strong> %s<br/><strong>Started:</strong> %s</p><div>%s</div>" ++
    "<p><a href=\"%s\">View details</a></p>"

def renderIncidentCreatedEmail (data : IncidentEmailData) : Rendered :=
  let site := siteOf data.siteName
  let impact := impactOf upper data.impact
  let subject := sprintf "[%s] New incident: %s" [site, data.incidentTitle]
  let text := sprintf incidentCreatedTextFormat [site, data.incidentTitle, impact,
    formatTime data.startedAt, data.description, data.incidentURL, data.unsubscribeURL]
  let bodyHTML := sprintf incidentCreatedFormat [escapeString site,
    escapeString data.incidentTitle, escapeString impact, formatTime data.startedAt,
    renderDescriptionHTML data.description, escapeString data.incidentURL]
  ⟨subject, text, renderHTMLDocument subject bodyHTML data.unsubscribeURL⟩

end Incidents

def incidentResolvedTextFormat : String :=
  "The incident \"%s\" on %s has been resolved at %s.\n\n%s\n\nView details: %s\n" ++
    "Unsubscribe: %s\n"

def incidentResolvedFormat : String :=
  "<p style=\"color:#16a34a;font-weight:600\">✔ Incident resolved</p><p>The incident " ++
    "<strong>%s</strong> on <strong>%s</strong> has been resolved at %s.</p><div>%s</div>" ++
    "<p><a href=\"%s\">View details</a></p>"

def renderIncidentResolvedEmail (data : IncidentEmailData) : Rendered :=
  let site := siteOf data.siteName
  let resolvedAt := formatTime (data.resolvedAt.getD zeroTime)
  let subject := sprintf "[%s] Resolved: %s" [site, data.incidentTitle]
  let text := sprintf incidentResolvedTextFormat [data.incidentTitle, site, resolvedAt,
    data.description, data.incidentURL, data.unsubscribeURL]
  let bodyHTML := sprintf incidentResolvedFormat [escapeString data.incidentTitle,
    escapeString site, resolvedAt, renderDescriptionHTML data.description,
    escapeString data.incidentURL]
  ⟨subject, text, renderHTMLDocument subject bodyHTML data.unsubscribeURL⟩

def maintenanceTextFormat : String :=
  "Maintenance on %s has been scheduled or updated.\n\nTitle: %s\nWindow: %s → %s\n\n%s\n"

def maintenanceText (site : String) (data : MaintenanceEmailData) : String :=
  sprintf maintenanceTextFormat
    [site, data.title, formatTime data.startTime, formatTime data.endTime, data.description]

def maintenanceFormat : String :=
  "<p>Maintenance on <strong>%s</strong> has been scheduled or updated.</p>" ++
    "<p><strong>Title:</strong> %s<br/><strong>Window:</strong> %s → %s</p><div>%s</div>"

def maintenanceHTML (site : String) (data : MaintenanceEmailData) : String :=
  sprintf maintenanceFormat [escapeString site, escapeString data.title,
    formatTime data.startTime, formatTime data.endTime, renderDescriptionHTML data.description]

def renderMaintenanceEmail (subjectFormat : String) (data : MaintenanceEmailData) : Rendered :=
  let site := siteOf data.siteName
  let subject := sprintf subjectFormat [site, data.title]
  ⟨subject, maintenanceText site data,
    renderHTMLDocument subject (maintenanceHTML site data) data.unsubscribeURL⟩

def renderMaintenanceCreatedEmail (data : MaintenanceEmailData) : Rendered :=
  renderMaintenanceEmail "[%s] Scheduled maintenance: %s" data

def renderMaintenanceUpdatedEmail (data : MaintenanceEmailData) : Rendered :=
  renderMaintenanceEmail "[%s] Maintenance updated: %s" data

def testTextFormat : String :=
  "This is a test email from %s.\n\nProvider: %s\nSent at: %s\nRecipient: %s\n\n" ++
    "If you received this, your mail configuration works.\n"

def testFormat : String :=
  "<p>This is a <strong>test email</strong> from <strong>%s</strong>.</p><p><strong>" ++
    "Provider:</strong> %s<br/><strong>Sent at:</strong> %s<br/><strong>Recipient:</strong> " ++
    "%s</p><p>If you received this, your mail configuration works.</p>"

def renderTestEmail (data : TestEmailData) : Rendered :=
  let site := siteOf data.siteName
  let subject := sprintf "[%s] Test email" [site]
  let provider := if data.provider = "" then "unknown" else data.provider
  let text := sprintf testTextFormat [site, provider, formatTime data.sentAt, data.recipient]
  let bodyHTML := sprintf testFormat [escapeString site, escapeString provider,
    formatTime data.sentAt, escapeString data.recipient]
  ⟨subject, text, renderHTMLDocument subject bodyHTML ""⟩

end Statora.Mailer
