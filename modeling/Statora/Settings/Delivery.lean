import Statora.Mailer.BuildMessage
import Statora.Mailer.Documents
import Statora.Settings.Handlers
import Statora.Subscribers.Service

/-!
# Mail delivery

A mailer is made from the stored settings at each delivery, with the stored secret of its
provider revealed by the key of the service. What is modelled of a delivery is the message
and the mailer that it is handed to.
-/

namespace Statora.Settings
open Library (Fallible Prog)
open Statora.Mailer (Mail Rendered renderTestEmail renderVerificationEmail)
open Notifications (Email EmailBody EventType Outlets Payload)

structure SMTPMailer extends Statora.Mailer.SMTPMailer where
  host : String
  port : ℤ
  username : String
  password : String
  encryption : String
  deriving DecidableEq, Repr

structure SendGridMailer where
  apiKey : String
  fromEmail : String
  fromName : String
  deriving DecidableEq, Repr

inductive Mailer
  | smtp (m : SMTPMailer)
  | sendGrid (m : SendGridMailer)
  deriving DecidableEq, Repr

inductive MailerError
  | decryptSMTPPassword
  | decryptSendGridAPIKey
  | smtpEncryption (encryption : String)
  | smtpHost
  | smtpPort (port : ℤ)
  | smtpFromEmail
  | sendGridAPIKey
  | sendGridFromEmail
  deriving DecidableEq, Repr

def newSMTPMailer (host : String) (port : ℤ) (username password fromEmail fromName
    encryption : String) : Except MailerError SMTPMailer :=
  if encryption ≠ "starttls" ∧ encryption ≠ "tls" ∧ encryption ≠ "none" then
    .error (.smtpEncryption encryption)
  else if trimSpace host = "" then .error .smtpHost
  else if port ≤ 0 || port > 65535 then .error (.smtpPort port)
  else if trimSpace fromEmail = "" then .error .smtpFromEmail
  else .ok {
    fromEmail := fromEmail
    fromName := fromName
    host := host
    port := port
    username := username
    password := password
    encryption := encryption }

def newSendGridMailer (apiKey fromEmail fromName : String) :
    Except MailerError SendGridMailer :=
  if trimSpace apiKey = "" then .error .sendGridAPIKey
  else if trimSpace fromEmail = "" then .error .sendGridFromEmail
  else .ok ⟨apiKey, fromEmail, fromName⟩

/-- `pii.Decrypt` with the key of the service. -/
def decryptSecret (env : Env) (value : String) : Option String :=
  Auth.decryptPII env.ciphers value env.emailEncryptionKey

section Delivery
variable (reveal : String → Option String)

def revealed (failed : MailerError) (secret : String) : Except MailerError String :=
  if secret ≠ "" then (reveal secret).elim (.error failed) .ok else .ok ""

/-- `none` when delivery is disabled; `reveal` decrypts a stored secret. -/
def newMailer (settings : MailSettings) : Except MailerError (Option Mailer) :=
  match settings.provider with
  | .none | .unset => .ok none
  | .smtp => do
    let password ← revealed reveal .decryptSMTPPassword settings.smtp.password
    let m ← newSMTPMailer settings.smtp.host settings.smtp.port settings.smtp.username password
      settings.smtp.fromEmail settings.smtp.fromName settings.smtp.encryption
    return some (.smtp m)
  | .sendgrid => do
    let apiKey ← revealed reveal .decryptSendGridAPIKey settings.sendGrid.apiKey
    let m ← newSendGridMailer apiKey settings.sendGrid.fromEmail settings.sendGrid.fromName
    return some (.sendGrid m)
  | .unknown _ => .ok none

inductive LoadError
  | settings (e : SettingsError)
  | mailer (e : MailerError)
  deriving DecidableEq, Repr

def loadMailerWithSettings (now : ℤ) :
    Fallible SettingsStore LoadError (Option Mailer × StatusPageSettings) := do
  let settings ← Fallible.mapError .settings (fetchOrCreateStatusPageSettings now)
  match newMailer reveal settings.mail with
  | .error e => Fallible.throw (.mailer e)
  | .ok mailer => return (mailer, settings)

def trimRightSlash (s : String) : String := String.ofList (s.toList.rdropWhile (· = '/'))

def subscriberBaseURL (now : ℤ) : Prog SettingsStore String :=
  (fetchOrCreateStatusPageSettings now).bind fun
  | .error _ => .ret ""
  | .ok settings =>
    .ret (if trimSpace settings.mail.baseURL ≠ "" then trimRightSlash settings.mail.baseURL else "")

def subscriberSiteName (now : ℤ) : Prog SettingsStore String :=
  (fetchOrCreateStatusPageSettings now).bind fun
  | .error _ => .ret "Statora"
  | .ok settings =>
    .ret (if trimSpace settings.branding.siteName = "" then "Statora"
      else settings.branding.siteName)

def currentMailProvider (now : ℤ) : Prog SettingsStore MailProviderType :=
  (fetchOrCreateStatusPageSettings now).bind fun
  | .error _ => .ret .none
  | .ok settings => .ret settings.mail.provider

def MailProviderType.name : MailProviderType → String
  | .unset => ""
  | .none => "none"
  | .smtp => "smtp"
  | .sendgrid => "sendgrid"
  | .unknown name => name

structure Delivery where
  mailer : Mailer
  message : Statora.Mailer.Message
  deriving DecidableEq, Repr

def messageOf (to_ unsubscribeURL : String) (rendered : Rendered) : Statora.Mailer.Message where
  to_ := to_
  subject := rendered.subject
  textBody := rendered.text
  htmlBody := rendered.html
  unsubscribeURL := unsubscribeURL

def verifyPath : String := "/api/subscribe/verify?token="

def sendVerificationEmail (sub : Subscriber) (clock : ℕ → ℤ) :
    Prog SettingsStore (List Delivery) :=
  (subscriberBaseURL (clock 0)).bind fun baseURL =>
    if baseURL = "" then .ret []
    else
      (loadMailerWithSettings reveal (clock 1)).bind fun
      | .ok (some mailer, _) =>
        (subscriberSiteName (clock 2)).bind fun siteName =>
          let data := {
            siteName := siteName
            verificationURL := baseURL ++ verifyPath ++ sub.verificationToken
            expiresAt := clock 3 + Subscribers.verificationTokenTTL }
          match renderVerificationEmail data with
          | .error _ => .ret []
          | .ok rendered => .ret [⟨mailer, messageOf sub.email "" rendered⟩]
      | _ => .ret []

def mailOf : EmailBody → Mail
  | .incidentCreated data => .incidentCreated data
  | .incidentResolved data => .incidentResolved data
  | .maintenanceCreated data => .maintenanceCreated data
  | .maintenanceUpdated data => .maintenanceUpdated data

def emailMessage (upper : String → String) (email : Email) : Option Statora.Mailer.Message :=
  ((mailOf email.body).render upper).toOption.map (messageOf email.to_ email.unsubscribeURL)

/-- The mails of an event; `verified` is what `ListVerified` returns. -/
def dispatchSubscriberEmail (upper : String → String) (verified : Option (List Subscriber))
    (eventType : EventType) (data : Payload) (now : ℤ) : Prog SettingsStore (List Delivery) :=
  (loadMailerWithSettings reveal now).bind fun
  | .ok (some mailer, settings) =>
    let outlets : Outlets := {
      channels := none
      requestable := fun _ => false
      mail := some ⟨settings.branding.siteName, settings.mail.baseURL⟩
      verified := verified
      hasRoom := false }
    .ret ((Notifications.dispatchSubscriberEmail outlets eventType data).filterMap fun
      | .email email => (emailMessage upper email).map fun message => ⟨mailer, message⟩
      | _ => none)
  | _ => .ret []

inductive TestAnswer
  | notInitialized (e : LoadError)
  | notConfigured
  | sent (delivery : Delivery)
  deriving DecidableEq, Repr

def sendTestEmail (lower : Char → Char) (recipient : String) (clock : ℕ → ℤ) :
    Prog SettingsStore TestAnswer :=
  (loadMailerWithSettings reveal (clock 0)).bind fun
  | .error e => .ret (.notInitialized e)
  | .ok (none, _) => .ret .notConfigured
  | .ok (some mailer, _) =>
    (subscriberSiteName (clock 1)).bind fun siteName =>
      (currentMailProvider (clock 2)).bind fun provider =>
        let rendered := renderTestEmail {
          siteName := siteName
          provider := provider.name
          sentAt := clock 3
          recipient := Auth.normalizeEmail lower recipient }
        .ret (.sent ⟨mailer, messageOf (Auth.normalizeEmail lower recipient) "" rendered⟩)

end Delivery
end Statora.Settings
