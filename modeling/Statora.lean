import Statora.Library.EventRun
import Statora.Library.StoreProgram
import Statora.Library.MaximalRuns
import Statora.Availability.Exactness
import Statora.Status.OrderIndependence
import Statora.Status.SummaryAgreement
import Statora.Status.CategoryAgreement
import Statora.Status.DraftVisibility
import Statora.Worker.OutageAutomaton
import Statora.Worker.SiblingOutages
import Statora.Incidents.Recovery
import Statora.Auth.SecondFactor
import Statora.Worker.ParallelChecks
import Statora.Worker.UptimeCounter
import Statora.Auth.RecoveryCodes
import Statora.Worker.Scheduler
import Statora.Worker.EarlyFetches
import Statora.Maintenance.Windows
import Statora.Subscribers.Consent
import Statora.Subscribers.Verification
import Statora.Subscribers.LiveTokens
import Statora.Subscribers.LostUnsubscribe
import Statora.Auth.CurrentRecord
import Statora.Availability.Prefilter
import Statora.Incidents.ResolutionTime
import Statora.Worker.RecoveryFrame
import Statora.Worker.ExpiryRound
import Statora.Status.ActiveIncidents
import Statora.WebSocket.Hub
import Statora.Status.MoreImpact
import Statora.Status.SubComponentDeletion
import Statora.Components.ReferentialIntegrity
import Statora.Auth.InvitationProtocol
import Statora.Incidents.Normalization
import Statora.Availability.Percentages
import Statora.Maintenance.StatusEdits
import Statora.Content.Formats
import Statora.Subscribers.OnePerAddress
import Statora.Web.ContentModel
import Statora.Web.SharedText
import Statora.Notifications.Dispatch
import Statora.Notifications.Handlers
import Statora.Notifications.Effects
import Statora.Notifications.Resolutions
import Statora.Notifications.Drafts
import Statora.Content.FailedOperations
import Statora.Library.Faults
import Statora.Availability.Period
import Statora.Availability.Years
import Statora.Calendar
import Statora.Numbers
import Statora.Uptime.Bars
import Statora.Library.NearestRank
import Statora.Status.ServiceMetrics
import Statora.Library.Binary64
import Statora.Monitors.Thresholds
import Statora.Monitors.WellFormed
import Statora.Monitors.CheckSSL
import Statora.Monitors.CertificateExpiry
import Statora.Library.Fields
import Statora.Status.CategorySlugs
import Statora.Web.CategoryLinks
import Statora.Library.Pages
import Statora.Pagination.Requests
import Statora.Pagination.Partition
import Statora.Web.UseApi
import Statora.Library.SplitSeq
import Statora.Library.InternetMessage
import Statora.Mailer.BuildMessage
import Statora.Library.HOTP
import Statora.Auth.OneTimeCodes
import Statora.Auth.Enrollment
import Statora.Worker.DueTest
import Statora.Library.Records
import Statora.Settings.Model
import Statora.Library.StableFacts
import Statora.Settings.WellFormed
import Statora.Library.RelatedRuns
import Statora.Settings.Secrets
import Statora.Settings.AppliedUpdates
import Statora.EncodingRoundTrips
import Statora.Mailer.Documents
import Statora.Settings.Plaintext
import Statora.Web.MetaTags
import Statora.Web.ThemePresets
import Statora.Web.SettingsForm
import Statora.Web.SavedForm
