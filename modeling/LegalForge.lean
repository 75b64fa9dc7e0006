import LegalForge.TransitionRun
import LegalForge.ReadCommitted
import LegalForge.RunningFold
import LegalForge.PrefixCode
import LegalForge.BaseModels
import LegalForge.TrustLedger
import LegalForge.TrustInvariant
import LegalForge.TrustSolvency
import LegalForge.HashChain
import LegalForge.AuditLog
import LegalForge.AuditChain
import LegalForge.AuditTamper
import LegalForge.AuditWriters
import LegalForge.AuditConcurrency
import LegalForge.DoubleArithmetic
import LegalForge.Json
import LegalForge.KeyedTable
import LegalForge.BillingModels
import LegalForge.Billing
import LegalForge.InvoiceLines
import LegalForge.PaymentLinks
import LegalForge.InvoicePaid
import LegalForge.PaymentRequests
import LegalForge.PaymentSettlement
import LegalForge.WebhookDelivery
import LegalForge.AccountSessions
import LegalForge.AuthModels
import LegalForge.AuthSessions
import LegalForge.ScimUsers
import LegalForge.SsoLogin
import LegalForge.AuthAccounts
import LegalForge.AccountEvents
import LegalForge.Deactivation
import LegalForge.TokenRotation
import LegalForge.JsonText
import LegalForge.JsonRoundTrip
import LegalForge.PythonText
import LegalForge.TwoFactorLogin
import LegalForge.RecoveryCodes
import LegalForge.LoginAttempts
import LegalForge.LoginLockout
import LegalForge.SignatureRequests
import LegalForge.SignatureFinality
import LegalForge.SignatureCompletion
import LegalForge.CalendarDays
import LegalForge.Deadlines
import LegalForge.DeadlineConsistency
import LegalForge.DeadlineOrphans
import LegalForge.CefFormat
import LegalForge.AuditExport
import LegalForge.CefExport
import LegalForge.SyslogFormat
import LegalForge.SyslogExport
import LegalForge.AuditDetails
import LegalForge.UnitOfWork
import LegalForge.MatterModels
import LegalForge.SignatureTrail
import LegalForge.SignatureReplay
import LegalForge.SignatureHistory
import LegalForge.SignatureExpiry
import LegalForge.WebauthnLogin
import LegalForge.FailureRecords
import LegalForge.AccessControl
import LegalForge.EthicalWalls
import LegalForge.Paging
import LegalForge.MatterListing
import LegalForge.MatterService
import LegalForge.MatterLockdown
import LegalForge.Pagination
import LegalForge.Noninterference
import LegalForge.Portal
import LegalForge.PortalView
import LegalForge.PortalIsolation
import LegalForge.CloudStorage
import LegalForge.CloudOwnership
import LegalForge.AcyclicRelation
import LegalForge.GraphSearch
import LegalForge.Tasks
import LegalForge.TaskAcyclicity
import LegalForge.ConcurrentDependencies
import LegalForge.BilledLines
import LegalForge.ProgramRefinement
import LegalForge.TrustListing
import LegalForge.TrustExport
import LegalForge.PaymentRoutes
import LegalForge.PaymentCollection
import LegalForge.PaymentSummary
import LegalForge.StaffReads
import LegalForge.WallIsolation
import LegalForge.RevocationRequests
import LegalForge.SessionRevocation
import LegalForge.SiemPush
import LegalForge.SiemDelivery
import LegalForge.SsoRequests
import LegalForge.SsoStateReuse
import LegalForge.NonceBinding
import LegalForge.CloudTokens
import LegalForge.DocumentStorage
import LegalForge.DocumentContents
import LegalForge.DeadlineLinks
import LegalForge.ConflictFree
import LegalForge.CalendarBooking
import LegalForge.DelimitedText
import LegalForge.DecimalText
import LegalForge.LedesExport
import LegalForge.DoubleRounding
import LegalForge.CsvText
import LegalForge.AccountingExport
import LegalForge.IifFormat
import LegalForge.ExportAgreement
import LegalForge.TimePricing
import LegalForge.JoinedRows
import LegalForge.RevenueReports
import LegalForge.MatterProfitability
import LegalForge.AgedReceivables
import LegalForge.ConflictLaws
import LegalForge.WorkflowTemplates
import LegalForge.LeadConversion
import LegalForge.RowNumbering
import LegalForge.RecordNumbers
import LegalForge.EmailFiling
import LegalForge.SuggestionCounts
import LegalForge.RefreshMutex
import LegalForge.WebauthnEnrolment
import LegalForge.TotpEnrolment
import LegalForge.FilterLanguage
import LegalForge.ScimListing
import LegalForge.LastWrite
import LegalForge.ScimPatch
import LegalForge.ScimPatchLaws
import LegalForge.ScimReplacement
import LegalForge.SsoRoles
import LegalForge.WebhookFlags
import LegalForge.MatterContacts
import LegalForge.GrownFamilies
import LegalForge.DocumentVersions
import LegalForge.LineCents
import LegalForge.LedesArithmetic
import LegalForge.InvoicedEntries
import LegalForge.BilledRevenue
import LegalForge.CountedSteps
import LegalForge.DeadlineDates
import LegalForge.DependencySearch
import LegalForge.AgedBuckets
import LegalForge.SlidingWindow
import LegalForge.RateLimit
import LegalForge.LoginThrottle
import LegalForge.EmailAttachments
import LegalForge.Base64
import LegalForge.FieldEncryption
import LegalForge.AuditPayload
import LegalForge.TimeEntryPages
import LegalForge.SsoProviders
import LegalForge.DefaultProvider
import LegalForge.SecretMasking
import LegalForge.MaskedSettings
import LegalForge.TextScan
import LegalForge.TemplatePlaceholders
import LegalForge.TemplateContext
import LegalForge.LineFrames
import LegalForge.SyslogTransport
import LegalForge.StampedStatus
import LegalForge.TaskCompletion
import LegalForge.CanonicalJson
import LegalForge.WebhookSignature
import LegalForge.SinceEvent
import LegalForge.ScimTokens
import LegalForge.DoubleMonotone
import LegalForge.GroupedTotals
import LegalForge.UtilizationReports
import LegalForge.DoubleQuotients
import LegalForge.TimerStore
