import Docketra.Lib.Calendar
import Docketra.Lib.Checked
import Docketra.Lib.Runs
import Docketra.Lib.StaleWrites
import Docketra.Lib.Claiming
import Docketra.Lib.Versioned
import Docketra.Lib.Expiring
import Docketra.Lib.Lockstep
import Docketra.Lib.Taking
import Docketra.Lib.JsonText
import Docketra.Lib.Base64
import Docketra.Lib.Inserting
import Docketra.Lib.Buffers
import Docketra.Lib.Keyed
import Docketra.Lib.Branches
import Docketra.Lib.Numerals
import Docketra.Lib.FirstOfKey
import Docketra.Lib.Interleaving
import Docketra.Lib.Calls
import Docketra.Lib.LastWrite
import Docketra.Lib.WorkingTime
import Docketra.Lib.Effects
import Docketra.Text
import Docketra.Decimal
import Docketra.Status
import Docketra.Docket
import Docketra.Repository
import Docketra.Workflow
import Docketra.Assignment
import Docketra.Routing
import Docketra.StatusUpdate
import Docketra.CaseAction
import Docketra.Gates
import Docketra.Pending
import Docketra.Reopening
import Docketra.Pulling
import Docketra.Versioning
import Docketra.Operations
import Docketra.WorkflowSpec
import Docketra.QualityCheck
import Docketra.QcEffects
import Docketra.WorkflowMoves
import Docketra.Coherence
import Docketra.StatusCoherence
import Docketra.RoutingCoherence
import Docketra.Terminal
import Docketra.RoutingStack
import Docketra.Express
import Docketra.Idempotency
import Docketra.StoreEquivalence
import Docketra.InFlight
import Docketra.IdempotencyKeys
import Docketra.WriteHandler
import Docketra.SideEffects
import Docketra.EffectQueue
import Docketra.CircuitBreaker
import Docketra.Compliance
import Docketra.Periods
import Docketra.PeriodRanges
import Docketra.StatutoryDates
import Docketra.ComplianceGeneration
import Docketra.ComplianceKeys
import Docketra.ComplianceRuns
import Docketra.ComplianceCollisions
import Docketra.CompliancePreview
import Docketra.Identifiers
import Docketra.NumberForms
import Docketra.IdentifierAgreement
import Docketra.ClientAccess
import Docketra.TurnAround
import Docketra.SlaViews
import Docketra.SlaCalendar
import Docketra.DueDates
import Docketra.SlaConfigs
import Docketra.DocketLock
import Docketra.Unassigning
import Docketra.ComplianceStates
import Docketra.AuditDiff
import Docketra.AuditLog
import Docketra.Encryption
import Docketra.FieldEncryption
import Docketra.SecretShapes
import Docketra.Redaction
import Docketra.KeyCache
import Docketra.SoftDelete
import Docketra.Restoring
import Docketra.TenantScope
import Docketra.ClientIds
import Docketra.CaseNumbers
import Docketra.ClientDuplicates
import Docketra.RefreshTokens
import Docketra.OneTimeCodes
import Docketra.AccountLockout
import Docketra.Outbox
import Docketra.DirectUpload
import Docketra.StorageProviders
import Docketra.StorageArchive
import Docketra.StorageBackup
import Docketra.ManagedStorage
import Docketra.ManagerMoves
import Docketra.QcSampling
import Docketra.ApprovalHistory
import Docketra.ClientUpdates
import Docketra.FirmStorage
import Docketra.Narratives
import Docketra.ClientProfiles
import Docketra.DocketSessions
import Docketra.GroupedNotifications
import Docketra.DueNotifications
import Docketra.Intake
import Docketra.CaseList
import Docketra.DailyMetrics
import Docketra.Dashboard
import Docketra.TenantIdentity
import Docketra.RepositoryReads
import Docketra.QueueMoves
import Docketra.IntakeDockets
import Docketra.IntakeDuplicates
import Docketra.TaskNarratives
import Docketra.CalendarReminders
import Docketra.UploadedAttachments
import Docketra.SharedFiles
import Docketra.BulkDockets
import Docketra.Slugs
import Docketra.FirmIdentifiers
import Docketra.RequestChecklists
import Docketra.SlaRules
import Docketra.NameSimilarity
import Docketra.RouteScans
import Docketra.IpRanges
import Docketra.Lib.Leases
import Docketra.RedisLock
import Docketra.Lib.FixedWindows
import Docketra.SignupLimits
import Docketra.StorageWorker
import Docketra.PasswordReset
import Docketra.FirmSetup
import Docketra.Hierarchy
