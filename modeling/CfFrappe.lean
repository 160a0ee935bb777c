import CfFrappe.Lib.NormalForms
import CfFrappe.Lib.Utf
import CfFrappe.Lib.TextOrder
import CfFrappe.Lib.PercentEncoding
import CfFrappe.Lib.Record
import CfFrappe.Lib.Wildcard
import CfFrappe.Lib.Sqlite
import CfFrappe.Lib.Program
import CfFrappe.Lib.Reporting
import CfFrappe.Lib.SharedState
import CfFrappe.Lib.EventLog
import CfFrappe.Lib.ExclusiveWork
import CfFrappe.Core.Streams
import CfFrappe.Core.Json
import CfFrappe.Core.Types
import CfFrappe.Core.LikeGlob
import CfFrappe.Core.Predicates
import CfFrappe.Core.PredicateChecks
import CfFrappe.Core.Events
import CfFrappe.Core.Schema
import CfFrappe.Core.Workflow
import CfFrappe.Core.Naming
import CfFrappe.Adapters.ProjectionRow
import CfFrappe.Adapters.ListOrder
import CfFrappe.Adapters.ProjectionQuery
import CfFrappe.Adapters.LikePushdown
import CfFrappe.Adapters.StoredValues
import CfFrappe.Adapters.PushdownAgreement
import CfFrappe.Application.FieldPolicy
import CfFrappe.Application.CommandPolicy
import CfFrappe.Application.UpdateValidity
import CfFrappe.Application.AutomationRuns
import CfFrappe.Application.AutomationRunPolicy
import CfFrappe.Application.DocumentStore
import CfFrappe.Application.DeliveryOutbox
import CfFrappe.Application.DeliveryOutboxLog
import CfFrappe.Application.DeliveryOutboxService
import CfFrappe.Application.DeliveryOutboxRuns
import CfFrappe.Application.DeliveryOutboxSafety
import CfFrappe.Core.UserAccounts
import CfFrappe.Application.UserAccountService
import CfFrappe.Application.AccountCommits
import CfFrappe.Application.EmailVerification
import CfFrappe.Core.EventJson
import CfFrappe.Core.Permissions
import CfFrappe.Core.AutomationRules
import CfFrappe.Core.NotificationRules
import CfFrappe.Application.EmailNotificationService
import CfFrappe.Application.EmailClaims
import CfFrappe.Application.EmailDelivery
import CfFrappe.Core.JsValue
import CfFrappe.Application.JobExecutor
import CfFrappe.Application.JobExclusion
import CfFrappe.Application.DataPatchLog
import CfFrappe.Adapters.DataPatchJournal
import CfFrappe.Adapters.DataPatchExclusion
import CfFrappe.Application.ProjectionRebuild
import CfFrappe.Application.ProjectionRebuildRuns
import CfFrappe.Application.ProjectionRebuildCoverage
import CfFrappe.Core.Notifications
import CfFrappe.Application.UserNotificationEvents
import CfFrappe.Application.UserNotificationService
import CfFrappe.Application.UserNotificationRuns
import CfFrappe.Core.DocTypes
import CfFrappe.Core.JsonEquality
import CfFrappe.Core.DocumentMerge
import CfFrappe.Core.DocumentMergePlan
import CfFrappe.Core.MetadataEvents
import CfFrappe.Core.NamingCandidates
import CfFrappe.Core.NamingScopes
import CfFrappe.Core.NamingTurns
import CfFrappe.Lib.EventBatches
import CfFrappe.Core.CustomFields
import CfFrappe.Application.CustomFieldPolicy
import CfFrappe.Core.FieldPropertyOverrides
import CfFrappe.Application.FieldPropertyPolicy
import CfFrappe.Lib.Outcomes
import CfFrappe.Core.NamingConfiguration
import CfFrappe.Lib.StepMatching
import CfFrappe.Core.SafeRegex
import CfFrappe.Lib.Traces
import CfFrappe.Application.SeriesCreate
import CfFrappe.Application.SeriesCreateBudget
import CfFrappe.Application.SeriesCreateNames
import CfFrappe.Core.Realtime
import CfFrappe.Adapters.RealtimeHub
import CfFrappe.Adapters.RealtimeSessions
import CfFrappe.Adapters.RealtimeConfidentiality
import CfFrappe.Application.FilePolicy
import CfFrappe.Application.FileService
import CfFrappe.Application.FileAvailability
import CfFrappe.Core.SafeRegexCase
import CfFrappe.Lib.DepthFirst
import CfFrappe.Core.AppGraph
import CfFrappe.Application.AutomationRunPlanner
import CfFrappe.Application.AutomationLoops
import CfFrappe.Application.AutomationRunConsumer
import CfFrappe.Application.AutomationRunAttempts
import CfFrappe.Application.AutomationRunTimes
import CfFrappe.Application.QueryService
import CfFrappe.Lib.Alone
import CfFrappe.Application.DeliveryOutboxAlone
import CfFrappe.Application.DeliveryOutboxConsumer
import CfFrappe.Application.DeliveryOutboxDrain
import CfFrappe.Adapters.InMemoryDataPatchLog
import CfFrappe.Adapters.DataPatchAgreement
import CfFrappe.Application.FieldAccessPolicy
import CfFrappe.Application.ReferencePolicy
import CfFrappe.Application.DocumentUpdate
import CfFrappe.Application.OneFieldUpdate
import CfFrappe.Application.FieldStates
import CfFrappe.Application.ReadOnlyRows
import CfFrappe.Application.ReadOnlyValues
import CfFrappe.Adapters.ListFilterQuery
import CfFrappe.Application.Csv
import CfFrappe.Core.Reports
import CfFrappe.Lib.BinaryHeap
import CfFrappe.Application.OrderedReportRows
import CfFrappe.Core.JsonText
import CfFrappe.Application.ReportPolicy
import CfFrappe.Application.ReportDrilldown
import CfFrappe.Adapters.DeskMergeValues
import CfFrappe.Adapters.DeskMerge
import CfFrappe.Lib.Base64
import CfFrappe.Adapters.PasswordHasher
import CfFrappe.Application.ProviderSync
import CfFrappe.Application.DocumentHistory
import CfFrappe.Application.TimelinePages
import CfFrappe.Lib.UpsertTable
import CfFrappe.Adapters.AutomationRunIndex
import CfFrappe.Application.AutomationRunService
import CfFrappe.Adapters.AutomationRunRows
import CfFrappe.Adapters.AutomationRunCommits
import CfFrappe.Lib.Placeholders
import CfFrappe.Core.NotificationSubjects
import CfFrappe.Adapters.AutomationRunCommands
import CfFrappe.Adapters.AutomationRunIndexExact
import CfFrappe.Lib.PathSearch
import CfFrappe.Application.CustomFieldService
import CfFrappe.Application.NestedTables
import CfFrappe.Application.NestedTableRuns
import CfFrappe.Application.FieldPropertyService
import CfFrappe.Application.NamingService
import CfFrappe.Application.MetadataViews
import CfFrappe.Application.RuntimeNaming
import CfFrappe.Application.RuntimeNamingRuns
import CfFrappe.Application.DocumentFoldSnapshots
import CfFrappe.Application.DataPatchPolicy
import CfFrappe.Application.DataPatchService
import CfFrappe.Lib.InOrder
import CfFrappe.Lib.Sequential
import CfFrappe.Application.DataPatchOrder
import CfFrappe.Application.DataPatchSteps
import CfFrappe.Application.DataPatchRuns
import CfFrappe.Application.DataPatchPlans
import CfFrappe.Lib.Since
import CfFrappe.Application.RecoveryTokens
import CfFrappe.Application.DocumentStreams
import CfFrappe.Lib.Operations
import CfFrappe.Application.VerificationRequests
import CfFrappe.Core.NumberTexts
