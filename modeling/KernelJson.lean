import KernelJson.Foundation.CivilCalendar
import KernelJson.Foundation.DurablePrograms
import KernelJson.Foundation.FencedRegister
import KernelJson.Foundation.JsMap
import KernelJson.Foundation.JsText
import KernelJson.Foundation.Json
import KernelJson.Foundation.JsonParse
import KernelJson.Foundation.JsonCodec
import KernelJson.Foundation.JsonRoundTrip
import KernelJson.Foundation.Utf8
import KernelJson.Foundation.Base64Url
import KernelJson.Foundation.Patterns
import KernelJson.Foundation.Transactions
import KernelJson.Contracts.Common
import KernelJson.Contracts.Digest
import KernelJson.Contracts.Identity
import KernelJson.Contracts.Platform
import KernelJson.Contracts.PolicyGate
import KernelJson.Contracts.Task
import KernelJson.Contracts.Outcome
import KernelJson.Contracts.Records
import KernelJson.Contracts.Github
import KernelJson.Contracts.Objective
import KernelJson.Contracts.Reports
import KernelJson.Approvals.ApprovalStore
import KernelJson.Approvals.FirstWins
import KernelJson.Planner.Plan
import KernelJson.Executor.Operations
import KernelJson.Executor.Verification
import KernelJson.Mission.Completion
import KernelJson.Mission.Evidence
import KernelJson.Mission.Reconcile
import KernelJson.Mission.Run
import KernelJson.Mission.RunRecords
import KernelJson.Mission.Verify
import KernelJson.Mission.Soundness
import KernelJson.Scheduler.CivilTime
import KernelJson.Scheduler.Spec
import KernelJson.Scheduler.FireWindows
import KernelJson.Scheduler.ScheduleStore
import KernelJson.Scheduler.DurableTimer
import KernelJson.Scheduler.EmergencyStop
import KernelJson.Scheduler.ExactlyOnce
import KernelJson.Scheduler.PgStore
import KernelJson.Scheduler.LeaseFencing
import KernelJson.Scheduler.WindowEnumeration
import KernelJson.Scheduler.WakeChain
import KernelJson.Scheduler.PgSchedules
import KernelJson.Scheduler.StoreRefinement
import KernelJson.Alerting.Outbox
import KernelJson.Alerting.OutboxStores
import KernelJson.Alerting.DeliveryWorker
import KernelJson.Alerting.TerminalRows
import KernelJson.Alerting.Policy
import KernelJson.Alerting.Reducer
import KernelJson.Alerting.Episodes
import KernelJson.Alerting.Engine
import KernelJson.Alerting.Notifications
import KernelJson.Alerting.IdentityChanges
import KernelJson.Memory.Policy
import KernelJson.Memory.Service
import KernelJson.Memory.Secrets
import KernelJson.Ledger.Store
import KernelJson.Ledger.Effects
import KernelJson.Ledger.Invariants
import KernelJson.Ledger.Integrity
import KernelJson.Ledger.Results
import KernelJson.Ledger.PlanSoundness
import KernelJson.Ledger.Completion
import KernelJson.OAuth.Tokens
import KernelJson.OAuth.Profiles
import KernelJson.OAuth.Tables
import KernelJson.OAuth.Server
import KernelJson.OAuth.Steps
import KernelJson.OAuth.Provenance
import KernelJson.OAuth.SingleUse
import KernelJson.Contracts.Intent
import KernelJson.Gateway.Admission
import KernelJson.Gateway.Door
import KernelJson.Telegram.Commands
import KernelJson.Telegram.Handling
import KernelJson.Alerting.AttemptBudget
import KernelJson.Control.Replay
import KernelJson.Identity.Canonical
import KernelJson.Identity.Twins
import KernelJson.Releases.Provenance
import KernelJson.Telegram.DailyCap
import KernelJson.Telegram.Replies
import KernelJson.Control.Agreement
import KernelJson.Gateway.Acceptance
import KernelJson.Memory.Canonical
import KernelJson.Memory.Runs
import KernelJson.Alerting.TickChain
import KernelJson.Contracts.Brief
import KernelJson.Contracts.Faculty
import KernelJson.Contracts.Model
import KernelJson.Identity.CognitionBinding
import KernelJson.Identity.Latch
import KernelJson.Mission.Brief
import KernelJson.Mission.Totality
import KernelJson.Scheduler.CanaryFire
import KernelJson.Scheduler.WindowExactness
import KernelJson.Approvals.Evaluation
import KernelJson.Foundation.Programs
import KernelJson.Memory.Assembler
import KernelJson.Memory.ContextDigest
import KernelJson.Memory.PromotionApprovals
import KernelJson.Memory.PromotionWrites
import KernelJson.Memory.Resumption
import KernelJson.Telegram.PollOnce
import KernelJson.Foundation.FirstFit
import KernelJson.Memory.ContextPacking
import KernelJson.Scheduler.CivilResolution
import KernelJson.Approvals.DefaultDeny
import KernelJson.Planner.Graphs
import KernelJson.Mission.BriefMessage
import KernelJson.Mcp.Analysis
import KernelJson.Identity.Faithful
import KernelJson.Foundation.Cuts
import KernelJson.Runtimes.GithubEvidence
import KernelJson.Mission.BriefRun
import KernelJson.Mission.BriefVerify
import KernelJson.Mission.BriefRecords
import KernelJson.Mission.BriefCompletion
import KernelJson.Foundation.FixedWindows
import KernelJson.OAuth.RateLimiting
import KernelJson.Health.Snapshot
import KernelJson.Health.Evaluate
import KernelJson.Health.Catalogue
import KernelJson.Health.Alerts
import KernelJson.Foundation.TextLines
import KernelJson.Releases.RuntimeEnv
import KernelJson.Releases.EnvReadings
import KernelJson.Releases.EnvUpdates
import KernelJson.Releases.EnvMerge
import KernelJson.Foundation.CachedCalls
import KernelJson.Foundation.StrictObjects
import KernelJson.Contracts.CapabilityRun
import KernelJson.Runtimes.CapabilityRegistry
import KernelJson.Runtimes.Receipts
import KernelJson.Runtimes.ReadCapabilities
import KernelJson.Runtimes.LegacyConductor
import KernelJson.Runtimes.NewSystem
import KernelJson.Runtimes.AdapterRuns
import KernelJson.Runtimes.BuiltinCapabilities
import KernelJson.OAuth.Histories
import KernelJson.OAuth.Rotation
import KernelJson.Runtimes.Execution
import KernelJson.Runtimes.CapabilityStore
import KernelJson.Ledger.Parts
