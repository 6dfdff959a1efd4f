import AiScdc.Transaction.Logic
import AiScdc.Entities
import AiScdc.Session
import AiScdc.Transaction.Interleaving
import AiScdc.Budgeting
import AiScdc.BudgetRules
import AiScdc.Wallet
import AiScdc.WalletRace
import AiScdc.ObjectStorage
import AiScdc.TaskState
import AiScdc.CloudRunner.Enqueue
import AiScdc.CloudRunner.Finalize
import AiScdc.CloudRunner.Operations
import AiScdc.Transaction.Stage
import AiScdc.CloudRunner.Lifecycle
import AiScdc.CloudRunner.Linked
import AiScdc.CloudRunner.Rules
import AiScdc.CloudRunner.Endings
import AiScdc.CloudRunner.Finalization
import AiScdc.CloudRunner.LeaseSteps
import AiScdc.CloudRunner.Steps
import AiScdc.CloudRunner.EnqueueSteps
import AiScdc.CloudRunner.History
import AiScdc.CloudRunner.Reservations
import AiScdc.CloudRunner.Invariants
import AiScdc.CloudRunner.Atomicity
import AiScdc.CloudRunner.ArtifactScope
import AiScdc.Statements
import AiScdc.CloudRunner.Footprints
import AiScdc.CloudRunner.RunFootprints
import AiScdc.CloudRunner.LeaseFootprints
import AiScdc.CloudRunner.TerminalRace
import AiScdc.CloudRunner.LeaseFencing
import AiScdc.CloudRunner.CancelRace
import AiScdc.Transaction.Execution
import AiScdc.Workflow.Paths
import AiScdc.Workflow.Tasks
import AiScdc.Workflow.TestReview
import AiScdc.Workflow.Approvals
import AiScdc.Workflow.LocalRuns
import AiScdc.Workflow.Planner
import AiScdc.Workflow.PullRequests
import AiScdc.Workflow.Operations
import AiScdc.CloudRunner.RunTables
import AiScdc.Workflow.Course
import AiScdc.Workflow.Footprints
import AiScdc.Workflow.Walks
import AiScdc.Workflow.TerminalTasks
import AiScdc.Workflow.History
import AiScdc.Workflow.SingleApproval
import AiScdc.Journal
import AiScdc.Transaction.Commits
import AiScdc.Workflow.TaskHistory
import AiScdc.Workflow.Publication
import AiScdc.Workflow.PublishedDiff
import AiScdc.CloudRunner.QueueOrder
import AiScdc.CloudRunner.RowOwners
import AiScdc.Calendar
import AiScdc.Transaction.Timed
import AiScdc.UsageLedger
import AiScdc.MonthlySpend
import AiScdc.SettlementLedger
import AiScdc.ArtifactPlane.Sources
import AiScdc.ArtifactPlane.Content
import AiScdc.ArtifactPlane.ReadScope
import AiScdc.Workflow.RecordedTests
import AiScdc.CloudRunner.Attempts
import AiScdc.Identity.Entities
import AiScdc.Identity.Operations
import AiScdc.Identity.StatusChecks
import AiScdc.Identity.ControlledRestoration
import AiScdc.Identity.SessionCourse
import AiScdc.Identity.SessionLiveness
import AiScdc.CloudRunner.QueueMessages
import AiScdc.DeviceSessions.Entities
import AiScdc.DeviceSessions.Operations
import AiScdc.DeviceSessions.Lifetimes
import AiScdc.DeviceSessions.Secrets
import AiScdc.DeviceSessions.RotationRace
import AiScdc.Login.Entities
import AiScdc.Login.Operations
import AiScdc.Login.Callbacks
import AiScdc.AuditRetention.CompletedSweeps
import AiScdc.Onboarding.Accounts
import AiScdc.Onboarding.Calls
import AiScdc.Onboarding.Executions
import AiScdc.DeviceSessions.Continuations
import AiScdc.DeviceSessions.LogoutRuns
import AiScdc.Listing.StableSort
import AiScdc.RemoteWorker.Redaction
import AiScdc.LocalRunner.AllowedPaths
import AiScdc.LocalRunner.PatchPath
import AiScdc.Transaction.Interrupted
import AiScdc.Workflow.InterruptedTests
import AiScdc.Workflow.OtherRequests
import AiScdc.Workflow.TestRunClosing
import AiScdc.IdentitySchema.Agreement
import AiScdc.ModelSettings.Routes
import AiScdc.CloudRunLogs.Following
import AiScdc.Github.RepositoryUrl
import AiScdc.RemoteWorker.Commands
import AiScdc.RemoteWorker.Executor
import AiScdc.RemoteWorker.Reports
import AiScdc.RemoteWorker.Answers
import AiScdc.RemoteWorker.Verdict
import AiScdc.RequestProtection.TokenLifetime
import AiScdc.StoreUpgrade.PatchReviews
import AiScdc.StoreUpgrade.ChargesKept
import AiScdc.ArtifactPlane.CleanupRuns
import AiScdc.AuthingCiam.Answers
import AiScdc.Workflow.PlannerDecisions
import AiScdc.Workflow.PublishedOnce
import AiScdc.CloudRunner.Receipts
import AiScdc.CloudRunner.RuntimeCleanup
import AiScdc.CloudRunner.TokenBinding
import AiScdc.DockerSandbox.CommandWords
import AiScdc.DockerSandbox.CredentialWindow
import AiScdc.DockerSandbox.EnvFile
import AiScdc.DockerSandbox.Redaction
import AiScdc.DockerSandbox.Runs
import AiScdc.ModelPlanner.Course
import AiScdc.ModelPlanner.Fences
