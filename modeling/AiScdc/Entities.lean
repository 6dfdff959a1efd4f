import AiScdc.Transaction.Program

namespace AiScdc

abbrev Id := ℕ

-- The id of "dev_workspace", the column default of every workspace_id.
def devWorkspaceId : Id := 0

-- Microseconds since the epoch.
abbrev Time := ℤ

inductive BudgetReservationStatus where
  | reserved | released | settled
  deriving DecidableEq, Repr

inductive UsageType where
  | modelTokens | cloudRunRuntimeSeconds | workerSubmissions | objectStorageBytes
  | objectStorageReads | logSyncCalls | queueMessages | prPublishAttempts
  deriving DecidableEq, Repr

inductive TaskStatus where
  | created | specDrafted | userApprovedSpec | tasksCreated | assigned | inProgress
  | patchReady | selfTesting | reviewing | fixRequested | approved | ciRunning
  | mergeReady | humanApproval | prCreated | merged | closed | cancelled
  deriving DecidableEq, Repr

inductive RunStatus where
  | queued | running | patchReady | failed | cancelled
  deriving DecidableEq, Repr

inductive QueueProvider where
  | localDb | externalStub | aliyunMns
  | other (name : String)
  deriving DecidableEq, Repr

inductive RuntimeProvider where
  | remoteStub | aliyunEci
  | other (name : String)
  deriving DecidableEq, Repr

inductive StorageProvider where
  | localInline | aliyunOss
  | other (name : String)
  deriving DecidableEq, Repr

inductive ArtifactKind where
  | diff | log | commandResult | testResult | manifest
  deriving DecidableEq, Repr

inductive ObjectUri where
  | localInline (objectId : Id)
  | oss (path : String)
  | other (text : String)
  deriving DecidableEq, Repr

inductive LogEvent where
  | queued | queueEnqueueFailed | queueEnqueueSkipped | remoteRuntimeSubmitted
  | remoteRuntimeSubmissionFailed | leaseClaimed | leaseHeartbeat | leaseExpired
  | runRequeued | failed | completed | cancelled | cancelRequested | claimed | started
  | artifactRefResolved | artifactRefInlineDiffIgnored | workerCompleted | patchReady
  deriving DecidableEq, Repr

inductive Verdict where
  | approved | changesRequested
  deriving DecidableEq, Repr

inductive PullRequestStatus where
  | creating | finalizing | created | failed
  | other (name : String)
  deriving DecidableEq, Repr

inductive PlannerRunStatus where
  | drafted | approved | rejected
  deriving DecidableEq, Repr

inductive ApprovalStatus where
  | approved | rejected
  deriving DecidableEq, Repr

structure CommandResult where
  command : String
  exitCode : Option ℤ
  stdout : String
  stderr : String
  durationMs : ℤ
  timedOut : Bool := false
  deriving DecidableEq, Repr

structure UsageMeasurement where
  usageType : UsageType
  quantity : ℤ
  unitName : String
  amountCents : ℤ
  deriving DecidableEq, Repr

structure CostSummary where
  reservationId : Option Id := none
  reservedCents : Option ℤ := none
  measuredCents : Option ℤ := none
  measuredCostCents : Option ℤ := none
  actualCents : Option ℤ := none
  actualCostCents : Option ℤ := none
  billableCostCents : Option ℤ := none
  usage : Option (List UsageMeasurement) := none
  status : Option BudgetReservationStatus := none
  logSyncCalls : Option ℤ := none
  deriving DecidableEq, Repr

structure CreditWallet where
  balanceCents : ℤ
  updatedAt : Time
  deriving DecidableEq, Repr

structure SpendLimit where
  monthlyLimitCents : ℤ
  perRunLimitCents : ℤ
  active : Bool
  deriving DecidableEq, Repr

structure BudgetReservation where
  workspaceId : Id
  projectId : Id
  taskId : Id
  cloudRunId : Option Id
  reservedCents : ℤ
  settledCents : ℤ
  status : BudgetReservationStatus
  createdAt : Time
  updatedAt : Time
  settledAt : Option Time
  deriving DecidableEq, Repr

structure UsageLedgerEntry where
  workspaceId : Id
  projectId : Id
  taskId : Id
  providerName : QueueProvider
  quantity : ℤ
  unitName : String
  unitPriceCents : ℤ
  amountCents : ℤ
  createdAt : Time
  deriving DecidableEq, Repr

structure WorkspaceUsageEntry where
  workspaceId : Id
  projectId : Option Id
  taskId : Option Id
  plannerRunId : Option Id
  usageType : UsageType
  providerName : QueueProvider
  quantity : ℤ
  unitName : String
  unitPriceCents : ℤ
  amountCents : ℤ
  createdAt : Time
  deriving DecidableEq, Repr

structure Project where
  workspaceId : Id
  deriving DecidableEq, Repr

structure Repository where
  workspaceId : Id
  projectId : Id
  provider : String
  connectionStatus : String
  defaultBranch : String
  repoUrl : String
  githubOwner : Option String
  githubRepo : Option String
  githubCredentialId : Option Id
  deriving DecidableEq, Repr

structure Task where
  projectId : Id
  status : TaskStatus
  repoId : Option Id
  branchName : Option String
  worktreeRef : Option String
  updatedAt : Time
  title : String
  allowedPaths : List String
  requiredTests : List String
  deriving DecidableEq, Repr

structure LocalTaskRun where
  workspaceId : Id
  projectId : Id
  taskId : Id
  repoId : Id
  status : RunStatus
  runnerKind : String
  baseBranch : String
  baseSha : Option String
  headSha : Option String
  worktreePath : Option String
  patchArtifactId : Option Id
  failureReason : Option String
  updatedAt : Time
  deriving DecidableEq, Repr

structure CloudRun where
  workspaceId : Id
  projectId : Id
  taskId : Id
  repoId : Id
  localRunId : Option Id
  commandResults : List CommandResult
  baseBranch : String
  headBranch : String
  status : RunStatus
  sandboxKind : String
  patchArtifactId : Option Id
  failureReason : Option String
  cancelRequested : Bool
  cancelRequestedAt : Option Time
  cancelledAt : Option Time
  workerId : Option String
  claimedAt : Option Time
  completedAt : Option Time
  queueProvider : QueueProvider
  remoteWorkerKind : Option String
  leaseId : Option Id
  leaseExpiresAt : Option Time
  heartbeatAt : Option Time
  attemptCount : ℕ
  maxAttempts : ℕ
  lastQueueError : Option String
  queueMessageId : Option String
  queueReceipt : Option String
  runtimeProvider : Option RuntimeProvider
  runtimeJobId : Option String
  storageProvider : Option StorageProvider
  artifactManifestUri : Option ObjectUri
  artifactManifestSizeBytes : Option ℤ
  logStreamUri : Option ObjectUri
  logStreamSizeBytes : Option ℤ
  externalStatus : Option String
  externalError : Option String
  callbackTokenHash : Option String
  callbackTokenExpiresAt : Option Time
  callbackTokenUsedAt : Option Time
  budgetReservationId : Option Id
  estimatedCostCents : ℤ
  actualCostCents : ℤ
  costSummary : CostSummary
  createdAt : Time
  updatedAt : Time
  deriving DecidableEq, Repr

structure CloudRunLogEntry where
  cloudRunId : Id
  workspaceId : Id
  level : String
  event : LogEvent
  createdAt : Time
  deriving DecidableEq, Repr

structure CloudRunStoredObject where
  workspaceId : Id
  cloudRunId : Id
  kind : ArtifactKind
  uri : ObjectUri
  sha256 : String
  sizeBytes : ℤ
  textContent : String
  deriving DecidableEq, Repr

structure PatchArtifact where
  workspaceId : Id
  projectId : Id
  taskId : Id
  localRunId : Id
  summary : String
  filesChanged : List String
  testsRun : List String
  testResult : String
  risks : List String
  diffText : String
  createdAt : Time
  deriving DecidableEq, Repr

structure LocalTestRun where
  workspaceId : Id
  projectId : Id
  taskId : Id
  localRunId : Id
  patchArtifactId : Option Id
  status : String
  commands : List String
  commandResults : List CommandResult
  failureReason : Option String
  completedAt : Option Time
  createdAt : Time
  deriving DecidableEq, Repr

inductive ReviewIssue where
  | missingDiffText
  | noChangedFiles
  | changedFileOutsideAllowedPaths (message : String)
  | missingPassingTestRun
  | latestTestRunNotPassed (status : String)
  deriving DecidableEq, Repr

structure PatchReview where
  id : Id
  workspaceId : Id
  projectId : Id
  taskId : Id
  localRunId : Id
  testRunId : Option Id
  verdict : Verdict
  issues : List ReviewIssue
  createdAt : Time
  deriving DecidableEq, Repr

structure PatchApproval where
  id : Id
  workspaceId : Id
  projectId : Id
  taskId : Id
  localRunId : Id
  reviewId : Id
  createdAt : Time
  deriving DecidableEq, Repr

structure PullRequestRecord where
  id : Id
  workspaceId : Id
  projectId : Id
  taskId : Id
  repoId : Id
  patchArtifactId : Id
  cloudRunId : Id
  headBranch : String
  baseBranch : String
  githubPrNumber : ℤ
  githubPrUrl : String
  status : PullRequestStatus
  createdAt : Time
  deriving DecidableEq, Repr

structure PullRequestCall where
  owner : String
  repo : String
  repoUrl : String
  baseBranch : String
  headBranch : String
  diffText : String
  title : String
  body : String
  deriving DecidableEq, Repr

structure DebugAttempt where
  workspaceId : Id
  projectId : Id
  taskId : Id
  patchArtifactId : Id
  reviewId : Option Id
  testRunId : Option Id
  rootCause : String
  fixSummary : String
  createdAt : Time
  deriving DecidableEq, Repr

structure PlannerRun where
  projectId : Id
  status : PlannerRunStatus
  updatedAt : Time
  deriving DecidableEq, Repr

structure PlannerTaskDraft where
  plannerRunId : Id
  sequence : ℤ
  title : String
  allowedPaths : List String
  requiredTests : List String
  deriving DecidableEq, Repr

structure Approval where
  id : Id
  workspaceId : Id
  projectId : Id
  reason : String
  status : ApprovalStatus
  decidedAt : Time
  deriving DecidableEq, Repr

inductive TaskEventPayload where
  | taskCreated (status : TaskStatus) (plannerRunId plannerTaskDraftId : Option Id)
  | localRunStarted (localRunId repoId : Id)
  | localRunFailed (localRunId : Id) (failureReason : Option String)
  | localPatchArtifactCreated (localRunId patchArtifactId : Id) (filesChanged : List String)
  | testRunStarted (patchArtifactId testRunId : Id)
  | testRunCompleted (patchArtifactId testRunId : Id) (status : String)
      (failureReason : Option String)
  | debugAttemptCreated (patchArtifactId : Id) (reviewId testRunId : Option Id)
      (debugAttemptId : Id)
  | patchReviewCreated (patchArtifactId reviewId : Id) (testRunId : Option Id) (verdict : Verdict)
  | patchApprovalCreated (patchApprovalId patchArtifactId reviewId : Id)
  | humanApprovalRequested (patchApprovalId patchArtifactId reviewId : Id)
  | pullRequestCreated (pullRequestId patchApprovalId patchArtifactId : Id) (githubPrNumber : ℤ)
      (githubPrUrl : String)
  | cloudRunStarted (cloudRunId repoId : Id)
  | cloudRunFailed (cloudRunId localRunId : Id) (failureReason : Option String)
      (patchArtifactId : Option Id)
  | patchArtifactCreated (cloudRunId localRunId patchArtifactId : Id) (filesChanged : List String)
  | taskTransitioned (fromStatus toStatus : TaskStatus)
  deriving DecidableEq, Repr

structure TaskEvent where
  taskId : Id
  payload : TaskEventPayload
  createdAt : Time
  deriving DecidableEq, Repr

inductive Key where
  | creditWallet (workspaceId : Id)
  | spendLimit (workspaceId : Id)
  | budgetReservation (id : Id)
  | cloudRunUsage (cloudRunId : Id) (usageType : UsageType)
  | workspaceUsage (id : Id)
  | project (id : Id)
  | repository (id : Id)
  | task (id : Id)
  | taskEvent (id : Id)
  | localTaskRun (id : Id)
  | cloudRun (id : Id)
  | cloudRunLogEntry (id : Id)
  | storedObject (id : Id)
  | patchArtifact (id : Id)
  | localTestRun (id : Id)
  | patchReview (patchArtifactId : Id)
  | patchApproval (patchArtifactId : Id)
  | pullRequest (patchApprovalId : Id)
  | githubCalls (patchApprovalId : Id)
  | debugAttempt (id : Id)
  | plannerRun (id : Id)
  | plannerTaskDraft (id : Id)
  | approval (plannerRunId : Id)
  deriving DecidableEq, Repr

-- A review, an approval, a pull request or the usage of a cloud run is stored under the columns
-- its unique constraint names, usage without a cloud run under its id; what the service outside has been called with stands beside the tables.
abbrev Key.Entity : Key → Type
  | .creditWallet _ => CreditWallet
  | .spendLimit _ => SpendLimit
  | .budgetReservation _ => BudgetReservation
  | .cloudRunUsage _ _ => UsageLedgerEntry
  | .workspaceUsage _ => WorkspaceUsageEntry
  | .project _ => Project
  | .repository _ => Repository
  | .task _ => Task
  | .taskEvent _ => TaskEvent
  | .localTaskRun _ => LocalTaskRun
  | .cloudRun _ => CloudRun
  | .cloudRunLogEntry _ => CloudRunLogEntry
  | .storedObject _ => CloudRunStoredObject
  | .patchArtifact _ => PatchArtifact
  | .localTestRun _ => LocalTestRun
  | .patchReview _ => PatchReview
  | .patchApproval _ => PatchApproval
  | .pullRequest _ => PullRequestRecord
  | .githubCalls _ => List PullRequestCall
  | .debugAttempt _ => DebugAttempt
  | .plannerRun _ => PlannerRun
  | .plannerTaskDraft _ => PlannerTaskDraft
  | .approval _ => Approval

abbrev Row (k : Key) : Type := Option k.Entity

abbrev Db := Transaction.Db Row

abbrev World := Transaction.World Row

-- The attributes a flush writes are those whose new value differs from the loaded one.
def pick {α : Type} [DecidableEq α] (loaded new current : α) : α :=
  if new = loaded then current else new

@[simp] theorem pick_loaded {α : Type} [DecidableEq α] (loaded new : α) :
    pick loaded new loaded = new := by
  unfold pick
  split
  · rename_i h; exact h.symm
  · rfl

@[simp] theorem pick_same {α : Type} [DecidableEq α] (loaded current : α) :
    pick loaded loaded current = current := by simp [pick]

theorem pick_of_ne {α : Type} [DecidableEq α] {loaded new : α} (current : α) (h : new ≠ loaded) :
    pick loaded new current = new := by simp [pick,h]

def CreditWallet.flush (l n c : CreditWallet) : CreditWallet where
  balanceCents := pick l.balanceCents n.balanceCents c.balanceCents
  updatedAt := pick l.updatedAt n.updatedAt c.updatedAt

def BudgetReservation.flush (l n c : BudgetReservation) : BudgetReservation where
  workspaceId := pick l.workspaceId n.workspaceId c.workspaceId
  projectId := pick l.projectId n.projectId c.projectId
  taskId := pick l.taskId n.taskId c.taskId
  cloudRunId := pick l.cloudRunId n.cloudRunId c.cloudRunId
  reservedCents := pick l.reservedCents n.reservedCents c.reservedCents
  settledCents := pick l.settledCents n.settledCents c.settledCents
  status := pick l.status n.status c.status
  createdAt := pick l.createdAt n.createdAt c.createdAt
  updatedAt := pick l.updatedAt n.updatedAt c.updatedAt
  settledAt := pick l.settledAt n.settledAt c.settledAt

def Task.flush (l n c : Task) : Task where
  projectId := pick l.projectId n.projectId c.projectId
  status := pick l.status n.status c.status
  repoId := pick l.repoId n.repoId c.repoId
  branchName := pick l.branchName n.branchName c.branchName
  worktreeRef := pick l.worktreeRef n.worktreeRef c.worktreeRef
  updatedAt := pick l.updatedAt n.updatedAt c.updatedAt
  title := pick l.title n.title c.title
  allowedPaths := pick l.allowedPaths n.allowedPaths c.allowedPaths
  requiredTests := pick l.requiredTests n.requiredTests c.requiredTests

def LocalTaskRun.flush (l n c : LocalTaskRun) : LocalTaskRun where
  workspaceId := pick l.workspaceId n.workspaceId c.workspaceId
  projectId := pick l.projectId n.projectId c.projectId
  taskId := pick l.taskId n.taskId c.taskId
  repoId := pick l.repoId n.repoId c.repoId
  status := pick l.status n.status c.status
  runnerKind := pick l.runnerKind n.runnerKind c.runnerKind
  baseBranch := pick l.baseBranch n.baseBranch c.baseBranch
  baseSha := pick l.baseSha n.baseSha c.baseSha
  headSha := pick l.headSha n.headSha c.headSha
  worktreePath := pick l.worktreePath n.worktreePath c.worktreePath
  patchArtifactId := pick l.patchArtifactId n.patchArtifactId c.patchArtifactId
  failureReason := pick l.failureReason n.failureReason c.failureReason
  updatedAt := pick l.updatedAt n.updatedAt c.updatedAt

def CloudRun.flush (l n c : CloudRun) : CloudRun where
  workspaceId := pick l.workspaceId n.workspaceId c.workspaceId
  projectId := pick l.projectId n.projectId c.projectId
  taskId := pick l.taskId n.taskId c.taskId
  repoId := pick l.repoId n.repoId c.repoId
  localRunId := pick l.localRunId n.localRunId c.localRunId
  commandResults := pick l.commandResults n.commandResults c.commandResults
  baseBranch := pick l.baseBranch n.baseBranch c.baseBranch
  headBranch := pick l.headBranch n.headBranch c.headBranch
  status := pick l.status n.status c.status
  sandboxKind := pick l.sandboxKind n.sandboxKind c.sandboxKind
  patchArtifactId := pick l.patchArtifactId n.patchArtifactId c.patchArtifactId
  failureReason := pick l.failureReason n.failureReason c.failureReason
  cancelRequested := pick l.cancelRequested n.cancelRequested c.cancelRequested
  cancelRequestedAt := pick l.cancelRequestedAt n.cancelRequestedAt c.cancelRequestedAt
  cancelledAt := pick l.cancelledAt n.cancelledAt c.cancelledAt
  workerId := pick l.workerId n.workerId c.workerId
  claimedAt := pick l.claimedAt n.claimedAt c.claimedAt
  completedAt := pick l.completedAt n.completedAt c.completedAt
  queueProvider := pick l.queueProvider n.queueProvider c.queueProvider
  remoteWorkerKind := pick l.remoteWorkerKind n.remoteWorkerKind c.remoteWorkerKind
  leaseId := pick l.leaseId n.leaseId c.leaseId
  leaseExpiresAt := pick l.leaseExpiresAt n.leaseExpiresAt c.leaseExpiresAt
  heartbeatAt := pick l.heartbeatAt n.heartbeatAt c.heartbeatAt
  attemptCount := pick l.attemptCount n.attemptCount c.attemptCount
  maxAttempts := pick l.maxAttempts n.maxAttempts c.maxAttempts
  lastQueueError := pick l.lastQueueError n.lastQueueError c.lastQueueError
  queueMessageId := pick l.queueMessageId n.queueMessageId c.queueMessageId
  queueReceipt := pick l.queueReceipt n.queueReceipt c.queueReceipt
  runtimeProvider := pick l.runtimeProvider n.runtimeProvider c.runtimeProvider
  runtimeJobId := pick l.runtimeJobId n.runtimeJobId c.runtimeJobId
  storageProvider := pick l.storageProvider n.storageProvider c.storageProvider
  artifactManifestUri := pick l.artifactManifestUri n.artifactManifestUri c.artifactManifestUri
  artifactManifestSizeBytes :=
    pick l.artifactManifestSizeBytes n.artifactManifestSizeBytes c.artifactManifestSizeBytes
  logStreamUri := pick l.logStreamUri n.logStreamUri c.logStreamUri
  logStreamSizeBytes := pick l.logStreamSizeBytes n.logStreamSizeBytes c.logStreamSizeBytes
  externalStatus := pick l.externalStatus n.externalStatus c.externalStatus
  externalError := pick l.externalError n.externalError c.externalError
  callbackTokenHash := pick l.callbackTokenHash n.callbackTokenHash c.callbackTokenHash
  callbackTokenExpiresAt :=
    pick l.callbackTokenExpiresAt n.callbackTokenExpiresAt c.callbackTokenExpiresAt
  callbackTokenUsedAt := pick l.callbackTokenUsedAt n.callbackTokenUsedAt c.callbackTokenUsedAt
  budgetReservationId := pick l.budgetReservationId n.budgetReservationId c.budgetReservationId
  estimatedCostCents := pick l.estimatedCostCents n.estimatedCostCents c.estimatedCostCents
  actualCostCents := pick l.actualCostCents n.actualCostCents c.actualCostCents
  costSummary := pick l.costSummary n.costSummary c.costSummary
  createdAt := pick l.createdAt n.createdAt c.createdAt
  updatedAt := pick l.updatedAt n.updatedAt c.updatedAt

def PatchArtifact.flush (l n c : PatchArtifact) : PatchArtifact where
  workspaceId := pick l.workspaceId n.workspaceId c.workspaceId
  projectId := pick l.projectId n.projectId c.projectId
  taskId := pick l.taskId n.taskId c.taskId
  localRunId := pick l.localRunId n.localRunId c.localRunId
  summary := pick l.summary n.summary c.summary
  filesChanged := pick l.filesChanged n.filesChanged c.filesChanged
  testsRun := pick l.testsRun n.testsRun c.testsRun
  testResult := pick l.testResult n.testResult c.testResult
  risks := pick l.risks n.risks c.risks
  diffText := pick l.diffText n.diffText c.diffText
  createdAt := pick l.createdAt n.createdAt c.createdAt

def LocalTestRun.flush (l n c : LocalTestRun) : LocalTestRun where
  workspaceId := pick l.workspaceId n.workspaceId c.workspaceId
  projectId := pick l.projectId n.projectId c.projectId
  taskId := pick l.taskId n.taskId c.taskId
  localRunId := pick l.localRunId n.localRunId c.localRunId
  patchArtifactId := pick l.patchArtifactId n.patchArtifactId c.patchArtifactId
  status := pick l.status n.status c.status
  commands := pick l.commands n.commands c.commands
  commandResults := pick l.commandResults n.commandResults c.commandResults
  failureReason := pick l.failureReason n.failureReason c.failureReason
  completedAt := pick l.completedAt n.completedAt c.completedAt
  createdAt := pick l.createdAt n.createdAt c.createdAt

def PullRequestRecord.flush (l n c : PullRequestRecord) : PullRequestRecord where
  id := pick l.id n.id c.id
  workspaceId := pick l.workspaceId n.workspaceId c.workspaceId
  projectId := pick l.projectId n.projectId c.projectId
  taskId := pick l.taskId n.taskId c.taskId
  repoId := pick l.repoId n.repoId c.repoId
  patchArtifactId := pick l.patchArtifactId n.patchArtifactId c.patchArtifactId
  cloudRunId := pick l.cloudRunId n.cloudRunId c.cloudRunId
  headBranch := pick l.headBranch n.headBranch c.headBranch
  baseBranch := pick l.baseBranch n.baseBranch c.baseBranch
  githubPrNumber := pick l.githubPrNumber n.githubPrNumber c.githubPrNumber
  githubPrUrl := pick l.githubPrUrl n.githubPrUrl c.githubPrUrl
  status := pick l.status n.status c.status
  createdAt := pick l.createdAt n.createdAt c.createdAt

def PlannerRun.flush (l n c : PlannerRun) : PlannerRun where
  projectId := pick l.projectId n.projectId c.projectId
  status := pick l.status n.status c.status
  updatedAt := pick l.updatedAt n.updatedAt c.updatedAt

@[simp] theorem CreditWallet.flush_loaded (l n : CreditWallet) : l.flush n l = n := by
  simp [CreditWallet.flush]

@[simp] theorem BudgetReservation.flush_loaded (l n : BudgetReservation) : l.flush n l = n := by
  simp [BudgetReservation.flush]

@[simp] theorem Task.flush_loaded (l n : Task) : l.flush n l = n := by simp [Task.flush]

@[simp] theorem LocalTaskRun.flush_loaded (l n : LocalTaskRun) : l.flush n l = n := by
  simp [LocalTaskRun.flush]

@[simp] theorem CloudRun.flush_loaded (l n : CloudRun) : l.flush n l = n := by
  simp [CloudRun.flush]

@[simp] theorem PatchArtifact.flush_loaded (l n : PatchArtifact) : l.flush n l = n := by
  simp [PatchArtifact.flush]

@[simp] theorem LocalTestRun.flush_loaded (l n : LocalTestRun) : l.flush n l = n := by
  simp [LocalTestRun.flush]

@[simp] theorem PullRequestRecord.flush_loaded (l n : PullRequestRecord) : l.flush n l = n := by
  simp [PullRequestRecord.flush]

@[simp] theorem PlannerRun.flush_loaded (l n : PlannerRun) : l.flush n l = n := by
  simp [PlannerRun.flush]

def mergeEntity : ∀ k : Key, k.Entity → k.Entity → k.Entity → k.Entity
  | .creditWallet _, l, n, c => l.flush n c
  | .budgetReservation _, l, n, c => l.flush n c
  | .task _, l, n, c => l.flush n c
  | .localTaskRun _, l, n, c => l.flush n c
  | .cloudRun _, l, n, c => l.flush n c
  | .patchArtifact _, l, n, c => l.flush n c
  | .localTestRun _, l, n, c => l.flush n c
  | .pullRequest _, l, n, c => l.flush n c
  | .plannerRun _, l, n, c => l.flush n c
  | _, _, n, _ => n

theorem mergeEntity_loaded (k : Key) (l n : k.Entity) : mergeEntity k l n l = n := by
  cases k <;> simp [mergeEntity]

def mergeRow (k : Key) : Row k → Row k → Row k → Row k
  | some l, some n, some c => some (mergeEntity k l n c)
  | some _, some _, none => none
  | _, n, _ => n

theorem mergeRow_loaded (k : Key) (l n : Row k) : mergeRow k l n l = n := by
  cases l <;> cases n <;> simp [mergeRow,mergeEntity_loaded]

instance entityEq : ∀ k : Key, DecidableEq k.Entity
  | .creditWallet _ => inferInstanceAs (DecidableEq CreditWallet)
  | .spendLimit _ => inferInstanceAs (DecidableEq SpendLimit)
  | .budgetReservation _ => inferInstanceAs (DecidableEq BudgetReservation)
  | .cloudRunUsage _ _ => inferInstanceAs (DecidableEq UsageLedgerEntry)
  | .workspaceUsage _ => inferInstanceAs (DecidableEq WorkspaceUsageEntry)
  | .project _ => inferInstanceAs (DecidableEq Project)
  | .repository _ => inferInstanceAs (DecidableEq Repository)
  | .task _ => inferInstanceAs (DecidableEq Task)
  | .taskEvent _ => inferInstanceAs (DecidableEq TaskEvent)
  | .localTaskRun _ => inferInstanceAs (DecidableEq LocalTaskRun)
  | .cloudRun _ => inferInstanceAs (DecidableEq CloudRun)
  | .cloudRunLogEntry _ => inferInstanceAs (DecidableEq CloudRunLogEntry)
  | .storedObject _ => inferInstanceAs (DecidableEq CloudRunStoredObject)
  | .patchArtifact _ => inferInstanceAs (DecidableEq PatchArtifact)
  | .localTestRun _ => inferInstanceAs (DecidableEq LocalTestRun)
  | .patchReview _ => inferInstanceAs (DecidableEq PatchReview)
  | .patchApproval _ => inferInstanceAs (DecidableEq PatchApproval)
  | .pullRequest _ => inferInstanceAs (DecidableEq PullRequestRecord)
  | .githubCalls _ => inferInstanceAs (DecidableEq (List PullRequestCall))
  | .debugAttempt _ => inferInstanceAs (DecidableEq DebugAttempt)
  | .plannerRun _ => inferInstanceAs (DecidableEq PlannerRun)
  | .plannerTaskDraft _ => inferInstanceAs (DecidableEq PlannerTaskDraft)
  | .approval _ => inferInstanceAs (DecidableEq Approval)

instance : Transaction.Schema Row where
  rowEq _ := inferInstance
  merge := mergeRow
  merge_loaded := mergeRow_loaded

end AiScdc
