import AiScdc.Budgeting
import AiScdc.ObjectStorage
import AiScdc.TaskState

namespace AiScdc

def RunStatus.terminal : RunStatus → Bool
  | .patchReady | .failed | .cancelled => true
  | .queued | .running => false

def defaultLeaseClaimCandidateLimit : ℕ := 25
def defaultMaxAttempts : ℕ := 3
def callbackTokenLifetime : ℤ := 3600000000

def seconds (n : ℕ) : ℤ := n * 1000000

structure CloudRunCreate where
  repoId : Id
  sandboxProfileId : Option Id
  queueProvider : QueueProvider
  runtimeProvider : Option RuntimeProvider
  storageProvider : Option StorageProvider
  deriving DecidableEq, Repr

def newCloudRun (task : Task) (taskId : Id) (repository : Repository) (data : CloudRunCreate)
    (sandboxKind : String) (reservationId : Id) (reservedCents : ℤ) (createdAt : Time) : CloudRun where
  workspaceId := repository.workspaceId
  projectId := task.projectId
  taskId := taskId
  repoId := data.repoId
  localRunId := none
  commandResults := []
  baseBranch := repository.defaultBranch
  headBranch := ""
  status := .queued
  sandboxKind := sandboxKind
  patchArtifactId := none
  failureReason := none
  cancelRequested := false
  cancelRequestedAt := none
  cancelledAt := none
  workerId := none
  claimedAt := none
  completedAt := none
  queueProvider := data.queueProvider
  remoteWorkerKind := none
  leaseId := none
  leaseExpiresAt := none
  heartbeatAt := none
  attemptCount := 0
  maxAttempts := defaultMaxAttempts
  lastQueueError := none
  queueMessageId := none
  queueReceipt := none
  runtimeProvider := data.runtimeProvider
  runtimeJobId := none
  storageProvider := data.storageProvider
  artifactManifestUri := none
  artifactManifestSizeBytes := none
  logStreamUri := none
  logStreamSizeBytes := none
  externalStatus := none
  externalError := none
  callbackTokenHash := none
  callbackTokenExpiresAt := none
  callbackTokenUsedAt := none
  budgetReservationId := some reservationId
  estimatedCostCents := reservedCents
  actualCostCents := 0
  costSummary := { reservationId := some reservationId, reservedCents := some reservedCents }
  createdAt := createdAt
  updatedAt := createdAt

def newLocalTaskRun (task : Task) (taskId : Id) (repository : Repository) (repoId : Id)
    (sandboxKind : String) (now : Time) : LocalTaskRun where
  workspaceId := repository.workspaceId
  projectId := task.projectId
  taskId := taskId
  repoId := repoId
  status := .queued
  runnerKind := sandboxKind
  baseBranch := repository.defaultBranch
  baseSha := none
  headSha := none
  worktreePath := none
  patchArtifactId := none
  failureReason := none
  updatedAt := now

namespace CloudRun

variable (c : CloudRun)

def linked (headBranch : String) (localRunId : Id) (now : Time) : CloudRun :=
  { c with headBranch, localRunId := some localRunId, updatedAt := now }

def guarded (workerId callbackTokenHash : String) (expiresAt : Time) : CloudRun :=
  { c with
    workerId := some workerId
    callbackTokenHash := some callbackTokenHash
    callbackTokenExpiresAt := some expiresAt
    callbackTokenUsedAt := none }

def queueEnqueueFailed (detail : String) (now : Time) : CloudRun :=
  { c with
    status := .failed
    failureReason := some "queue_enqueue_failed"
    lastQueueError := some "queue_enqueue_failed"
    externalStatus := some "failed"
    externalError := some detail
    completedAt := some now
    updatedAt := now }

def enqueued (queueMessageId queueReceipt externalStatus : Option String) (now : Time) : CloudRun :=
  { c with
    queueMessageId, queueReceipt
    externalStatus := externalStatus.or c.externalStatus
    updatedAt := now }

def touched (now : Time) : CloudRun := { c with updatedAt := now }

def runtimeSubmissionFailed (detail : String) (now : Time) : CloudRun :=
  { c with
    status := .failed
    failureReason := some "runtime_submission_failed"
    externalStatus := some "failed"
    externalError := some detail
    completedAt := some now
    updatedAt := now }

def runtimeSubmitted (runtimeJobId : String) (manifest log : Option ObjectStorageRef) : CloudRun :=
  { c with
    runtimeJobId := some runtimeJobId
    artifactManifestUri := manifest.map ObjectStorageRef.uri
    logStreamUri := log.map ObjectStorageRef.uri
    externalStatus := some "submitted"
    artifactManifestSizeBytes :=
      (manifest.map ObjectStorageRef.sizeBytes).or c.artifactManifestSizeBytes
    logStreamSizeBytes := (log.map ObjectStorageRef.sizeBytes).or c.logStreamSizeBytes }

def claimed (workerId : String) (now : Time) : CloudRun :=
  { c with status := .running, workerId := some workerId, claimedAt := some now, updatedAt := now }

def leased (workerId workerKind : String) (leaseId : Id) (leaseExpiresAt now : Time) : CloudRun :=
  { c with
    status := .running
    remoteWorkerKind := some workerKind
    workerId := some workerId
    leaseId := some leaseId
    leaseExpiresAt := some leaseExpiresAt
    heartbeatAt := some now
    attemptCount := c.attemptCount + 1
    claimedAt := some now
    lastQueueError := none
    updatedAt := now }

def externalStubClaimed (cloudRunId leaseId : Id) (now : Time) : CloudRun :=
  { c with
    queueMessageId := c.queueMessageId.or (some s!"external-stub-message-{cloudRunText cloudRunId}")
    queueReceipt := some s!"external-stub-receipt-lease_{leaseId}"
    externalStatus := some "claimed"
    updatedAt := now }

def mnsMessageClaimed (queueReceipt : String) (now : Time) : CloudRun :=
  { c with
    queueReceipt := some queueReceipt
    externalStatus := some "mns_message_claimed"
    updatedAt := now }

def heartbeat (leaseExpiresAt now : Time) : CloudRun :=
  { c with heartbeatAt := some now, leaseExpiresAt := some leaseExpiresAt, updatedAt := now }

def attemptsExhausted (now : Time) : CloudRun :=
  { c with
    status := .failed
    failureReason := some "lease_attempts_exhausted"
    lastQueueError := some "lease_attempts_exhausted"
    queueReceipt := if c.queueProvider = .externalStub then none else c.queueReceipt
    externalStatus := if c.queueProvider = .externalStub then some "failed" else c.externalStatus
    completedAt := some now
    updatedAt := now }

def requeued (now : Time) : CloudRun :=
  { c with
    status := .queued
    workerId := none
    leaseId := none
    leaseExpiresAt := none
    heartbeatAt := none
    lastQueueError := none
    queueReceipt := if c.queueProvider = .externalStub then none else c.queueReceipt
    externalStatus := if c.queueProvider = .externalStub then some "requeued" else c.externalStatus
    updatedAt := now }

def externalStubCompleted (status : ResultStatus) (now : Time) : CloudRun :=
  { c with
    queueReceipt := none
    externalStatus := some (if status = .patchReady then "completed" else "failed")
    updatedAt := now }

def callbackTokenUsed (now : Time) : CloudRun := { c with callbackTokenUsedAt := some now }

def preflightFailed (failureReason message : String) (now : Time) : CloudRun :=
  { c with
    status := .failed
    failureReason := some failureReason
    commandResults := [⟨"cloud run preflight",some 1,"",message,0,false⟩]
    completedAt := some now
    updatedAt := now }

def cancelledAfterExecution (commandResults : List CommandResult) (now : Time) : CloudRun :=
  { c with
    status := .cancelled
    patchArtifactId := none
    commandResults
    failureReason := none
    cancelRequested := true
    cancelRequestedAt := c.cancelRequestedAt.or (some now)
    cancelledAt := c.cancelledAt.or (some now)
    completedAt := some now
    updatedAt := now
    callbackTokenUsedAt := if c.callbackTokenHash.isSome then c.callbackTokenUsedAt.or (some now)
      else c.callbackTokenUsedAt }

def resultRecorded (status : ResultStatus) (patchArtifactId : Option Id)
    (commandResults : List CommandResult) (failureReason : Option String) (now : Time) : CloudRun :=
  { c with
    status := status.runStatus
    patchArtifactId := patchArtifactId.or c.patchArtifactId
    commandResults, failureReason
    completedAt := some now
    updatedAt := now }

def cancelledWhileQueued (now : Time) : CloudRun :=
  { c with
    status := .cancelled
    cancelRequested := true
    cancelRequestedAt := some now
    cancelledAt := some now
    completedAt := some now
    updatedAt := now }

def cancelAsked (now : Time) : CloudRun :=
  { c with
    cancelRequested := true
    cancelRequestedAt := c.cancelRequestedAt.or (some now)
    updatedAt := now }

def callbackTokenRevoked (now : Time) : CloudRun :=
  { c with callbackTokenUsedAt := if c.callbackTokenHash.isSome then c.callbackTokenUsedAt.or (some now)
      else c.callbackTokenUsedAt }

def mnsMessageDeleted (now : Time) : CloudRun :=
  { c with queueReceipt := none, externalStatus := some "mns_message_deleted", updatedAt := now }

def mnsMessageDeleteFailed (now : Time) : CloudRun :=
  { c with externalStatus := some "mns_message_delete_failed", updatedAt := now }

end CloudRun

namespace LocalTaskRun

variable (l : LocalTaskRun)

def moved (status : RunStatus) (now : Time) : LocalTaskRun := { l with status, updatedAt := now }

def failed (failureReason : String) (now : Time) : LocalTaskRun :=
  { l with status := .failed, failureReason := some failureReason, updatedAt := now }

def cancelledAfterExecution (now : Time) : LocalTaskRun :=
  { l with status := .cancelled, patchArtifactId := none, failureReason := none, updatedAt := now }

def executed (result : SandboxExecutionResult) : LocalTaskRun :=
  { l with
    runnerKind := result.runnerKind
    baseSha := result.baseSha
    headSha := result.headSha
    worktreePath := result.worktreeRef }

def resultRecorded (status : ResultStatus) (patchArtifactId : Option Id)
    (failureReason : Option String) (now : Time) : LocalTaskRun :=
  { l with
    status := status.runStatus
    patchArtifactId := patchArtifactId.or l.patchArtifactId
    failureReason
    updatedAt := now }

end LocalTaskRun

def refresh (k : Key) : Op k.Entity := do
  match ← get k with
  | some row => pure row
  | none => .throw (.unhandled "InvalidRequestError")

def appendCloudRunLogAt (cloudRunId workspaceId : Id) (level : String) (event : LogEvent)
    (createdAt : Time) : Op Unit := do
  let entryId ← freshId
  insert (.cloudRunLogEntry entryId) { cloudRunId, workspaceId, level, event, createdAt }

def appendCloudRunLog (cloudRunId workspaceId : Id) (level : String) (event : LogEvent) :
    Op Unit := do
  let createdAt ← utcNow
  appendCloudRunLogAt cloudRunId workspaceId level event createdAt

def createTaskEvent (taskId : Id) (payload : TaskEventPayload) (createdAt : Time) : Op Unit := do
  let eventId ← freshId
  insert (.taskEvent eventId) { taskId, payload, createdAt }

def getCloudRunOr404 (ctx : Option AuthContext) (cloudRunId : Id) : Op CloudRun := do
  let cloudRun ← getOr404 (.cloudRun cloudRunId) "Cloud run not found"
  enforceWorkspaceAccess ctx cloudRun.workspaceId "Cloud run not found"
  pure cloudRun

def getCloudRunLocalRunOr404 (cloudRun : CloudRun) : Op (Id × LocalTaskRun) :=
  match cloudRun.localRunId with
  | none => httpError 404 "Cloud run local run not found"
  | some localRunId => do
    let localRun ← getOr404 (.localTaskRun localRunId) "Cloud run local run not found"
    pure (localRunId,localRun)

structure CloudRunResult where
  cloudRunId : Id
  cloudRun : CloudRun
  patchArtifact : Option PatchArtifact

end AiScdc
