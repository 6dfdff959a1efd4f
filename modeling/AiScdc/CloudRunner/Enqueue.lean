import AiScdc.CloudRunner.Rows

namespace AiScdc

variable [Digest]

inductive QueueReply where
  | sent (messageId : Option String)
  | refused
  deriving DecidableEq, Repr

inductive EciReply where
  | created (containerGroupId manifestPath logPath : String)
  | refused
  deriving DecidableEq, Repr

-- What the configuration, the sandbox profile and the services outside answer to one enqueue.
structure EnqueueReplies where
  sandboxKind : String
  profileCheck : Except (ℕ × String) Unit
  mnsSettings : Except String Unit
  ossSettings : Except String Unit
  eciSettings : Except String Unit
  callbackToken : String
  queue : QueueReply
  runtime : EciReply
  manifestText : String

def getCloudQueueProvider : QueueProvider → Except String Unit
  | .other name => .error s!"Unknown cloud queue provider: {name}"
  | _ => .ok ()

def getObjectStorageProvider : Option StorageProvider → Except String Unit
  | some (.other name) => .error s!"Unknown object storage provider: {name}"
  | _ => .ok ()

def getRemoteRuntimeProvider : Option RuntimeProvider → Except String Unit
  | some (.other name) => .error s!"Unknown remote runtime provider: {name}"
  | _ => .ok ()

def orHttp400 : Except String Unit → Op Unit
  | .ok _ => pure ()
  | .error detail => httpError 400 detail

def validateProviderSettings (data : CloudRunCreate) (replies : EnqueueReplies) : Op Unit := do
  orHttp400 (getCloudQueueProvider data.queueProvider)
  orHttp400 (getObjectStorageProvider data.storageProvider)
  orHttp400 (getRemoteRuntimeProvider data.runtimeProvider)
  orHttp400 (if data.queueProvider = .aliyunMns then replies.mnsSettings else .ok ())
  orHttp400 (if data.storageProvider = some .aliyunOss then replies.ossSettings else .ok ())
  orHttp400 (if data.runtimeProvider = some .aliyunEci then replies.eciSettings else .ok ())

def validateCloudRunProviderSelection (data : CloudRunCreate) (replies : EnqueueReplies) :
    Op Unit :=
  if data.queueProvider = .aliyunMns ∧ data.runtimeProvider = none ∧ data.storageProvider = none then
    httpError 400 "Aliyun MNS pull cloud runs require storage_provider"
  else validateProviderSettings data replies

def validateSandboxProfile (data : CloudRunCreate) (replies : EnqueueReplies) : Op Unit :=
  if replies.sandboxKind = "docker_local" ∨ data.runtimeProvider.isSome then
    match data.sandboxProfileId with
    | none =>
      if data.runtimeProvider.isSome then
        httpError 400 "Remote runtime cloud runs require a sandbox profile"
      else httpError 400 "Docker cloud runs require a sandbox profile"
    | some _ =>
      match replies.profileCheck with
      | .ok _ => pure ()
      | .error (statusCode,detail) => httpError statusCode detail
  else pure ()

def remoteRuntimeWorkerId (runtimeProvider : RuntimeProvider) (cloudRunId : Id) : String :=
  match runtimeProvider with
  | .aliyunEci => s!"aliyun-eci-{cloudRunText cloudRunId}"
  | .remoteStub => s!"remote_stub-{cloudRunText cloudRunId}"
  | .other name => s!"{name}-{cloudRunText cloudRunId}"

def protectedWorkerId (data : CloudRunCreate) (cloudRunId : Id) : Option String :=
  match data.runtimeProvider with
  | some runtimeProvider => some (remoteRuntimeWorkerId runtimeProvider cloudRunId)
  | none =>
    if data.queueProvider = .aliyunMns then some s!"aliyun-mns-{cloudRunText cloudRunId}" else none

def shouldEnqueueCloudQueueMessage (data : CloudRunCreate) : Bool :=
  !(data.queueProvider = .aliyunMns && data.runtimeProvider = some .aliyunEci)

structure CloudQueueEnqueueResult where
  queueMessageId : Option String := none
  queueReceipt : Option String := none
  externalStatus : Option String := none

def queueEnqueue (provider : QueueProvider) (replies : EnqueueReplies) :
    Op (Except String CloudQueueEnqueueResult) :=
  match provider with
  | .aliyunMns =>
    match replies.mnsSettings with
    | .error name => .throw (.unhandled name)
    | .ok _ =>
      match replies.queue with
      | .refused => pure (.error "Cloud queue provider aliyun_mns failed to enqueue message")
      | .sent messageId =>
        pure (.ok { queueMessageId := messageId, externalStatus := some "queued" })
  | .externalStub => pure (.ok { externalStatus := some "queued" })
  | .localDb => pure (.ok {})
  | .other name => .throw (.unhandled s!"Unknown cloud queue provider: {name}")

structure RemoteRuntimeSubmission where
  runtimeJobId : String
  manifest : Option ObjectStorageRef
  log : Option ObjectStorageRef

def submitRemoteStub (cloudRunId : Id) (cloudRun : CloudRun) (replies : EnqueueReplies) :
    Op RemoteRuntimeSubmission := do
  let runtimeJobId := s!"remote-stub-job-{cloudRunText cloudRunId}"
  if cloudRun.storageProvider = some .localInline then
    let manifest ← putLocalInline ⟨cloudRun.workspaceId,cloudRunId,.manifest,replies.manifestText⟩
    let log ← putLocalInline
      ⟨cloudRun.workspaceId,cloudRunId,.log,"Remote runtime submitted via remote_stub.\n"⟩
    pure ⟨runtimeJobId,some manifest,some log⟩
  else pure ⟨runtimeJobId,none,none⟩

def submitAliyunEci (cloudRunId : Id) (cloudRun : CloudRun) (replies : EnqueueReplies) :
    Op (Except String RemoteRuntimeSubmission) :=
  match replies.eciSettings with
  | .error name => .throw (.unhandled name)
  | .ok _ =>
    match replies.runtime with
    | .refused =>
      pure (.error "Cloud runtime provider aliyun_eci failed to submit container group")
    | .created containerGroupId manifestPath logPath =>
      if cloudRun.storageProvider = some .aliyunOss then do
        let manifest ← putOss
          ⟨cloudRun.workspaceId,cloudRunId,.manifest,replies.manifestText⟩ manifestPath
        let log ← putOss
          ⟨cloudRun.workspaceId,cloudRunId,.log,"Remote runtime submitted via aliyun_eci.\n"⟩ logPath
        pure (.ok ⟨containerGroupId,some manifest,some log⟩)
      else pure (.ok ⟨containerGroupId,none,none⟩)

def submitRemoteRuntime (runtimeProvider : RuntimeProvider) (cloudRunId : Id) (cloudRun : CloudRun)
    (replies : EnqueueReplies) : Op (Except String RemoteRuntimeSubmission) :=
  match runtimeProvider with
  | .remoteStub => do
    let submission ← submitRemoteStub cloudRunId cloudRun replies
    pure (.ok submission)
  | .aliyunEci => submitAliyunEci cloudRunId cloudRun replies
  | .other name => .throw (.unhandled s!"Unknown remote runtime provider: {name}")

structure QueuedCloudRun where
  cloudRunId : Id
  cloudRun : CloudRun
  localRunId : Id
  localRun : LocalTaskRun

-- The first transaction of enqueue_cloud_run: reservation, run, local run and log in one commit.
def createQueuedCloudRun (ctx : Option AuthContext) (taskId : Id) (task : Task)
    (repository : Repository) (data : CloudRunCreate) (sandboxKind : String) :
    Op QueuedCloudRun := do
  let (reservationId,reservation) ← reserveCloudRunBudget ctx task.projectId taskId
  let cloudRunId ← freshId
  let createdAt ← utcNow
  let created := newCloudRun task taskId repository data sandboxKind reservationId
    reservation.reservedCents createdAt
  insert (.cloudRun cloudRunId) created
  let reservedAt ← utcNow
  flush (.budgetReservation reservationId) reservation
    { reservation with cloudRunId := some cloudRunId, updatedAt := reservedAt }
  let localRunId ← freshId
  let startedAt ← utcNow
  insert (.localTaskRun localRunId)
    (newLocalTaskRun task taskId repository data.repoId sandboxKind startedAt)
  let updatedAt ← utcNow
  let headBranch := s!"ai-scdc/task-task_{taskId}-{cloudRunText cloudRunId}"
  flush (.cloudRun cloudRunId) created (created.linked headBranch localRunId updatedAt)
  appendCloudRunLog cloudRunId repository.workspaceId "info" .queued
  commit
  let cloudRun ← refresh (.cloudRun cloudRunId)
  let localRun ← refresh (.localTaskRun localRunId)
  pure ⟨cloudRunId,cloudRun,localRunId,localRun⟩

def protectCloudRun (data : CloudRunCreate) (callbackToken : String) (cloudRunId : Id)
    (cloudRun : CloudRun) : Op CloudRun :=
  match protectedWorkerId data cloudRunId with
  | none => pure cloudRun
  | some workerId => do
    let now ← utcNow
    flush (.cloudRun cloudRunId) cloudRun (cloudRun.guarded workerId
      (hashCallbackToken cloudRunId workerId callbackToken) (now + callbackTokenLifetime))
    commit
    refresh (.cloudRun cloudRunId)

def failQueueEnqueue (queued : QueuedCloudRun) (cloudRun : CloudRun) (detail : String) :
    Op CloudRun := do
  let completedAt ← utcNow
  let failed := cloudRun.queueEnqueueFailed detail completedAt
  flush (.cloudRun queued.cloudRunId) cloudRun failed
  flush (.localTaskRun queued.localRunId) queued.localRun
    (queued.localRun.failed "queue_enqueue_failed" completedAt)
  appendCloudRunLog queued.cloudRunId cloudRun.workspaceId "error" .queueEnqueueFailed
  let released ← releaseCloudRunReservation failed
  flush (.cloudRun queued.cloudRunId) failed released
  commit
  httpError 502 detail

def recordQueueResult (queued : QueuedCloudRun) (cloudRun : CloudRun) :
    Except String CloudQueueEnqueueResult → Op CloudRun
  | .error detail => failQueueEnqueue queued cloudRun detail
  | .ok result => do
    let updatedAt ← utcNow
    flush (.cloudRun queued.cloudRunId) cloudRun (cloudRun.enqueued result.queueMessageId
      result.queueReceipt result.externalStatus updatedAt)
    commit
    refresh (.cloudRun queued.cloudRunId)

def sendQueueMessage (data : CloudRunCreate) (replies : EnqueueReplies) (queued : QueuedCloudRun)
    (cloudRun : CloudRun) : Op CloudRun := do
  let result ← (if shouldEnqueueCloudQueueMessage data then
      queueEnqueue data.queueProvider replies
    else do
      appendCloudRunLog queued.cloudRunId cloudRun.workspaceId "info" .queueEnqueueSkipped
      pure (.ok { queueMessageId := cloudRun.queueMessageId, queueReceipt := cloudRun.queueReceipt }) :
    Op (Except String CloudQueueEnqueueResult))
  recordQueueResult queued cloudRun result

def failRuntimeSubmission (ctx : Option AuthContext) (cloudRunId : Id) (detail : String) :
    Op CloudRun := do
  rollback
  let cloudRun ← getCloudRunOr404 ctx cloudRunId
  let (localRunId,localRun) ← getCloudRunLocalRunOr404 cloudRun
  let completedAt ← utcNow
  let failed := cloudRun.runtimeSubmissionFailed detail completedAt
  flush (.cloudRun cloudRunId) cloudRun failed
  flush (.localTaskRun localRunId) localRun (localRun.failed "runtime_submission_failed" completedAt)
  appendCloudRunLog cloudRunId cloudRun.workspaceId "error" .remoteRuntimeSubmissionFailed
  let settled ← settleCloudRunBudget cloudRunId failed
  flush (.cloudRun cloudRunId) failed settled
  commit
  httpError 400 detail

def submitToRuntime (ctx : Option AuthContext) (data : CloudRunCreate) (replies : EnqueueReplies)
    (cloudRunId : Id) (cloudRun : CloudRun) : Op Unit :=
  match data.runtimeProvider with
  | none => pure ()
  | some runtimeProvider => do
    let updatedAt ← utcNow
    match ← submitRemoteRuntime runtimeProvider cloudRunId (cloudRun.touched updatedAt) replies with
    | .error detail =>
      let _ ← failRuntimeSubmission ctx cloudRunId detail
    | .ok submission =>
      flush (.cloudRun cloudRunId) cloudRun ((cloudRun.touched updatedAt).runtimeSubmitted
        submission.runtimeJobId submission.manifest submission.log)
      appendCloudRunLog cloudRunId cloudRun.workspaceId "info" .remoteRuntimeSubmitted

def validateRepository (task : Task) (repository : Repository) : Op Unit :=
  if repository.projectId ≠ task.projectId then
    httpError 400 "Repository does not belong to task project"
  else if repository.provider ≠ "github" then
    httpError 400 "Cloud runs require a GitHub repository"
  else if repository.connectionStatus ≠ "active" then
    httpError 400 "GitHub repository is not active"
  else pure ()

-- What enqueue_cloud_run does once every check has passed.
def queueCloudRun (ctx : Option AuthContext) (taskId : Id) (task : Task) (repository : Repository)
    (data : CloudRunCreate) (replies : EnqueueReplies) : Op CloudRunResult := do
  let queued ← createQueuedCloudRun ctx taskId task repository data replies.sandboxKind
  let guarded ← protectCloudRun data replies.callbackToken queued.cloudRunId queued.cloudRun
  let sent ← sendQueueMessage data replies queued guarded
  submitToRuntime ctx data replies queued.cloudRunId sent
  commit
  let cloudRun ← refresh (.cloudRun queued.cloudRunId)
  pure ⟨queued.cloudRunId,cloudRun,none⟩

def enqueueCloudRun (ctx : Option AuthContext) (taskId : Id) (data : CloudRunCreate)
    (replies : EnqueueReplies) : Op CloudRunResult := do
  let task ← getTask ctx taskId
  let repository ← getRepository ctx data.repoId
  requireAuditedPermissionIfAuthenticated ctx
  validateRepository task repository
  validateCloudRunProviderSelection data replies
  validateSandboxProfile data replies
  queueCloudRun ctx taskId task repository data replies

end AiScdc
