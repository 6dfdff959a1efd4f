import AiScdc.CloudRunner.Finalize

namespace AiScdc

variable [Digest]

structure CompletionReplies where
  oss : ArtifactRef → OssReply
  secrets : List String
  mnsDelete : MnsDelete

def readDiffs (oss : ArtifactRef → OssReply) : List ArtifactRef → Op (Option String)
  | [] => pure none
  | ref :: rest =>
    if ref.kind ≠ .diff then readDiffs oss rest
    else do
      let content ← readText oss ref
      let _ ← readDiffs oss rest
      pure (some content)

def resolveCloudRunCompletionArtifacts (cloudRunId : Id) (cloudRun : CloudRun)
    (body : CloudRunExecutionResultCreate) (oss : ArtifactRef → OssReply) :
    Op SandboxExecutionResult := do
  match ← readDiffs oss body.artifactRefs with
  | none => pure body.toSandboxExecutionResult
  | some diffText =>
    appendCloudRunLog cloudRunId cloudRun.workspaceId "info" .artifactRefResolved
    if body.diffText ≠ "" then
      appendCloudRunLog cloudRunId cloudRun.workspaceId "info" .artifactRefInlineDiffIgnored
    pure { body.toSandboxExecutionResult with diffText }

def stubCompletion (cloudRun : CloudRun) (status : ResultStatus) : Op CloudRun :=
  if cloudRun.queueProvider = .externalStub then do
    let updatedAt ← utcNow
    pure (cloudRun.externalStubCompleted status updatedAt)
  else pure cloudRun

def useCallbackToken (cloudRun : CloudRun) : Op CloudRun :=
  if cloudRun.callbackTokenHash.isSome then do
    let usedAt ← utcNow
    pure (cloudRun.callbackTokenUsed usedAt)
  else pure cloudRun

-- The first transaction of a completion: it commits the use of the callback token.
def acceptCompletion (ctx : Option AuthContext) (cred : LeaseCredentials)
    (body : CloudRunExecutionResultCreate) (replies : CompletionReplies) :
    Op (Id × CloudRun × SandboxExecutionResult) := do
  let (cloudRunId,cloudRun) ← resolveCloudRunCallbackLease cred
  let result ← resolveCloudRunCompletionArtifacts cloudRunId cloudRun body replies.oss
  let stubbed ← stubCompletion cloudRun result.status
  let used ← useCallbackToken stubbed
  let _ ← getRepository ctx cloudRun.repoId
  flush (.cloudRun cloudRunId) cloudRun used
  appendCloudRunLog cloudRunId cloudRun.workspaceId "info" .workerCompleted
  commit
  let cloudRun ← refresh (.cloudRun cloudRunId)
  pure (cloudRunId,cloudRun,result)

def completeCloudRunLease (ctx : Option AuthContext) (cred : LeaseCredentials)
    (body : CloudRunExecutionResultCreate) (replies : CompletionReplies) : Op CloudRunResult := do
  let (cloudRunId,cloudRun,result) ← acceptCompletion ctx cred body replies
  finalizeClaimedCloudRunResult ctx cloudRunId cloudRun ⟨result,replies.secrets,replies.mnsDelete⟩

structure ProcessReplies where
  profileCheck : Except (ℕ × String) Unit
  execution : Option SandboxExecutionResult
  secrets : List String
  mnsDelete : MnsDelete

def claimCloudRun (cloudRunId : Id) (workerId : String) (now : Time) : Op Bool :=
  updateWhere (.cloudRun cloudRunId) (fun cloudRun => cloudRun.status = .queued) fun cloudRun =>
    cloudRun.claimed workerId now

def checkExecution (ctx : Option AuthContext) (cloudRun : CloudRun) (replies : ProcessReplies) :
    Op Unit := do
  let _ ← getTask ctx cloudRun.taskId
  let _ ← getRepository ctx cloudRun.repoId
  let _ ← getCloudRunLocalRunOr404 cloudRun
  if cloudRun.sandboxKind = "docker_local" then
    match replies.profileCheck with
    | .ok _ => pure ()
    | .error (statusCode,detail) => httpError statusCode detail

def executionResult (cloudRun : CloudRun) (replies : ProcessReplies) : SandboxExecutionResult :=
  replies.execution.getD (executorExceptionResult cloudRun.sandboxKind)

def catchHttp {α : Type} (m : Op α) (handler : String → Op α) : Op α :=
  tryCatch m fun
    | .http _ detail => handler detail
    | e => throw e

-- The failure handler goes on in the session that the finalisation has left, with its changes.
def failFinalization (cloudRunId localRunId : Id) (replies : ProcessReplies) (detail : String) :
    Op CloudRunResult := do
  let cloudRun ← refresh (.cloudRun cloudRunId)
  let localRun ← refresh (.localTaskRun localRunId)
  markClaimedCloudRunFailed cloudRunId cloudRun localRunId localRun "cloud_run_preflight_failed"
    detail replies.mnsDelete

def executeClaimedCloudRun (ctx : Option AuthContext) (cloudRunId : Id) (cloudRun : CloudRun)
    (localRunId : Id) (localRun : LocalTaskRun) (replies : ProcessReplies) : Op CloudRunResult := do
  let refused ← catchHttp (do
    checkExecution ctx cloudRun replies
    pure none) fun detail => pure (some detail)
  match refused with
  | some detail =>
    markClaimedCloudRunFailed cloudRunId cloudRun localRunId localRun "cloud_run_preflight_failed"
      detail replies.mnsDelete
  | none =>
    catchHttp (finalizeClaimedCloudRunResult ctx cloudRunId cloudRun
        ⟨executionResult cloudRun replies,replies.secrets,replies.mnsDelete⟩)
      (failFinalization cloudRunId localRunId replies)

structure StartedRun where
  cloudRun : CloudRun
  localRunId : Id
  localRun : LocalTaskRun

-- The first transaction of process_cloud_run.
def startCloudRun (ctx : Option AuthContext) (cloudRunId : Id) (workerId : String) :
    Op StartedRun := do
  let cloudRun ← getCloudRunOr404 ctx cloudRunId
  requireAuditedPermissionIfAuthenticated ctx
  if cloudRun.status ≠ .queued then httpError 409 "Cloud run is not queued"
  let (localRunId,localRun) ← getCloudRunLocalRunOr404 cloudRun
  let now ← utcNow
  if ← claimCloudRun cloudRunId workerId now then
    let cloudRun ← refresh (.cloudRun cloudRunId)
    flush (.localTaskRun localRunId) localRun (localRun.moved .running now)
    let logClock ← utcNow
    appendCloudRunLogAt cloudRunId cloudRun.workspaceId "info" .claimed (logClock + 1)
    appendCloudRunLogAt cloudRunId cloudRun.workspaceId "info" .started (logClock + 2)
    let eventClock ← utcNow
    createTaskEvent cloudRun.taskId (.cloudRunStarted cloudRunId cloudRun.repoId) (eventClock + 1)
    commit
    let cloudRun ← refresh (.cloudRun cloudRunId)
    let localRun ← refresh (.localTaskRun localRunId)
    pure ⟨cloudRun,localRunId,localRun⟩
  else
    rollback
    httpError 409 "Cloud run is not queued"

def processCloudRun (ctx : Option AuthContext) (cloudRunId : Id) (workerId : String)
    (replies : ProcessReplies) : Op CloudRunResult := do
  let started ← startCloudRun ctx cloudRunId workerId
  let result ← executeClaimedCloudRun ctx cloudRunId started.cloudRun started.localRunId
    started.localRun replies
  commit
  pure result

def cancelQueuedCloudRun (cloudRunId : Id) (now : Time) : Op Bool :=
  updateWhere (.cloudRun cloudRunId) (fun cloudRun => cloudRun.status = .queued) fun cloudRun =>
    cloudRun.cancelledWhileQueued now

def requestRunningCloudRunCancel (cloudRunId : Id) (now : Time) : Op Bool :=
  updateWhere (.cloudRun cloudRunId)
    (fun cloudRun => cloudRun.status = .running && cloudRun.completedAt.isNone)
    fun cloudRun => cloudRun.cancelAsked now

def requestRunningCloudRunCancelAndLog (ctx : Option AuthContext) (cloudRunId : Id) (now : Time) :
    Op CloudRun := do
  if ← requestRunningCloudRunCancel cloudRunId now then
    let cloudRun ← getCloudRunOr404 ctx cloudRunId
    appendCloudRunLog cloudRunId cloudRun.workspaceId "info" .cancelRequested
    commit
    refresh (.cloudRun cloudRunId)
  else
    rollback
    getCloudRunOr404 ctx cloudRunId

def finishQueuedCancel (cloudRunId : Id) (now : Time) : Op CloudRun := do
  let cloudRun ← refresh (.cloudRun cloudRunId)
  let revoked := cloudRun.callbackTokenRevoked now
  let (localRunId,localRun) ← getCloudRunLocalRunOr404 cloudRun
  flush (.localTaskRun localRunId) localRun (localRun.moved .cancelled now)
  flush (.cloudRun cloudRunId) cloudRun revoked
  appendCloudRunLog cloudRunId cloudRun.workspaceId "info" .cancelled
  let released ← releaseCloudRunReservation revoked
  flush (.cloudRun cloudRunId) revoked released
  commit
  refresh (.cloudRun cloudRunId)

def cancelCloudRun (ctx : Option AuthContext) (cloudRunId : Id) : Op CloudRun := do
  let cloudRun ← getCloudRunOr404 ctx cloudRunId
  requireAuditedPermissionIfAuthenticated ctx
  if cloudRun.status.terminal then
    commit
    pure cloudRun
  else
    let now ← utcNow
    if cloudRun.status = .queued then
      if ← cancelQueuedCloudRun cloudRunId now then
        let cancelled ← finishQueuedCancel cloudRunId now
        commit
        pure cancelled
      else
        rollback
        let cloudRun ← getCloudRunOr404 ctx cloudRunId
        if cloudRun.status.terminal then
          commit
          pure cloudRun
        else
          let now ← utcNow
          let asked ← requestRunningCloudRunCancelAndLog ctx cloudRunId now
          commit
          pure asked
    else
      let asked ← requestRunningCloudRunCancelAndLog ctx cloudRunId now
      commit
      pure asked

end AiScdc
