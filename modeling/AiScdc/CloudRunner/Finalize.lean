import AiScdc.CloudRunner.Lease

namespace AiScdc

variable [Digest]

inductive MnsDelete where
  | deleted
  | failed
  | misconfigured (name : String)
  deriving DecidableEq, Repr

def ackMnsQueueReceiptAfterTerminalCommit (cloudRunId : Id) (cloudRun : CloudRun)
    (mnsDelete : MnsDelete) : Op CloudRun :=
  if cloudRun.queueProvider ≠ .aliyunMns ∨ !isPresent cloudRun.queueReceipt then pure cloudRun
  else
    match mnsDelete with
    | .misconfigured name => .throw (.unhandled name)
    | .deleted => do
      let updatedAt ← utcNow
      flush (.cloudRun cloudRunId) cloudRun (cloudRun.mnsMessageDeleted updatedAt)
      commit
      refresh (.cloudRun cloudRunId)
    | .failed => do
      let updatedAt ← utcNow
      flush (.cloudRun cloudRunId) cloudRun (cloudRun.mnsMessageDeleteFailed updatedAt)
      commit
      refresh (.cloudRun cloudRunId)

-- The end that every finalisation shares: budget, commit and acknowledgement.
def settleAndCommit (cloudRunId : Id) (cloudRun : CloudRun) (mnsDelete : MnsDelete) :
    Op CloudRun := do
  let settled ← settleCloudRunBudget cloudRunId cloudRun
  flush (.cloudRun cloudRunId) cloudRun settled
  commit
  let cloudRun ← refresh (.cloudRun cloudRunId)
  ackMnsQueueReceiptAfterTerminalCommit cloudRunId cloudRun mnsDelete

def markClaimedCloudRunFailed (cloudRunId : Id) (cloudRun : CloudRun) (localRunId : Id)
    (localRun : LocalTaskRun) (failureReason message : String) (mnsDelete : MnsDelete) :
    Op CloudRunResult := do
  let completedAt ← utcNow
  flush (.localTaskRun localRunId) localRun (localRun.failed failureReason completedAt)
  let failed := cloudRun.preflightFailed failureReason message completedAt
  flush (.cloudRun cloudRunId) cloudRun failed
  appendCloudRunLog cloudRunId cloudRun.workspaceId "error" .failed
  appendCloudRunLog cloudRunId cloudRun.workspaceId "info" .completed
  let cloudRun ← settleAndCommit cloudRunId failed mnsDelete
  pure ⟨cloudRunId,cloudRun,none⟩

structure ReloadedRun where
  cloudRun : CloudRun
  taskId : Id
  task : Task
  repoId : Id
  localRunId : Id
  localRun : LocalTaskRun

def reloadClaimedCloudRun (ctx : Option AuthContext) (cloudRunId taskId : Id) : Op ReloadedRun := do
  rollback
  let cloudRun ← getCloudRunOr404 ctx cloudRunId
  let task ← getTask ctx taskId
  let _ ← getRepository ctx cloudRun.repoId
  let (localRunId,localRun) ← getCloudRunLocalRunOr404 cloudRun
  pure ⟨cloudRun,taskId,task,cloudRun.repoId,localRunId,localRun⟩

structure FinalizeInput where
  result : SandboxExecutionResult
  secrets : List String
  mnsDelete : MnsDelete

def FinalizeInput.allPayloads (input : FinalizeInput) : List CommandResult :=
  commandResultPayloads (input.result.commandResults ++ input.result.testCommandResults)
    input.secrets

def markClaimedCloudRunCancelled (cloudRunId : Id) (run : ReloadedRun) (input : FinalizeInput) :
    Op CloudRunResult := do
  let clock ← utcNow
  let completedAt ← utcNow
  flush (.localTaskRun run.localRunId) run.localRun
    ((run.localRun.executed input.result).cancelledAfterExecution completedAt)
  let cancelled := run.cloudRun.cancelledAfterExecution input.allPayloads completedAt
  flush (.cloudRun cloudRunId) run.cloudRun cancelled
  appendCloudRunLogAt cloudRunId run.cloudRun.workspaceId "info" .cancelled (clock + 1)
  appendCloudRunLogAt cloudRunId run.cloudRun.workspaceId "info" .completed (clock + 2)
  let cloudRun ← settleAndCommit cloudRunId cancelled input.mnsDelete
  pure ⟨cloudRunId,cloudRun,none⟩

def claimCloudRunFinalization (cloudRunId : Id) (now : Time) : Op Bool :=
  updateWhere (.cloudRun cloudRunId)
    (fun cloudRun =>
      cloudRun.status = .running && cloudRun.completedAt.isNone && !cloudRun.cancelRequested)
    fun cloudRun => cloudRun.touched now

-- The session is left with the changes of the reload, which only a later commit would write.
def existingCloudRunResult (cloudRunId : Id) (run : ReloadedRun) (input : FinalizeInput) :
    Op CloudRunResult := do
  flush (.localTaskRun run.localRunId) run.localRun (run.localRun.executed input.result)
  match run.cloudRun.patchArtifactId with
  | none => pure ⟨cloudRunId,run.cloudRun,none⟩
  | some artifactId =>
    let artifact ← get (.patchArtifact artifactId)
    pure ⟨cloudRunId,run.cloudRun,artifact⟩

def finalizationLost (ctx : Option AuthContext) (cloudRunId taskId : Id) (input : FinalizeInput) :
    Op CloudRunResult := do
  rollback
  let run ← reloadClaimedCloudRun ctx cloudRunId taskId
  if run.cloudRun.cancelRequested then markClaimedCloudRunCancelled cloudRunId run input
  else existingCloudRunResult cloudRunId run input

def insertLocalTestRun (workspaceId taskId : Id) (task : Task) (localRunId : Id)
    (patchArtifactId : Option Id) (input : FinalizeInput) : Op Unit :=
  if input.result.testCommandResults = [] then pure ()
  else do
    let testRunId ← freshId
    let completedAt ← utcNow
    let createdAt ← utcNow
    insert (.localTestRun testRunId)
      { workspaceId, projectId := task.projectId, taskId, localRunId,
        patchArtifactId, status := input.result.testResult, commands := input.result.testsRun,
        commandResults := commandResultPayloads input.result.testCommandResults input.secrets,
        failureReason := input.result.failureReason, completedAt := some completedAt, createdAt }

-- The test run of a failed execution keeps the default of its workspace column.
def finalizeFailed (cloudRunId : Id) (run : ReloadedRun) (cloudRun : CloudRun)
    (input : FinalizeInput) (eventClock logClock : Time) : Op CloudRunResult := do
  insertLocalTestRun devWorkspaceId run.taskId run.task run.localRunId none input
  let updatedAt ← utcNow
  flush (.localTaskRun run.localRunId) (run.localRun.executed input.result)
    ((run.localRun.executed input.result).resultRecorded input.result.status none
      input.result.failureReason updatedAt)
  let completedAt ← utcNow
  let failed := cloudRun.resultRecorded input.result.status none input.allPayloads
    input.result.failureReason completedAt
  flush (.cloudRun cloudRunId) cloudRun failed
  createTaskEvent run.taskId
    (.cloudRunFailed cloudRunId run.localRunId input.result.failureReason none) (eventClock + 1)
  appendCloudRunLogAt cloudRunId cloudRun.workspaceId "error" .failed (logClock + 1)
  appendCloudRunLogAt cloudRunId cloudRun.workspaceId "info" .completed (logClock + 2)
  let cloudRun ← settleAndCommit cloudRunId failed input.mnsDelete
  pure ⟨cloudRunId,cloudRun,none⟩

def quoted (texts : List String) : String :=
  "[" ++ String.intercalate ", " (texts.map fun t => s!"'{t}'") ++ "]"

def allowedNextStatuses (current : TaskStatus) : List String :=
  (current.transitions.map TaskStatus.text).insertionSort (· ≤ ·)

def invalidTaskTransitionText (current requested : TaskStatus) : String :=
  let transition := s!"{current.text} -> {requested.text}"
  let allowed := quoted (allowedNextStatuses current)
  match validateTransition current requested .system with
  | .error (.terminal _ _) =>
    s!"Invalid task transition {transition}; terminal status cannot transition; allowed={allowed}"
  | _ => s!"Invalid task transition {transition}; allowed={allowed}"

-- Python's text of the detail object, as str(exc.detail) gives it to the failure handler.
def transitionDetail (current requested : TaskStatus) : String :=
  let message := invalidTaskTransitionText current requested
  let quote := if current.transitions = [] then "'" else "\""
  "\x7b'message': " ++ quote ++ message ++ quote ++
    s!", 'current_status': '{current.text}', 'requested_status': '{requested.text}'" ++
    ", 'allowed_next_statuses': " ++ quoted (allowedNextStatuses current) ++ "\x7d"

def transitionTaskForCloudRunner (taskId : Id) (task : Task) (requested : TaskStatus)
    (createdAt : Time) : Op Task :=
  match validateTransition task.status requested .system with
  | .error _ => httpError 400 (transitionDetail task.status requested)
  | .ok nextStatus => do
    let updatedAt ← utcNow
    let moved := { task with status := nextStatus, updatedAt }
    flush (.task taskId) task moved
    createTaskEvent taskId (.taskTransitioned task.status nextStatus) createdAt
    pure moved

def transitionPath : TaskStatus → List TaskStatus
  | .created => [.assigned,.inProgress,.patchReady]
  | .assigned | .fixRequested => [.inProgress,.patchReady]
  | .patchReady => []
  | _ => [.patchReady]

def transitionTaskAlong (taskId : Id) (task : Task) (eventClock : Time) : List TaskStatus → Op Unit
  | [] => pure ()
  | requested :: rest => do
    let moved ← transitionTaskForCloudRunner taskId task requested (eventClock + 1)
    transitionTaskAlong taskId moved (eventClock + 1) rest

def transitionTaskToPatchReady (taskId : Id) (task : Task) (eventClock : Time) : Op Unit :=
  transitionTaskAlong taskId task eventClock (transitionPath task.status)

def patchArtifactOf (cloudRun : CloudRun) (taskId : Id) (task : Task) (localRunId : Id)
    (result : SandboxExecutionResult) (createdAt : Time) : PatchArtifact where
  workspaceId := cloudRun.workspaceId
  projectId := task.projectId
  taskId := taskId
  localRunId := localRunId
  summary := result.summary
  filesChanged := result.filesChanged
  testsRun := result.testsRun
  testResult := result.testResult
  risks := result.risks
  diffText := result.diffText
  createdAt := createdAt

def patchEvents (cloudRunId taskId : Id) (localRunId artifactId : Id)
    (result : SandboxExecutionResult) (eventClock : Time) : Op Time := do
  createTaskEvent taskId
    (.patchArtifactCreated cloudRunId localRunId artifactId result.filesChanged) (eventClock + 1)
  if result.status = .failed then
    createTaskEvent taskId
      (.cloudRunFailed cloudRunId localRunId result.failureReason (some artifactId)) (eventClock + 2)
    pure (eventClock + 2)
  else pure (eventClock + 1)

def patchLog (cloudRunId workspaceId : Id) (status : ResultStatus) (logClock : Time) : Op Unit :=
  if status = .patchReady then
    appendCloudRunLogAt cloudRunId workspaceId "info" .patchReady (logClock + 1)
  else appendCloudRunLogAt cloudRunId workspaceId "error" .failed (logClock + 1)

def finalizePatched (cloudRunId : Id) (run : ReloadedRun) (cloudRun : CloudRun)
    (input : FinalizeInput) (eventClock logClock : Time) : Op CloudRunResult := do
  let result := input.result
  let artifactId ← freshId
  let createdAt ← utcNow
  let artifact := patchArtifactOf cloudRun run.taskId run.task run.localRunId result createdAt
  insert (.patchArtifact artifactId) artifact
  insertLocalTestRun cloudRun.workspaceId run.taskId run.task run.localRunId (some artifactId) input
  let updatedAt ← utcNow
  flush (.localTaskRun run.localRunId) (run.localRun.executed result)
    ((run.localRun.executed result).resultRecorded result.status (some artifactId)
      result.failureReason updatedAt)
  let completedAt ← utcNow
  let patched := cloudRun.resultRecorded result.status (some artifactId)
    (commandResultPayloads result.commandResults input.secrets) result.failureReason completedAt
  flush (.cloudRun cloudRunId) cloudRun patched
  let eventTime ← patchEvents cloudRunId run.taskId run.localRunId artifactId result eventClock
  patchLog cloudRunId cloudRun.workspaceId result.status logClock
  appendCloudRunLogAt cloudRunId cloudRun.workspaceId "info" .completed (logClock + 2)
  let task := { run.task with
    repoId := some run.repoId
    branchName := some cloudRun.headBranch
    worktreeRef := result.worktreeRef }
  flush (.task run.taskId) run.task task
  transitionTaskToPatchReady run.taskId task eventTime
  let cloudRun ← settleAndCommit cloudRunId patched input.mnsDelete
  pure ⟨cloudRunId,cloudRun,some artifact⟩

def finalizeClaimedCloudRunResult (ctx : Option AuthContext) (cloudRunId : Id)
    (cloudRun : CloudRun) (input : FinalizeInput) : Op CloudRunResult := do
  let taskId := cloudRun.taskId
  let run ← reloadClaimedCloudRun ctx cloudRunId taskId
  if run.cloudRun.cancelRequested then markClaimedCloudRunCancelled cloudRunId run input
  else
    let run ← reloadClaimedCloudRun ctx cloudRunId taskId
    let eventClock ← utcNow
    let logClock ← utcNow
    if run.cloudRun.cancelRequested then markClaimedCloudRunCancelled cloudRunId run input
    else
      let now ← utcNow
      flush (.localTaskRun run.localRunId) run.localRun (run.localRun.executed input.result)
      if ← claimCloudRunFinalization cloudRunId now then
        let cloudRun ← refresh (.cloudRun cloudRunId)
        if shouldCreatePatchArtifact input.result then
          finalizePatched cloudRunId run cloudRun input eventClock logClock
        else finalizeFailed cloudRunId run cloudRun input eventClock logClock
      else finalizationLost ctx cloudRunId taskId input

end AiScdc
