import AiScdc.Workflow.Tasks

namespace AiScdc

structure LocalRunnerResult where
  summary : String
  filesChanged : List String
  testsRun : List String
  testResult : String
  risks : List String
  diffText : String
  worktreePath : String
  baseSha : String
  headSha : String
  deriving DecidableEq, Repr

def LocalTaskRun.patched (localRun : LocalTaskRun) (result : LocalRunnerResult) (artifactId : Id)
    (now : Time) : LocalTaskRun :=
  { localRun with
    status := .patchReady
    baseSha := some result.baseSha
    headSha := some result.headSha
    worktreePath := some result.worktreePath
    patchArtifactId := some artifactId
    updatedAt := now }

def localPatchArtifact (localRun : LocalTaskRun) (task : Task) (localRunId : Id)
    (result : LocalRunnerResult) (createdAt : Time) : PatchArtifact where
  workspaceId := localRun.workspaceId
  projectId := task.projectId
  taskId := localRun.taskId
  localRunId := localRunId
  summary := result.summary
  filesChanged := result.filesChanged
  testsRun := result.testsRun
  testResult := result.testResult
  risks := result.risks
  diffText := result.diffText
  createdAt := createdAt

def failLocalRun (eventClock : Time) (localRunId : Id) (localRun : LocalTaskRun) (task : Task)
    (detail : String) : Op Unit := do
  let updatedAt ← utcNow
  flush (.localTaskRun localRunId) localRun (localRun.failed detail updatedAt)
  createTaskEvent localRun.taskId (.localRunFailed localRunId (some detail)) (eventClock + 4)
  let _ ← transitionTaskForLocalRunner (eventClock + 5) localRun.taskId task .fixRequested
  commit

def patchLocalRun (eventClock : Time) (localRunId : Id) (localRun : LocalTaskRun) (task : Task)
    (repository : Repository) (result : LocalRunnerResult) : Op Unit := do
  let artifactId ← freshId
  let createdAt ← utcNow
  insert (.patchArtifact artifactId) (localPatchArtifact localRun task localRunId result createdAt)
  let updatedAt ← utcNow
  flush (.localTaskRun localRunId) localRun (localRun.patched result artifactId updatedAt)
  createTaskEvent localRun.taskId
    (.localPatchArtifactCreated localRunId artifactId result.filesChanged) (eventClock + 4)
  let linked := { task with
    repoId := some localRun.repoId
    branchName := some repository.defaultBranch
    worktreeRef := some result.worktreePath }
  flush (.task localRun.taskId) task linked
  let _ ← transitionTaskForLocalRunner (eventClock + 5) localRun.taskId linked .patchReady
  commit

-- The whole local run is one transaction.
def startLocalTaskRun (ctx : Option AuthContext) (taskId repoId : Id)
    (reply : Except String LocalRunnerResult) : Op LocalTaskRun := do
  let task ← getTask ctx taskId
  let repository ← getRepository ctx repoId
  requireAuditedPermissionIfAuthenticated ctx
  if repository.projectId ≠ task.projectId then
    httpError 400 "Repository does not belong to task project"
  else
    let eventClock ← utcNow
    let localRunId ← freshId
    let now ← utcNow
    let localRun := newLocalTaskRun task taskId repository repoId "local_worktree" now
    insert (.localTaskRun localRunId) localRun
    createTaskEvent taskId (.localRunStarted localRunId repoId) (eventClock + 1)
    let task ← transitionTaskForLocalRunner (eventClock + 2) taskId task .assigned
    let task ← transitionTaskForLocalRunner (eventClock + 3) taskId task .inProgress
    match reply with
    | .error detail => failLocalRun eventClock localRunId localRun task detail
    | .ok result => patchLocalRun eventClock localRunId localRun task repository result
    refresh (.localTaskRun localRunId)

end AiScdc
