import AiScdc.Workflow.Paths
import AiScdc.Workflow.Tasks

namespace AiScdc

def getPatchArtifactEntity (ctx : Option AuthContext) (patchArtifactId : Id) : Op PatchArtifact := do
  let artifact ← getOr404 (.patchArtifact patchArtifactId) "Patch artifact not found"
  enforceWorkspaceAccess ctx artifact.workspaceId "Patch artifact not found"
  pure artifact

def getLocalRunEntity (ctx : Option AuthContext) (localRunId : Id) : Op LocalTaskRun := do
  let localRun ← getOr404 (.localTaskRun localRunId) "Local task run not found"
  enforceWorkspaceAccess ctx localRun.workspaceId "Local task run not found"
  pure localRun

def getTestRunEntity (ctx : Option AuthContext) (testRunId : Id) : Op LocalTestRun := do
  let testRun ← getOr404 (.localTestRun testRunId) "Local test run not found"
  enforceWorkspaceAccess ctx testRun.workspaceId "Local test run not found"
  pure testRun

def newTestRun (artifact : PatchArtifact) (task : Task) (patchArtifactId : Id) (status : String)
    (commands : List String) (completedAt : Option Time) (createdAt : Time) : LocalTestRun where
  workspaceId := artifact.workspaceId
  projectId := task.projectId
  taskId := artifact.taskId
  localRunId := artifact.localRunId
  patchArtifactId := some patchArtifactId
  status := status
  commands := commands
  commandResults := []
  failureReason := none
  completedAt := completedAt
  createdAt := createdAt

def LocalTestRun.completed (testRun : LocalTestRun) (status : String)
    (commandResults : List CommandResult) (failureReason : Option String) (now : Time) :
    LocalTestRun :=
  { testRun with status, commandResults, failureReason, completedAt := some now }

def PatchArtifact.tested (artifact : PatchArtifact) (commands : List String) (status : String) :
    PatchArtifact :=
  { artifact with
    testsRun := commands
    testResult := if status = "passed" then "passed" else "failed" }

structure TestedPatch where
  testRunId : Id
  testRun : LocalTestRun
  artifact : PatchArtifact

def completeTestRun (testRunId patchArtifactId : Id) (testRun : LocalTestRun)
    (artifact : PatchArtifact) (status : String) (commandResults : List CommandResult)
    (failureReason : Option String) : Op TestedPatch := do
  let now ← utcNow
  let completed := testRun.completed status commandResults failureReason now
  let tested := artifact.tested testRun.commands status
  flush (.localTestRun testRunId) testRun completed
  flush (.patchArtifact patchArtifactId) artifact tested
  pure ⟨testRunId,completed,tested⟩

def failureReasonOf : List CommandResult → String
  | [] => "Test command failed."
  | result :: rest =>
    if result.exitCode = some 0 then failureReasonOf rest
    else
      let stderr := strip result.stderr.toList
      let detail := if stderr = [] then strip result.stdout.toList else stderr
      if detail = [] then s!"Test command failed: {result.command}"
      else s!"Test command failed: {result.command}: {String.ofList detail}"

structure DebugFindings where
  reviewId : Option Id
  testRunId : Option Id
  rootCause : String
  fixSummary : String := "Fix the failing test command output, then rerun local tests."

def createDebugAttempt (eventTime : Time) (taskId : Id) (task : Task) (patchArtifactId : Id)
    (artifact : PatchArtifact) (findings : DebugFindings) : Op DebugAttempt := do
  let debugAttemptId ← freshId
  let createdAt ← utcNow
  let attempt : DebugAttempt :=
    { workspaceId := artifact.workspaceId, projectId := task.projectId, taskId,
      patchArtifactId, reviewId := findings.reviewId, testRunId := findings.testRunId,
      rootCause := findings.rootCause, fixSummary := findings.fixSummary, createdAt }
  insert (.debugAttempt debugAttemptId) attempt
  createTaskEvent taskId
    (.debugAttemptCreated patchArtifactId findings.reviewId findings.testRunId debugAttemptId)
    eventTime
  pure attempt

inductive TestRunnerReply where
  | error (detail : String)
  | result (status : String) (commandResults : List CommandResult)
  deriving DecidableEq, Repr

structure PatchTestRunResult where
  task : Task
  patchArtifact : PatchArtifact
  testRun : LocalTestRun
  debugAttempt : Option DebugAttempt

def readPatchTestRun (taskId patchArtifactId testRunId : Id) (debugAttempt : Option DebugAttempt) :
    Op PatchTestRunResult := do
  let task ← refresh (.task taskId)
  let artifact ← refresh (.patchArtifact patchArtifactId)
  let testRun ← refresh (.localTestRun testRunId)
  pure ⟨task,artifact,testRun,debugAttempt⟩

-- The start of a test run: its row, its event and the move to SELF_TESTING.
def beginTestRun (eventClock : Time) (patchArtifactId : Id) (artifact : PatchArtifact) (task : Task)
    (commands : List String) : Op (Id × LocalTestRun × Task) := do
  let testRunId ← freshId
  let createdAt ← utcNow
  let testRun := newTestRun artifact task patchArtifactId "running" commands none createdAt
  insert (.localTestRun testRunId) testRun
  createTaskEvent artifact.taskId (.testRunStarted patchArtifactId testRunId) (eventClock + 1)
  let task ← transitionTaskForWorkflow (eventClock + 2) artifact.taskId task .selfTesting
  pure (testRunId,testRun,task)

def cloudFakeResults (commands : List String) : List CommandResult :=
  commands.map fun command => ⟨command,some 0,"cloud fake test passed","",0,false⟩

def startCloudFakeTestRun (patchArtifactId : Id) (artifact : PatchArtifact) (task : Task) :
    Op PatchTestRunResult := do
  let eventClock ← utcNow
  let commands := if task.requiredTests = [] then ["cloud fake test"] else task.requiredTests
  let (testRunId,testRun,task) ← beginTestRun eventClock patchArtifactId artifact task commands
  let tested ← completeTestRun testRunId patchArtifactId testRun artifact "passed"
    (cloudFakeResults commands) none
  createTaskEvent artifact.taskId
    (.testRunCompleted patchArtifactId testRunId tested.testRun.status none) (eventClock + 3)
  let _ ← transitionTaskForWorkflow (eventClock + 4) artifact.taskId task .reviewing
  commit
  readPatchTestRun artifact.taskId patchArtifactId testRunId none

def newerTestRun (a b : Id × LocalTestRun) : Bool :=
  b.2.createdAt < a.2.createdAt || (a.2.createdAt = b.2.createdAt && b.1 ≤ a.1)

def latestOf (testRuns : List (Id × LocalTestRun)) : Option (Id × LocalTestRun) :=
  testRuns.foldr (fun a best =>
    match best with
    | none => some a
    | some b => if newerTestRun a b then some a else some b) none

def latestTestRun (patchArtifactId : Id) : Op (Option (Id × LocalTestRun)) := do
  let testRuns ← selectWhere .localTestRun fun id testRun =>
    if testRun.patchArtifactId = some patchArtifactId then some (id,testRun) else none
  pure (latestOf testRuns)

def latestTestRunForLocalRun (patchArtifactId localRunId : Id) :
    Op (Option (Id × LocalTestRun)) := do
  let testRuns ← selectWhere .localTestRun fun id testRun =>
    if testRun.patchArtifactId = some patchArtifactId ∧ testRun.localRunId = localRunId then
      some (id,testRun)
    else none
  pure (latestOf testRuns)

def persistedDockerTestRun (patchArtifactId : Id) (artifact : PatchArtifact) (task : Task) :
    Op (Id × LocalTestRun) := do
  match ← latestTestRunForLocalRun patchArtifactId artifact.localRunId with
  | some testRun => pure testRun
  | none =>
    let completedAt ← utcNow
    let testRunId ← freshId
    let createdAt ← utcNow
    let testRun := newTestRun artifact task patchArtifactId "passed" [] (some completedAt) createdAt
    insert (.localTestRun testRunId) testRun
    pure (testRunId,testRun)

def dockerRootCause (testRun : LocalTestRun) : String :=
  let reason := failureReasonOf testRun.commandResults
  if reason = "Test command failed." then
    match testRun.failureReason with
    | some text => if text = "" then reason else text
    | none => reason
  else reason

-- The end of a test run: to REVIEWING, or a debug attempt and back to FIX_REQUESTED.
def concludeTestRun (eventClock : Time) (taskId patchArtifactId : Id) (artifact : PatchArtifact)
    (task : Task) (testRunId : Id) (passed : Bool) (rootCause : String) :
    Op (Option DebugAttempt) :=
  if passed then do
    let _ ← transitionTaskForWorkflow (eventClock + 1) taskId task .reviewing
    pure none
  else do
    let attempt ← createDebugAttempt (eventClock + 1) taskId task patchArtifactId artifact
      { reviewId := none, testRunId := some testRunId, rootCause }
    let _ ← transitionTaskForWorkflow (eventClock + 2) taskId task .fixRequested
    pure (some attempt)

def startPersistedDockerTestRun (patchArtifactId : Id) (artifact : PatchArtifact) (task : Task) :
    Op PatchTestRunResult := do
  let (testRunId,testRun) ← persistedDockerTestRun patchArtifactId artifact task
  let eventClock ← utcNow
  createTaskEvent artifact.taskId (.testRunStarted patchArtifactId testRunId) (eventClock + 1)
  let task ← transitionTaskForWorkflow (eventClock + 2) artifact.taskId task .selfTesting
  let tested ← completeTestRun testRunId patchArtifactId testRun artifact testRun.status
    testRun.commandResults testRun.failureReason
  createTaskEvent artifact.taskId
    (.testRunCompleted patchArtifactId testRunId tested.testRun.status tested.testRun.failureReason)
    (eventClock + 3)
  let debugAttempt ← concludeTestRun (eventClock + 3) artifact.taskId patchArtifactId tested.artifact task
    testRunId (tested.testRun.status = "passed") (dockerRootCause tested.testRun)
  commit
  readPatchTestRun artifact.taskId patchArtifactId testRunId debugAttempt

structure TestOutcome where
  status : String
  commandResults : List CommandResult
  failureReason : Option String
  reported : Option String
  rootCause : String

def TestRunnerReply.outcome : TestRunnerReply → TestOutcome
  | .error detail => ⟨"failed",[],some detail,some detail,s!"Test command failed: {detail}"⟩
  | .result status commandResults =>
    let reason := if status = "failed" then some (failureReasonOf commandResults) else none
    ⟨status,commandResults,reason,none,reason.getD "Test command failed."⟩

-- The second transaction of a local test run, after the commands have run.
def recordTestRun (ctx : Option AuthContext) (eventClock : Time) (patchArtifactId taskId testRunId : Id)
    (outcome : TestOutcome) : Op PatchTestRunResult := do
  let task ← getTask ctx taskId
  let artifact ← getPatchArtifactEntity ctx patchArtifactId
  let testRun ← getTestRunEntity ctx testRunId
  let tested ← completeTestRun testRunId patchArtifactId testRun artifact outcome.status
    outcome.commandResults outcome.failureReason
  createTaskEvent taskId
    (.testRunCompleted patchArtifactId testRunId tested.testRun.status outcome.reported)
    (eventClock + 3)
  let debugAttempt ← concludeTestRun (eventClock + 3) taskId patchArtifactId tested.artifact task testRunId
    (outcome.status = "passed") outcome.rootCause
  commit
  readPatchTestRun taskId patchArtifactId testRunId debugAttempt

def startLocalTestRun (ctx : Option AuthContext) (patchArtifactId : Id) (artifact : PatchArtifact)
    (task : Task) (reply : TestRunnerReply) : Op PatchTestRunResult := do
  let eventClock ← utcNow
  let (testRunId,_) ← beginTestRun eventClock patchArtifactId artifact task task.requiredTests
  commit
  recordTestRun ctx eventClock patchArtifactId artifact.taskId testRunId reply.outcome

def startPatchTestRun (ctx : Option AuthContext) (patchArtifactId : Id) (reply : TestRunnerReply) :
    Op PatchTestRunResult := do
  let artifact ← getPatchArtifactEntity ctx patchArtifactId
  let task ← getTask ctx artifact.taskId
  requireAuditedPermissionIfAuthenticated ctx
  requireStatus task .patchReady "Task must be PATCH_READY before tests can run"
  let localRun ← getLocalRunEntity ctx artifact.localRunId
  if localRun.runnerKind = "cloud_fake" then
    let result ← startCloudFakeTestRun patchArtifactId artifact task
    commit
    pure result
  else if localRun.runnerKind = "docker_local" then
    let result ← startPersistedDockerTestRun patchArtifactId artifact task
    commit
    pure result
  else if localRun.worktreePath.getD "" = "" then
    httpError 400 "Local run has no worktree_path"
  else startLocalTestRun ctx patchArtifactId artifact task reply

def ReviewIssue.code : ReviewIssue → String
  | .missingDiffText => "missing_diff_text"
  | .noChangedFiles => "no_changed_files"
  | .changedFileOutsideAllowedPaths _ => "changed_file_outside_allowed_paths"
  | .missingPassingTestRun => "missing_passing_test_run"
  | .latestTestRunNotPassed _ => "latest_test_run_not_passed"

def ReviewIssue.message : ReviewIssue → String
  | .missingDiffText => "Patch artifact diff_text is missing."
  | .noChangedFiles => "Patch artifact has no changed files."
  | .changedFileOutsideAllowedPaths message => message
  | .missingPassingTestRun => "No latest local test run is linked to this patch artifact."
  | .latestTestRunNotPassed status => s!"Latest local test run did not pass: {status}."

def diffIssues (artifact : PatchArtifact) : List ReviewIssue :=
  if isBlank artifact.diffText then [.missingDiffText] else []

def pathIssues (task : Task) (artifact : PatchArtifact) : List ReviewIssue :=
  if artifact.filesChanged = [] then [.noChangedFiles]
  else
    match ensureChangedFilesAllowed artifact.filesChanged task.allowedPaths with
    | .error message => [.changedFileOutsideAllowedPaths message]
    | .ok _ => []

def testIssues : Option (Id × LocalTestRun) → List ReviewIssue
  | none => [.missingPassingTestRun]
  | some (_,testRun) =>
    if testRun.status = "passed" then [] else [.latestTestRunNotPassed testRun.status]

def deterministicReviewIssues (task : Task) (artifact : PatchArtifact)
    (latest : Option (Id × LocalTestRun)) : List ReviewIssue :=
  diffIssues artifact ++ pathIssues task artifact ++ testIssues latest

def reviewRootCause (issues : List ReviewIssue) : String :=
  "deterministic review requested changes: " ++
    String.intercalate "; " (issues.map ReviewIssue.message)

structure PatchReviewResult where
  task : Task
  patchArtifact : PatchArtifact
  review : PatchReview
  debugAttempt : Option DebugAttempt

def reviewResultRead (ctx : Option AuthContext) (patchArtifactId : Id) (review : PatchReview) :
    Op PatchReviewResult := do
  let task ← getTask ctx review.taskId
  let artifact ← getPatchArtifactEntity ctx patchArtifactId
  let attempts ← selectWhere .debugAttempt fun _ attempt =>
    if attempt.reviewId = some review.id then some attempt else none
  pure ⟨task,artifact,review,attempts.head?⟩

def patchReviewOf (reviewId : Id) (artifact : PatchArtifact) (task : Task)
    (latest : Option (Id × LocalTestRun)) (createdAt : Time) : PatchReview where
  id := reviewId
  workspaceId := artifact.workspaceId
  projectId := task.projectId
  taskId := artifact.taskId
  localRunId := artifact.localRunId
  testRunId := latest.map Prod.fst
  verdict := if deterministicReviewIssues task artifact latest = [] then .approved
    else .changesRequested
  issues := deterministicReviewIssues task artifact latest
  createdAt := createdAt

def catchIntegrityError {α : Type} (m : Op α) (handler : Op α) : Op α :=
  tryCatch m fun
    | .integrityError => handler
    | e => throw e

def concludeReview (eventClock : Time) (patchArtifactId : Id) (artifact : PatchArtifact) (task : Task)
    (review : PatchReview) : Op Unit :=
  if review.verdict = .approved then do
    let _ ← transitionTaskForWorkflow (eventClock + 2) artifact.taskId task .approved
  else do
    let _ ← createDebugAttempt (eventClock + 2) artifact.taskId task patchArtifactId artifact
      { reviewId := some review.id, testRunId := review.testRunId,
        rootCause := reviewRootCause review.issues,
        fixSummary := "Address deterministic review findings, then rerun local tests." }
    let _ ← transitionTaskForWorkflow (eventClock + 3) artifact.taskId task .fixRequested

def insertPatchReview (eventClock : Time) (patchArtifactId : Id) (artifact : PatchArtifact)
    (task : Task) (latest : Option (Id × LocalTestRun)) : Op PatchReview := do
  let reviewId ← freshId
  let createdAt ← utcNow
  let review := patchReviewOf reviewId artifact task latest createdAt
  insert (.patchReview patchArtifactId) review
  createTaskEvent artifact.taskId
    (.patchReviewCreated patchArtifactId reviewId review.testRunId review.verdict) (eventClock + 1)
  concludeReview eventClock patchArtifactId artifact task review
  commit
  pure review

def reviewConflict (ctx : Option AuthContext) (patchArtifactId : Id) : Op PatchReviewResult := do
  rollback
  match ← get (.patchReview patchArtifactId) with
  | some review => reviewResultRead ctx patchArtifactId review
  | none => httpError 409 "Patch review could not be created because of a uniqueness conflict"

def startPatchReview (ctx : Option AuthContext) (patchArtifactId : Id) : Op PatchReviewResult := do
  let artifact ← getPatchArtifactEntity ctx patchArtifactId
  requireAuditedPermissionIfAuthenticated ctx
  match ← get (.patchReview patchArtifactId) with
  | some review =>
    let result ← reviewResultRead ctx patchArtifactId review
    commit
    pure result
  | none =>
    let task ← getTask ctx artifact.taskId
    requireStatus task .reviewing "Task must be REVIEWING before review can run"
    let eventClock ← utcNow
    let latest ← latestTestRun patchArtifactId
    let created ← catchIntegrityError (do
      let review ← insertPatchReview eventClock patchArtifactId artifact task latest
      pure (Sum.inl review)) (do
      let result ← reviewConflict ctx patchArtifactId
      pure (Sum.inr result))
    match created with
    | .inr result => pure result
    | .inl _ =>
      let review ← refresh (.patchReview patchArtifactId)
      commit
      reviewResultRead ctx patchArtifactId review

end AiScdc
