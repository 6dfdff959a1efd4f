import AiScdc.Transaction.Interrupted
import AiScdc.Workflow.TestReview

namespace AiScdc
open Transaction

-- What other requests commit while the tests run: transitions of tasks.
abbrev TaskMoves := ℕ → Id → Task → TaskStatus × Time

def TaskMoves.commits (moves : TaskMoves) (n : ℕ) (db : Db) : Db
  | .task id => (db (.task id)).map fun task =>
      { task with status := (moves n id task).1, updatedAt := (moves n id task).2 }
  | k => db k

-- The result type of RUN_TESTS admits two statuses.
def TestRunnerReply.Typed : TestRunnerReply → Prop
  | .error _ => True
  | .result status _ => status = "passed" ∨ status = "failed"

def TestOutcome.requested (outcome : TestOutcome) : TaskStatus :=
  if outcome.status = "passed" then .reviewing else .fixRequested

def LocalTestRun.Closed (testRun : LocalTestRun) : Prop :=
  testRun.status ≠ "running" ∧ testRun.completedAt ≠ none

structure LaunchedTests where
  eventClock : Time
  taskId : Id
  testRunId : Id

-- The request up to the run of the commands, or to its end where it runs none.
def launchPatchTestRun (ctx : Option AuthContext) (patchArtifactId : Id) :
    Op (LaunchedTests ⊕ PatchTestRunResult) := do
  let artifact ← getPatchArtifactEntity ctx patchArtifactId
  let task ← getTask ctx artifact.taskId
  requireAuditedPermissionIfAuthenticated ctx
  requireStatus task .patchReady "Task must be PATCH_READY before tests can run"
  let localRun ← getLocalRunEntity ctx artifact.localRunId
  if localRun.runnerKind = "cloud_fake" then
    let result ← startCloudFakeTestRun patchArtifactId artifact task
    commit
    pure (.inr result)
  else if localRun.runnerKind = "docker_local" then
    let result ← startPersistedDockerTestRun patchArtifactId artifact task
    commit
    pure (.inr result)
  else if localRun.worktreePath.getD "" = "" then
    httpError 400 "Local run has no worktree_path"
  else
    let eventClock ← utcNow
    let (testRunId,_) ← beginTestRun eventClock patchArtifactId artifact task task.requiredTests
    commit
    pure (.inl ⟨eventClock,artifact.taskId,testRunId⟩)

def finishPatchTestRun (ctx : Option AuthContext) (patchArtifactId : Id) (reply : TestRunnerReply) :
    LaunchedTests ⊕ PatchTestRunResult → Op PatchTestRunResult
  | .inl launched => recordTestRun ctx launched.eventClock patchArtifactId launched.taskId
      launched.testRunId reply.outcome
  | .inr result => pure result

theorem startPatchTestRun_eq (ctx : Option AuthContext) (patchArtifactId : Id)
    (reply : TestRunnerReply) : startPatchTestRun ctx patchArtifactId reply =
      launchPatchTestRun ctx patchArtifactId >>= finishPatchTestRun ctx patchArtifactId reply := by
  simp only [startPatchTestRun,launchPatchTestRun,bind_assoc]
  refine bind_congr fun artifact => bind_congr fun task => bind_congr fun _ => bind_congr fun _ =>
    bind_congr fun localRun => ?_
  split
  · simp [finishPatchTestRun]
  · split
    · simp [finishPatchTestRun]
    · split
      · rfl
      · simp [finishPatchTestRun,startLocalTestRun]

-- Whatever the request says at its end, the test runs it has left behind are closed.
def TestRunEnds {α : Type} (base : Db) (ending : Except Exn α × Transaction.Session Row) : Prop :=
  (∀ e, ending.1 = .error e → e.isHttp = true) → ∀ id testRun, base (.localTestRun id) = none →
    ending.2.world.db (.localTestRun id) = some testRun → testRun.Closed

-- The task, as the request finds it after the commands have run, may take the step it then asks for.
def RereadPermits (moves : TaskMoves) (clock : ℕ → Time) (ctx : Option AuthContext)
    (patchArtifactId : Id) (reply : TestRunnerReply) (s : Transaction.Session Row) : Prop :=
  ∀ launched s', interrupted moves.commits clock (launchPatchTestRun ctx patchArtifactId) s =
      (.ok (.inl launched),s') →
    ∀ task, (s'.met moves.commits).world.db (.task launched.taskId) = some task →
      validateTransition task.status reply.outcome.requested .system = .ok reply.outcome.requested

def Key.isTask : Key → Bool
  | .task _ => true
  | _ => false

structure TasksMoved (w w' : World) : Prop where
  next : w'.next = w.next
  same : ∀ k : Key, k.isTask = false → w'.db k = w.db k
  task : ∀ id task, w.db (.task id) = some task →
    ∃ task', w'.db (.task id) = some task' ∧ task'.projectId = task.projectId

def otherRequests : Discipline Row where
  rely := TasksMoved
  guar _ _ := True
  fresh _ _ _ _ := True

theorem TaskMoves.rely (moves : TaskMoves) (s : Transaction.Session Row) :
    otherRequests.rely s.world (s.met moves.commits).world := by
  constructor
  · rfl
  · intro k hk
    cases k <;> simp_all [Session.met,TaskMoves.commits,Key.isTask]
  · intro id task htask
    cases hp : s.pend (.task id) with
    | none => simp [Session.met,TaskMoves.commits,hp,htask]
    | some x => exact ⟨task,by simp [Session.met,hp,htask],rfl⟩

end AiScdc
