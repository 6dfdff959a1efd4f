import AiScdc.LocalRunner.AllowedPaths
import AiScdc.Text.Lines

namespace AiScdc.RemoteWorker

open TextLines (splitLines)

-- A value of the payload by what `if value` and `str(value)` make of it.
inductive PyValue where
  | null
  | value (truthy : Bool) (text : String)
  deriving DecidableEq, Repr

def PyValue.orElse (default : String) : PyValue → String
  | .value true text => text
  | _ => default

structure WorkerPayload where
  cloudRunId : String
  cloneToken : PyValue
  env : List (String × PyValue)
  baseBranch : PyValue
  patchCommand : PyValue
  testCommands : List PyValue
  allowedPaths : List String
  deriving DecidableEq, Repr

structure RemoteProcessResult where
  command : String
  exitCode : Option ℤ
  stdout : String
  stderr : String
  durationMs : ℤ
  timedOut : Bool
  deriving DecidableEq, Repr

inductive ProcessOutcome where
  | completed (exitCode : ℤ) (stdout stderr : String) (durationMs : ℤ)
  | timedOut (stdout stderr : String) (durationMs : ℤ)
  | raised
  deriving DecidableEq, Repr

inductive CheckoutOutcome where
  | ok
  | runtimeError (message : String)
  | raised
  deriving DecidableEq, Repr

-- The n-th call of each kind; `none` where the call raises.
structure WorkerClient where
  leases : Bool
  heartbeat : ℕ → Option Bool
  checkout : CheckoutOutcome
  upload : ℕ → Option String

inductive WorkerEvent where
  | heartbeat (cancelRequested : Option Bool)
  | process (command : String) (outcome : ProcessOutcome)
  deriving DecidableEq, Repr

structure WorkerProgress where
  heartbeats : ℕ := 0
  processes : ℕ := 0
  events : List WorkerEvent := []
  deriving DecidableEq, Repr

-- `none` is an exception on its way up.
def Step (α : Type) := WorkerProgress → Option α × WorkerProgress

namespace Step

variable {α β : Type}

protected def pure (a : α) : Step α := fun s => (some a,s)

protected def bind (m : Step α) (f : α → Step β) : Step β := fun s =>
  match m s with
  | (some a,s') => f a s'
  | (none,s') => (none,s')

instance : Monad Step where
  pure := Step.pure
  bind := Step.bind

@[simp] theorem pure_run (a : α) (s : WorkerProgress) : (pure a : Step α) s = (some a,s) := rfl

theorem bind_eq_some {m : Step α} {f : α → Step β} {s s'' : WorkerProgress} {b : β}
    (h : (m >>= f) s = (some b,s'')) : ∃ a s', m s = (some a,s') ∧ f a s' = (some b,s'') := by
  change Step.bind m f s = _ at h
  rw [Step.bind] at h
  split at h
  · next a s' hm => exact ⟨a,s',hm,h⟩
  · cases h

theorem bind_of_some {m : Step α} {f : α → Step β} {s s' : WorkerProgress} {a : α}
    (h : m s = (some a,s')) : (m >>= f) s = f a s' := by
  change Step.bind m f s = _
  rw [Step.bind,h]

end Step

section runner

variable (client : WorkerClient) (process : ℕ → ProcessOutcome)

def heartbeat : Step Bool := fun s =>
  let answer := client.heartbeat s.heartbeats
  (answer,{ s with heartbeats := s.heartbeats + 1, events := s.events ++ [.heartbeat answer] })

def shellResult (command : String) : ProcessOutcome → Option RemoteProcessResult
  | .completed exitCode stdout stderr durationMs =>
    some ⟨command,some exitCode,stdout,stderr,durationMs,false⟩
  | .timedOut stdout stderr durationMs => some ⟨command,none,stdout,stderr,durationMs,true⟩
  | .raised => none

def runShell (command : String) : Step RemoteProcessResult := fun s =>
  let outcome := process s.processes
  (shellResult command outcome,
    { s with processes := s.processes + 1, events := s.events ++ [.process command outcome] })

def RemoteProcessResult.failed (result : RemoteProcessResult) : Bool :=
  result.timedOut || result.exitCode ≠ some 0

def isShellSafe (c : Char) : Bool := c.isAlphanum || c ∈ "_@%+=:,./-".toList

def shellQuote (text : String) : String :=
  if text = "" then "''"
  else if text.toList.all isShellSafe then text
  else String.ofList ('\'' :: text.toList.flatMap (fun c => if c = '\'' then "'\"'\"'".toList else [c]) ++ ['\''])

structure CapturedArtifacts where
  addIntent : RemoteProcessResult
  diffNameOnly : RemoteProcessResult
  diffText : RemoteProcessResult
  baseSha : RemoteProcessResult
  headSha : RemoteProcessResult
  deriving DecidableEq, Repr

def CapturedArtifacts.results (captured : CapturedArtifacts) : List RemoteProcessResult :=
  [captured.addIntent,captured.diffNameOnly,captured.diffText,captured.baseSha,captured.headSha]

def baseRef (payload : WorkerPayload) : String :=
  shellQuote ("origin/" ++ payload.baseBranch.orElse "main")

def captureArtifacts (payload : WorkerPayload) : Step CapturedArtifacts := do
  let addIntent ← runShell process "git add -N ."
  let diffNameOnly ← runShell process "git diff --name-only"
  let diffText ← runShell process "git diff --no-ext-diff"
  let baseSha ← runShell process ("git rev-parse " ++ baseRef payload)
  let headSha ← runShell process "git rev-parse HEAD"
  return ⟨addIntent,diffNameOnly,diffText,baseSha,headSha⟩

def strippedText (text : String) : String := String.ofList (strip text.toList)

def parseLines (text : String) : List String :=
  ((splitLines text).map strippedText).filter fun line => line ≠ ""

def nonEmpty (text : String) : Option String := if text = "" then none else some text

def commandText (command : PyValue) : String := strippedText (command.orElse "")

structure Draft where
  commandResults : List RemoteProcessResult
  filesChanged : List String := []
  diffText : String := ""
  baseSha : Option String := none
  headSha : Option String := none
  risks : List String := []
  failureReason : Option String := none
  deriving DecidableEq, Repr

def draftOf (payload : WorkerPayload) (patch : RemoteProcessResult) (captured : CapturedArtifacts) : Draft :=
  if captured.results.any RemoteProcessResult.failed then
    { commandResults := patch :: captured.results, failureReason := some "artifact_capture_failed" }
  else
    let draft : Draft := {
      commandResults := patch :: captured.results
      filesChanged := parseLines captured.diffNameOnly.stdout
      diffText := captured.diffText.stdout
      baseSha := nonEmpty (strippedText captured.baseSha.stdout)
      headSha := nonEmpty (strippedText captured.headSha.stdout) }
    if draft.filesChanged = [] || strippedText draft.diffText = "" then
      { draft with failureReason := some "no_patch_produced" }
    else match ensureFilesAllowed draft.filesChanged payload.allowedPaths with
      | .error message =>
        { draft with failureReason := some "artifact_capture_failed", risks := [message] }
      | .ok _ => draft

def captureStage (payload : WorkerPayload) : Step Draft := do
  if (← heartbeat client) then
    return { commandResults := [], failureReason := some "cancelled" }
  else if commandText payload.patchCommand = "" then
    return { commandResults := [], failureReason := some "patch_command_failed" }
  else
    let patch ← runShell process (commandText payload.patchCommand)
    if patch.failed then
      return { commandResults := [patch], failureReason := some "patch_command_failed" }
    else
      let captured ← captureArtifacts process payload
      return draftOf payload patch captured

structure TestRuns where
  runs : List (String × RemoteProcessResult) := []
  cancelled : Bool := false
  deriving DecidableEq, Repr

def runTests : List String → Step TestRuns
  | [] => return {}
  | command :: rest => do
    if (← heartbeat client) then return { cancelled := true }
    else if command = "" then runTests rest
    else
      let result ← runShell process command
      let later ← runTests rest
      return { later with runs := (command,result) :: later.runs }

structure Execution where
  status : String
  runnerKind : String := "aliyun_eci"
  baseSha : Option String := none
  headSha : Option String := none
  worktreeRef : Option String := none
  summary : String
  filesChanged : List String := []
  testsRun : List String := []
  testResult : String := "not_run"
  risks : List String := []
  diffText : String := ""
  commandResults : List RemoteProcessResult := []
  testCommandResults : List RemoteProcessResult := []
  failureReason : Option String
  deriving DecidableEq, Repr

def failureSummary (failureReason : String) : String := s!"Remote worker failed: {failureReason}."

def executionSummary (failureReason : Option String) (testResult : String) : String :=
  match failureReason with
  | some reason => failureSummary reason
  | none =>
    if testResult = "passed" then "Remote worker produced a patch and tests passed."
    else "Remote worker produced a patch."

def executionOf (payload : WorkerPayload) (draft : Draft) (tests : TestRuns) (failureReason : Option String)
    (testResult : String) : Execution where
  status := if failureReason = none then "patch_ready" else "failed"
  baseSha := draft.baseSha
  headSha := draft.headSha
  worktreeRef := some s!"remote-worker://{payload.cloudRunId}"
  summary := executionSummary failureReason testResult
  filesChanged := draft.filesChanged
  testsRun := tests.runs.map Prod.fst
  testResult := testResult
  risks := draft.risks
  diffText := draft.diffText
  commandResults := draft.commandResults
  testCommandResults := tests.runs.map Prod.snd
  failureReason := failureReason

def testVerdict (tests : TestRuns) : Option String × String :=
  if tests.cancelled then (some "cancelled","not_run")
  else if tests.runs.any fun ran => ran.2.failed then (some "test_failed","failed")
  else (none,"passed")

def runCommands (payload : WorkerPayload) : Step Execution := do
  let draft ← captureStage client process payload
  if draft.failureReason ≠ none || payload.testCommands = [] then
    return executionOf payload draft {} draft.failureReason "not_run"
  else
    let tests ← runTests client process (payload.testCommands.map commandText)
    return executionOf payload draft tests (testVerdict tests).1 (testVerdict tests).2

end runner

end AiScdc.RemoteWorker
