import AiScdc.DockerSandbox.Commands
import AiScdc.Effects.Traced

namespace AiScdc.DockerSandbox

open AiScdc.ArtifactPlane (UrlText)
open RemoteWorker (strippedText parseLines nonEmpty)

structure ProcessCall where
  args : List String
  env : List (String × String)
  timeoutSeconds : ℤ
  deriving DecidableEq, Repr

-- An outcome of `none` is a runner that raises.
inductive HostEvent where
  | workspaceCreated (succeeded : Bool)
  | directoriesMade (succeeded : Bool)
  | written (path content : String) (succeeded : Bool)
  | process (call : ProcessCall) (outcome : Option ProcessResult)
  | unlinked (path : String)
  | workspaceRemoved (succeeded : Bool)
  deriving DecidableEq, Repr

-- Each answer may depend on all that has happened.
structure Host where
  root : String
  environ : List (String × String)
  platform : String
  ids : Option (ℕ × ℕ)
  creates : List HostEvent → Bool
  makesDirectories : List HostEvent → Bool
  writes : List HostEvent → String → String → Bool
  answer : List HostEvent → ProcessCall → Option ProcessResult
  removes : List HostEvent → Bool

def Host.artifactPath (host : Host) : String := host.root ++ "/artifacts"

def Host.mounts (host : Host) (envFilePath : Option String) : Mounts :=
  ⟨host.root ++ "/workspace",host.artifactPath,envFilePath⟩

abbrev Action (α : Type) := Traced HostEvent α

structure GitAuthFiles where
  askpassPath : String
  tokenPath : String
  deriving DecidableEq, Repr

def askpassScript : String :=
  "#!/bin/sh\ncase \"$1\" in\n*Username*) printf '%s\\n' 'x-access-token' ;;\n" ++
    "*) cat /artifacts/github-token ;;\nesac\n"

def gitAuthFiles (artifactPath : String) : GitAuthFiles :=
  ⟨artifactPath ++ "/git-askpass.sh",artifactPath ++ "/github-token"⟩

structure StepRuns where
  ran : List (SandboxStep × ProcessResult) := []
  failureReason : Option String := none
  deriving DecidableEq, Repr

structure TestRuns where
  ran : List (SandboxCommandSelection × ProcessResult) := []
  unavailable : Bool := false
  deriving DecidableEq, Repr

structure CapturedPatch where
  filesChanged : List String := []
  diffText : String := ""
  baseSha : Option String := none
  headSha : Option String := none
  worktreeRef : Option String := none
  deriving DecidableEq, Repr

-- Every label is there once no step has failed.
def StepRuns.stdout (steps : StepRuns) (label : StepLabel) : String :=
  ((steps.ran.find? fun ran => ran.1.label = label).map fun ran => ran.2.stdout).getD ""

def capturedPatch (request : SandboxExecutionRequest) (steps : StepRuns) : CapturedPatch where
  filesChanged := (parseLines (steps.stdout .nameOnly)).insertionSort fun a b => a ≤ b
  diffText := steps.stdout .diff
  baseSha := nonEmpty (strippedText (steps.stdout .baseSha))
  headSha := nonEmpty (strippedText (steps.stdout .headSha))
  worktreeRef := some s!"cloud://docker-local/{request.cloudRunId}"

def failedResult (failureReason : String) (commandResults testResults : List CommandResult)
    (captured : CapturedPatch) : SandboxExecutionResult where
  status := .failed
  runnerKind := "docker_local"
  baseSha := captured.baseSha
  headSha := captured.headSha
  worktreeRef := captured.worktreeRef
  filesChanged := captured.filesChanged
  diffText := captured.diffText
  commandResults := commandResults
  testCommandResults := testResults
  failureReason := some failureReason

def testStatus (tests : TestRuns) (testCommands : List SandboxCommandSelection) : String :=
  if tests.ran.any fun ran => ran.2.failed then "failed"
  else if testCommands = [] then "not_run"
  else "passed"

def testedResult (request : SandboxExecutionRequest) (captured : CapturedPatch)
    (commandResults testResults : List CommandResult) (testResult : String) : SandboxExecutionResult where
  status := if testResult = "failed" then .failed else .patchReady
  runnerKind := "docker_local"
  baseSha := captured.baseSha
  headSha := captured.headSha
  worktreeRef := captured.worktreeRef
  summary := "Docker local sandbox produced a patch artifact."
  filesChanged := captured.filesChanged
  testsRun := request.testCommands.map SandboxCommandSelection.command
  testResult := testResult
  diffText := captured.diffText
  commandResults := commandResults
  testCommandResults := testResults
  failureReason := if testResult = "failed" then some "test_failed" else none

def stepFailure (label : StepLabel) (result : ProcessResult) : String :=
  if isDockerRunStartFailure result then "docker_unavailable" else label.failureReason

section runner

variable (host : Host) (secrets : List String)

def runProcess (call : ProcessCall) : Action ProcessResult := Traced.act fun history =>
  ((host.answer history call).map fun result => result.redacted secrets,.process call (host.answer history call))

def writeText (path content : String) : Action Unit := Traced.act fun history =>
  (if host.writes history path content then some () else none,
    .written path content (host.writes history path content))

-- An error of the removal is passed over.
def unlink (path : String) : Action Unit := Traced.act fun _ => (some (),.unlinked path)

def makeDirectories : Action Unit := Traced.act fun history =>
  (if host.makesDirectories history then some () else none,.directoriesMade (host.makesDirectories history))

def createWorkspace : Action Unit := Traced.act fun history =>
  (if host.creates history then some () else none,.workspaceCreated (host.creates history))

def writeDockerEnvFile (path : String) (env : ContainerEnv) : Action (Option String) :=
  if containerEnvItems env = [] then return none
  else do
    writeText host path (envFileContent (containerEnvItems env))
    return some path

def writeGitAuthFiles (artifactPath : String) (githubToken : Option String) : Action (Option GitAuthFiles) :=
  match presentToken githubToken with
  | none => return none
  | some token => do
    writeText host (gitAuthFiles artifactPath).tokenPath token
    writeText host (gitAuthFiles artifactPath).askpassPath askpassScript
    return some (gitAuthFiles artifactPath)

def removeGitAuthFiles (authFiles : GitAuthFiles) : Action Unit := do
  unlink authFiles.askpassPath
  unlink authFiles.tokenPath

def removeAfterClone (label : StepLabel) (authFiles : Option GitAuthFiles) : Action Unit :=
  match authFiles with
  | some files => if label = .clone then removeGitAuthFiles files else return ()
  | none => return ()

theorem removeAfterClone_some (label : StepLabel) (files : GitAuthFiles) :
    removeAfterClone label (some files) = if label = .clone then removeGitAuthFiles files else pure () := rfl

def Host.cliEnv : List (String × String) := dockerCliEnv host.environ

def Host.userArgs : List String := dockerUserArgs host.platform host.ids

def versionCall : ProcessCall := ⟨["docker","version"],host.cliEnv,15⟩

def removalCall (containerName : String) : ProcessCall := ⟨["docker","rm","-f",containerName],host.cliEnv,15⟩

def removeTimedOut (timedOut : Bool) (containerName : String) : Action Unit :=
  if timedOut then do
    let _ ← runProcess host secrets (removalCall host containerName)
    return ()
  else return ()

variable (request : SandboxExecutionRequest) (mounts : Mounts)

def runDockerContainer (label command : String) (timeoutSeconds : ℤ) : Action ProcessResult :=
  let containerName := dockerContainerName request.cloudRunId label
  match buildDockerRunArgs host.userArgs request mounts command (some containerName) with
  | none => Traced.raise
  | some args => do
    let result ← runProcess host secrets ⟨args,host.cliEnv,timeoutSeconds⟩
    removeTimedOut host secrets result.timedOut containerName
    return result

def runSteps (authFiles : Option GitAuthFiles) : List SandboxStep → Action StepRuns
  | [] => return {}
  | step :: rest => do
    let result ← runDockerContainer host secrets request mounts step.label.text step.command step.timeoutSeconds
    removeAfterClone step.label authFiles
    if result.failed then return ⟨[(step,result)],some (stepFailure step.label result)⟩
    else
      let later ← runSteps authFiles rest
      return { later with ran := (step,result) :: later.ran }

def runTests : List SandboxCommandSelection → Action TestRuns
  | [] => return {}
  | command :: rest => do
    let result ← runDockerContainer host secrets request mounts ("test-" ++ command.key) command.command
      command.timeoutSeconds
    if result.failed && isDockerRunStartFailure result then return ⟨[(command,result)],true⟩
    else
      let later ← runTests rest
      return { later with ran := (command,result) :: later.ran }

def TestRuns.results (tests : TestRuns) : List CommandResult :=
  tests.ran.map fun ran => ran.2.toCommandResult ran.1.command secrets

def StepRuns.results (steps : StepRuns) : List CommandResult :=
  steps.ran.map fun ran => ran.2.toCommandResult ran.1.command secrets

def testPatch (captured : CapturedPatch) (commandResults : List CommandResult) : Action SandboxExecutionResult :=
  if captured.filesChanged = [] || strippedText captured.diffText = "" then
    return failedResult "no_patch_produced" commandResults [] {}
  else match ensureChangedFilesAllowed captured.filesChanged request.allowedPaths with
    | .error _ => return failedResult "artifact_capture_failed" commandResults [] captured
    | .ok _ => do
      let tests ← runTests host secrets request mounts request.testCommands
      if tests.unavailable then
        return failedResult "docker_unavailable" commandResults (tests.results secrets) {}
      else
        return testedResult request captured commandResults (tests.results secrets)
          (testStatus tests request.testCommands)

def runContainers (versionResult : CommandResult) : Action SandboxExecutionResult := do
  let authFiles ← writeGitAuthFiles host mounts.artifactPath request.githubToken
  let steps ← runSteps host secrets request mounts authFiles (sandboxSteps request authFiles.isSome)
  match steps.failureReason with
  | some reason => return failedResult reason (versionResult :: steps.results secrets) [] {}
  | none =>
    testPatch host secrets request mounts (capturedPatch request steps) (versionResult :: steps.results secrets)

def runInWorkspace : Action SandboxExecutionResult := do
  makeDirectories host
  let envFilePath ← writeDockerEnvFile host (host.artifactPath ++ "/container.env") request.env
  let dockerVersion ← runProcess host secrets (versionCall host)
  let versionResult := dockerVersion.toCommandResult "docker version" secrets
  if dockerVersion.failed then return failedResult "docker_unavailable" [versionResult] [] {}
  else runContainers host secrets request (host.mounts envFilePath) versionResult

end runner

def admitted (request : SandboxExecutionRequest) : SandboxExecutionRequest :=
  { request with dockerImage := validatedDockerImage request.dockerImage }

def run [UrlText] (host : Host) (request : SandboxExecutionRequest) : Action SandboxExecutionResult :=
  match refusal request with
  | some reason => return failedResult reason [] [] {}
  | none => do
    createWorkspace host
    Traced.closedBy (runInWorkspace host (requestSecrets request) (admitted request))
      fun history => (host.removes history,.workspaceRemoved (host.removes history))

theorem run_cases [UrlText] {host : Host} {request : SandboxExecutionRequest} {history events : List HostEvent}
    {result : Option SandboxExecutionResult} (h : run host request history = (result,events)) :
    (∃ reason, refusal request = some reason ∧ result = some (failedResult reason [] [] {}) ∧ events = []) ∨
    (refusal request = none ∧ result = none ∧ events = [.workspaceCreated false]) ∨
    (refusal request = none ∧ ∃ answer acts removed,
      runInWorkspace host (requestSecrets request) (admitted request) (history ++ [.workspaceCreated true]) =
        (answer,acts) ∧
      result = (if removed then answer else none) ∧
      events = .workspaceCreated true :: acts ++ [.workspaceRemoved removed]) := by
  cases hrefusal : refusal request with
  | some reason =>
    rw [run,hrefusal] at h
    obtain ⟨rfl,rfl⟩ := Prod.mk.inj h
    exact .inl ⟨reason,rfl,rfl,rfl⟩
  | none =>
    rw [run,hrefusal] at h
    cases hcreates : host.creates history with
    | false =>
      have hfails : createWorkspace host history = (none,[.workspaceCreated false]) := by
        simp [createWorkspace,Traced.act,hcreates]
      rcases Traced.bind_cases h with ⟨rfl,hcreate⟩ | ⟨_,_,_,hcreate,_⟩
      · rw [hfails] at hcreate
        exact .inr (.inl ⟨rfl,rfl,(Prod.mk.inj hcreate).2.symm⟩)
      · rw [hfails] at hcreate
        cases hcreate
    | true =>
      have hmade : createWorkspace host history = (some (),[.workspaceCreated true]) := by
        simp [createWorkspace,Traced.act,hcreates]
      rcases Traced.bind_cases h with ⟨_,hcreate⟩ | ⟨_,before,after,hcreate,hclosed,rfl⟩
      · rw [hmade] at hcreate
        cases hcreate
      · rw [hmade] at hcreate
        obtain ⟨_,rfl⟩ := Prod.mk.inj hcreate
        obtain ⟨rfl,rfl⟩ := Prod.mk.inj hclosed
        exact .inr (.inr ⟨rfl,_,_,_,rfl,rfl,rfl⟩)

theorem refused_without_events [UrlText] {host : Host} {request : SandboxExecutionRequest}
    {history : List HostEvent} (h : refusal request ≠ none) : (run host request history).2 = [] := by
  obtain ⟨result,events,hrun⟩ : ∃ result events, run host request history = (result,events) := ⟨_,_,rfl⟩
  rw [hrun]
  rcases run_cases hrun with ⟨_,_,_,hevents⟩ | ⟨hnone,_⟩ | ⟨hnone,_⟩
  · exact hevents
  · exact absurd hnone h
  · exact absurd hnone h

section sample

def sampleRequest : SandboxExecutionRequest where
  cloudRunId := "run_1"
  repoUrl := "https://github.com/acme/app"
  baseBranch := "main"
  headBranch := "ai/run_1"
  allowedPaths := ["*.py"]
  dockerImage := none
  patchCommand := some ⟨"patch","make patch",60⟩
  testCommands := [⟨"unit","pytest",60⟩]
  env := ⟨[("API_KEY","sk-live")],by decide⟩
  networkEnabled := true
  githubOwner := some "acme"
  githubRepo := some "app"
  githubToken := some "ghs_clone"

-- A key in the diff, and a test that never ends.
def sampleAnswer (call : ProcessCall) : ProcessResult :=
  if call.args.getLast? = some "git diff --name-only" then ⟨call.args,some 0,"app.py\n","",1,false⟩
  else if call.args.getLast? = some "git diff --no-ext-diff" then ⟨call.args,some 0,"+sk-live\n","",1,false⟩
  else if call.args.getLast? = some "pytest" then ⟨call.args,none,"","",60000,true⟩
  else ⟨call.args,some 0,"","",1,false⟩

def sampleHost : Host where
  root := "/tmp/sandbox"
  environ := [("PATH","/usr/bin"),("DOCKER_HOST","tcp://other")]
  platform := "posix"
  ids := some (1000,1000)
  creates := fun _ => true
  makesDirectories := fun _ => true
  writes := fun _ _ _ => true
  answer := fun _ call => some (sampleAnswer call)
  removes := fun _ => true

end sample

end AiScdc.DockerSandbox
