import AiScdc.Github.RepositoryUrl
import AiScdc.RemoteWorker.Commands

namespace AiScdc.DockerSandbox

open AiScdc.ArtifactPlane (UrlText urlsplit before after)
open Github (userinfo isSafeAuthenticatedGithubUrl)
open RemoteWorker (shellQuote)

structure SandboxCommandSelection where
  key : String
  command : String
  timeoutSeconds : ℤ := 300
  deriving DecidableEq, Repr

structure ContainerEnv where
  entries : List (String × String)
  unique : (entries.map Prod.fst).Nodup
  deriving DecidableEq, Repr

structure SandboxExecutionRequest where
  cloudRunId : String
  repoUrl : String
  baseBranch : String
  headBranch : String
  allowedPaths : List String
  dockerImage : Option String
  patchCommand : Option SandboxCommandSelection
  testCommands : List SandboxCommandSelection
  env : ContainerEnv
  networkEnabled : Bool
  githubOwner : Option String := none
  githubRepo : Option String := none
  githubToken : Option String := none
  deriving DecidableEq, Repr

structure ProcessResult where
  args : List String
  exitCode : Option ℤ
  stdout : String
  stderr : String
  durationMs : ℤ
  timedOut : Bool := false
  deriving DecidableEq, Repr

def ProcessResult.redacted (result : ProcessResult) (secrets : List String) : ProcessResult :=
  { result with
    args := result.args.map fun arg => redactSecrets arg secrets
    stdout := redactSecrets result.stdout secrets
    stderr := redactSecrets result.stderr secrets }

def ProcessResult.toCommandResult (result : ProcessResult) (command : String) (secrets : List String) :
    CommandResult :=
  let safeResult := result.redacted secrets
  { command := redactSecrets command secrets
    exitCode := safeResult.exitCode
    stdout := safeResult.stdout
    stderr := safeResult.stderr
    durationMs := safeResult.durationMs
    timedOut := safeResult.timedOut }

def ProcessResult.failed (result : ProcessResult) : Bool := result.exitCode ≠ some 0 || result.timedOut

section secrets

def repoUrlRedactionSecrets [UrlText] (repoUrl : String) : List String :=
  match (urlsplit repoUrl).bind userinfo with
  | none => []
  | some info =>
    let username := before (· = ':') info
    let password := after (· = ':') info
    let secrets := [repoUrl.toList,info,info ++ ['@']] ++
      (if username = [] then [] else [username,Percent.unquote username]) ++
      (if password = [] then [] else [password,Percent.unquote password])
    ((secrets.filter fun secret => secret ≠ []).map String.ofList).eraseDups

def requestSecrets [UrlText] (request : SandboxExecutionRequest) : List String :=
  (request.env.entries.map Prod.snd ++ request.githubToken.toList ++
    repoUrlRedactionSecrets request.repoUrl).filter fun secret => secret ≠ ""

end secrets

section letters

-- What str.upper makes of a letter, where the outcome is ASCII; any other letter is left as it is.
def upperLetter (c : Char) : Text :=
  match c.toNat with
  | 0xdf => ['S','S']
  | 0x131 => ['I']
  | 0x17f => ['S']
  | 0xfb00 => ['F','F']
  | 0xfb01 => ['F','I']
  | 0xfb02 => ['F','L']
  | 0xfb03 => ['F','F','I']
  | 0xfb04 => ['F','F','L']
  | 0xfb05 => ['S','T']
  | 0xfb06 => ['S','T']
  | _ => [c.toUpper]

-- The same of str.lower.
def lowerLetter (c : Char) : Text :=
  match c.toNat with
  | 0x130 => ['i',Char.ofNat 0x307]
  | 0x212a => ['k']
  | _ => [c.toLower]

def upper (text : String) : String := String.ofList (text.toList.flatMap upperLetter)

def lower (text : Text) : Text := text.flatMap lowerLetter

end letters

section environment

def dockerCliEnvDenylist : List String :=
  ["ALL_PROXY","DOCKER_CERT_PATH","DOCKER_CONFIG","DOCKER_CONTEXT","DOCKER_HOST","DOCKER_TLS_VERIFY",
    "HTTPS_PROXY","HTTP_PROXY","NO_PROXY","PATH","PATHEXT"]

def dockerCliEnvAllowlist : List String :=
  ["COMSPEC","PATH","PATHEXT","SYSTEMROOT","TEMP","TMP","TMPDIR","WINDIR"]

def dockerCliEnv (environ : List (String × String)) : List (String × String) :=
  environ.filter fun entry => upper entry.1 ∈ dockerCliEnvAllowlist && entry.2 ≠ ""

def isEnvName : Text → Bool
  | [] => false
  | c :: rest => (c.isAlpha || c = '_') && rest.all fun d => d.isAlphanum || d = '_'

def isSafeSandboxEnvName (name : String) : Bool :=
  isEnvName name.toList && upper name ∉ dockerCliEnvDenylist

def isSafeDockerEnvValue (value : String) : Bool := '\n' ∉ value.toList && '\r' ∉ value.toList

def containerEnvItems (env : ContainerEnv) : List (String × String) :=
  ((env.entries.filter fun entry => isSafeSandboxEnvName entry.1).insertionSort fun a b => a.1 ≤ b.1).filter
    fun entry => isSafeDockerEnvValue entry.2

def envLine (entry : String × String) : String := entry.1 ++ "=" ++ entry.2 ++ "\n"

def envFileContent (items : List (String × String)) : String := String.join (items.map envLine)

def dockerUserArgs (platform : String) (ids : Option (ℕ × ℕ)) : List String :=
  if platform ≠ "posix" then []
  else match ids with
    | none => []
    | some (uid,gid) => ["--user",s!"{uid}:{gid}"]

end environment

section validation

def defaultDockerImage : String := "python:3.11-bookworm"

def isDockerImage : Text → Bool
  | [] => false
  | c :: rest => c.isAlphanum && rest.all fun d => d.isAlphanum || d ∈ "._:/@-".toList

def validatedDockerImage : Option String → Option String
  | none => some defaultDockerImage
  | some image =>
    let candidate := strip image.toList
    if candidate = [] || candidate.head? = some '-' || !isDockerImage candidate then none
    else some (String.ofList candidate)

def validGitBranchName (branchName : String) : Bool :=
  let candidate := strip branchName.toList
  candidate ≠ [] && candidate.head? ≠ some '-'

def validGitReferenceInputs (request : SandboxExecutionRequest) : Bool :=
  validGitBranchName request.baseBranch && validGitBranchName request.headBranch

-- An empty token counts as none.
def presentToken (githubToken : Option String) : Option String := githubToken.filter fun token => token ≠ ""

def refusal [UrlText] (request : SandboxExecutionRequest) : Option String :=
  if validatedDockerImage request.dockerImage = none then some "invalid_docker_image"
  else if !validGitReferenceInputs request then some "invalid_git_reference"
  else if presentToken request.githubToken ≠ none &&
      !isSafeAuthenticatedGithubUrl request.repoUrl request.githubOwner request.githubRepo then
    some "invalid_github_repository_url"
  else none

end validation

section containers

def isNameChar (c : Char) : Bool := c.isAlphanum || c = '_' || c = '.' || c = '-'

-- A run of other characters becomes one dash.
def dashRuns : Bool → Text → Text
  | _,[] => []
  | inRun,c :: rest =>
    if isNameChar c then c :: dashRuns false rest
    else if inRun then dashRuns true rest
    else '-' :: dashRuns true rest

def isNameEdge (c : Char) : Bool := c = '-' || c = '.'

def dockerNamePart (value : String) : Text :=
  let candidate := (((dashRuns false value.toList).dropWhile isNameEdge).reverse.dropWhile isNameEdge).reverse
  if candidate = [] then "run".toList else candidate

def dockerContainerName (cloudRunId label : String) : String :=
  String.ofList (("ai-scdc-".toList ++ dockerNamePart cloudRunId ++ '-' :: dockerNamePart label).take 120)

example : dockerContainerName "run 7/.x." "test-unit  tests" = "ai-scdc-run-7-.x-test-unit-tests" := by
  decide +kernel

structure Mounts where
  workspacePath : String
  artifactPath : String
  envFilePath : Option String := none
  deriving DecidableEq, Repr

def networkArgs (networkEnabled : Bool) : List String :=
  if networkEnabled then ["--network","bridge"] else ["--network","none"]

def envArgs : Option String → List String
  | some envFilePath => ["--env-file",envFilePath]
  | none => []

-- `none` is the error "invalid_docker_image".
def buildDockerRunArgs (userArgs : List String) (request : SandboxExecutionRequest) (mounts : Mounts)
    (command : String) (containerName : Option String) : Option (List String) :=
  (validatedDockerImage request.dockerImage).map fun dockerImage =>
    let safeContainerName := match containerName.filter fun name => name ≠ "" with
      | some name => name
      | none => dockerContainerName request.cloudRunId "manual"
    ["docker","run","--rm","--name",safeContainerName] ++ networkArgs request.networkEnabled ++ userArgs ++
      ["-v",mounts.workspacePath ++ ":/workspace","-v",mounts.artifactPath ++ ":/artifacts","-w",
        "/workspace/repo"] ++ envArgs mounts.envFilePath ++ [dockerImage,"sh","-lc",command]

def dockerImageFailureMarkers : List String :=
  ["unable to find image","pull access denied","manifest unknown","no such image","not found: manifest",
    "context deadline exceeded","client.timeout exceeded"]

def contains (text : Text) (marker : String) : Bool := text.tails.any fun tail => marker.toList.isPrefixOf tail

def isDockerRunStartFailure (result : ProcessResult) : Bool :=
  if result.exitCode ≠ some 125 then false
  else
    let output := lower (result.stdout.toList ++ '\n' :: result.stderr.toList)
    "docker:".toList.isPrefixOf output || contains output "error response from daemon" ||
      dockerImageFailureMarkers.any (contains output)

end containers

section steps

def gitCloneCommand (repoUrl : String) (useAskpass : Bool) : String :=
  let cloneCommand := "git clone -- " ++ shellQuote repoUrl ++ " ."
  if !useAskpass then cloneCommand
  else "chmod 700 /artifacts/git-askpass.sh; " ++ "GIT_ASKPASS=/artifacts/git-askpass.sh " ++
    "GIT_TERMINAL_PROMPT=0 " ++ cloneCommand ++ "; " ++ "status=$?; " ++
    "rm -f /artifacts/git-askpass.sh /artifacts/github-token; " ++ "exit $status"

inductive StepLabel where
  | clone | checkout | branch | patch | intentToAdd | nameOnly | diff | baseSha | headSha
  deriving DecidableEq, Repr

def StepLabel.text : StepLabel → String
  | .clone => "clone"
  | .checkout => "checkout"
  | .branch => "branch"
  | .patch => "patch"
  | .intentToAdd => "intent-to-add"
  | .nameOnly => "name-only"
  | .diff => "diff"
  | .baseSha => "base-sha"
  | .headSha => "head-sha"

def StepLabel.failureReason : StepLabel → String
  | .clone => "repo_checkout_failed"
  | .checkout => "repo_checkout_failed"
  | .branch => "repo_checkout_failed"
  | .patch => "patch_command_failed"
  | .intentToAdd => "artifact_capture_failed"
  | .nameOnly => "artifact_capture_failed"
  | .diff => "artifact_capture_failed"
  | .baseSha => "artifact_capture_failed"
  | .headSha => "artifact_capture_failed"

structure SandboxStep where
  label : StepLabel
  command : String
  timeoutSeconds : ℤ
  deriving DecidableEq, Repr

def patchStep : Option SandboxCommandSelection → SandboxStep
  | some patch => ⟨.patch,patch.command,patch.timeoutSeconds⟩
  | none => ⟨.patch,"",300⟩

def cloneStep (request : SandboxExecutionRequest) (useAskpass : Bool) : SandboxStep :=
  ⟨.clone,gitCloneCommand request.repoUrl useAskpass,300⟩

def laterSteps (request : SandboxExecutionRequest) : List SandboxStep :=
  [⟨.checkout,"git checkout " ++ shellQuote request.baseBranch,60⟩,
    ⟨.branch,"git checkout -B " ++ shellQuote request.headBranch,60⟩,
    patchStep request.patchCommand,
    ⟨.intentToAdd,"git add -N .",60⟩,
    ⟨.nameOnly,"git diff --name-only",60⟩,
    ⟨.diff,"git diff --no-ext-diff",60⟩,
    ⟨.baseSha,"git rev-parse " ++ shellQuote ("origin/" ++ request.baseBranch),60⟩,
    ⟨.headSha,"git rev-parse HEAD",60⟩]

def sandboxSteps (request : SandboxExecutionRequest) (useAskpass : Bool) : List SandboxStep :=
  cloneStep request useAskpass :: laterSteps request

end steps

end AiScdc.DockerSandbox
