import AiScdc.Entities
import Mathlib.Data.List.Sort

namespace AiScdc

abbrev Text := List Char

-- The scan of a replacement; `skip` counts the characters of a match still to be passed over.
def replaceFrom (secret replacement : Text) : ℕ → Text → Text
  | _, [] => []
  | skip + 1, _ :: rest => replaceFrom secret replacement skip rest
  | 0, c :: rest =>
    if secret.isPrefixOf (c :: rest) then
      replacement ++ replaceFrom secret replacement (secret.length - 1) rest
    else c :: replaceFrom secret replacement 0 rest

def replaceAll (text secret replacement : Text) : Text :=
  if secret = [] then text else replaceFrom secret replacement 0 text

def redactText (text : Text) (secrets : List Text) : Text :=
  let ordered := (secrets.filter fun s => s ≠ []).insertionSort fun a b => b.length ≤ a.length
  ordered.foldl (fun t s => replaceAll t s "[redacted]".toList) text

example : redactText "https://u:pw@h".toList ["pw".toList,"u:pw".toList] =
    "https://[redacted]@h".toList := by decide

def redactSecrets (text : String) (secrets : List String) : String :=
  String.ofList (redactText text.toList (secrets.map String.toList))

def CommandResult.redacted (result : CommandResult) (secrets : List String) : CommandResult :=
  { result with
    command := redactSecrets result.command secrets
    stdout := redactSecrets result.stdout secrets
    stderr := redactSecrets result.stderr secrets }

def commandResultPayloads (results : List CommandResult) (secrets : List String) :
    List CommandResult :=
  results.map fun result => result.redacted secrets

inductive ResultStatus where
  | patchReady | failed
  deriving DecidableEq, Repr

def ResultStatus.runStatus : ResultStatus → RunStatus
  | .patchReady => .patchReady
  | .failed => .failed

structure ArtifactRef where
  kind : ArtifactKind
  uri : ObjectUri
  sha256 : String
  sizeBytes : ℕ
  deriving DecidableEq, Repr

structure SandboxExecutionResult where
  status : ResultStatus
  runnerKind : String
  baseSha : Option String := none
  headSha : Option String := none
  worktreeRef : Option String := none
  summary : String := ""
  filesChanged : List String := []
  testsRun : List String := []
  testResult : String := "not_run"
  risks : List String := []
  diffText : String := ""
  commandResults : List CommandResult := []
  testCommandResults : List CommandResult := []
  failureReason : Option String := none
  deriving DecidableEq, Repr

structure CloudRunExecutionResultCreate extends SandboxExecutionResult where
  artifactRefs : List ArtifactRef := []
  deriving DecidableEq, Repr

-- The characters that str.strip() removes.
def isSpace (c : Char) : Bool :=
  let n := c.toNat
  (9 ≤ n && n ≤ 13) || (28 ≤ n && n ≤ 32) || n = 133 || n = 160 || n = 5760 ||
    (8192 ≤ n && n ≤ 8202) || n = 8232 || n = 8233 || n = 8239 || n = 8287 || n = 12288

def strip (text : Text) : Text :=
  ((text.dropWhile isSpace).reverse.dropWhile isSpace).reverse

def isBlank (text : String) : Bool := text.toList.all isSpace

def shouldCreatePatchArtifact (result : SandboxExecutionResult) : Bool :=
  result.status = .patchReady ||
    (result.failureReason = some "test_failed" && !result.filesChanged.isEmpty &&
      !isBlank result.diffText)

theorem patchReady_creates {result : SandboxExecutionResult} (h : result.status = .patchReady) :
    shouldCreatePatchArtifact result = true := by
  simp [shouldCreatePatchArtifact,h]

def executorExceptionResult (runnerKind : String) : SandboxExecutionResult where
  status := .failed
  runnerKind := runnerKind
  commandResults := [⟨s!"{runnerKind} executor",some 1,"",
    "Executor failed before returning a result.",0,false⟩]
  failureReason := some "executor_failed"

end AiScdc
