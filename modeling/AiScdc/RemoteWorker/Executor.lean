import AiScdc.RemoteWorker.Commands
import AiScdc.RemoteWorker.Redaction

namespace AiScdc.RemoteWorker

structure RemoteWorkerConfig where
  cloudRunId : String
  workerId : String
  callbackToken : String
  deriving DecidableEq, Repr

def PyValue.ifTruthy : PyValue → Option String
  | .value true text => some text
  | _ => none

def payloadSecrets (payload : WorkerPayload) (callbackToken : String) : List String :=
  payload.cloneToken.ifTruthy.toList ++ (if callbackToken = "" then [] else [callbackToken]) ++
    payload.env.filterMap fun entry => entry.2.ifTruthy

def failedExecution (failureReason : String) : Execution where
  status := "failed"
  summary := failureSummary failureReason
  failureReason := some failureReason

inductive UploadContent where
  | text (content : String)
  | results (content : List RemoteProcessResult)
  | manifest (cloudRunId : String) (artifacts : List String) (status : String) (failureReason : Option String)
  deriving DecidableEq, Repr

-- JSON content as it is before its encoding.
structure ArtifactUpload where
  kind : String
  content : UploadContent
  contentType : String
  deriving DecidableEq, Repr

structure CompletionPayload where
  status : String
  runnerKind : String
  baseSha : Option String
  headSha : Option String
  worktreeRef : Option String
  summary : String
  filesChanged : List String
  testsRun : List String
  testResult : String
  risks : List String
  diffText : String
  artifactRefs : List String
  commandResults : List RemoteProcessResult
  testCommandResults : List RemoteProcessResult
  failureReason : Option String
  deriving DecidableEq, Repr

section redacted

variable (secrets : List String)

def redactedCommandResult (result : RemoteProcessResult) : RemoteProcessResult :=
  { result with
    command := redactText result.command secrets
    stdout := redactText result.stdout secrets
    stderr := redactText result.stderr secrets }

def redactedOptionalText (value : Option String) : Option String :=
  value.map fun text => redactText text secrets

def redactedStringList (values : List String) : List String :=
  values.map fun text => redactText text secrets

def firstUploads (execution : Execution) : List ArtifactUpload :=
  [⟨"diff",.text (redactText execution.diffText secrets),"text/x-diff"⟩,
    ⟨"command_result",.results (execution.commandResults.map (redactedCommandResult secrets)),
      "application/json"⟩,
    ⟨"test_result",.results (execution.testCommandResults.map (redactedCommandResult secrets)),
      "application/json"⟩,
    ⟨"log",.text (redactText execution.summary secrets),"text/plain"⟩]

def manifestUpload (config : RemoteWorkerConfig) (execution : Execution) (artifactRefs : List String) :
    ArtifactUpload :=
  ⟨"manifest",.manifest config.cloudRunId artifactRefs execution.status
    (redactedOptionalText secrets execution.failureReason),"application/json"⟩

def completionPayload (execution : Execution) (artifactRefs : List String) : CompletionPayload where
  status := execution.status
  runnerKind := execution.runnerKind
  baseSha := execution.baseSha
  headSha := execution.headSha
  worktreeRef := redactedOptionalText secrets execution.worktreeRef
  summary := redactText execution.summary secrets
  filesChanged := redactedStringList secrets execution.filesChanged
  testsRun := redactedStringList secrets execution.testsRun
  testResult := redactText execution.testResult secrets
  risks := redactedStringList secrets execution.risks
  diffText := ""
  artifactRefs := artifactRefs
  commandResults := execution.commandResults.map (redactedCommandResult secrets)
  testCommandResults := execution.testCommandResults.map (redactedCommandResult secrets)
  failureReason := redactedOptionalText secrets execution.failureReason

end redacted

structure UploadRun where
  attempted : List ArtifactUpload
  -- `none` once an upload has raised.
  artifactRefs : Option (List String)
  deriving DecidableEq, Repr

def uploadEach (client : WorkerClient) (first : ℕ) : List ArtifactUpload → UploadRun
  | [] => ⟨[],some []⟩
  | upload :: rest =>
    match client.upload first with
    | none => ⟨[upload],none⟩
    | some ref =>
      let later := uploadEach client (first + 1) rest
      ⟨upload :: later.attempted,later.artifactRefs.map (ref :: ·)⟩

def uploadArtifacts (client : WorkerClient) (config : RemoteWorkerConfig) (execution : Execution)
    (secrets : List String) : UploadRun :=
  let uploaded := uploadEach client 0 (firstUploads secrets execution)
  match uploaded.artifactRefs with
  | none => uploaded
  | some artifactRefs =>
    let manifest := manifestUpload secrets config execution artifactRefs
    ⟨uploaded.attempted ++ [manifest],(client.upload 4).map fun ref => artifactRefs ++ [ref]⟩

-- What the client is sent, and how often it is asked to complete the lease.
structure WorkerReport where
  uploads : List ArtifactUpload := []
  completions : List CompletionPayload := []
  deriving DecidableEq, Repr

section executor

variable (client : WorkerClient) (process : ℕ → ProcessOutcome) (config : RemoteWorkerConfig)

def completeExecution (execution : Execution) (secrets : List String) : WorkerReport :=
  let uploaded := uploadArtifacts client config execution secrets
  match uploaded.artifactRefs with
  | some artifactRefs => ⟨uploaded.attempted,[completionPayload secrets execution artifactRefs]⟩
  | none =>
    ⟨uploaded.attempted,[completionPayload secrets (failedExecution "artifact_upload_failed") []]⟩

def checkoutFailure (message : String) : String :=
  if message = "repo_checkout_failed" then "repo_checkout_failed" else "worker_execution_failed"

def cancelExecution (execution : Execution) : Execution :=
  { execution with status := "failed", failureReason := some "cancelled" }

-- The heartbeat after the run decides between the execution and its cancellation.
def concludeRun (execution : Execution) (secrets : List String) (progress : WorkerProgress) : WorkerReport :=
  if execution.failureReason = some "cancelled" then completeExecution client config execution secrets
  else match client.heartbeat progress.heartbeats with
    | none => {}
    | some cancelRequested =>
      let final := if cancelRequested then cancelExecution execution else execution
      completeExecution client config final secrets

def runAfterCheckout (payload : WorkerPayload) (secrets : List String) : WorkerReport :=
  match client.heartbeat 1 with
  | none => {}
  | some true => completeExecution client config (failedExecution "cancelled") secrets
  | some false =>
    match runCommands client process payload { heartbeats := 2 } with
    | (none,_) => completeExecution client config (failedExecution "worker_execution_failed") secrets
    | (some execution,progress) => concludeRun client config execution secrets progress

def runOnce (payload : WorkerPayload) : WorkerReport :=
  let secrets := payloadSecrets payload config.callbackToken
  if !client.leases then {}
  else match client.heartbeat 0 with
    | none => {}
    | some true => completeExecution client config (failedExecution "cancelled") secrets
    | some false =>
      match client.checkout with
      | .runtimeError message =>
        completeExecution client config (failedExecution (checkoutFailure message)) secrets
      | .raised => completeExecution client config (failedExecution "worker_execution_failed") secrets
      | .ok => runAfterCheckout client process config payload secrets

end executor

end AiScdc.RemoteWorker
