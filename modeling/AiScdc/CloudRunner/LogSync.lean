import AiScdc.CloudRunner.Enqueue

namespace AiScdc
open Transaction

inductive LogSyncStatus where
  | updated | unchanged | skipped | unsupported
  deriving DecidableEq, Repr

structure RemoteRuntimeLogSyncResult where
  status : LogSyncStatus
  logStreamRef : Option ObjectStorageRef
  reason : Option String
  deriving DecidableEq, Repr

-- The errors of the configuration and of the object storage are unavailable, all others failed.
inductive LogSyncError where
  | unavailable
  | failed
  deriving DecidableEq, Repr

-- The log of the container group, whether the run stores the digest of the text already, and the upload.
structure LogSyncReplies where
  content : Except LogSyncError String
  sameDigest : Bool
  upload : Except LogSyncError String

def CloudRun.logStreamStored (c : CloudRun) (ref : ObjectStorageRef) : CloudRun :=
  { c with logStreamUri := some ref.uri, logStreamSizeBytes := some ref.sizeBytes }

variable [Digest]

def syncRemoteStubLogs (cloudRunId : Id) (cloudRun : CloudRun) (replies : LogSyncReplies) :
    Op RemoteRuntimeLogSyncResult :=
  if cloudRun.storageProvider ≠ some .localInline then
    pure ⟨.skipped,none,some "remote_stub_log_sync_requires_local_inline_storage"⟩
  else if replies.sameDigest then pure ⟨.unchanged,none,none⟩
  else do
    let ref ← putLocalInline ⟨cloudRun.workspaceId,cloudRunId,.log,
      "Remote runtime submitted via remote_stub.\nRemote runtime log sync via remote_stub.\n"⟩
    pure ⟨.updated,some ref,none⟩

def syncAliyunEciLogs (cloudRunId : Id) (cloudRun : CloudRun) (replies : LogSyncReplies) :
    Op (Except LogSyncError RemoteRuntimeLogSyncResult) :=
  if cloudRun.storageProvider ≠ some .aliyunOss then
    pure (.ok ⟨.skipped,none,some "aliyun_eci_log_sync_requires_aliyun_oss_storage"⟩)
  else if cloudRun.runtimeJobId = none then
    pure (.ok ⟨.skipped,none,some "aliyun_eci_log_sync_missing_runtime_job_id"⟩)
  else
    match replies.content with
    | .error e => pure (.error e)
    | .ok content =>
      if content = "" then
        pure (.ok ⟨.unchanged,none,some "aliyun_eci_log_sync_empty_provider_content"⟩)
      else if replies.sameDigest then pure (.ok ⟨.unchanged,none,none⟩)
      else
        match replies.upload with
        | .error e => pure (.error e)
        | .ok path => do
          let ref ← putOss ⟨cloudRun.workspaceId,cloudRunId,.log,content⟩ path
          pure (.ok ⟨.updated,some ref,none⟩)

def persistLogStreamRef (cloudRunId : Id) (cloudRun : CloudRun) (result : RemoteRuntimeLogSyncResult) :
    Op RemoteRuntimeLogSyncResult :=
  match result.status, result.logStreamRef with
  | .updated, some ref => do
    flush (.cloudRun cloudRunId) cloudRun (cloudRun.logStreamStored ref)
    commit
    pure result
  | _, _ => pure result

def syncCloudRunLogStream (cloudRunId : Id) (cloudRun : CloudRun) (replies : LogSyncReplies) :
    Op RemoteRuntimeLogSyncResult :=
  match cloudRun.runtimeProvider with
  | some (.other _) => pure ⟨.unsupported,none,some "unknown_runtime_provider"⟩
  | none => pure ⟨.skipped,none,some "missing_runtime_provider"⟩
  | some .remoteStub => do
    let result ← syncRemoteStubLogs cloudRunId cloudRun replies
    persistLogStreamRef cloudRunId cloudRun result
  | some .aliyunEci => do
    match ← syncAliyunEciLogs cloudRunId cloudRun replies with
    | .ok result => persistLogStreamRef cloudRunId cloudRun result
    | .error e =>
      rollback
      match e with
      | .unavailable => pure ⟨.skipped,none,some "log_sync_provider_unavailable"⟩
      | .failed => pure ⟨.skipped,none,some "log_sync_provider_failed"⟩

-- The reading of the entries, which changes nothing, follows.
def syncedLogWindow (ctx : Option AuthContext) (cloudRunId : Id) (cursorValid includeStream syncStream : Bool)
    (replies : LogSyncReplies) : Op Unit := do
  let cloudRun ← getCloudRunOr404 ctx cloudRunId
  requireAuditedPermissionIfAuthenticated ctx
  if !cursorValid then httpError 400 "Invalid log cursor"
  if includeStream && syncStream then
    let _ ← syncCloudRunLogStream cloudRunId cloudRun replies

end AiScdc
