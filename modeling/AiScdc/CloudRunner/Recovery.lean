import AiScdc.CloudRunner.History
import AiScdc.CloudRunner.LogSync

namespace AiScdc
open Transaction

inductive ProviderOperationStatus where
  | skipped | failed | succeeded
  deriving DecidableEq, Repr

structure CloudRunProviderOperationResult where
  status : ProviderOperationStatus
  reason : String
  cloudRunId : Id
  cloudRun : CloudRun

namespace CloudRun

variable (c : CloudRun)

def receiptRecovered (now : Time) : CloudRun :=
  { c with
    queueReceipt := none
    externalStatus := some "mns_message_deleted"
    externalError := none
    updatedAt := now }

def receiptRetained (now : Time) : CloudRun :=
  { c with
    externalStatus := some "mns_message_delete_failed"
    externalError := some "mns_message_delete_failed"
    updatedAt := now }

def runtimeDeleted (now : Time) : CloudRun :=
  { c with externalStatus := some "runtime_cleanup_deleted", externalError := none, updatedAt := now }

def runtimeRetained (now : Time) : CloudRun :=
  { c with
    externalStatus := some "runtime_cleanup_failed"
    externalError := some "runtime_cleanup_failed"
    updatedAt := now }

end CloudRun

def mnsReceiptRecoverySkipReason (cloudRun : CloudRun) : Option String :=
  if cloudRun.queueProvider ≠ .aliyunMns then some "mns_receipt_recovery_requires_aliyun_mns"
  else if cloudRun.status.terminal = false then some "mns_receipt_recovery_requires_terminal_state"
  else if isPresent cloudRun.queueReceipt = false then some "mns_receipt_recovery_missing_receipt"
  else none

def aliyunEciRuntimeCleanupSkipReason (cloudRun : CloudRun) : Option String :=
  if cloudRun.runtimeProvider ≠ some .aliyunEci then some "runtime_cleanup_requires_aliyun_eci"
  else if cloudRun.status.terminal = false then some "runtime_cleanup_requires_terminal_state"
  else if cloudRun.externalStatus = some "runtime_cleanup_deleted" then
    some "runtime_cleanup_already_deleted"
  else if isPresent cloudRun.runtimeJobId = false then some "runtime_cleanup_missing_runtime_job_id"
  else none

-- The end that the recovery operations share. Their log rows and audit rows are left out.
def recordRecovery (cloudRunId : Id) (cloudRun recorded : CloudRun)
    (status : ProviderOperationStatus) (reason : String) : Op CloudRunProviderOperationResult := do
  flush (.cloudRun cloudRunId) cloudRun recorded
  commit
  let cloudRun ← refresh (.cloudRun cloudRunId)
  pure ⟨status,reason,cloudRunId,cloudRun⟩

def retryRetainedMnsQueueReceiptDelete (ctx : Option AuthContext) (cloudRunId : Id)
    (mnsDelete : MnsDelete) : Op CloudRunProviderOperationResult := do
  let cloudRun ← getCloudRunOr404 ctx cloudRunId
  requireAuditedPermissionIfAuthenticated ctx
  match mnsReceiptRecoverySkipReason cloudRun with
  | some reason =>
    let updatedAt ← utcNow
    recordRecovery cloudRunId cloudRun (cloudRun.touched updatedAt) .skipped reason
  | none =>
    match mnsDelete with
    | .misconfigured name => .throw (.unhandled name)
    | .failed =>
      let updatedAt ← utcNow
      recordRecovery cloudRunId cloudRun (cloudRun.receiptRetained updatedAt) .failed
        "mns_message_delete_failed"
    | .deleted =>
      let updatedAt ← utcNow
      recordRecovery cloudRunId cloudRun (cloudRun.receiptRecovered updatedAt) .succeeded
        "mns_message_deleted"

-- Whatever the ECI client raises, missing settings included, counts as a failed deletion.
inductive EciDelete where
  | deleted
  | raised
  deriving DecidableEq, Repr

def cleanupAliyunEciTerminalRuntimeJob (ctx : Option AuthContext) (cloudRunId : Id)
    (eciDelete : EciDelete) : Op CloudRunProviderOperationResult := do
  let cloudRun ← getCloudRunOr404 ctx cloudRunId
  requireAuditedPermissionIfAuthenticated ctx
  match aliyunEciRuntimeCleanupSkipReason cloudRun with
  | some reason =>
    let updatedAt ← utcNow
    recordRecovery cloudRunId cloudRun (cloudRun.touched updatedAt) .skipped reason
  | none =>
    let updatedAt ← utcNow
    match eciDelete with
    | .raised =>
      recordRecovery cloudRunId cloudRun (cloudRun.runtimeRetained updatedAt) .failed
        "runtime_cleanup_failed"
    | .deleted =>
      recordRecovery cloudRunId cloudRun (cloudRun.runtimeDeleted updatedAt) .succeeded
        "runtime_cleanup_deleted"

variable [Digest]

structure CloudRunArtifactUploadCreate where
  kind : ArtifactKind
  content : String
  deriving DecidableEq, Repr

inductive OssPut where
  | stored (path : String)
  | readError (detail : String)
  | raised (name : String)
  deriving DecidableEq, Repr

def putArtifact (cloudRunId : Id) (cloudRun : CloudRun) (data : CloudRunArtifactUploadCreate)
    (reply : OssPut) : Op (Except String ObjectStorageRef) :=
  let write : ObjectStorageWrite := ⟨cloudRun.workspaceId,cloudRunId,data.kind,data.content⟩
  match cloudRun.storageProvider with
  | some (.other name) => pure (.error s!"Unknown object storage provider: {name}")
  | some .aliyunOss =>
    match reply with
    | .raised name => .throw (.unhandled name)
    | .readError detail => pure (.error detail)
    | .stored path => do
      let ref ← putOss write path
      pure (.ok ref)
  | _ => do
    let ref ← putLocalInline write
    pure (.ok ref)

-- The log row of the upload is left out.
def uploadCloudRunLeaseArtifact (cred : LeaseCredentials) (data : CloudRunArtifactUploadCreate)
    (reply : OssPut) : Op ObjectStorageRef := do
  let (cloudRunId,cloudRun) ← resolveCloudRunCallbackLease cred
  match ← putArtifact cloudRunId cloudRun data reply with
  | .error detail =>
    rollback
    httpError 400 detail
  | .ok ref =>
    commit
    pure ref

-- Every operation that writes the rows of the cloud runs, the support for tests apart.
inductive CloudRunOp where
  | runner (o : CloudRunnerOp)
  | upload (cred : LeaseCredentials) (data : CloudRunArtifactUploadCreate) (reply : OssPut)
  | retryReceipt (ctx : Option AuthContext) (cloudRunId : Id) (mnsDelete : MnsDelete)
  | cleanupRuntime (ctx : Option AuthContext) (cloudRunId : Id) (eciDelete : EciDelete)
  | logWindow (ctx : Option AuthContext) (cloudRunId : Id) (cursorValid includeStream syncStream : Bool)
      (replies : LogSyncReplies)

def CloudRunOp.program : CloudRunOp → Op Unit
  | .runner o => o.program
  | .upload cred data reply => discard (uploadCloudRunLeaseArtifact cred data reply)
  | .retryReceipt ctx cloudRunId mnsDelete =>
    discard (retryRetainedMnsQueueReceiptDelete ctx cloudRunId mnsDelete)
  | .cleanupRuntime ctx cloudRunId eciDelete =>
    discard (cleanupAliyunEciTerminalRuntimeJob ctx cloudRunId eciDelete)
  | .logWindow ctx cloudRunId cursorValid includeStream syncStream replies =>
    syncedLogWindow ctx cloudRunId cursorValid includeStream syncStream replies

end AiScdc
