import AiScdc.CloudRunner.Recovery
import AiScdc.CloudRunner.RunTraces

namespace AiScdc
open Transaction

variable [Digest]

-- What lets a worker's request past the callback token check.
inductive TokenAccepted (clock : ℕ → Time) (id : Id) (c : CloudRun) (workerId : String)
    (callbackToken : Option String) (requireToken : Bool) : Prop
  | unguarded (hash : c.callbackTokenHash = none) (optional : requireToken = false)
  | checked {token : String} {expiresAt : Time} (n : ℕ) (presented : callbackToken = some token)
      (unused : c.callbackTokenUsedAt = none) (expires : c.callbackTokenExpiresAt = some expiresAt)
      (live : clock n ≤ expiresAt)
      (hash : c.callbackTokenHash = some (hashCallbackToken id workerId token))

structure LeaseAccepted (clock : ℕ → Time) (cred : LeaseCredentials) (id : Id) (c : CloudRun) : Prop where
  leaseId : c.leaseId = some cred.leaseId
  workerId : c.workerId = some cred.workerId
  running : c.status = .running
  unfinished : c.completedAt = none
  current : ∃ expiresAt n, c.leaseExpiresAt = some expiresAt ∧ clock n ≤ expiresAt
  token : TokenAccepted clock id c cred.workerId cred.callbackToken cred.requireCallbackToken

inductive ReceiptAccepted (c : CloudRun) (req : ClaimRequest) : Option String → Prop
  | otherQueue (h : req.queueProvider ≠ .aliyunMns) : ReceiptAccepted c req none
  | undelivered (h : c.queueMessageId = none) : ReceiptAccepted c req none
  | unqueued (runtime : c.runtimeProvider = some .aliyunEci) (receipt : c.queueReceipt = none) :
      ReceiptAccepted c req none
  | delivered (provider : req.queueProvider = .aliyunMns)
      (present : isPresent req.queueMessageId = true ∧ isPresent req.queueReceipt = true)
      (message : req.queueMessageId = c.queueMessageId) : ReceiptAccepted c req req.queueReceipt

-- The row of a new run before its queue message is sent.
structure RunUnsent (data : CloudRunCreate) (c : CloudRun) : Prop where
  status : c.status = .queued
  queueProvider : c.queueProvider = data.queueProvider
  runtimeProvider : c.runtimeProvider = data.runtimeProvider
  storageProvider : c.storageProvider = data.storageProvider
  queueMessageId : c.queueMessageId = none
  queueReceipt : c.queueReceipt = none

structure RunSent (data : CloudRunCreate) (c : CloudRun) : Prop where
  status : c.status = .queued
  queueProvider : c.queueProvider = data.queueProvider
  runtimeProvider : c.runtimeProvider = data.runtimeProvider
  storageProvider : c.storageProvider = data.storageProvider
  queueReceipt : c.queueReceipt = none

section replies

omit [Digest]

variable (data : CloudRunCreate) (replies : EnqueueReplies)

-- What the queue answers to the message of a run: the id of the message and the external status.
inductive MessageSent : Option String → Option String → Prop
  | mns {messageId} (hqueue : data.queueProvider = .aliyunMns)
      (hruntime : data.runtimeProvider ≠ some .aliyunEci) (h : replies.queue = .sent messageId) :
      MessageSent messageId (some "queued")
  | skipped (hqueue : data.queueProvider = .aliyunMns) (hruntime : data.runtimeProvider = some .aliyunEci) :
      MessageSent none none
  | stub (hqueue : data.queueProvider = .externalStub) : MessageSent none (some "queued")
  | localDb (hqueue : data.queueProvider = .localDb) : MessageSent none none

inductive MessageRefused : String → Prop
  | mns (hqueue : data.queueProvider = .aliyunMns) (hruntime : data.runtimeProvider ≠ some .aliyunEci)
      (h : replies.queue = .refused) :
      MessageRefused "Cloud queue provider aliyun_mns failed to enqueue message"

-- What the runtime answers to the job of a run: the id of the job and the texts stored for it.
inductive JobSubmitted (id : Id) : String → Option ObjectStorageRef → Option ObjectStorageRef → Prop
  | stub (hruntime : data.runtimeProvider = some .remoteStub)
      (hstorage : data.storageProvider ≠ some .localInline) :
      JobSubmitted id s!"remote-stub-job-{cloudRunText id}" none none
  | stubStored (manifestId logId : Id) (hruntime : data.runtimeProvider = some .remoteStub)
      (hstorage : data.storageProvider = some .localInline) :
      JobSubmitted id s!"remote-stub-job-{cloudRunText id}"
        (some ⟨.localInline manifestId,replies.manifestText.utf8ByteSize⟩)
        (some ⟨.localInline logId,"Remote runtime submitted via remote_stub.\n".utf8ByteSize⟩)
  | eci {containerGroupId manifestPath logPath} (hruntime : data.runtimeProvider = some .aliyunEci)
      (h : replies.runtime = .created containerGroupId manifestPath logPath)
      (hstorage : data.storageProvider ≠ some .aliyunOss) : JobSubmitted id containerGroupId none none
  | eciStored {containerGroupId manifestPath logPath} (hruntime : data.runtimeProvider = some .aliyunEci)
      (h : replies.runtime = .created containerGroupId manifestPath logPath)
      (hstorage : data.storageProvider = some .aliyunOss) :
      JobSubmitted id containerGroupId (some ⟨.oss manifestPath,replies.manifestText.utf8ByteSize⟩)
        (some ⟨.oss logPath,"Remote runtime submitted via aliyun_eci.\n".utf8ByteSize⟩)

inductive JobRefused : String → Prop
  | eci (hruntime : data.runtimeProvider = some .aliyunEci) (h : replies.runtime = .refused) :
      JobRefused "Cloud runtime provider aliyun_eci failed to submit container group"

-- The text that a log sync stores for a run.
inductive LogSynced (c : CloudRun) (replies : LogSyncReplies) : ObjectStorageRef → Prop
  | stub (objectId : Id) (hruntime : c.runtimeProvider = some .remoteStub)
      (hstorage : c.storageProvider = some .localInline) (hnew : replies.sameDigest = false) :
      LogSynced c replies ⟨.localInline objectId,("Remote runtime submitted via remote_stub.\n" ++
        "Remote runtime log sync via remote_stub.\n").utf8ByteSize⟩
  | eci {content path} (hruntime : c.runtimeProvider = some .aliyunEci)
      (hstorage : c.storageProvider = some .aliyunOss) (hjob : c.runtimeJobId ≠ none)
      (hcontent : replies.content = .ok content) (hsome : content ≠ "") (hnew : replies.sameDigest = false)
      (hupload : replies.upload = .ok path) : LogSynced c replies ⟨.oss path,content.utf8ByteSize⟩

-- What an operation ends a run with: what its worker reported, or what was executed for it.
inductive CloudRunOp.Ends (id : Id) (c : CloudRun) : CloudRunOp → FinalizeInput → Prop
  | reported {ctx cred body replies result} (h : acceptedResult body result) :
      Ends id c (.runner (.complete ctx cred body replies)) ⟨result,replies.secrets,replies.mnsDelete⟩
  | executed {ctx workerId replies} : Ends id c (.runner (.process ctx id workerId replies))
      ⟨executionResult c replies,replies.secrets,replies.mnsDelete⟩

-- The artifact and the command results that the row of an ended run keeps.
inductive KeptOf (input : FinalizeInput) : Option Id → List CommandResult → Prop
  | patched (artifactId : Id) (h : shouldCreatePatchArtifact input.result = true) :
      KeptOf input (some artifactId) (commandResultPayloads input.result.commandResults input.secrets)
  | unpatched (h : shouldCreatePatchArtifact input.result = false) : KeptOf input none input.allPayloads

end replies

def completedBy (c : CloudRun) (status : ResultStatus) (stubbedAt usedAt : Time) : CloudRun :=
  let stubbed := if c.queueProvider = .externalStub then c.externalStubCompleted status stubbedAt else c
  if c.callbackTokenHash.isSome then stubbed.callbackTokenUsed usedAt else stubbed

-- The row that the failure handler of process_cloud_run finds in its session.
inductive Partly (c : CloudRun) : CloudRun → Prop
  | untouched : Partly c c
  | recorded (now recordedAt : Time) (status : ResultStatus) (artifactId : Option Id)
      (commandResults : List CommandResult) (failureReason : Option String) :
      Partly c ((c.touched now).resultRecorded status artifactId commandResults failureReason recordedAt)

omit [Digest] in
-- The reply of the queue's delete to an operation that ends the run.
def CloudRunOp.ending (id : Id) : CloudRunOp → Option MnsDelete
  | .runner (.complete _ _ _ replies) => some replies.mnsDelete
  | .runner (.process _ cloudRunId _ replies) => if cloudRunId = id then some replies.mnsDelete else none
  | _ => none

-- What one commit of an operation may do to the row of a run.
inductive RunMove (clock : ℕ → Time) : CloudRunOp → Id → Option CloudRun → Option CloudRun → Prop
  | queued {ctx taskId data replies id} (task : Task) (repository : Repository) (reservationId : Id)
      (reservedCents : ℤ) (localRunId : Id) (m n : ℕ) :
      RunMove clock (.runner (.enqueue ctx taskId data replies)) id none
        (some ((newCloudRun task taskId repository data replies.sandboxKind reservationId
          reservedCents (clock m)).linked s!"ai-scdc/task-task_{taskId}-{cloudRunText id}" localRunId (clock n)))
  | guarded {ctx taskId data replies id b} (workerId : String) (n : ℕ)
      (hworker : protectedWorkerId data id = some workerId)
      (hdata : ∀ name, data.runtimeProvider ≠ some (.other name)) (hb : RunUnsent data b)
      (hnone : b.callbackTokenHash = none) :
      RunMove clock (.runner (.enqueue ctx taskId data replies)) id (some b)
        (some (b.guarded workerId (hashCallbackToken id workerId replies.callbackToken)
          (clock n + callbackTokenLifetime)))
  | queueRefused {ctx taskId data replies id b c detail} (n : ℕ) (hb : RunUnsent data b)
      (hrefused : MessageRefused data replies detail)
      (h : Resummed (b.queueEnqueueFailed detail (clock n)) c) :
      RunMove clock (.runner (.enqueue ctx taskId data replies)) id (some b) (some c)
  | enqueued {ctx taskId data replies id b queueMessageId externalStatus} (n : ℕ) (hb : RunUnsent data b)
      (hsent : MessageSent data replies queueMessageId externalStatus) :
      RunMove clock (.runner (.enqueue ctx taskId data replies)) id (some b)
        (some (b.enqueued queueMessageId none externalStatus (clock n)))
  | runtimeRefused {ctx taskId data replies id b c detail} (n : ℕ) (hb : RunSent data b)
      (hrefused : JobRefused data replies detail)
      (h : Resummed (b.runtimeSubmissionFailed detail (clock n)) c) :
      RunMove clock (.runner (.enqueue ctx taskId data replies)) id (some b) (some c)
  | submitted {ctx taskId data replies id b runtimeJobId manifest log} (n : ℕ) (hb : RunSent data b)
      (hsubmitted : JobSubmitted data replies id runtimeJobId manifest log) :
      RunMove clock (.runner (.enqueue ctx taskId data replies)) id (some b)
        (some ((b.touched (clock n)).runtimeSubmitted runtimeJobId manifest log))
  | leased {req id b} (receipt : Option String) (leaseId : Id) (n : ℕ)
      (hb : isClaimable b = true) (hprovider : b.queueProvider = req.queueProvider)
      (htoken : TokenAccepted clock id b req.workerId req.callbackToken req.requireCallbackToken)
      (hreceipt : ReceiptAccepted b req receipt) :
      RunMove clock (.runner (.claim req)) id (some b)
        (some (delivered id (b.leased req.workerId req.workerKind leaseId
          (clock n + seconds req.leaseSeconds) (clock n)) req.queueProvider receipt leaseId (clock n)))
  | beat {cred leaseSeconds id b} (n : ℕ) (h : LeaseAccepted clock cred id b) :
      RunMove clock (.runner (.heartbeat cred leaseSeconds)) id (some b)
        (some (b.heartbeat (clock n + seconds leaseSeconds) (clock n)))
  | exhausted {provider limit id b c} (m n : ℕ) (hb : isExpired b provider (clock m) = true)
      (hmax : b.maxAttempts ≤ b.attemptCount) (h : Resummed (b.attemptsExhausted (clock n)) c) :
      RunMove clock (.runner (.requeue provider limit)) id (some b) (some c)
  | requeued {provider limit id b} (m n : ℕ) (hb : isExpired b provider (clock m) = true)
      (hmax : b.attemptCount < b.maxAttempts) :
      RunMove clock (.runner (.requeue provider limit)) id (some b) (some (b.requeued (clock n)))
  | cancelledQueued {ctx id b c} (n : ℕ) (hb : b.status = .queued)
      (h : Resummed ((b.cancelledWhileQueued (clock n)).callbackTokenRevoked (clock n)) c) :
      RunMove clock (.runner (.cancel ctx id)) id (some b) (some c)
  | cancelAsked {ctx id b} (n : ℕ) (hb : b.status = .running) (hopen : b.completedAt = none) :
      RunMove clock (.runner (.cancel ctx id)) id (some b) (some (b.cancelAsked (clock n)))
  | accepted {ctx cred body replies id b} (m n : ℕ) (h : LeaseAccepted clock cred id b) :
      RunMove clock (.runner (.complete ctx cred body replies)) id (some b)
        (some (completedBy b body.toSandboxExecutionResult.status (clock m) (clock n)))
  | taken {ctx id workerId replies b} (n : ℕ) (hb : b.status = .queued) :
      RunMove clock (.runner (.process ctx id workerId replies)) id (some b)
        (some (b.claimed workerId (clock n)))
  | finished {o input artifactId commandResults id b c} (m n : ℕ) (ho : o.Ends id b input)
      (hb : b.status = .running) (hopen : b.completedAt = none) (hcancel : b.cancelRequested = false)
      (hrecorded : KeptOf input artifactId commandResults)
      (h : Resummed ((b.touched (clock m)).resultRecorded input.result.status artifactId commandResults
        input.result.failureReason (clock n)) c) : RunMove clock o id (some b) (some c)
  | cancelledAfter {o input id b c} (n : ℕ) (ho : o.Ends id b input) (hb : b.status = .running)
      (hcancel : b.cancelRequested = true)
      (h : Resummed (b.cancelledAfterExecution input.allPayloads (clock n)) c) :
      RunMove clock o id (some b) (some c)
  | preflightFailed {ctx id workerId replies b c} (x : CloudRun) (message : String) (n : ℕ)
      (hb : b.status = .running) (hx : Partly b x)
      (h : Resummed (x.preflightFailed "cloud_run_preflight_failed" message (clock n)) c) :
      RunMove clock (.runner (.process ctx id workerId replies)) id (some b) (some c)
  | acknowledged {o id b} (n : ℕ) (ho : o.ending id = some .deleted)
      (hb : mnsReceiptRecoverySkipReason b = none) :
      RunMove clock o id (some b) (some (b.mnsMessageDeleted (clock n)))
  | unacknowledged {o id b} (n : ℕ) (ho : o.ending id = some .failed)
      (hb : mnsReceiptRecoverySkipReason b = none) :
      RunMove clock o id (some b) (some (b.mnsMessageDeleteFailed (clock n)))
  | retrySkipped {ctx id mnsDelete b} (n : ℕ) (hb : mnsReceiptRecoverySkipReason b ≠ none) :
      RunMove clock (.retryReceipt ctx id mnsDelete) id (some b) (some (b.touched (clock n)))
  | receiptRecovered {ctx id b} (n : ℕ) (hb : mnsReceiptRecoverySkipReason b = none) :
      RunMove clock (.retryReceipt ctx id .deleted) id (some b) (some (b.receiptRecovered (clock n)))
  | receiptRetained {ctx id b} (n : ℕ) (hb : mnsReceiptRecoverySkipReason b = none) :
      RunMove clock (.retryReceipt ctx id .failed) id (some b) (some (b.receiptRetained (clock n)))
  | cleanupSkipped {ctx id eciDelete b} (n : ℕ) (hb : aliyunEciRuntimeCleanupSkipReason b ≠ none) :
      RunMove clock (.cleanupRuntime ctx id eciDelete) id (some b) (some (b.touched (clock n)))
  | runtimeDeleted {ctx id b} (n : ℕ) (hb : aliyunEciRuntimeCleanupSkipReason b = none) :
      RunMove clock (.cleanupRuntime ctx id .deleted) id (some b) (some (b.runtimeDeleted (clock n)))
  | runtimeRetained {ctx id b} (n : ℕ) (hb : aliyunEciRuntimeCleanupSkipReason b = none) :
      RunMove clock (.cleanupRuntime ctx id .raised) id (some b) (some (b.runtimeRetained (clock n)))
  | logSynced {ctx id cursorValid replies b ref} (hsynced : LogSynced b replies ref) :
      RunMove clock (.logWindow ctx id cursorValid true true replies) id (some b)
        (some (b.logStreamStored ref))

def RunsMove (clock : ℕ → Time) (o : CloudRunOp) (X Y : Runs) : Prop :=
  ∀ i, X i = Y i ∨ RunMove clock o i (X i) (Y i)

variable {clock : ℕ → Time} {o : CloudRunOp}

omit [Digest] in
theorem CloudRunOp.Ends.ending {id : Id} {c : CloudRun} {input : FinalizeInput} (h : o.Ends id c input) :
    o.ending id = some input.mnsDelete := by
  cases h with
  | reported _ => rfl
  | executed => exact if_pos rfl

theorem RunMove.lands {id : Id} {b c : Option CloudRun} (h : RunMove clock o id b c) :
    ∃ d, c = some d := by
  cases h <;> exact ⟨_,rfl⟩

theorem runsMove_refl (X : Runs) : RunsMove clock o X X := fun _ => Or.inl rfl

theorem runsMove_update {X : Runs} {i : Id} {c : Option CloudRun} (h : RunMove clock o i (X i) c) :
    RunsMove clock o X (Function.update X i c) := by
  intro j
  by_cases hj : j = i
  · subst hj
    rw [Function.update_self]
    exact Or.inr h
  · rw [Function.update_of_ne hj]
    exact Or.inl rfl

end AiScdc
