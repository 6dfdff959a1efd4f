import AiScdc.CloudRunner.Enqueue

namespace AiScdc

variable [Digest]

def ensureCurrentCloudRunLeaseOr409 (cloudRun : CloudRun) (workerId : String) : Op Unit :=
  if cloudRun.workerId ≠ some workerId ∨ cloudRun.status ≠ .running ∨ cloudRun.completedAt.isSome then
    httpError 409 "Cloud run lease is not current"
  else
    match cloudRun.leaseExpiresAt with
    | none => httpError 409 "Cloud run lease is not current"
    | some leaseExpiresAt => do
      let now ← utcNow
      if leaseExpiresAt < now then httpError 409 "Cloud run lease is not current" else pure ()

def getCurrentCloudRunLeaseOr409 (leaseId : Id) (workerId : String) : Op (Id × CloudRun) := do
  let current ← selectWhere .cloudRun fun cloudRunId cloudRun =>
    if cloudRun.leaseId = some leaseId ∧ cloudRun.workerId = some workerId ∧
        cloudRun.status = .running ∧ cloudRun.completedAt = none
    then some (cloudRunId,cloudRun) else none
  match current with
  | [] => httpError 409 "Cloud run lease is not current"
  | (cloudRunId,cloudRun) :: _ =>
    ensureCurrentCloudRunLeaseOr409 cloudRun workerId
    pure (cloudRunId,cloudRun)

structure LeaseCredentials where
  leaseId : Id
  workerId : String
  callbackToken : Option String
  requireCallbackToken : Bool
  deriving DecidableEq, Repr

def resolveCloudRunCallbackLease (cred : LeaseCredentials) : Op (Id × CloudRun) :=
  if cred.requireCallbackToken then do
    requirePresentedWorkerCallbackCredential cred.callbackToken
    let leased ← selectWhere .cloudRun fun cloudRunId cloudRun =>
      if cloudRun.leaseId = some cred.leaseId then some (cloudRunId,cloudRun) else none
    match leased with
    | [] => invalidToken
    | (cloudRunId,cloudRun) :: _ =>
      verifyCloudRunCallbackTokenOr403 cloudRunId cloudRun cred.workerId cred.callbackToken none true
      ensureCurrentCloudRunLeaseOr409 cloudRun cred.workerId
      pure (cloudRunId,cloudRun)
  else do
    let (cloudRunId,cloudRun) ← getCurrentCloudRunLeaseOr409 cred.leaseId cred.workerId
    verifyCloudRunCallbackTokenOr403 cloudRunId cloudRun cred.workerId cred.callbackToken none false
    pure (cloudRunId,cloudRun)

structure ClaimRequest where
  workerId : String
  workerKind : String
  queueProvider : QueueProvider
  cloudRunId : Option Id
  callbackToken : Option String
  queueMessageId : Option String
  queueReceipt : Option String
  leaseSeconds : ℕ
  requireCallbackToken : Bool
  deriving DecidableEq, Repr

def isPresent (text : Option String) : Bool := text.any fun t => t ≠ ""

def validatedAliyunMnsClaimReceipt (cloudRun : CloudRun) (req : ClaimRequest) : Op (Option String) :=
  if req.queueProvider ≠ .aliyunMns ∨ cloudRun.queueMessageId = none then pure none
  else if cloudRun.runtimeProvider = some .aliyunEci ∧ cloudRun.queueReceipt = none ∧
      req.queueMessageId = none ∧ req.queueReceipt = none then pure none
  else if !isPresent req.queueMessageId || !isPresent req.queueReceipt then
    httpError 400 "MNS delivery metadata is required"
  else if req.queueMessageId ≠ cloudRun.queueMessageId then
    httpError 409 "MNS message id does not match cloud run delivery"
  else pure req.queueReceipt

def isClaimable (cloudRun : CloudRun) : Bool :=
  cloudRun.status = .queued && !cloudRun.cancelRequested &&
    cloudRun.attemptCount < cloudRun.maxAttempts

def claimCloudRunLease (cloudRunId : Id) (req : ClaimRequest) (leaseId : Id) (now : Time) : Op Bool :=
  updateWhere (.cloudRun cloudRunId) isClaimable fun cloudRun =>
    cloudRun.leased req.workerId req.workerKind leaseId (now + seconds req.leaseSeconds) now

structure CloudRunLease where
  cloudRunId : Id
  cloudRun : CloudRun

def cloudRunLeaseRead (cloudRunId : Id) (cloudRun : CloudRun) : Op CloudRunLease :=
  if cloudRun.leaseId.isSome ∧ cloudRun.leaseExpiresAt.isSome ∧ cloudRun.heartbeatAt.isSome then
    pure ⟨cloudRunId,cloudRun⟩
  else httpError 409 "Cloud run lease is incomplete"

def delivered (cloudRunId : Id) (cloudRun : CloudRun) (provider : QueueProvider)
    (mnsQueueReceipt : Option String) (leaseId : Id) (now : Time) : CloudRun :=
  if provider = .externalStub then cloudRun.externalStubClaimed cloudRunId leaseId now
  else if provider = .aliyunMns then
    match mnsQueueReceipt with
    | some receipt => cloudRun.mnsMessageClaimed receipt now
    | none => cloudRun
  else cloudRun

def claimCandidates (req : ClaimRequest) (now : Time) : List Id → Op (Option CloudRunLease)
  | [] => pure none
  | candidateId :: rest => do
    match ← get (.cloudRun candidateId) with
    | none => claimCandidates req now rest
    | some candidate =>
      verifyCloudRunCallbackTokenOr403 candidateId candidate req.workerId req.callbackToken
        (some now) req.requireCallbackToken
      let mnsQueueReceipt ← validatedAliyunMnsClaimReceipt candidate req
      let leaseId ← freshId
      if ← claimCloudRunLease candidateId req leaseId now then
        let cloudRun ← refresh (.cloudRun candidateId)
        let claimed := delivered candidateId cloudRun req.queueProvider mnsQueueReceipt leaseId now
        flush (.cloudRun candidateId) cloudRun claimed
        let (localRunId,localRun) ← getCloudRunLocalRunOr404 claimed
        flush (.localTaskRun localRunId) localRun (localRun.moved .running now)
        appendCloudRunLog candidateId cloudRun.workspaceId "info" .leaseClaimed
        commit
        let cloudRun ← refresh (.cloudRun candidateId)
        let lease ← cloudRunLeaseRead candidateId cloudRun
        pure (some lease)
      else
        rollback
        claimCandidates req now rest

def refuseActiveLease (req : ClaimRequest) (cloudRunId : Id) (now : Time) : Op Unit := do
  let cloudRun ← get (.cloudRun cloudRunId)
  if req.requireCallbackToken then
    match cloudRun with
    | none => invalidToken
    | some cloudRun =>
      verifyCloudRunCallbackTokenOr403 cloudRunId cloudRun req.workerId req.callbackToken
        (some now) true
  match cloudRun with
  | none => pure ()
  | some cloudRun =>
    if cloudRun.queueProvider = req.queueProvider ∧ cloudRun.status = .running ∧
        cloudRun.completedAt = none then
      if !req.requireCallbackToken then
        verifyCloudRunCallbackTokenOr403 cloudRunId cloudRun req.workerId req.callbackToken
          (some now) false
      if cloudRun.leaseExpiresAt.any fun t => now ≤ t then
        httpError 409 "Cloud run already has an active lease"

def insertByTime (entries : List (Time × Id)) : List (Time × Id) :=
  entries.insertionSort fun a b => a.1 ≤ b.1

def claimOldestQueued (req : ClaimRequest) : Op (Option CloudRunLease) := do
  orHttp400 (getCloudQueueProvider req.queueProvider)
  let queued ← selectWhere .cloudRun fun cloudRunId cloudRun =>
    if isClaimable cloudRun ∧ cloudRun.queueProvider = req.queueProvider ∧
        req.cloudRunId.all (fun wanted => wanted = cloudRunId)
    then some (cloudRun.createdAt,cloudRunId) else none
  let candidateIds := ((insertByTime queued).take defaultLeaseClaimCandidateLimit).map Prod.snd
  let now ← utcNow
  match candidateIds, req.cloudRunId with
  | [], some cloudRunId =>
    refuseActiveLease req cloudRunId now
    pure none
  | candidateIds, _ => claimCandidates req now candidateIds

def claimNextCloudRunLease (req : ClaimRequest) : Op (Option CloudRunLease) := do
  if req.requireCallbackToken then
    requirePresentedWorkerCallbackCredential req.callbackToken
    if req.cloudRunId = none then rejectWorkerAuthentication 400 "Cloud run id is required"
  claimOldestQueued req

def heartbeatCloudRunLease (cred : LeaseCredentials) (leaseSeconds : ℕ) : Op CloudRunLease := do
  let (cloudRunId,cloudRun) ← resolveCloudRunCallbackLease cred
  let now ← utcNow
  flush (.cloudRun cloudRunId) cloudRun (cloudRun.heartbeat (now + seconds leaseSeconds) now)
  appendCloudRunLog cloudRunId cloudRun.workspaceId "info" .leaseHeartbeat
  commit
  let cloudRun ← refresh (.cloudRun cloudRunId)
  cloudRunLeaseRead cloudRunId cloudRun

structure ExpiredRun where
  cloudRunId : Id
  cloudRun : CloudRun
  leaseExpiresAt : Time

def isExpired (cloudRun : CloudRun) (provider : QueueProvider) (now : Time) : Bool :=
  cloudRun.status = .running && cloudRun.queueProvider = provider &&
    cloudRun.completedAt.isNone && cloudRun.leaseExpiresAt.any fun t => t < now

def exhaustLease (cloudRunId : Id) (cloudRun : CloudRun) (localRunId : Id)
    (localRun : LocalTaskRun) : Op Unit := do
  let completedAt ← utcNow
  let failed := cloudRun.attemptsExhausted completedAt
  flush (.cloudRun cloudRunId) cloudRun failed
  flush (.localTaskRun localRunId) localRun (localRun.failed "lease_attempts_exhausted" completedAt)
  appendCloudRunLog cloudRunId cloudRun.workspaceId "error" .failed
  let settled ← settleCloudRunBudget cloudRunId failed
  flush (.cloudRun cloudRunId) failed settled

def requeueRun (cloudRunId : Id) (cloudRun : CloudRun) (localRunId : Id)
    (localRun : LocalTaskRun) : Op Unit := do
  let updatedAt ← utcNow
  flush (.cloudRun cloudRunId) cloudRun (cloudRun.requeued updatedAt)
  flush (.localTaskRun localRunId) localRun (localRun.moved .queued updatedAt)
  appendCloudRunLog cloudRunId cloudRun.workspaceId "info" .runRequeued

def requeueExpiredRun (expired : ExpiredRun) : Op Unit := do
  let cloudRun := expired.cloudRun
  let (localRunId,localRun) ← getCloudRunLocalRunOr404 cloudRun
  appendCloudRunLog expired.cloudRunId cloudRun.workspaceId "warning" .leaseExpired
  if cloudRun.attemptCount ≥ cloudRun.maxAttempts then
    exhaustLease expired.cloudRunId cloudRun localRunId localRun
  else requeueRun expired.cloudRunId cloudRun localRunId localRun

def requeueExpiredRuns : List ExpiredRun → Op Unit
  | [] => pure ()
  | expired :: rest => do
    requeueExpiredRun expired
    requeueExpiredRuns rest

def expiredRuns (selected : List ExpiredRun) (limit : ℕ) : List ExpiredRun :=
  (selected.insertionSort fun a b => a.leaseExpiresAt ≤ b.leaseExpiresAt).take limit

def expiredRun (provider : QueueProvider) (now : Time) (cloudRunId : Id) (cloudRun : CloudRun) :
    Option ExpiredRun :=
  if isExpired cloudRun provider now then
    cloudRun.leaseExpiresAt.map (ExpiredRun.mk cloudRunId cloudRun)
  else none

def requeueExpiredAt (provider : QueueProvider) (limit : ℕ) (now : Time) : Op (List Id) := do
  let selected ← selectWhere .cloudRun (expiredRun provider now)
  let expired := expiredRuns selected limit
  requeueExpiredRuns expired
  commit
  pure (expired.map ExpiredRun.cloudRunId)

def requeueExpiredCloudRunLeases (provider : QueueProvider) (limit : ℕ) : Op (List Id) := do
  orHttp400 (getCloudQueueProvider provider)
  let now ← utcNow
  requeueExpiredAt provider limit now

end AiScdc
