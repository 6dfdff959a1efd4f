import AiScdc.CloudRunner.History
import AiScdc.CloudRunner.RunFootprints

namespace AiScdc
open Transaction RunPhase

theorem KeepsRun.trans {a b c : CloudRun} (h : KeepsRun a b) (h' : KeepsRun b c) : KeepsRun a c := by
  refine ⟨h'.leaseId.trans h.leaseId,h'.localRunId.trans h.localRunId,?_,
    fun hc => h.status (h'.status hc),?_,h.attempts.trans h'.attempts⟩
  · rcases h'.cancelRequested with he | ht
    · rw [he]
      exact h.cancelRequested
    · exact Or.inr ht
  · rcases h'.moves with he | ht
    · rw [he]
      exact h.moves
    · exact Or.inr ht

section reads

variable {G : Type} {P : Course Row G} {Φ : G → Prop}

theorem obeys_ensureCurrent (cloudRun : CloudRun)
    (workerId : String) : Obeys P Φ (ensureCurrentCloudRunLeaseOr409 cloudRun workerId) := by
  unfold ensureCurrentCloudRunLeaseOr409
  split
  · exact obeys_http _ _
  · split
    · exact obeys_http _ _
    · refine obeys_utcNow.bind fun now => ?_
      split
      · exact obeys_http _ _
      · exact .pure ()

theorem obeys_getCurrentLease (leaseId : Id) (workerId : String) :
    Obeys P Φ (getCurrentCloudRunLeaseOr409 leaseId workerId) := by
  refine obeys_selectWhere.bind fun current => ?_
  cases current with
  | nil => exact obeys_http _ _
  | cons entry rest => exact (obeys_ensureCurrent _ _).bind fun _ => .pure _

theorem obeys_resolve [Digest] (h : Resets P Φ) (cred : LeaseCredentials) :
    Obeys P Φ (resolveCloudRunCallbackLease cred) := by
  unfold resolveCloudRunCallbackLease
  split
  · refine (obeys_requirePresented h _).bind fun _ => obeys_selectWhere.bind fun leased => ?_
    cases leased with
    | nil => exact obeys_reject h _ _
    | cons entry rest =>
      exact (obeys_verifyToken h _ _ _ _ _ _).bind fun _ => (obeys_ensureCurrent _ _).bind fun _ => .pure _
  · exact (obeys_getCurrentLease _ _).bind fun _ => (obeys_verifyToken h _ _ _ _ _ _).bind fun _ => .pure _

theorem obeys_readDiffs [Digest] (oss : ArtifactRef → OssReply) (refs : List ArtifactRef) :
    Obeys P Φ (readDiffs oss refs) := by
  induction refs with
  | nil => exact .pure none
  | cons ref rest ih =>
    unfold readDiffs
    split
    · exact ih
    · exact (obeys_readText oss ref).bind fun _ => ih.bind fun _ => .pure _

theorem obeys_mnsReceipt (cloudRun : CloudRun) (req : ClaimRequest) :
    Obeys P Φ (validatedAliyunMnsClaimReceipt cloudRun req) := by
  unfold validatedAliyunMnsClaimReceipt
  repeat' split
  all_goals first | exact .pure _ | exact obeys_http _ _

theorem obeys_leaseRead (id : Id) (cloudRun : CloudRun) :
    Obeys P Φ (cloudRunLeaseRead id cloudRun) := by
  unfold cloudRunLeaseRead
  split
  · exact .pure _
  · exact obeys_http _ _

theorem obeys_validateSettings (data : CloudRunCreate) (replies : EnqueueReplies) :
    Obeys P Φ (validateCloudRunProviderSelection data replies) := by
  unfold validateCloudRunProviderSelection
  split
  · exact obeys_http _ _
  · refine (obeys_orHttp400 _).bind fun _ => (obeys_orHttp400 _).bind fun _ => ?_
    refine (obeys_orHttp400 _).bind fun _ => (obeys_orHttp400 _).bind fun _ => ?_
    exact (obeys_orHttp400 _).bind fun _ => obeys_orHttp400 _

theorem obeys_validateProfile (data : CloudRunCreate) (replies : EnqueueReplies) :
    Obeys P Φ (validateSandboxProfile data replies) := by
  unfold validateSandboxProfile
  repeat' split
  all_goals first | exact .pure _ | exact obeys_http _ _

theorem obeys_validateRepository (task : Task) (repository : Repository) :
    Obeys P Φ (validateRepository task repository) := by
  unfold validateRepository
  repeat' split
  all_goals first | exact .pure _ | exact obeys_http _ _

theorem obeys_queueEnqueue (provider : QueueProvider) (replies : EnqueueReplies) :
    Obeys P Φ (queueEnqueue provider replies) := by
  unfold queueEnqueue
  repeat' split
  all_goals first | exact .pure _ | exact .raise _

end reads

section completion

variable {A : Id → RunEdit → Prop} {Φ : RunPhase → Prop}

-- The worker's result as accepted: a referenced diff stands in for the one in the body.
def acceptedResult (body : CloudRunExecutionResultCreate) (result : SandboxExecutionResult) : Prop :=
  ∃ diffText, result = { body.toSandboxExecutionResult with diffText }

theorem obeys_resolveArtifacts [Digest] (id : Id) (cloudRun : CloudRun)
    (body : CloudRunExecutionResultCreate) (oss : ArtifactRef → OssReply) :
    Obeys (runCourse A) Φ (resolveCloudRunCompletionArtifacts id cloudRun body oss) := by
  refine (obeys_readDiffs oss _).bind fun diff => ?_
  cases diff with
  | none => exact .pure _
  | some text =>
    refine (obeys_log _ _ _ _).bind fun _ => ?_
    dsimp only
    split
    · exact (obeys_log _ _ _ _).bind fun _ => .pure _
    · exact .pure _

theorem gives_stub (cloudRun : CloudRun) (status : ResultStatus) :
    Gives (runCourse A) Φ (stubCompletion cloudRun status) (KeepsRun cloudRun) := by
  unfold stubCompletion
  split
  · exact obeys_utcNow.gives fun t => .pure ⟨rfl,rfl,Or.inl rfl,id,Or.inl rfl,rfl,rfl⟩
  · exact .pure (keepsRun_refl cloudRun)

theorem gives_useToken (cloudRun : CloudRun) :
    Gives (runCourse A) Φ (useCallbackToken cloudRun) (KeepsRun cloudRun) := by
  unfold useCallbackToken
  split
  · exact obeys_utcNow.gives fun t => .pure ⟨rfl,rfl,Or.inl rfl,id,Or.inl rfl,rfl,rfl⟩
  · exact .pure (keepsRun_refl cloudRun)

-- What a completion does once the lease is resolved.
def completeResolved [Digest] (ctx : Option AuthContext) (body : CloudRunExecutionResultCreate)
    (replies : CompletionReplies) (id : Id) (cloudRun : CloudRun) : Op CloudRunResult := do
  let result ← resolveCloudRunCompletionArtifacts id cloudRun body replies.oss
  let stubbed ← stubCompletion cloudRun result.status
  let used ← useCallbackToken stubbed
  let _ ← getRepository ctx cloudRun.repoId
  flush (.cloudRun id) cloudRun used
  appendCloudRunLog id cloudRun.workspaceId "info" .workerCompleted
  commit
  let cloudRun ← refresh (.cloudRun id)
  finalizeClaimedCloudRunResult ctx id cloudRun ⟨result,replies.secrets,replies.mnsDelete⟩

theorem complete_eq [Digest] (ctx : Option AuthContext) (cred : LeaseCredentials)
    (body : CloudRunExecutionResultCreate) (replies : CompletionReplies) :
    completeCloudRunLease ctx cred body replies = (do
      let (id,cloudRun) ← resolveCloudRunCallbackLease cred
      completeResolved ctx body replies id cloudRun) := by
  simp only [completeCloudRunLease,acceptCompletion,completeResolved,bind_assoc,pure_bind]

theorem obeys_completeResolved [Digest] {id : Id} (hA : A id .keep) (ctx : Option AuthContext)
    (body : CloudRunExecutionResultCreate) (replies : CompletionReplies) (cloudRun : CloudRun) :
    Obeys (runCourse A) (near id) (completeResolved ctx body replies id cloudRun) := by
  refine (obeys_resolveArtifacts id cloudRun body replies.oss).bind fun result => ?_
  refine (gives_stub cloudRun result.status).bind fun stubbed hs => ?_
  refine (gives_useToken stubbed).bind fun used hu => (obeys_getRepository ctx _).bind fun _ => ?_
  refine (obeys_keepRun (hs.trans hu) hA).bind fun _ => (obeys_log _ _ _ _).bind fun _ => ?_
  refine (obeys_commit (resets_near id)).bind fun _ => (obeys_refresh _).bind fun c => ?_
  exact obeys_finalize hA ctx c _

end completion

section leases

theorem delivered_status (c : CloudRun) (cloudRunId : Id) (provider : QueueProvider)
    (receipt : Option String) (leaseId : Id) (t : Time) :
    (delivered cloudRunId c provider receipt leaseId t).status = c.status := by
  unfold delivered
  split
  · rfl
  · split
    · split <;> rfl
    · rfl

variable {A : Id → RunEdit → Prop}

theorem obeys_claimCandidates [Digest] (hA : ∀ id, A id .lease ∧ A id .still) (req : ClaimRequest)
    (now : Time) (candidates : List Id) :
    Obeys (runCourse A) unheld (claimCandidates req now candidates) := by
  induction candidates with
  | nil => exact .pure none
  | cons id rest ih =>
    refine (obeys_get _).bind fun row => ?_
    cases row with
    | none => exact ih
    | some candidate =>
      refine (obeys_verifyToken resets_unheld _ _ _ _ _ _).bind fun _ => ?_
      refine (obeys_mnsReceipt candidate req).bind fun receipt => obeys_freshId.bind fun leaseId => ?_
      refine Obeys.bind (obeys_updateWhere fun x hx =>
        ⟨.busy,trivial,.edit id hx (.lease _ _ _ _ _) (hA id).1⟩) fun b => ?_
      cases b with
      | false => exact (obeys_rollback resets_unheld).bind fun _ => ih
      | true =>
        refine (obeys_refresh _).bind fun c => ?_
        refine (obeys_editRun (.still (keeps_delivered c id _ _ _ now) (delivered_status c id _ _ _ now)) (hA id).2).bind fun _ => ?_
        refine (obeys_getLocalRun _).bind fun entry => (obeys_flushPlain rfl).bind fun _ => ?_
        refine (obeys_log _ _ _ _).bind fun _ => (obeys_commit resets_unheld).bind fun _ => ?_
        exact (obeys_refresh _).bind fun c => (obeys_leaseRead _ _).bind fun _ => .pure _

theorem obeys_refuseActive [Digest] (req : ClaimRequest) (id : Id) (now : Time) :
    Obeys (runCourse A) unheld (refuseActiveLease req id now) := by
  have hverify (c : CloudRun) (b : Bool) := obeys_verifyToken (P := runCourse A) resets_unheld id c
    req.workerId req.callbackToken (some now) b
  refine (obeys_get _).bind fun row => ?_
  cases row with
  | none =>
    dsimp only
    split
    · exact (obeys_reject resets_unheld _ _).bind fun _ => .pure ()
    · exact .pure ()
  | some c =>
    have hlast : Obeys (runCourse A) unheld (if c.leaseExpiresAt.any fun t => now ≤ t then
        httpError 409 "Cloud run already has an active lease" else pure () : Op Unit) := by
      split
      · exact obeys_http _ _
      · exact .pure ()
    have htail : Obeys (runCourse A) unheld (if c.queueProvider = req.queueProvider ∧ c.status = .running ∧
        c.completedAt = none then do
        if !req.requireCallbackToken then
          verifyCloudRunCallbackTokenOr403 id c req.workerId req.callbackToken (some now) false
        if c.leaseExpiresAt.any fun t => now ≤ t then
          httpError 409 "Cloud run already has an active lease"
      else pure () : Op Unit) := by
      dsimp only
      split
      · split
        · exact (hverify c false).bind fun _ => hlast
        · exact hlast
      · exact .pure ()
    dsimp only
    split
    · exact (hverify c true).bind fun _ => htail
    · exact htail

theorem obeys_claimNext [Digest] (hA : ∀ id, A id .lease ∧ A id .still) (req : ClaimRequest) :
    Obeys (runCourse A) unheld (claimNextCloudRunLease req) := by
  have hclaim : Obeys (runCourse A) unheld (claimOldestQueued req) := by
    refine (obeys_orHttp400 _).bind fun _ => obeys_selectWhere.bind fun queued => ?_
    refine obeys_utcNow.bind fun now => ?_
    split
    · exact (obeys_refuseActive req _ now).bind fun _ => .pure none
    · exact obeys_claimCandidates hA req now _
  unfold claimNextCloudRunLease
  dsimp only
  split
  · refine (obeys_requirePresented resets_unheld _).bind fun _ => ?_
    split
    · exact (obeys_reject resets_unheld _ _).bind fun _ => hclaim
    · exact hclaim
  · exact hclaim

theorem obeys_heartbeat [Digest] (hA : ∀ id, A id .keep) (cred : LeaseCredentials) (leaseSeconds : ℕ) :
    Obeys (runCourse A) unheld (heartbeatCloudRunLease cred leaseSeconds) := by
  refine (obeys_resolve resets_unheld cred).bind fun entry => obeys_utcNow.bind fun now => ?_
  refine (obeys_editRun (.keep (keeps_heartbeat _ _ now)) (hA entry.1)).bind fun _ => ?_
  refine (obeys_log _ _ _ _).bind fun _ => (obeys_commit resets_unheld).bind fun _ => ?_
  exact (obeys_refresh _).bind fun c => obeys_leaseRead _ c

theorem obeys_requeueRuns (hA : ∀ id, A id .requeue ∧ A id .keep) (expired : List ExpiredRun) :
    Obeys (runCourse A) unheld (requeueExpiredRuns expired) := by
  induction expired with
  | nil => exact .pure ()
  | cons e rest ih =>
    refine Obeys.bind ?_ fun _ => ih
    refine (obeys_getLocalRun _).bind fun entry => (obeys_log _ _ _ _).bind fun _ => ?_
    split
    · refine obeys_utcNow.bind fun t => ?_
      refine (obeys_editRun (.keep (keeps_attemptsExhausted _ t)) (hA _).2).bind fun _ => ?_
      refine (obeys_flushPlain rfl).bind fun _ => (obeys_log _ _ _ _).bind fun _ => ?_
      refine (gives_settle unregulated_budget _ _).bind fun settled hs => ?_
      exact obeys_editRun (.keep hs.keeps) (hA _).2
    · refine obeys_utcNow.bind fun t => (obeys_editRun (.requeue t) (hA _).1).bind fun _ => ?_
      exact (obeys_flushPlain rfl).bind fun _ => obeys_log _ _ _ _

theorem obeys_requeue (hA : ∀ id, A id .requeue ∧ A id .keep) (provider : QueueProvider) (limit : ℕ) :
    Obeys (runCourse A) unheld (requeueExpiredCloudRunLeases provider limit) := by
  refine (obeys_orHttp400 _).bind fun _ => obeys_utcNow.bind fun now => obeys_selectWhere.bind fun _ => ?_
  exact (obeys_requeueRuns hA _).bind fun _ => (obeys_commit resets_unheld).bind fun _ => .pure _

end leases

section enqueue

variable {A : Id → RunEdit → Prop}

theorem obeys_createQueued (hA : ∀ id, A id .create ∧ A id .link ∧ A id .keep) (ctx : Option AuthContext) (taskId : Id) (task : Task)
    (repository : Repository) (data : CloudRunCreate) (sandboxKind : String) :
    Obeys (runCourse A) unheld
      (createQueuedCloudRun ctx taskId task repository data sandboxKind) := by
  refine (obeys_reserve unregulated_budget ctx _ _).bind fun entry => obeys_freshId.bind fun id => ?_
  refine obeys_utcNow.bind fun createdAt => ?_
  refine (obeys_insert fun x hx => ⟨.busy,trivial,RunUpdate.create id _ hx (hA id).1 rfl⟩).bind fun _ => ?_
  refine obeys_utcNow.bind fun _ => (obeys_flushPlain rfl).bind fun _ => obeys_freshId.bind fun l => ?_
  refine obeys_utcNow.bind fun _ => (obeys_insertPlain rfl).bind fun _ => obeys_utcNow.bind fun t => ?_
  refine (obeys_editRun (.link _ l t) (hA id).2.1).bind fun _ => (obeys_log _ _ _ _).bind fun _ => ?_
  refine (obeys_commit resets_unheld).bind fun _ => (obeys_refresh _).bind fun _ => ?_
  exact (obeys_refresh _).bind fun _ => .pure _

theorem obeys_protect [Digest] (hA : ∀ id, A id .create ∧ A id .link ∧ A id .keep) (data : CloudRunCreate) (token : String) (id : Id)
    (cloudRun : CloudRun) : Obeys (runCourse A) unheld (protectCloudRun data token id cloudRun) := by
  unfold protectCloudRun
  split
  · exact .pure _
  · refine obeys_utcNow.bind fun now => ?_
    refine (obeys_editRun (.keep (keeps_guarded cloudRun _ _ _)) (hA id).2.2).bind fun _ => ?_
    exact (obeys_commit resets_unheld).bind fun _ => obeys_refresh _

theorem obeys_recordQueue (hA : ∀ id, A id .create ∧ A id .link ∧ A id .keep) (queued : QueuedCloudRun) (cloudRun : CloudRun)
    (result : Except String CloudQueueEnqueueResult) :
    Obeys (runCourse A) unheld (recordQueueResult queued cloudRun result) := by
  cases result with
  | error detail =>
    refine obeys_utcNow.bind fun t => ?_
    refine (obeys_editRun (.keep (keeps_queueEnqueueFailed cloudRun detail t)) (hA _).2.2).bind fun _ => ?_
    refine (obeys_flushPlain rfl).bind fun _ => (obeys_log _ _ _ _).bind fun _ => ?_
    refine (gives_release unregulated_budget _).bind fun released hr => ?_
    refine (obeys_editRun (.keep hr.keeps) (hA _).2.2).bind fun _ => ?_
    exact (obeys_commit resets_unheld).bind fun _ => obeys_http _ _
  | ok result =>
    refine obeys_utcNow.bind fun t => ?_
    refine (obeys_editRun (.keep (keeps_enqueued cloudRun _ _ _ t)) (hA _).2.2).bind fun _ => ?_
    exact (obeys_commit resets_unheld).bind fun _ => obeys_refresh _

theorem obeys_sendMessage (hA : ∀ id, A id .create ∧ A id .link ∧ A id .keep) (data : CloudRunCreate) (replies : EnqueueReplies)
    (queued : QueuedCloudRun) (cloudRun : CloudRun) :
    Obeys (runCourse A) unheld (sendQueueMessage data replies queued cloudRun) := by
  refine Obeys.bind ?_ fun result => obeys_recordQueue hA queued cloudRun result
  split
  · exact obeys_queueEnqueue _ _
  · exact (obeys_log _ _ _ _).bind fun _ => .pure _

theorem obeys_submit [Digest] (provider : RuntimeProvider) (id : Id) (cloudRun : CloudRun)
    (replies : EnqueueReplies) {Φ : RunPhase → Prop} :
    Obeys (runCourse A) Φ (submitRemoteRuntime provider id cloudRun replies) := by
  have hput (write : ObjectStorageWrite) (uri : Id → ObjectUri) (text : String) :
      Obeys (runCourse A) Φ (putText write uri text) := obeys_putText (fun _ => unregulated rfl) _ _ _
  cases provider with
  | remoteStub =>
    refine Obeys.bind ?_ fun _ => .pure _
    unfold submitRemoteStub
    dsimp only
    split
    · exact (hput _ _ _).bind fun _ => (hput _ _ _).bind fun _ => .pure _
    · exact .pure _
  | aliyunEci =>
    unfold submitRemoteRuntime submitAliyunEci
    dsimp only
    split
    · exact .raise _
    · split
      · exact .pure _
      · split
        · exact (hput _ _ _).bind fun _ => (hput _ _ _).bind fun _ => .pure _
        · exact .pure _
  | other name => exact .raise _

theorem obeys_failSubmission (hA : ∀ id, A id .create ∧ A id .link ∧ A id .keep) (ctx : Option AuthContext) (id : Id)
    (detail : String) : Obeys (runCourse A) unheld (failRuntimeSubmission ctx id detail) := by
  refine (obeys_rollback resets_unheld).bind fun _ => (obeys_getCloudRun ctx id).bind fun c => ?_
  refine (obeys_getLocalRun c).bind fun entry => obeys_utcNow.bind fun t => ?_
  refine (obeys_editRun (.keep (keeps_runtimeSubmissionFailed c detail t)) (hA id).2.2).bind fun _ => ?_
  refine (obeys_flushPlain rfl).bind fun _ => (obeys_log _ _ _ _).bind fun _ => ?_
  refine (gives_settle unregulated_budget _ _).bind fun settled hs => ?_
  refine (obeys_editRun (.keep hs.keeps) (hA id).2.2).bind fun _ => ?_
  exact (obeys_commit resets_unheld).bind fun _ => obeys_http _ _

theorem obeys_submitToRuntime [Digest] (hA : ∀ id, A id .create ∧ A id .link ∧ A id .keep) (ctx : Option AuthContext)
    (data : CloudRunCreate) (replies : EnqueueReplies) (id : Id) (cloudRun : CloudRun) :
    Obeys (runCourse A) unheld (submitToRuntime ctx data replies id cloudRun) := by
  unfold submitToRuntime
  split
  · exact .pure ()
  · refine obeys_utcNow.bind fun t => (obeys_submit _ _ _ _).bind fun submission => ?_
    cases submission with
    | error detail => exact (obeys_failSubmission hA ctx id detail).bind fun _ => .pure ()
    | ok submission =>
      refine (obeys_editRun (.keep (keeps_runtimeSubmitted cloudRun t _ _ _)) (hA id).2.2).bind fun _ => ?_
      exact obeys_log _ _ _ _

theorem obeys_enqueue [Digest] (hA : ∀ id, A id .create ∧ A id .link ∧ A id .keep) (ctx : Option AuthContext) (taskId : Id)
    (data : CloudRunCreate) (replies : EnqueueReplies) :
    Obeys (runCourse A) unheld (enqueueCloudRun ctx taskId data replies) := by
  refine (obeys_getTask ctx taskId).bind fun task => (obeys_getRepository ctx _).bind fun repository => ?_
  refine (obeys_requirePermission resets_unheld ctx).bind fun _ => ?_
  refine (obeys_validateRepository task repository).bind fun _ => ?_
  refine (obeys_validateSettings data replies).bind fun _ => ?_
  refine (obeys_validateProfile data replies).bind fun _ => ?_
  refine (obeys_createQueued hA ctx taskId task repository data _).bind fun queued => ?_
  refine (obeys_protect hA data _ _ _).bind fun guarded => ?_
  refine (obeys_sendMessage hA data replies queued guarded).bind fun sent => ?_
  refine (obeys_submitToRuntime hA ctx data replies _ sent).bind fun _ => ?_
  exact (obeys_commit resets_unheld).bind fun _ => (obeys_refresh _).bind fun _ => .pure _

end enqueue

-- The edits of runs that an operation makes.
def CloudRunnerOp.edits : CloudRunnerOp → Id → RunEdit → Prop
  | .enqueue _ _ _ _, _, e => e = .create ∨ e = .link ∨ e = .keep
  | .claim _, _, e => e = .lease ∨ e = .still
  | .process _ _ _ _, _, e => e = .take ∨ e = .keep
  | .cancel _ _, _, e => e = .drop ∨ e = .still
  | .requeue _ _, _, e => e = .requeue ∨ e = .keep
  | _, _, e => e = .keep

theorem writes_program [Digest] (o : CloudRunnerOp) :
    Writes (runCourse o.edits) .clean o.program (fun _ _ => True) fun _ _ => True := by
  have hdone {α : Type} {A : Id → RunEdit → Prop} {Φ : RunPhase → Prop} {m : Op α}
      (h : Obeys (runCourse A) Φ m) (hx : Φ .clean) :
      Writes (runCourse A) .clean (discard m) (fun _ _ => True) fun _ _ => True :=
    h.then hx (fun _ _ _ => trivial) fun _ _ _ => trivial
  have hkeep {A : Id → RunEdit → Prop} (h : A = fun _ e => e = .keep) (id : Id) : A id .keep := by
    rw [h]
  cases o with
  | enqueue ctx taskId data replies =>
    exact hdone (obeys_enqueue (fun _ => ⟨Or.inl rfl,Or.inr (Or.inl rfl),Or.inr (Or.inr rfl)⟩) ctx
      taskId data replies) trivial
  | claim req => exact hdone (obeys_claimNext (fun _ => ⟨Or.inl rfl,Or.inr rfl⟩) req) trivial
  | heartbeat cred leaseSeconds => exact hdone (obeys_heartbeat (hkeep rfl) cred leaseSeconds) trivial
  | cancel ctx id => exact hdone (obeys_cancel (Or.inl rfl) (Or.inr rfl) ctx) trivial
  | requeue provider limit =>
    exact hdone (obeys_requeue (fun _ => ⟨Or.inl rfl,Or.inr rfl⟩) provider limit) trivial
  | complete ctx cred body replies =>
    refine Writes.bind ?_
    rw [complete_eq]
    refine (obeys_resolve resets_unheld cred).then trivial (fun entry y hy => ?_) fun _ _ _ => trivial
    exact (obeys_completeResolved (hkeep rfl entry.1) ctx body replies entry.2 y (hy.near entry.1)).mono
      (fun _ _ _ => trivial) fun _ _ _ => trivial
  | process ctx id workerId replies =>
    refine Writes.bind (Writes.mono (obeys_process (Or.inl rfl) (Or.inr rfl) ctx workerId
      replies trivial) ?_ ?_)
    · exact fun _ _ _ => trivial
    · exact fun _ _ _ => trivial

end AiScdc
