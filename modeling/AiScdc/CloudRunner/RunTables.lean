import AiScdc.CloudRunner.LeaseFootprints

namespace AiScdc
open Transaction

-- The tables that only the operations on cloud runs concern.
def Key.isRunTable : Key → Bool
  | .creditWallet _ | .budgetReservation _ | .cloudRunUsage _ _ | .cloudRun _ | .localTaskRun _
  | .cloudRunLogEntry _ | .storedObject _ => true
  | _ => false

def TaskEventPayload.isTransition : TaskEventPayload → Bool
  | .taskTransitioned _ _ => true
  | _ => false

variable {G : Type} {P : Course Row G} {Φ : G → Prop}

-- A course that leaves these tables alone, seen from the operations that write little else.
structure RunTables (P : Course Row G) (Φ : G → Prop) : Prop where
  rows : ∀ k : Key, k.isRunTable → Unregulated P Φ k
  resets : Resets P Φ
  note : ∀ taskId payload createdAt, TaskEventPayload.isTransition payload = false →
    Obeys P Φ (createTaskEvent taskId payload createdAt)

-- Φ holds again wherever a handler for HTTP errors could take over.
def ObeysHttp {α : Type} (P : Course Row G) (Φ : G → Prop) (m : Op α) : Prop :=
  ∀ x, Φ x → Writes P x m (fun _ y => Φ y) fun e y => e.isHttp = true → Φ y

section http

variable {α β : Type} {m : Op α}

theorem obeysHttp (h : Obeys P Φ m) : ObeysHttp P Φ m :=
  fun x hx => (h x hx).mono (fun _ _ hy => hy) fun _ _ hy _ => hy

theorem ObeysHttp.bind {f : α → Op β} (h : ObeysHttp P Φ m) (hf : ∀ a, ObeysHttp P Φ (f a)) :
    ObeysHttp P Φ (m >>= f) :=
  fun x hx => Writes.bind ((h x hx).mono (fun a y hy => hf a y hy) fun _ _ hy => hy)

theorem ObeysHttp.after {f : α → Op β} (h : Obeys P Φ m) (hf : ∀ a, ObeysHttp P Φ (f a)) :
    ObeysHttp P Φ (m >>= f) := (obeysHttp h).bind hf

theorem ObeysHttp.catchHttp {handler : String → Op α} (hm : ObeysHttp P Φ m)
    (hh : ∀ detail, ObeysHttp P Φ (handler detail)) : ObeysHttp P Φ (catchHttp m handler) := by
  refine fun x hx => Writes.tryCatch ((hm x hx).mono (fun _ _ hy => hy) fun e y hy => ?_)
  cases e with
  | http statusCode detail => exact hh detail y (hy rfl)
  | integrityError => exact hy
  | unhandled name => exact hy

end http

namespace RunTables

theorem budget (h : RunTables P Φ) (k : Key) (hk : k.isBudget) : Unregulated P Φ k := by
  refine h.rows k ?_
  cases k <;> first | rfl | cases hk

theorem flushRow (h : RunTables P Φ) {k : Key} {l n : k.Entity} (hk : k.isRunTable) :
    Obeys P Φ (flush k l n) := obeys_flush ((h.rows k hk).flush _ _)

theorem insertRow (h : RunTables P Φ) {k : Key} {row : k.Entity} (hk : k.isRunTable) :
    Obeys P Φ (insert k row) := obeys_insert ((h.rows k hk).update _ _)

theorem updateRow (h : RunTables P Φ) {k : Key} {guard : k.Entity → Bool}
    {values : k.Entity → k.Entity} (hk : k.isRunTable) : Obeys P Φ (updateWhere k guard values) :=
  obeys_updateWhere ((h.rows k hk).update _ _)

theorem save (h : RunTables P Φ) : Obeys P Φ commit := obeys_commit h.resets

theorem logAt (h : RunTables P Φ) (id workspaceId : Id) (level : String) (event : LogEvent)
    (t : Time) : Obeys P Φ (appendCloudRunLogAt id workspaceId level event t) :=
  obeys_freshId.bind fun _ => h.insertRow rfl

theorem log (h : RunTables P Φ) (id workspaceId : Id) (level : String) (event : LogEvent) :
    Obeys P Φ (appendCloudRunLog id workspaceId level event) :=
  obeys_utcNow.bind fun _ => h.logAt _ _ _ _ _

theorem release (h : RunTables P Φ) (cloudRun : CloudRun) :
    Obeys P Φ (releaseCloudRunReservation cloudRun) := (gives_release h.budget cloudRun).obeys

theorem settle (h : RunTables P Φ) (id : Id) (cloudRun : CloudRun) :
    Obeys P Φ (settleCloudRunBudget id cloudRun) := (gives_settle h.budget id cloudRun).obeys

section endings

theorem ack (h : RunTables P Φ) (id : Id) (cloudRun : CloudRun) (mnsDelete : MnsDelete) :
    Obeys P Φ (ackMnsQueueReceiptAfterTerminalCommit id cloudRun mnsDelete) := by
  unfold ackMnsQueueReceiptAfterTerminalCommit
  split
  · exact .pure cloudRun
  · cases mnsDelete with
    | misconfigured name => exact .raise _
    | deleted =>
      refine obeys_utcNow.bind fun t => (h.flushRow rfl).bind fun _ => ?_
      exact h.save.bind fun _ => obeys_refresh _
    | failed =>
      refine obeys_utcNow.bind fun t => (h.flushRow rfl).bind fun _ => ?_
      exact h.save.bind fun _ => obeys_refresh _

theorem settleAndCommit (h : RunTables P Φ) (id : Id) (cloudRun : CloudRun) (mnsDelete : MnsDelete) :
    Obeys P Φ (settleAndCommit id cloudRun mnsDelete) := by
  refine (h.settle id cloudRun).bind fun settled => (h.flushRow rfl).bind fun _ => ?_
  exact h.save.bind fun _ => (obeys_refresh _).bind fun c => h.ack id c mnsDelete

theorem markFailed (h : RunTables P Φ) (id : Id) (cloudRun : CloudRun) (localRunId : Id)
    (localRun : LocalTaskRun) (failureReason message : String) (mnsDelete : MnsDelete) :
    Obeys P Φ (markClaimedCloudRunFailed id cloudRun localRunId localRun failureReason message
      mnsDelete) := by
  refine obeys_utcNow.bind fun t => (h.flushRow rfl).bind fun _ => (h.flushRow rfl).bind fun _ => ?_
  refine (h.log _ _ _ _).bind fun _ => (h.log _ _ _ _).bind fun _ => ?_
  exact (h.settleAndCommit _ _ _).bind fun _ => .pure _

theorem markCancelled (h : RunTables P Φ) (id : Id) (run : ReloadedRun) (input : FinalizeInput) :
    Obeys P Φ (markClaimedCloudRunCancelled id run input) := by
  refine obeys_utcNow.bind fun _ => obeys_utcNow.bind fun t => (h.flushRow rfl).bind fun _ => ?_
  refine (h.flushRow rfl).bind fun _ => (h.logAt _ _ _ _ _).bind fun _ => ?_
  exact (h.logAt _ _ _ _ _).bind fun _ => (h.settleAndCommit _ _ _).bind fun _ => .pure _

theorem reload (h : RunTables P Φ) (ctx : Option AuthContext) (id taskId : Id) :
    Obeys P Φ (reloadClaimedCloudRun ctx id taskId) := by
  refine (obeys_rollback h.resets).bind fun _ => (obeys_getCloudRun ctx id).bind fun c => ?_
  refine (obeys_getTask ctx taskId).bind fun _ => (obeys_getRepository ctx _).bind fun _ => ?_
  exact (obeys_getLocalRun c).bind fun _ => .pure _

theorem lost (h : RunTables P Φ) (ctx : Option AuthContext) (id taskId : Id) (input : FinalizeInput) :
    Obeys P Φ (finalizationLost ctx id taskId input) := by
  refine (obeys_rollback h.resets).bind fun _ => (h.reload ctx id taskId).bind fun run => ?_
  split
  · exact h.markCancelled id run input
  · refine (h.flushRow rfl).bind fun _ => ?_
    split
    · exact .pure _
    · exact (obeys_get _).bind fun _ => .pure _

theorem patchLog (h : RunTables P Φ) (id workspaceId : Id) (status : ResultStatus) (t : Time) :
    Obeys P Φ (patchLog id workspaceId status t) := by
  unfold AiScdc.patchLog
  split
  · exact h.logAt _ _ _ _ _
  · exact h.logAt _ _ _ _ _

theorem patchEvents (h : RunTables P Φ) (id taskId localRunId artifactId : Id)
    (result : SandboxExecutionResult) (t : Time) :
    Obeys P Φ (patchEvents id taskId localRunId artifactId result t) := by
  refine (h.note _ _ _ rfl).bind fun _ => ?_
  split
  · exact (h.note _ _ _ rfl).bind fun _ => .pure _
  · exact .pure _

end endings

section processing

-- What only the finalisation writes is left to each course.
structure Finalizes (P : Course Row G) (Φ : G → Prop) : Prop extends RunTables P Φ where
  finalize : ∀ ctx id cloudRun input,
    ObeysHttp P Φ (finalizeClaimedCloudRunResult ctx id cloudRun input)

theorem start (h : RunTables P Φ) (ctx : Option AuthContext) (id : Id) (workerId : String) :
    Obeys P Φ (startCloudRun ctx id workerId) := by
  refine (obeys_getCloudRun ctx id).bind fun cloudRun => ?_
  refine (obeys_requirePermission h.resets ctx).bind fun _ => ?_
  dsimp only
  split
  · exact fun _ hx => hx
  · refine (obeys_getLocalRun cloudRun).bind fun entry => obeys_utcNow.bind fun now => ?_
    refine Obeys.bind (h.updateRow rfl) fun b => ?_
    cases b with
    | false => exact (obeys_rollback h.resets).bind fun _ => obeys_http _ _
    | true =>
      refine (obeys_refresh _).bind fun c => (h.flushRow rfl).bind fun _ => ?_
      refine obeys_utcNow.bind fun _ => (h.logAt _ _ _ _ _).bind fun _ => ?_
      refine (h.logAt _ _ _ _ _).bind fun _ => obeys_utcNow.bind fun _ => ?_
      refine (h.note _ _ _ rfl).bind fun _ => h.save.bind fun _ => ?_
      exact (obeys_refresh _).bind fun _ => (obeys_refresh _).bind fun _ => .pure _

theorem execute (h : RunTables P Φ) (ctx : Option AuthContext) (id : Id) (cloudRun : CloudRun)
    (localRunId : Id) (localRun : LocalTaskRun) (replies : ProcessReplies)
    (hfin : ObeysHttp P Φ (finalizeClaimedCloudRunResult ctx id cloudRun
      ⟨executionResult cloudRun replies,replies.secrets,replies.mnsDelete⟩)) :
    ObeysHttp P Φ (executeClaimedCloudRun ctx id cloudRun localRunId localRun replies) := by
  refine .after (obeys_catchHttp ?_ fun detail => .pure _) fun refused => ?_
  · exact (obeys_checkExecution ctx cloudRun replies).bind fun _ => .pure _
  · cases refused with
    | some detail => exact obeysHttp (h.markFailed _ _ _ _ _ _ _)
    | none =>
      refine ObeysHttp.catchHttp hfin fun detail => obeysHttp ?_
      refine (obeys_refresh _).bind fun c => (obeys_refresh _).bind fun l => ?_
      exact h.markFailed _ _ _ _ _ _ _

theorem process (h : RunTables P Φ) (ctx : Option AuthContext) (id : Id) (workerId : String)
    (replies : ProcessReplies) (hfin : ∀ cloudRun, ObeysHttp P Φ (finalizeClaimedCloudRunResult ctx id
      cloudRun ⟨executionResult cloudRun replies,replies.secrets,replies.mnsDelete⟩)) :
    ObeysHttp P Φ (processCloudRun ctx id workerId replies) :=
  .after (h.start ctx id workerId) fun _ => (h.execute ctx id _ _ _ replies (hfin _)).bind fun _ =>
    obeysHttp (h.save.bind fun _ => .pure _)

theorem askCancel (h : RunTables P Φ) (ctx : Option AuthContext) (id : Id) (now : Time) :
    Obeys P Φ (requestRunningCloudRunCancelAndLog ctx id now) := by
  refine Obeys.bind (h.updateRow rfl) fun b => ?_
  cases b with
  | false => exact (obeys_rollback h.resets).bind fun _ => obeys_getCloudRun ctx id
  | true =>
    refine (obeys_getCloudRun ctx id).bind fun c => (h.log _ _ _ _).bind fun _ => ?_
    exact h.save.bind fun _ => obeys_refresh _

theorem queuedCancel (h : RunTables P Φ) (id : Id) (now : Time) :
    Obeys P Φ (finishQueuedCancel id now) := by
  refine (obeys_refresh _).bind fun c => (obeys_getLocalRun _).bind fun entry => ?_
  refine (h.flushRow rfl).bind fun _ => (h.flushRow rfl).bind fun _ => (h.log _ _ _ _).bind fun _ => ?_
  refine (h.release _).bind fun released => (h.flushRow rfl).bind fun _ => ?_
  exact h.save.bind fun _ => obeys_refresh _

theorem cancel (h : RunTables P Φ) (ctx : Option AuthContext) (id : Id) :
    Obeys P Φ (cancelCloudRun ctx id) := by
  have hask (now : Time) : Obeys P Φ (do
      let asked ← requestRunningCloudRunCancelAndLog ctx id now
      commit
      pure asked) := (h.askCancel ctx id now).bind fun _ => h.save.bind fun _ => .pure _
  refine (obeys_getCloudRun ctx id).bind fun cloudRun => ?_
  refine (obeys_requirePermission h.resets ctx).bind fun _ => ?_
  split
  · exact h.save.bind fun _ => .pure _
  · refine obeys_utcNow.bind fun now => ?_
    split
    · refine Obeys.bind (h.updateRow rfl) fun b => ?_
      cases b with
      | true => exact (h.queuedCancel id now).bind fun _ => h.save.bind fun _ => .pure _
      | false =>
        refine (obeys_rollback h.resets).bind fun _ => (obeys_getCloudRun ctx id).bind fun c => ?_
        split
        · exact h.save.bind fun _ => .pure _
        · exact obeys_utcNow.bind fun now => hask now
    · exact hask now

end processing

section leases

variable [Digest]

theorem resolveArtifacts (h : RunTables P Φ) (id : Id) (cloudRun : CloudRun)
    (body : CloudRunExecutionResultCreate) (oss : ArtifactRef → OssReply) :
    Gives P Φ (resolveCloudRunCompletionArtifacts id cloudRun body oss) (acceptedResult body) := by
  refine (obeys_readDiffs oss _).gives fun diff => ?_
  cases diff with
  | none => exact .pure ⟨_,rfl⟩
  | some text =>
    refine (h.log _ _ _ _).gives fun _ => ?_
    dsimp only
    split
    · exact (h.log _ _ _ _).gives fun _ => .pure ⟨_,rfl⟩
    · exact .pure ⟨_,rfl⟩

omit [Digest] in
theorem stub (cloudRun : CloudRun) (status : ResultStatus) : Obeys P Φ (stubCompletion cloudRun status) := by
  unfold stubCompletion
  split
  · exact obeys_utcNow.bind fun t => .pure _
  · exact .pure _

omit [Digest] in
theorem useToken (cloudRun : CloudRun) : Obeys P Φ (useCallbackToken cloudRun) := by
  unfold useCallbackToken
  split
  · exact obeys_utcNow.bind fun t => .pure _
  · exact .pure _

theorem accept (h : RunTables P Φ) (ctx : Option AuthContext) (cred : LeaseCredentials)
    (body : CloudRunExecutionResultCreate) (replies : CompletionReplies) :
    Gives P Φ (acceptCompletion ctx cred body replies) fun out => acceptedResult body out.2.2 := by
  refine (obeys_resolve h.resets cred).gives fun entry => ?_
  refine (h.resolveArtifacts _ _ body replies.oss).gives fun result hresult => (stub _ _).gives fun stubbed => ?_
  refine (useToken stubbed).gives fun used => (obeys_getRepository ctx _).gives fun _ => ?_
  refine (h.flushRow rfl).gives fun _ => (h.log _ _ _ _).gives fun _ => h.save.gives fun _ => ?_
  exact (obeys_refresh _).gives fun c => .pure hresult

theorem complete (h : RunTables P Φ) (ctx : Option AuthContext) (cred : LeaseCredentials)
    (body : CloudRunExecutionResultCreate) (replies : CompletionReplies)
    (hfin : ∀ id cloudRun result, acceptedResult body result → ObeysHttp P Φ
      (finalizeClaimedCloudRunResult ctx id cloudRun ⟨result,replies.secrets,replies.mnsDelete⟩)) :
    ObeysHttp P Φ (completeCloudRunLease ctx cred body replies) :=
  fun x hx => Writes.bind ((h.accept ctx cred body replies x hx).mono
    (fun _ y hy => hfin _ _ _ hy.1 y hy.2) fun _ _ hy _ => hy)

theorem claimCandidates (h : RunTables P Φ) (req : ClaimRequest) (now : Time) (candidates : List Id) :
    Obeys P Φ (claimCandidates req now candidates) := by
  induction candidates with
  | nil => exact .pure none
  | cons id rest ih =>
    refine (obeys_get _).bind fun row => ?_
    cases row with
    | none => exact ih
    | some candidate =>
      refine (obeys_verifyToken h.resets _ _ _ _ _ _).bind fun _ => ?_
      refine (obeys_mnsReceipt candidate req).bind fun receipt => obeys_freshId.bind fun leaseId => ?_
      refine Obeys.bind (h.updateRow rfl) fun b => ?_
      cases b with
      | false => exact (obeys_rollback h.resets).bind fun _ => ih
      | true =>
        refine (obeys_refresh _).bind fun c => (h.flushRow rfl).bind fun _ => ?_
        refine (obeys_getLocalRun _).bind fun entry => (h.flushRow rfl).bind fun _ => ?_
        refine (h.log _ _ _ _).bind fun _ => h.save.bind fun _ => ?_
        exact (obeys_refresh _).bind fun c => (obeys_leaseRead _ _).bind fun _ => .pure _

theorem refuseActive (h : RunTables P Φ) (req : ClaimRequest) (id : Id) (now : Time) :
    Obeys P Φ (refuseActiveLease req id now) := by
  have hverify (c : CloudRun) (b : Bool) := obeys_verifyToken (P := P) h.resets id c
    req.workerId req.callbackToken (some now) b
  refine (obeys_get _).bind fun row => ?_
  cases row with
  | none =>
    dsimp only
    split
    · exact (obeys_reject h.resets _ _).bind fun _ => .pure ()
    · exact .pure ()
  | some c =>
    have hlast : Obeys P Φ (if c.leaseExpiresAt.any fun t => now ≤ t then
        httpError 409 "Cloud run already has an active lease" else pure () : Op Unit) := by
      split
      · exact obeys_http _ _
      · exact .pure ()
    have htail : Obeys P Φ (if c.queueProvider = req.queueProvider ∧ c.status = .running ∧
        c.completedAt = none then do
        if !req.requireCallbackToken then
          verifyCloudRunCallbackTokenOr403 id c req.workerId req.callbackToken (some now) false
        if c.leaseExpiresAt.any fun t => now ≤ t then
          httpError 409 "Cloud run already has an active lease"
      else pure () : Op Unit) := by
      dsimp only
      split
      · split
        · exact (hverify c false).bind fun _ => hlast
        · exact hlast
      · exact .pure ()
    dsimp only
    split
    · exact (hverify c true).bind fun _ => htail
    · exact htail

theorem claimNext (h : RunTables P Φ) (req : ClaimRequest) :
    Obeys P Φ (claimNextCloudRunLease req) := by
  have hclaim : Obeys P Φ (claimOldestQueued req) := by
    refine (obeys_orHttp400 _).bind fun _ => obeys_selectWhere.bind fun queued => ?_
    refine obeys_utcNow.bind fun now => ?_
    split
    · exact (h.refuseActive req _ now).bind fun _ => .pure none
    · exact h.claimCandidates req now _
  unfold claimNextCloudRunLease
  dsimp only
  split
  · refine (obeys_requirePresented h.resets _).bind fun _ => ?_
    split
    · exact (obeys_reject h.resets _ _).bind fun _ => hclaim
    · exact hclaim
  · exact hclaim

theorem heartbeat (h : RunTables P Φ) (cred : LeaseCredentials) (leaseSeconds : ℕ) :
    Obeys P Φ (heartbeatCloudRunLease cred leaseSeconds) := by
  refine (obeys_resolve h.resets cred).bind fun entry => obeys_utcNow.bind fun now => ?_
  refine (h.flushRow rfl).bind fun _ => (h.log _ _ _ _).bind fun _ => h.save.bind fun _ => ?_
  exact (obeys_refresh _).bind fun c => obeys_leaseRead _ c

omit [Digest] in
theorem requeueRuns (h : RunTables P Φ) (expired : List ExpiredRun) :
    Obeys P Φ (requeueExpiredRuns expired) := by
  induction expired with
  | nil => exact .pure ()
  | cons e rest ih =>
    refine Obeys.bind ?_ fun _ => ih
    refine (obeys_getLocalRun _).bind fun entry => (h.log _ _ _ _).bind fun _ => ?_
    split
    · refine obeys_utcNow.bind fun t => (h.flushRow rfl).bind fun _ => (h.flushRow rfl).bind fun _ => ?_
      refine (h.log _ _ _ _).bind fun _ => (h.settle _ _).bind fun settled => ?_
      exact h.flushRow rfl
    · refine obeys_utcNow.bind fun t => (h.flushRow rfl).bind fun _ => (h.flushRow rfl).bind fun _ => ?_
      exact h.log _ _ _ _

omit [Digest] in
theorem requeue (h : RunTables P Φ) (provider : QueueProvider) (limit : ℕ) :
    Obeys P Φ (requeueExpiredCloudRunLeases provider limit) := by
  refine (obeys_orHttp400 _).bind fun _ => obeys_utcNow.bind fun now => obeys_selectWhere.bind fun _ => ?_
  exact (h.requeueRuns _).bind fun _ => h.save.bind fun _ => .pure _

end leases

section enqueue

variable [Digest]

omit [Digest] in
theorem createQueued (h : RunTables P Φ) (ctx : Option AuthContext) (taskId : Id) (task : Task)
    (repository : Repository) (data : CloudRunCreate) (sandboxKind : String) :
    Obeys P Φ (createQueuedCloudRun ctx taskId task repository data sandboxKind) := by
  refine (obeys_reserve h.budget ctx _ _).bind fun entry => obeys_freshId.bind fun id => ?_
  refine obeys_utcNow.bind fun createdAt => (h.insertRow rfl).bind fun _ => ?_
  refine obeys_utcNow.bind fun _ => (h.flushRow rfl).bind fun _ => obeys_freshId.bind fun l => ?_
  refine obeys_utcNow.bind fun _ => (h.insertRow rfl).bind fun _ => obeys_utcNow.bind fun t => ?_
  refine (h.flushRow rfl).bind fun _ => (h.log _ _ _ _).bind fun _ => h.save.bind fun _ => ?_
  exact (obeys_refresh _).bind fun _ => (obeys_refresh _).bind fun _ => .pure _

theorem protect (h : RunTables P Φ) (data : CloudRunCreate) (token : String) (id : Id)
    (cloudRun : CloudRun) : Obeys P Φ (protectCloudRun data token id cloudRun) := by
  unfold protectCloudRun
  split
  · exact .pure _
  · refine obeys_utcNow.bind fun now => (h.flushRow rfl).bind fun _ => ?_
    exact h.save.bind fun _ => obeys_refresh _

omit [Digest] in
theorem recordQueue (h : RunTables P Φ) (queued : QueuedCloudRun) (cloudRun : CloudRun)
    (result : Except String CloudQueueEnqueueResult) :
    Obeys P Φ (recordQueueResult queued cloudRun result) := by
  cases result with
  | error detail =>
    refine obeys_utcNow.bind fun t => (h.flushRow rfl).bind fun _ => (h.flushRow rfl).bind fun _ => ?_
    refine (h.log _ _ _ _).bind fun _ => (h.release _).bind fun released => ?_
    exact (h.flushRow rfl).bind fun _ => h.save.bind fun _ => obeys_http _ _
  | ok result =>
    refine obeys_utcNow.bind fun t => (h.flushRow rfl).bind fun _ => ?_
    exact h.save.bind fun _ => obeys_refresh _

omit [Digest] in
theorem sendMessage (h : RunTables P Φ) (data : CloudRunCreate) (replies : EnqueueReplies)
    (queued : QueuedCloudRun) (cloudRun : CloudRun) :
    Obeys P Φ (sendQueueMessage data replies queued cloudRun) := by
  refine Obeys.bind ?_ fun result => h.recordQueue queued cloudRun result
  split
  · exact obeys_queueEnqueue _ _
  · exact (h.log _ _ _ _).bind fun _ => .pure _

theorem submit (h : RunTables P Φ) (provider : RuntimeProvider) (id : Id) (cloudRun : CloudRun)
    (replies : EnqueueReplies) : Obeys P Φ (submitRemoteRuntime provider id cloudRun replies) := by
  have hput (write : ObjectStorageWrite) (uri : Id → ObjectUri) (text : String) :
      Obeys P Φ (putText write uri text) := obeys_putText (fun _ => h.rows _ rfl) _ _ _
  cases provider with
  | remoteStub =>
    refine Obeys.bind ?_ fun _ => .pure _
    unfold submitRemoteStub
    dsimp only
    split
    · exact (hput _ _ _).bind fun _ => (hput _ _ _).bind fun _ => .pure _
    · exact .pure _
  | aliyunEci =>
    unfold submitRemoteRuntime submitAliyunEci
    dsimp only
    split
    · exact .raise _
    · split
      · exact .pure _
      · split
        · exact (hput _ _ _).bind fun _ => (hput _ _ _).bind fun _ => .pure _
        · exact .pure _
  | other name => exact .raise _

omit [Digest] in
theorem failSubmission (h : RunTables P Φ) (ctx : Option AuthContext) (id : Id) (detail : String) :
    Obeys P Φ (failRuntimeSubmission ctx id detail) := by
  refine (obeys_rollback h.resets).bind fun _ => (obeys_getCloudRun ctx id).bind fun c => ?_
  refine (obeys_getLocalRun c).bind fun entry => obeys_utcNow.bind fun t => ?_
  refine (h.flushRow rfl).bind fun _ => (h.flushRow rfl).bind fun _ => (h.log _ _ _ _).bind fun _ => ?_
  refine (h.settle _ _).bind fun settled => (h.flushRow rfl).bind fun _ => ?_
  exact h.save.bind fun _ => obeys_http _ _

theorem submitToRuntime (h : RunTables P Φ) (ctx : Option AuthContext) (data : CloudRunCreate)
    (replies : EnqueueReplies) (id : Id) (cloudRun : CloudRun) :
    Obeys P Φ (submitToRuntime ctx data replies id cloudRun) := by
  unfold AiScdc.submitToRuntime
  split
  · exact .pure ()
  · refine obeys_utcNow.bind fun t => (h.submit _ _ _ _).bind fun submission => ?_
    cases submission with
    | error detail => exact (h.failSubmission ctx id detail).bind fun _ => .pure ()
    | ok submission => exact (h.flushRow rfl).bind fun _ => h.log _ _ _ _

theorem enqueue (h : RunTables P Φ) (ctx : Option AuthContext) (taskId : Id) (data : CloudRunCreate)
    (replies : EnqueueReplies) : Obeys P Φ (enqueueCloudRun ctx taskId data replies) := by
  refine (obeys_getTask ctx taskId).bind fun task => (obeys_getRepository ctx _).bind fun repository => ?_
  refine (obeys_requirePermission h.resets ctx).bind fun _ => ?_
  refine (obeys_validateRepository task repository).bind fun _ => ?_
  refine (obeys_validateSettings data replies).bind fun _ => ?_
  refine (obeys_validateProfile data replies).bind fun _ => ?_
  refine (h.createQueued ctx taskId task repository data _).bind fun queued => ?_
  refine (h.protect data _ _ _).bind fun guarded => ?_
  refine (h.sendMessage data replies queued guarded).bind fun sent => ?_
  refine (h.submitToRuntime ctx data replies _ sent).bind fun _ => ?_
  exact h.save.bind fun _ => (obeys_refresh _).bind fun _ => .pure _

end enqueue

theorem Finalizes.program [Digest] (h : Finalizes P Φ) (o : CloudRunnerOp) :
    ObeysHttp P Φ o.program := by
  have hdone {α : Type} {m : Op α} (hm : ObeysHttp P Φ m) : ObeysHttp P Φ (discard m) :=
    hm.bind fun _ => obeysHttp (.pure ())
  cases o with
  | enqueue ctx taskId data replies => exact hdone (obeysHttp (h.enqueue ctx taskId data replies))
  | claim req => exact hdone (obeysHttp (h.claimNext req))
  | heartbeat cred leaseSeconds => exact hdone (obeysHttp (h.heartbeat cred leaseSeconds))
  | cancel ctx id => exact hdone (obeysHttp (h.cancel ctx id))
  | requeue provider limit => exact hdone (obeysHttp (h.requeue provider limit))
  | complete ctx cred body replies =>
    exact hdone (h.complete ctx cred body replies fun _ _ _ _ => h.finalize _ _ _ _)
  | process ctx id workerId replies =>
    exact hdone (h.process ctx id workerId replies fun _ => h.finalize _ _ _ _)

end RunTables

end AiScdc
