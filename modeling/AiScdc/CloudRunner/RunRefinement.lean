import AiScdc.CloudRunner.RunEndings
import AiScdc.CloudRunner.RunTokens

namespace AiScdc
open Transaction

variable [Digest] {α β : Type} {clock : ℕ → Time} {o : CloudRunOp} {X Y : Runs} {i : Id} {b c : CloudRun}
  {ctx : Option AuthContext}

section completion

variable {cred : LeaseCredentials} {body : CloudRunExecutionResultCreate} {replies : CompletionReplies}

theorem walks_resolveArtifacts {oss : ArtifactRef → OssReply} {f : SandboxExecutionResult → Op β}
    {Ω : β → Runs → Runs → Prop}
    (h : ∀ result, acceptedResult body result → Walks clock o (Stands X X) (f result) Ω anyEnd) :
    Walks clock o (Stands X X) (resolveCloudRunCompletionArtifacts i c body oss >>= f) Ω anyEnd := by
  simp only [resolveCloudRunCompletionArtifacts,bind_assoc]
  refine traces_obeys (obeys_readDiffs oss _) runsMove_refl (fun _ => trivial) fun diff => ?_
  cases diff with
  | none => exact h _ ⟨_,rfl⟩
  | some text =>
    simp only [bind_assoc]
    refine walks_log (fun _ _ => trivial) ?_
    split
    · rw [bind_assoc]
      exact walks_log (fun _ _ => trivial) (h _ ⟨_,rfl⟩)
    · exact h _ ⟨_,rfl⟩

theorem walks_used {status : ResultStatus} {f : CloudRun → Op β} {Ω : β → Runs → Runs → Prop}
    (h : ∀ m n, Walks clock o (Stands X X) (f (completedBy c status (clock m) (clock n))) Ω anyEnd) :
    Walks clock o (Stands X X) (do
      let stubbed ← stubCompletion c status
      let used ← useCallbackToken stubbed
      f used) Ω anyEnd := by
  have huse (x : CloudRun) (hx : x.callbackTokenHash = c.callbackTokenHash)
      (hf : ∀ n, Walks clock o (Stands X X)
        (f (if c.callbackTokenHash.isSome then x.callbackTokenUsed (clock n) else x)) Ω anyEnd) :
      Walks clock o (Stands X X) (useCallbackToken x >>= f) Ω anyEnd := by
    unfold useCallbackToken
    rw [hx]
    split
    · rename_i hhash
      rw [bind_assoc]
      refine traces_utcNow fun n => ?_
      have hn := hf n
      rwa [if_pos hhash] at hn
    · rename_i hhash
      have h₀ := hf 0
      rwa [if_neg hhash] at h₀
  unfold stubCompletion
  split
  · rename_i hstub
    rw [bind_assoc]
    refine traces_utcNow fun m => huse _ rfl fun n => ?_
    have hn := h m n
    simpa only [completedBy,if_pos hstub] using hn
  · rename_i hstub
    refine huse c rfl fun n => ?_
    have h₀ := h 0 n
    simpa only [completedBy,if_neg hstub] using h₀

omit [Digest] in
theorem completedBy_status (c : CloudRun) (status : ResultStatus) (stubbedAt usedAt : Time) :
    (completedBy c status stubbedAt usedAt).status = c.status := by
  obtain ⟨_,_,_,hframe⟩ := completedBy_frame (c := c) status stubbedAt usedAt
  rw [hframe]

omit [Digest] in
theorem completedBy_spent {status : ResultStatus} {stubbedAt usedAt : Time}
    (h : c.callbackTokenHash.isSome = true) : TokenSpent (completedBy c status stubbedAt usedAt) := by
  obtain ⟨_,_,_,hframe⟩ := completedBy_frame (c := c) status stubbedAt usedAt
  rw [hframe]
  exact ⟨h,by simp [h]⟩

-- The lease was held, and the token of the run, where it has one, is used up.
def LeaseCompleted (clock : ℕ → Time) (cred : LeaseCredentials) (X : Runs) (i : Id) (spent : Prop) : Prop :=
  ∃ c, X i = some c ∧ LeaseAccepted clock cred i c ∧ (c.callbackTokenHash.isSome = true → spent)

theorem traces_accept :
    RunTraces clock (MovesIf (SomeLease clock cred X) clock (.runner (.complete ctx cred body replies)))
      (Stands X X) (acceptCompletion ctx cred body replies)
      (fun r B C => LeaseCompleted clock cred X r.1 (TokenSpent r.2.1) ∧
        acceptedResult body r.2.2 ∧ RunCommitted (fun c => c.status = .running) r.1 r.2.1 B C)
      anyEnd := by
  refine traces_resolve movesIf_refl (fun _ => trivial) fun i c hX hlease => ?_
  refine (walks_movesIf ⟨i,c,hX,hlease⟩ ?_).mono (fun _ _ h => h) (fun _ _ _ h => h.2) fun _ _ _ h => h
  refine walks_resolveArtifacts fun result hresult => walks_used fun m n => ?_
  refine traces_obeys (obeys_getRepository _ _) runsMove_refl (fun _ => trivial) fun repository => ?_
  refine traces_flushRun hX (walks_log (fun _ _ => trivial) (traces_commit (runsMove_update ?_) ?_))
  · rw [hX]
    obtain ⟨diffText,rfl⟩ := hresult
    exact .accepted m n hlease
  · refine traces_refresh (Function.update_self _ _ _) (traces_done ?_)
    exact ⟨⟨c,hX,hlease,completedBy_spent⟩,hresult,
      runCommitted_update ((completedBy_status c _ _ _).trans hlease.running)⟩

theorem traces_complete :
    RunTraces clock (MovesIf (SomeLease clock cred X) clock (.runner (.complete ctx cred body replies)))
      (Stands X X) (completeCloudRunLease ctx cred body replies)
      (fun _ B _ => ∃ i, LeaseCompleted clock cred X i (RunSpent i B)) anyEnd := by
  refine Traces.bind traces_accept fun r s hs => ?_
  obtain ⟨⟨c,hX,hlease,hspent⟩,hresult,hcommitted⟩ := hs
  have hfinalize : Walks clock (.runner (.complete ctx cred body replies))
      (RunCommitted (fun c => c.status = .running) r.1 r.2.1)
      (finalizeClaimedCloudRunResult ctx r.1 r.2.1
        { result := r.2.2, secrets := replies.secrets, mnsDelete := replies.mnsDelete })
      anyEnd anyEnd :=
    walks_runCommitted fun X hb hX =>
      (walks_finalize hX hb (.reported hresult) (fun _ _ _ _ => trivial) fun _ _ _ => trivial).mono (fun _ _ h => h)
        (fun _ _ _ _ => trivial) fun _ _ _ h => h
  have hkept := Traces.stable (p := fun B => c.callbackTokenHash.isSome = true → RunSpent r.1 B)
    hfinalize
    (fun _ _ hmove hp hc => hmove.spent (hp hc)) fun _ _ h hc => ⟨r.2.1,h.2.1,hspent hc⟩
  exact ((walks_movesIf ⟨r.1,c,hX,hlease⟩ hkept).mono (fun _ _ h => h)
    (fun _ _ _ h => ⟨r.1,c,hX,hlease,h.2.2⟩) fun _ _ _ h => h.1) s hcommitted

end completion

section process

variable {workerId : String} {replies : ProcessReplies}

theorem walks_start : Walks clock (.runner (.process ctx i workerId replies)) (Stands X X)
    (startCloudRun ctx i workerId)
    (fun started => RunCommitted (fun c => c.status = .running) i started.cloudRun) anyEnd := by
  have hE : ∀ (e : Exn) (X Y : Runs), anyEnd e X Y := fun _ _ _ => trivial
  refine traces_getCloudRun runsMove_refl (hE · _ _) fun c hX => ?_
  refine traces_obeysIdle (obeys_requirePermission resets_spared ctx) runsMove_refl (hE · _ _)
    fun _ => ?_
  dsimp only
  split
  · exact traces_raise trivial
  · refine traces_obeys (obeys_getLocalRun _) runsMove_refl (hE · _ _) fun entry => ?_
    refine traces_utcNow fun n => traces_updateRun hX (fun hg => ?_) fun _ => ?_
    · refine traces_refresh (Function.update_self _ _ _) (walks_flush rfl (fun _ _ => trivial) ?_)
      refine traces_utcNow fun _ => walks_logAt (fun _ _ => trivial) (walks_logAt (fun _ _ => trivial) ?_)
      refine traces_utcNow fun _ => traces_obeys obeys_eventSpared runsMove_refl (hE · _ _) fun _ => ?_
      refine traces_commit (runsMove_update ?_) ?_
      · rw [hX]
        exact .taken _ (by simpa using hg)
      · refine traces_refresh (Function.update_self _ _ _) ?_
        refine traces_obeys (obeys_refresh _) runsMove_refl (hE · _ _) fun localRun => ?_
        exact traces_done (runCommitted_update rfl)
    · exact traces_rollback (traces_raise trivial)

theorem walks_markFailed {x : CloudRun} {localRunId : Id} {localRun : LocalTaskRun}
    {message : String} (hX : X i = some b) (hb : b.status = .running) (hx : Partly b x) :
    Walks clock (.runner (.process ctx i workerId replies)) (Stands X (Function.update X i (some x)))
      (markClaimedCloudRunFailed i x localRunId localRun "cloud_run_preflight_failed" message
        replies.mnsDelete) Idle anyEnd := by
  refine traces_utcNow fun n => walks_flush rfl (fun _ _ => trivial) ?_
  refine traces_flushRun (Function.update_self _ _ _) ?_
  rw [Function.update_idem]
  refine walks_log (fun _ _ => trivial) (walks_log (fun _ _ => trivial) ?_)
  refine Traces.bind (walks_settleAndCommit rfl (fun s hs => ?_) ?_ fun _ _ _ _ => trivial) fun _ =>
    walks_standing fun B C hBC => traces_done hBC
  · rw [hX]
    exact .preflightFailed x message n hb hx hs
  · simp [CloudRunOp.ending]

-- What an HTTP error of the finalisation leaves to the failure handler.
def Thrown (X : Runs) (i : Id) (b : CloudRun) (e : Exn) (B C : Runs) : Prop :=
  e.isHttp = true → B = X ∧ ∃ x, Partly b x ∧ C = Function.update X i (some x)

theorem walks_catch {m : Op CloudRunResult} {handler : String → Op CloudRunResult}
    (hm : Walks clock o (Stands X Y) m Idle (Thrown X i b))
    (hh : ∀ x detail, Partly b x → Walks clock o (Stands X (Function.update X i (some x)))
      (handler detail) Idle anyEnd) :
    Walks clock o (Stands X Y) (catchHttp m handler) Idle anyEnd := by
  refine Traces.tryCatch hm fun e => walks_standing fun B C hBC => ?_
  cases e with
  | http statusCode detail =>
    obtain ⟨rfl,x,hx,rfl⟩ := hBC rfl
    exact hh x detail hx
  | integrityError => exact traces_raise trivial
  | unhandled name => exact traces_raise trivial

theorem walks_execute {localRunId : Id} {localRun : LocalTaskRun} (hX : X i = some b)
    (hb : b.status = .running) : Walks clock (.runner (.process ctx i workerId replies)) (Stands X X)
      (executeClaimedCloudRun ctx i b localRunId localRun replies) Idle anyEnd := by
  have hsame : Function.update X i (some b) = X := hX ▸ Function.update_eq_self i X
  refine traces_obeys (obeys_catchHttp ?_ fun detail => .pure _) runsMove_refl (fun _ => trivial)
    fun refused => ?_
  · exact (obeys_checkExecution ctx b replies).bind fun _ => .pure _
  · cases refused with
    | some detail =>
      have hfail : Walks clock (.runner (.process ctx i workerId replies))
          (Stands X (Function.update X i (some b))) (markClaimedCloudRunFailed i b localRunId localRun
            "cloud_run_preflight_failed" detail replies.mnsDelete) Idle anyEnd :=
        walks_markFailed hX hb .untouched
      rwa [hsame] at hfail
    | none =>
      refine walks_catch (walks_finalize hX hb .executed (fun e _ _ he hhttp => ?_)
        fun e x hx _ => ⟨rfl,x,hx,rfl⟩) fun x detail hx => ?_
      · rw [he] at hhttp
        cases hhttp
      · refine traces_refresh (Function.update_self _ _ _) ?_
        refine traces_obeys (obeys_refresh _) runsMove_refl (fun _ => trivial) fun localRun => ?_
        exact walks_markFailed hX hb hx

theorem walks_process : Walks clock (.runner (.process ctx i workerId replies)) (Stands X X)
    (processCloudRun ctx i workerId replies) anyEnd anyEnd := by
  refine Traces.bind walks_start fun started => walks_runCommitted fun X hb hX => ?_
  refine Traces.bind (walks_execute hX hb) fun result => walks_standing fun B C hBC => ?_
  subst hBC
  exact traces_commit (runsMove_refl B) (traces_done trivial)

end process

section cancel

theorem walks_askCancel {n : ℕ} (hX : X i = some c) : Walks clock (.runner (.cancel ctx i)) (Stands X X)
    (requestRunningCloudRunCancelAndLog ctx i (clock n)) Idle anyEnd := by
  refine traces_updateRun hX (fun hg => ?_) fun _ => ?_
  · simp only [Bool.and_eq_true,decide_eq_true_eq,Option.isNone_iff_eq_none] at hg
    refine traces_getCloudRun runsMove_refl (fun _ => trivial) fun _ _ => ?_
    refine walks_log (fun _ _ => trivial) (traces_commit (runsMove_update ?_) ?_)
    · rw [hX]
      exact .cancelAsked n hg.1 hg.2
    · exact walks_last (traces_refresh (Function.update_self _ _ _) (traces_done rfl))
  · exact traces_rollback (walks_last (traces_getCloudRun runsMove_refl (fun _ => trivial)
      fun _ _ => traces_done rfl))

theorem walks_finishCancel {n : ℕ} (hX : X i = some b) (hb : b.status = .queued) :
    Walks clock (.runner (.cancel ctx i))
      (Stands X (Function.update X i (some (b.cancelledWhileQueued (clock n)))))
      (finishQueuedCancel i (clock n)) Idle anyEnd := by
  refine traces_refresh (Function.update_self _ _ _) ?_
  refine traces_obeys (obeys_getLocalRun _) runsMove_refl (fun _ => trivial) fun entry => ?_
  refine walks_flush rfl (fun _ _ => trivial) (traces_flushRun (Function.update_self _ _ _) ?_)
  rw [Function.update_idem]
  refine walks_log (fun _ _ => trivial) ?_
  refine traces_gives (gives_release unregulated_spared_budget _) runsMove_refl (fun _ => trivial)
    fun released hr => traces_flushRun (Function.update_self _ _ _) ?_
  rw [Function.update_idem]
  refine traces_commit (runsMove_update ?_) ?_
  · rw [hX]
    exact .cancelledQueued n hb hr
  · exact walks_last (traces_refresh (Function.update_self _ _ _) (traces_done rfl))

theorem walks_asked {n : ℕ} (hX : X i = some c) : Walks clock (.runner (.cancel ctx i)) (Stands X X)
    (do
      let asked ← requestRunningCloudRunCancelAndLog ctx i (clock n)
      commit
      pure asked) anyEnd anyEnd := by
  refine Traces.bind (walks_askCancel hX) fun asked => walks_standing fun B C hBC => ?_
  subst hBC
  exact traces_commit (runsMove_refl B) (traces_done trivial)

theorem walks_cancel : Walks clock (.runner (.cancel ctx i)) (Stands X X) (cancelCloudRun ctx i)
    anyEnd anyEnd := by
  refine traces_getCloudRun runsMove_refl (fun _ => trivial) fun b hX => ?_
  refine traces_obeysIdle (obeys_requirePermission resets_spared ctx) runsMove_refl (fun _ => trivial)
    fun _ => ?_
  split
  · exact traces_commit (runsMove_refl X) (traces_done trivial)
  · refine traces_utcNow fun n => ?_
    split
    · refine traces_updateRun hX (fun hg => ?_) fun _ => ?_
      · refine Traces.bind (walks_finishCancel hX (by simpa using hg)) fun cancelled =>
          walks_standing fun B C hBC => ?_
        subst hBC
        exact traces_commit (runsMove_refl B) (traces_done trivial)
      · refine traces_rollback (traces_getCloudRun runsMove_refl (fun _ => trivial) fun c hc => ?_)
        split
        · exact traces_commit (runsMove_refl X) (traces_done trivial)
        · exact traces_utcNow fun n => walks_asked hc
    · exact walks_asked hX

end cancel

section recovery

theorem walks_recovery {recorded : CloudRun} {status : ProviderOperationStatus} {reason : String}
    (hX : X i = some c) (hmove : RunMove clock o i (some c) (some recorded)) :
    Walks clock o (Stands X X) (recordRecovery i c recorded status reason)
      (fun result _ _ => result.status = status) anyEnd := by
  refine traces_flushRun hX (traces_commit (runsMove_update ?_) ?_)
  · rw [hX]
    exact hmove
  · exact traces_refresh (Function.update_self _ _ _) (traces_done rfl)

theorem walks_retry {mnsDelete : MnsDelete} : Walks clock (.retryReceipt ctx i mnsDelete) (Stands X X)
    (retryRetainedMnsQueueReceiptDelete ctx i mnsDelete) anyEnd anyEnd := by
  have hrecorded {recorded : CloudRun} {status : ProviderOperationStatus} {reason : String} {b : CloudRun}
      (hX : X i = some b) (hmove : RunMove clock (.retryReceipt ctx i mnsDelete) i (some b) (some recorded)) :
      Walks clock (.retryReceipt ctx i mnsDelete) (Stands X X) (recordRecovery i b recorded status reason)
        anyEnd anyEnd :=
    (walks_recovery hX hmove).mono (fun _ _ h => h) (fun _ _ _ _ => trivial) fun _ _ _ h => h
  refine traces_getCloudRun runsMove_refl (fun _ => trivial) fun b hX => ?_
  refine traces_obeysIdle (obeys_requirePermission resets_spared ctx) runsMove_refl (fun _ => trivial)
    fun _ => ?_
  cases hskip : mnsReceiptRecoverySkipReason b with
  | some reason =>
    exact traces_utcNow fun n => hrecorded hX (.retrySkipped n (by simp [hskip]))
  | none =>
    cases mnsDelete with
    | misconfigured name => exact traces_raise trivial
    | failed => exact traces_utcNow fun n => hrecorded hX (.receiptRetained n hskip)
    | deleted => exact traces_utcNow fun n => hrecorded hX (.receiptRecovered n hskip)

-- A cleanup that the provider is not asked for is reported as skipped.
theorem walks_cleanup {eciDelete : EciDelete} : Walks clock (.cleanupRuntime ctx i eciDelete)
    (Stands X X) (cleanupAliyunEciTerminalRuntimeJob ctx i eciDelete)
    (fun result _ _ => ∃ b, X i = some b ∧
      (aliyunEciRuntimeCleanupSkipReason b ≠ none → result.status = .skipped)) anyEnd := by
  refine traces_getCloudRun runsMove_refl (fun _ => trivial) fun b hX => ?_
  refine traces_obeysIdle (obeys_requirePermission resets_spared ctx) runsMove_refl (fun _ => trivial)
    fun _ => ?_
  cases hskip : aliyunEciRuntimeCleanupSkipReason b with
  | some reason =>
    refine traces_utcNow fun n => ?_
    exact (walks_recovery hX (.cleanupSkipped n (by simp [hskip]))).mono (fun _ _ h => h)
      (fun _ _ _ h => ⟨b,hX,fun _ => h⟩) fun _ _ _ h => h
  | none =>
    have hasked {status : ProviderOperationStatus} {m : Op CloudRunProviderOperationResult}
        (h : Walks clock (.cleanupRuntime ctx i eciDelete) (Stands X X) m
          (fun result _ _ => result.status = status) anyEnd) :
        Walks clock (.cleanupRuntime ctx i eciDelete) (Stands X X) m
          (fun result _ _ => ∃ b, X i = some b ∧
            (aliyunEciRuntimeCleanupSkipReason b ≠ none → result.status = .skipped)) anyEnd :=
      h.mono (fun _ _ h => h) (fun _ _ _ _ => ⟨b,hX,fun h => (h hskip).elim⟩) fun _ _ _ h => h
    refine traces_utcNow fun n => ?_
    cases eciDelete with
    | raised => exact hasked (walks_recovery hX (.runtimeRetained n hskip))
    | deleted => exact hasked (walks_recovery hX (.runtimeDeleted n hskip))

theorem obeys_putArtifact {committing : Prop} {data : CloudRunArtifactUploadCreate} {reply : OssPut} :
    Obeys (sparesRuns committing) anyPhase (putArtifact i c data reply) := by
  have hput (write : ObjectStorageWrite) (uri : Id → ObjectUri) (text : String) :
      Obeys (sparesRuns committing) anyPhase (putText write uri text) :=
    obeys_putText (fun _ => unregulated_spared rfl) write uri text
  unfold putArtifact
  dsimp only
  split
  · exact .pure _
  · split
    · exact .raise _
    · exact .pure _
    · exact (hput _ _ _).bind fun _ => .pure _
  · exact (hput _ _ _).bind fun _ => .pure _

-- Storing an artifact changes no run.
theorem traces_upload {cred : LeaseCredentials} {data : CloudRunArtifactUploadCreate} {reply : OssPut} :
    RunTraces clock Eq (Stands X X) (uploadCloudRunLeaseArtifact cred data reply)
      (fun _ _ _ => SomeLease clock cred X) anyEnd := by
  refine traces_resolve Eq.refl (fun _ => trivial) fun i c hX hlease => ?_
  refine traces_obeys obeys_putArtifact Eq.refl (fun _ => trivial) fun result => ?_
  cases result with
  | error detail => exact traces_rollback (traces_raise trivial)
  | ok ref => exact traces_commit rfl (traces_done ⟨i,c,hX,hlease⟩)

theorem gives_stubLogs {replies : LogSyncReplies} (hruntime : c.runtimeProvider = some .remoteStub) :
    Gives (sparesRuns False) anyPhase (syncRemoteStubLogs i c replies)
      fun result => ∀ ref, result.logStreamRef = some ref → LogSynced c replies ref := by
  have hput := gives_put (P := sparesRuns False) (Φ := anyPhase) fun _ => unregulated_spared rfl
  unfold syncRemoteStubLogs
  split
  · exact .pure (by simp)
  · rename_i hstorage
    split
    · exact .pure (by simp)
    · rename_i hnew
      refine (hput _ _ _).gives fun ref href => .pure ?_
      obtain ⟨objectId,rfl⟩ := href
      intro ref href
      obtain rfl := Option.some.inj href
      exact .stub objectId hruntime (not_not.mp hstorage) (eq_false_of_ne_true hnew)

theorem gives_eciLogs {replies : LogSyncReplies} (hruntime : c.runtimeProvider = some .aliyunEci) :
    Gives (sparesRuns False) anyPhase (syncAliyunEciLogs i c replies)
      fun out => ∀ result, out = .ok result → ∀ ref, result.logStreamRef = some ref →
        LogSynced c replies ref := by
  have hput := gives_put (P := sparesRuns False) (Φ := anyPhase) fun _ => unregulated_spared rfl
  unfold syncAliyunEciLogs
  split
  · exact .pure (by simp)
  · rename_i hstorage
    split
    · exact .pure (by simp)
    · rename_i hjob
      cases hcontent : replies.content with
      | error e => exact .pure (by simp)
      | ok content =>
        dsimp only
        split
        · exact .pure (by simp)
        · rename_i hsome
          split
          · exact .pure (by simp)
          · rename_i hnew
            cases hupload : replies.upload with
            | error e => exact .pure (by simp)
            | ok path =>
              refine (hput _ _ _).gives fun ref href => .pure ?_
              obtain ⟨objectId,rfl⟩ := href
              intro result hresult ref href
              obtain rfl := Except.ok.inj hresult
              obtain rfl := Option.some.inj href
              exact .eci hruntime (not_not.mp hstorage) hjob hcontent hsome (eq_false_of_ne_true hnew) hupload

theorem walks_persistLog {result : RemoteRuntimeLogSyncResult} (hX : X i = some c)
    (hmove : ∀ ref, result.logStreamRef = some ref →
      RunMove clock o i (some c) (some (c.logStreamStored ref))) :
    Walks clock o (Stands X X) (persistLogStreamRef i c result) anyEnd anyEnd := by
  unfold persistLogStreamRef
  split
  · rename_i ref _ href
    refine traces_flushRun hX (traces_commit (runsMove_update ?_) (traces_done trivial))
    rw [hX]
    exact hmove ref href
  · exact traces_done trivial

theorem walks_syncLogs {cursorValid : Bool} {replies : LogSyncReplies} (hX : X i = some c) :
    Walks clock (.logWindow ctx i cursorValid true true replies) (Stands X X)
      (syncCloudRunLogStream i c replies) anyEnd anyEnd := by
  unfold syncCloudRunLogStream
  split
  · exact traces_done trivial
  · exact traces_done trivial
  · rename_i hprovider
    exact traces_gives (gives_stubLogs hprovider) runsMove_refl (fun _ => trivial) fun result hr =>
      walks_persistLog hX fun ref href => .logSynced (hr ref href)
  · rename_i hprovider
    refine traces_gives (gives_eciLogs hprovider) runsMove_refl (fun _ => trivial) fun out hr => ?_
    cases out with
    | ok result => exact walks_persistLog hX fun ref href => .logSynced (hr result rfl ref href)
    | error e => exact traces_rollback (by cases e <;> exact traces_done trivial)

theorem walks_logWindow {cursorValid includeStream syncStream : Bool} {replies : LogSyncReplies} :
    Walks clock (.logWindow ctx i cursorValid includeStream syncStream replies) (Stands X X)
      (syncedLogWindow ctx i cursorValid includeStream syncStream replies) anyEnd anyEnd := by
  refine traces_getCloudRun runsMove_refl (fun _ => trivial) fun c hX => ?_
  refine traces_obeysIdle (obeys_requirePermission resets_spared ctx) runsMove_refl (fun _ => trivial)
    fun _ => ?_
  cases cursorValid with
  | false => exact traces_raise trivial
  | true =>
    cases includeStream with
    | false => exact traces_done trivial
    | true =>
      cases syncStream with
      | false => exact traces_done trivial
      | true => exact Traces.bind (walks_syncLogs hX) fun _ => walks_standing fun _ _ _ => traces_done trivial

end recovery

theorem walks_program (o : CloudRunOp) :
    Walks clock o (Stands X X) o.program anyEnd anyEnd := by
  have hdiscard {α : Type} {m : Op α} {Ψ : α → Runs → Runs → Prop} {Ξ : Exn → Runs → Runs → Prop}
      (h : Walks clock o (Stands X X) m Ψ Ξ) : Walks clock o (Stands X X) (discard m) anyEnd anyEnd :=
    Traces.bind (h.mono (fun _ _ h => h) (fun _ _ _ h => h) fun _ _ _ _ => trivial) fun _ =>
      walks_standing fun _ _ _ => traces_done trivial
  cases o with
  | runner o =>
    cases o with
    | enqueue ctx taskId data replies => exact hdiscard walks_enqueue
    | claim req => exact hdiscard (traces_moves traces_claim)
    | heartbeat cred leaseSeconds => exact hdiscard (traces_moves traces_heartbeat)
    | cancel ctx cloudRunId => exact hdiscard walks_cancel
    | requeue provider limit => exact hdiscard walks_requeue
    | complete ctx cred body replies => exact hdiscard (traces_moves traces_complete)
    | process ctx cloudRunId workerId replies => exact hdiscard walks_process
  | upload cred data reply => exact hdiscard (traces_upload.weaken fun B C h => h ▸ runsMove_refl B)
  | retryReceipt ctx cloudRunId mnsDelete => exact hdiscard walks_retry
  | cleanupRuntime ctx cloudRunId eciDelete => exact hdiscard walks_cleanup
  | logWindow ctx cloudRunId cursorValid includeStream syncStream replies => exact walks_logWindow

end AiScdc
