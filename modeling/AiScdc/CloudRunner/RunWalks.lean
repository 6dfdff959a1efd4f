import AiScdc.CloudRunner.RunMachine

namespace AiScdc
open Transaction

variable [Digest] {α β : Type} {clock : ℕ → Time} {o : CloudRunOp} {X Y : Runs} {i : Id} {b c : CloudRun}
  {Φ : Runs → Runs → Prop} {Ω : β → Runs → Runs → Prop} {Ξ : Exn → Runs → Runs → Prop}

abbrev anyEnd (_ : α) (_ _ : Runs) : Prop := True

-- One operation, committing only moves of the machine.
abbrev Walks (clock : ℕ → Time) (o : CloudRunOp) (Φ : Runs → Runs → Prop) (m : Op α)
    (Ψ : α → Runs → Runs → Prop) (Ξ : Exn → Runs → Runs → Prop) : Prop :=
  RunTraces clock (RunsMove clock o) Φ m Ψ Ξ

theorem walks_standing {m : Op α} {Ψ : α → Runs → Runs → Prop}
    (h : ∀ X Y, Φ X Y → Walks clock o (Stands X Y) m Ψ Ξ) : Walks clock o Φ m Ψ Ξ :=
  fun s hs => h _ _ hs s ⟨rfl,rfl⟩

theorem walks_last {m : Op α} {Ψ : α → Runs → Runs → Prop}
    (h : Walks clock o Φ (m >>= pure) Ψ Ξ) : Walks clock o Φ m Ψ Ξ := by
  rwa [bind_pure] at h

section enqueue

variable {ctx : Option AuthContext} {taskId : Id} {data : CloudRunCreate} {replies : EnqueueReplies}

-- The run that an enqueue has just committed, and the row it goes on with.
def RunCommitted (p : CloudRun → Prop) (i : Id) (c : CloudRun) (B C : Runs) : Prop :=
  p c ∧ B i = some c ∧ B = C

omit [Digest] in
theorem runCommitted_update {p : CloudRun → Prop} (h : p c) :
    RunCommitted p i c (Function.update X i (some c)) (Function.update X i (some c)) :=
  ⟨h,Function.update_self _ _ _,rfl⟩

theorem walks_runCommitted {p : CloudRun → Prop} {m : Op α} {Ψ : α → Runs → Runs → Prop}
    (h : ∀ X, p c → X i = some c → Walks clock o (Stands X X) m Ψ Ξ) :
    Walks clock o (RunCommitted p i c) m Ψ Ξ := by
  refine walks_standing fun X Y hXY => ?_
  obtain ⟨hp,hX,rfl⟩ := hXY
  exact h X hp hX

theorem walks_logAt {cloudRunId workspaceId : Id} {level : String} {event : LogEvent} {t : Time}
    {f : Unit → Op β} (hΞ : ∀ e : Exn, e.isHttp = false → Ξ e X Y)
    (h : Walks clock o (Stands X Y) (f ()) Ω Ξ) :
    Walks clock o (Stands X Y) (appendCloudRunLogAt cloudRunId workspaceId level event t >>= f) Ω Ξ :=
  traces_throwing (obeys_freshId.bind fun _ => obeys_insert ((unregulated_spared rfl).update _ _))
    (Throws.bind (fun _ => trivial) fun _ => throws_insert _ _) runsMove_refl hΞ fun _ => h

theorem walks_log {cloudRunId workspaceId : Id} {level : String} {event : LogEvent}
    {f : Unit → Op β} (hΞ : ∀ e : Exn, e.isHttp = false → Ξ e X Y)
    (h : Walks clock o (Stands X Y) (f ()) Ω Ξ) :
    Walks clock o (Stands X Y) (appendCloudRunLog cloudRunId workspaceId level event >>= f) Ω Ξ := by
  simp only [appendCloudRunLog,bind_assoc]
  exact traces_utcNow fun _ => walks_logAt hΞ h

theorem walks_flush {k : Key} (hk : k.isCloudRun = false) {l n : k.Entity} {f : Unit → Op β}
    (hΞ : ∀ e : Exn, e.isHttp = false → Ξ e X Y) (h : Walks clock o (Stands X Y) (f ()) Ω Ξ) :
    Walks clock o (Stands X Y) (flush k l n >>= f) Ω Ξ :=
  traces_throwing (obeys_flush ((unregulated_spared hk).flush _ _)) trivial runsMove_refl hΞ fun _ => h

theorem walks_createQueued {task : Task} {repository : Repository} :
    Walks clock (.runner (.enqueue ctx taskId data replies)) (Stands X X)
      (createQueuedCloudRun ctx taskId task repository data replies.sandboxKind)
      (fun q => RunCommitted (fun c => RunUnsent data c ∧ c.callbackTokenHash = none) q.cloudRunId q.cloudRun)
      anyEnd := by
  have hE : ∀ (e : Exn) (Y : Runs), anyEnd e X Y := fun _ _ => trivial
  refine traces_obeys (obeys_reserve unregulated_spared_budget _ _ _) runsMove_refl (hE · _)
    fun reserved => ?_
  refine traces_freshId fun id => traces_utcNow fun n => traces_insertRun (hE _ _) fun hnone => ?_
  refine traces_utcNow fun _ => walks_flush rfl (fun _ _ => trivial) ?_
  refine traces_freshId fun localRunId => traces_utcNow fun _ => ?_
  refine traces_obeys (obeys_insert ((unregulated_spared rfl).update _ _)) runsMove_refl (hE · _)
    fun _ => traces_utcNow fun _ => ?_
  refine traces_flushRun (Function.update_self _ _ _) ?_
  rw [Function.update_idem]
  refine walks_log (fun _ _ => trivial) (traces_commit (runsMove_update ?_) ?_)
  · rw [hnone]
    exact .queued task repository _ _ localRunId _ _
  · refine traces_refresh (Function.update_self _ _ _) ?_
    refine traces_obeys (obeys_refresh _) runsMove_refl (fun _ => trivial) fun localRun => ?_
    exact traces_done (runCommitted_update ⟨⟨rfl,rfl,rfl,rfl,rfl,rfl⟩,rfl⟩)

theorem walks_protect {callbackToken : String} (ht : callbackToken = replies.callbackToken)
    (hdata : ∀ name, data.runtimeProvider ≠ some (.other name)) (hX : X i = some c) (hc : RunUnsent data c) (hnone : c.callbackTokenHash = none) :
    Walks clock (.runner (.enqueue ctx taskId data replies)) (Stands X X)
      (protectCloudRun data callbackToken i c) (RunCommitted (RunUnsent data) i) anyEnd := by
  subst ht
  unfold protectCloudRun
  split
  · exact traces_done ⟨hc,hX,rfl⟩
  · rename_i workerId hworker
    refine traces_utcNow fun n => traces_flushRun hX (traces_commit (runsMove_update ?_) ?_)
    · rw [hX]
      exact .guarded workerId n hworker hdata hc hnone
    · refine walks_last (traces_refresh (Function.update_self _ _ _) (traces_done ?_))
      exact runCommitted_update ⟨hc.status,hc.queueProvider,hc.runtimeProvider,hc.storageProvider,
        hc.queueMessageId,hc.queueReceipt⟩

theorem walks_failQueue {queued : QueuedCloudRun} {detail : String}
    (hX : X queued.cloudRunId = some c) (hc : RunUnsent data c) (hrefused : MessageRefused data replies detail)
    {Ψ : CloudRun → Runs → Runs → Prop} :
    Walks clock (.runner (.enqueue ctx taskId data replies)) (Stands X X)
      (failQueueEnqueue queued c detail) Ψ anyEnd := by
  refine traces_utcNow fun n => traces_flushRun hX (walks_flush rfl (fun _ _ => trivial) ?_)
  refine walks_log (fun _ _ => trivial) ?_
  refine traces_gives (gives_release unregulated_spared_budget _) runsMove_refl (fun _ => trivial)
    fun released hr => traces_flushRun (Function.update_self _ _ _) ?_
  rw [Function.update_idem]
  refine traces_commit (runsMove_update ?_) (traces_raise trivial)
  rw [hX]
  exact .queueRefused n hc hrefused hr

-- What the queue answers to the run that an enqueue has committed.
def QueueAnswers (data : CloudRunCreate) (replies : EnqueueReplies) :
    Except String CloudQueueEnqueueResult → Prop
  | .error detail => MessageRefused data replies detail
  | .ok r => r.queueReceipt = none ∧ MessageSent data replies r.queueMessageId r.externalStatus

theorem walks_record {queued : QueuedCloudRun} {result : Except String CloudQueueEnqueueResult}
    (hX : X queued.cloudRunId = some c) (hc : RunUnsent data c) (hr : QueueAnswers data replies result) :
    Walks clock (.runner (.enqueue ctx taskId data replies)) (Stands X X)
      (recordQueueResult queued c result) (RunCommitted (RunSent data) queued.cloudRunId) anyEnd := by
  cases result with
  | error detail => exact walks_failQueue hX hc hr
  | ok r =>
    obtain ⟨hreceipt,hsent⟩ := hr
    refine traces_utcNow fun n => traces_flushRun hX (traces_commit (runsMove_update ?_) ?_)
    · rw [hX,hreceipt]
      exact .enqueued n hc hsent
    · refine walks_last (traces_refresh (Function.update_self _ _ _) (traces_done ?_))
      exact runCommitted_update ⟨hc.status,hc.queueProvider,hc.runtimeProvider,hc.storageProvider,hreceipt⟩

omit [Digest] in
theorem gives_queueEnqueue {G : Type} {P : Course Row G} {Φ : G → Prop}
    (hsend : shouldEnqueueCloudQueueMessage data = true) :
    Gives P Φ (queueEnqueue data.queueProvider replies) (QueueAnswers data replies) := by
  cases hqueue : data.queueProvider with
  | aliyunMns =>
    have hruntime : data.runtimeProvider ≠ some .aliyunEci := by
      simpa [shouldEnqueueCloudQueueMessage,hqueue] using hsend
    simp only [queueEnqueue]
    split
    · exact fun _ hx => hx
    · cases hreply : replies.queue with
      | refused => exact .pure (.mns hqueue hruntime hreply)
      | sent messageId => exact .pure ⟨rfl,.mns hqueue hruntime hreply⟩
  | externalStub => exact .pure ⟨rfl,.stub hqueue⟩
  | localDb => exact .pure ⟨rfl,.localDb hqueue⟩
  | other name => exact fun _ hx => hx

theorem walks_send {queued : QueuedCloudRun} (hX : X queued.cloudRunId = some c) (hc : RunUnsent data c) :
    Walks clock (.runner (.enqueue ctx taskId data replies)) (Stands X X)
      (sendQueueMessage data replies queued c) (RunCommitted (RunSent data) queued.cloudRunId) anyEnd := by
  unfold sendQueueMessage
  cases hsend : shouldEnqueueCloudQueueMessage data with
  | true =>
    exact traces_gives (gives_queueEnqueue hsend) runsMove_refl (fun _ => trivial) fun result hr =>
      walks_record hX hc hr
  | false =>
    simp only [Bool.false_eq_true,if_false,bind_assoc,pure_bind]
    refine walks_log (fun _ _ => trivial) (walks_record hX hc ⟨hc.queueReceipt,?_⟩)
    simp only [shouldEnqueueCloudQueueMessage,Bool.not_eq_false',Bool.and_eq_true,decide_eq_true_eq] at hsend
    rw [hc.queueMessageId]
    exact .skipped hsend.1 hsend.2

theorem gives_put {G : Type} {P : Course Row G} {Φ : G → Prop}
    (h : ∀ id, Unregulated P Φ (.storedObject id)) (write : ObjectStorageWrite) (uri : Id → ObjectUri)
    (text : String) : Gives P Φ (putText write uri text) fun ref =>
      ∃ objectId, ref = ⟨uri objectId,write.content.utf8ByteSize⟩ :=
  obeys_freshId.gives fun objectId => (obeys_insert ((h objectId).update _ _)).gives fun _ => .pure ⟨_,rfl⟩

-- What the runtime answers to the run that an enqueue has committed.
def RuntimeAnswers (data : CloudRunCreate) (replies : EnqueueReplies) (id : Id) :
    Except String RemoteRuntimeSubmission → Prop
  | .error detail => JobRefused data replies detail
  | .ok r => JobSubmitted data replies id r.runtimeJobId r.manifest r.log

theorem gives_submitRuntime {provider : RuntimeProvider} (hdata : data.runtimeProvider = some provider)
    (hc : c.storageProvider = data.storageProvider) : Gives (sparesRuns False) anyPhase
      (submitRemoteRuntime provider i c replies) (RuntimeAnswers data replies i) := by
  have hput (write : ObjectStorageWrite) (uri : Id → ObjectUri) (text : String) :
      Gives (sparesRuns False) anyPhase (putText write uri text) fun ref =>
        ∃ objectId, ref = ⟨uri objectId,write.content.utf8ByteSize⟩ :=
    gives_put (fun _ => unregulated_spared rfl) write uri text
  cases provider with
  | other name => exact fun _ hx => hx
  | remoteStub =>
    refine Gives.gives (R := fun s => RuntimeAnswers data replies i (.ok s)) ?_ fun _ h => .pure h
    unfold submitRemoteStub
    dsimp only
    split
    · rename_i hstorage
      refine (hput _ _ _).gives fun manifest hmanifest => (hput _ _ _).gives fun log hlog => ?_
      obtain ⟨manifestId,rfl⟩ := hmanifest
      obtain ⟨logId,rfl⟩ := hlog
      exact .pure (.stubStored manifestId logId hdata (hc ▸ hstorage))
    · rename_i hstorage
      exact .pure (.stub hdata (hc ▸ hstorage))
  | aliyunEci =>
    show Gives _ _ (submitAliyunEci i c replies) _
    unfold submitAliyunEci
    split
    · exact fun _ hx => hx
    · cases hreply : replies.runtime with
      | refused => exact .pure (.eci hdata hreply)
      | created containerGroupId manifestPath logPath =>
        dsimp only
        split
        · rename_i hstorage
          refine (hput _ _ _).gives fun manifest hmanifest => (hput _ _ _).gives fun log hlog => ?_
          obtain ⟨_,rfl⟩ := hmanifest
          obtain ⟨_,rfl⟩ := hlog
          exact .pure (.eciStored hdata hreply (hc ▸ hstorage))
        · rename_i hstorage
          exact .pure (.eci hdata hreply (hc ▸ hstorage))

theorem walks_failRuntime {detail : String} (hX : X i = some c) (hc : RunSent data c)
    (hrefused : JobRefused data replies detail) {Ψ : CloudRun → Runs → Runs → Prop} :
    Walks clock (.runner (.enqueue ctx taskId data replies)) (Stands X Y)
      (failRuntimeSubmission ctx i detail) Ψ anyEnd := by
  refine traces_rollback (traces_getCloudRun runsMove_refl (fun _ => trivial) fun row hrow => ?_)
  obtain rfl : c = row := Option.some.inj (hX.symm.trans hrow)
  refine traces_obeys (obeys_getLocalRun _) runsMove_refl (fun _ => trivial) fun entry => ?_
  refine traces_utcNow fun n => traces_flushRun hX (walks_flush rfl (fun _ _ => trivial) ?_)
  refine walks_log (fun _ _ => trivial) ?_
  refine traces_gives (gives_settle unregulated_spared_budget _ _) runsMove_refl (fun _ => trivial)
    fun settled hs => traces_flushRun (Function.update_self _ _ _) ?_
  rw [Function.update_idem]
  refine traces_commit (runsMove_update ?_) (traces_raise trivial)
  rw [hX]
  exact .runtimeRefused n hc hrefused hs

theorem walks_submit (hX : X i = some c) (hc : RunSent data c) :
    Walks clock (.runner (.enqueue ctx taskId data replies)) (Stands X X)
      (submitToRuntime ctx data replies i c)
      (fun _ => RunsMove clock (.runner (.enqueue ctx taskId data replies))) anyEnd := by
  unfold submitToRuntime
  split
  · exact traces_done (runsMove_refl X)
  · rename_i provider hdata
    refine traces_utcNow fun n => ?_
    refine traces_gives (gives_submitRuntime hdata hc.storageProvider) runsMove_refl (fun _ => trivial)
      fun result hr => ?_
    cases result with
    | error detail =>
      exact Traces.bind (walks_failRuntime hX hc hr (Ψ := fun _ _ _ => False)) fun _ _ hs => hs.elim
    | ok submission =>
      refine traces_flushRun hX (walks_last (walks_log (fun _ _ => trivial) (traces_done ?_)))
      refine runsMove_update ?_
      rw [hX]
      exact .submitted n hc hr

omit [Digest] in
theorem gives_settings (data : CloudRunCreate) (replies : EnqueueReplies) {G : Type}
    {P : Course Row G} {Φ : G → Prop} : Gives P Φ (validateCloudRunProviderSelection data replies)
      fun _ => ∀ name, data.runtimeProvider ≠ some (.other name) := by
  have hruntime : Gives P Φ (orHttp400 (getRemoteRuntimeProvider data.runtimeProvider))
      fun _ => ∀ name, data.runtimeProvider ≠ some (.other name) := by
    cases hdata : data.runtimeProvider with
    | none => exact .pure (by simp)
    | some provider =>
      cases provider with
      | other name => exact gives_http _ _
      | remoteStub => exact .pure (by simp)
      | aliyunEci => exact .pure (by simp)
  unfold validateCloudRunProviderSelection
  split
  · exact gives_http _ _
  · refine (obeys_orHttp400 _).gives fun _ => (obeys_orHttp400 _).gives fun _ => ?_
    refine hruntime.gives fun _ h => (obeys_orHttp400 _).gives fun _ => ?_
    refine (obeys_orHttp400 _).gives fun _ => ?_
    exact fun x hx => ((obeys_orHttp400 _) x hx).mono (fun _ _ hy => ⟨h,hy⟩) fun _ _ hy => hy

theorem walks_enqueue : Walks clock (.runner (.enqueue ctx taskId data replies)) (Stands X X)
    (enqueueCloudRun ctx taskId data replies) anyEnd anyEnd := by
  refine traces_obeys (obeys_getTask _ _) runsMove_refl (fun _ => trivial) fun task => ?_
  refine traces_obeys (obeys_getRepository _ _) runsMove_refl (fun _ => trivial) fun repository => ?_
  refine traces_obeysIdle (obeys_requirePermission resets_spared ctx) runsMove_refl (fun _ => trivial)
    fun _ => ?_
  refine traces_obeys (obeys_validateRepository _ _) runsMove_refl (fun _ => trivial) fun _ => ?_
  refine traces_gives (gives_settings data replies) runsMove_refl (fun _ => trivial) fun _ hdata => ?_
  refine traces_obeys (obeys_validateProfile _ _) runsMove_refl (fun _ => trivial) fun _ => ?_
  refine Traces.bind walks_createQueued fun queued => walks_runCommitted fun X hp hX => ?_
  refine Traces.bind (walks_protect rfl hdata hX hp.1 hp.2) fun guarded => walks_runCommitted fun X hp hX => ?_
  refine Traces.bind (walks_send hX hp) fun sent => walks_runCommitted fun X hp hX => ?_
  refine Traces.bind (walks_submit hX hp) fun _ => walks_standing fun X Y hXY => ?_
  refine traces_commit hXY ?_
  exact traces_obeys (obeys_refresh _) runsMove_refl (fun _ => trivial) fun _ => traces_done trivial

end enqueue

section callbacks

variable {R : Runs → Runs → Prop}

omit [Digest] in
theorem traces_reject {f : α → Op β} {statusCode : ℕ} {detail : String} (hR : ∀ b, R b b) (hΞ : ∀ e, Ξ e X X) :
    RunTraces clock R (Stands X X) (rejectWorkerAuthentication statusCode detail >>= f) Ω Ξ := by
  simp only [rejectWorkerAuthentication,bind_assoc]
  exact traces_commit (hR X) (traces_raise (hΞ _))

theorem traces_verify {workerId : String} {callbackToken : Option String} {now : Option Time}
    {requireToken : Bool} {f : Unit → Op β} (hR : ∀ b, R b b) (hnow : ∀ t, now = some t → ∃ n, t = clock n)
    (hΞ : ∀ e, Ξ e X X)
    (h : TokenAccepted clock i c workerId callbackToken requireToken →
      RunTraces clock R (Stands X X) (f ()) Ω Ξ) :
    RunTraces clock R (Stands X X)
      (verifyCloudRunCallbackTokenOr403 i c workerId callbackToken now requireToken >>= f) Ω Ξ := by
  have hclock {g : Time → Op β} (hg : ∀ n, RunTraces clock R (Stands X X) (g (clock n)) Ω Ξ) :
      RunTraces clock R (Stands X X) (clockOr now >>= g) Ω Ξ := by
    cases now with
    | none => exact traces_utcNow hg
    | some t =>
      obtain ⟨n,rfl⟩ := hnow t rfl
      exact hg n
  unfold verifyCloudRunCallbackTokenOr403
  split
  · rename_i hhash
    split
    · exact traces_reject hR hΞ
    · rename_i hopt
      exact h (.unguarded hhash (eq_false_of_ne_true hopt))
  · rename_i expectedHash hhash
    split
    · exact traces_reject hR hΞ
    · rename_i token
      split
      · exact traces_reject hR hΞ
      · rename_i hused
        split
        · exact traces_reject hR hΞ
        · rename_i expiresAt hexpires
          rw [bind_assoc]
          refine hclock fun n => ?_
          split
          · exact traces_reject hR hΞ
          · rename_i hlive
            split
            · rename_i hverify
              refine h (.checked n rfl (by simpa using hused) hexpires (not_lt.mp hlive) ?_)
              rw [hhash]
              simpa [verifyCallbackToken,eq_comm] using hverify
            · exact traces_reject hR hΞ

omit [Digest] in
theorem traces_ensureCurrent {workerId : String} {f : Unit → Op β} (hΞ : ∀ e, Ξ e X Y)
    (h : c.workerId = some workerId → c.status = .running → c.completedAt = none →
      (∃ expiresAt n, c.leaseExpiresAt = some expiresAt ∧ clock n ≤ expiresAt) →
      RunTraces clock R (Stands X Y) (f ()) Ω Ξ) :
    RunTraces clock R (Stands X Y) (ensureCurrentCloudRunLeaseOr409 c workerId >>= f) Ω Ξ := by
  unfold ensureCurrentCloudRunLeaseOr409
  split
  · exact traces_raise (hΞ _)
  · rename_i hcur
    simp only [ne_eq,not_or,not_not] at hcur
    split
    · exact traces_raise (hΞ _)
    · rename_i expiresAt hexpires
      rw [bind_assoc]
      refine traces_utcNow fun n => ?_
      split
      · exact traces_raise (hΞ _)
      · rename_i hlive
        refine h hcur.1 hcur.2.1 (by simpa using hcur.2.2) ⟨expiresAt,n,hexpires,?_⟩
        exact not_lt.mp hlive

omit [Digest] in
theorem mem_runs {view : Id → CloudRun → Option α} {n : ℕ} {a : α} {rest : List α}
    (h : ((List.range n).filterMap fun i => (Y i).bind (view i)) = a :: rest) :
    ∃ i c, Y i = some c ∧ view i c = some a := by
  have hmem : a ∈ (List.range n).filterMap fun i => (Y i).bind (view i) := h ▸ List.mem_cons_self
  obtain ⟨i,_,hi⟩ := List.mem_filterMap.mp hmem
  obtain ⟨c,hc,hview⟩ := Option.bind_eq_some_iff.mp hi
  exact ⟨i,c,hc,hview⟩

theorem traces_resolve {cred : LeaseCredentials} {f : Id × CloudRun → Op β} (hR : ∀ b, R b b)
    (hΞ : ∀ e, Ξ e X X)
    (h : ∀ i c, X i = some c → LeaseAccepted clock cred i c →
      RunTraces clock R (Stands X X) (f (i,c)) Ω Ξ) :
    RunTraces clock R (Stands X X) (resolveCloudRunCallbackLease cred >>= f) Ω Ξ := by
  unfold resolveCloudRunCallbackLease
  split
  · rename_i hrequire
    simp only [bind_assoc]
    refine traces_obeysIdle (obeys_requirePresented resets_spared _) hR hΞ fun _ => ?_
    refine traces_selectRuns fun n => ?_
    split
    · exact traces_reject hR hΞ
    · rename_i i c rest hlist
      obtain ⟨j,d,hd,hview⟩ := mem_runs hlist
      have hj : d.leaseId = some cred.leaseId ∧ (j,d) = (i,c) := by simpa using hview
      obtain ⟨hlease,heq⟩ := hj
      cases heq
      simp only [bind_assoc,pure_bind]
      refine traces_verify hR (by simp) hΞ fun htoken => traces_ensureCurrent hΞ fun hw hr hf hc => ?_
      refine h i c hd ⟨hlease,hw,hr,hf,hc,?_⟩
      rw [hrequire]
      exact htoken
  · rename_i hrequire
    simp only [getCurrentCloudRunLeaseOr409,bind_assoc]
    refine traces_selectRuns fun n => ?_
    split
    · exact traces_raise (hΞ _)
    · rename_i i c rest hlist
      obtain ⟨j,d,hd,hview⟩ := mem_runs hlist
      have hj : d.leaseId = some cred.leaseId ∧ (j,d) = (i,c) := by
        simp at hview
        exact ⟨hview.1.1,by simpa using hview.2⟩
      obtain ⟨hlease,heq⟩ := hj
      cases heq
      simp only [bind_assoc,pure_bind]
      refine traces_ensureCurrent hΞ fun hw hr hf hc => traces_verify hR (by simp) hΞ fun htoken => ?_
      refine h i c hd ⟨hlease,hw,hr,hf,hc,?_⟩
      rw [eq_false_of_ne_true hrequire]
      exact htoken

end callbacks

section leases

omit [Digest] in
theorem gives_mnsReceipt {req : ClaimRequest} {G : Type} {P : Course Row G} {Φ : G → Prop} :
    Gives P Φ (validatedAliyunMnsClaimReceipt c req) (ReceiptAccepted c req) := by
  unfold validatedAliyunMnsClaimReceipt
  split
  · rename_i h
    exact .pure (h.elim .otherQueue .undelivered)
  · rename_i hqueue
    split
    · rename_i h
      exact .pure (.unqueued h.1 h.2.1)
    · split
      · exact gives_http _ _
      · rename_i hpresent
        split
        · exact gives_http _ _
        · rename_i hmessage
          simp only [not_or,not_not] at hqueue
          refine .pure (.delivered hqueue.1 ?_ (by simpa using hmessage))
          simp only [Bool.or_eq_true,Bool.not_eq_true',not_or,Bool.not_eq_false] at hpresent
          exact hpresent

-- Commits that change a run only where A holds.
def MovesIf (A : Prop) (clock : ℕ → Time) (o : CloudRunOp) (B C : Runs) : Prop :=
  B = C ∨ (A ∧ RunsMove clock o B C)

theorem movesIf_refl {A : Prop} (B : Runs) : MovesIf A clock o B B := Or.inl rfl

theorem MovesIf.moves {A : Prop} {B C : Runs} (h : MovesIf A clock o B C) : RunsMove clock o B C := by
  rcases h with rfl | ⟨_,h⟩
  · exact runsMove_refl B
  · exact h

theorem walks_movesIf {A : Prop} (hA : A) {m : Op α} {Ψ : α → Runs → Runs → Prop}
    (h : Walks clock o Φ m Ψ Ξ) :
    RunTraces clock (MovesIf A clock o) Φ m (fun a B C => A ∧ Ψ a B C) Ξ :=
  (h.weaken fun _ _ hR => Or.inr ⟨hA,hR⟩).mono (fun _ _ h => h) (fun _ _ _ h => ⟨hA,h⟩) fun _ _ _ h => h

theorem traces_moves {A : Prop} {m : Op α} {Ψ : α → Runs → Runs → Prop}
    (h : RunTraces clock (MovesIf A clock o) Φ m Ψ Ξ) : Walks clock o Φ m Ψ Ξ :=
  h.weaken fun _ _ hR => hR.moves

structure ClaimAccepted (clock : ℕ → Time) (req : ClaimRequest) (i : Id) (c : CloudRun) : Prop where
  claimable : isClaimable c = true
  queueProvider : c.queueProvider = req.queueProvider
  addressed : ∀ wanted, req.cloudRunId = some wanted → wanted = i
  named : req.requireCallbackToken = true → req.cloudRunId ≠ none
  token : TokenAccepted clock i c req.workerId req.callbackToken req.requireCallbackToken

def SomeClaim (clock : ℕ → Time) (req : ClaimRequest) (X : Runs) : Prop :=
  ∃ i c, X i = some c ∧ ClaimAccepted clock req i c

abbrev leasedIf (A : Prop) (lease : Option CloudRunLease) (_ _ : Runs) : Prop := lease.isSome = true → A

structure Candidate (req : ClaimRequest) (i : Id) (c : CloudRun) : Prop where
  queueProvider : c.queueProvider = req.queueProvider
  addressed : ∀ wanted, req.cloudRunId = some wanted → wanted = i

-- The answers that turn a worker's request down.
def Exn.rejectsWorker : Exn → Bool
  | .http statusCode _ => statusCode = 400 || statusCode = 401 || statusCode = 403
  | _ => false

abbrev unlessRejected (X : Runs) (e : Exn) (B _ : Runs) : Prop := e.rejectsWorker = true → B = X

omit [Digest] in
theorem unlessRejected_of_accepted {B C : Runs} {e : Exn} (he : e.rejectsWorker = false) :
    unlessRejected X e B C := by
  intro hrejected
  rw [he] at hrejected
  cases hrejected

omit [Digest] in
theorem throws_refresh (k : Key) : Throws (fun e : Exn => e.rejectsWorker = false) (refresh k) := by
  refine Throws.bind (fun _ _ => trivial) fun row => ?_
  cases row with
  | none => rfl
  | some row => trivial

omit [Digest] in
theorem throws_leaseRead (i : Id) (c : CloudRun) :
    Throws (fun e : Exn => e.rejectsWorker = false) (cloudRunLeaseRead i c) := by
  unfold cloudRunLeaseRead
  split
  · trivial
  · rfl

theorem walks_candidates {req : ClaimRequest} {k : ℕ} {ids : List Id}
    (hnamed : req.requireCallbackToken = true → req.cloudRunId ≠ none)
    (h : ∀ i ∈ ids, ∀ c, X i = some c → Candidate req i c) :
    RunTraces clock (MovesIf (SomeClaim clock req X) clock (.runner (.claim req))) (Stands X X)
      (claimCandidates req (clock k) ids) (leasedIf (SomeClaim clock req X)) (unlessRejected X) := by
  induction ids with
  | nil => exact traces_done (fun h => by cases h)
  | cons i rest ih =>
    have hrest := ih fun j hj => h j (List.mem_cons_of_mem i hj)
    refine traces_getRun ?_
    cases hX : X i with
    | none => exact hrest
    | some c =>
      have hcand := h i List.mem_cons_self c hX
      refine traces_verify movesIf_refl (fun t ht => ⟨k,(Option.some.inj ht).symm⟩) (fun _ _ => rfl)
        fun htoken => ?_
      refine traces_gives gives_mnsReceipt movesIf_refl (fun _ _ => rfl) fun receipt hreceipt => ?_
      refine traces_freshId fun leaseId => traces_updateRun hX (fun hg => ?_) fun _ => ?_
      · have hclaim : SomeClaim clock req X := ⟨i,c,hX,hg,hcand.queueProvider,hcand.addressed,hnamed,htoken⟩
        refine (walks_movesIf (Ψ := anyEnd) hclaim ?_).mono (fun _ _ h => h) (fun _ _ _ h _ => h.1)
          fun _ _ _ h => h
        refine traces_refresh (Function.update_self _ _ _) (traces_flushRun (Function.update_self _ _ _) ?_)
        rw [Function.update_idem]
        refine traces_obeys (obeys_getLocalRun _) runsMove_refl (fun _ _ => rfl) fun entry => ?_
        refine walks_flush rfl (fun _ _ _ => rfl) (walks_log (fun _ _ _ => rfl) ?_)
        refine traces_commit (runsMove_update ?_) ?_
        · rw [hX]
          exact .leased receipt leaseId k hg hcand.queueProvider htoken hreceipt
        · refine traces_throwing (obeys_refresh _) (throws_refresh _) runsMove_refl
            (fun _ => unlessRejected_of_accepted) fun c => ?_
          exact traces_throwing (obeys_leaseRead _ c) (throws_leaseRead _ c) runsMove_refl
            (fun _ => unlessRejected_of_accepted) fun _ => traces_done trivial
      · exact traces_rollback hrest

theorem traces_refuseActive {req : ClaimRequest} {k : ℕ} {f : Unit → Op β} {R : Runs → Runs → Prop}
    (hR : ∀ b, R b b) (hΞ : ∀ e, Ξ e X X)
    (h : RunTraces clock R (Stands X X) (f ()) Ω Ξ) :
    RunTraces clock R (Stands X X) (refuseActiveLease req i (clock k) >>= f) Ω Ξ := by
  have hnow : ∀ t, some (clock k) = some t → ∃ n, t = clock n := fun t ht => ⟨k,(Option.some.inj ht).symm⟩
  have hactive (c : CloudRun) : RunTraces clock R (Stands X X) ((if c.queueProvider = req.queueProvider ∧
      c.status = .running ∧ c.completedAt = none then do
        if !req.requireCallbackToken then
          verifyCloudRunCallbackTokenOr403 i c req.workerId req.callbackToken (some (clock k)) false
        if c.leaseExpiresAt.any fun t => clock k ≤ t then
          httpError 409 "Cloud run already has an active lease"
      else pure () : Op Unit) >>= f) Ω Ξ := by
    have hlast : RunTraces clock R (Stands X X) ((if c.leaseExpiresAt.any fun t => clock k ≤ t then
        httpError 409 "Cloud run already has an active lease" else pure () : Op Unit) >>= f) Ω Ξ := by
      split
      · exact traces_raise (hΞ _)
      · exact h
    split
    · dsimp only
      cases req.requireCallbackToken with
      | false =>
        simp only [Bool.not_false,if_true,bind_assoc]
        exact traces_verify hR hnow hΞ fun _ => hlast
      | true => exact hlast
    · exact h
  unfold refuseActiveLease
  rw [bind_assoc]
  refine traces_getRun ?_
  cases X i with
  | none =>
    dsimp only
    split
    · exact traces_reject hR hΞ
    · exact h
  | some c =>
    dsimp only
    split
    · simp only [bind_assoc]
      exact traces_verify hR hnow hΞ fun _ => hactive c
    · exact hactive c

omit [Digest] in
theorem mem_candidates {req : ClaimRequest} {n : ℕ} (hX : X i = some c)
    (h : i ∈ ((insertByTime ((List.range n).filterMap fun i => (X i).bind fun cloudRun =>
        if isClaimable cloudRun = true ∧ cloudRun.queueProvider = req.queueProvider ∧
          req.cloudRunId.all (fun wanted => wanted = i) = true
        then some (cloudRun.createdAt,i) else none)).take defaultLeaseClaimCandidateLimit).map Prod.snd) :
    Candidate req i c := by
  obtain ⟨e,he,rfl⟩ := List.mem_map.mp h
  have hmem := (List.perm_insertionSort _ _).mem_iff.mp (List.mem_of_mem_take he)
  obtain ⟨j,_,hj⟩ := List.mem_filterMap.mp hmem
  obtain ⟨d,hd,hview⟩ := Option.bind_eq_some_iff.mp hj
  split at hview
  · rename_i hcond
    cases hview
    rw [hX] at hd
    cases hd
    refine ⟨hcond.2.1,fun wanted hwanted => ?_⟩
    have hall := hcond.2.2
    simpa [hwanted] using hall
  · cases hview

-- A claim leases a run, and changes one, only after the check of a run that it addresses.
theorem traces_claim {req : ClaimRequest} :
    RunTraces clock (MovesIf (SomeClaim clock req X) clock (.runner (.claim req))) (Stands X X)
      (claimNextCloudRunLease req) (leasedIf (SomeClaim clock req X)) (unlessRejected X) := by
  have hclaim (hnamed : req.requireCallbackToken = true → req.cloudRunId ≠ none) :
      RunTraces clock (MovesIf (SomeClaim clock req X) clock (.runner (.claim req)))
        (Stands X X) (claimOldestQueued req) (leasedIf (SomeClaim clock req X)) (unlessRejected X) := by
    unfold claimOldestQueued
    refine traces_obeys (obeys_orHttp400 _) movesIf_refl (fun _ _ => rfl) fun _ => ?_
    refine traces_selectRuns fun n => traces_utcNow fun k => ?_
    split
    · exact traces_refuseActive movesIf_refl (fun _ _ => rfl) (traces_done (fun h => by cases h))
    · exact walks_candidates hnamed fun i hi c hc => mem_candidates hc hi
  unfold claimNextCloudRunLease
  dsimp only
  split
  · refine traces_obeysIdle (obeys_requirePresented resets_spared _) movesIf_refl (fun _ _ => rfl)
      fun _ => ?_
    split
    · exact traces_reject movesIf_refl fun _ _ => rfl
    · rename_i hnamed
      exact hclaim fun _ => hnamed
  · rename_i hoptional
    exact hclaim fun h => (hoptional h).elim

def SomeLease (clock : ℕ → Time) (cred : LeaseCredentials) (X : Runs) : Prop :=
  ∃ i c, X i = some c ∧ LeaseAccepted clock cred i c

-- What a worker's call does comes after the check of its lease.
theorem traces_leased {cred : LeaseCredentials} {f : Id × CloudRun → Op β}
    (h : ∀ i c, X i = some c → LeaseAccepted clock cred i c →
      Walks clock o (Stands X X) (f (i,c)) anyEnd anyEnd) :
    RunTraces clock (MovesIf (SomeLease clock cred X) clock o) (Stands X X)
      (resolveCloudRunCallbackLease cred >>= f) (fun _ _ _ => SomeLease clock cred X) anyEnd :=
  traces_resolve movesIf_refl (fun _ => trivial) fun i c hX hlease =>
    (walks_movesIf ⟨i,c,hX,hlease⟩ (h i c hX hlease)).mono (fun _ _ h => h) (fun _ _ _ h => h.1)
      fun _ _ _ h => h

theorem traces_heartbeat {cred : LeaseCredentials} {leaseSeconds : ℕ} :
    RunTraces clock (MovesIf (SomeLease clock cred X) clock (.runner (.heartbeat cred leaseSeconds)))
      (Stands X X) (heartbeatCloudRunLease cred leaseSeconds) (fun _ _ _ => SomeLease clock cred X)
      anyEnd := by
  refine traces_leased fun i c hX hlease => traces_utcNow fun n => ?_
  refine traces_flushRun hX (walks_log (fun _ _ => trivial) (traces_commit (runsMove_update ?_) ?_))
  · rw [hX]
    exact .beat n hlease
  · refine traces_obeys (obeys_refresh _) runsMove_refl (fun _ => trivial) fun c => ?_
    exact walks_last (traces_obeys (obeys_leaseRead _ c) runsMove_refl (fun _ => trivial) fun _ =>
      traces_done trivial)

variable {provider : QueueProvider} {limit : ℕ}

theorem walks_requeueRun {k : ℕ} {e : ExpiredRun} (hY : Y e.cloudRunId = some e.cloudRun)
    (hb : isExpired e.cloudRun provider (clock k) = true) :
    Walks clock (.runner (.requeue provider limit)) (Stands X Y) (requeueExpiredRun e)
      (fun _ B C => B = X ∧ ∃ c, C = Function.update Y e.cloudRunId (some c) ∧
        RunMove clock (.runner (.requeue provider limit)) e.cloudRunId (some e.cloudRun) (some c))
      anyEnd := by
  refine traces_obeys (obeys_getLocalRun _) runsMove_refl (fun _ => trivial) fun entry => ?_
  refine walks_log (fun _ _ => trivial) ?_
  split
  · rename_i hmax
    refine traces_utcNow fun n => traces_flushRun hY (walks_flush rfl (fun _ _ => trivial) ?_)
    refine walks_log (fun _ _ => trivial) ?_
    refine traces_gives (gives_settle unregulated_spared_budget _ _) runsMove_refl (fun _ => trivial)
      fun settled hs => walks_last (traces_flushRun (Function.update_self _ _ _) ?_)
    rw [Function.update_idem]
    exact traces_done ⟨rfl,settled,rfl,.exhausted k n hb hmax hs⟩
  · rename_i hmax
    refine traces_utcNow fun n => traces_flushRun hY (walks_flush rfl (fun _ _ => trivial) ?_)
    refine walks_last (walks_log (fun _ _ => trivial) (traces_done ⟨rfl,_,rfl,?_⟩))
    exact .requeued k n hb (not_le.mp hmax)

theorem walks_requeueRuns {k : ℕ} {expired : List ExpiredRun}
    (hnodup : (expired.map ExpiredRun.cloudRunId).Nodup)
    (h : ∀ e ∈ expired, X e.cloudRunId = some e.cloudRun ∧ Y e.cloudRunId = some e.cloudRun ∧
      isExpired e.cloudRun provider (clock k) = true)
    (hmoves : RunsMove clock (.runner (.requeue provider limit)) X Y) :
    Walks clock (.runner (.requeue provider limit)) (Stands X Y) (requeueExpiredRuns expired)
      (fun _ => RunsMove clock (.runner (.requeue provider limit))) anyEnd := by
  induction expired generalizing Y with
  | nil => exact traces_done hmoves
  | cons e rest ih =>
    obtain ⟨hX,hY,hb⟩ := h e List.mem_cons_self
    simp only [List.map_cons,List.nodup_cons] at hnodup
    refine Traces.bind (walks_requeueRun hY hb) fun _ => walks_standing fun B C hBC => ?_
    obtain ⟨rfl,c,rfl,hmove⟩ := hBC
    refine ih hnodup.2 (fun d hd => ?_) fun j => ?_
    · have hne : d.cloudRunId ≠ e.cloudRunId := fun heq =>
        hnodup.1 (heq ▸ List.mem_map_of_mem hd)
      rw [Function.update_of_ne hne]
      exact h d (List.mem_cons_of_mem e hd)
    · by_cases hj : j = e.cloudRunId
      · subst hj
        rw [Function.update_self,hX]
        exact Or.inr hmove
      · rw [Function.update_of_ne hj]
        exact hmoves j

omit [Digest] in
theorem takenBack_expired {db : Db} {next : ℕ} {now : Time} {e : ExpiredRun}
    (h : e ∈ takenBack db next provider limit now) : isExpired e.cloudRun provider now = true := by
  have hmem := (List.mem_insertionSort _).mp (List.mem_of_mem_take h)
  obtain ⟨j,_,hj⟩ := List.mem_filterMap.mp hmem
  obtain ⟨d,hd,hview⟩ := Option.bind_eq_some_iff.mp hj
  unfold expiredRun at hview
  split at hview
  · rename_i hexpired
    obtain ⟨t,_,rfl⟩ := Option.map_eq_some_iff.mp hview
    exact hexpired
  · cases hview

theorem walks_requeue : Walks clock (.runner (.requeue provider limit)) (Stands X X)
    (requeueExpiredCloudRunLeases provider limit) anyEnd anyEnd := by
  refine traces_obeys (obeys_orHttp400 _) runsMove_refl (fun _ => trivial) fun _ => ?_
  refine traces_utcNow fun k => traces_select fun db n hdb => ?_
  subst hdb
  have hloop : Walks clock (.runner (.requeue provider limit)) (Stands (runRows.of db) (runRows.of db))
      (do
        requeueExpiredRuns (takenBack db n provider limit (clock k))
        commit
        pure ((takenBack db n provider limit (clock k)).map ExpiredRun.cloudRunId)) anyEnd anyEnd := by
    refine Traces.bind (walks_requeueRuns (k := k) (takenBack_nodup db n provider limit (clock k))
      (fun e he => ?_) (runsMove_refl _)) fun _ =>
        walks_standing fun B C hBC => traces_commit hBC (traces_done trivial)
    exact ⟨(mem_takenBack he).1,(mem_takenBack he).1,takenBack_expired he⟩
  exact hloop

end leases

end AiScdc
