import AiScdc.CloudRunner.ArtifactReads
import AiScdc.CloudRunner.LeaseSteps

namespace AiScdc
open Transaction

variable {s s₀ : Stage Row}

section cancel

def Cancels (cloudRunId id : Id) (label : RunLabel) : Prop :=
  id = cloudRunId ∧ (label = .askCancel ∨ label = .cancelQueued)

theorem serial_getRun {ctx : Option AuthContext} {id : Id}
    {Q : CloudRun → Stage Row → Prop} {E : Exn → Stage Row → Prop}
    (hQ : ∀ c, s.current (.cloudRun id) = some c → Allowed ctx c.workspaceId → Q c s)
    (hE : ∀ statusCode detail, E (.http statusCode detail) s) :
    Serial (getCloudRunOr404 ctx id) Q E s := by
  refine serial_bind (serial_getOr404 (fun c hc => ?_) fun _ => hE _ _)
  exact serial_bind (serial_enforce (fun ha => serial_pure (hQ c hc ha)) fun _ => hE _ _)

theorem serial_permission (hs : s.current = s.committed) {ctx : Option AuthContext}
    {Q : Unit → Stage Row → Prop} {E : Exn → Stage Row → Prop} (hQ : Q () s)
    (hE : ∀ statusCode detail, E (.http statusCode detail) s) :
    Serial (requireAuditedPermissionIfAuthenticated ctx) Q E s := by
  unfold requireAuditedPermissionIfAuthenticated
  cases ctx with
  | none => exact serial_pure hQ
  | some c =>
    dsimp only
    split
    · exact serial_pure hQ
    · refine serial_bind (serial_rollbackNow (serial_bind (serial_commitNow ?_)))
      rw [rollback_idle hs,commit_idle hs]
      exact serial_http (hE _ _)

theorem serial_askCancel {i : RunIds} {c : CloudRun} {l : LocalTaskRun} {r : BudgetReservation}
    {t : Task} {A : RunLabel → Prop} (hr : Rest A i s₀ ⟨c,l,r,t⟩ s) (hA : A .askCancel)
    {ctx : Option AuthContext} (ha : Allowed ctx c.workspaceId) (now : Time)
    (hlive : c.status = .running) (hdone : c.completedAt = none) {E : Exn → Stage Row → Prop} :
    Serial (requestRunningCloudRunCancelAndLog ctx i.cloudRunId now)
      (fun _ s' => ∃ y, Rest A i s₀ y s') E s := by
  refine serial_bind (serial_updateWhere hr.focus.rows.cloudRun (fun _ => ?_) fun hg => ?_)
  · have h₁ : Focus _ _ _ ⟨c.cancelAsked now,_,_,_⟩ _ := hr.focus.writeRun rfl
    simp only [if_true]
    refine serial_bind (h₁.getRun ha (serial_bind (h₁.log fun s₂ h₂ => serial_bind (serial_commitNow ?_))))
    have hend := h₂.commit hr (RunPath.single hA (.askCancel hlive))
    exact hend.focus.refreshRun ⟨_,hend⟩
  · simp [hlive,hdone] at hg

theorem cancelQueued_state {reservationId : Id} {c : CloudRun} {l : LocalTaskRun}
    {r : BudgetReservation} (now now' : Time) :
    runState (releasedSummary reservationId r ((c.cancelledWhileQueued now).callbackTokenRevoked now))
      (l.moved .cancelled now) (released r now') =
    { (runState c l r).ended .cancelled .released with
      cancelRequested := true
      tokenUsed := (runState c l r).tokenUsed || (runState c l r).tokenHash } :=
  congrArg (fun used => { (runState c l r).ended .cancelled .released with
    cancelRequested := true, tokenUsed := used })
    (revoked_isSome c.callbackTokenHash c.callbackTokenUsedAt now)

theorem serial_finishQueuedCancel {i : RunIds} {b : Stage Row} {c : CloudRun} {l : LocalTaskRun}
    {r : BudgetReservation} {t : Task} {A : RunLabel → Prop} {now : Time}
    (h : Focus i b ⟨c,l,r,t⟩ ⟨c.cancelledWhileQueued now,l,r,t⟩ s) (hr : Rest A i s₀ ⟨c,l,r,t⟩ b)
    (hA : A .cancelQueued) (hqueued : c.status = .queued) (hres : r.status = .reserved)
    {E : Exn → Stage Row → Prop} :
    Serial (finishQueuedCancel i.cloudRunId now) (fun _ s' => ∃ y, Rest A i s₀ y s') E s := by
  refine serial_bind (h.refreshRun (serial_bind (h.getLocal h.rows.localRunId ?_)))
  refine serial_bind (h.flushLocal fun s₁ h₁ => serial_bind (h₁.flushRun fun s₂ h₂ => ?_))
  refine serial_bind (h₂.log fun s₃ h₃ => ?_)
  refine serial_bind (h₃.release h₃.rows.reservationId hres fun now' s₄ h₄ => ?_)
  refine serial_bind (h₄.flushRun fun s₅ h₅ => serial_bind (serial_commitNow ?_))
  have hstep : RunStep .cancelQueued (runState c l r)
      (runState (releasedSummary i.reservationId r ((c.cancelledWhileQueued now).callbackTokenRevoked
        now)) (l.moved .cancelled now) (released r now')) := by
    rw [cancelQueued_state]
    exact .cancelQueued hqueued
  have hend := h₅.commit hr (RunPath.single hA hstep)
  exact hend.focus.refreshRun ⟨_,hend⟩

theorem serial_cancel (ctx : Option AuthContext) (cloudRunId : Id) (hs : Ready s₀) :
    Serial (cancelCloudRun ctx cloudRunId) (fun _ s' => Goes (Cancels cloudRunId) s₀ s')
      (fun _ s' => Goes (Cancels cloudRunId) s₀ s') s₀ := by
  have hstay := hs.goes (Cancels cloudRunId)
  refine serial_bind (serial_getRun (fun c hc ha => ?_) fun _ _ => hstay)
  obtain ⟨i,⟨c,l,r,t⟩,rfl,rfl,hrest,hok⟩ := hs.rest rfl hc
  have hr := hrest fun label => label = .askCancel ∨ label = .cancelQueued
  have hgoes {y : RunRows} {s₁ : Stage Row}
      (h₁ : Rest (fun label => label = .askCancel ∨ label = .cancelQueued) i s₀ y s₁) :
      Goes (Cancels i.cloudRunId) s₀ s₁.commit := by
    rw [commit_idle h₁.idle]
    exact h₁.goes.only fun _ hA => ⟨rfl,hA⟩
  refine serial_bind (serial_permission hs.idle ?_ fun _ _ => hstay)
  split
  · refine serial_bind (serial_commitNow (serial_pure ?_))
    exact hgoes hr
  · rename_i hlive
    have halive : c.status.terminal = false := by simpa using hlive
    refine serial_bind (serial_now fun now => ?_)
    split
    · rename_i hqueued
      refine serial_bind (serial_updateWhere hr.focus.rows.cloudRun (fun _ => ?_) fun hg => ?_)
      · have h₁ : Focus _ _ _ ⟨c.cancelledWhileQueued now,_,_,_⟩ _ := hr.focus.writeRun rfl
        simp only [if_true]
        refine serial_bind (serial_mono (serial_finishQueuedCancel h₁ hr (Or.inr rfl) hqueued
          (hok.reserved halive)) (fun _ s₂ h₂ => ?_) fun _ _ he => he)
        obtain ⟨y,hy⟩ := h₂
        exact serial_bind (serial_commitNow (serial_pure (hgoes hy)))
      · have hqueued' : c.status = .queued := hqueued
        simp [hqueued'] at hg
    · rename_i hnot
      have hrun : c.status = .running := by
        cases hst : c.status <;> simp_all [RunStatus.terminal]
      have hdone : c.completedAt = none := hok.uncompleted halive
      refine serial_bind (serial_mono (serial_askCancel hr (Or.inl rfl) ha now hrun hdone)
        (fun _ s₂ h₂ => ?_) fun _ _ he => he)
      obtain ⟨y,hy⟩ := h₂
      exact serial_bind (serial_commitNow (serial_pure (hgoes hy)))

end cancel

section complete

variable [Digest]

variable {i : RunIds} {b : Stage Row} {x₀ : RunRows}

theorem Focus.resolveArtifacts {c : CloudRun} {l : LocalTaskRun} {r : BudgetReservation} {t : Task}
    (h : Focus i b x₀ ⟨c,l,r,t⟩ s) {body : CloudRunExecutionResultCreate} {oss : ArtifactRef → OssReply}
    {Q : SandboxExecutionResult → Stage Row → Prop} {E : Exn → Stage Row → Prop}
    (hQ : ∀ result s', Focus i b x₀ ⟨c,l,r,t⟩ s' → Q result s') (hE : ∀ e, E e s) :
    Serial (resolveCloudRunCompletionArtifacts i.cloudRunId c body oss) Q E s := by
  refine serial_bind (serial_readAll (fun _ text => ?_) fun _ => hE)
  cases text with
  | none => exact serial_pure (hQ _ _ h)
  | some diffText =>
    refine serial_bind (h.log fun s₁ h₁ => ?_)
    dsimp only
    split
    · exact serial_bind (h₁.log fun s₂ h₂ => serial_pure (hQ _ _ h₂))
    · exact serial_pure (hQ _ _ h₁)

-- What accepting a completion does to the row of the run.
structure TokenUsed (c c' : CloudRun) : Prop where
  links : c'.links = c.links
  hash : c'.callbackTokenHash = c.callbackTokenHash
  used : c.callbackTokenHash.isSome → c'.callbackTokenUsedAt.isSome
  completed : c'.completedAt = c.completedAt
  state : ∀ l r, runState c' l r = { runState c l r with
    tokenUsed := (runState c l r).tokenUsed || (runState c l r).tokenHash }

structure Stubbed (c c' : CloudRun) : Prop where
  links : c'.links = c.links
  hash : c'.callbackTokenHash = c.callbackTokenHash
  completed : c'.completedAt = c.completedAt
  state : ∀ l r, runState c' l r = runState c l r

omit [Digest] in
theorem serial_stub {c : CloudRun} {status : ResultStatus} {Q : CloudRun → Stage Row → Prop}
    {E : Exn → Stage Row → Prop} (hQ : ∀ c', Stubbed c c' → Q c' s) :
    Serial (stubCompletion c status) Q E s := by
  unfold stubCompletion
  split
  · exact serial_bind (serial_now fun now => serial_pure (hQ _ ⟨rfl,rfl,rfl,fun _ _ => rfl⟩))
  · exact serial_pure (hQ _ ⟨rfl,rfl,rfl,fun _ _ => rfl⟩)

omit [Digest] in
theorem serial_useToken {c c₁ : CloudRun} (hc : Stubbed c c₁) {Q : CloudRun → Stage Row → Prop}
    {E : Exn → Stage Row → Prop} (hQ : ∀ c', TokenUsed c c' → Q c' s) :
    Serial (useCallbackToken c₁) Q E s := by
  unfold useCallbackToken
  split
  · rename_i hsome
    refine serial_bind (serial_now fun now => serial_pure (hQ _ ⟨hc.links,hc.hash,fun _ => rfl,hc.completed,?_⟩))
    intro l r
    rw [← hc.state l r]
    simp [runState,CloudRun.callbackTokenUsed,hsome]
  · rename_i hnone
    have htoken : c₁.callbackTokenHash.isSome = false := by simpa using hnone
    refine serial_pure (hQ _ ⟨hc.links,hc.hash,fun hsome => ?_,hc.completed,?_⟩)
    · rw [← hc.hash,htoken] at hsome
      cases hsome
    · intro l r
      rw [← hc.state l r]
      simp [runState,htoken]

def Completes (label : RunLabel) : Prop :=
  label = .useToken ∨ label = .finish ∨ label = .finishCancelled

structure Accepted (cred : LeaseCredentials) (ctx : Option AuthContext) (s₀ : Stage Row) (i : RunIds)
    (c c' : CloudRun) (l : LocalTaskRun) (r : BudgetReservation) (t : Task) : Prop where
  rows : RunAt s₀.committed i ⟨c,l,r,t⟩
  ok : RunOk (runState c l r)
  lease : c.leaseId = some cred.leaseId
  current : CurrentLease c cred.workerId
  unused : c.callbackTokenHash.isSome → c.callbackTokenUsedAt = none
  token : TokenUsed c c'
  allowed : Allowed ctx c'.workspaceId

theorem serial_accept (ctx : Option AuthContext) (cred : LeaseCredentials)
    (body : CloudRunExecutionResultCreate) (replies : CompletionReplies) (hs : Ready s₀) :
    Serial (acceptCompletion ctx cred body replies)
      (fun out s' => ∃ i c l r t, out.1 = i.cloudRunId ∧
        Accepted cred ctx s₀ i c out.2.1 l r t ∧ Rest Completes i s₀ ⟨out.2.1,l,r,t⟩ s')
      (fun _ s' => s'.committed = s₀.committed ∧ Free s') s₀ := by
  refine serial_bind (serial_resolve hs.idle (fun id c hc hlease hcur hunused => ?_)
    fun _ _ => ⟨rfl,hs.free⟩)
  obtain ⟨i,⟨c,l,r,t⟩,rfl,rfl,hrest,hok⟩ := hs.rest rfl hc
  have hr := hrest Completes
  refine serial_bind (hr.focus.resolveArtifacts (fun result s₁ h₁ => ?_) fun _ => ⟨rfl,hs.free⟩)
  refine serial_bind (serial_stub fun c₁ hstub => serial_bind (serial_useToken hstub fun c' htoken => ?_))
  refine serial_bind (h₁.getRepository (fun _ ha => ?_) fun _ => ⟨h₁.committed,h₁.free⟩)
  refine serial_bind (h₁.flushRun (fun s₂ h₂ => ?_) htoken.links)
  have hws : c'.workspaceId = c.workspaceId := congrArg Prod.fst htoken.links
  refine serial_bind (h₂.log (fun s₃ h₃ => serial_bind (serial_commitNow ?_)) rfl hws.symm)
  have hstep : RunStep .useToken (runState c l r) (runState c' l r) := by
    rw [htoken.state]
    exact .useToken hcur.running
  have hend := h₃.commit hr (RunPath.single (Or.inl rfl) hstep)
  refine serial_bind (hend.focus.refreshRun (serial_pure ⟨i,c,l,r,t,rfl,⟨?_,hok,hlease,hcur,hunused,htoken,?_⟩,hend⟩))
  · rw [← hs.idle]
    exact hr.rows
  · rw [hws]
    exact ha

omit [Digest] in
theorem Accepted.finalize {cred : LeaseCredentials} {ctx : Option AuthContext} {i : RunIds}
    {c c' : CloudRun} {l : LocalTaskRun} {r : BudgetReservation} {t : Task} {s₁ : Stage Row}
    (h : Accepted cred ctx s₀ i c c' l r t) (hr : Rest Completes i s₀ ⟨c',l,r,t⟩ s₁)
    (input : FinalizeInput) : Serial (finalizeClaimedCloudRunResult ctx i.cloudRunId c' input)
      (fun _ s' => Finishes c' t input.result ∧ Over Completes i s₀ s')
      (Raised Completes i s₀ ⟨c',l,r,t⟩ input.result) s₁ := by
  have hrun : c'.status = .running := by
    have hst := congrArg RunState.status (h.token.state l r)
    exact hst.trans h.current.running
  have hres : r.status = .reserved := h.ok.reserved (by rw [h.current.running]; rfl)
  exact hr.focus.finalize hr h.allowed (Or.inr (Or.inl rfl)) (Or.inr (Or.inr rfl)) hrun
    (h.token.completed.trans h.current.uncompleted) hres hr.rows.taskId input

-- The run had been finalised, or the refused transition left its token used.
theorem serial_complete (ctx : Option AuthContext) (cred : LeaseCredentials)
    (body : CloudRunExecutionResultCreate) (replies : CompletionReplies) (hs : Ready s₀) :
    Serial (completeCloudRunLease ctx cred body replies)
      (fun _ s' => ∃ i, Over Completes i s₀ s')
      (fun e s' => (s'.committed = s₀.committed ∧ Free s') ∨
        (e.isHttp = false ∧ ∃ i, Over Completes i s₀ s') ∨
        ∃ i c c' l r t, Accepted cred ctx s₀ i c c' l r t ∧ e.isHttp = true ∧
          ∃ s₁, Rest Completes i s₀ ⟨c',l,r,t⟩ s₁ ∧ s'.committed = s₁.committed ∧ Free s') s₀ := by
  refine serial_bind (serial_mono (serial_accept ctx cred body replies hs) (fun out s₁ hacc => ?_)
    fun _ _ he => Or.inl he)
  obtain ⟨id,c',result⟩ := out
  obtain ⟨i,c,l,r,t,rfl,hacc,hr⟩ := hacc
  refine serial_mono (hacc.finalize hr _) (fun _ s₂ h₂ => ⟨i,h₂.2⟩) fun e s₂ h₂ => ?_
  rcases h₂ with ⟨_,hhttp,hover⟩ | ⟨_,⟨detail,rfl⟩,b,a,y,hb,hy⟩
  · exact Or.inr (Or.inl ⟨hhttp,i,hover⟩)
  · exact Or.inr (Or.inr ⟨i,c,c',l,r,t,hacc,rfl,b,hb,hy.focus.committed,hy.focus.free⟩)

end complete

section process

variable {i : RunIds} {c : CloudRun} {l : LocalTaskRun} {r : BudgetReservation} {t : Task}
  {ctx : Option AuthContext}

def Processes (label : RunLabel) : Prop :=
  label = .claim ∨ label = .finish ∨ label = .finishCancelled ∨ label = .failPreflight

theorem claim_step {c : CloudRun} (hg : c.status = .queued) (l : LocalTaskRun) (r : BudgetReservation)
    (workerId : String) (now : Time) :
    RunStep .claim (runState c l r) (runState (c.claimed workerId now) (l.moved .running now) r) :=
  .claim hg

-- What the first transaction of process_cloud_run commits.
structure Started (s₀ : Stage Row) (i : RunIds) (c : CloudRun) (l : LocalTaskRun)
    (r : BudgetReservation) (t : Task) (workerId : String) (now : Time) (s : Stage Row) : Prop where
  rows : RunAt s₀.committed i ⟨c,l,r,t⟩
  ok : RunOk (runState c l r)
  queued : c.status = .queued
  rest : Rest Processes i s₀ ⟨c.claimed workerId now,l.moved .running now,r,t⟩ s

theorem serial_start (cloudRunId : Id) (workerId : String) (hs : Ready s₀) :
    Serial (startCloudRun ctx cloudRunId workerId)
      (fun started s' => ∃ i c l r t now, i.cloudRunId = cloudRunId ∧
        Allowed ctx c.workspaceId ∧ started =
          ⟨c.claimed workerId now,i.localRunId,l.moved .running now⟩ ∧
        Started s₀ i c l r t workerId now s')
      (fun _ s' => s'.committed = s₀.committed ∧ Free s') s₀ := by
  have hstay : s₀.committed = s₀.committed ∧ Free s₀ := ⟨rfl,hs.free⟩
  refine serial_bind (serial_getRun (fun c hc ha => ?_) fun _ _ => hstay)
  obtain ⟨i,⟨c,l,r,t⟩,rfl,rfl,hrest,hok⟩ := hs.rest rfl hc
  have hr := hrest Processes
  refine serial_bind (serial_permission hs.idle ?_ fun _ _ => hstay)
  split
  · exact serial_bind (serial_http hstay)
  · rename_i hst
    have hqueued : c.status = .queued := not_not.mp hst
    refine serial_bind (hr.focus.getLocal hr.rows.localRunId (serial_bind (serial_now fun now => ?_)))
    refine serial_bind (serial_updateWhere hr.focus.rows.cloudRun (fun _ => ?_) fun hg => ?_)
    · have h₁ : Focus _ _ _ ⟨c.claimed workerId now,_,_,_⟩ _ := hr.focus.writeRun rfl
      simp only [if_true]
      refine serial_bind (h₁.refreshRun (serial_bind (h₁.flushLocal fun s₂ h₂ => ?_)))
      refine serial_bind (serial_now fun logClock => serial_bind (h₂.logAt fun s₃ h₃ => ?_))
      refine serial_bind (h₃.logAt fun s₄ h₄ => serial_bind (serial_now fun eventClock => ?_))
      refine serial_bind (h₄.event fun s₅ h₅ => serial_bind (serial_commitNow ?_))
      have hend := h₅.commit hr (RunPath.single (Or.inl rfl) (claim_step hqueued l r workerId now))
      refine serial_bind (hend.focus.refreshRun (serial_bind (hend.focus.refreshLocal (serial_pure ?_))))
      refine ⟨i,c,l,r,t,now,rfl,ha,rfl,?_,hok,hqueued,hend⟩
      rw [← hs.idle]
      exact hr.rows
    · simp [hqueued] at hg

theorem serial_catchHttp {α : Type} {m : Op α} {handler : String → Op α} {Q : α → Stage Row → Prop}
    {E F : Exn → Stage Row → Prop} (hm : Serial m Q F s)
    (hhttp : ∀ statusCode detail s', F (.http statusCode detail) s' → Serial (handler detail) Q E s')
    (hother : ∀ e s', e.isHttp = false → F e s' → E e s') : Serial (catchHttp m handler) Q E s := by
  refine serial_tryCatch (serial_mono hm (fun _ _ h => h) fun e s' he => ?_)
  cases e with
  | http statusCode detail => exact hhttp statusCode detail s' he
  | integrityError => exact serial_throw (hother _ s' rfl he)
  | unhandled name => exact serial_throw (hother _ s' rfl he)

-- Whether the checks that precede the execution let it pass.
def profileAccepted (c : CloudRun) (replies : ProcessReplies) : Bool :=
  c.sandboxKind ≠ "docker_local" || replies.profileCheck.isOk

variable {A : RunLabel → Prop} {b : Stage Row} {x₀ : RunRows}

theorem Focus.checkExecution (h : Focus i b x₀ ⟨c,l,r,t⟩ s) (ha : Allowed ctx c.workspaceId)
    {replies : ProcessReplies} {Q : Unit → Stage Row → Prop} {E : Exn → Stage Row → Prop}
    (hQ : profileAccepted c replies = true → Q () s)
    (hE : profileAccepted c replies = false → ∀ statusCode detail, E (.http statusCode detail) s) :
    Serial (checkExecution ctx c replies) Q E s := by
  unfold AiScdc.checkExecution
  rw [h.rows.taskId]
  refine serial_bind (h.getTask ha (serial_bind (h.getRepository (fun _ _ => ?_) fun hno => (hno ha).elim)))
  refine serial_bind (h.getLocal h.rows.localRunId ?_)
  split
  · rename_i hkind
    cases hcheck : replies.profileCheck with
    | ok u => exact serial_pure (hQ (by simp [profileAccepted,hcheck,Except.isOk,Except.toBool]))
    | error pair =>
      exact serial_http (hE (by simp [profileAccepted,hkind,hcheck,Except.isOk,Except.toBool]) _ _)
  · rename_i hkind
    exact serial_pure (hQ (by simp [profileAccepted,hkind]))

-- What the execution of a claimed run leaves: it is over, with a patch if the finalisation failed.
def Executed (A : RunLabel → Prop) (i : RunIds) (s₀ : Stage Row) (x : RunRows)
    (replies : ProcessReplies) (s : Stage Row) : Prop :=
  ∃ y, Rest A i s₀ y s ∧ y.state.status.terminal = true ∧
    (profileAccepted x.cloudRun replies = true →
      ¬ Finishes x.cloudRun x.task (executionResult x.cloudRun replies) →
      y.cloudRun.patchArtifactId.isSome)

theorem Refused.fail {status : ResultStatus} {a : Id} {x y : RunRows}
    (h : Refused i b x status a y s) (hr : Rest A i s₀ x b) (hA : A .failPreflight)
    (hrun : x.cloudRun.status = .running) (hres : x.reservation.status = .reserved)
    (replies : ProcessReplies) (detail : String) :
    Serial (failFinalization i.cloudRunId i.localRunId replies detail)
      (fun _ s' => ∃ z, Rest A i s₀ z s' ∧ z.state.status.terminal = true ∧
        z.cloudRun.patchArtifactId.isSome)
      (fun _ s' => ∃ z, Rest A i s₀ z s' ∧ z.state.status.terminal = true ∧
        z.cloudRun.patchArtifactId.isSome) s := by
  have hfocus := h.focus
  have hstate := congrArg (fun σ : RunState => σ.ended .failed .settled) h.state
  have hsome : (y.state.ended .failed .settled).patchArtifactId.isSome := by
    refine (congrArg (fun σ : RunState => σ.patchArtifactId.isSome) hstate).trans ?_
    rfl
  have hstep : RunStep .failPreflight x.state (y.state.ended .failed .settled) := by
    refine Eq.mp (congrArg (RunStep .failPreflight x.state) hstate.symm) ?_
    exact .failPreflight (some a) hrun
  have hyres : y.reservation.status = .reserved := by rw [h.reservation,hres]
  have hended {s₁ : Stage Row} (he : Ended A i s₀ (y.state.ended .failed .settled) s₁) :
      ∃ z, Rest A i s₀ z s₁ ∧ z.state.status.terminal = true ∧ z.cloudRun.patchArtifactId.isSome := by
    obtain ⟨z,hz,hσ⟩ := he
    refine ⟨z,hz,by rw [hσ]; rfl,?_⟩
    have hpatch := congrArg (fun σ : RunState => σ.patchArtifactId.isSome) hσ
    exact hpatch.trans hsome
  obtain ⟨c,l,r,t⟩ := y
  refine serial_bind (hfocus.refreshRun (serial_bind (hfocus.refreshLocal ?_)))
  exact serial_mono (hfocus.markFailed hr hyres _ _ _ (RunPath.single hA hstep))
    (fun _ _ he => hended he) fun _ _ he => hended he.2

theorem serial_execute (hr : Rest A i s₀ ⟨c,l,r,t⟩ s) (ha : Allowed ctx c.workspaceId) (hfin : A .finish)
    (hcan : A .finishCancelled) (hfail : A .failPreflight) (hrun : c.status = .running)
    (hdone : c.completedAt = none) (hres : r.status = .reserved) (replies : ProcessReplies) :
    Serial (executeClaimedCloudRun ctx i.cloudRunId c i.localRunId l replies)
      (fun _ s' => Executed A i s₀ ⟨c,l,r,t⟩ replies s')
      (fun _ s' => Executed A i s₀ ⟨c,l,r,t⟩ replies s') s := by
  have hmark (detail : String) (hno : profileAccepted c replies = false) :
      Serial (markClaimedCloudRunFailed i.cloudRunId c i.localRunId l "cloud_run_preflight_failed" detail
        replies.mnsDelete) (fun _ s' => Executed A i s₀ ⟨c,l,r,t⟩ replies s')
        (fun _ s' => Executed A i s₀ ⟨c,l,r,t⟩ replies s') s := by
    have hended {s₁ : Stage Row} (he : Ended A i s₀ ((runState c l r).ended .failed .settled) s₁) :
        Executed A i s₀ ⟨c,l,r,t⟩ replies s₁ := by
      obtain ⟨y,hy,hσ⟩ := he
      refine ⟨y,hy,by rw [hσ]; rfl,fun hyes => ?_⟩
      rw [hno] at hyes
      cases hyes
    have hstep : RunStep .failPreflight (runState c l r) ((runState c l r).ended .failed .settled) :=
      .failPreflight none hrun
    exact serial_mono (hr.focus.markFailed hr hres _ detail _ (RunPath.single hfail hstep))
      (fun _ _ he => hended he) fun _ _ he => hended he.2
  have hover {s₁ : Stage Row} (hf : Finishes c t (executionResult c replies))
      (ho : Over A i s₀ s₁) : Executed A i s₀ ⟨c,l,r,t⟩ replies s₁ := by
    obtain ⟨y,hy,hterm⟩ := ho
    exact ⟨y,hy,hterm,fun _ hnot => (hnot hf).elim⟩
  have hchecked : Serial (catchHttp (do
      checkExecution ctx c replies
      pure none) fun detail => pure (some detail))
      (fun refused s' => s' = s ∧ (refused = none ∨ profileAccepted c replies = false))
      (fun _ _ => False) s := by
    refine serial_catchHttp (F := fun e s' => e.isHttp = true ∧ s' = s ∧
      profileAccepted c replies = false) (serial_bind (hr.focus.checkExecution ha (fun _ => ?_)
        fun hno _ _ => ⟨rfl,rfl,hno⟩)) (fun _ detail s' he => serial_pure ⟨he.2.1,Or.inr he.2.2⟩) ?_
    · exact serial_pure ⟨rfl,Or.inl rfl⟩
    · intro e s' hno he
      rw [he.1] at hno
      cases hno
  refine serial_bind (serial_mono hchecked (fun refused s' hs' => ?_) fun _ _ he => he.elim)
  obtain ⟨rfl,hrefused⟩ := hs'
  cases refused with
  | some detail =>
    rcases hrefused with hnone | hno
    · cases hnone
    · exact hmark detail hno
  | none =>
    refine serial_catchHttp (hr.focus.finalize hr ha hfin hcan hrun hdone hres hr.rows.taskId _
      |> fun h => serial_mono h (fun _ _ hq => hover hq.1 hq.2) fun _ _ he => he)
      (fun statusCode detail s₁ he => ?_) fun e s₁ hno he => ?_
    · rcases he with ⟨_,hhttp,_⟩ | ⟨hnot,_,b,a,y,hb,hy⟩
      · cases hhttp
      · refine serial_mono (hy.fail hb hfail hrun hres replies detail) (fun _ _ hz => ?_) fun _ _ hz => ?_
        · obtain ⟨z,hz,hterm,hpatch⟩ := hz
          exact ⟨z,hz,hterm,fun _ _ => hpatch⟩
        · obtain ⟨z,hz,hterm,hpatch⟩ := hz
          exact ⟨z,hz,hterm,fun _ _ => hpatch⟩
    · rcases he with ⟨hf,_,ho⟩ | ⟨_,⟨detail,rfl⟩,_⟩
      · exact hover hf ho
      · cases hno

theorem Started.execute {s₁ : Stage Row} {workerId : String} {now : Time}
    (h : Started s₀ i c l r t workerId now s₁) (ha : Allowed ctx c.workspaceId)
    (replies : ProcessReplies) :
    Serial (do
        let result ← executeClaimedCloudRun ctx i.cloudRunId (c.claimed workerId now) i.localRunId
          (l.moved .running now) replies
        commit
        pure result)
      (fun _ s' => Executed Processes i s₀ ⟨c.claimed workerId now,l.moved .running now,r,t⟩ replies s')
      (fun _ s' => Executed Processes i s₀ ⟨c.claimed workerId now,l.moved .running now,r,t⟩ replies s')
      s₁ := by
  have hdone : c.completedAt = none := h.ok.uncompleted (by rw [h.queued]; rfl)
  have hres : r.status = .reserved := h.ok.reserved (by rw [h.queued]; rfl)
  have hexec := serial_execute h.rest ha (Or.inr (Or.inl rfl)) (Or.inr (Or.inr (Or.inl rfl)))
    (Or.inr (Or.inr (Or.inr rfl))) rfl hdone hres replies
  refine serial_bind (serial_mono hexec (fun _ s₂ h₂ => ?_) fun _ _ h₂ => h₂)
  refine serial_bind (serial_commitNow (serial_pure ?_))
  have hidle : s₂.current = s₂.committed := by
    obtain ⟨y,hy,_⟩ := h₂
    exact hy.idle
  rw [commit_idle hidle]
  exact h₂

theorem serial_process (cloudRunId : Id) (workerId : String) (replies : ProcessReplies) (hs : Ready s₀) :
    Serial (processCloudRun ctx cloudRunId workerId replies)
      (fun _ s' => ∃ i c l r t now s₁, i.cloudRunId = cloudRunId ∧ Started s₀ i c l r t workerId now s₁ ∧
        Executed Processes i s₀ ⟨c.claimed workerId now,l.moved .running now,r,t⟩ replies s')
      (fun _ s' => (s'.committed = s₀.committed ∧ Free s') ∨ ∃ i c l r t now s₁,
        i.cloudRunId = cloudRunId ∧ Started s₀ i c l r t workerId now s₁ ∧
        Executed Processes i s₀ ⟨c.claimed workerId now,l.moved .running now,r,t⟩ replies s') s₀ := by
  refine serial_bind (serial_mono (serial_start cloudRunId workerId hs) (fun started s₁ h₁ => ?_)
    fun _ _ he => Or.inl he)
  obtain ⟨i,c,l,r,t,now,rfl,ha,rfl,hst⟩ := h₁
  exact serial_mono (hst.execute ha replies) (fun _ _ h₂ => ⟨i,c,l,r,t,now,s₁,rfl,hst,h₂⟩)
    fun _ _ h₂ => Or.inr ⟨i,c,l,r,t,now,s₁,rfl,hst,h₂⟩

end process

end AiScdc
