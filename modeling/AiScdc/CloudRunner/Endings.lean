import AiScdc.CloudRunner.Operations
import AiScdc.CloudRunner.Rules

namespace AiScdc
open Transaction

def Allowed (ctx : Option AuthContext) (workspaceId : Id) : Prop :=
  ∀ c, ctx = some c → workspaceId = c.workspaceId

theorem serial_enforce {s : Stage Row} {ctx : Option AuthContext} {workspaceId : Id} {detail : String}
    {Q : Unit → Stage Row → Prop} {E : Exn → Stage Row → Prop}
    (hok : Allowed ctx workspaceId → Q () s)
    (hno : ¬ Allowed ctx workspaceId → E (.http 404 detail) s) :
    Serial (enforceWorkspaceAccess ctx workspaceId detail) Q E s := by
  unfold enforceWorkspaceAccess
  cases ctx with
  | none => exact serial_pure (hok fun c hc => by cases hc)
  | some c =>
    by_cases h : workspaceId = c.workspaceId
    · simp only [h,if_true]
      refine serial_pure (hok fun c' hc => ?_)
      cases hc
      exact h
    · simp only [h,if_false]
      exact serial_http (hno fun ha => h (ha c rfl))

variable {A : RunLabel → Prop} {i : RunIds} {s₀ b s : Stage Row} {x₀ : RunRows}

section access

variable {c : CloudRun} {l : LocalTaskRun} {r : BudgetReservation} {t : Task}
  {ctx : Option AuthContext}

theorem Focus.getRun (h : Focus i b x₀ ⟨c,l,r,t⟩ s) (ha : Allowed ctx c.workspaceId)
    {Q : CloudRun → Stage Row → Prop} {E : Exn → Stage Row → Prop} (hQ : Q c s) :
    Serial (getCloudRunOr404 ctx i.cloudRunId) Q E s := by
  refine serial_bind (serial_getOr404 (fun row hrow => ?_) fun hnone => ?_)
  · rw [h.rows.cloudRun] at hrow
    cases hrow
    exact serial_bind (serial_enforce (fun _ => serial_pure hQ) fun hno => (hno ha).elim)
  · rw [h.rows.cloudRun] at hnone
    cases hnone

theorem Focus.getTask (h : Focus i b x₀ ⟨c,l,r,t⟩ s) (ha : Allowed ctx c.workspaceId)
    {Q : Task → Stage Row → Prop} {E : Exn → Stage Row → Prop} (hQ : Q t s) :
    Serial (getTask ctx i.taskId) Q E s := by
  refine serial_bind (serial_getOr404 (fun row hrow => ?_) fun hnone => ?_)
  · rw [h.rows.task] at hrow
    cases hrow
    obtain ⟨p,hp,hpw⟩ := h.owner.project
    refine serial_bind (serial_bind (serial_getOr404 (fun row hrow => ?_) fun hnone => ?_))
    · rw [hp] at hrow
      cases hrow
      refine serial_bind (serial_enforce (fun _ => serial_pure (serial_pure hQ)) fun hno => (hno ?_).elim)
      rw [hpw]
      exact ha
    · rw [hp] at hnone
      cases hnone
  · rw [h.rows.task] at hnone
    cases hnone

theorem Focus.getRepository (h : Focus i b x₀ ⟨c,l,r,t⟩ s) {Q : Repository → Stage Row → Prop}
    {E : Exn → Stage Row → Prop} (hQ : ∀ repository, Allowed ctx c.workspaceId → Q repository s)
    (hE : ¬ Allowed ctx c.workspaceId → E (.http 404 "Repository not found") s) :
    Serial (getRepository ctx c.repoId) Q E s := by
  obtain ⟨repository,hrepo,hws⟩ := h.owner.repository
  refine serial_bind (serial_getOr404 (fun row hrow => ?_) fun hnone => ?_)
  · rw [hrepo] at hrow
    cases hrow
    refine serial_bind (serial_enforce (fun ha => serial_pure (hQ _ ?_)) fun hno => hE ?_)
    · rw [hws] at ha
      exact ha
    · rw [hws] at hno
      exact hno
  · rw [hrepo] at hnone
    cases hnone

theorem Focus.reload (h : Focus i b x₀ ⟨c,l,r,t⟩ s) (hr : Rest A i s₀ x₀ b)
    (ha : Allowed ctx x₀.cloudRun.workspaceId) {Q : ReloadedRun → Stage Row → Prop}
    {E : Exn → Stage Row → Prop} (hQ : ∀ s', Rest A i s₀ x₀ s' →
      Q ⟨x₀.cloudRun,i.taskId,x₀.task,x₀.cloudRun.repoId,i.localRunId,x₀.localRun⟩ s') :
    Serial (reloadClaimedCloudRun ctx i.cloudRunId i.taskId) Q E s := by
  have hback := h.rollback hr
  have hfocus := hback.focus
  obtain ⟨c₀,l₀,r₀,t₀⟩ := x₀
  refine serial_bind (serial_rollbackNow (serial_bind (hfocus.getRun ha (serial_bind (hfocus.getTask ha ?_)))))
  refine serial_bind (hfocus.getRepository (fun _ _ => ?_) fun hno => (hno ha).elim)
  exact serial_bind (hfocus.getLocal hfocus.rows.localRunId (serial_pure (hQ _ hback)))

end access

def RunState.settled (σ : RunState) : RunState := { σ with reservation := .settled }

-- The run has come to rest in the state σ.
def Ended (A : RunLabel → Prop) (i : RunIds) (s₀ : Stage Row) (σ : RunState) (s : Stage Row) : Prop :=
  ∃ y, Rest A i s₀ y s ∧ y.state = σ

section endings

variable {c : CloudRun} {l : LocalTaskRun} {r : BudgetReservation} {t : Task} {σ : RunState}

theorem Rest.acknowledge (h : Rest A i s₀ ⟨c,l,r,t⟩ s) (mnsDelete : MnsDelete) :
    Serial (ackMnsQueueReceiptAfterTerminalCommit i.cloudRunId c mnsDelete)
      (fun _ s' => Ended A i s₀ (runState c l r) s')
      (fun e s' => e.isHttp = false ∧ Ended A i s₀ (runState c l r) s') s := by
  have hstill : Ended A i s₀ (runState c l r) s := ⟨_,h,rfl⟩
  unfold ackMnsQueueReceiptAfterTerminalCommit
  split
  · exact serial_pure hstill
  · cases mnsDelete with
    | misconfigured name => exact serial_throw ⟨rfl,hstill⟩
    | deleted =>
      refine serial_bind (serial_now fun now => serial_bind (h.focus.flushRun fun s₁ h₁ => ?_))
      have hrest := h₁.commit h Relation.ReflTransGen.refl
      exact serial_bind (serial_commitNow (hrest.focus.refreshRun ⟨_,hrest,rfl⟩))
    | failed =>
      refine serial_bind (serial_now fun now => serial_bind (h.focus.flushRun fun s₁ h₁ => ?_))
      have hrest := h₁.commit h Relation.ReflTransGen.refl
      exact serial_bind (serial_commitNow (hrest.focus.refreshRun ⟨_,hrest,rfl⟩))

theorem Focus.settleAndCommit (h : Focus i b x₀ ⟨c,l,r,t⟩ s) (hr : Rest A i s₀ x₀ b)
    (hres : r.status = .reserved) (hp : RunPath A x₀.state (runState c l r).settled)
    (mnsDelete : MnsDelete) : Serial (settleAndCommit i.cloudRunId c mnsDelete)
      (fun _ s' => Ended A i s₀ (runState c l r).settled s')
      (fun e s' => e.isHttp = false ∧ Ended A i s₀ (runState c l r).settled s') s := by
  refine serial_bind (h.settle h.rows.reservationId hres fun usage now s₁ h₁ => ?_)
  refine serial_bind (h₁.flushRun fun s₂ h₂ => serial_bind (serial_commitNow ?_))
  have hrest := h₂.commit hr hp
  exact serial_bind (hrest.focus.refreshRun (hrest.acknowledge mnsDelete))

theorem Focus.markFailed (h : Focus i b x₀ ⟨c,l,r,t⟩ s) (hr : Rest A i s₀ x₀ b)
    (hres : r.status = .reserved) (reason message : String) (mnsDelete : MnsDelete)
    (hp : RunPath A x₀.state ((runState c l r).ended .failed .settled)) :
    Serial (markClaimedCloudRunFailed i.cloudRunId c i.localRunId l reason message mnsDelete)
      (fun _ s' => Ended A i s₀ ((runState c l r).ended .failed .settled) s')
      (fun e s' => e.isHttp = false ∧ Ended A i s₀ ((runState c l r).ended .failed .settled) s') s := by
  refine serial_bind (serial_now fun now => serial_bind (h.flushLocal fun s₁ h₁ => ?_))
  refine serial_bind (h₁.flushRun fun s₂ h₂ => serial_bind (h₂.log fun s₃ h₃ => ?_))
  refine serial_bind (h₃.log fun s₄ h₄ => serial_bind ?_)
  exact serial_mono (h₄.settleAndCommit hr hres hp mnsDelete) (fun _ _ hs => serial_pure hs) fun _ _ hs => hs

theorem revoked_isSome (hash : Option String) (used : Option Time) (now : Time) :
    (if hash.isSome then used.or (some now) else used).isSome = (used.isSome || hash.isSome) := by
  cases hash <;> cases used <;> rfl

theorem cancelled_state (input : FinalizeInput) (now : Time) (hc : c.cancelRequested = true) :
    (runState (c.cancelledAfterExecution input.allPayloads now)
      ((l.executed input.result).cancelledAfterExecution now) r).settled =
    { (runState c l r).ended .cancelled .settled with
      patchArtifactId := none, localPatch := none
      tokenUsed := (runState c l r).tokenUsed || (runState c l r).tokenHash } := by
  simp only [RunState.settled,RunState.ended,runState,CloudRun.cancelledAfterExecution,
    LocalTaskRun.cancelledAfterExecution,LocalTaskRun.executed,hc,revoked_isSome,
    Option.isSome_some]

theorem Rest.markCancelled (h : Rest A i s₀ ⟨c,l,r,t⟩ s) (hA : A .finishCancelled)
    (hrun : c.status = .running) (hres : r.status = .reserved) (hc : c.cancelRequested = true)
    (input : FinalizeInput) {σ : RunState}
    (hσ : σ = { (runState c l r).ended .cancelled .settled with
      patchArtifactId := none, localPatch := none
      tokenUsed := (runState c l r).tokenUsed || (runState c l r).tokenHash }) :
    Serial (markClaimedCloudRunCancelled i.cloudRunId ⟨c,i.taskId,t,c.repoId,i.localRunId,l⟩ input)
      (fun _ s' => Ended A i s₀ σ s') (fun e s' => e.isHttp = false ∧ Ended A i s₀ σ s') s := by
  refine serial_bind (serial_now fun clock => serial_bind (serial_now fun now => ?_))
  refine serial_bind (h.focus.flushLocal fun s₁ h₁ => serial_bind (h₁.flushRun fun s₂ h₂ => ?_))
  refine serial_bind (h₂.logAt fun s₃ h₃ => serial_bind (h₃.logAt fun s₄ h₄ => serial_bind ?_))
  have hstate := (cancelled_state (l := l) (r := r) input now hc).trans hσ.symm
  have hstep : RunStep .finishCancelled (runState c l r) σ := by
    rw [hσ]
    exact .finishCancelled hrun hc
  have hend := h₄.settleAndCommit h hres (by rw [hstate]; exact RunPath.single hA hstep)
    input.mnsDelete
  rw [hstate] at hend
  exact serial_mono hend (fun _ _ hs => serial_pure hs) fun _ _ hs => hs

theorem Focus.testRun (h : Focus i b x₀ ⟨c,l,r,t⟩ s) {workspaceId taskId : Id} {t' : Task}
    {localRunId : Id} {patchArtifactId : Option Id} {input : FinalizeInput}
    {Q : Unit → Stage Row → Prop} {E : Exn → Stage Row → Prop}
    (hQ : ∀ s', Focus i b x₀ ⟨c,l,r,t⟩ s' → Q () s') (hid : localRunId = i.localRunId := by rfl)
    (hws : workspaceId = if patchArtifactId.isSome then c.workspaceId else devWorkspaceId := by rfl) :
    Serial (insertLocalTestRun workspaceId taskId t' localRunId patchArtifactId input) Q E s := by
  unfold insertLocalTestRun
  split
  · exact serial_pure (hQ s h)
  · refine serial_bind (h.fresh fun n s₁ h₁ hlt hnone => serial_bind (serial_now fun now => ?_))
    refine serial_bind (serial_now fun createdAt => ?_)
    refine h₁.insertAt (k := .localTestRun n) trivial (hnone _ rfl) (fun _ => ?_) (fun m hm => ?_) hQ
    · exact ⟨h₁.rows.localRunId.trans (congrArg some hid.symm),congrArg some hws⟩
    · cases hm
      exact hlt

theorem recorded_state (input : FinalizeInput) (commandResults : List CommandResult) (a : Option Id)
    (now now' now'' : Time) :
    (runState ((c.touched now).resultRecorded input.result.status a commandResults
        input.result.failureReason now')
      ((l.executed input.result).resultRecorded input.result.status a input.result.failureReason
        now'') r).settled =
    ((runState c l r).ended input.result.status.runStatus .settled).patched a := rfl

theorem Focus.finalizeFailed {now eventClock logClock : Time} {input : FinalizeInput}
    (h : Focus i b ⟨c,l,r,t⟩ ⟨c.touched now,l.executed input.result,r,t⟩ s)
    (hr : Rest A i s₀ ⟨c,l,r,t⟩ b) (hA : A .finish) (hrun : c.status = .running)
    (hres : r.status = .reserved) (hc : c.cancelRequested = false)
    (hno : shouldCreatePatchArtifact input.result = false) :
    Serial (finalizeFailed i.cloudRunId ⟨c,i.taskId,t,c.repoId,i.localRunId,l⟩ (c.touched now) input
        eventClock logClock)
      (fun _ s' => Ended A i s₀ ((runState c l r).ended .failed .settled) s')
      (fun e s' => e.isHttp = false ∧ Ended A i s₀ ((runState c l r).ended .failed .settled) s') s := by
  have hfailed : input.result.status = .failed := by
    cases hs : input.result.status with
    | failed => rfl
    | patchReady =>
      rw [patchReady_creates hs] at hno
      cases hno
  have hstep : RunStep .finish (runState c l r) ((runState c l r).ended .failed .settled) :=
    .finish .failed none hrun hc (by intro e; cases e)
  refine serial_bind (h.testRun fun s₁ h₁ => serial_bind (serial_now fun now₁ => ?_))
  refine serial_bind (h₁.flushLocal fun s₂ h₂ => serial_bind (serial_now fun now₂ => ?_))
  refine serial_bind (h₂.flushRun fun s₃ h₃ => serial_bind (h₃.event fun s₄ h₄ => ?_))
  refine serial_bind (h₄.logAt fun s₅ h₅ => serial_bind (h₅.logAt fun s₆ h₆ => serial_bind ?_))
  have hstate := recorded_state (c := c) (l := l) (r := r) input input.allPayloads none now now₂ now₁
  rw [hfailed] at hstate h₆ ⊢
  have hend := h₆.settleAndCommit hr hres (by rw [hstate]; exact RunPath.single hA hstep)
    input.mnsDelete
  rw [hstate] at hend
  exact serial_mono hend (fun _ _ hs => serial_pure hs) fun _ _ hs => hs

end endings

end AiScdc
