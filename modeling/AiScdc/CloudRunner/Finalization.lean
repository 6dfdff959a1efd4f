import AiScdc.CloudRunner.Endings

namespace AiScdc
open Transaction

def TaskStatus.reachesPatchReady (status : TaskStatus) : Bool :=
  status ∈ [.created,.assigned,.fixRequested,.inProgress,.patchReady]

def alongAllowed (current : TaskStatus) : List TaskStatus → Prop
  | [] => True
  | requested :: rest =>
    validateTransition current requested .system = .ok requested ∧ alongAllowed requested rest

theorem along_path {status : TaskStatus} (h : status.reachesPatchReady = true) :
    alongAllowed status (transitionPath status) := by
  cases status <;> simp [TaskStatus.reachesPatchReady] at h <;>
    simp [alongAllowed,transitionPath,validateTransition,TaskStatus.terminalStatuses,
      TaskStatus.transitions]

theorem refused_path {status : TaskStatus} (h : status.reachesPatchReady = false) :
    transitionPath status = [.patchReady] ∧
      ∃ e, validateTransition status .patchReady .system = .error e := by
  cases status <;> simp [TaskStatus.reachesPatchReady] at h <;>
    exact ⟨rfl,_,rfl⟩

-- The finalisation of a run in this state, with this result, raises no HTTP error.
def Finishes (c : CloudRun) (t : Task) (result : SandboxExecutionResult) : Prop :=
  c.cancelRequested = true ∨ shouldCreatePatchArtifact result = false ∨
    t.status.reachesPatchReady = true

instance (c : CloudRun) (t : Task) (result : SandboxExecutionResult) :
    Decidable (Finishes c t result) := inferInstanceAs (Decidable (_ ∨ _ ∨ _))

variable {A : RunLabel → Prop} {i : RunIds} {s₀ b s : Stage Row} {x₀ : RunRows}

def Over (A : RunLabel → Prop) (i : RunIds) (s₀ s : Stage Row) : Prop :=
  ∃ y, Rest A i s₀ y s ∧ y.state.status.terminal = true

theorem Ended.over {σ : RunState} (h : Ended A i s₀ σ s) (hσ : σ.status.terminal = true) :
    Over A i s₀ s := by
  obtain ⟨y,hrest,rfl⟩ := h
  exact ⟨y,hrest,hσ⟩

-- The session that a refused task transition leaves: the patch is written but not committed.
structure Refused (i : RunIds) (b : Stage Row) (x₀ : RunRows) (status : ResultStatus) (artifactId : Id)
    (y : RunRows) (s : Stage Row) : Prop where
  focus : Focus i b x₀ y s
  reservation : y.reservation = x₀.reservation
  state : y.state.settled =
    (x₀.state.ended status.runStatus .settled).patched (some artifactId)

section transitions

variable {c : CloudRun} {l : LocalTaskRun} {r : BudgetReservation} {t : Task}

theorem Focus.transition (h : Focus i b x₀ ⟨c,l,r,t⟩ s) {requested next : TaskStatus}
    (hv : validateTransition t.status requested .system = .ok next) {createdAt : Time}
    {Q : Task → Stage Row → Prop} {E : Exn → Stage Row → Prop}
    (hQ : ∀ t' s', t'.status = next → Focus i b x₀ ⟨c,l,r,t'⟩ s' → Q t' s') :
    Serial (transitionTaskForCloudRunner i.taskId t requested createdAt) Q E s := by
  unfold transitionTaskForCloudRunner
  rw [hv]
  refine serial_bind (serial_now fun now => serial_bind (h.flushTask fun s₁ h₁ => ?_))
  exact serial_bind (h₁.event fun s₂ h₂ => serial_pure (hQ _ _ rfl h₂))

theorem Focus.along (h : Focus i b x₀ ⟨c,l,r,t⟩ s) {path : List TaskStatus}
    (hp : alongAllowed t.status path) {eventClock : Time} {Q : Unit → Stage Row → Prop}
    {E : Exn → Stage Row → Prop} (hQ : ∀ t' s', Focus i b x₀ ⟨c,l,r,t'⟩ s' → Q () s') :
    Serial (transitionTaskAlong i.taskId t eventClock path) Q E s := by
  induction path generalizing t s eventClock with
  | nil => exact serial_pure (hQ t s h)
  | cons requested rest ih =>
    refine serial_bind (h.transition hp.1 fun t' s' ht h' => ih h' ?_)
    rw [ht]
    exact hp.2

theorem serial_refused {taskId : Id} {eventClock : Time} (ht : t.status.reachesPatchReady = false)
    {Q : Unit → Stage Row → Prop} {E : Exn → Stage Row → Prop}
    (hE : ∀ detail, E (.http 400 detail) s) :
    Serial (transitionTaskToPatchReady taskId t eventClock) Q E s := by
  obtain ⟨hpath,e,he⟩ := refused_path ht
  unfold transitionTaskToPatchReady
  rw [hpath]
  refine serial_bind ?_
  unfold transitionTaskForCloudRunner
  rw [he]
  exact serial_http (hE _)

theorem Focus.patchEvents (h : Focus i b x₀ ⟨c,l,r,t⟩ s) {taskId localRunId artifactId : Id}
    {result : SandboxExecutionResult} {eventClock : Time} {Q : Time → Stage Row → Prop}
    {E : Exn → Stage Row → Prop} (hQ : ∀ time s', Focus i b x₀ ⟨c,l,r,t⟩ s' → Q time s') :
    Serial (patchEvents i.cloudRunId taskId localRunId artifactId result eventClock) Q E s := by
  refine serial_bind (h.event fun s₁ h₁ => ?_)
  split
  · exact serial_bind (h₁.event fun s₂ h₂ => serial_pure (hQ _ _ h₂))
  · exact serial_pure (hQ _ _ h₁)

theorem Focus.patchLog (h : Focus i b x₀ ⟨c,l,r,t⟩ s) {cloudRunId workspaceId : Id}
    {status : ResultStatus} {logClock : Time} {Q : Unit → Stage Row → Prop}
    {E : Exn → Stage Row → Prop} (hQ : ∀ s', Focus i b x₀ ⟨c,l,r,t⟩ s' → Q () s')
    (hid : cloudRunId = i.cloudRunId := by rfl) (hws : workspaceId = c.workspaceId := by rfl) :
    Serial (patchLog cloudRunId workspaceId status logClock) Q E s := by
  unfold AiScdc.patchLog
  split
  · exact h.logAt hQ hid hws
  · exact h.logAt hQ hid hws

theorem Focus.finalizePatched {now eventClock logClock : Time} {input : FinalizeInput}
    (h : Focus i b ⟨c,l,r,t⟩ ⟨c.touched now,l.executed input.result,r,t⟩ s)
    (hr : Rest A i s₀ ⟨c,l,r,t⟩ b) (hA : A .finish) (hrun : c.status = .running)
    (hres : r.status = .reserved) (hc : c.cancelRequested = false) :
    Serial (finalizePatched i.cloudRunId ⟨c,i.taskId,t,c.repoId,i.localRunId,l⟩ (c.touched now) input
        eventClock logClock)
      (fun _ s' => t.status.reachesPatchReady = true ∧ Over A i s₀ s')
      (fun e s' => (t.status.reachesPatchReady = true ∧ e.isHttp = false ∧ Over A i s₀ s') ∨
        (t.status.reachesPatchReady = false ∧ (∃ detail, e = .http 400 detail) ∧
          ∃ a y, Refused i b ⟨c,l,r,t⟩ input.result.status a y s')) s := by
  unfold AiScdc.finalizePatched
  refine serial_bind (h.fresh fun a s₁ h₁ hlt hnone => serial_bind (serial_now fun now₁ => ?_))
  refine serial_bind (h₁.insertAt (k := .patchArtifact a) trivial (hnone _ rfl)
    (fun _ => ?_) (fun m hm => ?_) fun s₂ h₂ => ?_)
  · exact ⟨h₁.rows.localRunId,rfl⟩
  · cases hm
    exact hlt
  refine serial_bind (h₂.testRun fun s₃ h₃ => serial_bind (serial_now fun now₂ => ?_))
  refine serial_bind (h₃.flushLocal fun s₄ h₄ => serial_bind (serial_now fun now₃ => ?_))
  refine serial_bind (h₄.flushRun fun s₅ h₅ => serial_bind (h₅.patchEvents fun time s₆ h₆ => ?_))
  have hstate := recorded_state (c := c) (l := l) (r := r) input
    (commandResultPayloads input.result.commandResults input.secrets) (some a) now now₃ now₂
  refine serial_bind (h₆.patchLog fun s₇ h₇ => serial_bind (h₇.logAt fun s₈ h₈ => ?_))
  refine serial_bind (h₈.flushTask fun s₉ h₉ => ?_)
  by_cases hreach : t.status.reachesPatchReady = true
  · refine serial_bind (h₉.along (along_path hreach) fun t' s₁₀ h₁₀ => serial_bind ?_)
    have hstep : RunStep .finish (runState c l r)
        (((runState c l r).ended input.result.status.runStatus .settled).patched (some a)) :=
      .finish _ _ hrun hc fun _ => rfl
    have hend := h₁₀.settleAndCommit hr hres (by rw [hstate]; exact RunPath.single hA hstep)
      input.mnsDelete
    rw [hstate] at hend
    refine serial_mono hend (fun _ _ hs => serial_pure ⟨hreach,hs.over ?_⟩)
      fun e _ hs => Or.inl ⟨hreach,hs.1,hs.2.over ?_⟩
    · exact ResultStatus.runStatus_terminal _
    · exact ResultStatus.runStatus_terminal _
  · have hno : t.status.reachesPatchReady = false := by simpa using hreach
    refine serial_bind (serial_refused (t := { t with
      repoId := some c.repoId
      branchName := some (c.touched now).headBranch
      worktreeRef := input.result.worktreeRef }) hno fun detail => ?_)
    exact Or.inr ⟨hno,⟨detail,rfl⟩,a,_,h₉,rfl,hstate⟩

-- What a finalisation of the run in the rows x leaves when it raises.
def Raised (A : RunLabel → Prop) (i : RunIds) (s₀ : Stage Row) (x : RunRows)
    (result : SandboxExecutionResult) (e : Exn) (s : Stage Row) : Prop :=
  (Finishes x.cloudRun x.task result ∧ e.isHttp = false ∧ Over A i s₀ s) ∨
    (¬ Finishes x.cloudRun x.task result ∧ (∃ detail, e = .http 400 detail) ∧
      ∃ b a y, Rest A i s₀ x b ∧ Refused i b x result.status a y s)

theorem Focus.finalize {x : RunRows} (h : Focus i b ⟨c,l,r,t⟩ x s) (hr : Rest A i s₀ ⟨c,l,r,t⟩ b)
    {ctx : Option AuthContext} (ha : Allowed ctx c.workspaceId) (hfin : A .finish)
    (hcan : A .finishCancelled) (hrun : c.status = .running) (hdone : c.completedAt = none)
    (hres : r.status = .reserved) {c' : CloudRun} (htask : c'.taskId = i.taskId)
    (input : FinalizeInput) :
    Serial (finalizeClaimedCloudRunResult ctx i.cloudRunId c' input)
      (fun _ s' => Finishes c t input.result ∧ Over A i s₀ s')
      (Raised A i s₀ ⟨c,l,r,t⟩ input.result) s := by
  have hcancel {s₁ : Stage Row} (h₁ : Rest A i s₀ ⟨c,l,r,t⟩ s₁) (hc : c.cancelRequested = true) :
      Serial (markClaimedCloudRunCancelled i.cloudRunId ⟨c,i.taskId,t,c.repoId,i.localRunId,l⟩ input)
        (fun _ s' => Finishes c t input.result ∧ Over A i s₀ s')
        (Raised A i s₀ ⟨c,l,r,t⟩ input.result) s₁ :=
    serial_mono (h₁.markCancelled hcan hrun hres hc input rfl)
      (fun _ _ hs => ⟨Or.inl hc,hs.over rfl⟩) fun _ _ hs => Or.inl ⟨Or.inl hc,hs.1,hs.2.over rfl⟩
  unfold finalizeClaimedCloudRunResult
  rw [htask]
  refine serial_bind (h.reload hr ha fun s₁ h₁ => ?_)
  by_cases hc : c.cancelRequested = true
  · simp only [hc,if_true]
    exact hcancel h₁ hc
  · have hno : c.cancelRequested = false := by simpa using hc
    simp only [hno,Bool.false_eq_true,if_false]
    refine serial_bind (h₁.focus.reload h₁ ha fun s₂ h₂ => ?_)
    refine serial_bind (serial_now fun eventClock => serial_bind (serial_now fun logClock => ?_))
    simp only [hno,Bool.false_eq_true,if_false]
    refine serial_bind (serial_now fun now => serial_bind (h₂.focus.flushLocal fun s₃ h₃ => ?_))
    refine serial_bind (serial_updateWhere h₃.rows.cloudRun (fun _ => ?_) fun hg => ?_)
    · have h₄ : Focus _ _ _ ⟨c.touched now,_,_,_⟩ _ := h₃.writeRun rfl
      simp only [if_true]
      refine serial_bind (h₄.refreshRun ?_)
      by_cases hcreate : shouldCreatePatchArtifact input.result = true
      · simp only [hcreate,if_true]
        refine serial_mono (h₄.finalizePatched h₂ hfin hrun hres hno) (fun _ _ hs => ?_)
          fun e s' hs => ?_
        · exact ⟨Or.inr (Or.inr hs.1),hs.2⟩
        · rcases hs with ⟨hreach,he,hover⟩ | ⟨hreach,he,a,y,hy⟩
          · exact Or.inl ⟨Or.inr (Or.inr hreach),he,hover⟩
          · refine Or.inr ⟨?_,he,s₂,a,y,h₂,hy⟩
            rintro (hf | hf | hf)
            · exact hc hf
            · rw [hcreate] at hf
              cases hf
            · rw [hreach] at hf
              cases hf
      · have hskip : shouldCreatePatchArtifact input.result = false := by simpa using hcreate
        simp only [hskip,Bool.false_eq_true,if_false]
        exact serial_mono (h₄.finalizeFailed h₂ hfin hrun hres hno hskip)
          (fun _ _ hs => ⟨Or.inr (Or.inl hskip),hs.over rfl⟩)
          fun _ _ hs => Or.inl ⟨Or.inr (Or.inl hskip),hs.1,hs.2.over rfl⟩
    · simp [hrun,hdone,hno] at hg

end transitions

end AiScdc
