import AiScdc.CloudRunner.RunWalks

namespace AiScdc
open Transaction

section failures

abbrev NoHttp {α : Type} (m : Op α) : Prop := Throws (fun e : Exn => e.isHttp = false) m

theorem noHttp_refund (reservation : BudgetReservation) (cents : ℤ) : NoHttp (refund reservation cents) := by
  refine Throws.bind (Throws.bind (fun _ _ => trivial) fun wallet => ?_) fun _ =>
    Throws.bind (fun _ => trivial) fun _ => trivial
  cases wallet with
  | some wallet => trivial
  | none => exact Throws.bind (fun _ => trivial) fun t => Throws.bind (throws_insert _ _) fun _ => trivial

theorem noHttp_activeReservation (cloudRun : CloudRun) : NoHttp (activeReservationForCloudRun cloudRun) := by
  unfold activeReservationForCloudRun
  split
  · trivial
  · refine Throws.bind (fun _ _ => trivial) fun row => ?_
    cases row with
    | none => trivial
    | some r =>
      dsimp only
      split <;> trivial

theorem noHttp_usage (cloudRunId : Id) (cloudRun : CloudRun) (usage : List UsageMeasurement) :
    NoHttp (appendAllUsage cloudRunId cloudRun usage) := by
  induction usage with
  | nil => trivial
  | cons m ms ih =>
    refine Throws.bind (Throws.bind (fun _ _ => trivial) fun row => ?_) fun _ => ih
    cases row with
    | some entry => trivial
    | none =>
      refine Throws.bind (fun _ => trivial) fun t => Throws.tryCatch (throws_insert _ _) fun e he => ?_
      split
      · trivial
      · exact he

theorem noHttp_settle (cloudRunId : Id) (cloudRun : CloudRun) :
    NoHttp (settleCloudRunBudget cloudRunId cloudRun) := by
  refine Throws.bind (noHttp_activeReservation cloudRun) fun active => ?_
  cases active with
  | none => trivial
  | some entry =>
    refine Throws.bind (Throws.bind (fun _ _ => trivial) fun _ => trivial) fun usage => ?_
    refine Throws.bind (fun _ => trivial) fun now => Throws.bind (fun _ => trivial) fun b => ?_
    cases b with
    | false => trivial
    | true => exact Throws.bind (noHttp_usage _ _ _) fun _ => Throws.bind (noHttp_refund _ _) fun _ => trivial

end failures

variable [Digest] {α β : Type} {clock : ℕ → Time} {o : CloudRunOp} {X Y : Runs} {i : Id} {b c : CloudRun}
  {Ξ : Exn → Runs → Runs → Prop}

-- Nothing is left pending on the runs.
abbrev Idle (_ : α) (B C : Runs) : Prop := B = C

theorem walks_ack {mnsDelete : MnsDelete} (hX : X i = some c) (hc : c.status.terminal = true)
    (ho : o.ending i = some mnsDelete) (hΞ : ∀ e B C, e.isHttp = false → Ξ e B C) :
    Walks clock o (Stands X X) (ackMnsQueueReceiptAfterTerminalCommit i c mnsDelete) Idle Ξ := by
  unfold ackMnsQueueReceiptAfterTerminalCommit
  split
  · exact traces_done rfl
  · rename_i hqueue
    have hskip : mnsReceiptRecoverySkipReason c = none := by
      simp only [ne_eq,not_or,not_not,Bool.not_eq_true',Bool.not_eq_false] at hqueue
      simp [mnsReceiptRecoverySkipReason,hqueue.1,hqueue.2,hc]
    cases mnsDelete with
    | misconfigured name => exact traces_raise (hΞ _ _ _ rfl)
    | deleted =>
      refine traces_utcNow fun n => traces_flushRun hX (traces_commit (runsMove_update ?_) ?_)
      · rw [hX]
        exact .acknowledged _ ho hskip
      · exact walks_last (traces_refresh (Function.update_self _ _ _) (traces_done rfl))
    | failed =>
      refine traces_utcNow fun n => traces_flushRun hX (traces_commit (runsMove_update ?_) ?_)
      · rw [hX]
        exact .unacknowledged _ ho hskip
      · exact walks_last (traces_refresh (Function.update_self _ _ _) (traces_done rfl))

omit [Digest] in
theorem Resummed.terminal {c c' : CloudRun} (h : Resummed c c') (hc : c.status.terminal = true) :
    c'.status.terminal = true := by
  rw [h.status]
  exact hc

theorem walks_settleAndCommit {mnsDelete : MnsDelete} (hc : c.status.terminal = true)
    (hmove : ∀ s, Resummed c s → RunMove clock o i (X i) (some s)) (ho : o.ending i = some mnsDelete)
    (hΞ : ∀ e B C, e.isHttp = false → Ξ e B C) :
    Walks clock o (Stands X (Function.update X i (some c))) (settleAndCommit i c mnsDelete) Idle Ξ := by
  refine traces_givesThrowing (gives_settle unregulated_spared_budget i c) (noHttp_settle i c)
    runsMove_refl (fun e he => hΞ e _ _ he) fun settled hs => ?_
  refine traces_flushRun (Function.update_self _ _ _) ?_
  rw [Function.update_idem]
  refine traces_commit (runsMove_update (hmove settled hs)) ?_
  refine traces_refresh (Function.update_self _ _ _) ?_
  exact walks_ack (Function.update_self _ _ _) (hs.terminal hc) ho hΞ

section finalization

variable {ctx : Option AuthContext} {taskId : Id} {input : FinalizeInput}

theorem walks_reload {f : ReloadedRun → Op β} {Ω : β → Runs → Runs → Prop} (hX : X i = some b)
    (hΞ : ∀ e, Ξ e X X) (h : ∀ run, run.cloudRun = b → Walks clock o (Stands X X) (f run) Ω Ξ) :
    Walks clock o (Stands X Y) (reloadClaimedCloudRun ctx i taskId >>= f) Ω Ξ := by
  simp only [reloadClaimedCloudRun,bind_assoc]
  refine traces_rollback (traces_getCloudRun runsMove_refl hΞ fun c hc => ?_)
  obtain rfl : b = c := Option.some.inj (hX.symm.trans hc)
  refine traces_obeys (obeys_getTask _ _) runsMove_refl hΞ fun task => ?_
  refine traces_obeys (obeys_getRepository _ _) runsMove_refl hΞ fun repository => ?_
  exact traces_obeys (obeys_getLocalRun _) runsMove_refl hΞ fun entry => h _ rfl

theorem walks_markCancelled {run : ReloadedRun} (hX : X i = some b) (hrun : run.cloudRun = b)
    (hb : b.status = .running) (hcancel : b.cancelRequested = true)
    (ho : o.Ends i b input) (hΞ : ∀ e B C, e.isHttp = false → Ξ e B C) :
    Walks clock o (Stands X X) (markClaimedCloudRunCancelled i run input) Idle Ξ := by
  subst hrun
  refine traces_utcNow fun _ => traces_utcNow fun n => walks_flush rfl (fun e => hΞ e _ _) ?_
  refine traces_flushRun hX (walks_logAt (fun e => hΞ e _ _) (walks_logAt (fun e => hΞ e _ _) ?_))
  refine Traces.bind (walks_settleAndCommit rfl (fun s hs => ?_) ho.ending hΞ) fun _ =>
    walks_standing fun B C hBC => traces_done hBC
  rw [hX]
  exact .cancelledAfter n ho hb hcancel hs

omit [Digest] in
theorem obeys_testRunSpared {committing : Prop} {workspaceId taskId localRunId : Id} {task : Task}
    {artifactId : Option Id} : Obeys (sparesRuns committing) anyPhase
      (insertLocalTestRun workspaceId taskId task localRunId artifactId input) := by
  unfold insertLocalTestRun
  split
  · exact .pure ()
  · refine obeys_freshId.bind fun _ => obeys_utcNow.bind fun _ => obeys_utcNow.bind fun _ => ?_
    exact obeys_insert ((unregulated_spared rfl).update _ _)

omit [Digest] in
theorem noHttp_testRun {workspaceId taskId localRunId : Id} {task : Task} {artifactId : Option Id} :
    NoHttp (insertLocalTestRun workspaceId taskId task localRunId artifactId input) := by
  unfold insertLocalTestRun
  split
  · trivial
  · refine Throws.bind (fun _ => trivial) fun _ => Throws.bind (fun _ => trivial) fun _ => ?_
    exact Throws.bind (fun _ => trivial) fun _ => throws_insert _ _

omit [Digest] in
theorem obeys_eventSpared {committing : Prop} {payload : TaskEventPayload} {t : Time} :
    Obeys (sparesRuns committing) anyPhase (createTaskEvent taskId payload t) :=
  obeys_freshId.bind fun _ => obeys_insert ((unregulated_spared rfl).update _ _)

omit [Digest] in
theorem obeys_transitionSpared {committing : Prop} {task : Task} {t : Time} (path : List TaskStatus) :
    Obeys (sparesRuns committing) anyPhase (transitionTaskAlong taskId task t path) := by
  induction path generalizing task t with
  | nil => exact .pure ()
  | cons requested rest ih =>
    refine Obeys.bind ?_ fun moved => ih
    unfold transitionTaskForCloudRunner
    split
    · exact obeys_http _ _
    · refine obeys_utcNow.bind fun _ => (obeys_flush ((unregulated_spared rfl).flush _ _)).bind fun _ => ?_
      exact obeys_eventSpared.bind fun _ => .pure _

omit [Digest] in
theorem obeys_patchEventsSpared {committing : Prop} {localRunId artifactId : Id}
    {result : SandboxExecutionResult} {t : Time} : Obeys (sparesRuns committing) anyPhase
      (patchEvents i taskId localRunId artifactId result t) := by
  refine obeys_eventSpared.bind fun _ => ?_
  split
  · exact obeys_eventSpared.bind fun _ => .pure _
  · exact .pure _

omit [Digest] in
theorem obeys_existingSpared {committing : Prop} {run : ReloadedRun} :
    Obeys (sparesRuns committing) anyPhase (existingCloudRunResult i run input) := by
  refine (obeys_flush ((unregulated_spared rfl).flush _ _)).bind fun _ => ?_
  split
  · exact .pure _
  · exact (obeys_get _).bind fun _ => .pure _

theorem walks_existing {run : ReloadedRun} (hΞ : ∀ e, Ξ e X X) :
    Walks clock o (Stands X X) (existingCloudRunResult i run input) Idle Ξ :=
  walks_last (traces_obeys obeys_existingSpared runsMove_refl hΞ fun _ => traces_done rfl)

theorem walks_lost (hX : X i = some b) (hb : b.status = .running)
    (ho : o.Ends i b input) (hΞ : ∀ e B C, e.isHttp = false → Ξ e B C)
    (hat : ∀ e, Ξ e X X) :
    Walks clock o (Stands X Y) (finalizationLost ctx i taskId input) Idle Ξ := by
  refine traces_rollback (walks_reload hX hat fun run hrun => ?_)
  split
  · rename_i hcancel
    exact walks_markCancelled hX hrun hb (hrun ▸ hcancel) ho hΞ
  · exact walks_existing hat

theorem walks_patchLog {workspaceId : Id} {status : ResultStatus} {t : Time} {f : Unit → Op β}
    {Ω : β → Runs → Runs → Prop} (hΞ : ∀ e : Exn, e.isHttp = false → Ξ e X Y)
    (h : Walks clock o (Stands X Y) (f ()) Ω Ξ) :
    Walks clock o (Stands X Y) (patchLog i workspaceId status t >>= f) Ω Ξ := by
  unfold patchLog
  split
  · exact walks_logAt hΞ h
  · exact walks_logAt hΞ h

variable {eventClock logClock : Time} {m : ℕ} {run : ReloadedRun}

theorem walks_failed (hX : X i = some b) (hb : b.status = .running) (hopen : b.completedAt = none)
    (hcancel : b.cancelRequested = false) (ho : o.Ends i b input)
    (hcreate : shouldCreatePatchArtifact input.result = false) (hΞ : ∀ e B C, e.isHttp = false → Ξ e B C)
    (hpart : ∀ e x, Partly b x → Ξ e X (Function.update X i (some x))) :
    Walks clock o (Stands X (Function.update X i (some (b.touched (clock m)))))
      (finalizeFailed i run (b.touched (clock m)) input eventClock logClock) Idle Ξ := by
  refine traces_throwing obeys_testRunSpared noHttp_testRun runsMove_refl (fun e he => hΞ e _ _ he)
    fun _ => traces_utcNow fun _ => walks_flush rfl (fun e => hΞ e _ _) ?_
  refine traces_utcNow fun n => traces_flushRun (Function.update_self _ _ _) ?_
  rw [Function.update_idem]
  refine traces_obeys obeys_eventSpared runsMove_refl (fun e => hpart e _ (.recorded _ _ _ _ _ _))
    fun _ => walks_logAt (fun e => hΞ e _ _) (walks_logAt (fun e => hΞ e _ _) ?_)
  refine Traces.bind (walks_settleAndCommit (ResultStatus.runStatus_terminal _) (fun s hs => ?_)
    ho.ending hΞ) fun _ => walks_standing fun B C hBC => traces_done hBC
  rw [hX]
  exact .finished m n ho hb hopen hcancel (.unpatched hcreate) hs

theorem walks_patched (hX : X i = some b) (hb : b.status = .running) (hopen : b.completedAt = none)
    (hcancel : b.cancelRequested = false) (ho : o.Ends i b input)
    (hcreate : shouldCreatePatchArtifact input.result = true) (hΞ : ∀ e B C, e.isHttp = false → Ξ e B C)
    (hpart : ∀ e x, Partly b x → Ξ e X (Function.update X i (some x))) :
    Walks clock o (Stands X (Function.update X i (some (b.touched (clock m)))))
      (finalizePatched i run (b.touched (clock m)) input eventClock logClock) Idle Ξ := by
  refine traces_freshId fun artifactId => traces_utcNow fun _ => ?_
  refine traces_throwing (obeys_insert ((unregulated_spared rfl).update _ _)) (throws_insert _ _)
    runsMove_refl (fun e he => hΞ e _ _ he) fun _ => ?_
  refine traces_throwing obeys_testRunSpared noHttp_testRun runsMove_refl (fun e he => hΞ e _ _ he)
    fun _ => traces_utcNow fun _ => walks_flush rfl (fun e => hΞ e _ _) ?_
  refine traces_utcNow fun n => traces_flushRun (Function.update_self _ _ _) ?_
  rw [Function.update_idem]
  have hrow := fun e => hpart e _ (.recorded (clock m) (clock n) input.result.status (some artifactId)
    (commandResultPayloads input.result.commandResults input.secrets) input.result.failureReason)
  refine traces_obeys obeys_patchEventsSpared runsMove_refl hrow fun eventTime => ?_
  refine walks_patchLog (fun e _ => hrow e) (walks_logAt (fun e _ => hrow e) ?_)
  refine walks_flush rfl (fun e _ => hrow e) ?_
  refine traces_obeys (obeys_transitionSpared _) runsMove_refl hrow fun _ => ?_
  refine Traces.bind (walks_settleAndCommit (ResultStatus.runStatus_terminal _) (fun s hs => ?_)
    ho.ending hΞ) fun _ => walks_standing fun B C hBC => traces_done hBC
  rw [hX]
  exact .finished m n ho hb hopen hcancel (.patched artifactId hcreate) hs

-- What a finalisation may raise: an HTTP error leaves the row as it was or with the result recorded.
theorem walks_finalize {cloudRun : CloudRun} (hX : X i = some b) (hb : b.status = .running)
    (ho : o.Ends i b input) (hΞ : ∀ e B C, e.isHttp = false → Ξ e B C)
    (hpart : ∀ e x, Partly b x → Ξ e X (Function.update X i (some x))) :
    Walks clock o (Stands X Y) (finalizeClaimedCloudRunResult ctx i cloudRun input) Idle Ξ := by
  have hsame : Function.update X i (some b) = X := hX ▸ Function.update_eq_self i X
  have hat (e : Exn) : Ξ e X X := by
    have hb := hpart e b .untouched
    rwa [hsame] at hb
  refine walks_reload hX hat fun first hfirst => ?_
  split
  · rename_i hcancel
    exact walks_markCancelled hX hfirst hb (hfirst ▸ hcancel) ho hΞ
  · refine walks_reload hX hat fun run hrun => traces_utcNow fun _ => traces_utcNow fun _ => ?_
    split
    · rename_i hcancel
      exact walks_markCancelled hX hrun hb (hrun ▸ hcancel) ho hΞ
    · refine traces_utcNow fun n => walks_flush rfl (fun e => hΞ e _ _) ?_
      refine traces_updateRun hX (fun hg => ?_) fun _ => ?_
      · simp only [Bool.and_eq_true,decide_eq_true_eq,Option.isNone_iff_eq_none,
          Bool.not_eq_true'] at hg
        obtain ⟨⟨_,hopen⟩,hcancel⟩ := hg
        refine traces_refresh (Function.update_self _ _ _) ?_
        split
        · rename_i hcreate
          exact walks_patched hX hb hopen hcancel ho hcreate hΞ hpart
        · rename_i hcreate
          exact walks_failed hX hb hopen hcancel ho (eq_false_of_ne_true hcreate) hΞ hpart
      · exact walks_lost hX hb ho hΞ hat

end finalization

end AiScdc
