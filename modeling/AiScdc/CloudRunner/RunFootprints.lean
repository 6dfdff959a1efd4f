import AiScdc.CloudRunner.Footprints

namespace AiScdc
open Transaction RunPhase

section endings

variable {A : Id → RunEdit → Prop} {id : Id}

theorem obeys_ack (hA : A id .keep) (cloudRun : CloudRun) (mnsDelete : MnsDelete) :
    Obeys (runCourse A) (near id)
      (ackMnsQueueReceiptAfterTerminalCommit id cloudRun mnsDelete) := by
  unfold ackMnsQueueReceiptAfterTerminalCommit
  split
  · exact .pure cloudRun
  · cases mnsDelete with
    | misconfigured name => exact .raise _
    | deleted =>
      refine obeys_utcNow.bind fun t => ?_
      refine (obeys_keepRun (keeps_mnsMessageDeleted cloudRun t) hA).bind fun _ => ?_
      exact (obeys_commit (resets_near id)).bind fun _ => obeys_refresh _
    | failed =>
      refine obeys_utcNow.bind fun t => ?_
      refine (obeys_keepRun (keeps_mnsMessageDeleteFailed cloudRun t) hA).bind fun _ => ?_
      exact (obeys_commit (resets_near id)).bind fun _ => obeys_refresh _

theorem obeys_settleAndCommit (hA : A id .keep) (cloudRun : CloudRun) (mnsDelete : MnsDelete) :
    Obeys (runCourse A) (near id) (settleAndCommit id cloudRun mnsDelete) := by
  refine (gives_settle unregulated_budget id cloudRun).bind fun settled hs => ?_
  refine (obeys_keepRun hs.keeps hA).bind fun _ => ?_
  refine (obeys_commit (resets_near id)).bind fun _ => (obeys_refresh _).bind fun c => ?_
  exact obeys_ack hA c mnsDelete

theorem obeys_markFailed (hA : A id .keep) (cloudRun : CloudRun) (localRunId : Id)
    (localRun : LocalTaskRun) (failureReason message : String) (mnsDelete : MnsDelete) :
    Obeys (runCourse A) (near id) (markClaimedCloudRunFailed id cloudRun localRunId localRun
      failureReason message mnsDelete) := by
  refine obeys_utcNow.bind fun t => (obeys_flushPlain rfl).bind fun _ => ?_
  refine (obeys_keepRun (keeps_preflightFailed cloudRun failureReason message t) hA).bind fun _ => ?_
  refine (obeys_log _ _ _ _).bind fun _ => (obeys_log _ _ _ _).bind fun _ => ?_
  exact (obeys_settleAndCommit hA _ _).bind fun _ => .pure _

theorem obeys_markCancelled (hA : A id .keep) (run : ReloadedRun) (input : FinalizeInput) :
    Obeys (runCourse A) (near id) (markClaimedCloudRunCancelled id run input) := by
  refine obeys_utcNow.bind fun clock => obeys_utcNow.bind fun t => (obeys_flushPlain rfl).bind fun _ => ?_
  refine (obeys_keepRun (keeps_cancelledAfterExecution run.cloudRun input.allPayloads t) hA).bind
    fun _ => ?_
  refine (obeys_logAt _ _ _ _ _).bind fun _ => (obeys_logAt _ _ _ _ _).bind fun _ => ?_
  exact (obeys_settleAndCommit hA _ _).bind fun _ => .pure _

theorem obeys_reload (ctx : Option AuthContext) (taskId : Id) :
    Obeys (runCourse A) (near id) (reloadClaimedCloudRun ctx id taskId) := by
  refine (obeys_rollback (resets_near id)).bind fun _ => (obeys_getCloudRun ctx id).bind fun c => ?_
  refine (obeys_getTask ctx taskId).bind fun _ => (obeys_getRepository ctx _).bind fun _ => ?_
  exact (obeys_getLocalRun c).bind fun _ => .pure _

theorem gives_localRun {Φ : RunPhase → Prop} (cloudRun : CloudRun) :
    Gives (runCourse A) Φ (getCloudRunLocalRunOr404 cloudRun)
      fun r => cloudRun.localRunId = some r.1 := by
  unfold getCloudRunLocalRunOr404
  split
  · exact gives_http _ _
  · rename_i l hl
    exact (obeys_getOr404 _ _).gives fun _ => .pure hl

def reloadFrom (ctx : Option AuthContext) (taskId : Id) (c : CloudRun) : Op ReloadedRun := do
  let task ← getTask ctx taskId
  let _ ← getRepository ctx c.repoId
  let (localRunId,localRun) ← getCloudRunLocalRunOr404 c
  pure ⟨c,taskId,task,c.repoId,localRunId,localRun⟩

def Reloads (A : Id → RunEdit → Prop) (id : Id) (x : RunPhase) (m : Op ReloadedRun) : Prop :=
  Writes (runCourse A) x m (fun run y => y = .read id run.localRunId) fun _ y => y.unheld

theorem reloads_from (ctx : Option AuthContext) (taskId : Id) (c : CloudRun) {x : RunPhase}
    (hx : x.unheld) (hc : ∀ l, c.localRunId = some l → x = .read id l) :
    Reloads A id x (reloadFrom ctx taskId c) := by
  have hE : ∀ (e : Exn) y, y = x → y.unheld := fun e y hy => hy ▸ hx
  refine (obeys_getTask (Φ := fun y => y = x) ctx taskId).then rfl (fun task y hy => ?_) hE
  refine (obeys_getRepository (Φ := fun y => y = x) ctx c.repoId).then hy (fun _ z hz => ?_) hE
  refine Writes.bind ((gives_localRun (Φ := fun y => y = x) c z hz).mono (fun r z' hr => ?_) hE)
  obtain ⟨hl,rfl⟩ := hr
  exact hc r.1 hl

theorem reloads_enforced (ctx : Option AuthContext) (taskId : Id) (c : CloudRun) {x : RunPhase}
    (hx : x.unheld) (hc : ∀ l, c.localRunId = some l → x = .read id l) :
    Reloads A id x (do
      enforceWorkspaceAccess ctx c.workspaceId "Cloud run not found"
      reloadFrom ctx taskId c) :=
  (obeys_enforce (Φ := fun y => y = x) ctx c.workspaceId _).then rfl
    (fun _ _ hy => hy ▸ reloads_from ctx taskId c hx hc) fun _ _ hy => hy ▸ hx

-- The reload ends with the local run of the row that it has read.
theorem reloads_run (ctx : Option AuthContext) (taskId : Id) (x : RunPhase) :
    Reloads A id x (reloadClaimedCloudRun ctx id taskId) := by
  have hprog : reloadClaimedCloudRun ctx id taskId = (do
      rollback
      let c ← getOr404 (.cloudRun id) "Cloud run not found"
      enforceWorkspaceAccess ctx c.workspaceId "Cloud run not found"
      reloadFrom ctx taskId c) := by
    simp only [reloadClaimedCloudRun,getCloudRunOr404,reloadFrom,bind_assoc,pure_bind]
  rw [hprog]
  refine ⟨.clean,rfl,?_⟩
  refine Writes.bind (m := getOr404 (.cloudRun id) _) (writes_getOr404 (fun db _ c hdb => ?_) trivial)
  cases hl : c.localRunId with
  | none => exact ⟨.clean,Or.inl rfl,reloads_enforced ctx taskId c trivial fun l h => by simp [hl] at h⟩
  | some l =>
    refine ⟨.read id l,Or.inr ⟨id,l,c,rfl,rfl,hdb,hl⟩,reloads_enforced ctx taskId c trivial ?_⟩
    exact fun l' h => by simp_all

theorem obeys_existing (run : ReloadedRun) (input : FinalizeInput) :
    Obeys (runCourse A) (near id) (existingCloudRunResult id run input) := by
  refine (obeys_flushPlain rfl).bind fun _ => ?_
  split
  · exact .pure _
  · exact (obeys_get _).bind fun _ => .pure _

theorem obeys_lost (hA : A id .keep) (ctx : Option AuthContext) (taskId : Id)
    (input : FinalizeInput) :
    Obeys (runCourse A) (near id) (finalizationLost ctx id taskId input) := by
  refine (obeys_rollback (resets_near id)).bind fun _ => (obeys_reload ctx taskId).bind fun run => ?_
  split
  · exact obeys_markCancelled hA run input
  · exact obeys_existing run input

theorem obeys_testRun {Φ : RunPhase → Prop} (workspaceId taskId : Id) (task : Task)
    (localRunId : Id) (patchArtifactId : Option Id) (input : FinalizeInput) :
    Obeys (runCourse A) Φ
      (insertLocalTestRun workspaceId taskId task localRunId patchArtifactId input) := by
  unfold insertLocalTestRun
  split
  · exact .pure ()
  · refine obeys_freshId.bind fun _ => obeys_utcNow.bind fun _ => ?_
    exact obeys_utcNow.bind fun _ => obeys_insertPlain rfl

theorem obeys_failed (hA : A id .keep) (run : ReloadedRun) (cloudRun : CloudRun)
    (input : FinalizeInput) (eventClock logClock : Time)
    (hs : shouldCreatePatchArtifact input.result = false) :
    Obeys (runCourse A) (near id) (finalizeFailed id run cloudRun input eventClock logClock) := by
  have hstatus : input.result.status = .failed := by
    cases h : input.result.status with
    | failed => rfl
    | patchReady => simp [patchReady_creates h] at hs
  refine (obeys_testRun _ _ _ _ _ _).bind fun _ => obeys_utcNow.bind fun _ => ?_
  refine (obeys_flushPlain rfl).bind fun _ => obeys_utcNow.bind fun t => ?_
  refine (obeys_keepRun (keeps_failedResult cloudRun _ _ t hstatus) hA).bind fun _ => ?_
  refine (obeys_taskEvent _ _ _).bind fun _ => (obeys_logAt _ _ _ _ _).bind fun _ => ?_
  exact (obeys_logAt _ _ _ _ _).bind fun _ => (obeys_settleAndCommit hA _ _).bind fun _ => .pure _

section held

variable {localRunId : Id}

theorem obeys_insertArtifact {artifactId : Id} {row : PatchArtifact}
    (h : row.localRunId = localRunId) :
    Obeys (runCourse A) (fun y => y = .held id localRunId) (insert (.patchArtifact artifactId) row) :=
  obeys_insert fun _ hx => ⟨.held id localRunId,rfl,hx ▸ .artifact id localRunId artifactId row h⟩

theorem obeys_flushTask {taskId : Id} {l n : Task} :
    Obeys (runCourse A) (fun y => y = .held id localRunId) (flush (.task taskId) l n) :=
  obeys_flush fun _ hx => ⟨.held id localRunId,rfl,hx ▸ .task id localRunId taskId l n⟩

theorem obeys_result (hA : A id .keep) (c : CloudRun) (status : ResultStatus) (artifactId : Option Id)
    (results : List CommandResult) (reason : Option String) (t : Time) :
    Obeys (runCourse A) (fun y => y = .held id localRunId)
      (flush (.cloudRun id) c (c.resultRecorded status artifactId results reason t)) :=
  obeys_flush fun _ hx => ⟨.held id localRunId,rfl,
    hx ▸ .result id localRunId status artifactId results reason t hA⟩

theorem obeys_transition (taskId : Id) (task : Task) (requested : TaskStatus) (t : Time) :
    Obeys (runCourse A) (fun y => y = .held id localRunId)
      (transitionTaskForCloudRunner taskId task requested t) := by
  unfold transitionTaskForCloudRunner
  split
  · exact obeys_http _ _
  · refine obeys_utcNow.bind fun _ => obeys_flushTask.bind fun _ => ?_
    exact (obeys_taskEvent _ _ _).bind fun _ => .pure _

theorem obeys_transitionAlong (taskId : Id) (task : Task) (t : Time) (path : List TaskStatus) :
    Obeys (runCourse A) (fun y => y = .held id localRunId) (transitionTaskAlong taskId task t path) := by
  induction path generalizing task t with
  | nil => exact .pure ()
  | cons requested rest ih => exact (obeys_transition taskId task requested _).bind fun m => ih m _

theorem obeys_patchEvents (taskId artifactId : Id) (result : SandboxExecutionResult)
    (t : Time) {Φ : RunPhase → Prop} :
    Obeys (runCourse A) Φ (patchEvents id taskId localRunId artifactId result t) := by
  refine (obeys_taskEvent _ _ _).bind fun _ => ?_
  split
  · exact (obeys_taskEvent _ _ _).bind fun _ => .pure _
  · exact .pure _

theorem obeys_patchLog (workspaceId : Id) (status : ResultStatus) (t : Time)
    {Φ : RunPhase → Prop} : Obeys (runCourse A) Φ (patchLog id workspaceId status t) := by
  unfold patchLog
  split
  · exact obeys_logAt _ _ _ _ _
  · exact obeys_logAt _ _ _ _ _

theorem writes_patched (hA : A id .keep) (run : ReloadedRun) (cloudRun : CloudRun)
    (input : FinalizeInput) (eventClock logClock : Time) :
    Writes (runCourse A) (.held id run.localRunId)
      (finalizePatched id run cloudRun input eventClock logClock)
      (fun _ y => y.near id) fun _ y => y.near id := by
  have hE : ∀ _ : Exn, (held id run.localRunId).near id := fun _ => rfl
  refine obeys_freshId.still (fun artifactId => ?_) hE
  refine obeys_utcNow.still (fun createdAt => ?_) hE
  refine (obeys_insertArtifact (show _ = run.localRunId from rfl)).still (fun _ => ?_) hE
  refine (obeys_testRun _ _ _ _ _ _).still (fun _ => ?_) hE
  refine obeys_utcNow.still (fun updatedAt => ?_) hE
  refine (obeys_flushPlain rfl).still (fun _ => ?_) hE
  refine obeys_utcNow.still (fun completedAt => ?_) hE
  refine (obeys_result hA _ _ _ _ _ _).still (fun _ => ?_) hE
  refine (obeys_patchEvents _ _ _ _).still (fun eventTime => ?_) hE
  refine (obeys_patchLog _ _ _).still (fun _ => ?_) hE
  refine (obeys_logAt _ _ _ _ _).still (fun _ => ?_) hE
  refine obeys_flushTask.still (fun _ => ?_) hE
  refine (obeys_transitionAlong _ _ _ _).still (fun _ => ?_) hE
  exact ((obeys_settleAndCommit hA _ _).bind fun _ => .pure _) _ rfl

end held

theorem writes_claimed (hA : A id .keep) (run : ReloadedRun) (now : Time) :
    Writes (runCourse A) (.read id run.localRunId) (claimCloudRunFinalization id now)
      (fun b y => y = if b then .held id run.localRunId else .read id run.localRunId)
      fun _ y => y.near id :=
  ⟨⟨_,.finalization id run.localRunId now hA,rfl⟩,_,Or.inl rfl,rfl⟩

theorem obeys_finalize (hA : A id .keep) (ctx : Option AuthContext) (cloudRun : CloudRun)
    (input : FinalizeInput) :
    Obeys (runCourse A) (near id) (finalizeClaimedCloudRunResult ctx id cloudRun input) := by
  refine (obeys_reload ctx cloudRun.taskId).bind fun first => ?_
  split
  · exact obeys_markCancelled hA first input
  · intro x _
    refine Writes.bind ((reloads_run ctx cloudRun.taskId x).mono (fun run y hy => ?_)
      fun _ y hy => hy.near id)
    subst hy
    have hE : ∀ _ : Exn, (read id run.localRunId).near id := fun _ => trivial
    refine obeys_utcNow.still (fun eventClock => ?_) hE
    refine obeys_utcNow.still (fun logClock => ?_) hE
    split
    · exact obeys_markCancelled hA run input _ trivial
    · refine obeys_utcNow.still (fun now => ?_) hE
      refine (obeys_flushPlain rfl).still (fun _ => ?_) hE
      refine Writes.bind ((writes_claimed hA run now).mono (fun b y hy => ?_) fun _ _ hy => hy)
      subst hy
      cases b with
      | false => exact obeys_lost hA ctx cloudRun.taskId input _ trivial
      | true =>
        refine (obeys_refresh _).still (fun c => ?_) fun _ => rfl
        cases hs : shouldCreatePatchArtifact input.result with
        | false => exact obeys_failed hA run c input eventClock logClock hs _ rfl
        | true => exact writes_patched hA run c input eventClock logClock

theorem obeys_execute (hA : A id .keep) (ctx : Option AuthContext) (cloudRun : CloudRun)
    (localRunId : Id) (localRun : LocalTaskRun) (replies : ProcessReplies) :
    Obeys (runCourse A) (near id)
      (executeClaimedCloudRun ctx id cloudRun localRunId localRun replies) := by
  refine Obeys.bind (obeys_catchHttp ?_ fun detail => .pure _) fun refused => ?_
  · exact (obeys_checkExecution ctx cloudRun replies).bind fun _ => .pure _
  · cases refused with
    | some detail => exact obeys_markFailed hA _ _ _ _ _ _
    | none =>
      refine obeys_catchHttp (obeys_finalize hA ctx cloudRun _) fun detail => ?_
      refine (obeys_refresh _).bind fun c => (obeys_refresh _).bind fun l => ?_
      exact obeys_markFailed hA _ _ _ _ _ _

theorem obeys_start (hA : A id .take) (ctx : Option AuthContext) (workerId : String) :
    Obeys (runCourse A) unheld (startCloudRun ctx id workerId) := by
  refine (obeys_getCloudRun ctx id).bind fun cloudRun => ?_
  refine (obeys_requirePermission resets_unheld ctx).bind fun _ => ?_
  dsimp only
  split
  · exact fun _ hx => hx
  · refine (obeys_getLocalRun cloudRun).bind fun entry => obeys_utcNow.bind fun now => ?_
    refine Obeys.bind (obeys_updateWhere fun x hx => ⟨.busy,trivial,.edit id hx (.claim workerId now) hA⟩)
      fun b => ?_
    cases b with
    | false => exact (obeys_rollback resets_unheld).bind fun _ => obeys_http _ _
    | true =>
      refine (obeys_refresh _).bind fun c => (obeys_flushPlain rfl).bind fun _ => ?_
      refine obeys_utcNow.bind fun _ => (obeys_logAt _ _ _ _ _).bind fun _ => ?_
      refine (obeys_logAt _ _ _ _ _).bind fun _ => obeys_utcNow.bind fun _ => ?_
      refine (obeys_taskEvent _ _ _).bind fun _ => (obeys_commit resets_unheld).bind fun _ => ?_
      exact (obeys_refresh _).bind fun _ => (obeys_refresh _).bind fun _ => .pure _

theorem obeys_process (htake : A id .take) (hA : A id .keep) (ctx : Option AuthContext)
    (workerId : String) (replies : ProcessReplies) {x : RunPhase} (hx : x.unheld) :
    Writes (runCourse A) x (processCloudRun ctx id workerId replies) (fun _ y => y.near id)
      fun _ y => y.near id := by
  refine (obeys_start htake ctx workerId).then hx (fun started y hy => ?_) fun _ y hy => hy.near id
  refine (obeys_execute hA ctx _ _ _ replies).then (hy.near id) (fun result y hy => ?_) fun _ _ hy => hy
  exact ((obeys_commit (resets_near id)).bind fun _ => .pure _) y hy

theorem obeys_askCancel (hA : A id .still) (ctx : Option AuthContext) (now : Time) :
    Obeys (runCourse A) unheld (requestRunningCloudRunCancelAndLog ctx id now) := by
  refine Obeys.bind (obeys_updateWhere fun x hx => ⟨.busy,trivial,.edit id hx (.askCancel now) hA⟩)
    fun b => ?_
  cases b with
  | false => exact (obeys_rollback resets_unheld).bind fun _ => obeys_getCloudRun ctx id
  | true =>
    refine (obeys_getCloudRun ctx id).bind fun c => (obeys_log _ _ _ _).bind fun _ => ?_
    exact (obeys_commit resets_unheld).bind fun _ => obeys_refresh _

theorem obeys_queuedCancel (hA : A id .still) (now : Time) :
    Obeys (runCourse A) unheld (finishQueuedCancel id now) := by
  refine (obeys_refresh _).bind fun c => (obeys_getLocalRun _).bind fun entry => ?_
  refine (obeys_flushPlain rfl).bind fun _ => ?_
  refine (obeys_editRun (.still (keeps_callbackTokenRevoked c now) rfl) hA).bind fun _ => ?_
  refine (obeys_log _ _ _ _).bind fun _ => ?_
  refine (gives_release unregulated_budget _).bind fun released hr => ?_
  refine (obeys_editRun (.still hr.keeps hr.status) hA).bind fun _ => ?_
  exact (obeys_commit resets_unheld).bind fun _ => obeys_refresh _

theorem obeys_cancel (hdrop : A id .drop) (hA : A id .still) (ctx : Option AuthContext) :
    Obeys (runCourse A) unheld (cancelCloudRun ctx id) := by
  have hask (now : Time) : Obeys (runCourse A) unheld (do
      let asked ← requestRunningCloudRunCancelAndLog ctx id now
      commit
      pure asked) :=
    (obeys_askCancel hA ctx now).bind fun _ => (obeys_commit resets_unheld).bind fun _ => .pure _
  refine (obeys_getCloudRun ctx id).bind fun cloudRun => ?_
  refine (obeys_requirePermission resets_unheld ctx).bind fun _ => ?_
  split
  · exact (obeys_commit resets_unheld).bind fun _ => .pure _
  · refine obeys_utcNow.bind fun now => ?_
    split
    · refine Obeys.bind
        (obeys_updateWhere fun x hx => ⟨.busy,trivial,.edit id hx (.cancelQueued now) hdrop⟩) fun b => ?_
      cases b with
      | true =>
        refine (obeys_queuedCancel hA now).bind fun _ => ?_
        exact (obeys_commit resets_unheld).bind fun _ => .pure _
      | false =>
        refine (obeys_rollback resets_unheld).bind fun _ => (obeys_getCloudRun ctx id).bind fun c => ?_
        split
        · exact (obeys_commit resets_unheld).bind fun _ => .pure _
        · exact obeys_utcNow.bind fun now => hask now
    · exact hask now

end endings

end AiScdc
