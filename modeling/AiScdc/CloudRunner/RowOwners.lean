import AiScdc.CloudRunner.QueueOrder
import AiScdc.CloudRunner.RunTables

namespace AiScdc
open Transaction

-- The rows that are new since the base belong to the workspace.
def Owns (workspaceId : Id) (base db : Db) : Prop :=
  ∀ k row, k.isEvidence = true → base k = none → db k = some row →
    evidenceWorkspace k row = some workspaceId

def ownerCourse (workspaceId : Id) : Course Row Unit where
  learn _ _ _ _ := False
  number _ _ _ := False
  update _ k _ s _ := k.isEvidence = true →
    ∀ o row, s o = some row → evidenceWorkspace k row = some workspaceId
  flush _ k _ _ _ := k.isEvidence = false
  commit _ _ := True
  rollback _ _ := True

structure OwnSession (workspaceId : Id) (base : Db) (_ : Unit) (p : Pending Row) (w : World) : Prop where
  done : Owns workspaceId base w.db
  view : Owns workspaceId base (p.view w.db)

section courses

variable {W : Id} {base : Db}

theorem Owns.put {p : Pending Row} {w : World} (h : Owns W base (p.view w.db)) {k : Key} {l v : Row k}
    (hv : k.isEvidence = true → ∀ row, v = some row → evidenceWorkspace k row = some W) :
    Owns W base ((p.put k l v).view w.db) := by
  intro k' row hk hb hrow
  by_cases e : k' = k
  · subst e
    rw [Pending.view_put_self] at hrow
    exact hv hk row hrow
  · rw [Pending.view_put_ne p l v w.db e] at hrow
    exact h k' row hk hb hrow

theorem Owns.write {s : Stage Row} (h : Owns W base s.current) {k : Key} {v : Row k}
    (hv : k.isEvidence = true → ∀ row, v = some row → evidenceWorkspace k row = some W) :
    Owns W base (s.write k v).current := by
  intro k' row hk hb hrow
  by_cases e : k' = k
  · subst e
    rw [Stage.write_self] at hrow
    exact hv hk row hrow
  · rw [Stage.write_ne s k v e] at hrow
    exact h k' row hk hb hrow

theorem own_stable : Stable alone (ownerCourse W) (OwnSession W base) where
  env h he := (env_alone.mp he) ▸ h
  bump h := ⟨h.done,h.view⟩
  learn h hl := hl.elim
  miss _ hy := hy.elim
  skip _ hy := hy.elim
  number h hn := hn.elim
  update h hP _ := ⟨h.done,h.view.put fun hk row hrow => hP hk _ row hrow⟩
  flush h hP _ _ := ⟨h.done,h.view.put fun hk => by cases hk.symm.trans hP⟩
  commit h _ := ⟨trivial,h.view,h.view⟩
  rollback h _ := ⟨h.done,h.done⟩

-- What a program that keeps to the course has committed by its end.
theorem serial_owns {α : Type} {m : Op α} (hm : Obeys (ownerCourse W) (fun _ => True) m) {s : Stage Row}
    (hdone : Owns W base s.committed) (hview : Owns W base s.current) :
    Serial m (fun _ s' => Owns W base s'.committed) (fun _ s' => Owns W base s'.committed) s := by
  intro p w hs
  subst hs
  exact wp_mono m (fun _ _ _ ⟨_,_,h⟩ => h.done) (fun _ _ _ ⟨_,_,h⟩ => h.done)
    (wp_writes own_stable m (hm () trivial) ⟨hdone,hview⟩)

abbrev Belongs (W : Id) {α : Type} (m : Op α) : Prop := Obeys (ownerCourse W) (fun _ => True) m

theorem belongs_insert {k : Key} {row : k.Entity}
    (h : k.isEvidence = true → evidenceWorkspace k row = some W) : Belongs W (insert k row) :=
  obeys_insert fun x _ => ⟨x,trivial,fun hk _ row' he => by cases he; exact h hk⟩

theorem belongs_flush {k : Key} {l n : k.Entity} (h : k.isEvidence = false) : Belongs W (flush k l n) :=
  obeys_flush fun x _ => ⟨x,trivial,h⟩

theorem belongs_updateWhere {k : Key} {guard : k.Entity → Bool} {values : k.Entity → k.Entity}
    (h : k.isEvidence = false) : Belongs W (updateWhere k guard values) :=
  obeys_updateWhere fun x _ => ⟨x,trivial,fun hk => by cases hk.symm.trans h⟩

theorem belongs_commit : Belongs W commit := obeys_commit ⟨fun x _ => ⟨x,trivial,trivial⟩,
  fun x _ => ⟨x,trivial,trivial⟩⟩

theorem belongs_event (taskId : Id) (payload : TaskEventPayload) (createdAt : Time) :
    Belongs W (createTaskEvent taskId payload createdAt) :=
  obeys_freshId.bind fun _ => belongs_insert fun hk => by cases hk

theorem belongs_log (id : Id) (level : String) (event : LogEvent) (t : Time) :
    Belongs W (appendCloudRunLogAt id W level event t) :=
  obeys_freshId.bind fun _ => belongs_insert fun _ => rfl

theorem belongs_usage (id : Id) {c : CloudRun} (hc : c.workspaceId = W) (m : UsageMeasurement) :
    Belongs W (appendCloudRunUsage id c m) := by
  refine (obeys_get _).bind fun row => ?_
  cases row with
  | some entry => exact .pure ()
  | none =>
    refine obeys_utcNow.bind fun t => Obeys.tryCatch (belongs_insert fun _ => congrArg some hc) fun e => ?_
    split
    · exact .pure ()
    · exact .raise _

theorem belongs_allUsage (id : Id) {c : CloudRun} (hc : c.workspaceId = W)
    (usage : List UsageMeasurement) : Belongs W (appendAllUsage id c usage) := by
  induction usage with
  | nil => exact .pure ()
  | cons m ms ih => exact (belongs_usage id hc m).bind fun _ => ih

theorem belongs_wallet (workspaceId : Id) : Belongs W (getOrCreateWalletForScope workspaceId) := by
  refine (obeys_get _).bind fun wallet => ?_
  cases wallet with
  | some wallet => exact .pure wallet
  | none => exact obeys_utcNow.bind fun t => (belongs_insert fun hk => by cases hk).bind fun _ => .pure _

theorem belongs_settle (id : Id) {c : CloudRun} (hc : c.workspaceId = W) :
    Belongs W (settleCloudRunBudget id c) := by
  refine (obeys_activeReservation c).bind fun active => ?_
  cases active with
  | none => exact .pure _
  | some entry =>
    refine (obeys_measurements _ _).bind fun usage => obeys_utcNow.bind fun now => ?_
    refine Obeys.bind (belongs_updateWhere rfl) fun b => ?_
    cases b with
    | false => exact .pure _
    | true =>
      refine (belongs_allUsage id hc usage).bind fun _ => Obeys.bind ?_ fun _ => .pure _
      refine (belongs_wallet _).bind fun wallet => obeys_utcNow.bind fun t => belongs_flush rfl

theorem belongs_settleAndCommit (id : Id) {c : CloudRun} (hc : c.workspaceId = W) (d : MnsDelete) :
    Belongs W (settleAndCommit id c d) := by
  refine (belongs_settle id hc).bind fun settled => (belongs_flush rfl).bind fun _ => ?_
  refine belongs_commit.bind fun _ => (obeys_refresh _).bind fun c => ?_
  unfold ackMnsQueueReceiptAfterTerminalCommit
  split
  · exact .pure c
  · cases d with
    | misconfigured name => exact .raise _
    | deleted =>
      refine obeys_utcNow.bind fun t => (belongs_flush rfl).bind fun _ => ?_
      exact belongs_commit.bind fun _ => obeys_refresh _
    | failed =>
      refine obeys_utcNow.bind fun t => (belongs_flush rfl).bind fun _ => ?_
      exact belongs_commit.bind fun _ => obeys_refresh _

theorem belongs_testRun {workspaceId taskId : Id} {t : Task} {localRunId : Id} {a : Option Id}
    {input : FinalizeInput} (h : workspaceId = W ∨ input.result.testCommandResults = []) :
    Belongs W (insertLocalTestRun workspaceId taskId t localRunId a input) := by
  unfold insertLocalTestRun
  split
  · exact .pure ()
  · rename_i hne
    have hW : workspaceId = W := h.resolve_right hne
    refine obeys_freshId.bind fun _ => obeys_utcNow.bind fun _ => obeys_utcNow.bind fun _ => ?_
    exact belongs_insert fun _ => congrArg some hW

theorem belongs_cancelled (id : Id) {run : ReloadedRun} (hc : run.cloudRun.workspaceId = W)
    (input : FinalizeInput) : Belongs W (markClaimedCloudRunCancelled id run input) := by
  subst hc
  refine obeys_utcNow.bind fun _ => obeys_utcNow.bind fun t => (belongs_flush rfl).bind fun _ => ?_
  refine (belongs_flush rfl).bind fun _ => (belongs_log _ _ _ _).bind fun _ => ?_
  refine (belongs_log _ _ _ _).bind fun _ => Obeys.bind ?_ fun _ => .pure _
  exact belongs_settleAndCommit id (by rfl) _

theorem belongs_along (taskId : Id) (task : Task) (t : Time) (path : List TaskStatus) :
    Belongs W (transitionTaskAlong taskId task t path) := by
  induction path generalizing task t with
  | nil => exact .pure ()
  | cons requested rest ih =>
    refine Obeys.bind ?_ fun moved => ih moved _
    unfold transitionTaskForCloudRunner
    split
    · exact obeys_http _ _
    · exact obeys_utcNow.bind fun _ => (belongs_flush rfl).bind fun _ =>
        (belongs_event _ _ _).bind fun _ => .pure _

theorem belongs_patched (id : Id) (run : ReloadedRun) {c : CloudRun} (hc : c.workspaceId = W)
    (input : FinalizeInput) (t t' : Time) : Belongs W (finalizePatched id run c input t t') := by
  subst hc
  refine obeys_freshId.bind fun a => obeys_utcNow.bind fun _ => (belongs_insert fun _ => rfl).bind fun _ => ?_
  refine (belongs_testRun (Or.inl rfl)).bind fun _ => obeys_utcNow.bind fun _ => ?_
  refine (belongs_flush rfl).bind fun _ => obeys_utcNow.bind fun _ => (belongs_flush rfl).bind fun _ => ?_
  refine Obeys.bind ?_ fun eventTime => Obeys.bind ?_ fun _ => ?_
  · refine (belongs_event _ _ _).bind fun _ => ?_
    split
    · exact (belongs_event _ _ _).bind fun _ => .pure _
    · exact .pure _
  · unfold patchLog
    split <;> exact belongs_log _ _ _ _
  · refine (belongs_log _ _ _ _).bind fun _ => (belongs_flush rfl).bind fun _ => ?_
    refine (belongs_along _ _ _ _).bind fun _ => Obeys.bind ?_ fun _ => .pure _
    exact belongs_settleAndCommit id (by rfl) _

theorem belongs_failed (id : Id) (run : ReloadedRun) {c : CloudRun} (hc : c.workspaceId = W)
    (input : FinalizeInput) (t t' : Time)
    (h : c.workspaceId = devWorkspaceId ∨ input.result.testCommandResults = []) :
    Belongs W (finalizeFailed id run c input t t') := by
  subst hc
  refine (belongs_testRun (h.imp_left Eq.symm)).bind fun _ => obeys_utcNow.bind fun _ => ?_
  refine (belongs_flush rfl).bind fun _ => obeys_utcNow.bind fun _ => (belongs_flush rfl).bind fun _ => ?_
  refine (belongs_event _ _ _).bind fun _ => (belongs_log _ _ _ _).bind fun _ => ?_
  refine (belongs_log _ _ _ _).bind fun _ => Obeys.bind ?_ fun _ => .pure _
  exact belongs_settleAndCommit id (by rfl) _

end courses

section reload

variable {s : Stage Row} {ctx : Option AuthContext} {taskId id : Id} {c : CloudRun}

def taskOpen (db : Db) (ctx : Option AuthContext) (taskId : Id) : Prop :=
  ∃ task p, db (.task taskId) = some task ∧ db (.project task.projectId) = some p ∧
    Allowed ctx p.workspaceId

-- The rows that a finalisation reloads are there and its caller may read them.
structure Reloadable (db : Db) (ctx : Option AuthContext) (taskId : Id) (c : CloudRun) : Prop where
  run : Allowed ctx c.workspaceId
  task : taskOpen db ctx taskId
  repository : repositoryOpen db ctx c.repoId
  localRun : hasLocalRun db c

theorem serial_openTask {Q : Task → Stage Row → Prop} {E : Exn → Stage Row → Prop}
    (hQ : ∀ task, taskOpen s.current ctx taskId → Q task s)
    (hE : ¬ taskOpen s.current ctx taskId → ∀ e, E e s) : Serial (getTask ctx taskId) Q E s := by
  refine serial_bind (serial_getOr404 (fun task ht => ?_) fun hnone => hE ?_ _)
  · refine serial_bind (serial_bind (serial_getOr404 (fun p hp => ?_) fun hnone => hE ?_ _))
    · refine serial_bind (serial_enforce (fun ha => serial_pure (serial_pure
        (hQ task ⟨task,p,ht,hp,ha⟩))) fun hno => hE ?_ _)
      rintro ⟨task',p',ht',hp',ha⟩
      cases ht.symm.trans ht'
      cases hp.symm.trans hp'
      exact hno ha
    · rintro ⟨task',p',ht',hp',_⟩
      cases ht.symm.trans ht'
      cases hnone.symm.trans hp'
  · rintro ⟨task',_,ht',_⟩
    cases hnone.symm.trans ht'

theorem serial_openLocal {Q : Id × LocalTaskRun → Stage Row → Prop} {E : Exn → Stage Row → Prop}
    (hQ : ∀ localRunId l, c.localRunId = some localRunId → s.current (.localTaskRun localRunId) = some l →
      Q (localRunId,l) s)
    (hE : ¬ hasLocalRun s.current c → ∀ e, E e s) : Serial (getCloudRunLocalRunOr404 c) Q E s := by
  unfold getCloudRunLocalRunOr404
  cases hid : c.localRunId with
  | none =>
    refine serial_http (hE ?_ _)
    rintro ⟨_,_,hid',_⟩
    cases hid.symm.trans hid'
  | some localRunId =>
    refine serial_bind (serial_getOr404 (fun l hl => serial_pure (hQ localRunId l hid hl)) fun hnone => hE ?_ _)
    rintro ⟨_,_,hid',hl⟩
    cases hid.symm.trans hid'
    cases hnone.symm.trans hl

-- What a reload hands to the finalisation.
structure ReloadedAs (db : Db) (taskId : Id) (c : CloudRun) (run : ReloadedRun) : Prop where
  cloudRun : run.cloudRun = c
  taskId : run.taskId = taskId
  localRunId : c.localRunId = some run.localRunId
  localRun : db (.localTaskRun run.localRunId) = some run.localRun

theorem serial_reload (hc : s.committed (.cloudRun id) = some c) {Q : ReloadedRun → Stage Row → Prop}
    {E : Exn → Stage Row → Prop}
    (hQ : ∀ run, Reloadable s.committed ctx taskId c → ReloadedAs s.committed taskId c run → Q run s.rollback)
    (hE : ¬ Reloadable s.committed ctx taskId c → ∀ e, E e s.rollback) :
    Serial (reloadClaimedCloudRun ctx id taskId) Q E s := by
  refine serial_bind (serial_rollbackNow (serial_bind (serial_bind (serial_getOr404 (fun c' hc' => ?_)
    fun hnone => (by cases hc.symm.trans hnone)))))
  obtain rfl : c = c' := Option.some.inj (hc.symm.trans hc')
  refine serial_bind (serial_enforce (fun ha => serial_pure ?_) fun hno => hE (fun h => hno h.run) _)
  refine serial_bind (serial_openTask (fun task ht => ?_) fun hno => hE fun h => hno h.task)
  refine serial_bind (serial_openRepository (fun repository hr => ?_) fun hno => hE fun h => hno h.repository)
  refine serial_bind (serial_openLocal (fun localRunId l hid hl => serial_pure ?_) fun hno =>
    hE fun h => hno h.localRun)
  exact hQ _ ⟨ha,ht,hr,localRunId,l,hid,hl⟩ ⟨rfl,rfl,hid,hl⟩

end reload

section finalisations

variable {w : World} {ctx : Option AuthContext} {id : Id} {c cloudRun : CloudRun} {input : FinalizeInput}

-- The call records the test run of a failed execution for a run of another workspace than the default.
structure Misplaces (w : World) (ctx : Option AuthContext) (cloudRun c : CloudRun)
    (input : FinalizeInput) : Prop where
  reloadable : Reloadable w.db ctx cloudRun.taskId c
  wanted : c.cancelRequested = false
  running : c.status = .running
  uncompleted : c.completedAt = none
  failed : shouldCreatePatchArtifact input.result = false
  tested : input.result.testCommandResults ≠ []
  workspace : c.workspaceId ≠ devWorkspaceId

theorem owns_self (W : Id) (db : Db) : Owns W db db := fun k row _ hb hrow => by
  cases hb.symm.trans hrow

theorem serial_lost {s : Stage Row} (hs : s.committed = w.db) (hc : w.db (.cloudRun id) = some c)
    (hcancel : c.cancelRequested = false) :
    Serial (finalizationLost ctx id cloudRun.taskId input)
      (fun _ s' => Owns c.workspaceId w.db s'.committed) (fun _ s' => Owns c.workspaceId w.db s'.committed)
      s := by
  have hdone : Owns c.workspaceId w.db s.rollback.committed := by
    rw [Stage.rollback_committed,hs]
    exact owns_self _ _
  refine serial_bind (serial_rollbackNow (serial_bind (serial_reload (c := c) (by rw [← hc,← hs]; rfl)
    (fun run _ hrun => ?_) fun _ _ => hdone)))
  rw [hrun.cloudRun,hcancel]
  refine serial_bind (serial_flushRow hrun.localRun ?_)
  rw [hrun.cloudRun]
  cases c.patchArtifactId with
  | none => exact serial_pure hdone
  | some a => exact serial_bind (serial_get (serial_pure hdone))

theorem serial_ownRows (hc : w.db (.cloudRun id) = some c) (h : ¬ Misplaces w ctx cloudRun c input)
    {s : Stage Row} (hs : s.committed = w.db) :
    Serial (finalizeClaimedCloudRunResult ctx id cloudRun input)
      (fun _ s' => Owns c.workspaceId w.db s'.committed) (fun _ s' => Owns c.workspaceId w.db s'.committed)
      s := by
  have hrow : s.committed (.cloudRun id) = some c := by rw [hs,hc]
  have hself : Owns c.workspaceId w.db s.committed := by
    rw [hs]
    exact owns_self _ _
  refine serial_bind (serial_reload hrow (fun run _ hrun => ?_) fun _ _ => hself)
  split
  · exact serial_owns (belongs_cancelled id (by rw [hrun.cloudRun]) input) hself hself
  · refine serial_bind (serial_reload (s := s.rollback) hrow (fun run hopen hrun => ?_) fun _ _ => hself)
    refine serial_bind (serial_now fun t => serial_bind (serial_now fun t' => ?_))
    split
    · exact serial_owns (belongs_cancelled id (by rw [hrun.cloudRun]) input) hself hself
    · rename_i hcancel
      rw [hrun.cloudRun,Bool.not_eq_true] at hcancel
      refine serial_bind (serial_now fun now => serial_bind (serial_flushRow hrun.localRun ?_))
      let s₁ := s.rollback.rollback.write (.localTaskRun run.localRunId) (some (run.localRun.executed input.result))
      have hrow₁ : s₁.current (.cloudRun id) = some c := (Stage.write_ne _ _ _ (by simp)).trans hrow
      have hview₁ : Owns c.workspaceId w.db s₁.current := by
        refine hself.write fun hk => ?_
        cases hk
      refine serial_bind (serial_updateWhere hrow₁ (fun hg => ?_) fun _ => ?_)
      · have hrow₂ : (s₁.write (.cloudRun id) (some (c.touched now))).current (.cloudRun id) =
            some (c.touched now) := Stage.write_self _ _ _
        have hview₂ := hview₁.write (k := .cloudRun id) (v := some (c.touched now)) fun hk => by cases hk
        rw [if_pos rfl]
        refine serial_bind (serial_bind (serial_get ?_))
        rw [hrow₂]
        refine serial_pure ?_
        split
        · exact serial_owns (belongs_patched id run (by rfl) input t t') hself hview₂
        · rename_i hfailed
          refine serial_owns (belongs_failed id run (by rfl) input t t' ?_) hself hview₂
          by_contra hno
          simp only [not_or] at hno
          simp only [Bool.and_eq_true,decide_eq_true_eq,Option.isNone_iff_eq_none] at hg
          exact h ⟨hs ▸ hopen,hcancel,hg.1.1,hg.1.2,by simpa using hfailed,hno.2,hno.1⟩
      · exact serial_lost hs hc hcancel

-- A row with a fresh number leaves the rows that exist as they are.
theorem Free.insertFresh {s : Stage Row} (h : Free s) {key : Id → Key} (hk : ∀ n, (key n).number = some n)
    {row : ∀ n, (key n).Entity} {Q : Unit → Stage Row → Prop} {E : Exn → Stage Row → Prop}
    (hQ : ∀ s', Free s' → (∀ k r, s.current k = some r → s'.current k = some r) →
      s'.current (key s.next) = some (row s.next) → Q () s') :
    Serial (do
      let n ← freshId
      insert (key n) (row n)) Q E s := by
  have hnone : s.bump.current (key s.next) = none := (h.unused _ s.next (hk s.next) (Nat.le_refl _)).1
  refine serial_bind (serial_fresh (serial_insert hnone (hQ _ ?_ (fun k r hr => ?_) (Stage.write_self _ _ _))))
  · refine h.bump.write fun n hn => ?_
    cases (hk s.next).symm.trans hn
    exact Nat.lt_succ_self _
  · refine (Stage.write_ne _ _ _ ?_).trans hr
    rintro rfl
    cases hnone.symm.trans hr

theorem serial_settleKeeps {s : Stage Row} {Q : CloudRun → Stage Row → Prop} {E : Exn → Stage Row → Prop}
    (hQ : ∀ settled s', (∀ k : Key, k.isBudget = false → s'.current k = s.current k) → Q settled s') :
    Serial (settleCloudRunBudget id c) Q E s := by
  intro p w' hs
  subst hs
  refine settle_rule (fun _ => hQ _ _ fun _ _ => rfl) fun ρ r usage now p' _ _ hf _ _ => hQ _ _ fun k hk => ?_
  refine hf.touched.same k ?_
  rintro (rfl | rfl | ⟨_,_,rfl⟩) <;> cases hk

-- The test run is committed, whatever becomes of the acknowledgement.
theorem serial_settled {s : Stage Row} {n : Id} {row : LocalTestRun} (hc : s.current (.cloudRun id) = some c)
    (hrow : s.current (.localTestRun n) = some row) (d : MnsDelete) :
    Serial (settleAndCommit id c d) (fun _ s' => s'.committed (.localTestRun n) = some row)
      (fun _ s' => s'.committed (.localTestRun n) = some row) s := by
  refine serial_bind (serial_settleKeeps fun settled s₁ h₁ => ?_)
  refine serial_bind (serial_flushRow ((h₁ _ rfl).trans hc) (serial_bind (serial_commitNow ?_)))
  let s₂ := (s₁.write (.cloudRun id) (some settled)).commit
  have hrow₂ : s₂.current (.localTestRun n) = some row :=
    (Stage.write_ne s₁ (.cloudRun id) (some settled) (by simp)).trans ((h₁ _ rfl).trans hrow)
  have hc₂ : s₂.current (.cloudRun id) = some settled := Stage.write_self _ _ _
  refine serial_bind (serial_bind (serial_get ?_))
  rw [hc₂]
  refine serial_pure ?_
  have hrecord (settled' : CloudRun) : Serial (do
      flush (.cloudRun id) settled settled'
      commit
      refresh (.cloudRun id) : Op CloudRun) (fun _ s' => s'.committed (.localTestRun n) = some row)
      (fun _ s' => s'.committed (.localTestRun n) = some row) s₂ := by
    have hrow₃ : (s₂.write (.cloudRun id) (some settled')).commit.committed (.localTestRun n) = some row :=
      (Stage.write_ne s₂ (.cloudRun id) (some settled') (by simp)).trans hrow₂
    refine serial_bind (serial_flushRow hc₂ (serial_bind (serial_commitNow (serial_bind (serial_get ?_)))))
    rw [Stage.commit_current,Stage.write_self]
    exact serial_pure hrow₃
  unfold ackMnsQueueReceiptAfterTerminalCommit
  split
  · exact serial_pure hrow₂
  · cases d with
    | misconfigured name => exact serial_throw hrow₂
    | deleted => exact serial_bind (serial_now fun t => hrecord _)
    | failed => exact serial_bind (serial_now fun t => hrecord _)

theorem Free.misplaced {s : Stage Row} (h : Free s) {run : ReloadedRun}
    (hc : s.current (.cloudRun id) = some c)
    (hl : s.current (.localTaskRun run.localRunId) = some (run.localRun.executed input.result))
    (htested : input.result.testCommandResults ≠ []) (t t' : Time) :
    Serial (finalizeFailed id run c input t t')
      (fun _ s' => ∃ row, s'.committed (.localTestRun s.next) = some row ∧ row.workspaceId = devWorkspaceId)
      (fun _ s' => ∃ row, s'.committed (.localTestRun s.next) = some row ∧ row.workspaceId = devWorkspaceId)
      s := by
  have htest : Serial (insertLocalTestRun devWorkspaceId run.taskId run.task run.localRunId none input)
      (fun _ s' => Free s' ∧ (∃ row, s'.current (.localTestRun s.next) = some row ∧
        row.workspaceId = devWorkspaceId) ∧ s'.current (.cloudRun id) = some c ∧
        s'.current (.localTaskRun run.localRunId) = some (run.localRun.executed input.result))
      (fun _ s' => ∃ row, s'.committed (.localTestRun s.next) = some row ∧
        row.workspaceId = devWorkspaceId) s := by
    unfold insertLocalTestRun
    rw [if_neg htested]
    refine serial_bind (serial_fresh (serial_bind (serial_now fun t => serial_bind (serial_now fun t' => ?_))))
    have hnone : s.bump.current (.localTestRun s.next) = none := (h.unused _ s.next rfl (Nat.le_refl _)).1
    refine serial_insert hnone ⟨h.bump.write fun n hn => ?_,⟨_,Stage.write_self _ _ _,rfl⟩,
      (Stage.write_ne _ _ _ (by simp)).trans hc,(Stage.write_ne _ _ _ (by simp)).trans hl⟩
    cases hn
    exact Nat.lt_succ_self _
  refine serial_bind (serial_mono htest (fun _ s₁ h₁ => ?_) fun _ _ he => he)
  obtain ⟨hf₁,⟨row,hrow₁,hdev⟩,hc₁,hl₁⟩ := h₁
  refine serial_bind (serial_now fun t => serial_bind (serial_flushRow hl₁ (serial_bind (serial_now fun t' => ?_))))
  have hf₂ := hf₁.write (k := .localTaskRun run.localRunId)
    (v := some ((run.localRun.executed input.result).resultRecorded input.result.status none
      input.result.failureReason t)) fun n hn => hf₁.lt hn hl₁
  have hc₂ : (s₁.write (.localTaskRun run.localRunId) (some ((run.localRun.executed input.result).resultRecorded
      input.result.status none input.result.failureReason t))).current (.cloudRun id) = some c :=
    (Stage.write_ne _ _ _ (by simp)).trans hc₁
  refine serial_bind (serial_flushRow hc₂ ?_)
  have hf₃ := hf₂.write (k := .cloudRun id) (v := some (c.resultRecorded input.result.status none
    input.allPayloads input.result.failureReason t')) fun n hn => hf₂.lt hn hc₂
  refine serial_bind (hf₃.insertFresh (fun _ => rfl) fun s₄ hf₄ h₄ _ => serial_bind ?_)
  refine hf₄.insertFresh (fun _ => rfl) fun s₅ hf₅ h₅ _ => serial_bind ?_
  refine hf₅.insertFresh (fun _ => rfl) fun s₆ hf₆ h₆ _ => serial_bind ?_
  have hc₆ : s₆.current (.cloudRun id) = some (c.resultRecorded input.result.status none
      input.allPayloads input.result.failureReason t') :=
    h₆ _ _ (h₅ _ _ (h₄ _ _ (Stage.write_self _ _ _)))
  have hrow₆ : s₆.current (.localTestRun s.next) = some row := by
    refine h₆ _ _ (h₅ _ _ (h₄ _ _ ?_))
    rw [Stage.write_ne _ _ _ (by simp),Stage.write_ne _ _ _ (by simp)]
    exact hrow₁
  exact serial_mono (serial_settled hc₆ hrow₆ input.mnsDelete)
    (fun _ _ hd => serial_pure ⟨row,hd,hdev⟩) fun _ _ hd => ⟨row,hd,hdev⟩

theorem serial_misplaced (hc : w.db (.cloudRun id) = some c) (h : Misplaces w ctx cloudRun c input)
    {s : Stage Row} (hs : s.committed = w.db) (hfree : Free s) :
    Serial (finalizeClaimedCloudRunResult ctx id cloudRun input)
      (fun _ s' => ∃ row, s'.committed (.localTestRun s.next) = some row ∧ row.workspaceId = devWorkspaceId)
      (fun _ s' => ∃ row, s'.committed (.localTestRun s.next) = some row ∧ row.workspaceId = devWorkspaceId)
      s := by
  have hrow : s.committed (.cloudRun id) = some c := by rw [hs,hc]
  have hopen : Reloadable s.committed ctx cloudRun.taskId c := hs ▸ h.reloadable
  refine serial_bind (serial_reload hrow (fun run _ hrun => ?_) fun hno => (hno hopen).elim)
  rw [hrun.cloudRun,h.wanted]
  refine serial_bind (serial_reload (s := s.rollback) hrow (fun run _ hrun => ?_) fun hno => (hno hopen).elim)
  refine serial_bind (serial_now fun t => serial_bind (serial_now fun t' => ?_))
  rw [hrun.cloudRun,h.wanted]
  refine serial_bind (serial_now fun now => serial_bind (serial_flushRow hrun.localRun ?_))
  let s₁ := s.rollback.rollback.write (.localTaskRun run.localRunId) (some (run.localRun.executed input.result))
  have hrow₁ : s₁.current (.cloudRun id) = some c := (Stage.write_ne _ _ _ (by simp)).trans hrow
  have hf₁ : Free s₁ := hfree.rollback.rollback.write fun n hn => hfree.rollback.rollback.lt hn hrun.localRun
  refine serial_bind (serial_updateWhere hrow₁ (fun _ => ?_) fun hno => ?_)
  · have hrow₂ : (s₁.write (.cloudRun id) (some (c.touched now))).current (.cloudRun id) =
        some (c.touched now) := Stage.write_self _ _ _
    have hlocal₂ : (s₁.write (.cloudRun id) (some (c.touched now))).current
        (.localTaskRun run.localRunId) = some (run.localRun.executed input.result) :=
      (Stage.write_ne _ _ _ (by simp)).trans (Stage.write_self _ _ _)
    have hf₂ := hf₁.write (k := .cloudRun id) (v := some (c.touched now)) fun n hn => hf₁.lt hn hrow₁
    rw [if_pos rfl]
    refine serial_bind (serial_bind (serial_get ?_))
    rw [hrow₂]
    refine serial_pure ?_
    rw [h.failed]
    exact hf₂.misplaced hrow₂ hlocal₂ h.tested t t'
  · simp [h.running,h.uncompleted,h.wanted] at hno

theorem perform_world {α : Type} {m : Op α} {R : Db → Prop} (clock : ℕ → Time)
    (h : Serial m (fun _ s' => R s'.committed) (fun _ s' => R s'.committed) (Stage.start w)) :
    R (perform clock m w).2.db := by
  have hx := perform_serial clock (Q := fun _ w' => R w'.db) (E := fun _ w' => R w'.db) h
  revert hx
  generalize perform clock m w = out
  obtain ⟨out,w'⟩ := out
  cases out <;> exact fun hx => hx

theorem finalised_rows_in_workspace (hw : Free (Stage.start w)) (clock : ℕ → Time)
    (ctx : Option AuthContext) (cloudRun : CloudRun) (input : FinalizeInput)
    (hc : w.db (.cloudRun id) = some c) :
    Owns c.workspaceId w.db
        (perform clock (finalizeClaimedCloudRunResult ctx id cloudRun input) w).2.db ↔
      ¬ Misplaces w ctx cloudRun c input := by
  constructor
  · intro howns h
    obtain ⟨row,hrow,hdev⟩ := perform_world (R := fun db => ∃ row, db (.localTestRun w.next) = some row ∧
      row.workspaceId = devWorkspaceId) clock (serial_misplaced hc h rfl hw)
    have hnew : w.db (.localTestRun w.next) = none := (hw.unused _ w.next rfl (Nat.le_refl _)).1
    have hsame := howns (.localTestRun w.next) row rfl hnew hrow
    exact h.workspace (hdev ▸ (Option.some.inj hsame).symm)
  · exact fun h => perform_world clock (serial_ownRows hc h rfl)

end finalisations

section histories

variable [Digest] {C : World → (ℕ → Time) → CloudRunnerOp → Prop} {hist : List Event} {w w' : World}
  {k : Key} {row : k.Entity}

omit [Digest] in
theorem Backed.between (h : Backed w.db k row) (hb : Between w w') : Backed w'.db k row := by
  obtain ⟨id,c,hc,hback⟩ := h
  exact ⟨id,c,(hb.run id).trans hc,hback⟩

-- No operation changes the evidence of an earlier one.
theorem History.evidence_kept (h : History C hist w) {e : Event} (he : e ∈ hist) (hk : k.isEvidence)
    (hrow : e.before k = some row) : e.after k = some row := by
  induction h with
  | start _ => cases he
  | op clock o hpast _ ih =>
    rcases List.mem_append.mp he with hold | hnew
    · exact ih hold
    · obtain rfl := List.mem_singleton.mp hnew
      exact (operation_leads hpast.sound clock o).placed.kept k row hk hrow
  | between _ _ ih => exact ih he

theorem History.evidence_backed (h : History C hist w) {e : Event} (he : e ∈ hist) (hk : k.isEvidence)
    (hnone : e.before k = none) (hrow : e.after k = some row) : Backed w.db k row := by
  induction h with
  | start _ => cases he
  | op clock o hpast _ ih =>
    have hlead := operation_leads hpast.sound clock o
    rcases List.mem_append.mp he with hold | hnew
    · exact (ih hold).keeps hlead.keeps
    · obtain rfl := List.mem_singleton.mp hnew
      exact hlead.placed.new k row hk hnone hrow
  | between _ hb ih => exact (ih he).between hb

omit [Digest] in
theorem Linked.named_once {db : Db} (h : Linked db) {id id' : Id} {c c' : CloudRun}
    (hc : db (.cloudRun id) = some c) (hc' : db (.cloudRun id') = some c') (hn : Names id c k row)
    (hn' : Names id' c' k row) : c = c' := by
  have hid : id = id' := by
    cases k <;> first
      | exact hn.symm.trans hn'
      | exact h.localRuns _ _ _ _ hc hc' (hn.trans hn'.symm)
      | exact hn.elim
  subst hid
  exact Option.some.inj (hc.symm.trans hc')

-- A workspace sees the rows of its own runs and no row of another workspace's run, except that the
-- default workspace sees the test runs of every workspace's failed executions.
theorem History.evidence_in_workspace (h : History C hist w) {e : Event} (he : e ∈ hist)
    (hk : k.isEvidence) (hnone : e.before k = none) (hrow : e.after k = some row) {id : Id} {c : CloudRun}
    (hc : w.db (.cloudRun id) = some c) (hn : Names id c k row) :
    evidenceWorkspace k row = some (recordedWorkspace c k row) := by
  obtain ⟨id',c',hc',hback⟩ := h.evidence_backed he hk hnone hrow
  obtain rfl := h.sound.linked.named_once hc hc' hn hback.names
  exact hback.workspace

end histories

def sampleInput (testCommandResults : List CommandResult) : FinalizeInput :=
  ⟨{ status := .failed, runnerKind := "docker", testResult := "failed", testCommandResults,
      failureReason := some "test_failed" },[],.deleted⟩

theorem finalised_rows_in_workspace_untested :
    ∃ c, (samplePlay (sampleLeased 4)).2.db (.cloudRun 7) = some c ∧
      Owns c.workspaceId (samplePlay (sampleLeased 4)).2.db (perform (fun _ => 2)
        (finalizeClaimedCloudRunResult sampleOwner 7 c (sampleInput [])) (samplePlay (sampleLeased 4)).2).2.db := by
  let _ := plainDigest
  have hfree : Free (Stage.start (samplePlay (sampleLeased 4)).2) :=
    (sample_history (follows_any sampleWorld (sampleLeased 4))).sound.ready.free
  have hrun : ((samplePlay (sampleLeased 4)).2.db (.cloudRun 7)).isSome := by decide +kernel
  generalize (samplePlay (sampleLeased 4)).2 = w at hfree hrun ⊢
  obtain ⟨c,hc⟩ := Option.isSome_iff_exists.mp hrun
  exact ⟨c,hc,(finalised_rows_in_workspace hfree _ sampleOwner c (sampleInput []) hc).mpr
    fun h => h.tested rfl⟩

-- The worker of a run of workspace 1 reports a failed test, whose row lands in the default workspace.
def failedBody : CloudRunExecutionResultCreate where
  status := .failed
  runnerKind := "docker"
  testsRun := ["pytest"]
  testResult := "failed"
  testCommandResults := [⟨"pytest",some 1,"","",0,false⟩]
  failureReason := some "test_failed"

def failedPlay : List ((ℕ → Time) × CloudRunnerOp) :=
  sampleLeased 4 ++ [(fun _ => 2,.complete sampleOwner ⟨10,"worker",none,false⟩ failedBody
    sampleCompletionReplies)]

theorem failed_test_run_misplaced :
    ∃ testRunId testRun c, (samplePlay failedPlay).2.db (.localTestRun testRunId) = some testRun ∧
      (samplePlay failedPlay).2.db (.cloudRun 7) = some c ∧ c.localRunId = some testRun.localRunId ∧
      testRun.workspaceId ≠ c.workspaceId := by
  have hrun : ((samplePlay failedPlay).2.db (.cloudRun 7)).map (fun c => (c.workspaceId,c.localRunId)) =
      some (1,some 8) := by decide +kernel
  have htest : ((samplePlay failedPlay).2.db (.localTestRun 13)).map (fun r => (r.workspaceId,r.localRunId)) =
      some (0,8) := by decide +kernel
  generalize (samplePlay failedPlay).2 = w at hrun htest ⊢
  obtain ⟨c,hc,hfields⟩ := Option.map_eq_some_iff.mp hrun
  obtain ⟨testRun,ht,htested⟩ := Option.map_eq_some_iff.mp htest
  obtain ⟨hws,hlocal⟩ := Prod.mk.inj hfields
  obtain ⟨hdev,hid⟩ := Prod.mk.inj htested
  refine ⟨13,testRun,c,ht,hc,hid.symm ▸ hlocal,?_⟩
  rw [hws,hdev]
  decide

end AiScdc
