import AiScdc.Workflow.Course

namespace AiScdc
open Transaction

section reading

variable {b : Bool} {x : Knowledge}

theorem writes_getTask (hx : Settled b x) (ctx : Option AuthContext) (taskId : Id) :
    Writes workCourse x (getTask ctx taskId) (fun task y => y = { x with task := some (taskId,task) })
      fun _ y => Settled b y := by
  refine Writes.bind (writes_getOr404 (fun db n task hdb => ?_) hx)
  refine ⟨{ x with task := some (taskId,task) },Or.inr (.task taskId task hdb hx.owed hx.approving),?_⟩
  exact (obeys_getProject ctx _).still (fun _ => rfl) fun _ => ⟨hx.owed,hx.approving,hx.reviewed⟩

theorem holds_getTask (hx : Settled b x) (ctx : Option AuthContext) (taskId : Id) :
    Writes workCourse x (getTask ctx taskId) (fun task y => Holds b taskId task y)
      fun _ y => Settled b y := by
  refine (writes_getTask hx ctx taskId).mono (fun task y hy => ?_) fun _ _ hy => hy
  subst hy
  exact ⟨⟨hx.owed,hx.approving,hx.reviewed⟩,rfl⟩

theorem writes_getArtifact (hx : Settled b x) (ctx : Option AuthContext) (artifactId : Id) :
    Writes workCourse x (getPatchArtifactEntity ctx artifactId)
      (fun artifact y => y = { x with artifact := some (artifactId,artifact) })
      fun _ y => Settled b y := by
  refine Writes.bind (writes_getOr404 (fun db n artifact hdb => ?_) hx)
  refine ⟨{ x with artifact := some (artifactId,artifact) },Or.inr (.artifact artifactId artifact hdb),?_⟩
  refine (obeys_enforce ctx _ _).still (fun _ => rfl) fun _ => ?_
  exact ⟨hx.owed,hx.approving,hx.reviewed⟩

variable {G : Type} {P : Course Row G} {Φ : G → Prop}

theorem obeys_getArtifact (ctx : Option AuthContext) (artifactId : Id) :
    Obeys P Φ (getPatchArtifactEntity ctx artifactId) :=
  (obeys_getOr404 _ _).bind fun _ => (obeys_enforce _ _ _).bind fun _ => .pure _

theorem obeys_getLocalRunEntity (ctx : Option AuthContext) (localRunId : Id) :
    Obeys P Φ (getLocalRunEntity ctx localRunId) :=
  (obeys_getOr404 _ _).bind fun _ => (obeys_enforce _ _ _).bind fun _ => .pure _

theorem obeys_getTestRunEntity (ctx : Option AuthContext) (testRunId : Id) :
    Obeys P Φ (getTestRunEntity ctx testRunId) :=
  (obeys_getOr404 _ _).bind fun _ => (obeys_enforce _ _ _).bind fun _ => .pure _

theorem gives_requireStatus (task : Task) (expected : TaskStatus) (message : String) :
    Gives P Φ (requireStatus task expected message) fun _ => task.status = expected := by
  unfold requireStatus
  split
  · exact .pure ‹_›
  · exact gives_http _ _

theorem obeys_readPatchTestRun (taskId artifactId testRunId : Id) (attempt : Option DebugAttempt) :
    Obeys P Φ (readPatchTestRun taskId artifactId testRunId attempt) :=
  (obeys_refresh _).bind fun _ => (obeys_refresh _).bind fun _ => (obeys_refresh _).bind fun _ => .pure _

theorem obeys_reviewResultRead (ctx : Option AuthContext) (artifactId : Id) (review : PatchReview) :
    Obeys P Φ (reviewResultRead ctx artifactId review) :=
  (obeys_getTask _ _).bind fun _ => (obeys_getArtifact _ _).bind fun _ =>
    obeys_selectWhere.bind fun _ => .pure _

theorem obeys_findApproval (approvalId : Id) : Obeys P Φ (findPatchApproval approvalId) :=
  obeys_selectWhere.bind fun _ => .pure _

theorem obeys_getApproval (ctx : Option AuthContext) (approvalId : Id) :
    Obeys P Φ (getPatchApprovalOr404 ctx approvalId) := by
  refine (obeys_findApproval approvalId).bind fun found => ?_
  cases found with
  | none => exact obeys_http _ _
  | some entry => exact (obeys_enforce _ _ _).bind fun _ => .pure _

theorem obeys_getReviewEntity (ctx : Option AuthContext) (reviewId : Id) :
    Obeys P Φ (getPatchReviewEntity ctx reviewId) := by
  refine obeys_selectWhere.bind fun found => ?_
  split
  · exact obeys_http _ _
  · exact (obeys_enforce _ _ _).bind fun _ => .pure _

theorem obeys_approvalResultRead (ctx : Option AuthContext) (artifactId : Id)
    (approval : PatchApproval) : Obeys P Φ (approvalResultRead ctx artifactId approval) :=
  (obeys_getTask _ _).bind fun _ => (obeys_getArtifact _ _).bind fun _ =>
    (obeys_getReviewEntity _ _).bind fun _ => .pure _

theorem obeys_pullRequestResultRead (ctx : Option AuthContext) (approvalId : Id)
    (record : PullRequestRecord) : Obeys P Φ (pullRequestResultRead ctx approvalId record) :=
  (obeys_getTask _ _).bind fun _ => (obeys_getArtifact _ _).bind fun _ =>
    (obeys_getApproval _ _).bind fun _ => .pure _

end reading

section transitions

variable {b : Bool} {x : Knowledge} {taskId : Id} {task : Task}

theorem moved_same (task : Task) (status : TaskStatus) (updatedAt : Time) :
    SameTask task { task with status, updatedAt } := ⟨rfl,rfl,rfl,rfl⟩

theorem writes_event {v : Task} {fromStatus : TaskStatus} (ht : x.task = some (taskId,v))
    (ho : x.owed = some fromStatus) (ha : x.approving = false) (createdAt : Time) :
    Writes workCourse x (createTaskEvent taskId (.taskTransitioned fromStatus v.status) createdAt)
      (fun _ y => Holds x.reviewed taskId v y) fun e _ => e = .integrityError := by
  refine fun id => ⟨{ x with numbered := some id },Or.inr rfl,?_⟩
  refine ⟨⟨{ x with owed := none, numbered := none },?_,⟨⟨rfl,ha,rfl⟩,ht⟩⟩,_,Or.inl rfl,rfl⟩
  exact .transition (x := { x with numbered := some id }) id createdAt ht ho rfl

-- A program that only tells a time.
def Tells (stamp : Op Time) : Prop :=
  ∀ (z : Knowledge) (Q : Time → Knowledge → Prop) (E : Exn → Knowledge → Prop), (∀ t, Q t z) →
    Writes workCourse z stamp Q E

theorem tells_utcNow : Tells utcNow := fun _ _ _ h t => h t

theorem tells_pure (t : Time) : Tells (pure t) := fun _ _ _ h => h t

theorem moved_ne {status : TaskStatus} (h : status ∈ task.status.transitions) (updatedAt : Time) :
    (some task : Row (.task taskId)) ≠ some { task with status, updatedAt } := by
  intro he
  have hs : task.status = status := congrArg Task.status (Option.some.inj he)
  exact transitions_irrefl task.status (hs ▸ h)

theorem writes_move {status : TaskStatus} (ht : x.task = some (taskId,task)) (ho : x.owed = none)
    (ha : x.approving = true → status = .mergeReady) (h : status ∈ task.status.transitions)
    (updatedAt : Time) {Q : Unit → Knowledge → Prop} {E : Exn → Knowledge → Prop}
    (hQ : Q () { x with
      task := some (taskId,{ task with status, updatedAt }), owed := some task.status, approving := false }) :
    Writes workCourse x (flush (.task taskId) task { task with status, updatedAt }) Q E :=
  ⟨fun he => (moved_ne h updatedAt he).elim,
    fun _ => ⟨_,.move taskId ht ho h (moved_same task status updatedAt) ha,hQ⟩⟩

-- The status and its event are written together, or nothing is.
theorem writes_transition {actor : Actor} {stamp : Op Time} {requested : TaskStatus}
    (hstamp : Tells stamp) (ht : x.task = some (taskId,task)) (ho : x.owed = none)
    (ha : x.approving = true → requested = .mergeReady) :
    Writes workCourse x (transitionTaskWith actor stamp taskId task requested)
      (fun moved y => Holds x.reviewed taskId moved y) fun e y => e.isHttp = true → y = x := by
  unfold transitionTaskWith
  cases hv : validateTransition task.status requested actor with
  | error e => exact fun _ => rfl
  | ok next =>
    obtain ⟨rfl,hnext⟩ := validateTransition_ok hv
    refine obeys_utcNow.still (fun updatedAt => ?_) fun _ _ => rfl
    refine Writes.bind (writes_move ht ho ha hnext updatedAt ?_)
    refine Writes.bind (hstamp _ _ _ fun createdAt => ?_)
    refine Writes.bind ((writes_event (v := { task with status := next, updatedAt }) rfl rfl rfl
      createdAt).mono (fun _ y hy => hy) fun e y he hh => ?_)
    subst he
    cases hh

theorem Holds.transition {actor : Actor} {stamp : Op Time} {requested : TaskStatus}
    (hx : Holds b taskId task x) (hstamp : Tells stamp) :
    Writes workCourse x (transitionTaskWith actor stamp taskId task requested)
      (fun moved y => Holds b taskId moved y) fun e y => e.isHttp = true → Settled b y := by
  refine (writes_transition hstamp hx.task hx.owed fun h => ?_).mono (fun moved y hy => ?_)
    fun e y hy he => ?_
  · rw [hx.approving] at h
    cases h
  · rwa [hx.reviewed] at hy
  · rw [hy he]
    exact hx.toSettled

theorem Holds.cloudTransition (hx : Holds b taskId task x) (requested : TaskStatus) (createdAt : Time) :
    Writes workCourse x (transitionTaskForCloudRunner taskId task requested createdAt)
      (fun moved y => Holds b taskId moved y) fun e y => e.isHttp = true → Settled b y := by
  unfold transitionTaskForCloudRunner
  cases hv : validateTransition task.status requested .system with
  | error e => exact fun _ => hx.toSettled
  | ok next =>
    obtain ⟨rfl,hnext⟩ := validateTransition_ok hv
    refine obeys_utcNow.still (fun updatedAt => ?_) fun _ _ => hx.toSettled
    refine Writes.bind (writes_move hx.task hx.owed (fun h => ?_) hnext updatedAt ?_)
    · rw [hx.approving] at h
      cases h
    · refine Writes.bind ((writes_event (v := { task with status := next, updatedAt }) rfl rfl rfl
        createdAt).mono (fun _ y hy => ?_) fun e y he hh => ?_)
      · rwa [hx.reviewed] at hy
      · subst he
        cases hh

theorem Holds.along (hx : Holds b taskId task x) (eventClock : Time) (path : List TaskStatus) :
    Writes workCourse x (transitionTaskAlong taskId task eventClock path)
      (fun _ y => Settled b y) fun e y => e.isHttp = true → Settled b y := by
  induction path generalizing x task eventClock with
  | nil => exact hx.toSettled
  | cons requested rest ih =>
    exact Writes.bind ((hx.cloudTransition requested _).mono (fun moved y hy => ih hy _)
      fun _ _ hy => hy)

theorem Holds.keep {n : Task} {Q : Unit → Knowledge → Prop} {E : Exn → Knowledge → Prop}
    (hx : Holds b taskId task x) (hs : n.status = task.status) (hk : SameTask task n)
    (hQ : ∀ y, Holds b taskId n y → Q () y) : Writes workCourse x (flush (.task taskId) task n) Q E := by
  refine ⟨fun he => ?_,fun _ => ⟨_,.task taskId hx.task hs hk,hQ _ ⟨⟨hx.owed,hx.approving,hx.reviewed⟩,rfl⟩⟩⟩
  cases he
  exact ⟨x,Or.inl rfl,hQ x hx⟩

end transitions

section testRuns

-- Phases in which a session may add test runs.
structure Testable (Φ : Knowledge → Prop) : Prop where
  reviewed : ∀ x, Φ x → x.reviewed = false
  number : ∀ x n, Φ x → Φ { x with numbered := some n }
  test : ∀ x, Φ x → Φ { x with tests := none }

theorem testable_settled : Testable (Settled false) where
  reviewed _ hx := hx.reviewed
  number _ _ hx := ⟨hx.owed,hx.approving,hx.reviewed⟩
  test _ hx := ⟨hx.owed,hx.approving,hx.reviewed⟩

theorem testable_holds (taskId : Id) (task : Task) : Testable (Holds false taskId task) where
  reviewed _ hx := hx.reviewed
  number _ _ hx := ⟨⟨hx.owed,hx.approving,hx.reviewed⟩,hx.task⟩
  test _ hx := ⟨⟨hx.owed,hx.approving,hx.reviewed⟩,hx.task⟩

variable {Φ : Knowledge → Prop}

theorem Testable.writes (h : Testable Φ) {x : Knowledge} {id : Id} (row : LocalTestRun) (hx : Φ x)
    (hn : x.numbered = some id) : Writes workCourse x (insert (.localTestRun id) row) (fun _ y => Φ y)
      fun _ y => Φ y :=
  ⟨⟨{ x with tests := none },.testRun id row (h.reviewed x hx) hn,h.test x hx⟩,x,Or.inl rfl,hx⟩

theorem Testable.numbered (h : Testable Φ) {α : Type} {f : Id → Op α}
    (hf : ∀ id x, Φ x → x.numbered = some id →
      Writes workCourse x (f id) (fun _ y => Φ y) fun _ y => Φ y) :
    Obeys workCourse Φ (freshId >>= f) :=
  fun x hx id => ⟨{ x with numbered := some id },Or.inr rfl,hf id _ (h.number x id hx) rfl⟩

theorem Testable.finalized (h : Testable Φ) (workspaceId id : Id) (task : Task) (localRunId : Id)
    (patchArtifactId : Option Id) (input : FinalizeInput) : Obeys workCourse Φ
      (insertLocalTestRun workspaceId id task localRunId patchArtifactId input) := by
  unfold insertLocalTestRun
  split
  · exact .pure ()
  · refine h.numbered fun testRunId x hx hn => ?_
    refine obeys_utcNow.still (fun completedAt => ?_) fun _ => hx
    exact obeys_utcNow.still (fun createdAt => h.writes _ hx hn) fun _ => hx

end testRuns

section finalization

theorem holds_tables {taskId : Id} {task : Task} {k : Key} (h : k.isTracked = false) {l n : k.Entity} :
    Obeys workCourse (Holds false taskId task) (flush k l n) := obeys_flush ((untracked h).flush _ _)

theorem holds_logAt {taskId : Id} {task : Task} (id workspaceId : Id) (level : String)
    (event : LogEvent) (t : Time) :
    Obeys workCourse (Holds false taskId task) (appendCloudRunLogAt id workspaceId level event t) :=
  obeys_freshId.bind fun _ => obeys_insert ((untracked rfl).update _ _)

theorem holds_reload {b : Bool} {x : Knowledge} (hx : Settled b x) (ctx : Option AuthContext)
    (id taskId : Id) : Writes workCourse x (reloadClaimedCloudRun ctx id taskId)
      (fun run y => Holds b run.taskId run.task y) fun _ y => Settled b y := by
  refine (obeys_rollback work_resets).then hx (fun _ y hy => ?_) fun _ _ hy => hy
  refine (obeys_getCloudRun ctx id).then hy (fun cloudRun z hz => ?_) fun _ _ hz => hz
  refine Writes.bind ((holds_getTask hz ctx taskId).mono (fun task u hu => ?_) fun _ _ hu => hu)
  refine (obeys_getRepository ctx _).then hu (fun _ v hv => ?_) fun _ _ hv => hv.toSettled
  exact (obeys_getLocalRun cloudRun).then hv (fun _ _ h => h) fun _ _ h => h.toSettled

theorem holds_patchEvents {taskId : Id} {task : Task} (id owner localRunId artifactId : Id)
    (result : SandboxExecutionResult) (t : Time) : Obeys workCourse (Holds false taskId task)
      (patchEvents id owner localRunId artifactId result t) := by
  refine (work_note _ _ _ rfl).bind fun _ => ?_
  split
  · exact (work_note _ _ _ rfl).bind fun _ => .pure _
  · exact .pure _

theorem holds_patchLog {taskId : Id} {task : Task} (id workspaceId : Id) (status : ResultStatus)
    (t : Time) : Obeys workCourse (Holds false taskId task) (patchLog id workspaceId status t) := by
  unfold patchLog
  split
  · exact holds_logAt _ _ _ _ _
  · exact holds_logAt _ _ _ _ _

theorem holds_insertArtifact {taskId : Id} {task : Task} (id : Id) (row : PatchArtifact) :
    Obeys workCourse (Holds false taskId task) (insert (.patchArtifact id) row) :=
  obeys_insert fun x hx => ⟨x,hx,.artifact id row⟩

theorem Holds.finalizePatched {x : Knowledge} {run : ReloadedRun}
    (hx : Holds false run.taskId run.task x) (id : Id) (cloudRun : CloudRun) (input : FinalizeInput)
    (eventClock logClock : Time) :
    Writes workCourse x (finalizePatched id run cloudRun input eventClock logClock)
      (fun _ y => Settled false y) fun e y => e.isHttp = true → Settled false y := by
  have hE : ∀ (e : Exn) y, Holds false run.taskId run.task y → e.isHttp = true → Settled false y :=
    fun _ _ hy _ => hy.toSettled
  refine obeys_freshId.then hx (fun artifactId x hx => ?_) hE
  refine obeys_utcNow.then hx (fun createdAt x hx => ?_) hE
  refine (holds_insertArtifact _ _).then hx (fun _ x hx => ?_) hE
  refine ((testable_holds _ _).finalized _ _ _ _ _ _).then hx (fun _ x hx => ?_) hE
  refine obeys_utcNow.then hx (fun updatedAt x hx => ?_) hE
  refine (holds_tables rfl).then hx (fun _ x hx => ?_) hE
  refine obeys_utcNow.then hx (fun completedAt x hx => ?_) hE
  refine (holds_tables rfl).then hx (fun _ x hx => ?_) hE
  refine (holds_patchEvents _ _ _ _ _ _).then hx (fun eventTime x hx => ?_) hE
  refine (holds_patchLog _ _ _ _).then hx (fun _ x hx => ?_) hE
  refine (holds_logAt _ _ _ _ _).then hx (fun _ x hx => ?_) hE
  refine Writes.bind (hx.keep rfl ⟨rfl,rfl,rfl,rfl⟩ fun x hx => ?_)
  refine Writes.bind ((hx.along eventTime _).mono (fun _ x hx => ?_) fun _ _ hy => hy)
  exact obeysHttp ((work_tables.settleAndCommit _ _ _).bind fun _ => .pure _) x hx

theorem obeys_finalizeFailed (id : Id) (run : ReloadedRun) (cloudRun : CloudRun)
    (input : FinalizeInput) (eventClock logClock : Time) :
    Obeys workCourse (Settled false) (finalizeFailed id run cloudRun input eventClock logClock) := by
  refine (testable_settled.finalized _ _ _ _ _ _).bind fun _ => obeys_utcNow.bind fun _ => ?_
  refine (work_tables.flushRow rfl).bind fun _ => obeys_utcNow.bind fun _ => ?_
  refine (work_tables.flushRow rfl).bind fun _ => (work_note _ _ _ rfl).bind fun _ => ?_
  refine (work_tables.logAt _ _ _ _ _).bind fun _ => (work_tables.logAt _ _ _ _ _).bind fun _ => ?_
  exact (work_tables.settleAndCommit _ _ _).bind fun _ => .pure _

theorem work_finalizes : RunTables.Finalizes workCourse (Settled false) := by
  refine ⟨work_tables,fun ctx id cloudRun input => ?_⟩
  refine .after (work_tables.reload ctx id _) fun first => ?_
  split
  · exact obeysHttp (work_tables.markCancelled id first input)
  · intro x hx
    refine Writes.bind ((holds_reload hx ctx id cloudRun.taskId).mono (fun run x hx => ?_)
      fun _ _ hy _ => hy)
    have hE : ∀ (e : Exn) y, Holds false run.taskId run.task y → e.isHttp = true → Settled false y :=
    fun _ _ hy _ => hy.toSettled
    refine obeys_utcNow.then hx (fun eventClock x hx => ?_) hE
    refine obeys_utcNow.then hx (fun logClock x hx => ?_) hE
    split
    · exact obeysHttp (work_tables.markCancelled id run input) x hx.toSettled
    · refine obeys_utcNow.then hx (fun now x hx => ?_) hE
      refine (holds_tables rfl).then hx (fun _ x hx => ?_) hE
      refine (obeys_updateWhere (k := .cloudRun id) ((untracked rfl).update _ _)).then hx (fun claimed x hx => ?_) hE
      cases claimed with
      | false => exact obeysHttp (work_tables.lost ctx id _ input) x hx.toSettled
      | true =>
        refine (obeys_refresh _).then hx (fun c x hx => ?_) hE
        split
        · exact hx.finalizePatched id c input eventClock logClock
        · exact obeysHttp (obeys_finalizeFailed id run c input eventClock logClock) x hx.toSettled

end finalization

end AiScdc
