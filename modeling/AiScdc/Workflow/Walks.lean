import AiScdc.Workflow.Footprints

namespace AiScdc
open Transaction

section reaching

variable {α : Type} {Φ : Knowledge → Prop} {m : Op α} {Ψ : α → Knowledge → Prop}

theorem reaches_permission (hΦ : ∀ x, Φ x → ∃ b, Settled b x) (ctx : Option AuthContext) :
    Reaches workCourse Φ (requireAuditedPermissionIfAuthenticated ctx) fun _ => Φ := by
  intro x hx
  unfold requireAuditedPermissionIfAuthenticated
  split
  · split
    · exact hx
    · obtain ⟨b,hb⟩ := hΦ x hx
      refine (obeys_rollback work_resets).then hb (fun _ y hy => ?_) fun _ _ _ => trivial
      exact (obeys_commit work_resets).then hy (fun _ _ _ => trivial) fun _ _ _ => trivial
  · exact hx

-- A rollback forgets every phase.
theorem reaches_rollback (h : ∀ b, Reaches workCourse (Settled b) m Ψ) : Reaches workCourse Φ (do
    rollback
    m) Ψ := fun y _ => ⟨{ reviewed := y.reviewed },rfl,h y.reviewed _ ⟨rfl,rfl,rfl⟩⟩

theorem Reaches.catchIntegrityError {handler : Op α} (hm : Reaches workCourse Φ m Ψ)
    (hh : Reaches workCourse (fun _ => True) handler Ψ) : Reaches workCourse Φ (catchIntegrityError m handler) Ψ := by
  refine fun x hx => Writes.tryCatch ((hm x hx).mono (fun _ _ hy => hy) fun e y _ => ?_)
  cases e with
  | integrityError => exact hh y trivial
  | http statusCode detail => trivial
  | unhandled name => trivial

theorem reaches_insert {S : Knowledge → Prop} {k : Key} {row : k.Entity}
    (h : ∀ x, Φ x → ∃ y, S y ∧ WorkUpdate x k (fun row => row.isNone) (fun _ => some row) y) :
    Reaches workCourse Φ (insert k row) fun _ => S := by
  intro x hx
  obtain ⟨y,hy,hP⟩ := h x hx
  exact ⟨⟨y,hP,hy⟩,x,Or.inl rfl,trivial⟩

end reaching

section transitions

variable {b : Bool} {taskId : Id} {task : Task}

theorem reaches_getTask (ctx : Option AuthContext) (taskId : Id) :
    Reaches workCourse (Settled b) (getTask ctx taskId) fun task => Holds b taskId task :=
  fun _ hx => (holds_getTask hx ctx taskId).mono (fun _ _ hy => hy) fun _ _ _ => trivial

theorem reaches_transition {actor : Actor} {stamp : Op Time} {requested : TaskStatus}
    (hstamp : Tells stamp) : Reaches workCourse (Holds b taskId task)
      (transitionTaskWith actor stamp taskId task requested) fun moved => Holds b taskId moved :=
  fun _ hx => (hx.transition hstamp).mono (fun _ _ hy => hy) fun _ _ _ => trivial

theorem reaches_keep {n : Task} (hs : n.status = task.status) (hk : SameTask task n) :
    Reaches workCourse (Holds b taskId task) (flush (.task taskId) task n) fun _ => Holds b taskId n :=
  fun _ hx => hx.keep hs hk fun _ hy => hy

theorem reaches_settle {α : Type} {m : Op α} {Ψ : α → Knowledge → Prop}
    (h : Reaches workCourse (Settled b) m Ψ) : Reaches workCourse (Holds b taskId task) m Ψ :=
  h.mono (fun _ hx => hx.toSettled) fun _ _ hy => hy

theorem holds_permission (ctx : Option AuthContext) :
    Reaches workCourse (Holds b taskId task) (requireAuditedPermissionIfAuthenticated ctx)
      fun _ => Holds b taskId task := reaches_permission (fun _ hx => ⟨b,hx.toSettled⟩) ctx

theorem settled_permission (ctx : Option AuthContext) :
    Reaches workCourse (Settled b) (requireAuditedPermissionIfAuthenticated ctx) fun _ => Settled b :=
  reaches_permission (fun _ hx => ⟨b,hx⟩) ctx

theorem reaches_save : Reaches workCourse (Holds b taskId task) commit fun _ => Settled b :=
  reaches_settle (Obeys.reaches (obeys_commit work_resets))

theorem holds_row {k : Key} (h : k.isTracked = false) {row : k.Entity} :
    Obeys workCourse (Holds b taskId task) (insert k row) := obeys_insert ((untracked h).update _ _)

theorem holds_change {k : Key} (h : k.isTracked = false) {l n : k.Entity} :
    Obeys workCourse (Holds b taskId task) (flush k l n) := obeys_flush ((untracked h).flush _ _)

end transitions

section tasks

variable {b : Bool}

theorem reaches_transitionTask (ctx : Option AuthContext) (taskId : Id) (requested : TaskStatus)
    (actor : Actor) : Reaches workCourse (Settled b) (transitionTask ctx taskId requested actor)
      fun _ => Settled b := by
  refine (reaches_getTask ctx taskId).bind fun task => (holds_permission ctx).bind fun _ => ?_
  refine (reaches_transition tells_utcNow).bind fun moved => ?_
  exact reaches_save.bind fun _ => (obeys_refresh _).reaches

theorem obeys_taskRepository {G : Type} {P : Course Row G} {Φ : G → Prop} (ctx : Option AuthContext)
    (data : TaskCreate) : Obeys P Φ (taskRepository ctx data) := by
  unfold taskRepository
  split
  · exact .pure _
  · exact (obeys_getRepository ctx _).bind fun _ => .pure _

theorem reaches_createTask (ctx : Option AuthContext) (projectId : Id) (data : TaskCreate) :
    Reaches workCourse (Settled b) (createTask ctx projectId data) fun _ => Settled b := by
  refine (obeys_getProject ctx projectId).next fun _ => (obeys_taskRepository ctx data).next fun r => ?_
  refine (settled_permission ctx).bind fun _ => ?_
  split
  · exact fun _ _ => trivial
  · refine obeys_freshId.next fun taskId => obeys_utcNow.next fun now => ?_
    refine (work_newTask taskId rfl).next fun _ => obeys_utcNow.next fun createdAt => ?_
    refine (work_note _ _ _ rfl).next fun _ => (obeys_commit work_resets).next fun _ => ?_
    exact (obeys_refresh _).reaches

theorem reaches_failLocalRun {taskId : Id} {task : Task} (eventClock : Time) (localRunId : Id)
    (localRun : LocalTaskRun) (hid : localRun.taskId = taskId) (detail : String) :
    Reaches workCourse (Holds b taskId task) (failLocalRun eventClock localRunId localRun task detail)
      fun _ => Settled b := by
  subst hid
  refine obeys_utcNow.next fun _ => (holds_change rfl).next fun _ => (work_note _ _ _ rfl).next fun _ => ?_
  exact (reaches_transition (tells_pure _)).bind fun _ => reaches_save

theorem reaches_patchLocalRun {taskId : Id} {task : Task} (eventClock : Time) (localRunId : Id)
    (localRun : LocalTaskRun) (hid : localRun.taskId = taskId) (repository : Repository)
    (result : LocalRunnerResult) :
    Reaches workCourse (Holds b taskId task)
      (patchLocalRun eventClock localRunId localRun task repository result) fun _ => Settled b := by
  subst hid
  refine obeys_freshId.next fun artifactId => obeys_utcNow.next fun _ => ?_
  refine (obeys_insert fun x hx => ⟨x,hx,WorkUpdate.artifact artifactId _⟩).next fun _ => ?_
  refine obeys_utcNow.next fun _ => (holds_change rfl).next fun _ => (work_note _ _ _ rfl).next fun _ => ?_
  refine Reaches.bind (reaches_keep (by rfl) ⟨by rfl,by rfl,by rfl,by rfl⟩) fun _ => ?_
  exact (reaches_transition (tells_pure _)).bind fun _ => reaches_save

theorem reaches_localRun (ctx : Option AuthContext) (taskId repoId : Id)
    (reply : Except String LocalRunnerResult) :
    Reaches workCourse (Settled b) (startLocalTaskRun ctx taskId repoId reply) fun _ => Settled b := by
  refine (reaches_getTask ctx taskId).bind fun task => (obeys_getRepository ctx repoId).next fun r => ?_
  refine (holds_permission ctx).bind fun _ => ?_
  dsimp only
  split
  · exact fun _ _ => trivial
  · refine obeys_utcNow.next fun eventClock => obeys_freshId.next fun id => obeys_utcNow.next fun now => ?_
    refine (holds_row rfl).next fun _ => (work_note _ _ _ rfl).next fun _ => ?_
    refine (reaches_transition (tells_pure _)).bind fun assigned => ?_
    refine (reaches_transition (tells_pure _)).bind fun started => ?_
    have hid : (newLocalTaskRun task taskId r repoId "local_worktree" now).taskId = taskId := rfl
    cases reply with
    | error detail =>
      exact (reaches_failLocalRun eventClock id _ hid detail).bind fun _ => (obeys_refresh _).reaches
    | ok result =>
      exact (reaches_patchLocalRun eventClock id _ hid r result).bind fun _ => (obeys_refresh _).reaches

end tasks

section testing

variable {taskId : Id} {task : Task}

theorem holds_freshTestRun : Reaches workCourse (Holds false taskId task) freshId
    fun id x => Holds false taskId task x ∧ x.numbered = some id :=
  fun x hx id => ⟨{ x with numbered := some id },Or.inr rfl,
    (testable_holds taskId task).number x id hx,rfl⟩

theorem holds_insertTestRun {id : Id} {row : LocalTestRun} :
    Reaches workCourse (fun x => Holds false taskId task x ∧ x.numbered = some id)
      (insert (.localTestRun id) row) fun _ => Holds false taskId task :=
  fun _ hx => ((testable_holds taskId task).writes row hx.1 hx.2).mono (fun _ _ hy => hy)
    fun _ _ _ => trivial

theorem holds_completeTestRun (testRunId artifactId : Id) (testRun : LocalTestRun)
    (artifact : PatchArtifact) (status : String) (results : List CommandResult)
    (reason : Option String) : Obeys workCourse (Holds false taskId task)
      (completeTestRun testRunId artifactId testRun artifact status results reason) := by
  refine obeys_utcNow.bind fun now => (obeys_flush fun x hx => ?_).bind fun _ =>
    (obeys_flush fun x hx => ?_).bind fun _ => .pure _
  · exact ⟨{ x with tests := none },⟨⟨hx.owed,hx.approving,hx.reviewed⟩,hx.task⟩,
      .testRun _ _ _ hx.reviewed⟩
  · exact ⟨{ x with artifact := none },⟨⟨hx.owed,hx.approving,hx.reviewed⟩,hx.task⟩,
      WorkFlush.artifact artifactId ⟨rfl,rfl,rfl,rfl,rfl⟩⟩

theorem holds_debugAttempt {b : Bool} (eventTime : Time) (owner artifactId : Id) (held : Task)
    (artifact : PatchArtifact) (findings : DebugFindings) : Obeys workCourse (Holds b taskId task)
      (createDebugAttempt eventTime owner held artifactId artifact findings) :=
  obeys_freshId.bind fun _ => obeys_utcNow.bind fun _ => (holds_row rfl).bind fun _ =>
    (work_note _ _ _ rfl).bind fun _ => .pure _

theorem reaches_concludeTestRun (eventClock : Time) (artifactId : Id) (artifact : PatchArtifact)
    (testRunId : Id) (passed : Bool) (rootCause : String) :
    Reaches workCourse (Holds false taskId task)
      (concludeTestRun eventClock taskId artifactId artifact task testRunId passed rootCause)
      fun _ => Settled false := by
  cases passed with
  | true => exact (reaches_transition (tells_pure _)).bind fun _ _ hx => hx.toSettled
  | false =>
    refine (holds_debugAttempt _ _ _ _ _ _).next fun attempt => ?_
    exact (reaches_transition (tells_pure _)).bind fun _ _ hx => hx.toSettled

theorem reaches_beginTestRun (eventClock : Time) (artifactId : Id) (artifact : PatchArtifact)
    (commands : List String) : Reaches workCourse (Holds false artifact.taskId task)
      (beginTestRun eventClock artifactId artifact task commands)
      fun begun => Holds false artifact.taskId begun.2.2 := by
  refine holds_freshTestRun.bind fun id => obeys_utcNow.next fun _ => holds_insertTestRun.bind fun _ => ?_
  refine (work_note _ _ _ rfl).next fun _ => (reaches_transition (tells_pure _)).bind fun _ => ?_
  exact fun _ hx => hx

theorem settled_readTestRun {b : Bool} (owner artifactId testRunId : Id)
    (attempt : Option DebugAttempt) :
    Reaches workCourse (Settled b) (readPatchTestRun owner artifactId testRunId attempt)
      fun _ => Settled b := (obeys_readPatchTestRun _ _ _ _).reaches

theorem reaches_cloudFake (artifactId : Id) (artifact : PatchArtifact) :
    Reaches workCourse (Holds false artifact.taskId task)
      (startCloudFakeTestRun artifactId artifact task) fun _ => Settled false := by
  refine obeys_utcNow.next fun eventClock => ?_
  refine (reaches_beginTestRun eventClock artifactId artifact _).bind fun begun => ?_
  refine (holds_completeTestRun _ _ _ _ _ _ _).next fun tested => (work_note _ _ _ rfl).next fun _ => ?_
  refine (reaches_transition (tells_pure _)).bind fun _ => reaches_save.bind fun _ => ?_
  exact settled_readTestRun _ _ _ _

theorem holds_persisted (artifactId : Id) (artifact : PatchArtifact) (held : Task) :
    Obeys workCourse (Holds false taskId task) (persistedDockerTestRun artifactId artifact held) := by
  refine (obeys_selectWhere.bind fun _ => .pure _).bind fun found => ?_
  cases found with
  | some testRun => exact .pure _
  | none =>
    have h := testable_holds taskId task
    refine obeys_utcNow.bind fun completedAt => h.numbered fun testRunId x hx hn => ?_
    refine obeys_utcNow.still (fun createdAt => ?_) fun _ => hx
    exact Writes.bind ((h.writes _ hx hn).mono (fun _ y hy => hy) fun _ _ hy => hy)

theorem reaches_dockerTestRun (artifactId : Id) (artifact : PatchArtifact) :
    Reaches workCourse (Holds false artifact.taskId task)
      (startPersistedDockerTestRun artifactId artifact task) fun _ => Settled false := by
  refine (holds_persisted artifactId artifact task).next fun entry => obeys_utcNow.next fun t => ?_
  refine (work_note _ _ _ rfl).next fun _ => (reaches_transition (tells_pure _)).bind fun moved => ?_
  refine (holds_completeTestRun _ _ _ _ _ _ _).next fun tested => (work_note _ _ _ rfl).next fun _ => ?_
  refine (reaches_concludeTestRun _ _ _ _ _ _).bind fun attempt => ?_
  exact (obeys_commit work_resets).next fun _ => settled_readTestRun _ _ _ _

theorem reaches_recordTestRun (ctx : Option AuthContext) (eventClock : Time)
    (artifactId owner testRunId : Id) (outcome : TestOutcome) :
    Reaches workCourse (Settled false)
      (recordTestRun ctx eventClock artifactId owner testRunId outcome) fun _ => Settled false := by
  refine (reaches_getTask ctx owner).bind fun task => (obeys_getArtifact ctx artifactId).next fun a => ?_
  refine (obeys_getTestRunEntity ctx testRunId).next fun testRun => ?_
  refine (holds_completeTestRun _ _ _ _ _ _ _).next fun tested => (work_note _ _ _ rfl).next fun _ => ?_
  refine (reaches_concludeTestRun _ _ _ _ _ _).bind fun attempt => ?_
  exact (obeys_commit work_resets).next fun _ => settled_readTestRun _ _ _ _

theorem reaches_testRun (ctx : Option AuthContext) (artifactId : Id) (reply : TestRunnerReply) :
    Reaches workCourse (Settled false) (startPatchTestRun ctx artifactId reply)
      fun _ => Settled false := by
  refine (obeys_getArtifact ctx artifactId).next fun artifact => ?_
  refine (reaches_getTask ctx _).bind fun task => (holds_permission ctx).bind fun _ => ?_
  refine (gives_requireStatus task _ _).next fun _ _ => (obeys_getLocalRunEntity ctx _).next fun l => ?_
  split
  · refine (reaches_cloudFake artifactId artifact).bind fun _ => ?_
    exact (obeys_commit work_resets).next fun _ _ hx => hx
  · split
    · refine (reaches_dockerTestRun artifactId artifact).bind fun _ => ?_
      exact (obeys_commit work_resets).next fun _ _ hx => hx
    · split
      · exact fun _ _ => trivial
      · refine obeys_utcNow.next fun eventClock => ?_
        refine (reaches_beginTestRun eventClock artifactId artifact _).bind fun begun => ?_
        exact reaches_save.bind fun _ => reaches_recordTestRun _ _ _ _ _ _

end testing

section reviewing

variable {b : Bool} {x : Knowledge}

theorem reaches_getArtifact (hx : Settled b x) (ctx : Option AuthContext) (artifactId : Id) :
    Reaches workCourse (fun y => y = x) (getPatchArtifactEntity ctx artifactId)
      fun artifact y => y = { x with artifact := some (artifactId,artifact) } := by
  intro y hy
  subst hy
  exact (writes_getArtifact hx ctx artifactId).mono (fun _ _ hy => hy) fun _ _ _ => trivial

theorem exact_getTask (hx : Settled b x) (ctx : Option AuthContext) (taskId : Id) :
    Reaches workCourse (fun y => y = x) (getTask ctx taskId)
      fun task y => y = { x with task := some (taskId,task) } := by
  intro y hy
  subst hy
  exact (writes_getTask hx ctx taskId).mono (fun _ _ hy => hy) fun _ _ _ => trivial

theorem exact_permission (hx : Settled b x) (ctx : Option AuthContext) :
    Reaches workCourse (fun y => y = x) (requireAuditedPermissionIfAuthenticated ctx)
      fun _ y => y = x :=
  reaches_permission (Φ := fun y => y = x) (fun _ hy => ⟨b,hy ▸ hx⟩) ctx

theorem exact_latestTestRun (artifactId : Id) :
    Reaches workCourse (fun y => y = x) (latestTestRun artifactId)
      fun latest y => y = { x with tests := some (artifactId,latest) } := by
  intro y hy db next
  subst hy
  exact ⟨_,Or.inr (Learns.tests artifactId),rfl⟩

theorem exact_getReview (artifactId : Id) :
    Reaches workCourse (fun y => y = x) (get (.patchReview artifactId))
      fun row y => ∀ review, row = some review → y = { x with review := some (artifactId,review) } := by
  intro y hy db next
  subst hy
  cases h : db (.patchReview artifactId) with
  | none =>
    refine ⟨y,Or.inl rfl,fun review hr => ?_⟩
    cases h.symm.trans hr
  | some review =>
    refine ⟨_,Or.inr (.review artifactId review h),fun review' hr => ?_⟩
    cases h.symm.trans hr
    rfl

theorem settled_conclude {taskId : Id} {task : Task} (eventClock : Time) (artifactId : Id)
    (artifact : PatchArtifact) (hid : artifact.taskId = taskId) (review : PatchReview) :
    Reaches workCourse (Holds b taskId task)
      (concludeReview eventClock artifactId artifact task review) fun _ => Settled b := by
  subst hid
  unfold concludeReview
  split
  · exact (reaches_transition (tells_pure _)).bind fun _ _ hx => hx.toSettled
  · refine (holds_debugAttempt _ _ _ _ _ _).next fun attempt => ?_
    exact (reaches_transition (tells_pure _)).bind fun _ _ hx => hx.toSettled

theorem reaches_insertReview (hx : Settled b x) {artifactId : Id} {artifact : PatchArtifact} {task : Task}
    {latest : Option (Id × LocalTestRun)} (ha : x.artifact = some (artifactId,artifact))
    (ht : x.task = some (artifact.taskId,task)) (hl : x.tests = some (artifactId,latest))
    (eventClock : Time) : Reaches workCourse (fun y => y = x)
      (insertPatchReview eventClock artifactId artifact task latest) fun _ => Settled true := by
  refine obeys_freshId.next fun id => obeys_utcNow.next fun createdAt => ?_
  refine (reaches_insert (S := Holds true artifact.taskId task) fun y hy => ?_).bind fun _ => ?_
  · subst hy
    exact ⟨{ y with reviewed := true },⟨⟨hx.owed,hx.approving,rfl⟩,ht⟩,
      .review id createdAt ha ht hl⟩
  · refine (work_note _ _ _ rfl).next fun _ => (settled_conclude _ _ _ rfl _).bind fun _ => ?_
    exact (obeys_commit work_resets).next fun _ _ hx => hx

theorem reaches_reviewConflict (ctx : Option AuthContext) (artifactId : Id)
    {Φ : Knowledge → Prop} {Ψ : PatchReviewResult → Knowledge → Prop}
    (hΨ : ∀ b result y, Settled b y → Ψ result y) :
    Reaches workCourse Φ (reviewConflict ctx artifactId) Ψ := by
  refine reaches_rollback fun b => (obeys_get _).next fun row => ?_
  cases row with
  | none => exact fun _ _ => trivial
  | some review =>
    exact (Obeys.reaches (obeys_reviewResultRead ctx artifactId review)).mono (fun _ hx => hx) (hΨ b)

theorem reaches_review (ctx : Option AuthContext) (artifactId : Id) :
    Reaches workCourse (Settled b) (startPatchReview ctx artifactId) fun _ _ => True := by
  intro x hx
  refine ((reaches_getArtifact hx ctx artifactId).bind fun artifact => ?_) x rfl
  have hx₁ : Settled b { x with artifact := some (artifactId,artifact) } := ⟨hx.owed,hx.approving,hx.reviewed⟩
  refine (exact_permission hx₁ ctx).bind fun _ => (obeys_get _).next fun row => ?_
  cases row with
  | some review =>
    refine (obeys_reviewResultRead ctx artifactId review).next fun _ => ?_
    exact Reaches.bind (fun y hy => (obeys_commit work_resets).reaches y (hy ▸ hx₁)) fun _ _ _ => trivial
  | none =>
    refine (exact_getTask hx₁ ctx _).bind fun task => (gives_requireStatus task _ _).next fun _ _ => ?_
    refine obeys_utcNow.next fun eventClock => (exact_latestTestRun artifactId).bind fun latest => ?_
    refine Reaches.bind (Reaches.catchIntegrityError (Ψ := fun created y =>
      ∀ review, created = .inl review → Settled true y) ?_ ?_) fun created => ?_
    · let known : Knowledge := { x with
        artifact := some (artifactId,artifact)
        task := some (artifact.taskId,task)
        tests := some (artifactId,latest) }
      have hknown : Settled b known := ⟨hx.owed,hx.approving,hx.reviewed⟩
      refine (reaches_insertReview hknown rfl rfl rfl eventClock).bind ?_
      exact fun review y hy _ _ => hy
    · refine (reaches_reviewConflict ctx artifactId (Ψ := fun _ _ => True) fun _ _ _ _ => trivial).bind ?_
      intro result y _ review hr
      cases hr
    · cases created with
      | inr result => exact fun _ _ => trivial
      | inl review =>
        refine Reaches.mono (Φ := Settled true) ?_ (fun y hy => hy review rfl) fun _ _ hy => hy
        refine (obeys_refresh _).next fun row => (obeys_commit work_resets).next fun _ => ?_
        exact (Obeys.reaches (obeys_reviewResultRead ctx artifactId row)).mono (fun _ h => h)
          fun _ _ _ => trivial

end reviewing

section approving

variable {b : Bool} {x : Knowledge}

theorem isApproved_some {row : Option PatchReview} {review : PatchReview}
    (h : isApproved row = some review) : row = some review ∧ review.verdict = .approved := by
  obtain ⟨hr,hv⟩ := Option.filter_eq_some_iff.mp h
  exact ⟨hr,by simpa using hv⟩

theorem reaches_insertApproval (hx : Settled b x) {artifactId : Id} {artifact : PatchArtifact}
    {task : Task} {review : PatchReview} (ha : x.artifact = some (artifactId,artifact))
    (ht : x.task = some (artifact.taskId,task)) (hs : task.status = .approved)
    (hr : x.review = some (artifactId,review)) (hv : review.verdict = .approved) (eventClock : Time) :
    Reaches workCourse (fun y => y = x)
      (insertPatchApproval eventClock artifactId artifact task review) fun _ => Settled b := by
  refine obeys_freshId.next fun id => obeys_utcNow.next fun createdAt => ?_
  refine (reaches_insert (S := fun y => y = { x with approving := true }) fun y hy => ?_).bind fun _ => ?_
  · subst hy
    exact ⟨_,rfl,.approval id createdAt ha ht hs hr hv hx.owed hx.approving⟩
  · refine (work_note _ _ _ rfl).next fun _ => Reaches.bind (Ψ := fun moved => Holds b artifact.taskId moved)
      (fun y hy => ?_) fun moved => reaches_save
    subst hy
    refine (writes_transition (x := { x with approving := true }) (tells_pure _) ht hx.owed
      fun _ => rfl).mono (fun moved z hz => ?_) fun _ _ _ => trivial
    have hb : b = x.reviewed := hx.reviewed.symm
    subst hb
    exact hz

theorem reaches_approvalConflict (ctx : Option AuthContext) (artifactId : Id)
    {Φ : Knowledge → Prop} {Ψ : PatchApprovalResult → Knowledge → Prop}
    (hΨ : ∀ result y, Ψ result y) : Reaches workCourse Φ (approvalConflict ctx artifactId) Ψ := by
  refine reaches_rollback fun b => (obeys_get _).next fun row => ?_
  cases row with
  | none => exact fun _ _ => trivial
  | some approval =>
    exact (Obeys.reaches (obeys_approvalResultRead ctx artifactId approval)).mono (fun _ hx => hx)
      fun result y _ => hΨ result y

theorem reaches_approve (ctx : Option AuthContext) (artifactId : Id) :
    Reaches workCourse (Settled b) (approvePatchArtifact ctx artifactId) fun _ _ => True := by
  intro x hx
  refine ((reaches_getArtifact hx ctx artifactId).bind fun artifact => ?_) x rfl
  have hx₁ : Settled b { x with artifact := some (artifactId,artifact) } := ⟨hx.owed,hx.approving,hx.reviewed⟩
  refine (exact_permission hx₁ ctx).bind fun _ => (obeys_get _).next fun row => ?_
  cases row with
  | some approval =>
    refine (obeys_approvalResultRead ctx artifactId approval).next fun _ => ?_
    exact Reaches.bind (fun y hy => (obeys_commit work_resets).reaches y (hy ▸ hx₁)) fun _ _ _ => trivial
  | none =>
    refine (exact_getTask hx₁ ctx _).bind fun task => (gives_requireStatus task _ _).next fun _ hs => ?_
    refine (exact_getReview artifactId).bind fun latest => ?_
    cases hl : isApproved latest with
    | none =>
      simp only
      exact fun _ _ => trivial
    | some review =>
      obtain ⟨hlatest,hv⟩ := isApproved_some hl
      let known : Knowledge := { x with
        artifact := some (artifactId,artifact)
        task := some (artifact.taskId,task)
        review := some (artifactId,review) }
      have hknown : Settled b known := ⟨hx.owed,hx.approving,hx.reviewed⟩
      refine Reaches.mono (Φ := fun y => y = known) ?_ (fun y hy => hy review hlatest) fun _ _ hy => hy
      refine obeys_utcNow.next fun eventClock => ?_
      refine Reaches.bind (Reaches.catchIntegrityError (Ψ := fun conflict y =>
        conflict = none → Settled b y) ?_ ?_) fun conflict => ?_
      · refine (reaches_insertApproval hknown rfl rfl hs rfl hv eventClock).bind ?_
        exact fun _ y hy _ => hy
      · refine (reaches_approvalConflict ctx artifactId (Ψ := fun _ _ => True) fun _ _ => trivial).bind ?_
        intro result y _ hr
        cases hr
      · cases conflict with
        | some result => exact fun _ _ => trivial
        | none =>
          refine Reaches.mono (Φ := Settled b) ?_ (fun y hy => hy rfl) fun _ _ hy => hy
          refine (obeys_refresh _).next fun row => ?_
          exact (obeys_approvalResultRead ctx artifactId row).next fun _ _ _ => trivial

theorem reaches_requestHuman (ctx : Option AuthContext) (approvalId : Id) :
    Reaches workCourse (Settled b) (requestHumanApproval ctx approvalId) fun _ _ => True := by
  refine (obeys_getApproval ctx approvalId).next fun entry => ?_
  refine (reaches_getTask ctx _).bind fun task => (holds_permission ctx).bind fun _ => ?_
  refine (gives_requireStatus task _ _).next fun _ _ => obeys_utcNow.next fun eventClock => ?_
  refine (work_note _ _ _ rfl).next fun _ => (reaches_transition (tells_pure _)).bind fun _ => ?_
  refine reaches_save.bind fun _ => (obeys_refresh _).next fun approval => ?_
  exact (Obeys.reaches (obeys_approvalResultRead ctx _ approval)).mono (fun _ h => h)
    fun _ _ _ => trivial

end approving

section publishing

variable {b : Bool} {x : Knowledge}

theorem exact_getApproval (hx : Settled b x) (ctx : Option AuthContext) (approvalId : Id) :
    Reaches workCourse (fun y => y = x) (getPatchApprovalOr404 ctx approvalId)
      fun entry y => entry.2.id = approvalId ∧ y = { x with approval := some entry } := by
  intro y hy
  subst hy
  refine Writes.bind (Writes.bind fun db next => ?_)
  cases h : (((List.range next).filterMap fun i => (db (.patchApproval i)).bind fun approval =>
      if approval.id = approvalId then some (i,approval) else none).head?) with
  | none =>
    refine ⟨y,Or.inl rfl,?_⟩
    simp only [Writes,h]
    trivial
  | some entry =>
    obtain ⟨i,-,hi⟩ := List.mem_filterMap.mp (List.mem_of_mem_head? h)
    obtain ⟨approval,hrow,hif⟩ := Option.bind_eq_some_iff.mp hi
    obtain ⟨hid,hentry⟩ : approval.id = approvalId ∧ (i,approval) = entry := by
      split at hif
      · exact ⟨‹_›,Option.some.inj hif⟩
      · cases hif
    subst hentry
    refine ⟨_,Or.inr (.approval i approval hrow),?_⟩
    simp only [Writes,h]
    refine (obeys_enforce ctx _ _).still (fun _ => ⟨hid,rfl⟩) fun _ => trivial

theorem moved_record (record : PullRequestRecord) (status : PullRequestStatus) :
    SameRecord record (record.moved status) := ⟨rfl,rfl,rfl⟩

theorem finalizing_record (record : PullRequestRecord) (created : CreatedPullRequest) :
    SameRecord record (record.finalizing created) := ⟨rfl,rfl,rfl⟩

theorem reaches_flushRecord {Φ : Knowledge → Prop} (hΦ : ∀ x, Φ x → Settled b x) (approvalId : Id)
    {l n : PullRequestRecord} (h : SameRecord l n) :
    Reaches workCourse Φ (flush (.pullRequest approvalId) l n) fun _ => Settled b := by
  intro x hx
  have hs := hΦ x hx
  exact ⟨fun _ => ⟨x,Or.inl rfl,hs⟩,fun _ => ⟨_,.record approvalId h,⟨hs.owed,hs.approving,hs.reviewed⟩⟩⟩

theorem reaches_finalize (ctx : Option AuthContext) (approvalId : Id) (record : PullRequestRecord)
    (statusCode : ℕ) : Reaches workCourse (Settled b)
      (finalizePullRequest ctx approvalId record statusCode) fun _ => Settled b := by
  have hrest : Reaches workCourse (Settled b) (do
      flush (.pullRequest approvalId) record (record.moved .created)
      commit
      let record ← refresh (.pullRequest approvalId)
      let result ← pullRequestResultRead ctx approvalId record
      pure (result,statusCode)) fun _ => Settled b := by
    refine (reaches_flushRecord (fun _ h => h) approvalId (moved_record _ _)).bind fun _ => ?_
    refine (obeys_commit work_resets).next fun _ => (obeys_refresh _).next fun row => ?_
    exact (obeys_pullRequestResultRead ctx approvalId row).next fun _ _ hx => hx
  refine (obeys_enforce ctx _ _).next fun _ => (reaches_getTask ctx _).bind fun task => ?_
  dsimp only
  split
  · refine (reaches_transition tells_utcNow).bind fun moved => obeys_utcNow.next fun createdAt => ?_
    exact (work_note _ _ _ rfl).next fun _ => reaches_settle hrest
  · exact reaches_settle hrest

theorem reaches_existing (ctx : Option AuthContext) (approvalId : Id) (record : PullRequestRecord) :
    Reaches workCourse (Settled b) (handleExistingPullRequest ctx approvalId record)
      fun _ => Settled b := by
  unfold handleExistingPullRequest
  cases record.status with
  | created => exact (obeys_pullRequestResultRead ctx approvalId record).next fun _ _ hx => hx
  | creating => exact fun _ _ => trivial
  | failed => exact fun _ _ => trivial
  | finalizing =>
    dsimp only
    split
    · exact reaches_finalize ctx approvalId record 200
    · exact fun _ _ => trivial
  | other name => exact fun _ _ => trivial

theorem obeys_latestCloudRun {G : Type} {P : Course Row G} {Φ : G → Prop} (artifactId : Id)
    (artifact : PatchArtifact) : Obeys P Φ (latestCloudRunForArtifact artifactId artifact) := by
  refine obeys_selectWhere.bind fun linked => ?_
  split
  · exact .pure _
  · exact obeys_selectWhere.bind fun _ => .pure _

theorem obeys_checkRepository {G : Type} {P : Course Row G} {Φ : G → Prop} (repository : Repository)
    (replies : PublishReplies) : Obeys P Φ (checkRepository repository replies) := by
  unfold checkRepository
  split
  · exact obeys_http _ _
  · split
    · exact obeys_http _ _
    · split
      · exact obeys_http _ _
      · split
        · exact .pure _
        · exact obeys_http _ _

theorem obeys_openCredential {G : Type} {P : Course Row G} {Φ : G → Prop} (repository : Repository)
    (replies : PublishReplies) : Obeys P Φ (openCredential repository replies) := by
  unfold openCredential
  split
  · exact obeys_http _ _
  · split
    · exact obeys_http _ _
    · split
      · exact .raise _
      · exact .pure _

-- The prepared record is one for this approval.
structure RecordFor (artifactId : Id) (approval : PatchApproval) (record : PullRequestRecord) : Prop where
  patchArtifactId : record.patchArtifactId = artifactId
  taskId : record.taskId = approval.taskId
  workspaceId : record.workspaceId = approval.workspaceId

theorem gives_newRecord {G : Type} {P : Course Row G} {Φ : G → Prop} (ctx : Option AuthContext)
    (artifactId : Id) (approval : PatchApproval) (replies : PublishReplies) :
    Gives P Φ (preparePullRequestRecord ctx artifactId approval replies) fun record =>
      ∃ recordId cloudRunId cloudRun repository createdAt, record =
        newPullRequestRecord recordId approval artifactId cloudRunId cloudRun repository createdAt := by
  refine (obeys_getArtifact ctx artifactId).gives fun artifact => (obeys_getTask ctx _).gives fun task => ?_
  refine (gives_requireStatus task _ _).gives fun _ _ => (obeys_latestCloudRun _ _).gives fun found => ?_
  cases found with
  | none => exact gives_http _ _
  | some entry =>
    refine (obeys_getRepository ctx _).gives fun repository => ?_
    refine (obeys_checkRepository repository replies).gives fun _ => ?_
    refine (obeys_openCredential repository replies).gives fun _ => ?_
    exact obeys_freshId.gives fun _ => obeys_utcNow.gives fun _ => .pure ⟨_,_,_,_,_,rfl⟩

theorem gives_prepare {G : Type} {P : Course Row G} {Φ : G → Prop} (ctx : Option AuthContext)
    (artifactId : Id) (approval : PatchApproval) (replies : PublishReplies) :
    Gives P Φ (preparePullRequestRecord ctx artifactId approval replies)
      (RecordFor artifactId approval) := by
  apply (gives_newRecord ctx artifactId approval replies).mono
  rintro _ ⟨_,_,_,_,_,rfl⟩
  exact ⟨rfl,rfl,rfl⟩

theorem reaches_conflict (ctx : Option AuthContext) (approvalId : Id) {Φ : Knowledge → Prop}
    {Ψ : PullRequestResult × ℕ → Knowledge → Prop} (hΨ : ∀ result y, Ψ result y) :
    Reaches workCourse Φ (pullRequestConflict ctx approvalId) Ψ := by
  refine reaches_rollback fun b => (obeys_get _).next fun row => ?_
  cases row with
  | none => exact fun _ _ => trivial
  | some record =>
    exact (reaches_existing ctx approvalId record).mono (fun _ hx => hx) fun result y _ => hΨ result y

theorem exact_reload {approvalId : Id} {record : PullRequestRecord}
    (hr : x.record = some (approvalId,record)) :
    Reaches workCourse (fun y => y = x) (reloadPullRequestCall record) fun call y =>
      ∃ artifact, call.diffText = artifact.diffText ∧
        y = { x with artifact := some (record.patchArtifactId,artifact) } := by
  refine (obeys_refresh _).next fun repository => (obeys_refresh _).next fun cloudRun => ?_
  refine Reaches.bind (Ψ := fun artifact y =>
    y = { x with artifact := some (record.patchArtifactId,artifact) }) ?_ fun artifact => ?_
  · intro y hy
    subst hy
    refine Writes.bind fun db next => ?_
    cases h : db (.patchArtifact record.patchArtifactId) with
    | none =>
      refine ⟨y,Or.inl rfl,?_⟩
      simp only [Writes,h]
    | some artifact =>
      refine ⟨_,Or.inr (.artifact _ artifact h),?_⟩
      simp only [Writes,h]
      exact rfl
  · exact (obeys_refresh _).next fun task y hy => ⟨artifact,rfl,hy⟩

theorem reaches_markFailed (approvalId : Id) : Reaches workCourse (Settled b)
    (markPullRequestFailed approvalId) fun _ => Settled b := by
  refine (obeys_get _).next fun row => ?_
  cases row with
  | none => exact fun _ hx => hx
  | some record =>
    refine (reaches_flushRecord (fun _ h => h) approvalId (moved_record _ _)).bind fun _ => ?_
    exact (obeys_commit work_resets).reaches

theorem reaches_persist (ctx : Option AuthContext) (approvalId : Id) (created : CreatedPullRequest) :
    Reaches workCourse (Settled b) (persistPullRequestFinalizing ctx approvalId created)
      fun _ => Settled b := by
  refine Obeys.next (Obeys.bind (obeys_getOr404 _ _) fun _ => (obeys_enforce _ _ _).bind fun _ =>
    .pure _) fun record => ?_
  refine (reaches_flushRecord (fun _ h => h) approvalId (finalizing_record _ _)).bind fun _ => ?_
  exact (obeys_commit work_resets).reaches

theorem reaches_publish (hx : Settled b x) (ctx : Option AuthContext) {approvalId : Id}
    {record : PullRequestRecord} (hr : x.record = some (approvalId,record))
    (adapter : Except String CreatedPullRequest) : Reaches workCourse (fun y => y = x)
      (publishPullRequest ctx approvalId record adapter) fun _ => Settled b := by
  refine (exact_reload hr).bind fun call => ?_
  refine Reaches.bind (Ψ := fun _ => Settled b) (fun y hy => ?_) fun _ => ?_
  · obtain ⟨artifact,hd,hy⟩ := hy
    subst hy
    have hs : Settled b { x with artifact := some (record.patchArtifactId,artifact) } :=
      ⟨hx.owed,hx.approving,hx.reviewed⟩
    exact ⟨⟨_,.call call hr rfl hd,_,⟨hs.owed,hs.approving,rfl⟩,hs⟩,_,Or.inl rfl,_,
      ⟨hs.owed,hs.approving,rfl⟩,hs⟩
  · cases adapter with
    | error detail => exact (reaches_markFailed approvalId).bind fun _ _ _ => trivial
    | ok created =>
      refine (reaches_persist ctx approvalId created).bind fun _ => ?_
      refine (obeys_getOr404 _ _).next fun row => (reaches_finalize ctx approvalId row 201).bind fun _ => ?_
      exact (obeys_commit work_resets).next fun _ _ hx => hx

theorem reaches_createPullRequest (ctx : Option AuthContext) (approvalId : Id)
    (replies : PublishReplies) : Reaches workCourse (Settled b)
      (createPullRequestForApproval ctx approvalId replies) fun _ _ => True := by
  intro x hx
  refine ((exact_getApproval hx ctx approvalId).bind fun entry => ?_) x rfl
  rintro y ⟨hid,rfl⟩
  have hx₁ : Settled b { x with approval := some entry } := ⟨hx.owed,hx.approving,hx.reviewed⟩
  refine ((exact_permission hx₁ ctx).bind fun _ => (obeys_get _).next fun row => ?_) _ rfl
  cases row with
  | some record =>
    refine Reaches.mono (Φ := Settled b) ?_ (fun _ hy => hy ▸ hx₁) fun _ _ hy => hy
    refine (reaches_existing ctx approvalId record).bind fun _ => ?_
    exact (obeys_commit work_resets).next fun _ _ _ => trivial
  | none =>
    refine (gives_prepare ctx entry.1 entry.2 replies).next fun record hrecord => ?_
    let known : Knowledge := { x with approval := some entry, record := some (approvalId,record) }
    have hknown : Settled b known := ⟨hx.owed,hx.approving,hx.reviewed⟩
    refine Reaches.bind (Reaches.catchIntegrityError (Ψ := fun conflict y =>
      conflict = none → y = known) ?_ ?_) fun conflict => ?_
    · refine Reaches.bind (reaches_insert (S := fun y => y = known) fun y hy => ?_) fun _ => ?_
      · subst hy hid
        refine ⟨_,rfl,.record record ?_ hrecord.taskId hrecord.workspaceId⟩
        rw [hrecord.patchArtifactId]
      · refine Reaches.bind (Ψ := fun _ y => y = known) (fun y hy => ?_) fun _ y hy _ => hy
        subst hy
        exact ⟨_,⟨hknown.owed,hknown.approving,rfl⟩,rfl⟩
    · refine (reaches_conflict ctx approvalId (Ψ := fun _ _ => True) fun _ _ => trivial).bind ?_
      intro result y _ hr
      cases hr
    · cases conflict with
      | some result => exact fun _ _ => trivial
      | none =>
        refine Reaches.mono (Φ := fun y => y = known) ?_ (fun _ hy => hy rfl) fun _ _ hy => hy
        exact (reaches_publish hknown ctx rfl replies.adapter).mono (fun _ h => h) fun _ _ _ => trivial

end publishing

section planning

variable {G : Type} {P : Course Row G} {Φ : G → Prop}

theorem obeys_getPlannerRun (ctx : Option AuthContext) (id : Id) : Obeys P Φ (getPlannerRun ctx id) :=
  (obeys_getOr404 _ _).bind fun _ => (obeys_getProject _ _).bind fun _ => .pure _

theorem gives_drafted (plannerRun : PlannerRun) :
    Gives P Φ (ensurePlannerRunIsDrafted plannerRun) fun _ => plannerRun.status = .drafted := by
  unfold ensurePlannerRunIsDrafted
  split
  · exact .pure ‹_›
  · exact gives_http _ _

theorem obeys_refreshTasks (taskIds : List Id) : Obeys P Φ (refreshTasks taskIds) := by
  induction taskIds with
  | nil => exact .pure _
  | cons id rest ih => exact (obeys_refresh _).bind fun _ => ih.bind fun _ => .pure _

theorem obeys_orAlreadyDecided {α : Type} {m : Op α} (h : Resets P Φ) (hm : Obeys P Φ m) :
    Obeys P Φ (orAlreadyDecided m) := by
  refine hm.tryCatch fun e => ?_
  cases e with
  | integrityError => exact (obeys_rollback h).bind fun _ => obeys_http _ _
  | http statusCode detail => exact .throw _
  | unhandled name => exact .throw _

variable {b : Bool}

theorem work_draftedTask (plannerRunId projectId draftId : Id) (draft : PlannerTaskDraft) :
    Obeys workCourse (Settled b) (createDraftedTask plannerRunId projectId draftId draft) :=
  obeys_freshId.bind fun taskId => obeys_utcNow.bind fun _ => (work_newTask taskId rfl).bind fun _ =>
    obeys_utcNow.bind fun _ => (work_note _ _ _ rfl).bind fun _ => .pure _

theorem work_draftedTasks (plannerRunId projectId : Id) (drafts : List (Id × PlannerTaskDraft)) :
    Obeys workCourse (Settled b) (createDraftedTasks plannerRunId projectId drafts) := by
  induction drafts with
  | nil => exact .pure _
  | cons d rest ih =>
    exact (work_draftedTask plannerRunId projectId d.1 d.2).bind fun _ => ih.bind fun _ => .pure _

theorem work_approvePlan (ctx : Option AuthContext) (plannerRunId : Id) :
    Obeys workCourse (Settled b) (approvePlannerRun ctx plannerRunId) := by
  refine (obeys_getPlannerRun ctx plannerRunId).bind fun plannerRun => ?_
  refine (obeys_getProject ctx _).bind fun project => (obeys_requirePermission work_resets ctx).bind fun _ => ?_
  refine (gives_drafted plannerRun).bind fun _ _ => ?_
  refine (obeys_selectWhere.bind fun _ => .pure _).bind fun drafts => ?_
  refine (obeys_orAlreadyDecided work_resets ?_).bind fun taskIds => ?_
  · refine obeys_utcNow.bind fun _ => obeys_freshId.bind fun _ => ?_
    refine (obeys_insert ((untracked rfl).update _ _)).bind fun _ => ?_
    refine (work_draftedTasks _ _ drafts).bind fun _ => obeys_utcNow.bind fun _ => ?_
    refine (obeys_flush ((untracked rfl).flush _ _)).bind fun _ => ?_
    exact (obeys_commit work_resets).bind fun _ => .pure _
  · exact (obeys_refresh _).bind fun _ => (obeys_refresh _).bind fun _ =>
      (obeys_refreshTasks taskIds).bind fun _ => .pure _

theorem work_rejectPlan (ctx : Option AuthContext) (plannerRunId : Id) (reason : String) :
    Obeys workCourse (Settled b) (rejectPlannerRun ctx plannerRunId reason) := by
  refine (obeys_getPlannerRun ctx plannerRunId).bind fun plannerRun => ?_
  refine (obeys_getProject ctx _).bind fun project => (obeys_requirePermission work_resets ctx).bind fun _ => ?_
  refine (gives_drafted plannerRun).bind fun _ _ => ?_
  refine (obeys_orAlreadyDecided work_resets ?_).bind fun _ => ?_
  · refine obeys_utcNow.bind fun _ => obeys_freshId.bind fun _ => ?_
    refine (obeys_insert ((untracked rfl).update _ _)).bind fun _ => obeys_utcNow.bind fun _ => ?_
    exact (obeys_flush ((untracked rfl).flush _ _)).bind fun _ => obeys_commit work_resets
  · exact (obeys_refresh _).bind fun _ => (obeys_refresh _).bind fun _ => .pure _

end planning

theorem settled_start : Settled false {} := ⟨rfl,rfl,rfl⟩

theorem WorkflowOp.walks [Digest] (o : WorkflowOp) :
    Writes workCourse {} o.program (fun _ _ => True) fun _ _ => True := by
  have hdone {α : Type} {m : Op α} {Ψ : α → Knowledge → Prop}
      (hm : Reaches workCourse (Settled false) m Ψ) :
      Writes workCourse {} (discard m) (fun _ _ => True) fun _ _ => True := by
    have h : Reaches workCourse (Settled false) (discard m) fun _ _ => True :=
      Reaches.bind hm fun _ _ _ => trivial
    exact h _ settled_start
  cases o with
  | cloudRun o =>
    exact (work_finalizes.program o _ settled_start).mono (fun _ _ _ => trivial) fun _ _ _ => trivial
  | createTask ctx projectId data => exact hdone (reaches_createTask ctx projectId data)
  | transition ctx taskId requested actor => exact hdone (reaches_transitionTask ctx taskId requested actor)
  | localRun ctx taskId repoId reply => exact hdone (reaches_localRun ctx taskId repoId reply)
  | testRun ctx artifactId reply => exact hdone (reaches_testRun ctx artifactId reply)
  | review ctx artifactId => exact hdone (reaches_review ctx artifactId)
  | approve ctx artifactId => exact hdone (reaches_approve ctx artifactId)
  | requestHuman ctx approvalId => exact hdone (reaches_requestHuman ctx approvalId)
  | publish ctx approvalId replies => exact hdone (reaches_createPullRequest ctx approvalId replies)
  | approvePlan ctx plannerRunId => exact hdone (Obeys.reaches (work_approvePlan ctx plannerRunId))
  | rejectPlan ctx plannerRunId reason => exact hdone (Obeys.reaches (work_rejectPlan ctx plannerRunId reason))

end AiScdc
