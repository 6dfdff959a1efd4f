import AiScdc.Transaction.Execution
import AiScdc.Workflow.Walks

namespace AiScdc
open Transaction

-- What one request for a pull request has done: it has inserted the record, holds the committed one,
-- calls the adapter, reports what it answered, or closes a record that has its number.
inductive PublishPhase where
  | idle
  | inserted
  | holding
  | calling
  | called
  | loaded (record : PullRequestRecord)
  | failing
  | reporting
  | reported
  | sure (taskId : Id)
  | seen (taskId : Id)
  | ready (taskId : Id)
  | moved (taskId : Id)
  | closing (taskId : Id)

structure Blank (record : PullRequestRecord) : Prop where
  status : record.status = .creating
  githubPrNumber : record.githubPrNumber = 0
  githubPrUrl : record.githubPrUrl = ""

inductive PublishLearn (approvalId : Id) : PublishPhase → Db → ℕ → PublishPhase → Prop
  | existing {db next record} (h : db (.pullRequest approvalId) = some record)
      (hs : record.status = .finalizing) : PublishLearn approvalId .idle db next (.sure record.taskId)
  | reload {db next record} (h : db (.pullRequest approvalId) = some record) :
      PublishLearn approvalId .reported db next (.sure record.taskId)
  | load {db next record} (h : db (.pullRequest approvalId) = some record) :
      PublishLearn approvalId .called db next (.loaded record)
  | task {db next taskId task} (h : db (.task taskId) = some task) :
      PublishLearn approvalId (.sure taskId) db next (.seen taskId)
  | done {db next taskId task} (h : db (.task taskId) = some task) (hs : task.status = .prCreated) :
      PublishLearn approvalId (.sure taskId) db next (.ready taskId)

inductive PublishUpdate (approvalId : Id) :
    PublishPhase → ∀ k : Key, (Row k → Bool) → (Row k → Row k) → PublishPhase → Prop
  | record {row} (h : Blank row) : PublishUpdate approvalId .idle (.pullRequest approvalId)
      (fun row => row.isNone) (fun _ => some row) .inserted
  | call (call : PullRequestCall) : PublishUpdate approvalId .holding (.githubCalls approvalId)
      (fun _ => true) (fun calls => some (call :: calls.getD [])) .calling
  | note {taskId} (id : Id) (event : TaskEvent) : PublishUpdate approvalId (.moved taskId)
      (.taskEvent id) (fun row => row.isNone) (fun _ => some event) (.moved taskId)

inductive PublishFlush (approvalId : Id) (adapter : Except String CreatedPullRequest) :
    PublishPhase → ∀ k : Key, Row k → Row k → PublishPhase → Prop
  | fail {record} : PublishFlush approvalId adapter (.loaded record) (.pullRequest approvalId)
      (some record) (some (record.moved .failed)) .failing
  | report {record created} (h : adapter = .ok created) : PublishFlush approvalId adapter
      (.loaded record) (.pullRequest approvalId) (some record) (some (record.finalizing created)) .reporting
  | move {taskId l n} (hl : l.status ≠ .prCreated) (hn : n.status = .prCreated) :
      PublishFlush approvalId adapter (.seen taskId) (.task taskId) (some l) (some n) (.moved taskId)
  | close {taskId record} : PublishFlush approvalId adapter (.moved taskId) (.pullRequest approvalId)
      (some record) (some (record.moved .created)) (.closing taskId)
  | again {taskId record} : PublishFlush approvalId adapter (.ready taskId) (.pullRequest approvalId)
      (some record) (some (record.moved .created)) (.closing taskId)

def PublishPhase.committed : PublishPhase → Option PublishPhase
  | idle | failing | ready _ | moved _ | closing _ => some idle
  | inserted => some holding
  | calling => some called
  | reporting => some reported
  | _ => none

def publishCourse (approvalId : Id) (adapter : Except String CreatedPullRequest) : Course Row PublishPhase where
  learn := PublishLearn approvalId
  number _ _ _ := False
  update := PublishUpdate approvalId
  flush := PublishFlush approvalId adapter
  commit x y := x.committed = some y
  rollback _ y := y = .idle
  miss _ _ guard _ := ∀ row, guard row = true
  skip x _ _ _ := ∃ record, x = .loaded record ∧ record.status ≠ .creating

section walks

variable {a : Id} {adapter : Except String CreatedPullRequest} {ctx : Option AuthContext}

theorem publish_resets : Resets (publishCourse a adapter) (· = .idle) :=
  ⟨fun _ hx => ⟨.idle,rfl,by rw [hx]; rfl⟩,fun _ _ => ⟨.idle,rfl,rfl⟩⟩

theorem publish_note {taskId owner : Id} (payload : TaskEventPayload) (createdAt : Time) :
    Writes (publishCourse a adapter) (.moved taskId) (createTaskEvent owner payload createdAt)
      (fun _ y => y = .moved taskId) fun _ _ => True :=
  fun id => ⟨_,Or.inl rfl,⟨_,.note id _,rfl⟩,_,Or.inl rfl,trivial⟩

theorem publish_result (record : PullRequestRecord) (statusCode : ℕ) :
    Writes (publishCourse a adapter) .idle (do
      let result ← pullRequestResultRead ctx a record
      pure (result,statusCode)) (fun _ y => y = .idle) fun _ _ => True :=
  (obeys_pullRequestResultRead ctx a record).still (fun _ => rfl) fun _ => trivial

theorem publish_close {x : PublishPhase} {taskId : Id} (record : PullRequestRecord) (statusCode : ℕ)
    (hx : x.committed = some .idle) (hP : PublishFlush a adapter x (.pullRequest a) (some record)
      (some (record.moved .created)) (.closing taskId)) :
    Writes (publishCourse a adapter) x (do
      flush (.pullRequest a) record (record.moved .created)
      commit
      let record ← refresh (.pullRequest a)
      let result ← pullRequestResultRead ctx a record
      pure (result,statusCode)) (fun _ y => y = .idle) fun _ _ => True := by
  have hread : Writes (publishCourse a adapter) .idle (do
      let record ← refresh (.pullRequest a)
      let result ← pullRequestResultRead ctx a record
      pure (result,statusCode)) (fun _ y => y = .idle) fun _ _ => True :=
    (obeys_refresh _).still (fun record => publish_result record statusCode) fun _ => trivial
  exact ⟨fun _ => ⟨x,Or.inl rfl,.idle,hx,hread⟩,fun _ => ⟨_,hP,.idle,rfl,hread⟩⟩

theorem publish_move (taskId : Id) (task : Task) (hs : task.status ≠ .prCreated) :
    Writes (publishCourse a adapter) (.seen taskId) (transitionTaskToPrCreated taskId task)
      (fun _ y => y = .moved taskId) fun _ _ => True := by
  unfold transitionTaskToPrCreated transitionTaskWith
  cases hv : validateTransition task.status .prCreated .system with
  | error e => exact trivial
  | ok nextStatus =>
    obtain ⟨rfl,_⟩ := validateTransition_ok hv
    apply Writes.bind
    intro updatedAt
    refine ⟨fun heq => absurd (congrArg Task.status (Option.some.inj heq)) hs,fun _ => ⟨_,.move hs rfl,?_⟩⟩
    apply Writes.bind
    intro createdAt
    exact Writes.bind ((publish_note _ createdAt).mono (fun _ _ hy => hy) fun _ _ _ => trivial)

theorem publish_finalize (record : PullRequestRecord) (statusCode : ℕ) :
    Writes (publishCourse a adapter) (.sure record.taskId) (finalizePullRequest ctx a record statusCode)
      (fun _ y => y = .idle) fun _ _ => True := by
  refine (obeys_enforce ctx _ _).still (fun _ => ?_) fun _ => trivial
  apply Writes.bind
  apply Writes.bind
  apply writes_getOr404 _ trivial
  intro db next task htask
  by_cases hs : task.status = .prCreated
  · refine ⟨.ready record.taskId,Or.inr (.done htask hs),?_⟩
    refine (obeys_getProject ctx _).still (fun _ => ?_) fun _ => trivial
    show Writes _ _ (if task.status ≠ .prCreated then _ else _) _ _
    rw [if_neg (not_not_intro hs)]
    exact publish_close record statusCode rfl .again
  · refine ⟨.seen record.taskId,Or.inr (.task htask),?_⟩
    refine (obeys_getProject ctx _).still (fun _ => ?_) fun _ => trivial
    show Writes _ _ (if task.status ≠ .prCreated then _ else _) _ _
    rw [if_pos hs]
    apply Writes.bind
    apply (publish_move record.taskId task hs).mono _ fun _ _ _ => trivial
    rintro moved _ rfl
    apply Writes.bind
    intro createdAt
    apply Writes.bind
    apply (publish_note _ createdAt).mono _ fun _ _ _ => trivial
    rintro _ _ rfl
    exact publish_close record statusCode rfl .close

variable (adapter ctx) in
theorem publish_existing {db : Db} (next : ℕ) {record : PullRequestRecord}
    (h : db (.pullRequest a) = some record) : ∃ y, (y = .idle ∨ PublishLearn a .idle db next y) ∧
      Writes (publishCourse a adapter) y (handleExistingPullRequest ctx a record)
        (fun _ y => y = .idle) fun _ _ => True := by
  by_cases hs : record.status = .finalizing
  · refine ⟨_,Or.inr (.existing h hs),?_⟩
    unfold handleExistingPullRequest
    rw [hs]
    dsimp only
    split
    · exact publish_finalize record 200
    · exact trivial
  · refine ⟨.idle,Or.inl rfl,?_⟩
    unfold handleExistingPullRequest
    cases hr : record.status with
    | created => exact publish_result record 200
    | finalizing => exact absurd hr hs
    | creating => exact trivial
    | failed => exact trivial
    | other name => exact trivial

theorem publish_fail : Writes (publishCourse a adapter) .called (markPullRequestFailed a)
    (fun _ _ => True) fun _ _ => True := by
  intro db next
  cases h : db (.pullRequest a) with
  | none => exact ⟨_,Or.inl rfl,by simp only [h]; trivial⟩
  | some record =>
    refine ⟨.loaded record,Or.inr (.load h),?_⟩
    show Writes _ _ (Prog.bind (.pure (db (.pullRequest a))) _) _ _
    rw [h]
    refine ⟨fun heq => ⟨.failing,Or.inr ⟨record,rfl,?_⟩,.idle,rfl,trivial⟩,
      fun _ => ⟨.failing,.fail,.idle,rfl,trivial⟩⟩
    have hstatus : record.status = .failed := congrArg PullRequestRecord.status (Option.some.inj heq)
    rw [hstatus]
    exact fun hcreating => by cases hcreating

theorem publish_persist {created : CreatedPullRequest} (h : adapter = .ok created) :
    Writes (publishCourse a adapter) .called (persistPullRequestFinalizing ctx a created)
      (fun _ y => y = .reported) fun _ _ => True := by
  apply Writes.bind
  apply Writes.bind
  apply writes_getOr404 _ trivial
  intro db next record hrecord
  refine ⟨.loaded record,Or.inr (.load hrecord),?_⟩
  refine (obeys_enforce ctx _ _).still (fun _ => ?_) fun _ => trivial
  refine ⟨fun heq => ⟨.reporting,Or.inr ⟨record,rfl,?_⟩,.reported,rfl,rfl⟩,
    fun _ => ⟨.reporting,.report h,.reported,rfl,rfl⟩⟩
  have hstatus : record.status = .finalizing := congrArg PullRequestRecord.status (Option.some.inj heq)
  rw [hstatus]
  exact fun hcreating => by cases hcreating

theorem publish_call (call : PullRequestCall) : Writes (publishCourse a adapter) .holding
    (createPullRequest a call) (fun _ y => y = .called) fun _ _ => True :=
  ⟨⟨.calling,.call call,.called,rfl,rfl⟩,.calling,Or.inr fun _ => rfl,.called,rfl,rfl⟩

theorem obeys_reloadCall {G : Type} {P : Course Row G} {Φ : G → Prop} (record : PullRequestRecord) :
    Obeys P Φ (reloadPullRequestCall record) :=
  (obeys_refresh _).bind fun _ => (obeys_refresh _).bind fun _ => (obeys_refresh _).bind fun _ =>
    (obeys_refresh _).bind fun _ => .pure _

theorem publish_publish (record : PullRequestRecord) : Writes (publishCourse a adapter) .holding
    (publishPullRequest ctx a record adapter) (fun _ _ => True) fun _ _ => True := by
  refine (obeys_reloadCall record).still (fun call => ?_) fun _ => trivial
  apply Writes.bind
  apply (publish_call call).mono _ fun _ _ _ => trivial
  rintro _ _ rfl
  cases hadapter : adapter with
  | error detail => exact Writes.bind (publish_fail.mono (fun _ _ _ => trivial) fun _ _ _ => trivial)
  | ok created =>
    apply Writes.bind
    apply (publish_persist rfl).mono _ fun _ _ _ => trivial
    rintro _ _ rfl
    apply Writes.bind
    apply writes_getOr404 _ trivial
    intro db next record hrecord
    refine ⟨_,Or.inr (.reload hrecord),?_⟩
    apply Writes.bind
    apply (publish_finalize record 201).mono _ fun _ _ _ => trivial
    rintro result _ rfl
    exact ⟨.idle,rfl,trivial⟩

theorem publish_conflict (x : PublishPhase) : Writes (publishCourse a adapter) x
    (pullRequestConflict ctx a) (fun _ _ => True) fun _ _ => True := by
  refine ⟨.idle,rfl,fun db next => ?_⟩
  cases h : db (.pullRequest a) with
  | none => exact ⟨_,Or.inl rfl,by simp only [h]; trivial⟩
  | some record =>
    obtain ⟨y,hy,hw⟩ := publish_existing adapter ctx next h
    refine ⟨y,hy,?_⟩
    simp only [h]
    exact hw.mono (fun _ _ _ => trivial) fun _ _ _ => trivial

theorem publish_create (replies : PublishReplies) : Writes (publishCourse a replies.adapter) .idle
    (createPullRequestForApproval ctx a replies) (fun _ _ => True) fun _ _ => True := by
  refine (obeys_getApproval ctx a).still (fun entry => ?_) fun _ => trivial
  apply (obeys_requirePermission publish_resets ctx).then rfl _ fun _ _ _ => trivial
  rintro _ _ rfl
  refine Writes.bind fun db next => ?_
  cases h : db (.pullRequest a) with
  | some record =>
    obtain ⟨y,hy,hw⟩ := publish_existing replies.adapter ctx next h
    refine ⟨y,hy,?_⟩
    simp only [Writes,h]
    apply Writes.bind
    apply hw.mono _ fun _ _ _ => trivial
    rintro result _ rfl
    exact ⟨.idle,rfl,trivial⟩
  | none =>
    refine ⟨.idle,Or.inl rfl,?_⟩
    simp only [Writes,h]
    apply Writes.bind
    have hrecord := gives_newRecord (P := publishCourse a replies.adapter) (Φ := (· = .idle)) ctx
      entry.1 entry.2 replies
    apply (hrecord .idle rfl).mono _ fun _ _ _ => trivial
    rintro _ _ ⟨⟨recordId,cloudRunId,cloudRun,repository,createdAt,rfl⟩,rfl⟩
    apply Writes.bind
    have hinsert (record : PullRequestRecord) (hblank : Blank record) :
        Writes (publishCourse a replies.adapter) .idle (catchIntegrityError (do
          insert (.pullRequest a) record
          commit
          pure none) (do
          let result ← pullRequestConflict ctx a
          pure (some result))) (fun conflict y => conflict = none → y = .holding) fun _ _ => True := by
      apply Writes.tryCatch
      refine ⟨⟨.inserted,.record hblank,.holding,rfl,fun _ => rfl⟩,.idle,Or.inl rfl,?_⟩
      show Writes (publishCourse a replies.adapter) .idle (pullRequestConflict ctx a >>= fun result => pure (some result)) _ _
      apply Writes.bind
      apply (publish_conflict .idle).mono _ fun _ _ _ => trivial
      intro result y _ hr
      cases hr
    apply (hinsert _ ⟨rfl,rfl,rfl⟩).mono _ fun _ _ _ => trivial
    intro conflict y hy
    cases conflict with
    | some result => exact trivial
    | none =>
      rw [hy rfl]
      exact publish_publish _

theorem publish_request (replies : PublishReplies) : Writes (publishCourse a replies.adapter) .idle
    (discard (createPullRequestForApproval ctx a replies)) (fun _ _ => True) fun _ _ => True :=
  Writes.bind ((publish_create replies).mono (fun _ _ _ => trivial) fun _ _ _ => trivial)

end walks

end AiScdc
