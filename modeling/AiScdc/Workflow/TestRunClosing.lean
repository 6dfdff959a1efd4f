import AiScdc.Workflow.TestRunLaunch

namespace AiScdc
open Transaction

section recording

variable {ctx : Option AuthContext} {base : Db} {p : Pending Row} {w : World}

-- With every new id free no insert is refused.
def Steady (p : Pending Row) (w : World) (p' : Pending Row) (w' : World) : Prop :=
  UnusedIds w'.next (p'.view w'.db) ∧ RunsUntouched p w p' w'

theorem RunsUntouched.trans {p₁ p₂ : Pending Row} {w₁ w₂ : World} (h : RunsUntouched p w p₁ w₁)
    (h' : RunsUntouched p₁ w₁ p₂ w₂) : RunsUntouched p w p₂ w₂ :=
  ⟨fun id => (h'.pend id).trans (h.pend id),fun id => (h'.stored id).trans (h.stored id)⟩

theorem wp_insert_steady {next : ℕ} (hunused : UnusedIds next (p.view w.db)) (hnext : w.next = next + 1)
    {k : Key} (hk : k = .taskEvent next ∨ k = .debugAttempt next) (row : k.Entity) :
    wp otherRequests (insert k row) (fun _ => Steady p w) (fun _ _ _ => False) p w := by
  have htask : k.isTask = false := by rcases hk with rfl | rfl <;> rfl
  have hfree : p.view w.db k = none := by
    rcases hk with rfl | rfl
    · exact hunused.event _ le_rfl
    · exact hunused.attempt _ le_rfl
  have hquiet (id : Id) : Key.localTestRun id ≠ k := by rcases hk with rfl | rfl <;> simp
  apply wp_others_insert htask
  intro w₁ he₁
  refine ⟨fun _ => ⟨?_,?_,?_⟩,fun h => (h hfree).elim⟩
  · have hunused₁ := UnusedIds.env (p := p) (w := w)
      (by rw [hnext]; exact hunused.later (Nat.le_succ _)) he₁
    apply hunused₁.put
    intro m hm
    rw [he₁.1.next,hnext] at hm
    rcases hk with rfl | rfl
    · exact ⟨fun heq => absurd (Key.taskEvent.inj heq ▸ hm) (Nat.not_succ_le_self _),by simp,by simp⟩
    · exact ⟨by simp,fun heq => absurd (Key.debugAttempt.inj heq ▸ hm) (Nat.not_succ_le_self _),by simp⟩
  · intro id
    exact Pending.put_ne _ _ _ (hquiet id)
  · intro id
    exact he₁.1.same _ rfl

theorem wp_event_steady (hunused : UnusedIds w.next (p.view w.db)) (taskId : Id)
    (payload : TaskEventPayload) (createdAt : Time) :
    wp otherRequests (createTaskEvent taskId payload createdAt) (fun _ => Steady p w)
      (fun _ _ _ => False) p w := by
  rw [createTaskEvent,wp_monad_bind,wp_freshId_env]
  intro w₁ he₁
  have hunused₁ : UnusedIds w₁.next (p.view w₁.db) := hunused.env he₁
  refine wp_mono _ (fun _ p₂ w₂ h₂ => ⟨h₂.1,?_⟩) (fun _ _ _ h => h)
    (wp_insert_steady (w := w₁.bump) hunused₁ rfl (Or.inl rfl) _)
  exact ⟨h₂.2.pend,fun id => (h₂.2.stored id).trans (he₁.1.same _ rfl)⟩

theorem wp_attempt_steady (hunused : UnusedIds w.next (p.view w.db)) (eventTime : Time) (taskId : Id)
    (task : Task) (patchArtifactId : Id) (artifact : PatchArtifact) (findings : DebugFindings) :
    wp otherRequests (createDebugAttempt eventTime taskId task patchArtifactId artifact findings)
      (fun _ => Steady p w) (fun _ _ _ => False) p w := by
  simp only [createDebugAttempt,wp_monad_bind,wp_freshId_env,wp_utcNow]
  intro w₁ he₁ createdAt
  have hunused₁ : UnusedIds w₁.next (p.view w₁.db) := hunused.env he₁
  refine wp_mono _ (fun _ p₂ w₂ h₂ => ?_) (fun _ _ _ h => h)
    (wp_insert_steady (w := w₁.bump) hunused₁ rfl (Or.inr rfl) _)
  rw [wp_monad_bind]
  refine wp_mono _ (fun _ p₃ w₃ h₃ => ⟨h₃.1,?_⟩) (fun _ _ _ h => h) (wp_event_steady h₂.1 _ _ _)
  have hwhole := h₂.2.trans h₃.2
  exact ⟨hwhole.pend,fun id => (hwhole.stored id).trans (he₁.1.same _ rfl)⟩

theorem wp_transition_steady (hunused : UnusedIds w.next (p.view w.db)) (eventTime : Time) (taskId : Id)
    {task : Task} {requested : TaskStatus}
    (hok : validateTransition task.status requested .system = .ok requested) :
    wp otherRequests (transitionTaskForWorkflow eventTime taskId task requested)
      (fun _ => Steady p w) (fun _ _ _ => False) p w := by
  simp only [transitionTaskForWorkflow,transitionTaskWith,hok]
  intro updatedAt
  have hevent {p₁ w₁} (hunused₁ : UnusedIds w₁.next (p₁.view w₁.db))
      (huntouched : RunsUntouched p w p₁ w₁) (payload : TaskEventPayload) (moved : Task) :
      wp otherRequests (createTaskEvent taskId payload eventTime >>= fun _ => pure moved)
        (fun _ => Steady p w) (fun _ _ _ => False) p₁ w₁ := by
    rw [wp_monad_bind]
    exact wp_mono _ (fun _ _ _ h => ⟨h.1,huntouched.trans h.2⟩) (fun _ _ _ h => h)
      (wp_event_steady hunused₁ _ _ _)
  constructor
  · intro _
    exact hevent hunused ⟨fun _ => rfl,fun _ => rfl⟩ _ _
  · intro _ w₁ he₁ _
    refine hevent ((hunused.env he₁).put _ _ fun m _ => ⟨by simp,by simp,by simp⟩) ⟨fun id => ?_,fun id => ?_⟩
      _ _
    · exact Pending.put_ne _ _ _ (by simp)
    · exact he₁.1.same _ rfl

theorem wp_transition_refused (eventTime : Time) (taskId : Id) {task : Task} {requested : TaskStatus}
    (hrefused : validateTransition task.status requested .system ≠ .ok requested) :
    wp otherRequests (transitionTaskForWorkflow eventTime taskId task requested)
      (fun _ _ _ => False) (fun e p' w' => e.isHttp = true ∧ RunsUntouched p w p' w') p w := by
  simp only [transitionTaskForWorkflow,transitionTaskWith]
  split
  · exact ⟨rfl,fun _ => rfl,fun _ => rfl⟩
  · rename_i next hok
    obtain ⟨rfl,_⟩ := validateTransition_ok hok
    exact (hrefused hok).elim

def recordReread (ctx : Option AuthContext) (eventClock : Time) (patchArtifactId taskId testRunId : Id)
    (outcome : TestOutcome) (row : Option Task) : Op PatchTestRunResult := do
  let task ← (match row with
    | some task => pure task
    | none => httpError 404 "Task not found" : Op Task)
  let _ ← getProject ctx task.projectId
  let artifact ← getPatchArtifactEntity ctx patchArtifactId
  let testRun ← getTestRunEntity ctx testRunId
  let tested ← completeTestRun testRunId patchArtifactId testRun artifact outcome.status
    outcome.commandResults outcome.failureReason
  createTaskEvent taskId
    (.testRunCompleted patchArtifactId testRunId tested.testRun.status outcome.reported)
    (eventClock + 3)
  let debugAttempt ← concludeTestRun (eventClock + 3) taskId patchArtifactId tested.artifact task testRunId
    (outcome.status = "passed") outcome.rootCause
  commit
  readPatchTestRun taskId patchArtifactId testRunId debugAttempt

theorem recordTestRun_eq (eventClock : Time) (patchArtifactId taskId testRunId : Id)
    (outcome : TestOutcome) : recordTestRun ctx eventClock patchArtifactId taskId testRunId outcome =
      get (.task taskId) >>= recordReread ctx eventClock patchArtifactId taskId testRunId outcome := by
  simp only [recordTestRun,getTask,getOr404,bind_assoc,pure_bind]
  refine bind_congr fun row => ?_
  cases row <;> rfl

-- The row of the test run after it has been completed and before the commit.
structure Completed (p : Pending Row) (w : World) (testRunId : Id) (p' : Pending Row) (w' : World) :
    Prop where
  unused : UnusedIds w'.next (p'.view w'.db)
  stored : ∃ x testRun, p' (.localTestRun testRunId) = some x ∧ x.value = some testRun ∧ testRun.Closed
  only : ∀ id, id ≠ testRunId → p' (.localTestRun id) = p (.localTestRun id)
  committed : ∀ id, w'.db (.localTestRun id) = w.db (.localTestRun id)

theorem wp_completeRunning {testRunId patchArtifactId : Id} {testRun : LocalTestRun}
    {artifact : PatchArtifact} {status : String} {commandResults : List CommandResult}
    {failureReason : Option String} (hunused : UnusedIds w.next w.db)
    (hrow : w.db (.localTestRun testRunId) = some testRun)
    (hartifact : w.db (.patchArtifact patchArtifactId) = some artifact)
    (hrunning : testRun.status = "running") (hstatus : status ≠ "running") :
    wp otherRequests (completeTestRun testRunId patchArtifactId testRun artifact status commandResults
        failureReason)
      (fun _ => Completed Pending.empty w testRunId) (fun _ _ _ => False) Pending.empty w := by
  simp only [completeTestRun,wp_monad_bind,wp_utcNow]
  intro now
  apply wp_others_flush (p := Pending.empty) rfl hrow
  · intro heq
    rw [heq] at hrunning
    exact (hstatus hrunning).elim
  · intro _ w₁ he₁
    have hused (m : ℕ) (hm : w₁.next ≤ m) : Key.localTestRun testRunId ≠ .localTestRun m := by
      intro heq
      rw [he₁.1.next] at hm
      have hnone := hunused.testRun m hm
      rw [← Key.localTestRun.inj heq,hrow] at hnone
      cases hnone
    have hunused₁ := (UnusedIds.env (p := Pending.empty) hunused he₁).put
      (k := .localTestRun testRunId) (some testRun)
      (some (testRun.completed status commandResults failureReason now))
      fun m hm => ⟨by simp,by simp,hused m hm⟩
    have hstored : ∃ x run, (Pending.empty.put (.localTestRun testRunId) (some testRun)
        (some (testRun.completed status commandResults failureReason now)) : Pending Row)
          (.localTestRun testRunId) = some x ∧ x.value = some run ∧ run.Closed :=
      ⟨_,_,Pending.put_self _ _ _ _,rfl,hstatus,by simp [LocalTestRun.completed]⟩
    have hcompleted : Completed Pending.empty w testRunId (Pending.empty.put (.localTestRun testRunId)
        (some testRun) (some (testRun.completed status commandResults failureReason now))) w₁ :=
      ⟨hunused₁,hstored,fun id hid => Pending.put_ne _ _ _ fun heq => hid (Key.localTestRun.inj heq),
        fun id => he₁.1.same _ rfl⟩
    rw [wp_monad_bind]
    apply wp_others_flush rfl
    · rw [Pending.view_put_ne _ _ _ _ (by simp),Pending.view_empty,he₁.1.same _ rfl]
      exact hartifact
    · intro _
      exact hcompleted
    · intro _ w₂ he₂
      constructor
      · exact (hcompleted.unused.env he₂).put _ _ fun m _ => ⟨by simp,by simp,by simp⟩
      · rw [Pending.put_ne _ _ _ (by simp)]
        exact hstored
      · intro id hid
        rw [Pending.put_ne _ _ _ (by simp)]
        exact hcompleted.only id hid
      · intro id
        exact (he₂.1.same _ rfl).trans (hcompleted.committed id)

-- What the request finds when it looks again: the rows that its first commit has left.
theorem wp_recordReread {patchArtifactId : Id} {launched : LaunchedTests} {task : Task}
    {outcome : TestOutcome} {Q : OpPost PatchTestRunResult} {E : OpPost Exn}
    (hlaunched : Launched ctx base patchArtifactId launched w)
    (htask : w.db (.task launched.taskId) = some task) (hstatus : outcome.status ≠ "running")
    (h : ∀ w₀ (tested : TestedPatch) p' w', (∀ id, w₀.db (.localTestRun id) = w.db (.localTestRun id)) →
      Completed Pending.empty w₀ launched.testRunId p' w' →
      wp otherRequests (do
        createTaskEvent launched.taskId
          (.testRunCompleted patchArtifactId launched.testRunId tested.testRun.status outcome.reported)
          (launched.eventClock + 3)
        let debugAttempt ← concludeTestRun (launched.eventClock + 3) launched.taskId patchArtifactId
          tested.artifact task launched.testRunId (outcome.status = "passed") outcome.rootCause
        commit
        readPatchTestRun launched.taskId patchArtifactId launched.testRunId debugAttempt) Q E p' w') :
    wp otherRequests (recordReread ctx launched.eventClock patchArtifactId launched.taskId
      launched.testRunId outcome (some task)) Q E Pending.empty w := by
  obtain ⟨artifact,projectId,htaskId,hfound⟩ := hlaunched.found
  obtain ⟨testRun,hrow,hrunning,haccessible⟩ := hlaunched.running
  have hprojectId : task.projectId = projectId := by
    obtain ⟨task',htask',hsame⟩ := hfound.task
    rw [← htaskId,htask] at htask'
    rw [Option.some.inj htask']
    exact hsame
  obtain ⟨project,hproject,hmember⟩ := hfound.project
  simp only [recordReread,getProject,getPatchArtifactEntity,getTestRunEntity,bind_assoc,pure_bind]
  rw [hprojectId,wp_monad_bind]
  apply wp_others_read rfl
  intro w₁ he₁
  constructor
  swap
  · intro hnone
    rw [Pending.view_empty,hproject] at hnone
    cases hnone
  intro project' hproject'
  obtain rfl := Option.some.inj (hproject.symm.trans hproject')
  rw [wp_monad_bind]
  refine wp_others_access (fun _ => ?_) (fun hno => (hno hmember).elim)
  rw [wp_monad_bind]
  apply wp_others_read rfl
  intro w₂ he₂
  have hpatch : w₁.db (.patchArtifact patchArtifactId) = some artifact :=
    (he₁.1.same _ rfl).trans hfound.patch
  constructor
  swap
  · intro hnone
    rw [Pending.view_empty,hpatch] at hnone
    cases hnone
  intro artifact' hartifact'
  obtain rfl := Option.some.inj (hpatch.symm.trans hartifact')
  rw [wp_monad_bind]
  refine wp_others_access (fun _ => ?_) (fun hno => (hno hfound.accessible).elim)
  rw [wp_monad_bind]
  apply wp_others_read rfl
  intro w₃ he₃
  have hrow₂ : w₂.db (.localTestRun launched.testRunId) = some testRun :=
    (he₂.1.same _ rfl).trans ((he₁.1.same _ rfl).trans hrow)
  constructor
  swap
  · intro hnone
    rw [Pending.view_empty,hrow₂] at hnone
    cases hnone
  intro testRun' htestRun'
  obtain rfl := Option.some.inj (hrow₂.symm.trans htestRun')
  rw [wp_monad_bind]
  refine wp_others_access (fun _ => ?_) (fun hno => (hno haccessible).elim)
  have hunused₃ := ((UnusedIds.env (p := Pending.empty) hlaunched.unused he₁).env he₂).env he₃
  have hpatch₃ : w₃.db (.patchArtifact patchArtifactId) = some artifact :=
    (he₃.1.same _ rfl).trans ((he₂.1.same _ rfl).trans hpatch)
  rw [wp_monad_bind]
  refine wp_mono _ (fun tested p₄ w₄ h₄ => h w₃ tested p₄ w₄ (fun id => ?_) h₄) (fun _ _ _ h => h.elim)
    (wp_completeRunning hunused₃ ((he₃.1.same _ rfl).trans hrow₂) hpatch₃ hrunning hstatus)
  exact (he₃.1.same _ rfl).trans ((he₂.1.same _ rfl).trans (he₁.1.same _ rfl))

theorem wp_concludeTestRun_steady (hunused : UnusedIds w.next (p.view w.db)) (eventClock : Time)
    (taskId patchArtifactId : Id) (artifact : PatchArtifact) {task : Task} (testRunId : Id)
    (outcome : TestOutcome)
    (hok : validateTransition task.status outcome.requested .system = .ok outcome.requested) :
    wp otherRequests (concludeTestRun eventClock taskId patchArtifactId artifact task testRunId
      (outcome.status = "passed") outcome.rootCause) (fun _ => Steady p w) (fun _ _ _ => False) p w := by
  simp only [TestOutcome.requested] at hok
  simp only [concludeTestRun,decide_eq_true_eq]
  split
  · rename_i hpassed
    rw [if_pos hpassed] at hok
    rw [wp_monad_bind]
    exact wp_transition_steady hunused _ _ hok
  · rename_i hfailed
    rw [if_neg hfailed] at hok
    rw [wp_monad_bind]
    refine wp_mono _ (fun _ p₁ w₁ h₁ => ?_) (fun _ _ _ h => h) (wp_attempt_steady hunused _ _ _ _ _ _)
    rw [wp_monad_bind]
    exact wp_mono _ (fun _ _ _ h => ⟨h.1,h₁.2.trans h.2⟩) (fun _ _ _ h => h)
      (wp_transition_steady h₁.1 _ _ hok)

theorem wp_concludeTestRun_refused (hunused : UnusedIds w.next (p.view w.db)) (eventClock : Time)
    (taskId patchArtifactId : Id) (artifact : PatchArtifact) {task : Task} (testRunId : Id)
    (outcome : TestOutcome)
    (hrefused : validateTransition task.status outcome.requested .system ≠ .ok outcome.requested) :
    wp otherRequests (concludeTestRun eventClock taskId patchArtifactId artifact task testRunId
      (outcome.status = "passed") outcome.rootCause) (fun _ _ _ => False)
      (fun e p' w' => e.isHttp = true ∧ RunsUntouched p w p' w') p w := by
  simp only [TestOutcome.requested] at hrefused
  simp only [concludeTestRun,decide_eq_true_eq]
  split
  · rename_i hpassed
    rw [if_pos hpassed] at hrefused
    rw [wp_monad_bind]
    exact wp_mono _ (fun _ _ _ h => h.elim) (fun _ _ _ h => h) (wp_transition_refused _ _ hrefused)
  · rename_i hfailed
    rw [if_neg hfailed] at hrefused
    rw [wp_monad_bind]
    refine wp_mono _ (fun _ p₁ w₁ h₁ => ?_) (fun _ _ _ h => h.elim)
      (wp_attempt_steady hunused _ _ _ _ _ _)
    rw [wp_monad_bind]
    exact wp_mono _ (fun _ _ _ h => h.elim) (fun _ _ _ h => ⟨h.1,h₁.2.trans h.2⟩)
      (wp_transition_refused _ _ hrefused)

theorem Launched.env {w' : World} {patchArtifactId : Id} {launched : LaunchedTests}
    (h : Launched ctx base patchArtifactId launched w) (he : TasksMoved w w') :
    Launched ctx base patchArtifactId launched w' := by
  have henv : Env otherRequests (Pending.empty : Pending Row) w w' := ⟨he,fun _ hk => (hk rfl).elim⟩
  obtain ⟨artifact,projectId,htaskId,hfound⟩ := h.found
  constructor
  · exact ⟨artifact,projectId,htaskId,hfound.env henv⟩
  · exact UnusedIds.env (p := Pending.empty) h.unused henv
  · obtain ⟨testRun,hrow,hrest⟩ := h.running
    exact ⟨testRun,(he.same _ rfl).trans hrow,hrest⟩
  · exact h.new
  · intro id hid
    exact (he.same _ rfl).trans (h.only id hid)

variable {patchArtifactId : Id} {launched : LaunchedTests} {task : Task} {outcome : TestOutcome}

theorem record_closes (hlaunched : Launched ctx base patchArtifactId launched w)
    (htask : w.db (.task launched.taskId) = some task) (hstatus : outcome.status ≠ "running")
    (hok : validateTransition task.status outcome.requested .system = .ok outcome.requested) :
    wp otherRequests (recordReread ctx launched.eventClock patchArtifactId launched.taskId
        launched.testRunId outcome (some task))
      (fun _ _ w' => RunsClosed base w'.db) (fun _ _ w' => RunsClosed base w'.db) Pending.empty w := by
  refine wp_recordReread hlaunched htask hstatus fun w₀ tested p₁ w₁ hsame h₁ => ?_
  rw [wp_monad_bind]
  refine wp_mono _ (fun _ p₂ w₂ h₂ => ?_) (fun _ _ _ h => h.elim) (wp_event_steady h₁.unused _ _ _)
  rw [wp_monad_bind]
  refine wp_mono _ (fun debugAttempt p₃ w₃ h₃ => ?_) (fun _ _ _ h => h.elim)
    (wp_concludeTestRun_steady h₂.1 _ _ _ _ _ outcome hok)
  have huntouched := h₂.2.trans h₃.2
  rw [wp_monad_bind]
  intro w₄ he₄
  have hclosed : RunsClosed base (p₃.view w₄.db) := by
    intro id testRun hnone hrow
    by_cases hid : id = launched.testRunId
    · obtain ⟨x,closed,hx,hvalue,hclosed⟩ := h₁.stored
      rw [hid,Pending.view_of_some ((huntouched.pend _).trans hx),hvalue] at hrow
      rw [← Option.some.inj hrow]
      exact hclosed
    · rw [Pending.view_of_none ((huntouched.pend id).trans (h₁.only id hid)),he₄.1.same _ rfl,
        huntouched.stored,h₁.committed,hsame,hlaunched.only id hid,hnone] at hrow
      cases hrow
  refine ⟨trivial,?_⟩
  exact wp_mono (readPatchTestRun _ _ _ _) (fun _ _ _ h => h.runsClosed hclosed)
    (fun _ _ _ h => h.runsClosed hclosed) (wp_spares (spares_readPatchTestRun _ _ _ _))

theorem record_refused (hlaunched : Launched ctx base patchArtifactId launched w)
    (htask : w.db (.task launched.taskId) = some task) (hstatus : outcome.status ≠ "running")
    (hrefused : validateTransition task.status outcome.requested .system ≠ .ok outcome.requested) :
    wp otherRequests (recordReread ctx launched.eventClock patchArtifactId launched.taskId
        launched.testRunId outcome (some task))
      (fun _ _ _ => False) (fun e _ w' => e.isHttp = true ∧
        w'.db (.localTestRun launched.testRunId) = w.db (.localTestRun launched.testRunId))
      Pending.empty w := by
  refine wp_recordReread hlaunched htask hstatus fun w₀ tested p₁ w₁ hsame h₁ => ?_
  rw [wp_monad_bind]
  refine wp_mono _ (fun _ p₂ w₂ h₂ => ?_) (fun _ _ _ h => h.elim) (wp_event_steady h₁.unused _ _ _)
  rw [wp_monad_bind]
  refine wp_mono _ (fun _ _ _ h => h.elim) (fun e p₃ w₃ h₃ => ⟨h₃.1,?_⟩)
    (wp_concludeTestRun_refused h₂.1 _ _ _ _ _ outcome hrefused)
  rw [h₃.2.stored,h₂.2.stored,h₁.committed,hsame]

end recording

theorem TestRunnerReply.Typed.not_running {reply : TestRunnerReply} (h : reply.Typed) :
    reply.outcome.status ≠ "running" := by
  cases reply with
  | error detail =>
    change "failed" ≠ "running"
    decide
  | result status commandResults =>
    rcases h with rfl | rfl
    · change "passed" ≠ "running"
      decide
    · change "failed" ≠ "running"
      decide

theorem interrupted_recordTestRun {moves : TaskMoves} (clock : ℕ → Time) (ctx : Option AuthContext)
    (patchArtifactId : Id) (launched : LaunchedTests) (reply : TestRunnerReply)
    {s : Transaction.Session Row} {task : Task} (hopen : s.pend = Pending.empty)
    (htask : (s.met moves.commits).world.db (.task launched.taskId) = some task) :
    interrupted moves.commits clock (finishPatchTestRun ctx patchArtifactId reply (.inl launched)) s =
      interrupted moves.commits clock (recordReread ctx launched.eventClock patchArtifactId
        launched.taskId launched.testRunId reply.outcome (some task)) (s.met moves.commits) := by
  have hview : (s.met moves.commits).pend.view (s.met moves.commits).world.db (.task launched.taskId) =
      some task := by
    change s.pend.view _ _ = _
    rw [hopen]
    exact htask
  change interrupted moves.commits clock (recordTestRun ctx launched.eventClock patchArtifactId
    launched.taskId launched.testRunId reply.outcome) s = _
  rw [recordTestRun_eq]
  change interrupted moves.commits clock (recordReread ctx launched.eventClock patchArtifactId
    launched.taskId launched.testRunId reply.outcome
    ((s.met moves.commits).pend.view (s.met moves.commits).world.db (.task launched.taskId)))
    (s.met moves.commits) = _
  rw [hview]

section endings

variable {base : Db} {ending : Except Exn PatchTestRunResult × Transaction.Session Row}

theorem closed_of_endsIn (h : EndsIn (fun _ _ w => RunsClosed base w.db)
    (fun _ _ w => RunsClosed base w.db) ending) : RunsClosed base ending.2.world.db := by
  obtain ⟨result,s⟩ := ending
  cases result <;> exact h

theorem running_of_endsIn {ctx : Option AuthContext} {patchArtifactId : Id} {launched : LaunchedTests}
    {w : World} (hlaunched : Launched ctx base patchArtifactId launched w)
    (h : EndsIn (fun _ _ _ => False) (fun e _ w' => e.isHttp = true ∧
      w'.db (.localTestRun launched.testRunId) = w.db (.localTestRun launched.testRunId)) ending)
    (hends : TestRunEnds base ending) : False := by
  obtain ⟨result,s⟩ := ending
  obtain ⟨testRun,hrow,hrunning,_⟩ := hlaunched.running
  cases result with
  | ok a => exact h
  | error e =>
    obtain ⟨hhttp,hsame⟩ := h
    have hclosed := hends (by simpa using hhttp) launched.testRunId testRun hlaunched.new
      (hsame.trans hrow)
    exact hclosed.1 hrunning

end endings

theorem patch_test_run_ends_iff (moves : TaskMoves) (clock : ℕ → Time) (ctx : Option AuthContext)
    (patchArtifactId : Id) (reply : TestRunnerReply) (s : Transaction.Session Row) (hreply : reply.Typed)
    (hopen : s.pend = Pending.empty) (hunused : UnusedIds s.world.next s.world.db) :
    TestRunEnds s.world.db
        (interrupted moves.commits clock (startPatchTestRun ctx patchArtifactId reply) s) ↔
      RereadPermits moves clock ctx patchArtifactId reply s := by
  have hlaunch := interrupted_ends clock moves.rely (fun _ _ _ _ => trivial)
    (launchPatchTestRun ctx patchArtifactId) s (by rw [hopen]; exact wp_launchPatchTestRun hunused _ _)
  have hwhole := interrupted_bind moves.commits clock
    (launchPatchTestRun ctx patchArtifactId) (finishPatchTestRun ctx patchArtifactId reply) s
  rw [startPatchTestRun_eq]
  change TestRunEnds s.world.db (interrupted moves.commits clock
    ((launchPatchTestRun ctx patchArtifactId).bind (finishPatchTestRun ctx patchArtifactId reply)) s) ↔ _
  rw [hwhole]
  generalize hresult : interrupted moves.commits clock (launchPatchTestRun ctx patchArtifactId) s =
    result at hlaunch
  obtain ⟨ending,s₁⟩ := result
  have hother (h : ∀ launched, ending ≠ .ok (.inl launched)) :
      RereadPermits moves clock ctx patchArtifactId reply s := by
    intro launched s' heq
    rw [hresult] at heq
    exact (h launched (Prod.ext_iff.mp heq).1).elim
  match ending, hlaunch, hother with
  | .error e, hlaunch, hother =>
    exact ⟨fun _ => hother (by simp),fun _ _ => hlaunch⟩
  | .ok (.inr r), hlaunch, hother =>
    exact ⟨fun _ => hother (by simp),fun _ _ => hlaunch⟩
  | .ok (.inl launched), hlaunch, _ =>
    obtain ⟨hpend,hlaunched⟩ := hlaunch
    have hlater := hlaunched.env (moves.rely s₁)
    obtain ⟨artifact,projectId,htaskId,hfound⟩ := hlater.found
    obtain ⟨task,htask,_⟩ := hfound.task
    rw [← htaskId] at htask
    have hrecord := interrupted_recordTestRun clock ctx patchArtifactId launched reply hpend htask
    change TestRunEnds s.world.db (interrupted moves.commits clock
      (finishPatchTestRun ctx patchArtifactId reply (.inl launched)) s₁) ↔ _
    rw [hrecord]
    have hopen₁ : (s₁.met moves.commits).pend = Pending.empty := hpend
    by_cases hok : validateTransition task.status reply.outcome.requested .system =
        .ok reply.outcome.requested
    · have hclosed := interrupted_ends clock moves.rely (fun _ _ _ _ => trivial)
        (recordReread ctx launched.eventClock patchArtifactId launched.taskId launched.testRunId
          reply.outcome (some task)) (s₁.met moves.commits)
        (by rw [hopen₁]; exact record_closes hlater htask hreply.not_running hok)
      constructor
      · intro _ launched' s' heq task' htask'
        rw [hresult] at heq
        obtain ⟨hinl,rfl⟩ := Prod.ext_iff.mp heq
        obtain rfl := Sum.inl.inj (Except.ok.inj hinl)
        obtain rfl := Option.some.inj (htask.symm.trans htask')
        exact hok
      · intro _ _
        exact closed_of_endsIn hclosed
    · have hstuck := interrupted_ends clock moves.rely (fun _ _ _ _ => trivial)
        (recordReread ctx launched.eventClock patchArtifactId launched.taskId launched.testRunId
          reply.outcome (some task)) (s₁.met moves.commits)
        (by rw [hopen₁]; exact record_refused hlater htask hreply.not_running hok)
      constructor
      · intro hends
        exact (running_of_endsIn hlater hstuck hends).elim
      · intro hpermits
        exact (hok (hpermits launched s₁ hresult task htask)).elim

def plannedTask : Task := ⟨2,.patchReady,none,none,none,0,"task",["src/**"],["make test"]⟩

def plannedPatch : PatchArtifact := ⟨1,2,3,4,"patch",["src/a.py"],[],"not_run",[],"diff",0⟩

def plannedRun : LocalTaskRun :=
  ⟨1,2,3,5,.patchReady,"local","main",none,none,some "/srv/worktree",some 6,none,0⟩

def plannedDb : Db
  | .project 2 => some ⟨1⟩
  | .task 3 => some plannedTask
  | .localTaskRun 4 => some plannedRun
  | .patchArtifact 6 => some plannedPatch
  | _ => none

def plannedSession : Transaction.Session Row := ⟨⟨plannedDb,7⟩,Pending.empty,0⟩

-- Another request cancels the task while its tests run.
def taskCancelling : TaskMoves := fun _ _ task =>
  (if task.status = .selfTesting then .cancelled else task.status,task.updatedAt)

theorem patch_test_run_ends_planned :
    TestRunEnds plannedDb (interrupted taskCancelling.commits Int.ofNat
        (startPatchTestRun none 6 (.result "passed" [])) plannedSession) ↔
      RereadPermits taskCancelling Int.ofNat none 6 (.result "passed" []) plannedSession :=
  patch_test_run_ends_iff taskCancelling Int.ofNat none 6 (.result "passed" []) plannedSession (Or.inl rfl) rfl
    ⟨fun _ _ => rfl,fun _ _ => rfl,fun _ _ => rfl⟩

theorem cancelled_test_run_stays : ¬ TestRunEnds plannedDb (interrupted taskCancelling.commits Int.ofNat
    (startPatchTestRun none 6 (.result "passed" [])) plannedSession) := by
  intro h
  let ending := interrupted taskCancelling.commits Int.ofNat (startPatchTestRun none 6 (.result "passed" []))
    plannedSession
  have hhttp : (match ending.1 with | .error e => e.isHttp | .ok _ => false) = true := by
    decide +kernel
  have hrow : (ending.2.world.db (.localTestRun 7)).map LocalTestRun.status = some "running" := by
    decide +kernel
  obtain ⟨testRun,htestRun,hstatus⟩ := Option.map_eq_some_iff.mp hrow
  have hclosed := h (fun e he => by simpa [ending,he] using hhttp) 7 testRun rfl htestRun
  exact hclosed.1 hstatus

end AiScdc
