import AiScdc.Workflow.OtherRequests

namespace AiScdc
open Transaction

-- The patch and its task with its project, as the request has found them.
structure Found (ctx : Option AuthContext) (patchArtifactId : Id) (artifact : PatchArtifact)
    (projectId : Id) (db : Db) : Prop where
  patch : db (.patchArtifact patchArtifactId) = some artifact
  accessible : Accessible ctx artifact.workspaceId
  task : ∃ task, db (.task artifact.taskId) = some task ∧ task.projectId = projectId
  project : ∃ project, db (.project projectId) = some project ∧ Accessible ctx project.workspaceId

structure UnusedIds (next : ℕ) (db : Db) : Prop where
  event : ∀ n, next ≤ n → db (.taskEvent n) = none
  attempt : ∀ n, next ≤ n → db (.debugAttempt n) = none
  testRun : ∀ n, next ≤ n → db (.localTestRun n) = none

def RunsSame (base db : Db) : Prop := ∀ id, db (.localTestRun id) = base (.localTestRun id)

structure Begun (ctx : Option AuthContext) (base : Db) (patchArtifactId : Id)
    (artifact : PatchArtifact) (projectId testRunId : Id) (testRun : LocalTestRun)
    (p : Pending Row) (w : World) : Prop where
  found : Found ctx patchArtifactId artifact projectId (p.view w.db)
  unused : UnusedIds w.next (p.view w.db)
  stored : ∃ x, p (.localTestRun testRunId) = some x ∧ x.value = some testRun
  only : ∀ id, id ≠ testRunId → p (.localTestRun id) = none
  committed : RunsSame base w.db

section begun

variable {ctx : Option AuthContext} {base : Db} {patchArtifactId projectId testRunId : Id}
  {artifact : PatchArtifact} {testRun : LocalTestRun} {p : Pending Row} {w w' : World}

theorem Found.env (h : Found ctx patchArtifactId artifact projectId (p.view w.db))
    (he : Env otherRequests p w w') : Found ctx patchArtifactId artifact projectId (p.view w'.db) := by
  constructor
  · rw [others_view he rfl]
    exact h.patch
  · exact h.accessible
  · obtain ⟨task,htask,hproject⟩ := h.task
    obtain ⟨task',htask',hsame⟩ := others_task he htask
    exact ⟨task',htask',hsame.trans hproject⟩
  · rw [others_view he rfl]
    exact h.project

theorem UnusedIds.env (h : UnusedIds w.next (p.view w.db)) (he : Env otherRequests p w w') :
    UnusedIds w'.next (p.view w'.db) := by
  have hnext := he.1.next
  constructor
  · intro n hn
    rw [others_view he rfl]
    exact h.event n (hnext ▸ hn)
  · intro n hn
    rw [others_view he rfl]
    exact h.attempt n (hnext ▸ hn)
  · intro n hn
    rw [others_view he rfl]
    exact h.testRun n (hnext ▸ hn)

theorem UnusedIds.later {db : Db} {n m : ℕ} (h : UnusedIds n db) (hnm : n ≤ m) : UnusedIds m db where
  event k hk := h.event k (hnm.trans hk)
  attempt k hk := h.attempt k (hnm.trans hk)
  testRun k hk := h.testRun k (hnm.trans hk)

theorem UnusedIds.put {n : ℕ} (h : UnusedIds n (p.view w.db)) {k : Key} (l v : Row k)
    (hk : ∀ m, n ≤ m → k ≠ .taskEvent m ∧ k ≠ .debugAttempt m ∧ k ≠ .localTestRun m) :
    UnusedIds n ((p.put k l v).view w.db) := by
  constructor
  · intro m hm
    rw [Pending.view_put_ne _ _ _ _ (hk m hm).1.symm]
    exact h.event m hm
  · intro m hm
    rw [Pending.view_put_ne _ _ _ _ (hk m hm).2.1.symm]
    exact h.attempt m hm
  · intro m hm
    rw [Pending.view_put_ne _ _ _ _ (hk m hm).2.2.symm]
    exact h.testRun m hm

theorem RunsSame.env (h : RunsSame base w.db) (he : Env otherRequests p w w') : RunsSame base w'.db := by
  intro id
  rw [he.1.same _ rfl]
  exact h id

theorem Begun.env (h : Begun ctx base patchArtifactId artifact projectId testRunId testRun p w)
    (he : Env otherRequests p w w') :
    Begun ctx base patchArtifactId artifact projectId testRunId testRun p w' :=
  ⟨h.found.env he,h.unused.env he,h.stored,h.only,h.committed.env he⟩

theorem Begun.bump (h : Begun ctx base patchArtifactId artifact projectId testRunId testRun p w) :
    Begun ctx base patchArtifactId artifact projectId testRunId testRun p w.bump :=
  ⟨h.found,h.unused.later (Nat.le_succ _),h.stored,h.only,h.committed⟩

theorem Begun.event (h : Begun ctx base patchArtifactId artifact projectId testRunId testRun p w)
    {n : ℕ} (hn : n < w.next) (l v : Row (.taskEvent n)) :
    Begun ctx base patchArtifactId artifact projectId testRunId testRun (p.put (.taskEvent n) l v) w := by
  have hview (k : Key) (hk : k ≠ .taskEvent n) :
      (p.put (.taskEvent n) l v).view w.db k = p.view w.db k := Pending.view_put_ne _ _ _ _ hk
  constructor
  · constructor
    · rw [hview _ (by simp)]
      exact h.found.patch
    · exact h.found.accessible
    · rw [hview _ (by simp)]
      exact h.found.task
    · rw [hview _ (by simp)]
      exact h.found.project
  · exact h.unused.put l v fun m hm =>
      ⟨fun heq => absurd hn (Nat.not_lt.mpr (Key.taskEvent.inj heq ▸ hm)),by simp,by simp⟩
  · rw [Pending.put_ne _ _ _ (by simp)]
    exact h.stored
  · intro id hid
    rw [Pending.put_ne _ _ _ (by simp)]
    exact h.only id hid
  · exact h.committed

theorem Begun.move (h : Begun ctx base patchArtifactId artifact projectId testRunId testRun p w)
    {l : Row (.task artifact.taskId)} {task : Task} (htask : task.projectId = projectId) :
    Begun ctx base patchArtifactId artifact projectId testRunId testRun
      (p.put (.task artifact.taskId) l (some task)) w := by
  have hview (k : Key) (hk : k ≠ .task artifact.taskId) :
      (p.put (.task artifact.taskId) l (some task)).view w.db k = p.view w.db k :=
    Pending.view_put_ne _ _ _ _ hk
  constructor
  · constructor
    · rw [hview _ (by simp)]
      exact h.found.patch
    · exact h.found.accessible
    · exact ⟨task,Pending.view_put_self _ _ _ _ _,htask⟩
    · rw [hview _ (by simp)]
      exact h.found.project
  · exact h.unused.put l _ fun m hm => ⟨by simp,by simp,by simp⟩
  · rw [Pending.put_ne _ _ _ (by simp)]
    exact h.stored
  · intro id hid
    rw [Pending.put_ne _ _ _ (by simp)]
    exact h.only id hid
  · exact h.committed

theorem wp_begun_event (h : Begun ctx base patchArtifactId artifact projectId testRunId testRun p w)
    (taskId : Id) (payload : TaskEventPayload) (createdAt : Time) :
    wp otherRequests (createTaskEvent taskId payload createdAt)
      (fun _ => Begun ctx base patchArtifactId artifact projectId testRunId testRun)
      (fun _ _ w' => RunsSame base w'.db) p w := by
  intro w₁ he₁
  have h₁ := h.env he₁
  apply wp_others_insert rfl
  intro w₂ he₂
  have h₂ := h₁.bump.env he₂
  constructor
  · intro _
    exact h₂.event (by rw [he₂.1.next]; exact Nat.lt_succ_self _) _ _
  · intro _
    exact h₂.committed

theorem wp_begun_transition
    (h : Begun ctx base patchArtifactId artifact projectId testRunId testRun p w)
    (eventTime : Time) (task : Task) (requested : TaskStatus) :
    wp otherRequests (transitionTaskForWorkflow eventTime artifact.taskId task requested)
      (fun _ => Begun ctx base patchArtifactId artifact projectId testRunId testRun)
      (fun _ _ w' => RunsSame base w'.db) p w := by
  simp only [transitionTaskForWorkflow,transitionTaskWith]
  split
  · exact h.committed
  · intro updatedAt
    have hevent {p w} (h : Begun ctx base patchArtifactId artifact projectId testRunId testRun p w)
        (payload : TaskEventPayload) (moved : Task) :
        wp otherRequests (createTaskEvent artifact.taskId payload eventTime >>= fun _ => pure moved)
          (fun _ => Begun ctx base patchArtifactId artifact projectId testRunId testRun)
          (fun _ _ w' => RunsSame base w'.db) p w := by
      rw [wp_monad_bind]
      exact wp_begun_event h _ _ _
    constructor
    · intro _
      exact hevent h _ _
    · intro _ w' he _
      have h' := h.env he
      obtain ⟨current,hcurrent,hproject⟩ := h'.found.task
      have hmerged (moved : Task) (hmoved : moved.projectId = task.projectId) :
          (task.flush moved current).projectId = projectId := by
        simp [Task.flush,hmoved,hproject]
      rw [hcurrent]
      refine hevent (h'.move ?_) _ _
      exact hmerged _ rfl

theorem Begun.start (hfound : Found ctx patchArtifactId artifact projectId w.db)
    (hunused : UnusedIds (testRunId + 1) w.db) (hnext : w.next = testRunId + 1)
    (hsame : RunsSame base w.db) (l : Row (.localTestRun testRunId)) (testRun : LocalTestRun) :
    Begun ctx base patchArtifactId artifact projectId testRunId testRun
      (Pending.empty.put (.localTestRun testRunId) l (some testRun)) w := by
  have hview (k : Key) (hk : k ≠ .localTestRun testRunId) :
      ((Pending.empty : Pending Row).put (.localTestRun testRunId) l (some testRun)).view w.db k =
        w.db k := Pending.view_put_ne _ _ _ _ hk
  constructor
  · constructor
    · rw [hview _ (by simp)]
      exact hfound.patch
    · exact hfound.accessible
    · rw [hview _ (by simp)]
      exact hfound.task
    · rw [hview _ (by simp)]
      exact hfound.project
  · rw [hnext]
    constructor
    · intro m hm
      rw [hview _ (by simp)]
      exact hunused.event m hm
    · intro m hm
      rw [hview _ (by simp)]
      exact hunused.attempt m hm
    · intro m hm
      rw [hview _ fun heq => absurd (Key.localTestRun.inj heq ▸ hm) (Nat.not_succ_le_self _)]
      exact hunused.testRun m hm
  · exact ⟨_,Pending.put_self _ _ _ _,rfl⟩
  · intro id hid
    rw [Pending.put_ne _ _ _ fun heq => hid (Key.localTestRun.inj heq)]
    rfl
  · exact hsame

theorem wp_begin (hfound : Found ctx patchArtifactId artifact projectId w.db)
    (hunused : UnusedIds w.next w.db) (hsame : RunsSame base w.db) (eventClock : Time) (task : Task)
    (commands : List String) :
    wp otherRequests (beginTestRun eventClock patchArtifactId artifact task commands)
      (fun r p' w' => r.2.1.status = "running" ∧ r.2.1.workspaceId = artifact.workspaceId ∧
        base (.localTestRun r.1) = none ∧
        Begun ctx base patchArtifactId artifact projectId r.1 r.2.1 p' w')
      (fun _ _ w' => RunsSame base w'.db) Pending.empty w := by
  simp only [beginTestRun,wp_monad_bind,wp_freshId_env,wp_utcNow]
  intro w₁ he₁ createdAt
  have hfound₁ := Found.env (p := Pending.empty) (w := w) hfound he₁
  have hunused₁ := UnusedIds.env (p := Pending.empty) (w := w) hunused he₁
  have hsame₁ := hsame.env he₁
  have hnew : base (.localTestRun w₁.next) = none := by
    rw [← hsame₁]
    exact hunused₁.testRun _ le_rfl
  apply wp_others_insert rfl
  intro w₂ he₂
  have hsame₂ := RunsSame.env (w := w₁.bump) hsame₁ he₂
  constructor
  · intro _
    have hfound₂ := Found.env (p := Pending.empty) (w := w₁.bump) hfound₁ he₂
    have hunused₂ := UnusedIds.env (p := Pending.empty) (w := w₁.bump)
      (hunused₁.later (Nat.le_succ _)) he₂
    have hnext : w₂.next = w₁.next + 1 := he₂.1.next
    rw [hnext] at hunused₂
    have hbegun := Begun.start hfound₂ hunused₂ hnext hsame₂ (w₂.db (.localTestRun w₁.next))
      (newTestRun artifact task patchArtifactId "running" commands none createdAt)
    rw [wp_monad_bind]
    refine wp_mono _ (fun _ p₃ w₃ h₃ => ?_) (fun _ _ _ h => h) (wp_begun_event hbegun _ _ _)
    rw [wp_monad_bind]
    refine wp_mono _ (fun _ p₄ w₄ h₄ => ?_) (fun _ _ _ h => h) (wp_begun_transition h₃ _ _ _)
    exact ⟨rfl,rfl,hnew,h₄⟩
  · intro _
    exact hsame₂

end begun

def RunsClosed (base db : Db) : Prop := ∀ id testRun, base (.localTestRun id) = none →
  db (.localTestRun id) = some testRun → testRun.Closed

-- What the open transaction would leave behind.
def PendClosed (base : Db) (p : Pending Row) : Prop := ∀ id x testRun, p (.localTestRun id) = some x →
  base (.localTestRun id) = none → x.value = some testRun → testRun.Closed

structure RunsUntouched (p : Pending Row) (w : World) (p' : Pending Row) (w' : World) : Prop where
  pend : ∀ id, p' (.localTestRun id) = p (.localTestRun id)
  stored : ∀ id, w'.db (.localTestRun id) = w.db (.localTestRun id)

section closing

variable {α : Type} {base : Db} {p : Pending Row} {w w' : World}

theorem RunsSame.closed {db : Db} (h : RunsSame base db) : RunsClosed base db := by
  intro id testRun hnone hrow
  rw [h id,hnone] at hrow
  cases hrow

theorem wp_spares {m : Op α} (hm : Within SparesRuns m) :
    wp otherRequests m (fun _ p' w' => RunsUntouched p w p' w')
      (fun _ p' w' => RunsUntouched p w p' w') p w := by
  have hend {p' w'} (h : Evolved Drifted SparesRuns p w p' w') : RunsUntouched p w p' w' :=
    ⟨fun id => h.same _ fun hq => hq id rfl,fun id => h.drift.same _ rfl⟩
  exact wp_within drift_others m hm (fun _ _ _ h => hend h) (fun _ _ _ h => hend h)

theorem RunsClosed.committed (hw : RunsClosed base w.db) (hp : PendClosed base p) :
    RunsClosed base (p.view w.db) := by
  intro id testRun hnone hrow
  cases hx : p (.localTestRun id) with
  | none =>
    rw [Pending.view_of_none hx] at hrow
    exact hw id testRun hnone hrow
  | some x =>
    rw [Pending.view_of_some hx] at hrow
    exact hp id x testRun hx hnone hrow

theorem RunsUntouched.runsSame {p' : Pending Row} (h : RunsUntouched p w p' w')
    (hsame : RunsSame base w.db) : RunsSame base w'.db :=
  fun id => (h.stored id).trans (hsame id)

theorem RunsUntouched.runsClosed {p' : Pending Row} (h : RunsUntouched p w p' w')
    (hclosed : RunsClosed base w.db) : RunsClosed base w'.db := by
  intro id testRun hnone hrow
  rw [h.stored] at hrow
  exact hclosed id testRun hnone hrow

theorem RunsUntouched.pendClosed {p' : Pending Row} (h : RunsUntouched p w p' w')
    (hclosed : PendClosed base p) : PendClosed base p' := by
  intro id x testRun hx
  rw [h.pend] at hx
  exact hclosed id x testRun hx

theorem RunsUntouched.view {p' : Pending Row} (h : RunsUntouched p w p' w') (id : Id) :
    p'.view w'.db (.localTestRun id) = p.view w.db (.localTestRun id) := by
  simp only [Pending.view,h.pend,h.stored]

theorem wp_completeTestRun {testRunId patchArtifactId : Id} {testRun : LocalTestRun}
    {artifact : PatchArtifact} {status : String} {commandResults : List CommandResult}
    {failureReason : Option String}
    (hview : p.view w.db (.localTestRun testRunId) = some testRun)
    (hothers : ∀ id, id ≠ testRunId → p (.localTestRun id) = none)
    (hstatus : base (.localTestRun testRunId) = none → status ≠ "running")
    (hsame : RunsSame base w.db) :
    wp otherRequests (completeTestRun testRunId patchArtifactId testRun artifact status commandResults
        failureReason)
      (fun _ p' w' => PendClosed base p' ∧ RunsSame base w'.db) (fun _ _ w' => RunsSame base w'.db)
      p w := by
  simp only [completeTestRun,wp_monad_bind,wp_utcNow]
  intro now
  have hrest {p₁ w₁} (hp₁ : PendClosed base p₁) (hw₁ : RunsSame base w₁.db) (tested : PatchArtifact) :
      wp otherRequests (flush (.patchArtifact patchArtifactId) artifact tested)
        (fun _ p' w' => PendClosed base p' ∧ RunsSame base w'.db) (fun _ _ w' => RunsSame base w'.db)
        p₁ w₁ :=
    wp_mono _ (fun _ _ _ h => ⟨h.pendClosed hp₁,h.runsSame hw₁⟩) (fun _ _ _ h => h.runsSame hw₁)
      (wp_spares ⟨by simp [SparesRuns],trivial⟩)
  have hclosed (h : base (.localTestRun testRunId) = none) :
      (testRun.completed status commandResults failureReason now).Closed :=
    ⟨hstatus h,by simp [LocalTestRun.completed]⟩
  apply wp_others_flush rfl hview
  · intro heq
    refine hrest ?_ hsame _
    intro id x run hx hnone hvalue
    by_cases hid : id = testRunId
    · subst hid
      rw [Pending.view_of_some hx,hvalue] at hview
      rw [Option.some.inj hview,heq]
      exact hclosed hnone
    · rw [hothers id hid] at hx
      cases hx
  · intro _ w₁ he₁
    refine hrest ?_ (hsame.env he₁) _
    intro id x run hx hnone hvalue
    by_cases hid : id = testRunId
    · subst hid
      rw [Pending.put_self] at hx
      obtain rfl := Option.some.inj hx
      rw [← Option.some.inj hvalue]
      exact hclosed hnone
    · rw [Pending.put_ne _ _ _ fun heq => hid (Key.localTestRun.inj heq),hothers id hid] at hx
      cases hx

-- The rest of a request after its last statement on test runs, with its commit.
theorem wp_closing_commit {m : Op α} (hm : Within SparesRuns m) (hp : PendClosed base p)
    (hsame : RunsSame base w.db) :
    wp otherRequests (commit >>= fun _ => m)
      (fun _ p' w' => (∀ id, p' (.localTestRun id) = none) ∧ RunsClosed base w'.db)
      (fun _ _ w' => RunsClosed base w'.db) p w := by
  rw [wp_monad_bind]
  intro w₁ he₁
  have hclosed := (hsame.env he₁).closed.committed hp
  refine ⟨trivial,?_⟩
  exact wp_mono m (fun _ _ _ h => ⟨h.pend,h.runsClosed hclosed⟩) (fun _ _ _ h => h.runsClosed hclosed)
    (wp_spares hm)

end closing

section launching

variable {ctx : Option AuthContext} {base : Db} {patchArtifactId projectId : Id}
  {artifact : PatchArtifact} {p : Pending Row} {w : World}

theorem wp_startCloudFakeTestRun (hfound : Found ctx patchArtifactId artifact projectId w.db)
    (hunused : UnusedIds w.next w.db) (hsame : RunsSame base w.db) (task : Task) :
    wp otherRequests (startCloudFakeTestRun patchArtifactId artifact task)
      (fun _ p' w' => (∀ id, p' (.localTestRun id) = none) ∧ RunsClosed base w'.db)
      (fun _ _ w' => RunsClosed base w'.db) Pending.empty w := by
  rw [startCloudFakeTestRun,wp_monad_bind,wp_utcNow]
  intro eventClock
  rw [wp_monad_bind]
  refine wp_mono _ (fun r p₁ w₁ h₁ => ?_) (fun _ _ _ h => h.closed)
    (wp_begin hfound hunused hsame eventClock task _)
  obtain ⟨_,_,_,hbegun⟩ := h₁
  obtain ⟨x,hx,hvalue⟩ := hbegun.stored
  have hview : p₁.view w₁.db (.localTestRun r.1) = some r.2.1 := (Pending.view_of_some hx _).trans hvalue
  rw [wp_monad_bind]
  refine wp_mono _ (fun tested p₂ w₂ h₂ => ?_) (fun _ _ _ h => h.closed)
    (wp_completeTestRun hview hbegun.only (fun _ => by decide) hbegun.committed)
  rw [wp_monad_bind]
  refine wp_mono _ (fun _ p₃ w₃ h₃ => ?_) (fun _ _ _ h => (h.runsSame h₂.2).closed)
    (wp_spares (spares_createTaskEvent _ _ _))
  rw [wp_monad_bind]
  refine wp_mono _ (fun _ p₄ w₄ h₄ => ?_)
    (fun _ _ _ h => (h.runsSame (h₃.runsSame h₂.2)).closed) (wp_spares (spares_transition _ _ _ _))
  exact wp_closing_commit (spares_readPatchTestRun _ _ _ _) (h₄.pendClosed (h₃.pendClosed h₂.1))
    (h₄.runsSame (h₃.runsSame h₂.2))

theorem latestOf_mem {testRuns : List (Id × LocalTestRun)} {testRun : Id × LocalTestRun}
    (h : latestOf testRuns = some testRun) : testRun ∈ testRuns := by
  induction testRuns with
  | nil => cases h
  | cons a rest ih =>
    simp only [latestOf,List.foldr_cons] at h ih
    split at h
    · obtain rfl := Option.some.inj h
      exact List.mem_cons_self
    · rename_i b hb
      split at h
      · obtain rfl := Option.some.inj h
        exact List.mem_cons_self
      · rw [hb] at ih
        exact List.mem_cons_of_mem _ (ih h)

structure Persisted (base : Db) (r : Id × LocalTestRun) (p : Pending Row) (w : World) : Prop where
  view : p.view w.db (.localTestRun r.1) = some r.2
  only : ∀ id, id ≠ r.1 → p (.localTestRun id) = none
  status : base (.localTestRun r.1) = none → r.2.status ≠ "running"
  committed : RunsSame base w.db

theorem wp_persistedDockerTestRun (hsame : RunsSame base w.db) (task : Task) :
    wp otherRequests (persistedDockerTestRun patchArtifactId artifact task) (Persisted base)
      (fun _ _ w' => RunsSame base w'.db) Pending.empty w := by
  rw [persistedDockerTestRun,wp_monad_bind]
  intro w₁ he₁
  have hsame₁ := hsame.env he₁
  simp only [Prog.bind]
  cases hlatest : latestOf ((List.range w₁.next).filterMap fun id =>
      ((Pending.empty : Pending Row).view w₁.db (.localTestRun id)).bind fun testRun =>
        if testRun.patchArtifactId = some patchArtifactId ∧ testRun.localRunId = artifact.localRunId then
          some (id,testRun)
        else none) with
  | some r =>
    obtain ⟨id,_,hid⟩ := List.mem_filterMap.mp (latestOf_mem hlatest)
    obtain ⟨testRun,hrow,hr⟩ := Option.bind_eq_some_iff.mp hid
    split at hr
    · obtain rfl := Option.some.inj hr
      refine ⟨hrow,fun _ _ => rfl,fun hnone => ?_,hsame₁⟩
      rw [← hsame₁ id] at hnone
      rw [Pending.view_empty,hnone] at hrow
      cases hrow
    · cases hr
  | none =>
    change wp otherRequests (do
      let completedAt ← utcNow
      let testRunId ← freshId
      let createdAt ← utcNow
      let testRun := newTestRun artifact task patchArtifactId "passed" [] (some completedAt) createdAt
      insert (.localTestRun testRunId) testRun
      pure (testRunId,testRun)) _ _ _ _
    simp only [wp_monad_bind,wp_utcNow,wp_freshId_env]
    intro completedAt w₂ he₂ createdAt
    have hsame₂ := hsame₁.env he₂
    apply wp_others_insert rfl
    intro w₃ he₃
    have hsame₃ := RunsSame.env (w := w₂.bump) hsame₂ he₃
    constructor
    · intro _
      refine ⟨Pending.view_put_self _ _ _ _ _,fun id hid => ?_,fun _ => ?_,hsame₃⟩
      · exact Pending.put_ne _ _ _ fun heq => hid (Key.localTestRun.inj heq)
      · change "passed" ≠ "running"
        decide
    · intro _
      exact hsame₃

theorem Persisted.after {r : Id × LocalTestRun} {p' : Pending Row} {w' : World}
    (h : Persisted base r p w) (hrest : RunsUntouched p w p' w') : Persisted base r p' w' where
  view := (hrest.view r.1).trans h.view
  only id hid := (hrest.pend id).trans (h.only id hid)
  status := h.status
  committed := hrest.runsSame h.committed

theorem wp_startPersistedDockerTestRun (hsame : RunsSame base w.db) (task : Task) :
    wp otherRequests (startPersistedDockerTestRun patchArtifactId artifact task)
      (fun _ p' w' => (∀ id, p' (.localTestRun id) = none) ∧ RunsClosed base w'.db)
      (fun _ _ w' => RunsClosed base w'.db) Pending.empty w := by
  rw [startPersistedDockerTestRun,wp_monad_bind]
  refine wp_mono _ (fun r p₁ w₁ h₁ => ?_) (fun _ _ _ h => h.closed)
    (wp_persistedDockerTestRun hsame task)
  rw [wp_monad_bind,wp_utcNow]
  intro eventClock
  rw [wp_monad_bind]
  refine wp_mono _ (fun _ p₂ w₂ h₂ => ?_) (fun _ _ _ h => (h.runsSame h₁.committed).closed)
    (wp_spares (spares_createTaskEvent _ _ _))
  have hafter₂ := h₁.after h₂
  rw [wp_monad_bind]
  refine wp_mono _ (fun task' p₃ w₃ h₃ => ?_) (fun _ _ _ h => (h.runsSame hafter₂.committed).closed)
    (wp_spares (spares_transition _ _ _ _))
  have hafter := hafter₂.after h₃
  rw [wp_monad_bind]
  refine wp_mono _ (fun tested p₄ w₄ h₄ => ?_) (fun _ _ _ h => h.closed)
    (wp_completeTestRun hafter.view hafter.only hafter.status hafter.committed)
  rw [wp_monad_bind]
  refine wp_mono _ (fun _ p₅ w₅ h₅ => ?_) (fun _ _ _ h => (h.runsSame h₄.2).closed)
    (wp_spares (spares_createTaskEvent _ _ _))
  rw [wp_monad_bind]
  refine wp_mono _ (fun debugAttempt p₆ w₆ h₆ => ?_)
    (fun _ _ _ h => (h.runsSame (h₅.runsSame h₄.2)).closed) (wp_spares (spares_concludeTestRun _ _ _ _ _ _ _ _))
  exact wp_closing_commit (spares_readPatchTestRun _ _ _ _) (h₆.pendClosed (h₅.pendClosed h₄.1))
    (h₆.runsSame (h₅.runsSame h₄.2))

-- What the first commit leaves while the commands run.
structure Launched (ctx : Option AuthContext) (base : Db) (patchArtifactId : Id)
    (launched : LaunchedTests) (w : World) : Prop where
  found : ∃ artifact projectId, launched.taskId = artifact.taskId ∧
    Found ctx patchArtifactId artifact projectId w.db
  unused : UnusedIds w.next w.db
  running : ∃ testRun, w.db (.localTestRun launched.testRunId) = some testRun ∧
    testRun.status = "running" ∧ Accessible ctx testRun.workspaceId
  new : base (.localTestRun launched.testRunId) = none
  only : ∀ id, id ≠ launched.testRunId → w.db (.localTestRun id) = base (.localTestRun id)

def LaunchEnds (ctx : Option AuthContext) (base : Db) (patchArtifactId : Id) :
    OpPost (LaunchedTests ⊕ PatchTestRunResult)
  | .inl launched, p, w => p = Pending.empty ∧ Launched ctx base patchArtifactId launched w
  | .inr _, _, w => RunsClosed base w.db

theorem wp_launchLocal (hfound : Found ctx patchArtifactId artifact projectId w.db)
    (hunused : UnusedIds w.next w.db) (hsame : RunsSame base w.db) (task : Task) :
    wp otherRequests (do
        let eventClock ← utcNow
        let (testRunId,_) ← beginTestRun eventClock patchArtifactId artifact task task.requiredTests
        commit
        pure (.inl ⟨eventClock,artifact.taskId,testRunId⟩))
      (LaunchEnds ctx base patchArtifactId) (fun _ _ w' => RunsClosed base w'.db) Pending.empty w := by
  rw [wp_monad_bind,wp_utcNow]
  intro eventClock
  rw [wp_monad_bind]
  refine wp_mono _ (fun r p₁ w₁ h₁ => ?_) (fun _ _ _ h => h.closed)
    (wp_begin hfound hunused hsame eventClock task _)
  obtain ⟨hrunning,hworkspace,hnew,hbegun⟩ := h₁
  rw [wp_monad_bind]
  intro w₂ he₂
  have h₂ := hbegun.env he₂
  obtain ⟨x,hx,hvalue⟩ := h₂.stored
  refine ⟨trivial,rfl,?_⟩
  constructor
  · exact ⟨artifact,projectId,rfl,h₂.found⟩
  · exact h₂.unused
  · refine ⟨r.2.1,(Pending.view_of_some hx _).trans hvalue,hrunning,?_⟩
    rw [hworkspace]
    exact h₂.found.accessible
  · exact hnew
  · intro id hid
    exact (Pending.view_of_none (h₂.only id hid) _).trans (h₂.committed id)

theorem wp_others_permission {E : OpPost Exn} {Q : OpPost Unit} (hQ : Q () Pending.empty w)
    (hE : ∀ e w', RunsSame base w'.db → E e Pending.empty w') (hsame : RunsSame base w.db) :
    wp otherRequests (requireAuditedPermissionIfAuthenticated ctx) Q E Pending.empty w := by
  cases ctx with
  | none => exact hQ
  | some c =>
    rw [requireAuditedPermissionIfAuthenticated]
    split
    · exact hQ
    · intro w₁ he₁ w₂ he₂
      exact ⟨trivial,hE _ _ ((hsame.env he₁).env he₂)⟩

theorem wp_launchWhole {m : Op PatchTestRunResult}
    (h : wp otherRequests m (fun _ p' w' => (∀ id, p' (.localTestRun id) = none) ∧ RunsClosed base w'.db)
      (fun _ _ w' => RunsClosed base w'.db) Pending.empty w) :
    wp otherRequests (do
        let result ← m
        commit
        pure (.inr result))
      (LaunchEnds ctx base patchArtifactId) (fun _ _ w' => RunsClosed base w'.db) Pending.empty w := by
  rw [wp_monad_bind]
  refine wp_mono _ (fun result p₁ w₁ h₁ => ?_) (fun _ _ _ h => h) h
  rw [wp_monad_bind]
  intro w₂ he₂
  refine ⟨trivial,fun id testRun hnone hrow => ?_⟩
  change p₁.view w₂.db (.localTestRun id) = some testRun at hrow
  rw [Pending.view_of_none (h₁.1 id),he₂.1.same _ rfl] at hrow
  exact h₁.2 id testRun hnone hrow

theorem wp_launchPatchTestRun (hunused : UnusedIds w.next w.db) (ctx : Option AuthContext)
    (patchArtifactId : Id) : wp otherRequests (launchPatchTestRun ctx patchArtifactId)
      (LaunchEnds ctx w.db patchArtifactId) (fun _ _ w' => RunsClosed w.db w'.db) Pending.empty w := by
  have hsame : RunsSame w.db w.db := fun _ => rfl
  simp only [launchPatchTestRun,getPatchArtifactEntity,getTask,getProject,getLocalRunEntity,bind_assoc,
    pure_bind]
  rw [wp_monad_bind]
  apply wp_others_read rfl
  intro w₁ he₁
  have hsame₁ := hsame.env he₁
  refine ⟨fun artifact hartifact => ?_,fun _ => hsame₁.closed⟩
  rw [wp_monad_bind]
  refine wp_others_access (fun haccessible => ?_) (fun _ => hsame₁.closed)
  rw [wp_monad_bind]
  apply wp_others_readTask
  intro w₂ he₂
  have hsame₂ := hsame₁.env he₂
  refine ⟨fun task htask => ?_,fun _ => hsame₂.closed⟩
  rw [wp_monad_bind]
  apply wp_others_read rfl
  intro w₃ he₃
  have hsame₃ := hsame₂.env he₃
  refine ⟨fun project hproject => ?_,fun _ => hsame₃.closed⟩
  rw [wp_monad_bind]
  refine wp_others_access (fun hmember => ?_) (fun _ => hsame₃.closed)
  have hfound : Found ctx patchArtifactId artifact task.projectId w₃.db := by
    constructor
    · rw [he₃.1.same _ rfl,he₂.1.same _ rfl,he₁.1.same _ rfl]
      exact hartifact
    · exact haccessible
    · obtain ⟨task',htask',hprojectId⟩ := he₃.1.task _ _ htask
      exact ⟨task',htask',hprojectId⟩
    · rw [he₃.1.same _ rfl]
      exact ⟨project,hproject,hmember⟩
  have hunused₃ := ((UnusedIds.env (p := Pending.empty) hunused he₁).env he₂).env he₃
  rw [wp_monad_bind]
  refine wp_others_permission ?_ (fun _ _ h => h.closed) hsame₃
  rw [wp_monad_bind,requireStatus]
  split
  · rw [wp_monad_pure,wp_monad_bind]
    apply wp_others_read rfl
    intro w₄ he₄
    have hsame₄ := hsame₃.env he₄
    have hfound₄ := Found.env (p := Pending.empty) hfound he₄
    have hunused₄ := hunused₃.env he₄
    refine ⟨fun localRun hlocalRun => ?_,fun _ => hsame₄.closed⟩
    rw [wp_monad_bind]
    refine wp_others_access (fun _ => ?_) (fun _ => hsame₄.closed)
    split
    · exact wp_launchWhole (wp_startCloudFakeTestRun hfound₄ hunused₄ hsame₄ task)
    · split
      · exact wp_launchWhole (wp_startPersistedDockerTestRun hsame₄ task)
      · split
        · exact hsame₄.closed
        · exact wp_launchLocal hfound₄ hunused₄ hsame₄ task
  · exact hsame₃.closed

end launching

end AiScdc
