import AiScdc.Workflow.InterruptedTests

namespace AiScdc
open Transaction

def Accessible (ctx : Option AuthContext) (workspaceId : Id) : Prop :=
  ∀ c, ctx = some c → workspaceId = c.workspaceId

section rules

variable {α : Type} {p : Pending Row} {w w' : World}

theorem others_view (he : Env otherRequests p w w') {k : Key} (hk : k.isTask = false) :
    p.view w'.db k = p.view w.db k := by
  simp only [Pending.view,he.1.same k hk]

theorem others_task (he : Env otherRequests p w w') {id : Id} {task : Task}
    (h : p.view w.db (.task id) = some task) :
    ∃ task', p.view w'.db (.task id) = some task' ∧ task'.projectId = task.projectId := by
  cases hp : p (.task id) with
  | none =>
    rw [Pending.view_of_none hp] at h ⊢
    exact he.1.task id task h
  | some x =>
    rw [Pending.view_of_some hp] at h ⊢
    exact ⟨task,h,rfl⟩

theorem wp_others_read {k : Key} (hk : k.isTask = false) {detail : String} {Q : OpPost k.Entity}
    {E : OpPost Exn} (h : ∀ w', Env otherRequests p w w' →
      (∀ row, p.view w.db k = some row → Q row p w') ∧
      (p.view w.db k = none → E (.http 404 detail) p w')) :
    wp otherRequests (getOr404 k detail) Q E p w := by
  simp only [getOr404,wp_monad_bind,wp_get]
  intro w' he
  rw [others_view he hk]
  obtain ⟨hsome,hnone⟩ := h w' he
  cases hrow : p.view w.db k with
  | none => exact hnone hrow
  | some row => exact hsome row hrow

theorem wp_others_readTask {id : Id} {detail : String} {Q : OpPost Task} {E : OpPost Exn}
    (h : ∀ w', Env otherRequests p w w' →
      (∀ task, p.view w'.db (.task id) = some task → Q task p w') ∧
      (p.view w'.db (.task id) = none → E (.http 404 detail) p w')) :
    wp otherRequests (getOr404 (.task id) detail) Q E p w := by
  simp only [getOr404,wp_monad_bind]
  intro w' he
  obtain ⟨hsome,hnone⟩ := h w' he
  simp only [wp]
  cases hrow : p.view w'.db (.task id) with
  | none => exact hnone hrow
  | some row => exact hsome row hrow

theorem wp_others_access {ctx : Option AuthContext} {workspaceId : Id} {detail : String}
    {Q : OpPost Unit} {E : OpPost Exn} (hQ : Accessible ctx workspaceId → Q () p w)
    (hE : ¬ Accessible ctx workspaceId → E (.http 404 detail) p w) :
    wp otherRequests (enforceWorkspaceAccess ctx workspaceId detail) Q E p w := by
  cases ctx with
  | none => exact hQ (by simp [Accessible])
  | some c =>
    simp only [enforceWorkspaceAccess]
    split
    · rename_i heq
      exact hQ (by simpa [Accessible] using heq)
    · rename_i hne
      exact hE (by simpa [Accessible] using hne)

theorem wp_others_insert {k : Key} (hk : k.isTask = false) {row : k.Entity} {Q : OpPost Unit}
    {E : OpPost Exn} (h : ∀ w', Env otherRequests p w w' →
      (p.view w.db k = none → Q () (p.put k (w'.db k) (some row)) w') ∧
      (p.view w.db k ≠ none → E .integrityError p w')) :
    wp otherRequests (insert k row) Q E p w := by
  simp only [insert,wp_monad_bind]
  intro w' he
  rw [others_view he hk]
  obtain ⟨hnone,hsome⟩ := h w' he
  constructor
  · intro hguard
    exact hnone (by simpa using hguard)
  · intro hguard
    refine hsome fun hrow => ?_
    simp [hrow] at hguard

theorem wp_others_flush {k : Key} (hk : k.isTask = false) {loaded new : k.Entity} {Q : OpPost Unit}
    {E : OpPost Exn} (hview : p.view w.db k = some loaded) (hsame : loaded = new → Q () p w)
    (hnew : loaded ≠ new → ∀ w', Env otherRequests p w w' →
      Q () (p.put k (some loaded) (some new)) w') :
    wp otherRequests (flush k loaded new) Q E p w := by
  constructor
  · intro heq
    exact hsame (Option.some.inj heq)
  · intro hne w' he _
    have hput := hnew (fun heq => hne (congrArg some heq)) w' he
    have hmerged : Schema.merge k (some loaded) (some new) (p.view w'.db k) = some new := by
      rw [others_view he hk,hview]
      exact mergeRow_loaded k (some loaded) (some new)
    rw [hmerged]
    exact hput

end rules

-- What no step on test runs writes.
def SparesRuns (k : Key) : Prop := ∀ id, k ≠ .localTestRun id

structure Drifted (w w' : World) : Prop where
  next : w.next ≤ w'.next
  same : ∀ k : Key, k.isTask = false → w'.db k = w.db k

theorem drift_others : Drift otherRequests Drifted where
  refl _ := ⟨le_rfl,fun _ _ => rfl⟩
  trans h h' := ⟨h.next.trans h'.next,fun k hk => (h'.same k hk).trans (h.same k hk)⟩
  rely h := ⟨h.next.ge,h.same⟩
  bump _ := ⟨Nat.le_succ _,fun _ _ => rfl⟩

section spares

theorem within_createTaskEvent {F : Key → Prop} (hF : ∀ id, F (.taskEvent id)) (taskId : Id)
    (payload : TaskEventPayload) (createdAt : Time) :
    Within F (createTaskEvent taskId payload createdAt) := by
  intro n
  refine ⟨hF n,fun b => ?_⟩
  cases b <;> trivial

theorem spares_createTaskEvent (taskId : Id) (payload : TaskEventPayload) (createdAt : Time) :
    Within SparesRuns (createTaskEvent taskId payload createdAt) :=
  within_createTaskEvent (by simp [SparesRuns]) _ _ _

theorem spares_transition (eventTime : Time) (taskId : Id) (task : Task) (requested : TaskStatus) :
    Within SparesRuns (transitionTaskForWorkflow eventTime taskId task requested) := by
  simp only [transitionTaskForWorkflow,transitionTaskWith]
  split
  · trivial
  · intro updatedAt
    exact ⟨by simp [SparesRuns],(spares_createTaskEvent _ _ _).bind fun _ => trivial⟩

theorem spares_createDebugAttempt (eventTime : Time) (taskId : Id) (task : Task)
    (patchArtifactId : Id) (artifact : PatchArtifact) (findings : DebugFindings) :
    Within SparesRuns (createDebugAttempt eventTime taskId task patchArtifactId artifact findings) := by
  intro n t
  refine ⟨by simp [SparesRuns],fun b => ?_⟩
  cases b with
  | false => trivial
  | true => exact (spares_createTaskEvent _ _ _).bind fun _ => trivial

theorem spares_concludeTestRun (eventClock : Time) (taskId patchArtifactId : Id)
    (artifact : PatchArtifact) (task : Task) (testRunId : Id) (passed : Bool) (rootCause : String) :
    Within SparesRuns
      (concludeTestRun eventClock taskId patchArtifactId artifact task testRunId passed rootCause) := by
  rw [concludeTestRun]
  split
  · exact (spares_transition _ _ _ _).bind fun _ => trivial
  · exact (spares_createDebugAttempt _ _ _ _ _ _).bind fun _ =>
      (spares_transition _ _ _ _).bind fun _ => trivial

theorem spares_readPatchTestRun (taskId patchArtifactId testRunId : Id)
    (debugAttempt : Option DebugAttempt) :
    Within SparesRuns (readPatchTestRun taskId patchArtifactId testRunId debugAttempt) := by
  have hrefresh (k : Key) : Within SparesRuns (refresh k) := by
    intro db n
    simp only [Prog.bind]
    split <;> trivial
  exact (hrefresh _).bind fun _ => (hrefresh _).bind fun _ => (hrefresh _).bind fun _ => trivial

end spares

end AiScdc
