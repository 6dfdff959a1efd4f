import AiScdc.Workflow.History
import AiScdc.Workflow.PublishCourse

namespace AiScdc
open Transaction

def PullRequestStatus.isPublished : PullRequestStatus → Bool
  | finalizing | created => true
  | _ => false

def TaskPublished (db : Db) (taskId : Id) : Prop :=
  ∃ task, db (.task taskId) = some task ∧ task.status = .prCreated

def BeingCreated (db : Db) (approvalId : Id) : Prop :=
  ∃ record, db (.pullRequest approvalId) = some record ∧ record.status = .creating

def Numbered (db : Db) (approvalId taskId : Id) : Prop :=
  ∃ record, db (.pullRequest approvalId) = some record ∧ record.taskId = taskId ∧
    record.status.isPublished = true

def PublishPhase.touches (approvalId : Id) : PublishPhase → Key → Prop
  | inserted,k | failing,k | reporting,k => k = .pullRequest approvalId
  | calling,k => k = .githubCalls approvalId
  | moved taskId,k => k = .task taskId ∨ ∃ id, k = .taskEvent id
  | closing taskId,k => k = .pullRequest approvalId ∨ k = .task taskId ∨ ∃ id, k = .taskEvent id
  | _,_ => False

-- What the session relies on in each phase, whatever the others commit meanwhile.
def PublishPhase.knows (approvalId : Id) (adapter : Except String CreatedPullRequest) (db : Db)
    (p : Pending Row) : PublishPhase → Prop
  | idle => True
  | inserted => db (.pullRequest approvalId) = none ∧
      ∃ record, p.view db (.pullRequest approvalId) = some record ∧ Blank record
  | holding => BeingCreated db approvalId ∧ db (.githubCalls approvalId) = none
  | calling => BeingCreated db approvalId ∧ ∃ call, p.view db (.githubCalls approvalId) = some [call]
  | called => BeingCreated db approvalId
  | loaded record => db (.pullRequest approvalId) = some record ∧ record.status = .creating
  | failing => ∃ record, db (.pullRequest approvalId) = some record ∧ record.status = .creating ∧
      p.view db (.pullRequest approvalId) = some (record.moved .failed)
  | reporting => ∃ record created, db (.pullRequest approvalId) = some record ∧
      record.status = .creating ∧ adapter = .ok created ∧
      p.view db (.pullRequest approvalId) = some (record.finalizing created)
  | reported => ∃ taskId, Numbered db approvalId taskId
  | sure taskId => Numbered db approvalId taskId
  | seen taskId => Numbered db approvalId taskId ∧ db (.task taskId) ≠ none
  | ready taskId => Numbered db approvalId taskId ∧ TaskPublished db taskId
  | moved taskId => Numbered db approvalId taskId ∧ TaskPublished (p.view db) taskId
  | closing taskId => Numbered db approvalId taskId ∧ TaskPublished (p.view db) taskId ∧
      p (.pullRequest approvalId) ≠ none ∧
      p.view db (.pullRequest approvalId) =
        (db (.pullRequest approvalId)).map fun record => record.moved .created

-- The session inserted the record that is being created.
def PublishPhase.owns : PublishPhase → Bool
  | holding | calling | called | loaded _ | failing | reporting => true
  | _ => false

structure PublishHolds (approvalId : Id) (adapter : Except String CreatedPullRequest) (db : Db)
    (x : PublishPhase) (p : Pending Row) : Prop where
  touched : ∀ k, p k ≠ none → x.touches approvalId k
  knows : x.knows approvalId adapter db p

section sessions

variable {a taskId : Id} {adapter : Except String CreatedPullRequest} {db db' : Db} {x y : PublishPhase}
  {p : Pending Row}

theorem PublishHolds.same (h : PublishHolds a adapter db x p) {k : Key} (hk : ¬ x.touches a k) :
    p.view db k = db k := by
  refine Pending.view_of_none ?_ db
  by_contra hp
  exact hk (h.touched k hp)

theorem PublishHolds.rollback : PublishHolds a adapter db .idle Pending.empty :=
  ⟨fun _ hk => absurd rfl hk,trivial⟩

theorem PublishHolds.owned (h : PublishHolds a adapter db x p) (hx : x.owns = true) : BeingCreated db a := by
  cases x with
  | holding => exact h.knows.1
  | calling => exact h.knows.1
  | called => exact h.knows
  | loaded record => exact ⟨record,h.knows⟩
  | failing =>
    obtain ⟨record,hrecord,hs,_⟩ := h.knows
    exact ⟨record,hrecord,hs⟩
  | reporting =>
    obtain ⟨record,_,hrecord,hs,_⟩ := h.knows
    exact ⟨record,hrecord,hs⟩
  | _ => cases hx

theorem Numbered.not_created (h : Numbered db a taskId) : ¬ BeingCreated db a := by
  rintro ⟨record,hrecord,hs⟩
  obtain ⟨record',hrecord',_,hp⟩ := h
  rw [hrecord] at hrecord'
  cases hrecord'
  rw [hs] at hp
  cases hp

-- A session that has no part in a record that is not numbered yet relies on nothing.
theorem PublishHolds.unnumbered (h : PublishHolds a adapter db x p) (hx : x.owns = false)
    (hn : ∀ taskId, ¬ Numbered db a taskId) (hp : p (.pullRequest a) = none ∨ db (.pullRequest a) ≠ none) :
    x = .idle := by
  cases x with
  | idle => rfl
  | inserted =>
    obtain ⟨hnone,record,hview,_⟩ := h.knows
    rcases hp with hp | hp
    · rw [Pending.view_of_none hp,hnone] at hview
      cases hview
    · exact absurd hnone hp
  | reported =>
    obtain ⟨taskId,hnumbered⟩ := h.knows
    exact absurd hnumbered (hn taskId)
  | sure taskId => exact absurd h.knows (hn taskId)
  | seen taskId => exact absurd h.knows.1 (hn taskId)
  | ready taskId => exact absurd h.knows.1 (hn taskId)
  | moved taskId => exact absurd h.knows.1 (hn taskId)
  | closing taskId => exact absurd h.knows.1 (hn taskId)
  | _ => cases hx

theorem view_congr {k : Key} (h : db' k = db k) : p.view db' k = p.view db k := by
  unfold Pending.view
  cases p k with
  | none => exact h
  | some wr => rfl

theorem TaskPublished.viewed (h : TaskPublished (p.view db) taskId)
    (hdone : ∀ t, TaskPublished db t → TaskPublished db' t) : TaskPublished (p.view db') taskId := by
  obtain ⟨task,htask,hs⟩ := h
  cases hp : p (.task taskId) with
  | none =>
    rw [Pending.view_of_none hp] at htask
    obtain ⟨task',htask',hs'⟩ := hdone taskId ⟨task,htask,hs⟩
    exact ⟨task',by rw [Pending.view_of_none hp]; exact htask',hs'⟩
  | some wr =>
    rw [Pending.view_of_some hp] at htask
    exact ⟨task,by rw [Pending.view_of_some hp]; exact htask,hs⟩

-- What a commit that leaves the record alone may do to the tasks.
structure TasksStand (db db' : Db) : Prop where
  published : ∀ taskId, TaskPublished db taskId → TaskPublished db' taskId
  stands : ∀ taskId, db (.task taskId) ≠ none → db' (.task taskId) ≠ none

theorem PublishHolds.kept (h : PublishHolds a adapter db x p)
    (hrecord : db' (.pullRequest a) = db (.pullRequest a))
    (hcalls : x.owns = true → db' (.githubCalls a) = db (.githubCalls a)) (ht : TasksStand db db') :
    PublishHolds a adapter db' x p := by
  refine ⟨h.touched,?_⟩
  have hview : p.view db' (.pullRequest a) = p.view db (.pullRequest a) := view_congr hrecord
  have hknows := h.knows
  have hcreated : BeingCreated db a → BeingCreated db' a := by
    rintro ⟨record,hrow,hs⟩
    exact ⟨record,hrecord.trans hrow,hs⟩
  have hnumbered (t : Id) : Numbered db a t → Numbered db' a t := by
    rintro ⟨record,hrow,hrest⟩
    exact ⟨record,hrecord.trans hrow,hrest⟩
  cases x with
  | idle => trivial
  | inserted =>
    obtain ⟨hnone,record,hrow,hblank⟩ := hknows
    exact ⟨hrecord.trans hnone,record,hview.trans hrow,hblank⟩
  | holding => exact ⟨hcreated hknows.1,(hcalls rfl).trans hknows.2⟩
  | calling =>
    obtain ⟨hopen,call,hcall⟩ := hknows
    exact ⟨hcreated hopen,call,(view_congr (hcalls rfl)).trans hcall⟩
  | called => exact hcreated hknows
  | loaded record => exact ⟨hrecord.trans hknows.1,hknows.2⟩
  | failing =>
    obtain ⟨record,hrow,hs,hnew⟩ := hknows
    exact ⟨record,hrecord.trans hrow,hs,hview.trans hnew⟩
  | reporting =>
    obtain ⟨record,created,hrow,hs,hok,hnew⟩ := hknows
    exact ⟨record,created,hrecord.trans hrow,hs,hok,hview.trans hnew⟩
  | reported =>
    obtain ⟨t,ht⟩ := hknows
    exact ⟨t,hnumbered t ht⟩
  | sure t => exact hnumbered t hknows
  | seen t => exact ⟨hnumbered t hknows.1,ht.stands t hknows.2⟩
  | ready t => exact ⟨hnumbered t hknows.1,ht.published t hknows.2⟩
  | moved t => exact ⟨hnumbered t hknows.1,hknows.2.viewed ht.published⟩
  | closing t =>
    obtain ⟨hnum,hdone,hheld,hnew⟩ := hknows
    refine ⟨hnumbered t hnum,hdone.viewed ht.published,hheld,?_⟩
    rw [hview,hnew,hrecord]

-- The record is closed by another session.
theorem PublishHolds.outrun (h : PublishHolds a adapter db x p) (hp : p (.pullRequest a) = none)
    (hold : ∃ taskId, Numbered db a taskId) (hnew : ∀ taskId, Numbered db a taskId → Numbered db' a taskId)
    (ht : TasksStand db db') : PublishHolds a adapter db' x p := by
  obtain ⟨taskId,hnumbered⟩ := hold
  refine ⟨h.touched,?_⟩
  have hknows := h.knows
  have howns : x.owns = false := by
    by_contra hx
    exact hnumbered.not_created (h.owned (eq_true_of_ne_false hx))
  cases x with
  | idle => trivial
  | inserted =>
    obtain ⟨record,hrow,_⟩ := hnumbered
    rw [hknows.1] at hrow
    cases hrow
  | reported =>
    obtain ⟨t,ht⟩ := hknows
    exact ⟨t,hnew t ht⟩
  | sure t => exact hnew t hknows
  | seen t => exact ⟨hnew t hknows.1,ht.stands t hknows.2⟩
  | ready t => exact ⟨hnew t hknows.1,ht.published t hknows.2⟩
  | moved t => exact ⟨hnew t hknows.1,hknows.2.viewed ht.published⟩
  | closing t => exact absurd hp hknows.2.2.1
  | _ => cases howns

theorem PublishHolds.task_published (h : PublishHolds a adapter db x p) (hx : x.touches a (.task taskId)) :
    Numbered db a taskId ∧ TaskPublished (p.view db) taskId := by
  cases x with
  | moved t =>
    rcases hx with hx | ⟨id,hx⟩
    · cases hx
      exact h.knows
    · cases hx
  | closing t =>
    rcases hx with hx | hx | ⟨id,hx⟩
    · cases hx
    · cases hx
      exact ⟨h.knows.1,h.knows.2.1⟩
    · cases hx
  | inserted => cases hx
  | calling => cases hx
  | failing => cases hx
  | reporting => cases hx
  | _ => exact hx.elim

theorem PublishHolds.tasksStand (h : PublishHolds a adapter db x p) : TasksStand db (p.view db) := by
  refine ⟨fun t ht => ?_,fun t ht => ?_⟩
  · by_cases hx : x.touches a (.task t)
    · exact (h.task_published hx).2
    · obtain ⟨task,htask,hs⟩ := ht
      exact ⟨task,(h.same hx).trans htask,hs⟩
  · by_cases hx : x.touches a (.task t)
    · obtain ⟨task,htask,_⟩ := (h.task_published hx).2
      rw [htask]
      exact Option.some_ne_none task
    · rw [h.same hx]
      exact ht

-- What one commit does to the record.
inductive RecordStep (approvalId : Id) (adapter : Except String CreatedPullRequest) (x : PublishPhase)
    (db db' : Db) : Prop
  | same (h : db' (.pullRequest approvalId) = db (.pullRequest approvalId))
  | inserted (record : PullRequestRecord) (hnone : db (.pullRequest approvalId) = none)
      (h : db' (.pullRequest approvalId) = some record) (hblank : Blank record)
  | failed (record : PullRequestRecord) (hx : x.owns = true)
      (hrow : db (.pullRequest approvalId) = some record) (hs : record.status = .creating)
      (h : db' (.pullRequest approvalId) = some (record.moved .failed))
  | reported (record : PullRequestRecord) (created : CreatedPullRequest) (hx : x.owns = true)
      (hrow : db (.pullRequest approvalId) = some record) (hs : record.status = .creating)
      (hok : adapter = .ok created)
      (h : db' (.pullRequest approvalId) = some (record.finalizing created))
  | closed (record : PullRequestRecord) (hrow : db (.pullRequest approvalId) = some record)
      (hs : record.status.isPublished = true) (hdone : TaskPublished db' record.taskId)
      (h : db' (.pullRequest approvalId) = some (record.moved .created))

theorem PublishHolds.recordStep (h : PublishHolds a adapter db x p) :
    RecordStep a adapter x db (p.view db) := by
  by_cases hx : x.touches a (.pullRequest a)
  · cases x with
    | inserted =>
      obtain ⟨hnone,record,hrow,hblank⟩ := h.knows
      exact .inserted record hnone hrow hblank
    | failing =>
      obtain ⟨record,hrow,hs,hnew⟩ := h.knows
      exact .failed record rfl hrow hs hnew
    | reporting =>
      obtain ⟨record,created,hrow,hs,hok,hnew⟩ := h.knows
      exact .reported record created rfl hrow hs hok hnew
    | closing t =>
      obtain ⟨⟨record,hrow,rfl,hs⟩,hdone,_,hnew⟩ := h.knows
      rw [hrow] at hnew
      exact .closed record hrow hs hdone hnew
    | moved t =>
      rcases hx with hx | ⟨id,hx⟩
      · cases hx
      · cases hx
    | calling => cases hx
    | _ => exact hx.elim
  · exact .same (h.same hx)

theorem PublishHolds.callStep (h : PublishHolds a adapter db x p) :
    p.view db (.githubCalls a) = db (.githubCalls a) ∨
      x = .calling ∧ ∃ call, p.view db (.githubCalls a) = some [call] := by
  by_cases hx : x.touches a (.githubCalls a)
  · cases x with
    | calling => exact Or.inr ⟨rfl,h.knows.2⟩
    | moved t =>
      rcases hx with hx | ⟨id,hx⟩
      · cases hx
      · cases hx
    | closing t =>
      rcases hx with hx | hx | ⟨id,hx⟩
      · cases hx
      · cases hx
      · cases hx
    | inserted => cases hx
    | failing => cases hx
    | reporting => cases hx
    | _ => exact hx.elim
  · exact Or.inl (h.same hx)

-- A commit of a session that stands here leaves it standing in the next phase.
theorem PublishHolds.commit (h : PublishHolds a adapter db x p) (hx : x.committed = some y)
    (hcalls : db (.pullRequest a) = none → db (.githubCalls a) = none) :
    PublishHolds a adapter (p.view db) y Pending.empty := by
  have hempty : ∀ z : PublishPhase, ∀ k, (Pending.empty : Pending Row) k ≠ none → z.touches a k :=
    fun _ _ hk => absurd rfl hk
  cases x with
  | inserted =>
    cases hx
    obtain ⟨hnone,record,hrow,hblank⟩ := h.knows
    refine ⟨hempty _,⟨record,hrow,hblank.status⟩,(h.same fun hk => ?_).trans (hcalls hnone)⟩
    cases hk
  | calling =>
    cases hx
    obtain ⟨record,hrow,hs⟩ := h.knows.1
    refine ⟨hempty _,record,(h.same fun hk => ?_).trans hrow,hs⟩
    cases hk
  | reporting =>
    cases hx
    obtain ⟨record,created,_,_,_,hnew⟩ := h.knows
    exact ⟨hempty _,record.taskId,_,hnew,rfl,rfl⟩
  | _ =>
    cases hx <;> exact .rollback

end sessions

section learning

variable {a : Id} {adapter : Except String CreatedPullRequest} {db : Db} {x y : PublishPhase}
  {p : Pending Row}

theorem PublishHolds.learn {next : ℕ} (h : PublishHolds a adapter db x p)
    (hl : PublishLearn a x (p.view db) next y) : PublishHolds a adapter db y p := by
  cases hl with
  | @existing _ _ record hrow hs =>
    rw [h.same fun hk => hk] at hrow
    exact ⟨h.touched,record,hrow,rfl,by rw [hs]; rfl⟩
  | @reload _ _ record hrow =>
    rw [h.same fun hk => hk] at hrow
    obtain ⟨taskId,record',hrow',_,hs⟩ := h.knows
    rw [hrow] at hrow'
    cases hrow'
    exact ⟨h.touched,record,hrow,rfl,hs⟩
  | @load _ _ record hrow =>
    rw [h.same fun hk => hk] at hrow
    obtain ⟨record',hrow',hs⟩ := h.knows
    rw [hrow] at hrow'
    cases hrow'
    exact ⟨h.touched,hrow,hs⟩
  | @task _ _ taskId task htask =>
    rw [h.same fun hk => hk] at htask
    exact ⟨h.touched,h.knows,by rw [htask]; exact Option.some_ne_none task⟩
  | @done _ _ taskId task htask hs =>
    rw [h.same fun hk => hk] at htask
    exact ⟨h.touched,h.knows,task,htask,hs⟩

theorem PublishHolds.put {k : Key} (l v : Row k) (h : PublishHolds a adapter db x p)
    (hx : ∀ k', x.touches a k' → y.touches a k') (hk : y.touches a k)
    (hy : y.knows a adapter db (p.put k l v)) : PublishHolds a adapter db y (p.put k l v) := by
  refine ⟨fun k' hk' => ?_,hy⟩
  by_cases heq : k' = k
  · subst heq
    exact hk
  · rw [Pending.put_ne _ _ _ heq] at hk'
    exact hx k' (h.touched k' hk')

theorem TaskPublished.put {taskId : Id} {k : Key} (l v : Row k) (h : TaskPublished (p.view db) taskId)
    (hk : Key.task taskId ≠ k) : TaskPublished ((p.put k l v).view db) taskId := by
  obtain ⟨task,htask,hs⟩ := h
  exact ⟨task,(Pending.view_put_ne p l v db hk).trans htask,hs⟩

theorem PublishHolds.update {k : Key} {g : Row k → Bool} {s : Row k → Row k}
    (h : PublishHolds a adapter db x p) (hP : PublishUpdate a x k g s y) (hg : g (p.view db k) = true) :
    PublishHolds a adapter db y (p.put k (db k) (s (p.view db k))) := by
  cases hP with
  | @record row hblank =>
    rw [h.same fun hk => hk] at hg
    exact h.put _ _ (fun _ hk => hk.elim) rfl
      ⟨Option.isNone_iff_eq_none.mp hg,row,Pending.view_put_self _ _ _ _ _,hblank⟩
  | call call =>
    refine h.put _ _ (fun _ hk => hk.elim) rfl ⟨h.knows.1,call,?_⟩
    rw [Pending.view_put_self,h.same fun hk => hk,h.knows.2]
    rfl
  | @note taskId id event =>
    exact h.put _ _ (fun _ hk => hk) (Or.inr ⟨id,rfl⟩) ⟨h.knows.1,h.knows.2.put _ _ (by simp)⟩

theorem PullRequestRecord.flush_moved {l c : PullRequestRecord} {status : PullRequestStatus}
    (h : l.status ≠ status) : l.flush (l.moved status) c = c.moved status := by
  unfold PullRequestRecord.flush PullRequestRecord.moved
  simp only [pick_same,pick_of_ne _ h.symm]

theorem merge_moved {l : PullRequestRecord} {status : PullRequestStatus} (row : Row (.pullRequest a))
    (h : (some l : Row (.pullRequest a)) ≠ some (l.moved status)) :
    Schema.merge (V := Row) (.pullRequest a) (some l) (some (l.moved status)) row =
      row.map fun record => record.moved status := by
  have hs : l.status ≠ status := by
    rintro rfl
    exact h rfl
  cases row with
  | none => rfl
  | some c => exact congrArg some (PullRequestRecord.flush_moved hs)

theorem PublishHolds.close {taskId : Id} {l : PullRequestRecord} (h : PublishHolds a adapter db x p)
    (hx : ∀ k, x.touches a k → k ≠ .pullRequest a) (hn : Numbered db a taskId)
    (hdone : TaskPublished (p.view db) taskId)
    (ht : ∀ k, x.touches a k → (PublishPhase.closing taskId).touches a k)
    (hne : (some l : Row (.pullRequest a)) ≠ some (l.moved .created)) :
    PublishHolds a adapter db (.closing taskId) (p.put (.pullRequest a) (some l)
      (Schema.merge (V := Row) (.pullRequest a) (some l) (some (l.moved .created)) (p.view db (.pullRequest a)))) := by
  refine h.put _ _ ht (Or.inl rfl) ⟨hn,hdone.put _ _ (by simp),?_,?_⟩
  · rw [Pending.put_self]
    exact Option.some_ne_none _
  · rw [Pending.view_put_self,merge_moved _ hne,h.same fun hk => hx _ hk rfl]

theorem PublishHolds.flush {k : Key} {l n : Row k} (h : PublishHolds a adapter db x p)
    (hP : PublishFlush a adapter x k l n y) (hne : l ≠ n) :
    PublishHolds a adapter db y (p.put k l (Schema.merge k l n (p.view db k))) := by
  cases hP with
  | @fail record =>
    refine h.put _ _ (fun _ hk => hk.elim) rfl ⟨record,h.knows.1,h.knows.2,?_⟩
    rw [Pending.view_put_self,h.same fun hk => hk,h.knows.1,Schema.merge_loaded]
  | @report record created hok =>
    refine h.put _ _ (fun _ hk => hk.elim) rfl ⟨record,created,h.knows.1,h.knows.2,hok,?_⟩
    rw [Pending.view_put_self,h.same fun hk => hk,h.knows.1,Schema.merge_loaded]
  | @move taskId l n hl hn =>
    refine h.put _ _ (fun _ hk => hk.elim) (Or.inl rfl) ⟨h.knows.1,?_⟩
    obtain ⟨task,htask⟩ := Option.ne_none_iff_exists'.mp h.knows.2
    refine ⟨l.flush n task,?_,?_⟩
    · rw [Pending.view_put_self,h.same fun hk => hk,htask]
      rfl
    · show pick l.status n.status task.status = .prCreated
      rw [hn,pick_of_ne _ (Ne.symm hl)]
  | @close taskId record =>
    refine h.close ?_ h.knows.1 h.knows.2 (fun k hk => Or.inr hk) hne
    rintro k (rfl | ⟨id,rfl⟩)
    · simp
    · simp
  | @again taskId record =>
    refine h.close (fun _ hk => hk.elim) h.knows.1 ?_ (fun _ hk => hk.elim) hne
    obtain ⟨task,htask,hs⟩ := h.knows.2
    exact ⟨task,(h.same fun hk => hk).trans htask,hs⟩

end learning

-- A record that holds a number holds the one that the adapter answered to one of the sessions.
structure RecordStands {ι : Type} (replies : ι → PublishReplies) (db : Db) (record : PullRequestRecord) :
    Prop where
  blank : record.status = .creating → Blank record
  numbered : record.status.isPublished = true → ∃ i created, (replies i).adapter = .ok created ∧
    record.githubPrNumber = created.number ∧ record.githubPrUrl = created.url
  closed : record.status = .created → TaskPublished db record.taskId

structure PublishedDb {ι : Type} (approvalId : Id) (replies : ι → PublishReplies) (db : Db) : Prop where
  uncalled : db (.pullRequest approvalId) = none → db (.githubCalls approvalId) = none
  called : ∀ calls, db (.githubCalls approvalId) = some calls → calls.length = 1
  record : ∀ record, db (.pullRequest approvalId) = some record → RecordStands replies db record

-- What a commit may do: a number and an address only ever take the place of blank ones, a task is moved
-- to PR_CREATED only where they stand already, and a record is created only with its task moved.
structure PublishStep (approvalId : Id) (before after : Db) : Prop where
  numbered : ∀ record, before (.pullRequest approvalId) = some record →
    ∃ later, after (.pullRequest approvalId) = some later ∧ later.taskId = record.taskId ∧
      (Blank record ∨ later.githubPrNumber = record.githubPrNumber ∧ later.githubPrUrl = record.githubPrUrl)
  moved : ∀ taskId, TaskPublished after taskId → ¬ TaskPublished before taskId →
    ∃ record, before (.pullRequest approvalId) = some record ∧ record.taskId = taskId ∧
      record.status = .finalizing
  created : ∀ record, after (.pullRequest approvalId) = some record → record.status = .created →
    TaskPublished after record.taskId

-- Neither a number nor an address is on the record yet.
structure Unnumbered (record : PullRequestRecord) : Prop where
  unpublished : record.status.isPublished = false
  githubPrNumber : record.githubPrNumber = 0
  githubPrUrl : record.githubPrUrl = ""

-- The number and the address that stand on the record stay as they are.
def NumberKept (approvalId : Id) (before after : Db) : Prop :=
  ∀ record, before (.pullRequest approvalId) = some record → ¬ Unnumbered record →
    ∃ later, after (.pullRequest approvalId) = some later ∧ ¬ Unnumbered later ∧
      later.githubPrNumber = record.githubPrNumber ∧ later.githubPrUrl = record.githubPrUrl

theorem Blank.unnumbered {record : PullRequestRecord} (h : Blank record) : Unnumbered record :=
  ⟨by rw [h.status]; rfl,h.githubPrNumber,h.githubPrUrl⟩

theorem NumberKept.refl (a : Id) (db : Db) : NumberKept a db db :=
  fun record hrow hne => ⟨record,hrow,hne,rfl,rfl⟩

theorem NumberKept.trans {a : Id} {db db' db'' : Db} (h : NumberKept a db db') (h' : NumberKept a db' db'') :
    NumberKept a db db'' := by
  intro record hrow hne
  obtain ⟨later,hlater,hne',hnumber,hurl⟩ := h record hrow hne
  obtain ⟨last,hlast,hne'',hnumber',hurl'⟩ := h' later hlater hne'
  exact ⟨last,hlast,hne'',hnumber'.trans hnumber,hurl'.trans hurl⟩

section commits

variable {ι : Type} {a : Id} {replies : ι → PublishReplies} {db : Db} {i : ι} {x y : PublishPhase}
  {p : Pending Row}

theorem PublishHolds.recordStands (h : PublishHolds a (replies i).adapter db x p)
    (hdb : PublishedDb a replies db) {record : PullRequestRecord}
    (hrow : p.view db (.pullRequest a) = some record) : RecordStands replies (p.view db) record := by
  cases h.recordStep with
  | same hsame =>
    have hstands := hdb.record record (hsame.symm.trans hrow)
    exact ⟨hstands.blank,hstands.numbered,fun hs => h.tasksStand.published _ (hstands.closed hs)⟩
  | inserted new _ hnew hblank =>
    cases hrow.symm.trans hnew
    refine ⟨fun _ => hblank,fun hs => ?_,fun hs => ?_⟩
    · rw [hblank.status] at hs
      cases hs
    · cases hblank.status.symm.trans hs
  | failed old _ _ _ hnew =>
    cases hrow.symm.trans hnew
    exact ⟨fun hs => (by cases hs),fun hs => (by cases hs),fun hs => (by cases hs)⟩
  | reported old created _ _ _ hok hnew =>
    cases hrow.symm.trans hnew
    exact ⟨fun hs => (by cases hs),fun _ => ⟨i,created,hok,rfl,rfl⟩,fun hs => (by cases hs)⟩
  | closed old hold hs hdone hnew =>
    cases hrow.symm.trans hnew
    exact ⟨fun hs => (by cases hs),fun _ => (hdb.record old hold).numbered hs,fun _ => hdone⟩

theorem PublishHolds.published (h : PublishHolds a (replies i).adapter db x p)
    (hdb : PublishedDb a replies db) : PublishedDb a replies (p.view db) := by
  refine ⟨fun hnone => ?_,fun calls hcalls => ?_,fun record => h.recordStands hdb⟩
  · cases h.recordStep with
    | same hsame =>
      rw [hsame] at hnone
      rcases h.callStep with hcalls | ⟨rfl,_⟩
      · exact hcalls.trans (hdb.uncalled hnone)
      · obtain ⟨record,hrow,_⟩ := h.knows.1
        cases hnone.symm.trans hrow
    | inserted record _ hrow => cases hnone.symm.trans hrow
    | failed record _ _ _ hrow => cases hnone.symm.trans hrow
    | reported record created _ _ _ _ hrow => cases hnone.symm.trans hrow
    | closed record _ _ _ hrow => cases hnone.symm.trans hrow
  · rcases h.callStep with hsame | ⟨_,call,hcall⟩
    · exact hdb.called calls (hsame.symm.trans hcalls)
    · cases hcalls.symm.trans hcall
      rfl

theorem PublishHolds.step (h : PublishHolds a (replies i).adapter db x p)
    (hdb : PublishedDb a replies db) : PublishStep a db (p.view db) := by
  refine ⟨?_,?_,fun record hrow => (h.recordStands hdb hrow).closed⟩
  · intro record hrow
    cases h.recordStep with
    | same hsame => exact ⟨record,hsame.trans hrow,rfl,Or.inr ⟨rfl,rfl⟩⟩
    | inserted record' hnone => cases hnone.symm.trans hrow
    | failed record' _ hold hs hrow' =>
      cases hrow.symm.trans hold
      exact ⟨_,hrow',rfl,Or.inl ((hdb.record record hold).blank hs)⟩
    | reported record' created _ hold hs _ hrow' =>
      cases hrow.symm.trans hold
      exact ⟨_,hrow',rfl,Or.inl ((hdb.record record hold).blank hs)⟩
    | closed record' hold _ _ hrow' =>
      cases hrow.symm.trans hold
      exact ⟨_,hrow',rfl,Or.inr ⟨rfl,rfl⟩⟩
  · intro taskId hafter hbefore
    by_cases hx : x.touches a (.task taskId)
    · obtain ⟨record,hrow,rfl,hs⟩ := (h.task_published hx).1
      refine ⟨record,hrow,rfl,?_⟩
      cases hstatus : record.status with
      | finalizing => rfl
      | created => exact absurd ((hdb.record record hrow).closed hstatus) hbefore
      | creating => rw [hstatus] at hs; cases hs
      | failed => rw [hstatus] at hs; cases hs
      | other name => rw [hstatus] at hs; cases hs
    · obtain ⟨task,htask,hs⟩ := hafter
      exact absurd ⟨task,(h.same hx).symm.trans htask,hs⟩ hbefore

theorem PublishHolds.numberKept (h : PublishHolds a (replies i).adapter db x p)
    (hdb : PublishedDb a replies db) : NumberKept a db (p.view db) := by
  intro record hrow hne
  have hopen {old : PullRequestRecord} (hold : db (.pullRequest a) = some old) (hs : old.status = .creating) :
      False := by
    obtain rfl := Option.some.inj (hold.symm.trans hrow)
    exact hne ((hdb.record old hold).blank hs).unnumbered
  cases h.recordStep with
  | same hsame => exact ⟨record,hsame.trans hrow,hne,rfl,rfl⟩
  | inserted _ hnone => cases hnone.symm.trans hrow
  | failed _ _ hold hs => exact (hopen hold hs).elim
  | reported _ _ _ hold hs => exact (hopen hold hs).elim
  | closed old hold _ _ hnew =>
    obtain rfl := Option.some.inj (hold.symm.trans hrow)
    exact ⟨_,hnew,fun hun => (by cases hun.unpublished),rfl,rfl⟩

theorem owns_of_committed (hx : x.committed = some y) (hy : y.owns = true) : x.owns = true ∨ x = .inserted := by
  cases x with
  | inserted => exact Or.inr rfl
  | calling => exact Or.inl rfl
  | _ => cases hx <;> cases hy

end commits

section races

variable {ι : Type} [DecidableEq ι]

structure PublishRace (approvalId : Id) (replies : ι → PublishReplies) (tr : List (Commit ι Row))
    (ph : ι → PublishPhase) (pd : ι → Pending Row) (w : World) : Prop where
  sessions : ∀ i, PublishHolds approvalId (replies i).adapter w.db (ph i) (pd i)
  single : ∀ i j, (ph i).owns = true → (ph j).owns = true → i = j
  stands : PublishedDb approvalId replies w.db
  steps : ∀ c ∈ tr, PublishStep approvalId c.before c.after
  numbers : ∀ c ∈ tr, NumberKept approvalId c.before c.after

variable {a : Id} {replies : ι → PublishReplies} {tr : List (Commit ι Row)} {ph : ι → PublishPhase}
  {pd : ι → Pending Row} {w : World} {i : ι} {y : PublishPhase} {p : Pending Row}

theorem PublishRace.turn (h : PublishRace a replies tr ph pd w)
    (hy : PublishHolds a (replies i).adapter w.db y p) (howns : y.owns = true → (ph i).owns = true) :
    PublishRace a replies tr (Function.update ph i y) (Function.update pd i p) w := by
  have howner (j : ι) (hj : (Function.update ph i y j).owns = true) : (ph j).owns = true := by
    by_cases hji : j = i
    · subst hji
      rw [Function.update_self] at hj
      exact howns hj
    · rwa [Function.update_of_ne hji] at hj
  refine ⟨fun j => ?_,fun j k hj hk => h.single j k (howner j hj) (howner k hk),h.stands,h.steps,
    h.numbers⟩
  by_cases hji : j = i
  · subst hji
    simpa using hy
  · simpa [hji] using h.sessions j

omit [DecidableEq ι] in
theorem PublishRace.others (h : PublishRace a replies tr ph pd w) (ha : Apart pd) {j : ι} (hj : j ≠ i) :
    PublishHolds a (replies j).adapter ((pd i).view w.db) (ph j) (pd j) := by
  have hsession := h.sessions i
  have hother := h.sessions j
  have hstand := hsession.tasksStand
  have halone (hx : (ph i).owns = true) : (ph j).owns = false := by
    by_contra howns
    exact hj (h.single j i (eq_true_of_ne_false howns) hx)
  have hidle (hidle : ph j = .idle) : PublishHolds a (replies j).adapter ((pd i).view w.db) (ph j) (pd j) := by
    refine ⟨hother.touched,?_⟩
    rw [hidle]
    trivial
  have hunnumbered {record : PullRequestRecord} (hrow : w.db (.pullRequest a) = some record)
      (hs : record.status = .creating) (taskId : Id) : ¬ Numbered w.db a taskId :=
    fun hn => hn.not_created ⟨record,hrow,hs⟩
  cases hsession.recordStep with
  | same hsame =>
    refine hother.kept hsame (fun howns => ?_) hstand
    rcases hsession.callStep with hcalls | ⟨hx,_⟩
    · exact hcalls
    · rw [halone (by rw [hx]; rfl)] at howns
      cases howns
  | inserted record hnone hrow =>
    have hheld : pd i (.pullRequest a) ≠ none := by
      intro hp
      rw [Pending.view_of_none hp,hnone] at hrow
      cases hrow
    apply hidle
    apply hother.unnumbered _ _ (Or.inl (ha i j _ hj.symm hheld))
    · by_contra howns
      obtain ⟨record',hrow',_⟩ := hother.owned (eq_true_of_ne_false howns)
      cases hnone.symm.trans hrow'
    · rintro taskId ⟨record',hrow',_⟩
      cases hnone.symm.trans hrow'
  | failed record hx hrow hs =>
    apply hidle
    refine hother.unnumbered (halone hx) (hunnumbered hrow hs) (Or.inr ?_)
    rw [hrow]
    exact Option.some_ne_none record
  | reported record created hx hrow hs =>
    apply hidle
    refine hother.unnumbered (halone hx) (hunnumbered hrow hs) (Or.inr ?_)
    rw [hrow]
    exact Option.some_ne_none record
  | closed record hrow hs hdone hnew =>
    have hnumbered (taskId : Id) (hn : Numbered w.db a taskId) : Numbered ((pd i).view w.db) a taskId := by
      obtain ⟨record',hrow',hid,_⟩ := hn
      cases hrow.symm.trans hrow'
      exact ⟨_,hnew,hid,rfl⟩
    by_cases hp : pd i (.pullRequest a) = none
    · refine hother.kept (Pending.view_of_none hp _) (fun howns => ?_) hstand
      exact absurd (hother.owned howns) (Numbered.not_created ⟨record,hrow,rfl,hs⟩)
    · exact hother.outrun (ha i j _ hj.symm hp) ⟨_,record,hrow,rfl,hs⟩ hnumbered hstand

theorem PublishRace.commit (h : PublishRace a replies tr ph pd w) (ha : Apart pd)
    (hy : (ph i).committed = some y) :
    PublishRace a replies (tr ++ [⟨i,pd i,w.db⟩]) (Function.update ph i y)
      (Function.update pd i Pending.empty) ⟨(pd i).view w.db,w.next⟩ := by
  have hsession := h.sessions i
  have hnew := hsession.commit hy h.stands.uncalled
  have hnoOwner (hx : ph i = .inserted) (j : ι) : (ph j).owns = false := by
    by_contra howns
    obtain ⟨record,hrow,_⟩ := (h.sessions j).owned (eq_true_of_ne_false howns)
    rw [hx] at hsession
    cases hsession.knows.1.symm.trans hrow
  have hsingle (j : ι) (hj : j ≠ i) (howns : (ph j).owns = true) : y.owns = false := by
    by_contra hyowns
    rcases owns_of_committed hy (eq_true_of_ne_false hyowns) with hx | hx
    · exact hj (h.single j i howns hx)
    · rw [hnoOwner hx j] at howns
      cases howns
  refine ⟨fun j => ?_,fun j k hj hk => ?_,hsession.published h.stands,fun c hc => ?_,fun c hc => ?_⟩
  · by_cases hji : j = i
    · subst hji
      simpa using hnew
    · simpa [hji] using h.others ha hji
  · by_cases hji : j = i
    · by_cases hki : k = i
      · rw [hji,hki]
      · rw [Function.update_of_ne hki] at hk
        rw [hji,Function.update_self,hsingle k hki hk] at hj
        cases hj
    · rw [Function.update_of_ne hji] at hj
      by_cases hki : k = i
      · rw [hki,Function.update_self,hsingle j hji hj] at hk
        cases hk
      · rw [Function.update_of_ne hki] at hk
        exact h.single j k hj hk
  · rcases List.mem_append.mp hc with hc | hc
    · exact h.steps c hc
    · rw [List.mem_singleton.mp hc]
      exact hsession.step h.stands
  · rcases List.mem_append.mp hc with hc | hc
    · exact h.numbers c hc
    · rw [List.mem_singleton.mp hc]
      exact hsession.numberKept h.stands

theorem publish_annotated : Annotated (fun i => publishCourse a (replies i).adapter)
    (fun _ _ _ _ _ => True) fun tr ph pd w => PublishRace a replies tr ph pd w where
  bump h := ⟨h.sessions,h.single,h.stands,h.steps,h.numbers⟩
  learn {tr ph pd w i y} h hl := by
    have hturn := h.turn ((h.sessions i).learn hl) fun hy => ?_
    · rwa [Function.update_eq_self] at hturn
    · generalize ph i = x at hl
      cases hl with
      | load => rfl
      | _ => cases hy
  number _ hn := hn.elim
  update {tr ph pd w i y k g s} h _ _ hP hg := by
    refine h.turn ((h.sessions i).update hP hg) fun hy => ?_
    generalize ph i = x at hP
    cases hP with
    | call => rfl
    | _ => cases hy
  flush {tr ph pd w i y k l n} h _ _ hP hne _ := by
    refine h.turn ((h.sessions i).flush hP hne) fun hy => ?_
    generalize ph i = x at hP
    cases hP with
    | fail => rfl
    | report => rfl
    | _ => cases hy
  commit h ha hP := h.commit ha hP
  rollback h hy := by
    rw [hy]
    exact h.turn .rollback fun hidle => by cases hidle
  stop i h := ⟨.idle,h.turn .rollback fun hidle => by cases hidle⟩
  miss h hall hg := by
    rw [hall] at hg
    cases hg
  skip {tr ph pd w i y k l} h hskip _ := by
    obtain ⟨record,hx,hs⟩ := hskip
    have hknows := (h.sessions i).knows
    rw [hx] at hknows
    exact absurd hknows.2 hs

theorem publish_race [Fintype ι] {ctx : ι → Option AuthContext} {w : World}
    (hrecord : w.db (.pullRequest a) = none) (hcalls : w.db (.githubCalls a) = none)
    {g : Global ι Row Time Exn}
    (h : Execution (fun _ _ => True) (Global.init w fun i =>
      discard (createPullRequestForApproval (ctx i) a (replies i))) tr g) :
    ∃ ph, PublishRace a replies tr ph g.pends g.world := by
  have hstands : PublishedDb a replies w.db := by
    refine ⟨fun _ => hcalls,fun calls hrow => ?_,fun record hrow => ?_⟩
    · cases hcalls.symm.trans hrow
    · cases hrecord.symm.trans hrow
  have hstart : PublishRace a replies ([] : List (Commit ι Row)) (fun _ => .idle)
      (fun _ => Pending.empty) w :=
    ⟨fun _ => .rollback,fun _ _ hi => (by cases hi),hstands,fun _ hc => absurd hc List.not_mem_nil,
      fun _ hc => absurd hc List.not_mem_nil⟩
  obtain ⟨ph,hst⟩ := h.standing publish_annotated (fun _ _ _ _ _ _ _ _ _ => trivial)
    (fun i => publish_request (replies i)) hstart
  exact ⟨ph,hst.inv⟩

theorem pull_request_once [Fintype ι] {ctx : ι → Option AuthContext} {w : World}
    (hrecord : w.db (.pullRequest a) = none) (hcalls : w.db (.githubCalls a) = none)
    {g : Global ι Row Time Exn}
    (h : Execution (fun _ _ => True) (Global.init w fun i =>
      discard (createPullRequestForApproval (ctx i) a (replies i))) tr g) :
    PublishedDb a replies g.world.db ∧ ∀ c ∈ tr, PublishStep a c.before c.after := by
  obtain ⟨_,hrace⟩ := publish_race hrecord hcalls h
  exact ⟨hrace.stands,hrace.steps⟩

omit [DecidableEq ι] in
-- The number and the address stay from the commit on that puts them on the record.
theorem PublishRace.lasting (h : PublishRace a replies tr ph pd w) {db : Db} (hc : chained db tr w.db)
    {before after : List (Commit ι Row)} {c : Commit ι Row} (heq : tr = before ++ c :: after) :
    ∀ d ∈ after, NumberKept a c.after d.after := by
  subst heq
  obtain ⟨_,_,_,hlater⟩ := chained_append.mp hc
  intro d hd
  obtain ⟨between,rest,rfl⟩ := List.append_of_mem hd
  obtain ⟨_,hbetween,hbefore,_⟩ := chained_append.mp hlater
  have hupto : chained c.after (between ++ [d]) d.after := chained_append.mpr ⟨_,hbetween,hbefore,rfl⟩
  refine chained_kept (I := NumberKept a c.after) (fun e he hkept => ?_) hupto (.refl a c.after)
  have hmem : e ∈ before ++ c :: (between ++ d :: rest) := by
    simp only [List.mem_append,List.mem_cons,List.not_mem_nil,or_false] at he ⊢
    tauto
  exact hkept.trans (h.numbers e hmem)

theorem pull_request_exactly_once [Fintype ι] {ctx : ι → Option AuthContext} {w : World}
    (hrecord : w.db (.pullRequest a) = none) (hcalls : w.db (.githubCalls a) = none)
    {g : Global ι Row Time Exn}
    (h : Execution (fun _ _ => True) (Global.init w fun i =>
      discard (createPullRequestForApproval (ctx i) a (replies i))) tr g) :
    (∀ calls, g.world.db (.githubCalls a) = some calls → calls.length = 1) ∧
    ∀ before c after, tr = before ++ c :: after →
      (∀ d ∈ after, NumberKept a c.after d.after) ∧
      (∀ taskId, TaskPublished c.after taskId → ¬ TaskPublished c.before taskId →
        ∃ record, c.before (.pullRequest a) = some record ∧ record.taskId = taskId ∧ ¬ Unnumbered record) ∧
      ∀ record, c.after (.pullRequest a) = some record → record.status = .created →
        TaskPublished c.after record.taskId := by
  obtain ⟨_,hrace⟩ := publish_race hrecord hcalls h
  refine ⟨hrace.stands.called,fun before c after heq => ⟨hrace.lasting h.chained heq,?_,?_⟩⟩
  all_goals have hstep := hrace.steps c (by simp [heq])
  · intro taskId hafter hbefore
    obtain ⟨record,hrow,htask,hs⟩ := hstep.moved taskId hafter hbefore
    refine ⟨record,hrow,htask,fun hun => ?_⟩
    have hopen := hun.unpublished
    rw [hs] at hopen
    cases hopen
  · exact hstep.created

end races

def approvedTask : Task :=
  { newTask 2 ⟨"task",["src/**"],[],none,none,none⟩ 0 with status := .humanApproval }

def approvedRun (repository : Repository) : CloudRun :=
  { newCloudRun approvedTask 4 repository ⟨3,none,.localDb,none,none⟩ "fake" 7 10 0 with
    patchArtifactId := some 13 }

-- The task waits for its pull request.
def approvedWorld : World where
  db
    | .task 4 => some approvedTask
    | .patchArtifact 13 => some ⟨1,2,4,5,"",["src/app.py"],[],"passed",[],"--- a/src/app.py",0⟩
    | .patchApproval 13 => some ⟨25,1,2,4,5,14,0⟩
    | .cloudRun 6 => (workDb (.repository 3)).map approvedRun
    | k => workDb k
  next := 30

def answering (number : ℤ) : PublishReplies :=
  { publishReplies with adapter := .ok ⟨number,"https://github.com/acme/app/pull"⟩ }

def bothPublish : Bool → PublishReplies
  | false => answering 7
  | true => answering 8

-- The first session crashes once the number is committed, and the second closes the record.
def publishAround : List (Bool × Option Time) :=
  List.replicate 20 (false,some 100000) ++ [(false,none)] ++ List.replicate 30 (true,some 100001)

theorem publishAround_run : ∃ tr g,
    Execution (fun _ _ => True) (Global.init approvedWorld fun i =>
      discard (createPullRequestForApproval sampleOwner 25 (bothPublish i))) tr g ∧
      (g.world.db (.pullRequest 25)).map (fun record => (record.status,record.githubPrNumber)) =
        some (.created,7) ∧ (g.world.db (.githubCalls 25)).isSome = true := by
  have hplay : (((Global.init approvedWorld fun i =>
      discard (createPullRequestForApproval sampleOwner 25 (bothPublish i))).playCrashing
        publishAround).map fun r => ((r.2.world.db (.pullRequest 25)).map fun record =>
          (record.status,record.githubPrNumber),(r.2.world.db (.githubCalls 25)).isSome)) =
      some (some (.created,7),true) := by
    decide +kernel
  obtain ⟨⟨tr,g⟩,hp,heq⟩ := Option.map_eq_some_iff.mp hplay
  obtain ⟨hrecord,hcalled⟩ := Prod.mk.inj heq
  have hexecution := Global.playCrashing_execution .refl _ hp
  rw [List.nil_append] at hexecution
  exact ⟨tr,g,hexecution,hrecord,hcalled⟩

theorem pull_request_once_retried : ∃ tr g,
    Execution (fun _ _ => True) (Global.init approvedWorld fun i =>
      discard (createPullRequestForApproval sampleOwner 25 (bothPublish i))) tr g ∧
      (g.world.db (.pullRequest 25)).map (fun record => (record.status,record.githubPrNumber)) =
        some (.created,7) ∧
      PublishedDb 25 bothPublish g.world.db ∧ ∀ c ∈ tr, PublishStep 25 c.before c.after := by
  obtain ⟨tr,g,h,hrecord,_⟩ := publishAround_run
  exact ⟨tr,g,h,hrecord,pull_request_once rfl rfl h⟩

theorem pull_request_exactly_once_retried : ∃ tr g,
    Execution (fun _ _ => True) (Global.init approvedWorld fun i =>
      discard (createPullRequestForApproval sampleOwner 25 (bothPublish i))) tr g ∧
      (g.world.db (.pullRequest 25)).map (fun record => (record.status,record.githubPrNumber)) =
        some (.created,7) ∧
      (∃ call, g.world.db (.githubCalls 25) = some [call]) ∧
      ∀ before c after, tr = before ++ c :: after → ∀ d ∈ after, NumberKept 25 c.after d.after := by
  obtain ⟨tr,g,h,hrecord,hcalled⟩ := publishAround_run
  obtain ⟨honce,hsteps⟩ := pull_request_exactly_once rfl rfl h
  obtain ⟨calls,hcalls⟩ := Option.isSome_iff_exists.mp hcalled
  obtain ⟨call,rfl⟩ := List.length_eq_one_iff.mp (honce calls hcalls)
  exact ⟨tr,g,h,hrecord,⟨call,hcalls⟩,fun before c after heq => (hsteps before c after heq).1⟩

end AiScdc
