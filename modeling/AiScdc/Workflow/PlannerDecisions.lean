import AiScdc.Transaction.Execution
import AiScdc.Workflow.Walks

namespace AiScdc
open Transaction

inductive PlannerCall where
  | approve (ctx : Option AuthContext)
  | reject (ctx : Option AuthContext) (reason : String)

def PlannerCall.program (plannerRunId : Id) : PlannerCall → Op Unit
  | approve ctx => discard (approvePlannerRun ctx plannerRunId)
  | reject ctx reason => discard (rejectPlannerRun ctx plannerRunId reason)

-- What list_planner_task_drafts reads.
def draftsOf (db : Db) (next : ℕ) (plannerRunId : Id) : List (Id × PlannerTaskDraft) :=
  ((List.range next).filterMap fun id => (db (.plannerTaskDraft id)).bind fun draft =>
    if draft.plannerRunId = plannerRunId then some (id,draft) else none).insertionSort
      fun a b => a.2.sequence ≤ b.2.sequence

structure DraftMade (plannerRunId projectId : Id) (db : Db) (draft : Id × PlannerTaskDraft)
    (made : Id × Id) : Prop where
  task : ∃ now, db (.task made.1) = some (newTask projectId (draftedTask draft.2) now)
  event : ∃ now, db (.taskEvent made.2) =
    some ⟨made.1,.taskCreated .created (some plannerRunId) (some draft.1),now⟩

-- Beside the approval and the run nothing is written but a new task, with its event, for each draft,
-- and the tasks of `bare`, which have no event yet.
structure TasksMade (plannerRunId projectId : Id) (before after : Db)
    (drafts : List (Id × PlannerTaskDraft)) (made : List (Id × Id)) (bare : List Id) : Prop where
  each : List.Forall₂ (DraftMade plannerRunId projectId after) drafts made
  distinct : (made.map Prod.fst ++ bare).Nodup
  new : ∀ m ∈ made, before (.task m.1) = none ∧ before (.taskEvent m.2) = none
  newBare : ∀ id ∈ bare, before (.task id) = none
  others : ∀ k, k ≠ .approval plannerRunId → k ≠ .plannerRun plannerRunId →
    (∀ m ∈ made, k ≠ .task m.1 ∧ k ≠ .taskEvent m.2) → (∀ id ∈ bare, k ≠ .task id) → after k = before k

def ApprovalStatus.planned : ApprovalStatus → PlannerRunStatus
  | .approved => .approved
  | .rejected => .rejected

def ApprovalStatus.makes (drafts : List (Id × PlannerTaskDraft)) : ApprovalStatus → List (Id × PlannerTaskDraft)
  | .approved => drafts
  | .rejected => []

structure Decides (plannerRunId : Id) (drafts : List (Id × PlannerTaskDraft)) (before after : Db)
    (run : PlannerRun) (approval : Approval) (made : List (Id × Id)) : Prop where
  undecided : before (.approval plannerRunId) = none
  drafted : before (.plannerRun plannerRunId) = some run ∧ run.status = .drafted
  approved : after (.approval plannerRunId) = some approval
  decided : ∃ now, after (.plannerRun plannerRunId) = some (run.decided approval.status.planned now)
  tasks : TasksMade plannerRunId run.projectId before after (approval.status.makes drafts) made []

section drafts

variable {db db' : Db} {next next' : ℕ} {plannerRunId : Id}

theorem draftsOf_grow (hnew : ∀ id, next ≤ id → db (.plannerTaskDraft id) = none) (hle : next ≤ next')
    (hsame : ∀ id, db' (.plannerTaskDraft id) = db (.plannerTaskDraft id)) :
    draftsOf db' next' plannerRunId = draftsOf db next plannerRunId := by
  obtain ⟨more,rfl⟩ := Nat.exists_eq_add_of_le hle
  have hlater : ((List.range more).map (next + ·)).filterMap (fun id =>
      (db (.plannerTaskDraft id)).bind fun draft =>
        if draft.plannerRunId = plannerRunId then some (id,draft) else none) = [] := by
    rw [List.filterMap_eq_nil_iff]
    intro id hid
    obtain ⟨n,_,rfl⟩ := List.mem_map.mp hid
    rw [hnew _ (Nat.le_add_right next n)]
    rfl
  simp only [draftsOf,hsame]
  rw [List.range_add,List.filterMap_append,hlater,List.append_nil]

end drafts

inductive PlannerPhase where
  | idle
  | read (run : PlannerRun)
  | listed (run : PlannerRun) (drafts : List (Id × PlannerTaskDraft))
  | writing (approval : Approval) (run : PlannerRun) (done : List (Id × PlannerTaskDraft))
      (made : List (Id × Id)) (rest : List (Id × PlannerTaskDraft))
  | tasked (approval : Approval) (run : PlannerRun) (done : List (Id × PlannerTaskDraft))
      (made : List (Id × Id)) (draft : Id × PlannerTaskDraft) (taskId : Id)
      (rest : List (Id × PlannerTaskDraft))
  | closed (approval : Approval) (run : PlannerRun) (done : List (Id × PlannerTaskDraft))
      (made : List (Id × Id))

inductive PlannerUpdate (plannerRunId : Id) :
    PlannerPhase → ∀ k : Key, (Row k → Bool) → (Row k → Row k) → PlannerPhase → Prop
  | approve {run drafts approval} (hdrafted : run.status = .drafted) (hstatus : approval.status = .approved) :
      PlannerUpdate plannerRunId (.listed run drafts) (.approval plannerRunId) (fun row => row.isNone)
        (fun _ => some approval) (.writing approval run [] [] drafts)
  | reject {run approval} (hdrafted : run.status = .drafted) (hstatus : approval.status = .rejected) :
      PlannerUpdate plannerRunId (.read run) (.approval plannerRunId) (fun row => row.isNone)
        (fun _ => some approval) (.writing approval run [] [] [])
  | task {approval run done made draft rest} (id : Id) (now : Time) :
      PlannerUpdate plannerRunId (.writing approval run done made (draft :: rest)) (.task id)
        (fun row => row.isNone) (fun _ => some (newTask run.projectId (draftedTask draft.2) now))
        (.tasked approval run done made draft id rest)
  | event {approval run done made draft taskId rest} (id : Id) (now : Time) :
      PlannerUpdate plannerRunId (.tasked approval run done made draft taskId rest) (.taskEvent id)
        (fun row => row.isNone)
        (fun _ => some ⟨taskId,.taskCreated .created (some plannerRunId) (some draft.1),now⟩)
        (.writing approval run (done ++ [draft]) (made ++ [(taskId,id)]) rest)

inductive PlannerFlush (plannerRunId : Id) :
    PlannerPhase → ∀ k : Key, Row k → Row k → PlannerPhase → Prop
  | close {approval run done made} (now : Time) :
      PlannerFlush plannerRunId (.writing approval run done made []) (.plannerRun plannerRunId) (some run)
        (some (run.decided approval.status.planned now)) (.closed approval run done made)

inductive PlannerLearn (plannerRunId : Id) : PlannerPhase → Db → ℕ → PlannerPhase → Prop
  | read {db next run} (h : db (.plannerRun plannerRunId) = some run) :
      PlannerLearn plannerRunId .idle db next (.read run)
  | list {db next run} :
      PlannerLearn plannerRunId (.read run) db next (.listed run (draftsOf db next plannerRunId))

def PlannerPhase.isOpen : PlannerPhase → Bool
  | writing _ _ _ _ _ | tasked _ _ _ _ _ _ _ => true
  | _ => false

def plannerCourse (plannerRunId : Id) : Course Row PlannerPhase where
  learn := PlannerLearn plannerRunId
  number _ _ _ := False
  update := PlannerUpdate plannerRunId
  flush := PlannerFlush plannerRunId
  commit x y := x.isOpen = false ∧ y = .idle
  rollback _ y := y = .idle

section walks

variable {r : Id}

theorem planner_permission (ctx : Option AuthContext) {x : PlannerPhase} {Q : Unit → PlannerPhase → Prop}
    (hQ : Q () x) : Writes (plannerCourse r) x (requireAuditedPermissionIfAuthenticated ctx) Q
      fun _ _ => True := by
  cases ctx with
  | none => exact hQ
  | some c =>
    unfold requireAuditedPermissionIfAuthenticated
    dsimp only
    split
    · exact hQ
    · exact ⟨.idle,rfl,.idle,⟨rfl,rfl⟩,trivial⟩

theorem planner_insert {k : Key} {row : k.Entity} {x y : PlannerPhase} {Q : Unit → PlannerPhase → Prop}
    {E : Exn → PlannerPhase → Prop}
    (h : PlannerUpdate r x k (fun row => row.isNone) (fun _ => some row) y) (hQ : Q () y)
    (hE : E .integrityError x) : Writes (plannerCourse r) x (insert k row) Q E :=
  ⟨⟨y,h,hQ⟩,x,Or.inl rfl,hE⟩

-- An insert that violates a constraint rolls everything back.
theorem planner_orAlreadyDecided {α : Type} {m : Op α} {x : PlannerPhase} {Q : α → PlannerPhase → Prop}
    (h : Writes (plannerCourse r) x m Q fun _ _ => True) :
    Writes (plannerCourse r) x (orAlreadyDecided m) Q fun _ _ => True := by
  apply Writes.tryCatch
  apply h.mono (fun _ _ hQ => hQ)
  intro e y _
  cases e with
  | integrityError => exact ⟨.idle,rfl,trivial⟩
  | http statusCode detail => exact trivial
  | unhandled name => exact trivial

theorem planner_draftedTasks {approval : Approval} {run : PlannerRun} {done : List (Id × PlannerTaskDraft)}
    {made : List (Id × Id)} (rest : List (Id × PlannerTaskDraft)) :
    Writes (plannerCourse r) (.writing approval run done made rest)
      (createDraftedTasks r run.projectId rest)
      (fun _ y => ∃ made', y = .writing approval run (done ++ rest) made' []) fun _ _ => True := by
  induction rest generalizing done made with
  | nil => exact ⟨made,by rw [List.append_nil]⟩
  | cons draft rest ih =>
    apply Writes.bind
    apply Writes.bind
    intro taskId
    refine ⟨_,Or.inl rfl,?_⟩
    apply Writes.bind
    intro now
    apply Writes.bind
    apply planner_insert (.task taskId now) _ trivial
    apply Writes.bind
    intro createdAt
    apply Writes.bind
    apply Writes.bind
    intro eventId
    refine ⟨_,Or.inl rfl,?_⟩
    apply planner_insert (.event eventId createdAt) _ trivial
    apply Writes.bind
    apply ih.mono _ fun _ _ _ => trivial
    rintro taskIds y ⟨made',rfl⟩
    exact ⟨made',by rw [List.append_assoc]; rfl⟩

theorem planner_close {approval : Approval} {run : PlannerRun} {done : List (Id × PlannerTaskDraft)}
    {made : List (Id × Id)} (hdrafted : run.status = .drafted) (now : Time) :
    Writes (plannerCourse r) (.writing approval run done made [])
      (flush (.plannerRun r) run (run.decided approval.status.planned now))
      (fun _ y => y = .closed approval run done made) fun _ _ => True := by
  refine ⟨fun heq => ?_,fun _ => ⟨_,.close now,rfl⟩⟩
  have hstatus := congrArg PlannerRun.status (Option.some.inj heq)
  rw [hdrafted] at hstatus
  cases happroval : approval.status with
  | approved =>
    rw [happroval] at hstatus
    cases hstatus
  | rejected =>
    rw [happroval] at hstatus
    cases hstatus

theorem planner_list (run : PlannerRun) : Writes (plannerCourse r) (.read run) (listPlannerTaskDrafts r)
    (fun drafts y => y = .listed run drafts) fun _ _ => True := by
  apply Writes.bind
  intro db next
  exact ⟨_,Or.inr .list,rfl⟩

theorem planner_read (ctx : Option AuthContext) {Q : PlannerRun → PlannerPhase → Prop}
    (hQ : ∀ run, Q run (.read run)) : Writes (plannerCourse r) .idle (getPlannerRun ctx r) Q
      fun _ _ => True := by
  apply Writes.bind
  apply writes_getOr404 _ trivial
  intro db next run hrun
  refine ⟨.read run,Or.inr (.read hrun),?_⟩
  exact (obeys_getProject ctx run.projectId).still (fun _ => hQ run) fun _ => trivial

theorem idle_reaches {α : Type} {m : Op α} (h : Obeys (plannerCourse r) (· = .idle) m) :
    Writes (plannerCourse r) .idle m (fun _ _ => True) fun _ _ => True :=
  (h .idle rfl).mono (fun _ _ _ => trivial) fun _ _ _ => trivial

theorem planner_approve (ctx : Option AuthContext) : Writes (plannerCourse r) .idle
    (approvePlannerRun ctx r) (fun _ _ => True) fun _ _ => True := by
  apply Writes.bind
  apply planner_read
  intro run
  refine (obeys_getProject ctx run.projectId).still (fun project => ?_) fun _ => trivial
  apply Writes.bind
  apply planner_permission
  apply Writes.bind
  apply (gives_drafted run _ (rfl : PlannerPhase.read run = .read run)).mono _ fun _ _ _ => trivial
  rintro _ _ ⟨hdrafted,rfl⟩
  apply Writes.bind
  apply (planner_list run).mono _ fun _ _ _ => trivial
  rintro drafts _ rfl
  apply Writes.bind
  have hdecide : Writes (plannerCourse r) (.listed run drafts) (decideApproved r run project drafts)
      (fun _ y => y = .idle) fun _ _ => True := by
    apply Writes.bind
    intro decidedAt
    apply Writes.bind
    intro approvalId
    refine ⟨_,Or.inl rfl,?_⟩
    apply Writes.bind
    apply planner_insert (.approve hdrafted rfl) _ trivial
    apply Writes.bind
    apply (planner_draftedTasks _).mono _ fun _ _ _ => trivial
    rintro taskIds _ ⟨made,rfl⟩
    apply Writes.bind
    intro updatedAt
    apply Writes.bind
    apply (planner_close hdrafted updatedAt).mono _ fun _ _ _ => trivial
    rintro _ _ rfl
    exact ⟨.idle,⟨rfl,rfl⟩,rfl⟩
  apply (planner_orAlreadyDecided hdecide).mono _ fun _ _ _ => trivial
  rintro taskIds _ rfl
  exact idle_reaches ((obeys_refresh _).bind fun _ => (obeys_refresh _).bind fun _ =>
    (obeys_refreshTasks taskIds).bind fun _ => .pure _)

theorem planner_reject (ctx : Option AuthContext) (reason : String) : Writes (plannerCourse r) .idle
    (rejectPlannerRun ctx r reason) (fun _ _ => True) fun _ _ => True := by
  apply Writes.bind
  apply planner_read
  intro run
  refine (obeys_getProject ctx run.projectId).still (fun project => ?_) fun _ => trivial
  apply Writes.bind
  apply planner_permission
  apply Writes.bind
  apply (gives_drafted run _ (rfl : PlannerPhase.read run = .read run)).mono _ fun _ _ _ => trivial
  rintro _ _ ⟨hdrafted,rfl⟩
  apply Writes.bind
  have hdecide : Writes (plannerCourse r) (.read run) (decideRejected r run project reason)
      (fun _ y => y = .idle) fun _ _ => True := by
    apply Writes.bind
    intro decidedAt
    apply Writes.bind
    intro approvalId
    refine ⟨_,Or.inl rfl,?_⟩
    apply Writes.bind
    apply planner_insert (.reject hdrafted rfl) _ trivial
    apply Writes.bind
    intro updatedAt
    apply Writes.bind
    apply (planner_close hdrafted updatedAt).mono _ fun _ _ _ => trivial
    rintro _ _ rfl
    exact ⟨.idle,⟨rfl,rfl⟩,rfl⟩
  apply (planner_orAlreadyDecided hdecide).mono _ fun _ _ _ => trivial
  rintro _ _ rfl
  exact idle_reaches ((obeys_refresh _).bind fun _ => (obeys_refresh _).bind fun _ => .pure _)

theorem PlannerCall.walks (call : PlannerCall) : Writes (plannerCourse r) .idle (call.program r)
    (fun _ _ => True) fun _ _ => True := by
  cases call with
  | approve ctx => exact Writes.bind ((planner_approve ctx).mono (fun _ _ _ => trivial) fun _ _ _ => trivial)
  | reject ctx reason =>
    exact Writes.bind ((planner_reject ctx reason).mono (fun _ _ _ => trivial) fun _ _ _ => trivial)

end walks

section tasks

variable {r projectId id eventId : Id} {before after after' : Db} {drafts : List (Id × PlannerTaskDraft)}
  {draft : Id × PlannerTaskDraft} {made : List (Id × Id)} {bare : List Id} {k : Key}

theorem TasksMade.kept (h : TasksMade r projectId before after drafts made bare)
    (hnone : after k = none) (hagree : ∀ k', k' ≠ k → after' k' = after k') :
    List.Forall₂ (DraftMade r projectId after') drafts made := by
  apply h.each.imp
  rintro draft m ⟨⟨now,htask⟩,⟨createdAt,hevent⟩⟩
  have hother {k' : Key} {row : k'.Entity} (hrow : after k' = some row) : after' k' = some row := by
    rw [hagree k',hrow]
    rintro rfl
    rw [hnone] at hrow
    cases hrow
  exact ⟨⟨now,hother htask⟩,⟨createdAt,hother hevent⟩⟩

theorem TasksMade.stands (h : TasksMade r projectId before after drafts made bare) {m : Id × Id}
    (hm : m ∈ made) : after (.task m.1) ≠ none ∧ after (.taskEvent m.2) ≠ none := by
  obtain ⟨n,hn,rfl⟩ := List.getElem_of_mem hm
  have hlength := h.each.length_eq
  obtain ⟨⟨now,htask⟩,⟨createdAt,hevent⟩⟩ := h.each.get (by omega) hn
  constructor
  · intro hnone
    cases htask.symm.trans hnone
  · intro hnone
    cases hevent.symm.trans hnone

theorem TasksMade.addTask (h : TasksMade r projectId before after drafts made [])
    (hnone : after (.task id) = none) (hagree : ∀ k', k' ≠ .task id → after' k' = after k') :
    TasksMade r projectId before after' drafts made [id] := by
  have hunused : ∀ m ∈ made, m.1 ≠ id := by
    rintro m hm rfl
    exact (h.stands hm).1 hnone
  refine ⟨h.kept hnone hagree,?_,h.new,?_,?_⟩
  · have hdistinct := h.distinct
    rw [List.append_nil] at hdistinct
    refine List.nodup_append.mpr ⟨hdistinct,List.nodup_singleton id,?_⟩
    intro a ha b hb
    obtain ⟨m,hm,rfl⟩ := List.mem_map.mp ha
    rw [List.mem_singleton.mp hb]
    exact hunused m hm
  · intro id' hid
    rw [List.mem_singleton.mp hid]
    refine (h.others (.task id) (by simp) (by simp) (fun m hm => ⟨?_,by simp⟩) (by simp)).symm.trans hnone
    simpa using (hunused m hm).symm
  · intro k hk hrun hmade hbare
    exact (hagree k (hbare id List.mem_cons_self)).trans (h.others k hk hrun hmade (by simp))

theorem TasksMade.addEvent {now createdAt : Time} (h : TasksMade r projectId before after drafts made [id])
    (htask : after (.task id) = some (newTask projectId (draftedTask draft.2) now))
    (hnone : after (.taskEvent eventId) = none) (hagree : ∀ k', k' ≠ .taskEvent eventId → after' k' = after k')
    (hevent : after' (.taskEvent eventId) =
      some ⟨id,.taskCreated .created (some r) (some draft.1),createdAt⟩) :
    TasksMade r projectId before after' (drafts ++ [draft]) (made ++ [(id,eventId)]) [] := by
  refine ⟨?_,?_,?_,by simp,?_⟩
  · apply List.rel_append (h.kept hnone hagree)
    exact .cons ⟨⟨now,(hagree _ (by simp)).trans htask⟩,⟨createdAt,hevent⟩⟩ .nil
  · rw [List.append_nil,List.map_append]
    exact h.distinct
  · intro m hm
    rcases List.mem_append.mp hm with hm | hm
    · exact h.new m hm
    · rw [List.mem_singleton.mp hm]
      refine ⟨h.newBare id List.mem_cons_self,?_⟩
      refine (h.others (.taskEvent eventId) (by simp) (by simp) (fun m hm => ⟨by simp,?_⟩) (by simp)).symm.trans hnone
      intro heq
      refine (h.stands hm).2 ?_
      rw [← heq]
      exact hnone
  · intro k hk hrun hmade _
    have hlast := hmade (id,eventId) (List.mem_append_right _ List.mem_cons_self)
    rw [hagree k hlast.2]
    refine h.others k hk hrun (fun m hm => hmade m (List.mem_append_left _ hm)) fun id' hid => ?_
    rw [List.mem_singleton.mp hid]
    exact hlast.1

end tasks

structure PlannerWriting (w : World) (r : Id) (approval : Approval) (run : PlannerRun)
    (done : List (Id × PlannerTaskDraft)) (made : List (Id × Id)) (bare : List Id) (p : Pending Row) :
    Prop where
  held : p (.approval r) ≠ none
  undecided : w.db (.approval r) = none
  drafted : w.db (.plannerRun r) = some run ∧ run.status = .drafted
  approved : p.view w.db (.approval r) = some approval
  tasks : TasksMade r run.projectId w.db (p.view w.db) done made bare

-- A run that is read as drafted is the one the race starts from.
def StartsFrom (w : World) (r : Id) (run : PlannerRun) : Prop :=
  run.status = .drafted → w.db (.plannerRun r) = some run

def PlannerHolds (w : World) (r : Id) : PlannerPhase → Pending Row → Prop
  | .idle, p => p = Pending.empty
  | .read run, p => p = Pending.empty ∧ StartsFrom w r run
  | .listed run drafts, p => p = Pending.empty ∧ StartsFrom w r run ∧ drafts = draftsOf w.db w.next r
  | .writing approval run done made rest, p => PlannerWriting w r approval run done made [] p ∧
      p.view w.db (.plannerRun r) = some run ∧ done ++ rest = approval.status.makes (draftsOf w.db w.next r)
  | .tasked approval run done made draft taskId rest, p =>
      PlannerWriting w r approval run done made [taskId] p ∧
      p.view w.db (.plannerRun r) = some run ∧
      (∃ now, p.view w.db (.task taskId) = some (newTask run.projectId (draftedTask draft.2) now)) ∧
      done ++ draft :: rest = approval.status.makes (draftsOf w.db w.next r)
  | .closed approval run done made, p => PlannerWriting w r approval run done made [] p ∧
      (∃ now, p.view w.db (.plannerRun r) = some (run.decided approval.status.planned now)) ∧
      done = approval.status.makes (draftsOf w.db w.next r)

section sessions

variable {w : World} {r : Id} {x y : PlannerPhase} {p : Pending Row} {approval : Approval} {run : PlannerRun}
  {done : List (Id × PlannerTaskDraft)} {made : List (Id × Id)} {bare : List Id}

theorem view_put_agrees {k : Key} {l v : Row k} (db : Db) (k' : Key) (h : k' ≠ k) :
    (p.put k l v).view db k' = p.view db k' := Pending.view_put_ne p l v db h

theorem PlannerWriting.start (hnone : w.db (.approval r) = none)
    (hdrafted : w.db (.plannerRun r) = some run ∧ run.status = .drafted) :
    PlannerWriting w r approval run [] [] []
      (Pending.empty.put (.approval r) (w.db (.approval r)) (some approval)) where
  held := by simp [Pending.put_self]
  undecided := hnone
  drafted := hdrafted
  approved := Pending.view_put_self _ _ _ _ _
  tasks :=
    { each := .nil
      distinct := List.nodup_nil
      new := fun _ hm => absurd hm List.not_mem_nil
      newBare := fun _ hid => absurd hid List.not_mem_nil
      others := fun k hk _ _ _ => view_put_agrees _ k hk }

theorem PlannerWriting.write (h : PlannerWriting w r approval run done made bare p) {k : Key} {l v : Row k}
    (hk : k ≠ .approval r) {done' : List (Id × PlannerTaskDraft)} {made' : List (Id × Id)} {bare' : List Id}
    (htasks : TasksMade r run.projectId w.db ((p.put k l v).view w.db) done' made' bare') :
    PlannerWriting w r approval run done' made' bare' (p.put k l v) where
  held := by
    rw [Pending.put_ne _ _ _ hk.symm]
    exact h.held
  undecided := h.undecided
  drafted := h.drafted
  approved := (view_put_agrees _ _ hk.symm).trans h.approved
  tasks := htasks

theorem TasksMade.decided (h : TasksMade r run.projectId w.db (p.view w.db) done made bare)
    (l v : Row (.plannerRun r)) :
    TasksMade r run.projectId w.db ((p.put (.plannerRun r) l v).view w.db) done made bare where
  each := by
    apply h.each.imp
    rintro draft m ⟨⟨now,htask⟩,⟨createdAt,hevent⟩⟩
    exact ⟨⟨now,(view_put_agrees _ _ (by simp)).trans htask⟩,
      ⟨createdAt,(view_put_agrees _ _ (by simp)).trans hevent⟩⟩
  distinct := h.distinct
  new := h.new
  newBare := h.newBare
  others k hk hrun hmade hbare := (view_put_agrees _ k hrun).trans (h.others k hk hrun hmade hbare)

theorem PlannerHolds.update {k : Key} {g : Row k → Bool} {s : Row k → Row k} (h : PlannerHolds w r x p)
    (hP : PlannerUpdate r x k g s y) (hg : g (p.view w.db k) = true) :
    PlannerHolds w r y (p.put k (w.db k) (s (p.view w.db k))) := by
  cases hP with
  | approve hdrafted hstatus =>
    obtain ⟨rfl,hstart,rfl⟩ := h
    have hnone : w.db (.approval r) = none := Option.isNone_iff_eq_none.mp hg
    have hrun := hstart hdrafted
    refine ⟨.start hnone ⟨hrun,hdrafted⟩,(view_put_agrees _ _ (by simp)).trans hrun,?_⟩
    rw [hstatus]
    rfl
  | reject hdrafted hstatus =>
    obtain ⟨rfl,hstart⟩ := h
    have hnone : w.db (.approval r) = none := Option.isNone_iff_eq_none.mp hg
    have hrun := hstart hdrafted
    refine ⟨.start hnone ⟨hrun,hdrafted⟩,(view_put_agrees _ _ (by simp)).trans hrun,?_⟩
    rw [hstatus]
    rfl
  | task id now =>
    obtain ⟨hwriting,hrun,hdrafts⟩ := h
    have hnone := Option.isNone_iff_eq_none.mp hg
    refine ⟨hwriting.write (by simp) (hwriting.tasks.addTask hnone (view_put_agrees _)),
      (view_put_agrees _ _ (by simp)).trans hrun,⟨now,Pending.view_put_self _ _ _ _ _⟩,hdrafts⟩
  | event id createdAt =>
    obtain ⟨hwriting,hrun,⟨now,htask⟩,hdrafts⟩ := h
    have hnone := Option.isNone_iff_eq_none.mp hg
    refine ⟨hwriting.write (by simp) (hwriting.tasks.addEvent htask hnone (view_put_agrees _)
      (Pending.view_put_self _ _ _ _ _)),(view_put_agrees _ _ (by simp)).trans hrun,?_⟩
    rw [List.append_assoc]
    exact hdrafts

theorem PlannerHolds.flush {k : Key} {l n : Row k} (h : PlannerHolds w r x p) (hP : PlannerFlush r x k l n y) :
    PlannerHolds w r y (p.put k l (Schema.merge k l n (p.view w.db k))) := by
  cases hP with
  | close now =>
    obtain ⟨hwriting,hrun,hdrafts⟩ := h
    rw [hrun,Schema.merge_loaded]
    refine ⟨hwriting.write (by simp) (hwriting.tasks.decided _ _),⟨now,Pending.view_put_self _ _ _ _ _⟩,?_⟩
    rw [← hdrafts,List.append_nil]

-- A session that has not written the approval has written nothing.
theorem PlannerHolds.empty (h : PlannerHolds w r x p) (hfree : p (.approval r) = none) : p = Pending.empty := by
  cases x with
  | idle => exact h
  | read run => exact h.1
  | listed run drafts => exact h.1
  | writing approval run done made rest => exact absurd hfree h.1.held
  | tasked approval run done made draft taskId rest => exact absurd hfree h.1.held
  | closed approval run done made => exact absurd hfree h.1.held

theorem PlannerHolds.rollback (w : World) (r : Id) : PlannerHolds w r .idle Pending.empty := rfl

theorem PlannerHolds.decides (h : PlannerHolds w r (.closed approval run done made) p) :
    Decides r (draftsOf w.db w.next r) w.db (p.view w.db) run approval made := by
  obtain ⟨hwriting,hdecided,rfl⟩ := h
  exact ⟨hwriting.undecided,hwriting.drafted,hwriting.approved,hdecided,hwriting.tasks⟩

end sessions

section races

variable {ι : Type} [DecidableEq ι]

-- One commit decides the run; every other commit writes nothing.
structure DecidedOnce (w : World) (r : Id) (tr : List (Commit ι Row)) (db : Db) : Prop where
  split : ∃ earlier c later, tr = earlier ++ c :: later ∧ (∀ d ∈ earlier ++ later, d.pend = Pending.empty) ∧
    c.before = w.db ∧ db = c.after ∧
      ∃ run approval made, Decides r (draftsOf w.db w.next r) c.before c.after run approval made

def Undecided (w : World) (tr : List (Commit ι Row)) (db : Db) : Prop :=
  (∀ c ∈ tr, c.pend = Pending.empty) ∧ db = w.db

structure PlannerRace (w : World) (r : Id) (tr : List (Commit ι Row)) (ph : ι → PlannerPhase)
    (pd : ι → Pending Row) (w' : World) : Prop where
  sessions : ∀ i, PlannerHolds w r (ph i) (pd i)
  later : w.next ≤ w'.next
  outcome : Undecided w tr w'.db ∨ DecidedOnce w r tr w'.db ∧ ∀ i, pd i (.approval r) = none

variable {w w' : World} {r : Id} {tr : List (Commit ι Row)} {ph : ι → PlannerPhase} {pd : ι → Pending Row}
  {i : ι} {y : PlannerPhase} {p : Pending Row}

theorem PlannerRace.turn (h : PlannerRace w r tr ph pd w') (hy : PlannerHolds w r y p)
    (hp : Undecided w tr w'.db ∨ p (.approval r) = none) :
    PlannerRace w r tr (Function.update ph i y) (Function.update pd i p) w' := by
  refine ⟨fun j => ?_,h.later,?_⟩
  · by_cases hj : j = i
    · subst hj
      simpa using hy
    · simpa [hj] using h.sessions j
  · rcases h.outcome with hun | ⟨hdecided,hfree⟩
    · exact Or.inl hun
    · rcases hp with hun | hp
      · exact Or.inl hun
      · right
        refine ⟨hdecided,fun j => ?_⟩
        by_cases hj : j = i
        · subst hj
          simpa using hp
        · simpa [hj] using hfree j

omit [DecidableEq ι] in
theorem DecidedOnce.approval_stands (h : DecidedOnce w r tr w'.db) : w'.db (.approval r) ≠ none := by
  obtain ⟨_,c,_,_,_,_,hdb,_,_,_,hdecides⟩ := h.split
  rw [hdb,hdecides.approved]
  exact Option.some_ne_none _

omit [DecidableEq ι] in
theorem DecidedOnce.run_decided (h : DecidedOnce w r tr w'.db) {run : PlannerRun}
    (hrun : w'.db (.plannerRun r) = some run) : run.status ≠ .drafted := by
  obtain ⟨_,c,_,_,_,_,hdb,_,approval,_,hdecides⟩ := h.split
  obtain ⟨now,hdecided⟩ := hdecides.decided
  rw [hdb,hdecided] at hrun
  rw [← Option.some.inj hrun]
  show approval.status.planned ≠ .drafted
  cases approval.status with
  | approved => exact fun heq => by cases heq
  | rejected => exact fun heq => by cases heq

omit [DecidableEq ι] in
theorem PlannerRace.drafts_same (h : PlannerRace w r tr ph pd w') (id : Id) :
    w'.db (.plannerTaskDraft id) = w.db (.plannerTaskDraft id) := by
  rcases h.outcome with ⟨_,hdb⟩ | ⟨hdecided,_⟩
  · rw [hdb]
  · obtain ⟨_,c,_,_,_,hbefore,hdb,_,_,_,hdecides⟩ := hdecided.split
    rw [hdb,hdecides.tasks.others _ (by simp) (by simp) (fun _ _ => by simp) (by simp),hbefore]

theorem PlannerRace.learn (hnew : ∀ id, w.next ≤ id → w.db (.plannerTaskDraft id) = none)
    (h : PlannerRace w r tr ph pd w') (hl : PlannerLearn r (ph i) ((pd i).view w'.db) w'.next y) :
    PlannerRace w r tr (Function.update ph i y) pd w' := by
  have hsession := h.sessions i
  have hkeep : Undecided w tr w'.db ∨ (pd i) (.approval r) = none := h.outcome.imp_right fun hd => hd.2 i
  have hturn (hy : PlannerHolds w r y (pd i)) := h.turn (i := i) hy hkeep
  rw [Function.update_eq_self] at hturn
  apply hturn
  generalize hx : ph i = x at hl hsession
  cases hl with
  | @read _ _ run hrun =>
    have hempty : pd i = Pending.empty := hsession
    rw [hempty,Pending.view_empty] at hrun
    refine ⟨hempty,fun hdrafted => ?_⟩
    rcases h.outcome with ⟨_,hdb⟩ | ⟨hdecided,_⟩
    · rw [← hdb]
      exact hrun
    · exact absurd hdrafted (hdecided.run_decided hrun)
  | list =>
    obtain ⟨hempty,hstart⟩ := hsession
    refine ⟨hempty,hstart,?_⟩
    rw [hempty,Pending.view_empty]
    exact draftsOf_grow hnew h.later h.drafts_same

theorem PlannerRace.commit (h : PlannerRace w r tr ph pd w') (ha : Apart pd) (hx : (ph i).isOpen = false) :
    PlannerRace w r (tr ++ [⟨i,pd i,w'.db⟩]) (Function.update ph i .idle)
      (Function.update pd i Pending.empty) ⟨(pd i).view w'.db,w'.next⟩ := by
  have hsessions (j : ι) : PlannerHolds w r (Function.update ph i .idle j)
      (Function.update pd i Pending.empty j) := by
    by_cases hj : j = i
    · subst hj
      simpa using PlannerHolds.rollback w r
    · simpa [hj] using h.sessions j
  have hsession := h.sessions i
  by_cases hfree : pd i (.approval r) = none
  · have hempty := hsession.empty hfree
    refine ⟨hsessions,h.later,?_⟩
    rw [hempty,Pending.view_empty]
    rcases h.outcome with ⟨hquiet,hdb⟩ | ⟨hdecided,hall⟩
    · refine Or.inl ⟨fun c hc => ?_,hdb⟩
      rcases List.mem_append.mp hc with hc | hc
      · exact hquiet c hc
      · rw [List.mem_singleton.mp hc]
    · refine Or.inr ⟨?_,fun j => ?_⟩
      · obtain ⟨earlier,c,later,rfl,hquiet,hbefore,hdb,hdecides⟩ := hdecided.split
        refine ⟨earlier,c,later ++ [_],by rw [List.append_assoc]; rfl,fun d hd => ?_,hbefore,hdb,hdecides⟩
        rw [← List.append_assoc] at hd
        rcases List.mem_append.mp hd with hd | hd
        · exact hquiet d hd
        · rw [List.mem_singleton.mp hd]
      · by_cases hj : j = i
        · subst hj
          simp
        · simpa [hj] using hall j
  · rcases h.outcome with ⟨hquiet,hdb⟩ | ⟨_,hall⟩
    · generalize hph : ph i = x at hx hsession
      cases x with
      | idle => exact absurd (by rw [hsession]; rfl) hfree
      | read run => exact absurd (by rw [hsession.1]; rfl) hfree
      | listed run drafts => exact absurd (by rw [hsession.1]; rfl) hfree
      | writing approval run done made rest => cases hx
      | tasked approval run done made draft taskId rest => cases hx
      | closed approval run done made =>
        refine ⟨hsessions,h.later,Or.inr ⟨⟨tr,_,[],rfl,?_,hdb,rfl,run,approval,made,?_⟩,fun j => ?_⟩⟩
        · rw [List.append_nil]
          exact hquiet
        · show Decides r _ w'.db ((pd i).view w'.db) run approval made
          rw [hdb]
          exact hsession.decides
        · by_cases hj : j = i
          · subst hj
            simp
          · simpa [hj] using ha i j _ (Ne.symm hj) hfree
    · exact absurd (hall i) hfree

theorem planner_annotated (hnew : ∀ id, w.next ≤ id → w.db (.plannerTaskDraft id) = none) :
    Annotated (fun _ : ι => plannerCourse r) (fun _ _ _ _ _ => True)
      fun tr ph pd w' => PlannerRace w r tr ph pd w' where
  bump h := ⟨h.sessions,Nat.le_succ_of_le h.later,h.outcome⟩
  learn h hl := h.learn hnew hl
  number _ hn := hn.elim
  miss _ hy := hy.elim
  skip _ hy := hy.elim
  update {tr ph pd w' i y k g s} h _ _ hP hg := by
    rcases h.outcome with hun | ⟨hdecided,hall⟩
    · have hdb := hun.2
      rw [hdb] at hg ⊢
      exact h.turn ((h.sessions i).update hP hg) (Or.inl hun)
    · have hempty := (h.sessions i).empty (hall i)
      have hsession := h.sessions i
      rw [hempty] at hg hsession
      generalize ph i = x at hP hsession
      cases hP with
      | approve => exact absurd (Option.isNone_iff_eq_none.mp hg) hdecided.approval_stands
      | reject => exact absurd (Option.isNone_iff_eq_none.mp hg) hdecided.approval_stands
      | task => exact absurd rfl hsession.1.held
      | event => exact absurd rfl hsession.1.held
  flush {tr ph pd w' i y k l n} h _ _ hP _ _ := by
    rcases h.outcome with hun | ⟨_,hall⟩
    · have hdb := hun.2
      rw [hdb]
      exact h.turn ((h.sessions i).flush hP) (Or.inl hun)
    · have hsession := h.sessions i
      rw [hsession.empty (hall i)] at hsession
      generalize ph i = x at hP hsession
      cases hP with
      | close => exact absurd rfl hsession.1.held
  commit h ha hP := by
    obtain ⟨hx,rfl⟩ := hP
    exact h.commit ha hx
  rollback h hy := by
    rw [hy]
    exact h.turn (PlannerHolds.rollback w r) (Or.inr rfl)
  stop i h := ⟨.idle,h.turn (PlannerHolds.rollback w r) (Or.inr rfl)⟩

theorem planner_decided_once [Fintype ι] {calls : ι → PlannerCall} {w : World} {r : Id}
    (hnew : ∀ id, w.next ≤ id → w.db (.plannerTaskDraft id) = none) {tr : List (Commit ι Row)}
    {g : Global ι Row Time Exn}
    (h : Execution (fun _ _ => True) (Global.init w fun i => (calls i).program r) tr g) :
    Undecided w tr g.world.db ∨ DecidedOnce w r tr g.world.db := by
  have hstart : PlannerRace w r ([] : List (Commit ι Row)) (fun _ => .idle) (fun _ => Pending.empty) w :=
    ⟨fun _ => PlannerHolds.rollback w r,Nat.le_refl _,Or.inl ⟨fun _ hc => absurd hc List.not_mem_nil,rfl⟩⟩
  obtain ⟨ph,hst⟩ := h.standing (planner_annotated hnew) (fun _ _ _ _ _ _ _ _ _ => trivial)
    (fun i => (calls i).walks) hstart
  exact hst.inv.outcome.imp_right fun hdecided => hdecided.1

end races

def plannerWorld : World where
  db
    | .project 2 => some ⟨1⟩
    | .plannerRun 5 => some ⟨2,.drafted,0⟩
    | .plannerTaskDraft 6 => some ⟨5,2,"second",["src/**"],["pytest"]⟩
    | .plannerTaskDraft 7 => some ⟨5,1,"first",["src/**"],["pytest"]⟩
    | _ => none
  next := 8

def bothDecide : Bool → PlannerCall
  | false => .approve none
  | true => .reject none "not now"

-- Both calls read the run before either writes.
def decideAround : List (Bool × Time) :=
  List.replicate 3 (false,0) ++ List.replicate 3 (true,1) ++ List.replicate 24 (false,2) ++
    List.replicate 12 (true,3)

theorem planner_decided_once_race : ∃ tr g,
    Execution (fun _ _ => True) (Global.init plannerWorld fun i => (bothDecide i).program 5) tr g ∧
      (g.world.db (.approval 5)).map Approval.status = some .approved ∧
      DecidedOnce plannerWorld 5 tr g.world.db := by
  have hplay : (((Global.init plannerWorld fun i => (bothDecide i).program 5).play (fun _ _ => true)
      decideAround).map fun r => (r.2.world.db (.approval 5)).map Approval.status) =
        some (some .approved) := by
    decide +kernel
  obtain ⟨⟨tr,g⟩,hp,happroval⟩ := Option.map_eq_some_iff.mp hplay
  have hrun := Global.play_run (.refl) _ hp
  rw [List.nil_append] at hrun
  have hexecution : Execution (fun _ _ => True)
      (Global.init plannerWorld fun i => (bothDecide i).program 5) tr g :=
    hrun.execution.weaken fun _ _ _ => trivial
  refine ⟨tr,g,hexecution,happroval,?_⟩
  have hnew : ∀ id, 8 ≤ id → plannerWorld.db (.plannerTaskDraft id) = none := by
    intro id hid
    obtain ⟨n,rfl⟩ := Nat.exists_eq_add_of_le' hid
    rfl
  rcases planner_decided_once hnew hexecution with ⟨_,hdb⟩ | hdecided
  · rw [hdb] at happroval
    cases happroval
  · exact hdecided

end AiScdc
