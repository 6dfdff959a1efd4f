import AiScdc.Workflow.Walks

namespace AiScdc
open Transaction

-- A flush that changes the status of a task finds the task in the status it loaded.
def taskFresh : ∀ k : Key, Row k → Row k → Row k → Bool
  | .task _, some l, some n, some c => n.status = l.status || c.status = l.status
  | _, _, _, _ => true

def workFresh {ι : Type} (g : Global ι Row Time Exn) (i : ι) : Bool :=
  match (g.thread i).prog with
  | .flush key l n _ => taskFresh key l n (g.view i key)
  | _ => true

def terminalKept : ∀ k : Key, Row k → Row k → Row k → Prop
  | .task _, _, v, u => ∀ c, v = some c → ∃ n, u = some n ∧
      (c.status ∈ TaskStatus.terminalStatuses → n.status = c.status)
  | _, _, _, _ => True

theorem transitions_terminal {current : TaskStatus} (h : current ∈ TaskStatus.terminalStatuses) :
    current.transitions = [] := by
  cases current <;> first | rfl | simp [TaskStatus.terminalStatuses] at h

theorem other_kept {k : Key} (h : k.isTracked = false) (l v u : Row k) : terminalKept k l v u := by
  cases k with
  | task id => cases h
  | _ => trivial

theorem terminal_update {x y : Knowledge} {k : Key} {g : Row k → Bool} {s : Row k → Row k}
    (h : WorkUpdate x k g s y) {l v u : Row k} (hu : terminalKept k l v u) (hg : g u = true) :
    terminalKept k l v (s u) := by
  cases h with
  | untracked k g s hk => exact other_kept hk _ _ _
  | newTask id row hr =>
    intro c hc
    obtain ⟨n,rfl,_⟩ := hu c hc
    cases hg
  | _ => trivial

theorem terminal_flush {x y : Knowledge} {k : Key} {l n : Row k} (h : WorkFlush x k l n y)
    {l₀ v u : Row k} (hu : terminalKept k l₀ v u) (hf : taskFresh k l n u = true) :
    terminalKept k l₀ v (mergeRow k l n u) := by
  cases h with
  | untracked k l n hk => exact other_kept hk _ _ _
  | @task id l n ht hs hk =>
    intro c hc
    obtain ⟨m,rfl,hm⟩ := hu c hc
    refine ⟨_,rfl,fun hterm => ?_⟩
    rw [← hm hterm]
    simp [mergeEntity,Task.flush,pick,hs]
  | @move id l n ht ho hs hk ha =>
    intro c hc
    obtain ⟨m,rfl,hm⟩ := hu c hc
    refine ⟨_,rfl,fun hterm => ?_⟩
    have hstatus : m.status = l.status := by
      simp only [taskFresh,Bool.or_eq_true,decide_eq_true_eq] at hf
      refine hf.resolve_left fun he => transitions_irrefl l.status ?_
      rwa [he] at hs
    rw [← hstatus,hm hterm,transitions_terminal hterm] at hs
    cases hs
  | _ => trivial

theorem terminalRules : RowRules workCourse (fun k l n c => taskFresh k l n c = true) terminalKept := by
  have hself (k : Key) (l v : Row k) : terminalKept k l v v := by
    cases k with
    | task id => exact fun c hc => ⟨c,hc,fun _ => rfl⟩
    | _ => trivial
  exact ⟨fun h hg => terminal_update h (hself _ _ _) hg,fun h _ hf => terminal_flush h (hself _ _ _) hf,
    fun hu h hg => terminal_update h hu hg,fun hu h _ hf => terminal_flush h hu hf⟩

section races

variable {ι : Type} [Fintype ι] [DecidableEq ι]

omit [Fintype ι] [DecidableEq ι] in
theorem task_kept {c : Commit ι Row} (h : RowWise terminalKept c.pend c.before) {id : Id} {task : Task}
    (hc : c.before (.task id) = some task) (ht : task.status ∈ TaskStatus.terminalStatuses) :
    ∃ task', c.after (.task id) = some task' ∧ task'.status = task.status := by
  cases hp : c.pend (.task id) with
  | none => exact ⟨task,(Pending.view_of_none hp _).trans hc,rfl⟩
  | some wr =>
    obtain ⟨n,hu,hk⟩ := h (.task id) wr hp task hc
    exact ⟨n,(Pending.view_of_some hp _).trans hu,hk ht⟩

omit [Fintype ι] [DecidableEq ι] in
theorem terminal_chain {id : Id} {tr : List (Commit ι Row)}
    (hk : ∀ c ∈ tr, RowWise terminalKept c.pend c.before) {db db' : Db} (hc : chained db tr db')
    {task : Task} (hrow : db (.task id) = some task) (ht : task.status ∈ TaskStatus.terminalStatuses) :
    ∀ d ∈ tr, (d.after (.task id)).map Task.status = some task.status := by
  induction tr generalizing db task with
  | nil => simp
  | cons c cs ih =>
    obtain ⟨rfl,hc⟩ := hc
    obtain ⟨task',hafter,hs⟩ := task_kept (hk c (by simp)) hrow ht
    intro d hd
    rcases List.mem_cons.mp hd with rfl | hd
    · simp [hafter,hs]
    · have hlater := ih (fun e he => hk e (by simp [he])) hc hafter (hs ▸ ht) d hd
      rwa [hs] at hlater

theorem terminal_tasks_absorb [Digest] {ops : ι → WorkflowOp} {w : World} {tr : List (Commit ι Row)}
    {g : Global ι Row Time Exn}
    (h : Run (fun g i => workFresh g i = true) (Global.init w fun i => (ops i).program) tr g)
    {tr₁ tr₂ : List (Commit ι Row)} {c : Commit ι Row} {taskId : Id} {task : Task}
    (heq : tr = tr₁ ++ c :: tr₂) (hafter : c.after (.task taskId) = some task)
    (hterminal : task.status ∈ TaskStatus.terminalStatuses) :
    ∀ d ∈ tr₂, (d.after (.task taskId)).map Task.status = some task.status := by
  have hk : ∀ c ∈ tr, RowWise terminalKept c.pend c.before := by
    refine Run.rowWise (P := fun _ => workCourse) (X := fun _ => {})
      (F := fun _ k l n c => taskFresh k l n c = true) (S := fun _ => terminalKept)
      (fun i => (ops i).walks) (fun _ => terminalRules) (fun g i key l n k hc hp => ?_) h
    simp only [workFresh,hp] at hc
    exact hc
  have hchain := h.chained
  rw [heq,chained_append] at hchain
  obtain ⟨m,_,_,hrest⟩ := hchain
  exact terminal_chain (fun d hd => hk d (by simp [heq,hd])) hrest hafter hterminal

end races

def taskStatuses (tr : List (Commit Bool Row)) : List (Option TaskStatus) :=
  tr.map fun c => (c.after (.task 4)).map Task.status

def cancelAndCreate : Bool → WorkflowOp
  | false => .transition sampleOwner 4 .cancelled .user
  | true => .createTask sampleOwner 2 ⟨"next",["src/**"],[],none,none,none⟩

def cancelThenCreate : List (Bool × Time) := List.replicate 12 (false,1) ++ List.replicate 12 (true,2)

theorem terminal_tasks_absorb_serial :
    let _ := plainDigest
    ∃ tr g, Run (fun g i => workFresh g i = true)
        (Global.init sampleWorld fun i => (cancelAndCreate i).program) tr g ∧
      ∃ tr₁ c tr₂ task, tr = tr₁ ++ c :: tr₂ ∧ tr₂ ≠ [] ∧ c.after (.task 4) = some task ∧
        task.status = .cancelled ∧ ∀ d ∈ tr₂, (d.after (.task 4)).map Task.status = some .cancelled := by
  intro _
  have hplay : (((Global.init sampleWorld fun i => (cancelAndCreate i).program).play
      workFresh cancelThenCreate).map fun r => taskStatuses r.1) =
      some [some .cancelled,some .cancelled] := by decide +kernel
  obtain ⟨⟨tr,g⟩,hp,heq⟩ := Option.map_eq_some_iff.mp hplay
  have hrun := Global.play_run (.refl) _ hp
  rw [List.nil_append] at hrun
  obtain ⟨c₁,c₂,rfl⟩ : ∃ c₁ c₂, tr = [c₁,c₂] := by
    have hlen : tr.length = 2 := by simpa [taskStatuses] using congrArg List.length heq
    exact List.length_eq_two.mp hlen
  simp only [taskStatuses,List.map_cons,List.map_nil,List.cons.injEq,Option.map_eq_some_iff] at heq
  obtain ⟨⟨task,hafter,hs⟩,_⟩ := heq
  refine ⟨_,g,hrun,[],c₁,[c₂],task,rfl,by simp,hafter,hs,fun d hd => ?_⟩
  rw [← hs]
  exact terminal_tasks_absorb hrun (show [c₁,c₂] = [] ++ c₁ :: [c₂] from rfl) hafter
    (by simp [hs,TaskStatus.terminalStatuses]) d hd

def cancelAndAssign : Bool → WorkflowOp
  | false => .transition sampleOwner 4 .assigned .user
  | true => .transition sampleOwner 4 .cancelled .user

-- The cancellation commits between the SELECT and the flush of the other transition.
def cancelAround : List (Bool × Time) :=
  List.replicate 2 (false,1) ++ List.replicate 12 (true,2) ++ List.replicate 12 (false,3)

theorem stale_transition_revives_task :
    let _ := plainDigest
    ∃ tr g, Run (fun _ _ => True) (Global.init sampleWorld fun i => (cancelAndAssign i).program) tr g ∧
      taskStatuses tr = [some .cancelled,some .assigned] := by
  intro _
  have hplay : (((Global.init sampleWorld fun i => (cancelAndAssign i).program).play
      (fun _ _ => true) cancelAround).map fun r => taskStatuses r.1) =
      some [some .cancelled,some .assigned] := by decide +kernel
  obtain ⟨⟨tr,g⟩,hp,heq⟩ := Option.map_eq_some_iff.mp hplay
  have hrun := Global.play_run (.refl) _ hp
  exact ⟨tr,g,by simpa using hrun.weaken fun _ _ _ => trivial,heq⟩

end AiScdc
