import AiScdc.Workflow.TerminalTasks
import AiScdc.Transaction.Execution
import AiScdc.Workflow.History

namespace AiScdc
open Transaction

-- The statuses that a task can still reach once it has left APPROVED for MERGE_READY.
def TaskStatus.pastApproval : TaskStatus → Bool
  | .mergeReady | .humanApproval | .prCreated | .merged | .closed | .cancelled => true
  | _ => false

theorem pastApproval_closed {s n : TaskStatus} (h : s.pastApproval = true) (hn : n ∈ s.transitions) :
    n.pastApproval = true := by
  cases s <;> simp [TaskStatus.pastApproval] at h <;> cases n <;>
    simp_all [TaskStatus.transitions,TaskStatus.pastApproval]

def pastKept : ∀ k : Key, Row k → Row k → Row k → Prop
  | .task _, _, v, u => ∀ c, v = some c → ∃ n, u = some n ∧
      (c.status.pastApproval = true → n.status.pastApproval = true)
  | _, _, _, _ => True

def NewApproval (p : Pending Row) (patchArtifactId : Id) (approval : PatchApproval) : Prop :=
  ∃ w, p (.patchApproval patchArtifactId) = some w ∧ w.value = some approval

structure Decided (p : Pending Row) (db : Db) (x : Knowledge) (taskId : Id) : Prop where
  held : p (.task taskId) ≠ none
  past : ∃ t, p.view db (.task taskId) = some t ∧ t.status.pastApproval = true
  before : ∀ t, db (.task taskId) = some t → t.status.pastApproval = false
  known : ∀ t, x.task = some (taskId,t) → t.status.pastApproval = true

structure Deciding (x : Knowledge) (taskId : Id) : Prop where
  approving : x.approving = true
  known : ∃ t, x.task = some (taskId,t) ∧ t.status = .approved

structure ApprovalSession (x : Knowledge) (p : Pending Row) (db : Db) : Prop where
  kept : RowWise pastKept p db
  present : ∀ id t, x.task = some (id,t) → ∃ u, p.view db (.task id) = some u
  approvals : ∀ a r, NewApproval p a r → Decided p db x r.taskId ∨ Deciding x r.taskId
  single : ∀ a b r r', NewApproval p a r → NewApproval p b r' → r.taskId = r'.taskId → a = b

structure SingleApprovals (db : Db) : Prop where
  past : ∀ a r, db (.patchApproval a) = some r →
    ∃ t, db (.task r.taskId) = some t ∧ t.status.pastApproval = true
  single : ∀ a b r r', db (.patchApproval a) = some r → db (.patchApproval b) = some r' →
    r.taskId = r'.taskId → a = b

section sessions

variable {x y : Knowledge} {p : Pending Row} {db db' : Db}

theorem no_approval {a : Id} {r : PatchApproval} : ¬ NewApproval Pending.empty a r := by
  rintro ⟨w,hw,-⟩
  cases hw

theorem no_session (h : ∀ id t, x.task = some (id,t) → ∃ u, db (.task id) = some u) :
    ApprovalSession x Pending.empty db where
  kept := rowWise_empty
  present := h
  approvals _ _ ha := (no_approval ha).elim
  single _ _ _ _ ha := (no_approval ha).elim

theorem ApprovalSession.keeps (h : ApprovalSession x p db) {id : Id} {c : Task}
    (hc : db (.task id) = some c) : ∃ n, p.view db (.task id) = some n ∧
      (c.status.pastApproval = true → n.status.pastApproval = true) := by
  cases hp : p (.task id) with
  | none => exact ⟨c,(Pending.view_of_none hp db).trans hc,fun h => h⟩
  | some w =>
    obtain ⟨n,hn,hk⟩ := h.kept (.task id) w hp c hc
    exact ⟨n,(Pending.view_of_some hp db).trans hn,hk⟩

theorem ApprovalSession.frame (h : ApprovalSession x p db) (hdb : ∀ k, p k ≠ none → db' k = db k)
    (htask : ∀ id c, db (.task id) = some c → ∃ c', db' (.task id) = some c') :
    ApprovalSession x p db' := by
  refine ⟨fun k wr hk => ?_,fun id t ht => ?_,fun a r ha => (h.approvals a r ha).imp_left fun hd => ?_,
    h.single⟩
  · rw [hdb k (by simp [hk])]
    exact h.kept k wr hk
  · obtain ⟨u,hu⟩ := h.present id t ht
    cases hp : p (.task id) with
    | none =>
      rw [Pending.view_of_none hp] at hu ⊢
      exact htask id u hu
    | some w =>
      rw [Pending.view_of_some hp] at hu ⊢
      exact ⟨u,hu⟩
  · have hsame := hdb _ hd.held
    refine ⟨hd.held,?_,fun t ht => hd.before t (hsame ▸ ht),hd.known⟩
    obtain ⟨t,ht,hp⟩ := hd.past
    refine ⟨t,?_,hp⟩
    rw [← ht]
    simp only [Pending.view,hsame]

theorem Decided.put {taskId : Id} (h : Decided p db x taskId) {k : Key} {l v : Row k}
    (hk : Key.task taskId ≠ k)
    (ht : ∀ t, y.task = some (taskId,t) → t.status.pastApproval = true) :
    Decided (p.put k l v) db y taskId := by
  refine ⟨?_,?_,h.before,ht⟩
  · rw [Pending.put_ne _ _ _ hk]
    exact h.held
  · rw [Pending.view_put_ne _ _ _ _ hk]
    exact h.past

theorem newApproval_put {k : Key} {l v : Row k} {a : Id} {r : PatchApproval}
    (hk : Key.patchApproval a ≠ k) (h : NewApproval (p.put k l v) a r) : NewApproval p a r := by
  obtain ⟨w,hw,hv⟩ := h
  rw [Pending.put_ne _ _ _ hk] at hw
  exact ⟨w,hw,hv⟩

def Key.isApprovalTable : Key → Bool
  | .task _ | .patchApproval _ => true
  | _ => false

theorem ApprovalSession.write (h : ApprovalSession x p db) {k : Key} (l v : Row k)
    (hk : k.isApprovalTable = false) (ht : y.task = x.task) (ha : y.approving = x.approving) :
    ApprovalSession y (p.put k l v) db := by
  have hna (a : Id) : Key.patchApproval a ≠ k := by
    rintro rfl
    cases hk
  have hnt (t : Id) : Key.task t ≠ k := by
    rintro rfl
    cases hk
  refine ⟨h.kept.put ?_,fun id t hid => ?_,fun a r hr => ?_,fun a b r r' hr hr' =>
    h.single a b r r' (newApproval_put (hna a) hr) (newApproval_put (hna b) hr')⟩
  · cases k with
    | task id => cases hk
    | _ => trivial
  · rw [Pending.view_put_ne _ _ _ _ (hnt id)]
    exact h.present id t (ht ▸ hid)
  · rcases h.approvals a r (newApproval_put (hna a) hr) with hd | hd
    · exact Or.inl (hd.put (hnt _) (ht ▸ hd.known))
    · exact Or.inr ⟨ha ▸ hd.approving,ht ▸ hd.known⟩

-- A write of the task the session holds, or of a task that did not exist.
theorem ApprovalSession.writeTask (h : ApprovalSession x p db) {id : Id} (l : Option Task) {m : Task}
    (hm : ∀ u, p.view db (.task id) = some u → u.status.pastApproval = true →
      m.status.pastApproval = true)
    (hy : ∀ id' t, y.task = some (id',t) → id' = id ∨ x.task = some (id',t))
    (hdecided : Decided p db x id → ∀ t, y.task = some (id,t) → t.status.pastApproval = true)
    (hdeciding : ∀ a r, NewApproval p a r → Deciding x r.taskId →
      Decided (p.put (.task id) l (some m)) db y r.taskId ∨ Deciding y r.taskId) :
    ApprovalSession y (p.put (.task id) l (some m)) db := by
  have hna (a : Id) : Key.patchApproval a ≠ .task id := by simp
  refine ⟨h.kept.put fun c hc => ⟨m,rfl,fun hp => ?_⟩,fun id' t ht => ?_,fun a r hr => ?_,
    fun a b r r' hr hr' => h.single a b r r' (newApproval_put (hna a) hr) (newApproval_put (hna b) hr')⟩
  · obtain ⟨u,hu,hk⟩ := h.keeps hc
    exact hm u hu (hk hp)
  · by_cases e : id' = id
    · subst e
      exact ⟨m,Pending.view_put_self _ _ _ _ _⟩
    · rw [Pending.view_put_ne _ _ _ _ (by simpa using e)]
      exact h.present id' t ((hy id' t ht).resolve_left e)
  · have hr := newApproval_put (hna a) hr
    rcases h.approvals a r hr with hd | hd
    · refine Or.inl ?_
      by_cases e : r.taskId = id
      · subst e
        obtain ⟨u,hu,hp⟩ := hd.past
        refine ⟨by simp [Pending.put_self],⟨m,Pending.view_put_self _ _ _ _ _,hm u hu hp⟩,hd.before,?_⟩
        exact hdecided hd
      · refine hd.put (by simpa using e) fun t ht => ?_
        exact hd.known t ((hy _ t ht).resolve_left e)
    · exact hdeciding a r hr hd

theorem ApprovalSession.newTask (h : ApprovalSession x p db) {id : Id} {row : Task} (l : Option Task)
    (hg : p.view db (.task id) = none) : ApprovalSession x (p.put (.task id) l (some row)) db := by
  refine h.writeTask l (fun u hu => by rw [hg] at hu; cases hu) (fun _ _ ht => Or.inr ht) (fun hd => ?_)
    fun a r hr hd => Or.inr hd
  obtain ⟨t,ht,_⟩ := hd.past
  rw [hg] at ht
  cases ht

theorem ApprovalSession.keepTask (h : ApprovalSession x p db) {id : Id} {l n : Task}
    (ht : x.task = some (id,l)) (hs : n.status = l.status) :
    ApprovalSession { x with task := some (id,n) }
      (p.put (.task id) (some l) (mergeRow (.task id) (some l) (some n) (p.view db (.task id)))) db := by
  obtain ⟨u,hu⟩ := h.present id l ht
  rw [hu]
  have hm : (mergeEntity (.task id) l n u).status = u.status := by
    simp [mergeEntity,Task.flush,pick,hs]
  refine h.writeTask (some l) (fun u' hu' hp => ?_) (fun id' t he => ?_) (fun hd t he => ?_)
    fun a r hr hd => Or.inr ?_
  · cases hu.symm.trans hu'
    rw [hm]
    exact hp
  · cases he
    exact Or.inl rfl
  · cases he
    rw [hs]
    exact hd.known l ht
  · obtain ⟨t,hx,hst⟩ := hd.known
    cases ht.symm.trans hx
    exact ⟨hd.approving,n,rfl,hs.trans hst⟩

theorem ApprovalSession.moveTask (h : ApprovalSession x p db) {id : Id} {l n : Task}
    (ht : x.task = some (id,l)) (hs : n.status ∈ l.status.transitions)
    (ha : x.approving = true → n.status = .mergeReady)
    (hf : taskFresh (.task id) (some l) (some n) (p.view db (.task id)) = true) :
    ApprovalSession { x with task := some (id,n), owed := some l.status, approving := false }
      (p.put (.task id) (some l) (mergeRow (.task id) (some l) (some n) (p.view db (.task id)))) db := by
  obtain ⟨u,hu⟩ := h.present id l ht
  rw [hu] at hf ⊢
  have hne : n.status ≠ l.status := fun he => transitions_irrefl l.status (he ▸ hs)
  have hstatus : u.status = l.status := by simpa [taskFresh,hne] using hf
  have hm : (mergeEntity (.task id) l n u).status = n.status := by
    simp [mergeEntity,Task.flush,pick,hne]
  refine h.writeTask (some l) (fun u' hu' hp => ?_) (fun id' t he => ?_) (fun hd t he => ?_)
    fun a r hr hd => Or.inl ?_
  · cases hu.symm.trans hu'
    rw [hm]
    rw [hstatus] at hp
    exact pastApproval_closed hp hs
  · cases he
    exact Or.inl rfl
  · cases he
    exact pastApproval_closed (hd.known l ht) hs
  · obtain ⟨t,hx,hst⟩ := hd.known
    obtain ⟨hid,rfl⟩ : id = r.taskId ∧ l = t := by
      have he := ht.symm.trans hx
      simpa using he
    subst hid
    have hready := ha hd.approving
    refine ⟨by simp [Pending.put_self],⟨_,Pending.view_put_self _ _ _ _ _,?_⟩,fun c hc => ?_,
      fun t he => ?_⟩
    · rw [hm,hready]
      rfl
    · obtain ⟨m,hmu,hk⟩ := h.keeps hc
      cases hu.symm.trans hmu
      by_contra hp
      have hpast := hk (by simpa using hp)
      rw [hstatus,hst] at hpast
      cases hpast
    · cases he
      rw [hready]
      rfl

theorem ApprovalSession.approve (h : ApprovalSession x p db) {a : Id} {row : PatchApproval} {task : Task}
    (l : Option PatchApproval) (ht : x.task = some (row.taskId,task)) (hs : task.status = .approved)
    (ha : x.approving = false) :
    ApprovalSession { x with approving := true } (p.put (.patchApproval a) l (some row)) db := by
  have hself {b : Id} {r : PatchApproval} (hr : NewApproval (p.put (.patchApproval a) l (some row)) b r)
      (hb : b = a) : r = row := by
    subst hb
    obtain ⟨w,hw,hv⟩ := hr
    rw [Pending.put_self] at hw
    cases hw
    exact (Option.some.inj hv).symm
  have hold {b : Id} {r : PatchApproval} (hr : NewApproval (p.put (.patchApproval a) l (some row)) b r)
      (hb : b ≠ a) : NewApproval p b r := newApproval_put (by simpa using hb) hr
  have hother {b : Id} {r : PatchApproval} (hr : NewApproval p b r) : r.taskId ≠ row.taskId := by
    intro he
    rcases h.approvals b r hr with hd | hd
    · have hp := hd.known task (he ▸ ht)
      rw [hs] at hp
      cases hp
    · cases ha.symm.trans hd.approving
  refine ⟨h.kept.put trivial,fun id t hid => ?_,fun b r hr => ?_,fun b c r r' hr hr' he => ?_⟩
  · rw [Pending.view_put_ne _ _ _ _ (by simp)]
    exact h.present id t hid
  · by_cases hb : b = a
    · rw [hself hr hb]
      exact Or.inr ⟨rfl,task,ht,hs⟩
    · rcases h.approvals b r (hold hr hb) with hd | hd
      · exact Or.inl (hd.put (by simp) hd.known)
      · cases ha.symm.trans hd.approving
  · by_cases hb : b = a <;> by_cases hc : c = a
    · rw [hb,hc]
    · exact (hother (hold hr' hc) (by rw [← he,hself hr hb])).elim
    · exact (hother (hold hr hb) (by rw [he,hself hr' hc])).elim
    · exact h.single b c r r' (hold hr hb) (hold hr' hc) he

theorem ApprovalSession.update {k : Key} {g : Row k → Bool} {s : Row k → Row k}
    (h : ApprovalSession x p db) (hP : WorkUpdate x k g s y) (hg : g (p.view db k) = true) :
    ApprovalSession y (p.put k (db k) (s (p.view db k))) db := by
  cases hP with
  | untracked k g s hk => exact h.write _ _ (by cases k <;> first | rfl | cases hk) rfl rfl
  | newTask id row hr => exact h.newTask _ (by simpa using hg)
  | approval id createdAt ha ht hs hr hv ho hn => exact h.approve _ ht hs hn
  | _ => exact h.write _ _ rfl rfl rfl

theorem ApprovalSession.flush {k : Key} {l n : Row k} (h : ApprovalSession x p db)
    (hP : WorkFlush x k l n y) (hf : taskFresh k l n (p.view db k) = true) :
    ApprovalSession y (p.put k l (mergeRow k l n (p.view db k))) db := by
  cases hP with
  | untracked k l n hk => exact h.write _ _ (by cases k <;> first | rfl | cases hk) rfl rfl
  | task id ht hs hk => exact h.keepTask ht hs
  | move id ht ho hs hk ha => exact h.moveTask ht hs ha hf
  | _ => exact h.write _ _ rfl rfl rfl

theorem SingleApprovals.commit (hdb : SingleApprovals db) (h : ApprovalSession x p db)
    (ha : x.approving = false) : SingleApprovals (p.view db) := by
  have hdecided {a : Id} {r : PatchApproval} (hr : NewApproval p a r) : Decided p db x r.taskId := by
    refine (h.approvals a r hr).resolve_right fun hd => ?_
    cases ha.symm.trans hd.approving
  have hcase {a : Id} {r : PatchApproval} (hr : p.view db (.patchApproval a) = some r) :
      NewApproval p a r ∨ db (.patchApproval a) = some r := by
    cases hp : p (.patchApproval a) with
    | none => exact Or.inr ((Pending.view_of_none hp db).symm.trans hr)
    | some w => exact Or.inl ⟨w,hp,(Pending.view_of_some hp db).symm.trans hr⟩
  have hnew {a b : Id} {r r' : PatchApproval} (hr : NewApproval p a r)
      (hr' : db (.patchApproval b) = some r') : r.taskId ≠ r'.taskId := by
    intro he
    obtain ⟨t,ht,hp⟩ := hdb.past b r' hr'
    rw [(hdecided hr).before t (he ▸ ht)] at hp
    cases hp
  refine ⟨fun a r hr => ?_,fun a b r r' hr hr' he => ?_⟩
  · rcases hcase hr with hr | hr
    · exact (hdecided hr).past
    · obtain ⟨t,ht,hp⟩ := hdb.past a r hr
      obtain ⟨u,hu,hk⟩ := h.keeps ht
      exact ⟨u,hu,hk hp⟩
  · rcases hcase hr with hn | ho <;> rcases hcase hr' with hn' | ho'
    · exact h.single a b r r' hn hn' he
    · exact (hnew hn ho' he).elim
    · exact (hnew hn' ho he.symm).elim
    · exact hdb.single a b r r' ho ho' he

end sessions

section races

variable {ι : Type} [DecidableEq ι]

structure ApprovalsHeld (ph : ι → Knowledge) (pd : ι → Pending Row) (w : World) : Prop where
  single : SingleApprovals w.db
  sessions : ∀ i, ApprovalSession (ph i) (pd i) w.db

theorem ApprovalsHeld.turn {ph : ι → Knowledge} {pd : ι → Pending Row} {w : World}
    (h : ApprovalsHeld ph pd w) {i : ι} {y : Knowledge} {p : Pending Row}
    (hs : ApprovalSession y p w.db) :
    ApprovalsHeld (Function.update ph i y) (Function.update pd i p) w := by
  refine ⟨h.single,fun j => ?_⟩
  by_cases hj : j = i
  · subst hj
    simpa using hs
  · simpa [hj] using h.sessions j

theorem ApprovalsHeld.learn {ph : ι → Knowledge} {pd : ι → Pending Row} {w : World}
    (h : ApprovalsHeld ph pd w) {i : ι} {y : Knowledge}
    (hs : ApprovalSession y (pd i) w.db) : ApprovalsHeld (Function.update ph i y) pd w := by
  simpa using h.turn (i := i) hs

theorem ApprovalSession.learn {x y : Knowledge} {p : Pending Row} {db : Db} {next : ℕ}
    (h : ApprovalSession x p db) (hl : Learns (p.view db) next x y) : ApprovalSession y p db := by
  have same (hy : y.task = x.task) (ha : y.approving = x.approving) : ApprovalSession y p db := by
    refine ⟨h.kept,hy ▸ h.present,fun a r hr => ?_,h.single⟩
    rcases h.approvals a r hr with hd | hd
    · exact Or.inl ⟨hd.held,hd.past,hd.before,hy ▸ hd.known⟩
    · exact Or.inr ⟨ha ▸ hd.approving,hy ▸ hd.known⟩
  cases hl with
  | task id row hrow ho ha =>
    refine ⟨h.kept,fun id' t he => ?_,fun a r hr => ?_,h.single⟩
    · cases he
      exact ⟨row,hrow⟩
    · rcases h.approvals a r hr with hd | hd
      · refine Or.inl ⟨hd.held,hd.past,hd.before,fun t he => ?_⟩
        cases he
        obtain ⟨u,hu,hp⟩ := hd.past
        cases hrow.symm.trans hu
        exact hp
      · cases ha.symm.trans hd.approving
  | _ => exact same rfl rfl

theorem approvals_annotated : Annotated (fun _ : ι => workCourse)
    (fun _ k l n c => taskFresh k l n c = true) fun _ ph pd w => ApprovalsHeld ph pd w where
  bump h := ⟨h.single,h.sessions⟩
  learn {_ _ _ _ i _} h hl := h.learn ((h.sessions i).learn hl)
  miss _ hy := hy.elim
  skip _ hy := hy.elim
  number {_ ph pd w i _} h hn := by
    subst hn
    have hs := h.sessions i
    have hb : ApprovalsHeld ph pd w.bump := ⟨h.single,h.sessions⟩
    refine hb.learn ?_
    refine ⟨hs.kept,hs.present,fun a r hr => ?_,hs.single⟩
    exact (hs.approvals a r hr).imp (fun hd => ⟨hd.held,hd.past,hd.before,hd.known⟩)
      fun hd => ⟨hd.approving,hd.known⟩
  update {_ _ _ _ i _ _ _ _} h _ _ hP hg := h.turn ((h.sessions i).update hP hg)
  flush {_ _ _ _ i _ _ _ _} h _ _ hP _ hf := h.turn ((h.sessions i).flush hP hf)
  commit {_ ph pd w i y} h ha hP := by
    obtain ⟨ho,happ,rfl⟩ := hP
    have hi := h.sessions i
    refine ⟨h.single.commit hi happ,fun j => ?_⟩
    by_cases hj : j = i
    · subst hj
      simp only [Function.update_self]
      exact no_session hi.present
    · simp only [Function.update_of_ne hj]
      refine (h.sessions j).frame (fun k hk => ?_) fun id c hc => ?_
      · exact Pending.view_of_none (ha j i k hj hk) _
      · obtain ⟨n,hn,_⟩ := hi.keeps hc
        exact ⟨n,hn⟩
  rollback {_ _ _ _ i y} h hP := by
    subst hP
    exact h.turn (no_session fun _ _ ht => by cases ht)
  stop i h := ⟨{},h.turn (no_session fun _ _ ht => by cases ht)⟩

theorem single_approval [Fintype ι] [Digest] {ops : ι → WorkflowOp} {w : World}
    (hw : ∀ a, w.db (.patchApproval a) = none) {tr : List (Commit ι Row)} {g : Global ι Row Time Exn}
    (h : Execution (fun g i => workFresh g i = true) (Global.init w fun i => (ops i).program) tr g)
    {a b : Id} {r r' : PatchApproval} (hr : g.world.db (.patchApproval a) = some r)
    (hr' : g.world.db (.patchApproval b) = some r') (htask : r.taskId = r'.taskId) : a = b := by
  have h₀ : ApprovalsHeld (fun _ : ι => ({} : Knowledge)) (fun _ => Pending.empty) w := by
    refine ⟨⟨fun a r hr => ?_,fun a b r r' hr => ?_⟩,fun _ => no_session fun _ _ ht => by cases ht⟩
    · cases (hw a).symm.trans hr
    · cases (hw a).symm.trans hr
  obtain ⟨ph,hst⟩ := h.standing (J := fun _ ph pd w => ApprovalsHeld ph pd w)
    approvals_annotated (fun g i key l n k hc hp _ => by simpa [workFresh,hp] using hc)
    (fun i => (ops i).walks) h₀
  exact hst.inv.single.single a b r r' hr hr' htask

end races

def approvedOps : List WorkflowOp := samplePlan ++ reviewed ++ [.approve sampleOwner 13]

theorem single_approval_serial :
    let _ := plainDigest
    ∃ tr g, Run (fun g i => workFresh g i = true)
        (Global.init workWorld fun i => (approvedOps.get i).program) tr g ∧
      (∃ r, g.world.db (.patchApproval 13) = some r ∧ r.taskId = 4) ∧
      ∀ a r, g.world.db (.patchApproval a) = some r → r.taskId = 4 → a = 13 := by
  intro _
  have hplay : (((Global.init workWorld fun i => (approvedOps.get i).program).play
      workFresh (inTurn 120 approvedOps)).map fun r =>
        (r.2.world.db (.patchApproval 13)).map PatchApproval.taskId) = some (some 4) := by
    decide +kernel
  obtain ⟨⟨tr,g⟩,hp,heq⟩ := Option.map_eq_some_iff.mp hplay
  have hrun := Global.play_run (.refl) _ hp
  rw [List.nil_append] at hrun
  obtain ⟨r,hr,htask⟩ := Option.map_eq_some_iff.mp heq
  refine ⟨tr,g,hrun,⟨r,hr,htask⟩,fun a r' hr' htask' => ?_⟩
  exact single_approval (fun _ => rfl) hrun.execution hr' hr (htask'.trans htask.symm)

def bothApprove : Bool → WorkflowOp
  | false => .approve sampleOwner 13
  | true => .approve sampleOwner 28

-- The second approval commits after the first has read the task.
def approveAround : List (Bool × Time) :=
  List.replicate 5 (false,100000) ++ List.replicate 30 (true,100001) ++ List.replicate 30 (false,100002)

theorem two_approvals_commit :
    let _ := plainDigest
    Reached workWorld (playWork workWorld (timed bothReviewed)) ∧
    ∃ tr g, Run (fun _ _ => True)
        (Global.init (playWork workWorld (timed bothReviewed)) fun i => (bothApprove i).program) tr g ∧
      ∃ r r', g.world.db (.patchApproval 13) = some r ∧ g.world.db (.patchApproval 28) = some r' ∧
        r.taskId = r'.taskId := by
  intro _
  refine ⟨Reached.start.plays _,?_⟩
  have hplay : (((Global.init (playWork workWorld (timed bothReviewed)) fun i =>
      (bothApprove i).program).play (fun _ _ => true) approveAround).map fun r =>
        ((r.2.world.db (.patchApproval 13)).map PatchApproval.taskId,
          (r.2.world.db (.patchApproval 28)).map PatchApproval.taskId)) = some (some 4,some 4) := by
    decide +kernel
  obtain ⟨⟨tr,g⟩,hp,heq⟩ := Option.map_eq_some_iff.mp hplay
  simp only [Prod.mk.injEq,Option.map_eq_some_iff] at heq
  obtain ⟨⟨r,hr,ht⟩,r',hr',ht'⟩ := heq
  have hrun := Global.play_run (.refl) _ hp
  exact ⟨tr,g,by simpa using hrun.weaken fun _ _ _ => trivial,r,r',hr,hr',ht.trans ht'.symm⟩

end AiScdc
