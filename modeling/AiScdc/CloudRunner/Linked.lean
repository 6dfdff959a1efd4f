import AiScdc.CloudRunner.Lifecycle

namespace AiScdc
open Transaction

def Key.number : Key → Option ℕ
  | .budgetReservation n | .taskEvent n | .localTaskRun n | .cloudRun n | .cloudRunLogEntry n
  | .storedObject n | .patchArtifact n | .localTestRun n => some n
  | _ => none

-- Rows that follow a run and that no later step of a run depends on.
def Key.isJournal : Key → Prop
  | .creditWallet _ | .cloudRunUsage _ _ | .taskEvent _ | .cloudRunLogEntry _ | .storedObject _
  | .patchArtifact _ | .localTestRun _ => True
  | _ => False

-- Rows that no operation on cloud runs writes.
def Key.isTenant : Key → Prop
  | .project _ | .repository _ => True
  | _ => False

structure Free (s : Stage Row) : Prop where
  unused : ∀ k n, k.number = some n → s.next ≤ n → s.current k = none ∧ s.committed k = none

structure RunIds where
  cloudRunId : Id
  localRunId : Id
  reservationId : Id
  taskId : Id

structure RunRows where
  cloudRun : CloudRun
  localRun : LocalTaskRun
  reservation : BudgetReservation
  task : Task

def RunRows.state (x : RunRows) : RunState := runState x.cloudRun x.localRun x.reservation

def RunIds.moves (i : RunIds) (k : Key) : Prop :=
  k = .cloudRun i.cloudRunId ∨ k = .localTaskRun i.localRunId ∨
    k = .budgetReservation i.reservationId ∨ k = .task i.taskId ∨ k.isJournal

def RunIds.only (i : RunIds) (A : RunLabel → Prop) (id : Id) (label : RunLabel) : Prop :=
  id = i.cloudRunId ∧ A label

def CloudRun.links (c : CloudRun) : Id × Id × Id × Option Id × Option Id :=
  (c.workspaceId,c.taskId,c.repoId,c.localRunId,c.budgetReservationId)

structure RunAt (db : Db) (i : RunIds) (x : RunRows) : Prop where
  cloudRun : db (.cloudRun i.cloudRunId) = some x.cloudRun
  localRun : db (.localTaskRun i.localRunId) = some x.localRun
  reservation : db (.budgetReservation i.reservationId) = some x.reservation
  task : db (.task i.taskId) = some x.task
  localRunId : x.cloudRun.localRunId = some i.localRunId
  reservationId : x.cloudRun.budgetReservationId = some i.reservationId
  taskId : x.cloudRun.taskId = i.taskId

-- The task's project and the repository belong to the workspace of the run.
structure Owned (db : Db) (x : RunRows) : Prop where
  project : ∃ p, db (.project x.task.projectId) = some p ∧ p.workspaceId = x.cloudRun.workspaceId
  repository : ∃ r, db (.repository x.cloudRun.repoId) = some r ∧
    r.workspaceId = x.cloudRun.workspaceId

structure Linked (db : Db) : Prop where
  rows : ∀ id c, db (.cloudRun id) = some c →
    ∃ i x, i.cloudRunId = id ∧ x.cloudRun = c ∧ RunAt db i x ∧ Owned db x
  localRuns : ∀ id id' c c', db (.cloudRun id) = some c → db (.cloudRun id') = some c' →
    c.localRunId = c'.localRunId → id = id'
  reservations : ∀ id id' c c', db (.cloudRun id) = some c → db (.cloudRun id') = some c' →
    c.budgetReservationId = c'.budgetReservationId → id = id'
  attached : ∀ ρ r, db (.budgetReservation ρ) = some r →
    ∃ id c, db (.cloudRun id) = some c ∧ c.budgetReservationId = some ρ

-- Projects, repositories and the links of the runs stay as they are.
structure Keeps (db db' : Db) : Prop where
  tenant : ∀ k, k.isTenant → db' k = db k
  links : ∀ id c, db (.cloudRun id) = some c →
    ∃ c', db' (.cloudRun id) = some c' ∧ c'.links = c.links

theorem Keeps.refl (db : Db) : Keeps db db := ⟨fun _ _ => rfl,fun _ c hc => ⟨c,hc,rfl⟩⟩

theorem Keeps.trans {db db' db'' : Db} (h : Keeps db db') (h' : Keeps db' db'') : Keeps db db'' := by
  refine ⟨fun k hk => (h'.tenant k hk).trans (h.tenant k hk),fun id c hc => ?_⟩
  obtain ⟨c',hc',hl⟩ := h.links id c hc
  obtain ⟨c'',hc'',hl'⟩ := h'.links id c' hc'
  exact ⟨c'',hc'',hl'.trans hl⟩

-- Rows that the operations on cloud runs only add, each on behalf of a run and in a workspace.
def Key.isEvidence : Key → Bool
  | .patchArtifact _ | .localTestRun _ | .cloudRunLogEntry _ | .cloudRunUsage _ _ => true
  | _ => false

def evidenceWorkspace : ∀ k : Key, k.Entity → Option Id
  | .patchArtifact _, a => some a.workspaceId
  | .localTestRun _, r => some r.workspaceId
  | .cloudRunLogEntry _, e => some e.workspaceId
  | .cloudRunUsage _ _, e => some e.workspaceId
  | _, _ => none

-- The row says that it was added for this run.
def Names (cloudRunId : Id) (c : CloudRun) : ∀ k : Key, k.Entity → Prop
  | .patchArtifact _, a => c.localRunId = some a.localRunId
  | .localTestRun _, r => c.localRunId = some r.localRunId
  | .cloudRunLogEntry _, e => e.cloudRunId = cloudRunId
  | .cloudRunUsage id _, _ => id = cloudRunId
  | _, _ => False

-- The test run of a failed execution has no patch, and is given no workspace.
def recordedWorkspace (c : CloudRun) : ∀ k : Key, k.Entity → Id
  | .localTestRun _, r => if r.patchArtifactId.isSome then c.workspaceId else devWorkspaceId
  | _, _ => c.workspaceId

structure Backs (cloudRunId : Id) (c : CloudRun) (k : Key) (row : k.Entity) : Prop where
  names : Names cloudRunId c k row
  workspace : evidenceWorkspace k row = some (recordedWorkspace c k row)

def Backed (db : Db) (k : Key) (row : k.Entity) : Prop :=
  ∃ cloudRunId c, db (.cloudRun cloudRunId) = some c ∧ Backs cloudRunId c k row

-- Evidence stays as it is, and what is new was added for the run.
structure Enters (cloudRunId : Id) (c : CloudRun) (db db' : Db) : Prop where
  kept : ∀ k row, k.isEvidence → db k = some row → db' k = some row
  new : ∀ k row, k.isEvidence → db k = none → db' k = some row → Backs cloudRunId c k row

-- Evidence stays as it is, and what is new was added for one of the runs.
structure Placed (db db' : Db) : Prop where
  kept : ∀ k row, k.isEvidence → db k = some row → db' k = some row
  new : ∀ k row, k.isEvidence → db k = none → db' k = some row → Backed db' k row

section evidence

variable {db db' db'' : Db} {id : Id} {c c' : CloudRun} {k : Key} {row : k.Entity}

theorem Backs.links (h : Backs id c k row) (hl : c'.links = c.links) : Backs id c' k row := by
  have hws : c'.workspaceId = c.workspaceId := congrArg Prod.fst hl
  have hlocal : c'.localRunId = c.localRunId := congrArg (·.2.2.2.1) hl
  refine ⟨?_,h.workspace.trans ?_⟩
  · have hnames := h.names
    cases k <;> first | exact hnames | exact hlocal.trans hnames
  · cases k <;> simp only [recordedWorkspace,hws]

theorem Backed.keeps (h : Backed db k row) (hk : Keeps db db') : Backed db' k row := by
  obtain ⟨id,c,hc,hb⟩ := h
  obtain ⟨c',hc',hl⟩ := hk.links id c hc
  exact ⟨id,c',hc',hb.links hl⟩

theorem Enters.same (h : ∀ k, k.isEvidence → db' k = db k) : Enters id c db db' :=
  ⟨fun k row hk hrow => (h k hk).trans hrow,fun k row hk hnone hrow => by
    cases hrow.symm.trans ((h k hk).trans hnone)⟩

theorem Enters.trans (h : Enters id c db db') (h' : Enters id c db' db'') : Enters id c db db'' := by
  refine ⟨fun k row hk hrow => h'.kept k row hk (h.kept k row hk hrow),fun k row hk hnone hrow => ?_⟩
  cases hmid : db' k with
  | none => exact h'.new k row hk hmid hrow
  | some row' =>
    cases hrow.symm.trans (h'.kept k row' hk hmid)
    exact h.new k row hk hnone hmid

theorem Enters.links (h : Enters id c db db') (hl : c'.links = c.links) : Enters id c' db db' :=
  ⟨h.kept,fun k row hk hnone hrow => (h.new k row hk hnone hrow).links hl⟩

theorem Enters.placed (h : Enters id c db db') (hc : db' (.cloudRun id) = some c) : Placed db db' :=
  ⟨h.kept,fun k row hk hnone hrow => ⟨id,c,hc,h.new k row hk hnone hrow⟩⟩

theorem Placed.refl (db : Db) : Placed db db :=
  ⟨fun _ _ _ hrow => hrow,fun _ _ _ hnone hrow => by cases hrow.symm.trans hnone⟩

theorem Placed.trans (h : Placed db db') (h' : Placed db' db'') (hk : Keeps db' db'') : Placed db db'' := by
  refine ⟨fun k row he hrow => h'.kept k row he (h.kept k row he hrow),fun k row he hnone hrow => ?_⟩
  cases hmid : db' k with
  | none => exact h'.new k row he hmid hrow
  | some row' =>
    cases hrow.symm.trans (h'.kept k row' he hmid)
    exact (h.new k row he hnone hmid).keeps hk

theorem write_evidence {s : Stage Row} {k' : Key} {v : Row k} (hk : k.isEvidence = false) (hk' : k'.isEvidence) :
    (s.write k v).current k' = s.current k' :=
  Stage.write_ne s k v fun e => by cases hk.symm.trans (e ▸ hk')

theorem enters_write {s : Stage Row} {v : Row k} (hk : k.isEvidence = false) :
    Enters id c s.current (s.write k v).current := .same fun _ hk' => write_evidence hk hk'

theorem enters_insert {s : Stage Row} (hnone : s.current k = none) (hrow : k.isEvidence → Backs id c k row) :
    Enters id c s.current (s.write k (some row)).current := by
  refine ⟨fun k' row' _ hr => ?_,fun k' row' hk' hn hr => ?_⟩
  · refine (Stage.write_ne s k (some row) fun e => ?_).trans hr
    subst e
    cases hr.symm.trans hnone
  · by_cases e : k' = k
    · subst e
      rw [Stage.write_self] at hr
      exact Option.some.inj hr ▸ hrow hk'
    · rw [Stage.write_ne s k (some row) e] at hr
      cases hr.symm.trans hn

end evidence

def stateAt (db : Db) (id : Id) : Option RunState := do
  let c ← db (.cloudRun id)
  let l ← db (.localTaskRun (← c.localRunId))
  let r ← db (.budgetReservation (← c.budgetReservationId))
  pure (runState c l r)

def RunChange (A : RunLabel → Prop) : Option RunState → Option RunState → Prop
  | some s, some s' => RunPath A s s'
  | none, some s' => A .create ∧ RunPath A (.fresh defaultMaxAttempts) s'
  | none, none => True
  | some _, none => False

def Evolves (A : Id → RunLabel → Prop) (db db' : Db) : Prop :=
  ∀ id, RunChange (A id) (stateAt db id) (stateAt db' id)

section states

variable {db db' db'' : Db} {i : RunIds} {x : RunRows} {A B : Id → RunLabel → Prop}

theorem RunAt.stateAt (h : RunAt db i x) : stateAt db i.cloudRunId = some x.state := by
  simp [AiScdc.stateAt,h.cloudRun,h.localRunId,h.localRun,h.reservationId,h.reservation,
    RunRows.state]

theorem stateAt_none {id : Id} (h : db (.cloudRun id) = none) : stateAt db id = none := by
  simp [stateAt,h]

theorem Linked.stateAt_some (h : Linked db) {id : Id} {s : RunState} (hs : stateAt db id = some s) :
    ∃ i x, i.cloudRunId = id ∧ RunAt db i x ∧ x.state = s := by
  cases hc : db (.cloudRun id) with
  | none => rw [stateAt_none hc] at hs; cases hs
  | some c =>
    obtain ⟨i,x,rfl,rfl,hat,_⟩ := h.rows id c hc
    rw [hat.stateAt] at hs
    exact ⟨i,x,rfl,hat,Option.some.inj hs⟩

theorem RunChange.weaken {A B : RunLabel → Prop} (hAB : ∀ label, A label → B label) :
    ∀ {s s' : Option RunState}, RunChange A s s' → RunChange B s s'
  | some _, some _, h => RunPath.weaken h hAB
  | none, some _, h => ⟨hAB _ h.1,RunPath.weaken h.2 hAB⟩
  | none, none, _ => trivial
  | some _, none, h => h

theorem RunChange.trans {A : RunLabel → Prop} : ∀ {s s' s'' : Option RunState},
    RunChange A s s' → RunChange A s' s'' → RunChange A s s''
  | some _, some _, some _, h, h' => Relation.ReflTransGen.trans h h'
  | none, some _, some _, h, h' => ⟨h.1,Relation.ReflTransGen.trans h.2 h'⟩
  | none, none, some _, _, h' => h'
  | none, none, none, _, _ => trivial
  | some _, some _, none, _, h' => h'
  | none, some _, none, _, h' => h'.elim
  | some _, none, _, h, _ => h.elim

theorem Evolves.weaken (h : Evolves A db db') (hAB : ∀ id label, A id label → B id label) :
    Evolves B db db' := fun id => (h id).weaken (hAB id)

theorem Evolves.trans (h : Evolves A db db') (h' : Evolves A db' db'') : Evolves A db db'' :=
  fun id => (h id).trans (h' id)

theorem RunChange.refl (A : RunLabel → Prop) : ∀ s, RunChange A s s
  | some _ => Relation.ReflTransGen.refl
  | none => trivial

theorem Evolves.refl (A : Id → RunLabel → Prop) (db : Db) : Evolves A db db :=
  fun _ => RunChange.refl _ _

end states

-- The session has moved from b to s without a commit, and only the rows of one run.
structure Focus (i : RunIds) (b : Stage Row) (x₀ x : RunRows) (s : Stage Row) : Prop where
  linked : Linked b.current
  based : RunAt b.current i x₀
  owned : Owned b.current x₀
  rows : RunAt s.current i x
  links : x.cloudRun.links = x₀.cloudRun.links
  projectId : x.task.projectId = x₀.task.projectId
  frame : ∀ k, ¬ i.moves k → s.current k = b.current k
  entered : Enters i.cloudRunId x₀.cloudRun b.current s.current
  committed : s.committed = b.committed
  free : Free s

namespace Focus

variable {i : RunIds} {b s : Stage Row} {x₀ x : RunRows}

theorem start (hl : Linked s.current) (hr : RunAt s.current i x) (ho : Owned s.current x)
    (hf : Free s) : Focus i s x x s :=
  ⟨hl,hr,ho,hr,rfl,rfl,fun _ _ => rfl,.same fun _ _ => rfl,rfl,hf⟩

theorem tenant (h : Focus i b x₀ x s) {k : Key} (hk : k.isTenant) : s.current k = b.current k := by
  refine h.frame k ?_
  rintro (rfl | rfl | rfl | rfl | hj)
  · exact hk
  · exact hk
  · exact hk
  · exact hk
  · cases k <;> first | exact hk | exact hj

theorem owner (h : Focus i b x₀ x s) : Owned s.current x := by
  have hws : x.cloudRun.workspaceId = x₀.cloudRun.workspaceId := congrArg Prod.fst h.links
  have hrepo : x.cloudRun.repoId = x₀.cloudRun.repoId := congrArg (·.2.2.1) h.links
  obtain ⟨⟨p,hp,hpw⟩,⟨r,hr,hrw⟩⟩ := h.owned
  refine ⟨⟨p,?_,hpw.trans hws.symm⟩,⟨r,?_,hrw.trans hws.symm⟩⟩
  · rw [h.projectId,h.frame _ (by simp [RunIds.moves,Key.isJournal]),hp]
  · rw [hrepo,h.frame _ (by simp [RunIds.moves,Key.isJournal]),hr]

theorem other (h : Focus i b x₀ x s) {j : Id} (hj : j ≠ i.cloudRunId) :
    s.current (.cloudRun j) = b.current (.cloudRun j) :=
  h.frame _ (by simp [RunIds.moves,Key.isJournal,hj])

-- The rows of another run are out of reach: its local run and reservation are its own.
theorem otherRows (h : Focus i b x₀ x s) {j : RunIds} {y : RunRows} (hj : j.cloudRunId ≠ i.cloudRunId)
    (hat : RunAt b.current j y) :
    s.current (.cloudRun j.cloudRunId) = some y.cloudRun ∧
      s.current (.localTaskRun j.localRunId) = some y.localRun ∧
      s.current (.budgetReservation j.reservationId) = some y.reservation := by
  have hlocal : j.localRunId ≠ i.localRunId := by
    intro e
    refine hj (h.linked.localRuns _ _ _ _ hat.cloudRun h.based.cloudRun ?_)
    rw [hat.localRunId,h.based.localRunId,e]
  have hres : j.reservationId ≠ i.reservationId := by
    intro e
    refine hj (h.linked.reservations _ _ _ _ hat.cloudRun h.based.cloudRun ?_)
    rw [hat.reservationId,h.based.reservationId,e]
  refine ⟨(h.other hj).trans hat.cloudRun,?_,?_⟩
  · rw [h.frame _ (by simp [RunIds.moves,Key.isJournal,hlocal]),hat.localRun]
  · rw [h.frame _ (by simp [RunIds.moves,Key.isJournal,hres]),hat.reservation]

theorem otherState (h : Focus i b x₀ x s) {j : Id} (hj : j ≠ i.cloudRunId) :
    stateAt s.current j = stateAt b.current j := by
  cases hc : b.current (.cloudRun j) with
  | none => rw [stateAt_none hc,stateAt_none ((h.other hj).trans hc)]
  | some c =>
    obtain ⟨k,y,rfl,rfl,hat,_⟩ := h.linked.rows j c hc
    obtain ⟨hrun,hloc,hres⟩ := h.otherRows hj hat
    rw [hat.stateAt]
    simp [stateAt,hrun,hat.localRunId,hloc,hat.reservationId,hres,RunRows.state]

theorem otherTask (h : Focus i b x₀ x s) {taskId : Id} {t : Task}
    (ht : b.current (.task taskId) = some t) :
    ∃ t', s.current (.task taskId) = some t' ∧ t'.projectId = t.projectId := by
  by_cases e : taskId = i.taskId
  · subst e
    rw [h.based.task] at ht
    exact ⟨x.task,h.rows.task,by rw [h.projectId,Option.some.inj ht]⟩
  · exact ⟨t,by rw [h.frame _ (by simp [RunIds.moves,Key.isJournal,e]),ht],rfl⟩

theorem linksOf (h : Focus i b x₀ x s) {id : Id} {c : CloudRun}
    (hc : s.current (.cloudRun id) = some c) :
    ∃ c₀, b.current (.cloudRun id) = some c₀ ∧ c.links = c₀.links := by
  by_cases e : id = i.cloudRunId
  · subst e
    rw [h.rows.cloudRun] at hc
    cases hc
    exact ⟨_,h.based.cloudRun,h.links⟩
  · exact ⟨c,(h.other e).symm.trans hc,rfl⟩

theorem keeps (h : Focus i b x₀ x s) : Keeps b.current s.current := by
  refine ⟨fun k hk => h.tenant hk,fun id c hc => ?_⟩
  by_cases e : id = i.cloudRunId
  · subst e
    rw [h.based.cloudRun] at hc
    cases hc
    exact ⟨x.cloudRun,h.rows.cloudRun,h.links⟩
  · exact ⟨c,(h.other e).trans hc,rfl⟩

theorem placed (h : Focus i b x₀ x s) : Placed b.current s.current :=
  (h.entered.links h.links).placed h.rows.cloudRun

theorem attached (h : Focus i b x₀ x s) (ρ : Id) (r : BudgetReservation)
    (hr : s.current (.budgetReservation ρ) = some r) :
    ∃ id c, s.current (.cloudRun id) = some c ∧ c.budgetReservationId = some ρ := by
  by_cases e : ρ = i.reservationId
  · subst e
    exact ⟨_,_,h.rows.cloudRun,h.rows.reservationId⟩
  · rw [h.frame _ (by simp [RunIds.moves,Key.isJournal,e])] at hr
    obtain ⟨id,c,hc,hρ⟩ := h.linked.attached ρ r hr
    obtain ⟨c',hc',hl⟩ := h.keeps.links id c hc
    have hres : c'.budgetReservationId = c.budgetReservationId := congrArg (·.2.2.2.2) hl
    exact ⟨id,c',hc',hres.trans hρ⟩

theorem linkedNow (h : Focus i b x₀ x s) : Linked s.current := by
  have hid {j j' : Id} {c c' : CloudRun} {f : Id × Id × Id × Option Id × Option Id → Option Id}
      (hb : ∀ c₀ c₀', b.current (.cloudRun j) = some c₀ → b.current (.cloudRun j') = some c₀' →
        f c₀.links = f c₀'.links → j = j')
      (hc : s.current (.cloudRun j) = some c) (hc' : s.current (.cloudRun j') = some c')
      (he : f c.links = f c'.links) : j = j' := by
    obtain ⟨c₀,hc₀,hl⟩ := h.linksOf hc
    obtain ⟨c₀',hc₀',hl'⟩ := h.linksOf hc'
    exact hb c₀ c₀' hc₀ hc₀' (by rw [← hl,← hl',he])
  refine ⟨fun j c hc => ?_,fun j j' c c' hc hc' he => ?_,fun j j' c c' hc hc' he => ?_,h.attached⟩
  · by_cases e : j = i.cloudRunId
    · subst e
      rw [h.rows.cloudRun] at hc
      cases hc
      exact ⟨i,x,rfl,rfl,h.rows,h.owner⟩
    · obtain ⟨k,y,rfl,rfl,hat,hown⟩ := h.linked.rows j c ((h.other e).symm.trans hc)
      obtain ⟨hrun,hloc,hres⟩ := h.otherRows e hat
      obtain ⟨t,ht,hproj⟩ := h.otherTask hat.task
      obtain ⟨⟨p,hp,hpw⟩,⟨r,hr,hrw⟩⟩ := hown
      refine ⟨k,{ y with task := t },rfl,rfl,
        ⟨hrun,hloc,hres,ht,hat.localRunId,hat.reservationId,hat.taskId⟩,⟨p,?_,hpw⟩,⟨r,?_,hrw⟩⟩
      · rw [hproj,h.frame _ (by simp [RunIds.moves,Key.isJournal]),hp]
      · rw [h.frame _ (by simp [RunIds.moves,Key.isJournal]),hr]
  · exact hid (f := fun links => links.2.2.2.1) (fun c₀ c₀' => h.linked.localRuns _ _ c₀ c₀') hc hc' he
  · exact hid (f := fun links => links.2.2.2.2) (fun c₀ c₀' => h.linked.reservations _ _ c₀ c₀') hc hc' he

theorem evolves (h : Focus i b x₀ x s) {A : RunLabel → Prop} (hp : RunPath A x₀.state x.state) :
    Evolves (i.only A) b.current s.current := by
  intro j
  by_cases e : j = i.cloudRunId
  · subst e
    rw [h.based.stateAt,h.rows.stateAt]
    exact RunPath.weaken hp fun _ hA => ⟨rfl,hA⟩
  · rw [h.otherState e]
    exact RunChange.refl _ _

end Focus

end AiScdc
