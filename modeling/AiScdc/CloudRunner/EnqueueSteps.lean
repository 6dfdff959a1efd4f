import AiScdc.CloudRunner.Steps

namespace AiScdc
open Transaction

variable {s s₀ : Stage Row}

def RunIds.creates (i : RunIds) (k : Key) : Prop :=
  k = .cloudRun i.cloudRunId ∨ k = .localTaskRun i.localRunId ∨
    k = .budgetReservation i.reservationId ∨ k.isJournal

-- The session has added one run, with its local run and its reservation, to the runs of s₀.
structure Created (i : RunIds) (s₀ : Stage Row) (x : RunRows) (s : Stage Row) : Prop where
  newRun : s₀.current (.cloudRun i.cloudRunId) = none
  newLocal : s₀.current (.localTaskRun i.localRunId) = none
  newReservation : s₀.current (.budgetReservation i.reservationId) = none
  rows : RunAt s.current i x
  owned : Owned s.current x
  state : x.state = .fresh defaultMaxAttempts
  frame : ∀ k, ¬ i.creates k → s.current k = s₀.current k
  evidence : ∀ k : Key, k.isEvidence → s.current k = s₀.current k
  committed : s.committed = s₀.committed
  free : Free s

namespace Created

variable {i : RunIds} {x : RunRows}

theorem other (h : Created i s₀ x s) {j : Id} (hj : j ≠ i.cloudRunId) :
    s.current (.cloudRun j) = s₀.current (.cloudRun j) :=
  h.frame _ (by simp [RunIds.creates,Key.isJournal,hj])

theorem oldRows (h : Created i s₀ x s) {j : RunIds} {y : RunRows} (hat : RunAt s₀.current j y) :
    RunAt s.current j y := by
  have hrun : j.cloudRunId ≠ i.cloudRunId := by
    intro e
    have hnone := h.newRun
    rw [← e,hat.cloudRun] at hnone
    cases hnone
  have hlocal : j.localRunId ≠ i.localRunId := by
    intro e
    have hnone := h.newLocal
    rw [← e,hat.localRun] at hnone
    cases hnone
  have hres : j.reservationId ≠ i.reservationId := by
    intro e
    have hnone := h.newReservation
    rw [← e,hat.reservation] at hnone
    cases hnone
  refine ⟨?_,?_,?_,?_,hat.localRunId,hat.reservationId,hat.taskId⟩
  · exact (h.other hrun).trans hat.cloudRun
  · exact (h.frame _ (by simp [RunIds.creates,Key.isJournal,hlocal])).trans hat.localRun
  · exact (h.frame _ (by simp [RunIds.creates,Key.isJournal,hres])).trans hat.reservation
  · exact (h.frame _ (by simp [RunIds.creates,Key.isJournal])).trans hat.task

theorem oldOwned (h : Created i s₀ x s) {y : RunRows} (hown : Owned s₀.current y) :
    Owned s.current y := by
  obtain ⟨⟨p,hp,hpw⟩,⟨r,hr,hrw⟩⟩ := hown
  refine ⟨⟨p,?_,hpw⟩,⟨r,?_,hrw⟩⟩
  · exact (h.frame _ (by simp [RunIds.creates,Key.isJournal])).trans hp
  · exact (h.frame _ (by simp [RunIds.creates,Key.isJournal])).trans hr

theorem keeps (h : Created i s₀ x s) : Keeps s₀.current s.current := by
  refine ⟨fun k hk => ?_,fun id c hc => ?_⟩
  · refine h.frame k ?_
    rintro (rfl | rfl | rfl | hj)
    · exact hk
    · exact hk
    · exact hk
    · cases k <;> first | exact hk | exact hj
  · have hid : id ≠ i.cloudRunId := by
      intro e
      have hnone := h.newRun
      rw [← e,hc] at hnone
      cases hnone
    exact ⟨c,(h.other hid).trans hc,rfl⟩

theorem placed (h : Created i s₀ x s) : Placed s₀.current s.current :=
  (Enters.same h.evidence).placed h.rows.cloudRun

theorem attached (h : Created i s₀ x s) (hl : Linked s₀.current) (ρ : Id) (r : BudgetReservation)
    (hr : s.current (.budgetReservation ρ) = some r) :
    ∃ id c, s.current (.cloudRun id) = some c ∧ c.budgetReservationId = some ρ := by
  by_cases e : ρ = i.reservationId
  · subst e
    exact ⟨_,_,h.rows.cloudRun,h.rows.reservationId⟩
  · rw [h.frame _ (by simp [RunIds.creates,Key.isJournal,e])] at hr
    obtain ⟨id,c,hc,hρ⟩ := hl.attached ρ r hr
    obtain ⟨k,y,rfl,rfl,hat,_⟩ := hl.rows id c hc
    exact ⟨k.cloudRunId,y.cloudRun,(h.oldRows hat).cloudRun,hρ⟩

theorem linked (h : Created i s₀ x s) (hl : Linked s₀.current) : Linked s.current := by
  have hold {j : Id} {c : CloudRun} (hj : j ≠ i.cloudRunId) (hc : s.current (.cloudRun j) = some c) :
      ∃ k y, k.cloudRunId = j ∧ y.cloudRun = c ∧ RunAt s₀.current k y ∧ Owned s₀.current y :=
    hl.rows j c ((h.other hj).symm.trans hc)
  have hnew {c : CloudRun} (hc : s.current (.cloudRun i.cloudRunId) = some c) : c = x.cloudRun :=
    Option.some.inj (hc.symm.trans h.rows.cloudRun)
  have hapartLocal {j : Id} {c : CloudRun} (hj : j ≠ i.cloudRunId)
      (hc : s.current (.cloudRun j) = some c) : c.localRunId ≠ x.cloudRun.localRunId := by
    intro e
    obtain ⟨k,y,rfl,rfl,hat,_⟩ := hold hj hc
    rw [hat.localRunId,h.rows.localRunId] at e
    have hnone := h.newLocal
    rw [← Option.some.inj e,hat.localRun] at hnone
    cases hnone
  have hapartRes {j : Id} {c : CloudRun} (hj : j ≠ i.cloudRunId)
      (hc : s.current (.cloudRun j) = some c) :
      c.budgetReservationId ≠ x.cloudRun.budgetReservationId := by
    intro e
    obtain ⟨k,y,rfl,rfl,hat,_⟩ := hold hj hc
    rw [hat.reservationId,h.rows.reservationId] at e
    have hnone := h.newReservation
    rw [← Option.some.inj e,hat.reservation] at hnone
    cases hnone
  refine ⟨fun j c hc => ?_,fun j j' c c' hc hc' he => ?_,fun j j' c c' hc hc' he => ?_,
    h.attached hl⟩
  · by_cases hj : j = i.cloudRunId
    · subst hj
      exact ⟨i,x,rfl,(hnew hc).symm,h.rows,h.owned⟩
    · obtain ⟨k,y,hk,hy,hat,hown⟩ := hold hj hc
      exact ⟨k,y,hk,hy,h.oldRows hat,h.oldOwned hown⟩
  · by_cases hj : j = i.cloudRunId <;> by_cases hj' : j' = i.cloudRunId
    · rw [hj,hj']
    · subst hj
      exact (hapartLocal hj' hc' (by rw [← he,hnew hc])).elim
    · subst hj'
      exact (hapartLocal hj hc (by rw [he,hnew hc'])).elim
    · exact hl.localRuns j j' c c' ((h.other hj).symm.trans hc) ((h.other hj').symm.trans hc') he
  · by_cases hj : j = i.cloudRunId <;> by_cases hj' : j' = i.cloudRunId
    · rw [hj,hj']
    · subst hj
      exact (hapartRes hj' hc' (by rw [← he,hnew hc])).elim
    · subst hj'
      exact (hapartRes hj hc (by rw [he,hnew hc'])).elim
    · exact hl.reservations j j' c c' ((h.other hj).symm.trans hc) ((h.other hj').symm.trans hc') he

theorem evolves (h : Created i s₀ x s) (hl : Linked s₀.current) {A : Id → RunLabel → Prop}
    (hA : A i.cloudRunId .create) : Evolves A s₀.current s.current := by
  intro j
  by_cases hj : j = i.cloudRunId
  · subst hj
    rw [stateAt_none h.newRun,h.rows.stateAt,h.state]
    exact ⟨hA,Relation.ReflTransGen.refl⟩
  · cases hc : s₀.current (.cloudRun j) with
    | none =>
      rw [stateAt_none hc,stateAt_none ((h.other hj).trans hc)]
      exact RunChange.refl _ _
    | some c =>
      obtain ⟨k,y,rfl,rfl,hat,_⟩ := hl.rows j c hc
      rw [hat.stateAt,(h.oldRows hat).stateAt]
      exact RunChange.refl _ _

theorem rest (h : Created i s₀ x s) (hs : Ready s₀) {s₁ : Stage Row} (hf : Focus i s x x s₁)
    {A : RunLabel → Prop} (hA : A .create) : Rest A i s₀ x s₁.commit := by
  have hl : Linked s₀.current := hs.idle ▸ hs.linked
  have hevo := (h.evolves hl (A := i.only A) ⟨rfl,hA⟩).trans (hf.evolves Relation.ReflTransGen.refl)
  have hkeep := h.keeps.trans hf.keeps
  have hplace := h.placed.trans hf.placed hf.keeps
  rw [hs.idle] at hevo hkeep hplace
  exact ⟨⟨hevo,hf.linkedNow,hf.free.commit,hkeep,hplace⟩,rfl,hf.rows,hf.owner⟩

end Created

theorem serial_reserve {ctx : Option AuthContext} {projectId taskId : Id} (hs : Free s)
    {Q : Id × BudgetReservation → Stage Row → Prop} {E : Exn → Stage Row → Prop}
    (hE : ∀ statusCode detail, E (.http statusCode detail) s)
    (hQ : ∀ ws now s', Touched (isFunds s.next ws) s s' → s'.next = s.next + 1 →
      s'.current (.budgetReservation s.next) = some (newReservation ws projectId taskId now) →
      Q (s.next,newReservation ws projectId taskId now) s') :
    Serial (reserveCloudRunBudget ctx projectId taskId) Q E s := by
  intro p w hst
  subst hst
  refine reserve_exact_rule hE (fun hclash => ?_) fun ws now p' _ _ _ hf hv _ => ?_
  · exact (hclash (hs.unused (.budgetReservation w.next) w.next rfl (Nat.le_refl _)).1).elim
  · exact hQ ws now _ hf.touched rfl hv

-- The rows of a run that is being created, in a session that has taken the ids of all three.
structure Creating (s₀ : Stage Row) (taskId : Id) (task : Task) (repository : Repository)
    (repoId : Id) : Prop where
  taskRow : s₀.current (.task taskId) = some task
  project : ∃ p, s₀.current (.project task.projectId) = some p ∧
    p.workspaceId = repository.workspaceId
  repository : s₀.current (.repository repoId) = some repository

theorem created_of_writes (hs : Ready s₀) {taskId ws : Id} {task : Task} {repository : Repository}
    {data : CloudRunCreate} (hc : Creating s₀ taskId task repository data.repoId) {s₁ : Stage Row}
    (ht : Touched (isFunds s₀.next ws) s₀ s₁) (hnext : s₁.next = s₀.next + 1)
    (r' : BudgetReservation) (hr' : r'.status = .reserved) (sandboxKind headBranch : String) (cents : ℤ)
    (createdAt startedAt updatedAt : Time) :
    let created := newCloudRun task taskId repository data sandboxKind s₀.next cents createdAt
    let l := newLocalTaskRun task taskId repository data.repoId sandboxKind startedAt
    let linked := created.linked headBranch (s₁.next + 1) updatedAt
    Created ⟨s₁.next,s₁.next + 1,s₀.next,taskId⟩ s₀ ⟨linked,l,r',task⟩
      ((((s₁.bump.write (.cloudRun s₁.next) (some created)).write (.budgetReservation s₀.next)
        (some r')).bump.write (.localTaskRun (s₁.next + 1)) (some l)).write (.cloudRun s₁.next)
          (some linked)) := by
  intro created l linked
  have hfree₁ : Free s₁ := by
    refine ⟨fun k n hk hle => ?_⟩
    have hle' : s₀.next ≤ n := by omega
    have hno : ¬ isFunds s₀.next ws k := by
      rintro (rfl | rfl)
      · have hn : s₀.next = n := Option.some.inj hk
        omega
      · cases hk
    rw [ht.same k hno,ht.committed]
    exact hs.free.unused k n hk hle'
  have hnew {k : Key} {n : ℕ} (hk : k.number = some n) (hle : s₀.next ≤ n) : s₀.current k = none :=
    (hs.free.unused k n hk hle).1
  have hkeep (k : Key) (hk : ¬ RunIds.creates ⟨s₁.next,s₁.next + 1,s₀.next,taskId⟩ k) :
      ((((s₁.bump.write (.cloudRun s₁.next) (some created)).write (.budgetReservation s₀.next)
        (some r')).bump.write (.localTaskRun (s₁.next + 1)) (some l)).write (.cloudRun s₁.next)
          (some linked)).current k = s₀.current k := by
    simp only [RunIds.creates,not_or] at hk
    obtain ⟨hrun,hlocal,hres,hjournal⟩ := hk
    simp only [Stage.write_ne _ _ _ hrun,Stage.write_ne _ _ _ hlocal,Stage.write_ne _ _ _ hres,
      Stage.bump_current]
    apply ht.same k
    rintro (rfl | rfl)
    · exact hres rfl
    · exact hjournal trivial
  obtain ⟨p,hp,hpw⟩ := hc.project
  refine ⟨?_,?_,?_,⟨?_,?_,?_,?_,rfl,rfl,rfl⟩,⟨⟨p,?_,hpw⟩,⟨repository,?_,rfl⟩⟩,?_,hkeep,fun k hk => ?_,?_,?_⟩
  · exact hnew (n := s₁.next) rfl (by omega)
  · exact hnew (n := s₁.next + 1) rfl (by omega)
  · exact hnew (n := s₀.next) rfl (Nat.le_refl _)
  · simp
  · simp [Stage.write_ne]
  · simp [Stage.write_ne]
  · exact (hkeep _ (by simp [RunIds.creates,Key.isJournal])).trans hc.taskRow
  · exact (hkeep _ (by simp [RunIds.creates,Key.isJournal])).trans hp
  · exact (hkeep _ (by simp [RunIds.creates,Key.isJournal])).trans hc.repository
  · simp [RunRows.state,runState,RunState.fresh,linked,created,l,CloudRun.linked,newCloudRun,
      newLocalTaskRun,hr']
  · rw [write_evidence rfl hk,write_evidence rfl hk,Stage.bump_current,write_evidence rfl hk,
      write_evidence rfl hk,Stage.bump_current]
    apply ht.same k
    rintro (rfl | rfl) <;> cases hk
  · exact ht.committed
  · have hfree₂ := hfree₁.bump.write (k := .cloudRun s₁.next) (v := some created)
      fun n hn => by cases hn; exact Nat.lt_succ_self _
    have hfree₃ := hfree₂.write (k := .budgetReservation s₀.next) (v := some r')
      fun n hn => by cases hn; simp [hnext]
    have hfree₄ := hfree₃.bump.write (k := .localTaskRun (s₁.next + 1)) (v := some l)
      fun n hn => by cases hn; exact Nat.lt_succ_self _
    exact hfree₄.write fun n hn => by cases hn; simp

def Starts (label : RunLabel) : Prop := label = .create ∨ label = .guard

structure Queued (ctx : Option AuthContext) (s₀ : Stage Row) (i : RunIds) (c : CloudRun)
    (l : LocalTaskRun) (r : BudgetReservation) (t : Task) (s : Stage Row) : Prop where
  newRun : s₀.committed (.cloudRun i.cloudRunId) = none
  allowed : Allowed ctx c.workspaceId
  queued : c.status = .queued
  reserved : r.status = .reserved
  rest : Rest Starts i s₀ ⟨c,l,r,t⟩ s

theorem serial_create (hs : Ready s₀) {ctx : Option AuthContext} {taskId : Id} {task : Task}
    {repository : Repository} {data : CloudRunCreate}
    (hc : Creating s₀ taskId task repository data.repoId) (ha : Allowed ctx repository.workspaceId)
    (sandboxKind : String) {E : Exn → Stage Row → Prop}
    (hE : ∀ statusCode detail, E (.http statusCode detail) s₀) :
    Serial (createQueuedCloudRun ctx taskId task repository data sandboxKind)
      (fun queued s' => ∃ i c l r t, queued = ⟨i.cloudRunId,c,i.localRunId,l⟩ ∧
        Queued ctx s₀ i c l r t s') E s₀ := by
  refine serial_bind (serial_reserve hs.free hE fun ws now s₁ ht hnext hres => ?_)
  refine serial_bind (serial_fresh (serial_bind (serial_now fun createdAt => serial_bind ?_)))
  have hfresh {k : Key} {n : ℕ} (hk : k.number = some n) (hle : s₁.next ≤ n)
      (hno : ¬ isFunds s₀.next ws k) : s₁.current k = none := by
    rw [ht.same k hno]
    exact (hs.free.unused k n hk (by omega)).1
  refine serial_insert (hfresh (k := .cloudRun s₁.next) rfl (Nat.le_refl _) (by simp [isFunds])) ?_
  refine serial_bind (serial_now fun reservedAt => serial_bind (serial_flushRow ?_ ?_))
  · simpa [Stage.write_ne] using hres
  refine serial_bind (serial_fresh (serial_bind (serial_now fun startedAt => serial_bind (serial_insert ?_ ?_))))
  · have hnone := hfresh (k := .localTaskRun (s₁.next + 1)) rfl (Nat.le_succ _)
      (by simp [isFunds])
    simpa [Stage.write_ne] using hnone
  refine serial_bind (serial_now fun updatedAt => serial_bind (serial_flushRow ?_ ?_))
  · simp [Stage.write_ne]
  have hmade := created_of_writes hs hc ht hnext
    { newReservation ws task.projectId taskId now with
      cloudRunId := some s₁.next, updatedAt := reservedAt } rfl sandboxKind
    s!"ai-scdc/task-task_{taskId}-{cloudRunText s₁.next}"
    (newReservation ws task.projectId taskId now).reservedCents createdAt startedAt updatedAt
  have hfocus := Focus.start (hmade.linked (hs.idle ▸ hs.linked)) hmade.rows hmade.owned hmade.free
  refine serial_bind (hfocus.log fun s₂ h₂ => serial_bind (serial_commitNow ?_))
  have hrest := hmade.rest hs h₂ (A := Starts) (Or.inl rfl)
  refine serial_bind (hrest.focus.refreshRun (serial_bind (hrest.focus.refreshLocal (serial_pure ?_))))
  refine ⟨_,_,_,_,_,rfl,?_,ha,rfl,rfl,hrest⟩
  rw [← hs.idle]
  exact hmade.newRun

def Exn.statusCode : Exn → ℕ
  | .http statusCode _ => statusCode
  | _ => 500

-- What an enqueue that answers with this status code may do: only a queue failure (502) refuses
-- the queueing, only a failed submission (400) the runtime.
def Enqueues (s₀ : Stage Row) (statusCode : ℕ) (id : Id) (label : RunLabel) : Prop :=
  s₀.committed (.cloudRun id) = none ∧ (Starts label ∨ (label = .queueRefused ∧ statusCode = 502) ∨
    (label = .runtimeRefused ∧ statusCode = 400))

variable {ctx : Option AuthContext} {i : RunIds} {c : CloudRun} {l : LocalTaskRun}
  {r : BudgetReservation} {t : Task}

theorem Queued.goes (h : Queued ctx s₀ i c l r t s) (statusCode : ℕ) :
    Goes (Enqueues s₀ statusCode) s₀ s :=
  h.rest.goes.only fun _ hA => ⟨h.newRun,Or.inl hA⟩

theorem Queued.refresh {b : Stage Row} {c' : CloudRun} (h : Queued ctx s₀ i c l r t b)
    (hf : Focus i b ⟨c,l,r,t⟩ ⟨c',l,r,t⟩ s)
    (hstep : RunPath Starts (runState c l r) (runState c' l r))
    (hst : c'.status = .queued) (hlinks : c'.links = c.links) : Queued ctx s₀ i c' l r t s.commit := by
  have hws : c'.workspaceId = c.workspaceId := congrArg Prod.fst hlinks
  refine ⟨h.newRun,?_,hst,h.reserved,hf.commit h.rest hstep⟩
  rw [hws]
  exact h.allowed

section enqueue

variable [Digest]

theorem Queued.protect (h : Queued ctx s₀ i c l r t s) {data : CloudRunCreate} {token : String}
    {E : Exn → Stage Row → Prop} :
    Serial (protectCloudRun data token i.cloudRunId c)
      (fun c' s' => Queued ctx s₀ i c' l r t s') E s := by
  unfold protectCloudRun
  split
  · exact serial_pure h
  · rename_i workerId _
    refine serial_bind (serial_now fun now => serial_bind (h.rest.focus.flushRun fun s₁ h₁ => ?_))
    have hstep : RunStep .guard (runState c l r) (runState (c.guarded workerId
        (hashCallbackToken i.cloudRunId workerId token) (now + callbackTokenLifetime)) l r) :=
      .guard h.queued
    have hnext := h.refresh h₁ (RunPath.single (Or.inr rfl) hstep) h.queued rfl
    exact serial_bind (serial_commitNow (hnext.rest.focus.refreshRun hnext))

omit [Digest] in
theorem Queued.refuse {b : Stage Row} (h : Queued ctx s₀ i c l r t b)
    (hf : Focus i b ⟨c,l,r,t⟩ ⟨c,l,r,t⟩ s) {detail : String} {Q : CloudRun → Stage Row → Prop} :
    Serial (failQueueEnqueue ⟨i.cloudRunId,c₀,i.localRunId,l⟩ c detail) Q
      (fun e s' => Goes (Enqueues s₀ e.statusCode) s₀ s') s := by
  refine serial_bind (serial_now fun now => serial_bind (hf.flushRun fun s₁ h₁ => ?_))
  refine serial_bind (h₁.flushLocal fun s₂ h₂ => serial_bind (h₂.log fun s₃ h₃ => ?_))
  refine serial_bind (h₃.release h₃.rows.reservationId h.reserved fun now' s₄ h₄ => ?_)
  refine serial_bind (h₄.flushRun fun s₅ h₅ => serial_bind (serial_commitNow (serial_http ?_)))
  have hstep : RunStep .queueRefused (runState c l r) ((runState c l r).ended .failed .released) :=
    .queueRefused h.queued
  have hrest := h.rest.weaken (B := fun label => Starts label ∨ label = .queueRefused)
    fun _ hA => Or.inl hA
  have hend := h₅.commit hrest (RunPath.single (Or.inr rfl) hstep)
  refine hend.goes.only fun label hA => ⟨h.newRun,?_⟩
  rcases hA with hA | hA
  · exact Or.inl hA
  · exact Or.inr (Or.inl ⟨hA,rfl⟩)

omit [Digest] in
theorem Queued.queue (h : Queued ctx s₀ i c l r t s) {data : CloudRunCreate} {replies : EnqueueReplies}
    {c₀ : CloudRun} : Serial (sendQueueMessage data replies ⟨i.cloudRunId,c₀,i.localRunId,l⟩ c)
      (fun c' s' => Queued ctx s₀ i c' l r t s')
      (fun e s' => Goes (Enqueues s₀ e.statusCode) s₀ s') s := by
  have hrecord (result : Except String CloudQueueEnqueueResult) {s₁ : Stage Row}
      (h₁ : Focus i s ⟨c,l,r,t⟩ ⟨c,l,r,t⟩ s₁) :
      Serial (recordQueueResult ⟨i.cloudRunId,c₀,i.localRunId,l⟩ c result)
        (fun c' s' => Queued ctx s₀ i c' l r t s')
        (fun e s' => Goes (Enqueues s₀ e.statusCode) s₀ s') s₁ := by
    cases result with
    | error detail => exact h.refuse h₁
    | ok result =>
      refine serial_bind (serial_now fun now => serial_bind (h₁.flushRun fun s₂ h₂ => ?_))
      have hnext := h.refresh h₂ Relation.ReflTransGen.refl h.queued rfl
      exact serial_bind (serial_commitNow (hnext.rest.focus.refreshRun hnext))
  refine serial_bind (serial_mono (Q := fun _ s₁ => Focus i s ⟨c,l,r,t⟩ ⟨c,l,r,t⟩ s₁) (E := fun _ s₁ => s₁ = s)
    ?_ (fun result s₁ h₁ => hrecord result h₁) fun e s₁ he => he ▸ h.goes _)
  split
  · unfold queueEnqueue
    cases data.queueProvider with
    | localDb => exact serial_pure h.rest.focus
    | externalStub => exact serial_pure h.rest.focus
    | other name => exact serial_throw rfl
    | aliyunMns =>
      dsimp only
      cases replies.mnsSettings with
      | error name => exact serial_throw rfl
      | ok u =>
        cases replies.queue with
        | refused => exact serial_pure h.rest.focus
        | sent messageId => exact serial_pure h.rest.focus
  · exact serial_bind (h.rest.focus.log fun s₁ h₁ => serial_pure h₁)

theorem Focus.putText {b : Stage Row} {x₀ x : RunRows} (h : Focus i b x₀ x s)
    {write : ObjectStorageWrite} {uri : Id → ObjectUri} {text : String}
    {Q : ObjectStorageRef → Stage Row → Prop} {E : Exn → Stage Row → Prop}
    (hQ : ∀ ref s', Focus i b x₀ x s' → Q ref s') : Serial (putText write uri text) Q E s := by
  refine serial_bind (h.fresh fun n s₁ h₁ hlt hnone => serial_bind ?_)
  refine h₁.insertAt (k := .storedObject n) trivial (hnone _ rfl) (fun hk => by cases hk) (fun m hm => ?_)
    fun s₂ h₂ => serial_pure (hQ _ _ h₂)
  cases hm
  exact hlt

theorem Focus.submit {b : Stage Row} {x₀ x : RunRows} (h : Focus i b x₀ x s)
    {provider : RuntimeProvider} {c' : CloudRun} {replies : EnqueueReplies}
    {Q : Except String RemoteRuntimeSubmission → Stage Row → Prop} {E : Exn → Stage Row → Prop}
    (hQ : ∀ reply s', Focus i b x₀ x s' → Q reply s') (hE : ∀ name, E (.unhandled name) s) :
    Serial (submitRemoteRuntime provider i.cloudRunId c' replies) Q E s := by
  unfold submitRemoteRuntime
  cases provider with
  | remoteStub =>
    refine serial_bind ?_
    unfold submitRemoteStub
    dsimp only
    split
    · refine serial_bind (h.putText fun manifest s₁ h₁ => serial_bind (h₁.putText fun log s₂ h₂ => ?_))
      exact serial_pure (serial_pure (hQ _ _ h₂))
    · exact serial_pure (serial_pure (hQ _ _ h))
  | aliyunEci =>
    dsimp only
    unfold submitAliyunEci
    cases replies.eciSettings with
    | error name => exact serial_throw (hE _)
    | ok u =>
      cases replies.runtime with
      | refused => exact serial_pure (hQ _ _ h)
      | created containerGroupId manifestPath logPath =>
        dsimp only
        split
        · refine serial_bind (h.putText fun manifest s₁ h₁ => serial_bind (h₁.putText fun log s₂ h₂ => ?_))
          exact serial_pure (hQ _ _ h₂)
        · exact serial_pure (hQ _ _ h)
  | other name => exact serial_throw (hE _)

omit [Digest] in
theorem Queued.failSubmission {b : Stage Row} (h : Queued ctx s₀ i c l r t b)
    (hf : Focus i b ⟨c,l,r,t⟩ ⟨c,l,r,t⟩ s) {detail : String} {Q : CloudRun → Stage Row → Prop} :
    Serial (failRuntimeSubmission ctx i.cloudRunId detail) Q
      (fun e s' => Goes (Enqueues s₀ e.statusCode) s₀ s') s := by
  have hback := hf.rollback h.rest
  refine serial_bind (serial_rollbackNow (serial_bind (hback.focus.getRun h.allowed ?_)))
  refine serial_bind (hback.focus.getLocal hback.rows.localRunId (serial_bind (serial_now fun now => ?_)))
  refine serial_bind (hback.focus.flushRun fun s₁ h₁ => serial_bind (h₁.flushLocal fun s₂ h₂ => ?_))
  refine serial_bind (h₂.log fun s₃ h₃ => ?_)
  refine serial_bind (h₃.settle h₃.rows.reservationId h.reserved fun usage now' s₄ h₄ => ?_)
  refine serial_bind (h₄.flushRun fun s₅ h₅ => serial_bind (serial_commitNow (serial_http ?_)))
  have hstep : RunStep .runtimeRefused (runState c l r) ((runState c l r).ended .failed .settled) :=
    .runtimeRefused h.queued
  have hrest := hback.weaken (B := fun label => Starts label ∨ label = .runtimeRefused)
    fun _ hA => Or.inl hA
  have hend := h₅.commit hrest (RunPath.single (Or.inr rfl) hstep)
  refine hend.goes.only fun label hA => ⟨h.newRun,?_⟩
  rcases hA with hA | hA
  · exact Or.inl hA
  · exact Or.inr (Or.inr ⟨hA,rfl⟩)

theorem Queued.submit (h : Queued ctx s₀ i c l r t s) {data : CloudRunCreate}
    {replies : EnqueueReplies} : Serial (submitToRuntime ctx data replies i.cloudRunId c)
      (fun _ s' => ∃ c', Queued ctx s₀ i c' l r t s'.commit)
      (fun e s' => Goes (Enqueues s₀ e.statusCode) s₀ s') s := by
  unfold submitToRuntime
  cases data.runtimeProvider with
  | none =>
    refine serial_pure ⟨c,?_⟩
    rw [commit_idle h.rest.idle]
    exact h
  | some provider =>
    refine serial_bind (serial_now fun now => serial_bind (h.rest.focus.submit (fun reply s₁ h₁ => ?_)
      fun _ => h.goes _))
    cases reply with
    | error detail => exact serial_bind (h.failSubmission h₁)
    | ok submission =>
      refine serial_bind (h₁.flushRun fun s₂ h₂ => h₂.log fun s₃ h₃ => ?_)
      exact ⟨_,h.refresh h₃ Relation.ReflTransGen.refl h.queued rfl⟩

end enqueue

-- A repository belongs to the workspace of its project.
def Tenanted (db : Db) : Prop := ∀ repoId repository p, db (.repository repoId) = some repository →
  db (.project repository.projectId) = some p → p.workspaceId = repository.workspaceId

section enqueue

variable [Digest]

omit [Digest] in
theorem serial_validateProviders {data : CloudRunCreate} {replies : EnqueueReplies}
    {Q : Unit → Stage Row → Prop} {E : Exn → Stage Row → Prop} (hQ : Q () s)
    (hE : ∀ statusCode detail, E (.http statusCode detail) s) :
    Serial (validateCloudRunProviderSelection data replies) Q E s := by
  unfold validateCloudRunProviderSelection
  split
  · exact serial_http (hE _ _)
  · refine serial_bind (serial_orHttp400 (serial_bind (serial_orHttp400 (serial_bind (serial_orHttp400 ?_ hE)) hE)) hE)
    exact serial_bind (serial_orHttp400 (serial_bind (serial_orHttp400 (serial_orHttp400 hQ hE) hE)) hE)

omit [Digest] in
theorem serial_validateProfile {data : CloudRunCreate} {replies : EnqueueReplies}
    {Q : Unit → Stage Row → Prop} {E : Exn → Stage Row → Prop} (hQ : Q () s)
    (hE : ∀ statusCode detail, E (.http statusCode detail) s) :
    Serial (validateSandboxProfile data replies) Q E s := by
  unfold validateSandboxProfile
  split
  · cases data.sandboxProfileId with
    | none =>
      dsimp only
      split
      · exact serial_http (hE _ _)
      · exact serial_http (hE _ _)
    | some id =>
      dsimp only
      cases replies.profileCheck with
      | ok u => exact serial_pure hQ
      | error pair => exact serial_http (hE _ _)
  · exact serial_pure hQ

omit [Digest] in
theorem serial_getTask {taskId : Id} {Q : Task → Stage Row → Prop} {E : Exn → Stage Row → Prop}
    (hQ : ∀ task p, s.current (.task taskId) = some task →
      s.current (.project task.projectId) = some p → Q task s)
    (hE : ∀ statusCode detail, E (.http statusCode detail) s) : Serial (getTask ctx taskId) Q E s := by
  refine serial_bind (serial_getOr404 (fun task htask => ?_) fun _ => hE _ _)
  refine serial_bind (serial_bind (serial_getOr404 (fun p hp => ?_) fun _ => hE _ _))
  exact serial_bind (serial_enforce (fun _ => serial_pure (serial_pure (hQ task p htask hp)))
    fun _ => hE _ _)

omit [Digest] in
theorem serial_getRepository {repoId : Id} {Q : Repository → Stage Row → Prop}
    {E : Exn → Stage Row → Prop} (hQ : ∀ repository, s.current (.repository repoId) = some repository →
      Allowed ctx repository.workspaceId → Q repository s)
    (hE : ∀ statusCode detail, E (.http statusCode detail) s) :
    Serial (getRepository ctx repoId) Q E s := by
  refine serial_bind (serial_getOr404 (fun repository hrepo => ?_) fun _ => hE _ _)
  exact serial_bind (serial_enforce (fun ha => serial_pure (hQ repository hrepo ha)) fun _ => hE _ _)

theorem serial_queueRun (hs : Ready s₀) {taskId : Id} {task : Task} {repository : Repository}
    {data : CloudRunCreate} (hc : Creating s₀ taskId task repository data.repoId)
    (ha : Allowed ctx repository.workspaceId) (replies : EnqueueReplies) :
    Serial (queueCloudRun ctx taskId task repository data replies)
      (fun _ s' => Goes (Enqueues s₀ 200) s₀ s')
      (fun e s' => Goes (Enqueues s₀ e.statusCode) s₀ s') s₀ := by
  have hmade := serial_create hs hc ha replies.sandboxKind
    (E := fun e s' => Goes (Enqueues s₀ e.statusCode) s₀ s') fun _ _ => hs.goes _
  refine serial_bind (serial_mono hmade (fun queued s₁ h₁ => ?_) fun _ _ he => he)
  obtain ⟨i,c,l,r,t,rfl,h₁⟩ := h₁
  refine serial_bind (serial_mono h₁.protect (fun c₂ s₂ h₂ => ?_) fun _ _ he => he)
  refine serial_bind (serial_mono h₂.queue (fun c₃ s₃ h₃ => ?_) fun _ _ he => he)
  refine serial_bind (serial_mono h₃.submit (fun _ s₄ h₄ => ?_) fun _ _ he => he)
  obtain ⟨c₄,h₄⟩ := h₄
  exact serial_bind (serial_commitNow (serial_bind (h₄.rest.focus.refreshRun (serial_pure (h₄.goes 200)))))

omit [Digest] in
theorem serial_validateRepository {task : Task} {repository : Repository}
    {Q : Unit → Stage Row → Prop} {E : Exn → Stage Row → Prop}
    (hQ : repository.projectId = task.projectId → Q () s)
    (hE : ∀ statusCode detail, E (.http statusCode detail) s) :
    Serial (validateRepository task repository) Q E s := by
  unfold validateRepository
  split
  · exact serial_http (hE _ _)
  · rename_i hproject
    split
    · exact serial_http (hE _ _)
    · split
      · exact serial_http (hE _ _)
      · exact serial_pure (hQ (not_not.mp hproject))

theorem serial_enqueue (taskId : Id) (data : CloudRunCreate) (replies : EnqueueReplies) (hs : Ready s₀)
    (hten : Tenanted s₀.committed) : Serial (enqueueCloudRun ctx taskId data replies)
      (fun _ s' => Goes (Enqueues s₀ 200) s₀ s')
      (fun e s' => Goes (Enqueues s₀ e.statusCode) s₀ s') s₀ := by
  have hstay (statusCode : ℕ) (detail : String) :
      Goes (Enqueues s₀ (Exn.http statusCode detail).statusCode) s₀ s₀ := hs.goes _
  refine serial_bind (serial_getTask (fun task p htask hp => ?_) hstay)
  refine serial_bind (serial_getRepository (fun repository hrepo ha => ?_) hstay)
  refine serial_bind (serial_permission hs.idle ?_ hstay)
  refine serial_bind (serial_validateRepository (fun hproject => ?_) hstay)
  refine serial_bind (serial_validateProviders ?_ hstay)
  refine serial_bind (serial_validateProfile ?_ hstay)
  refine serial_queueRun hs ⟨htask,⟨p,hp,?_⟩,hrepo⟩ ha replies
  rw [hs.idle] at hp hrepo
  rw [← hproject] at hp
  exact hten data.repoId repository p hrepo hp

end enqueue

end AiScdc
