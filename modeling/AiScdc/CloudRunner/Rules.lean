import AiScdc.BudgetRules
import AiScdc.CloudRunner.Linked

namespace AiScdc
open Transaction

theorem Free.lt {s : Stage Row} (h : Free s) {k : Key} {n : ℕ} {row : k.Entity}
    (hk : k.number = some n) (hrow : s.current k = some row) : n < s.next := by
  by_contra hn
  have hnone := (h.unused k n hk (Nat.le_of_not_lt hn)).1
  rw [hrow] at hnone
  cases hnone

theorem Free.write {s : Stage Row} (h : Free s) {k : Key} {v : Row k}
    (hk : ∀ n, k.number = some n → n < s.next) : Free (s.write k v) := by
  refine ⟨fun k' n hn hle => ⟨?_,(h.unused k' n hn hle).2⟩⟩
  have hne : k' ≠ k := by
    rintro rfl
    have hlt := hk n hn
    have hle' : s.next ≤ n := hle
    omega
  rw [Stage.write_ne s k v hne]
  exact (h.unused k' n hn hle).1

theorem Free.bump {s : Stage Row} (h : Free s) : Free s.bump :=
  ⟨fun k n hn hle => h.unused k n hn (Nat.le_of_succ_le hle)⟩

theorem Free.commit {s : Stage Row} (h : Free s) : Free s.commit :=
  ⟨fun k n hn hle => ⟨(h.unused k n hn hle).1,(h.unused k n hn hle).1⟩⟩

theorem Free.rollback {s : Stage Row} (h : Free s) : Free s.rollback :=
  ⟨fun k n hn hle => ⟨(h.unused k n hn hle).2,(h.unused k n hn hle).2⟩⟩

theorem Free.touched {F : Key → Prop} {s s' : Stage Row} (h : Free s) (ht : Touched F s s')
    (hF : ∀ k n, F k → k.number = some n → n < s.next) : Free s' := by
  refine ⟨fun k n hn hle => ?_⟩
  have hle' : s.next ≤ n := Nat.le_trans ht.next hle
  have hk : ¬ F k := by
    intro hf
    have hlt := hF k n hf hn
    omega
  rw [ht.same k hk,ht.committed]
  exact h.unused k n hn hle'

-- Since s₀ every run has gone a path that A allows, and what is committed is well linked.
structure Goes (A : Id → RunLabel → Prop) (s₀ s : Stage Row) : Prop where
  evolves : Evolves A s₀.committed s.committed
  linked : Linked s.committed
  free : Free s
  keeps : Keeps s₀.committed s.committed
  placed : Placed s₀.committed s.committed

structure Rest (A : RunLabel → Prop) (i : RunIds) (s₀ : Stage Row) (x : RunRows) (s : Stage Row) :
    Prop where
  goes : Goes (i.only A) s₀ s
  idle : s.current = s.committed
  rows : RunAt s.current i x
  owned : Owned s.current x

theorem Goes.weaken {A B : Id → RunLabel → Prop} {s₀ s : Stage Row} (h : Goes A s₀ s)
    (hAB : ∀ id label, A id label → B id label) : Goes B s₀ s :=
  ⟨h.evolves.weaken hAB,h.linked,h.free,h.keeps,h.placed⟩

theorem Goes.only {A : RunLabel → Prop} {B : Id → RunLabel → Prop} {i : RunIds} {s₀ s : Stage Row}
    (h : Goes (i.only A) s₀ s) (hAB : ∀ label, A label → B i.cloudRunId label) : Goes B s₀ s :=
  h.weaken fun _ label ⟨hid,hA⟩ => hid ▸ hAB label hA

variable {A : RunLabel → Prop} {i : RunIds} {s₀ b s : Stage Row} {x₀ x : RunRows}

theorem Rest.focus (h : Rest A i s₀ x s) : Focus i s x x s :=
  Focus.start (h.idle ▸ h.goes.linked) h.rows h.owned h.goes.free

theorem Rest.weaken {B : RunLabel → Prop} (h : Rest A i s₀ x s) (hAB : ∀ label, A label → B label) :
    Rest B i s₀ x s :=
  ⟨h.goes.weaken fun _ label ⟨hid,hA⟩ => ⟨hid,hAB label hA⟩,h.idle,h.rows,h.owned⟩

theorem Focus.commit (hf : Focus i b x₀ x s) (hr : Rest A i s₀ x₀ b)
    (hp : RunPath A x₀.state x.state) : Rest A i s₀ x s.commit := by
  have hstep := hf.evolves hp
  have hkeep := hf.keeps
  have hplace := hf.placed
  rw [hr.idle] at hstep hkeep hplace
  exact ⟨⟨hr.goes.evolves.trans hstep,hf.linkedNow,hf.free.commit,hr.goes.keeps.trans hkeep,
    hr.goes.placed.trans hplace hkeep⟩,rfl,hf.rows,hf.owner⟩

theorem Focus.goes (hf : Focus i b x₀ x s) (hr : Rest A i s₀ x₀ b) : Goes (i.only A) s₀ s := by
  refine ⟨?_,?_,hf.free,?_,?_⟩
  · rw [hf.committed]
    exact hr.goes.evolves
  · rw [hf.committed]
    exact hr.goes.linked
  · rw [hf.committed]
    exact hr.goes.keeps
  · rw [hf.committed]
    exact hr.goes.placed

theorem Focus.rollback (hf : Focus i b x₀ x s) (hr : Rest A i s₀ x₀ b) :
    Rest A i s₀ x₀ s.rollback := by
  have hcom : s.committed = b.current := hf.committed.trans hr.idle.symm
  have hgoes := hf.goes hr
  refine ⟨⟨hgoes.evolves,hgoes.linked,hf.free.rollback,hgoes.keeps,hgoes.placed⟩,rfl,?_,?_⟩
  · rw [Stage.rollback_current,hcom]
    exact hr.rows
  · rw [Stage.rollback_current,hcom]
    exact hr.owned

namespace Focus

theorem bump (h : Focus i b x₀ x s) : Focus i b x₀ x s.bump :=
  ⟨h.linked,h.based,h.owned,h.rows,h.links,h.projectId,h.frame,h.entered,h.committed,h.free.bump⟩

theorem unused (h : Focus i b x₀ x s) {k : Key} (hk : k.number = some s.next) :
    s.current k = none := (h.free.unused k s.next hk (Nat.le_refl _)).1

section writes

variable {c : CloudRun} {l : LocalTaskRun} {r : BudgetReservation} {t : Task}

theorem writeRun (h : Focus i b x₀ ⟨c,l,r,t⟩ s) {c' : CloudRun} (hl : c'.links = c.links) :
    Focus i b x₀ ⟨c',l,r,t⟩ (s.write (.cloudRun i.cloudRunId) (some c')) := by
  have hrows := h.rows
  have htask : c'.taskId = c.taskId := congrArg (·.2.1) hl
  have hlocal : c'.localRunId = c.localRunId := congrArg (·.2.2.2.1) hl
  have hres : c'.budgetReservationId = c.budgetReservationId := congrArg (·.2.2.2.2) hl
  refine ⟨h.linked,h.based,h.owned,⟨by simp,?_,?_,?_,?_,?_,?_⟩,hl.trans h.links,h.projectId,?_,
    h.entered.trans (enters_write rfl),h.committed,?_⟩
  · exact (Stage.write_ne s _ _ (by simp)).trans hrows.localRun
  · exact (Stage.write_ne s _ _ (by simp)).trans hrows.reservation
  · exact (Stage.write_ne s _ _ (by simp)).trans hrows.task
  · exact hlocal.trans hrows.localRunId
  · exact hres.trans hrows.reservationId
  · exact htask.trans hrows.taskId
  · intro k hk
    have hne : k ≠ .cloudRun i.cloudRunId := fun e => hk (Or.inl e)
    exact (Stage.write_ne s _ _ hne).trans (h.frame k hk)
  · exact h.free.write fun n hn => h.free.lt hn hrows.cloudRun

theorem writeLocal (h : Focus i b x₀ ⟨c,l,r,t⟩ s) (l' : LocalTaskRun) :
    Focus i b x₀ ⟨c,l',r,t⟩ (s.write (.localTaskRun i.localRunId) (some l')) := by
  have hrows := h.rows
  refine ⟨h.linked,h.based,h.owned,⟨?_,by simp,?_,?_,hrows.localRunId,hrows.reservationId,
    hrows.taskId⟩,h.links,h.projectId,?_,h.entered.trans (enters_write rfl),h.committed,?_⟩
  · exact (Stage.write_ne s _ _ (by simp)).trans hrows.cloudRun
  · exact (Stage.write_ne s _ _ (by simp)).trans hrows.reservation
  · exact (Stage.write_ne s _ _ (by simp)).trans hrows.task
  · intro k hk
    have hne : k ≠ .localTaskRun i.localRunId := fun e => hk (Or.inr (Or.inl e))
    exact (Stage.write_ne s _ _ hne).trans (h.frame k hk)
  · exact h.free.write fun n hn => h.free.lt hn hrows.localRun

theorem writeTask (h : Focus i b x₀ ⟨c,l,r,t⟩ s) {t' : Task} (hp : t'.projectId = t.projectId) :
    Focus i b x₀ ⟨c,l,r,t'⟩ (s.write (.task i.taskId) (some t')) := by
  have hrows := h.rows
  refine ⟨h.linked,h.based,h.owned,⟨?_,?_,?_,by simp,hrows.localRunId,hrows.reservationId,
    hrows.taskId⟩,h.links,hp.trans h.projectId,?_,h.entered.trans (enters_write rfl),h.committed,?_⟩
  · exact (Stage.write_ne s _ _ (by simp)).trans hrows.cloudRun
  · exact (Stage.write_ne s _ _ (by simp)).trans hrows.localRun
  · exact (Stage.write_ne s _ _ (by simp)).trans hrows.reservation
  · intro k hk
    have hne : k ≠ .task i.taskId := fun e => hk (Or.inr (Or.inr (Or.inr (Or.inl e))))
    exact (Stage.write_ne s _ _ hne).trans (h.frame k hk)
  · exact h.free.write fun n hn => by simp [Key.number] at hn

theorem insertJournal (h : Focus i b x₀ x s) {k : Key} {row : k.Entity} (hk : k.isJournal)
    (hnone : s.current k = none) (hrow : k.isEvidence → Backs i.cloudRunId x.cloudRun k row)
    (hn : ∀ n, k.number = some n → n < s.next) : Focus i b x₀ x (s.write k (some row)) := by
  have hrows := h.rows
  have hnew : Enters i.cloudRunId x₀.cloudRun s.current (s.write k (some row)).current :=
    enters_insert hnone fun he => (hrow he).links h.links.symm
  refine ⟨h.linked,h.based,h.owned,⟨?_,?_,?_,?_,hrows.localRunId,hrows.reservationId,
    hrows.taskId⟩,h.links,h.projectId,?_,h.entered.trans hnew,h.committed,h.free.write hn⟩
  · exact (Stage.write_ne s _ _ (by rintro rfl; exact hk)).trans hrows.cloudRun
  · exact (Stage.write_ne s _ _ (by rintro rfl; exact hk)).trans hrows.localRun
  · exact (Stage.write_ne s _ _ (by rintro rfl; exact hk)).trans hrows.reservation
  · exact (Stage.write_ne s _ _ (by rintro rfl; exact hk)).trans hrows.task
  · intro k' hk'
    have hne : k' ≠ k := by
      rintro rfl
      exact hk' (Or.inr (Or.inr (Or.inr (Or.inr hk))))
    exact (Stage.write_ne s _ _ hne).trans (h.frame k' hk')

theorem touchBudget (h : Focus i b x₀ ⟨c,l,r,t⟩ s) {ws : Id} {s' : Stage Row} {r' : BudgetReservation}
    (ht : Touched (isBudget i.reservationId ws) s s')
    (hr : s'.current (.budgetReservation i.reservationId) = some r')
    (hnew : Enters i.cloudRunId c s.current s'.current) :
    Focus i b x₀ ⟨c,l,r',t⟩ s' := by
  have hrows := h.rows
  have hkeep {k : Key} (hk : ¬ isBudget i.reservationId ws k) : s'.current k = s.current k :=
    ht.same k hk
  refine ⟨h.linked,h.based,h.owned,⟨?_,?_,hr,?_,hrows.localRunId,hrows.reservationId,
    hrows.taskId⟩,h.links,h.projectId,?_,h.entered.trans (hnew.links h.links.symm),
    ht.committed.trans h.committed,?_⟩
  · exact (hkeep (by simp [isBudget,isUsage])).trans hrows.cloudRun
  · exact (hkeep (by simp [isBudget,isUsage])).trans hrows.localRun
  · exact (hkeep (by simp [isBudget,isUsage])).trans hrows.task
  · intro k hk
    have hno : ¬ isBudget i.reservationId ws k := by
      rintro (rfl | rfl | ⟨cloudRunId,usageType,rfl⟩)
      · exact hk (Or.inr (Or.inr (Or.inl rfl)))
      · exact hk (Or.inr (Or.inr (Or.inr (Or.inr trivial))))
      · exact hk (Or.inr (Or.inr (Or.inr (Or.inr trivial))))
    exact (hkeep hno).trans (h.frame k hk)
  · refine h.free.touched ht fun k n hk hn => ?_
    rcases hk with rfl | rfl | ⟨cloudRunId,usageType,rfl⟩
    · exact h.free.lt hn hrows.reservation
    · simp [Key.number] at hn
    · simp [Key.number] at hn

end writes

end Focus

section statements

variable {c : CloudRun} {l : LocalTaskRun} {r : BudgetReservation} {t : Task}

theorem Focus.flushRun (h : Focus i b x₀ ⟨c,l,r,t⟩ s) {c' : CloudRun}
    {Q : Unit → Stage Row → Prop} {E : Exn → Stage Row → Prop}
    (hQ : ∀ s', Focus i b x₀ ⟨c',l,r,t⟩ s' → Q () s') (hl : c'.links = c.links := by rfl) :
    Serial (flush (.cloudRun i.cloudRunId) c c') Q E s :=
  serial_flushRow h.rows.cloudRun (hQ _ (h.writeRun hl))

theorem Focus.flushLocal (h : Focus i b x₀ ⟨c,l,r,t⟩ s) {l' : LocalTaskRun}
    {Q : Unit → Stage Row → Prop} {E : Exn → Stage Row → Prop}
    (hQ : ∀ s', Focus i b x₀ ⟨c,l',r,t⟩ s' → Q () s') :
    Serial (flush (.localTaskRun i.localRunId) l l') Q E s :=
  serial_flushRow h.rows.localRun (hQ _ (h.writeLocal l'))

theorem Focus.flushTask (h : Focus i b x₀ ⟨c,l,r,t⟩ s) {t' : Task}
    {Q : Unit → Stage Row → Prop} {E : Exn → Stage Row → Prop}
    (hQ : ∀ s', Focus i b x₀ ⟨c,l,r,t'⟩ s' → Q () s')
    (hp : t'.projectId = t.projectId := by rfl) :
    Serial (flush (.task i.taskId) t t') Q E s :=
  serial_flushRow h.rows.task (hQ _ (h.writeTask hp))

theorem Focus.insertAt (h : Focus i b x₀ x s) {k : Key} {row : k.Entity} (hk : k.isJournal)
    (hnone : s.current k = none) (hrow : k.isEvidence → Backs i.cloudRunId x.cloudRun k row)
    (hn : ∀ n, k.number = some n → n < s.next)
    {Q : Unit → Stage Row → Prop} {E : Exn → Stage Row → Prop}
    (hQ : ∀ s', Focus i b x₀ x s' → Q () s') : Serial (insert k row) Q E s :=
  serial_insert hnone (hQ _ (h.insertJournal hk hnone hrow hn))

theorem Focus.fresh (h : Focus i b x₀ x s) {Q : Id → Stage Row → Prop} {E : Exn → Stage Row → Prop}
    (hQ : ∀ n s', Focus i b x₀ x s' → n < s'.next → (∀ k, k.number = some n → s'.current k = none) →
      Q n s') : Serial freshId Q E s :=
  serial_fresh (hQ s.next s.bump h.bump (Nat.lt_succ_self _) fun _ hk => h.unused hk)

theorem Focus.logAt (h : Focus i b x₀ x s) {cloudRunId workspaceId : Id} {level : String}
    {event : LogEvent} {createdAt : Time} {Q : Unit → Stage Row → Prop}
    {E : Exn → Stage Row → Prop} (hQ : ∀ s', Focus i b x₀ x s' → Q () s')
    (hid : cloudRunId = i.cloudRunId := by rfl)
    (hws : workspaceId = x.cloudRun.workspaceId := by rfl) :
    Serial (appendCloudRunLogAt cloudRunId workspaceId level event createdAt) Q E s := by
  refine serial_bind (h.fresh fun n s' h' hlt hnone => ?_)
  refine h'.insertAt (k := .cloudRunLogEntry n) trivial (hnone _ rfl) (fun _ => ?_) (fun m hm => ?_) hQ
  · exact ⟨hid,congrArg some hws⟩
  · cases hm
    exact hlt

theorem Focus.log (h : Focus i b x₀ x s) {cloudRunId workspaceId : Id} {level : String}
    {event : LogEvent} {Q : Unit → Stage Row → Prop} {E : Exn → Stage Row → Prop}
    (hQ : ∀ s', Focus i b x₀ x s' → Q () s') (hid : cloudRunId = i.cloudRunId := by rfl)
    (hws : workspaceId = x.cloudRun.workspaceId := by rfl) :
    Serial (appendCloudRunLog cloudRunId workspaceId level event) Q E s :=
  serial_bind (serial_now fun _ => h.logAt hQ hid hws)

theorem Focus.event (h : Focus i b x₀ x s) {taskId : Id} {payload : TaskEventPayload}
    {createdAt : Time} {Q : Unit → Stage Row → Prop} {E : Exn → Stage Row → Prop}
    (hQ : ∀ s', Focus i b x₀ x s' → Q () s') :
    Serial (createTaskEvent taskId payload createdAt) Q E s := by
  refine serial_bind (h.fresh fun n s' h' hlt hnone => ?_)
  refine h'.insertAt (k := .taskEvent n) trivial (hnone _ rfl) (fun hk => by cases hk) (fun m hm => ?_) hQ
  cases hm
  exact hlt

theorem Focus.refreshRun (h : Focus i b x₀ ⟨c,l,r,t⟩ s) {Q : CloudRun → Stage Row → Prop}
    {E : Exn → Stage Row → Prop} (hQ : Q c s) :
    Serial (refresh (.cloudRun i.cloudRunId)) Q E s := by
  refine serial_bind (serial_get ?_)
  rw [h.rows.cloudRun]
  exact serial_pure hQ

theorem Focus.refreshLocal (h : Focus i b x₀ ⟨c,l,r,t⟩ s) {Q : LocalTaskRun → Stage Row → Prop}
    {E : Exn → Stage Row → Prop} (hQ : Q l s) :
    Serial (refresh (.localTaskRun i.localRunId)) Q E s := by
  refine serial_bind (serial_get ?_)
  rw [h.rows.localRun]
  exact serial_pure hQ

theorem Focus.getLocal (h : Focus i b x₀ ⟨c,l,r,t⟩ s) {c' : CloudRun}
    (hl : c'.localRunId = some i.localRunId) {Q : Id × LocalTaskRun → Stage Row → Prop}
    {E : Exn → Stage Row → Prop} (hQ : Q (i.localRunId,l) s) :
    Serial (getCloudRunLocalRunOr404 c') Q E s := by
  unfold getCloudRunLocalRunOr404
  rw [hl]
  refine serial_bind (serial_getOr404 (fun row hrow => ?_) fun hnone => ?_)
  · rw [h.rows.localRun] at hrow
    cases hrow
    exact serial_pure hQ
  · rw [h.rows.localRun] at hnone
    cases hnone

theorem enters_settlement {p p' : Pending Row} {w : World} {id ρ ws : Id} {usage : List UsageMeasurement}
    {now : Time} (hf : Framed (isBudget ρ ws) p w p' w)
    (hset : Settlement id c.workspaceId ρ r usage now (p.view w.db) (p'.view w.db)) :
    Enters id c (p.view w.db) (p'.view w.db) := by
  have hother (k : Key) (hk : k.isEvidence) (hno : ¬ isUsage k) : p'.view w.db k = p.view w.db k := by
    refine hf.view ?_
    rintro (rfl | rfl | hu)
    · cases hk
    · cases hk
    · exact hno hu
  refine ⟨fun k row hk hrow => ?_,fun k row hk hnone hrow => ?_⟩
  · by_cases hu : isUsage k
    · obtain ⟨n,t,rfl⟩ := hu
      exact hset.ledger.kept n t row hrow
    · exact (hother k hk hu).trans hrow
  · by_cases hu : isUsage k
    · obtain ⟨n,t,rfl⟩ := hu
      obtain ⟨hid,hws⟩ := hset.ledger.new hnone hrow
      exact ⟨hid,congrArg some hws⟩
    · cases hrow.symm.trans ((hother k hk hu).trans hnone)

theorem Focus.release (h : Focus i b x₀ ⟨c,l,r,t⟩ s) {c' : CloudRun}
    (hid : c'.budgetReservationId = some i.reservationId) (hr : r.status = .reserved)
    {Q : CloudRun → Stage Row → Prop} {E : Exn → Stage Row → Prop}
    (hQ : ∀ now s', Focus i b x₀ ⟨c,l,released r now,t⟩ s' →
      Q (releasedSummary i.reservationId r c') s') :
    Serial (releaseCloudRunReservation c') Q E s := by
  have hact : activeReservation s.current c' = some (i.reservationId,r) := by
    simp [activeReservation,reservationOf,hid,h.rows.reservation,hr,Option.filter]
  intro p w hs
  subst hs
  refine release_exact_rule (fun hnone => ?_) fun ρ r' now p' ha hf hv _ => ?_
  · cases hact.symm.trans hnone
  · cases hact.symm.trans ha
    refine hQ now _ (h.touchBudget (Framed.touched (hf.mono fun _ hk => hk.budget)) hv (.same fun k hk => ?_))
    refine hf.touched.same k ?_
    rintro (rfl | rfl) <;> cases hk

theorem Focus.settle (h : Focus i b x₀ ⟨c,l,r,t⟩ s) {c' : CloudRun}
    (hid : c'.budgetReservationId = some i.reservationId) (hr : r.status = .reserved)
    {Q : CloudRun → Stage Row → Prop} {E : Exn → Stage Row → Prop}
    (hQ : ∀ usage now s', Focus i b x₀ ⟨c,l,settled r (billableCents usage r) now,t⟩ s' →
      Q (settledSummary i.reservationId r usage c') s') (hl : c.links = c'.links := by rfl) :
    Serial (settleCloudRunBudget i.cloudRunId c') Q E s := by
  have hact : activeReservation s.current c' = some (i.reservationId,r) := by
    simp [activeReservation,reservationOf,hid,h.rows.reservation,hr,Option.filter]
  intro p w hs
  subst hs
  refine settle_exact_rule (fun hnone => ?_) fun ρ r' now p' ha hf hset => ?_
  · cases hact.symm.trans hnone
  · cases hact.symm.trans ha
    exact hQ _ now _ (h.touchBudget hf.touched hset.reservation ((enters_settlement hf hset).links hl))

end statements

end AiScdc
