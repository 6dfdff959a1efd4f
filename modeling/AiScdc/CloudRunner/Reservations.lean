import AiScdc.CloudRunner.History

namespace AiScdc
open Transaction

def hasLeft (db : Db) (reservationId : Id) : Bool :=
  (db (.budgetReservation reservationId)).any fun r => r.status ≠ .reserved

def Event.leaves (e : Event) (reservationId : Id) : Bool :=
  !hasLeft e.before reservationId && hasLeft e.after reservationId

-- The endings that give the credit back: a refused queue message, and a cancel while queued.
def Event.releases (e : Event) (cloudRunId : Id) : Bool :=
  match e.op with
  | .enqueue _ _ _ _ => statusCode e.outcome = 502
  | .cancel _ cancelledId => cancelledId = cloudRunId &&
      (e.before (.cloudRun cloudRunId)).any fun c => c.status = .queued
  | _ => false

variable {w w' : World} {A : Id → RunLabel → Prop}

theorem hasLeft_iff {db : Db} {ρ : Id} : hasLeft db ρ = true ↔
    ∃ r, db (.budgetReservation ρ) = some r ∧ r.status ≠ .reserved := by
  simp [hasLeft,Option.any_eq_true]

theorem RunOk.left {db : Db} {i : RunIds} {x : RunRows} (hok : RunOk x.state) (hat : RunAt db i x) :
    hasLeft db i.reservationId = x.state.status.terminal := by
  have hres : x.reservation.status = .reserved ↔ x.state.status.terminal = false := hok.reservation
  simp only [hasLeft,hat.reservation,Option.any_some]
  cases hterm : x.state.status.terminal with
  | false => simp [hres.mpr hterm]
  | true =>
    have hne : x.reservation.status ≠ .reserved := by
      intro e
      rw [hres.mp e] at hterm
      cases hterm
    simp [hne]

theorem Sound.rows (h : Sound w) {id : Id} {c : CloudRun} (hc : w.db (.cloudRun id) = some c) :
    ∃ i x, i.cloudRunId = id ∧ x.cloudRun = c ∧ RunAt w.db i x ∧ RunOk x.state := by
  obtain ⟨i,x,hi,hx,hat,_⟩ := h.linked.rows id c hc
  exact ⟨i,x,hi,hx,hat,h.ok _ _ hat.stateAt⟩

-- A run keeps its reservation, and its state goes a path that A allows.
theorem Leads.follow (h : Leads A w w') {i : RunIds} {x : RunRows} (hat : RunAt w.db i x) :
    ∃ i' x', i'.cloudRunId = i.cloudRunId ∧ i'.reservationId = i.reservationId ∧
      RunAt w'.db i' x' ∧ RunOk x'.state ∧ RunPath (A i.cloudRunId) x.state x'.state := by
  obtain ⟨c',hc',hl⟩ := h.keeps.links _ _ hat.cloudRun
  obtain ⟨i',x',hi',rfl,hat',hok'⟩ := h.sound.rows hc'
  have hres : x'.cloudRun.budgetReservationId = x.cloudRun.budgetReservationId :=
    congrArg (·.2.2.2.2) hl
  rw [hat'.reservationId,hat.reservationId] at hres
  have hpath := h.evolves i.cloudRunId
  rw [hat.stateAt,← hi',hat'.stateAt,hi'] at hpath
  exact ⟨i',x',hi',Option.some.inj hres,hat',hok',hpath⟩

theorem Leads.settledStays (h : Leads A w w') (hw : Sound w) {ρ : Id} {r : BudgetReservation}
    (hr : w.db (.budgetReservation ρ) = some r) (hleft : r.status ≠ .reserved) :
    ∃ id c r', w.db (.cloudRun id) = some c ∧ c.budgetReservationId = some ρ ∧
      w'.db (.budgetReservation ρ) = some r' ∧ r'.status = r.status := by
  obtain ⟨id,c,hc,hρ⟩ := hw.linked.attached ρ r hr
  obtain ⟨i,x,rfl,rfl,hat,hok⟩ := hw.rows hc
  rw [hat.reservationId] at hρ
  obtain rfl := Option.some.inj hρ
  obtain ⟨i',x',hi',hres,hat',hok',hpath⟩ := h.follow hat
  have hrow := hat.reservation.symm.trans hr
  have hterm : x.state.status.terminal = true := by
    rw [← hok.left hat,hasLeft_iff]
    exact ⟨r,hr,hleft⟩
  have hstuck := hpath.stuck hterm
  refine ⟨_,_,x'.reservation,hat.cloudRun,hat.reservationId,?_,?_⟩
  · rw [← hres]
    exact hat'.reservation
  · have hst : x'.reservation.status = x.reservation.status := congrArg RunState.reservation hstuck
    rw [hst,Option.some.inj hrow]

-- The step by which a run ends, seen from the end of the operation.
theorem Leads.ending (h : Leads A w w') (hw : Sound w) {i : RunIds} {x : RunRows}
    (hat : RunAt w'.db i x) (hnot : hasLeft w.db i.reservationId = false)
    (hterm : x.state.status.terminal = true) :
    ∃ label σ₀ σ₁, (stateAt w.db i.cloudRunId = some σ₀ ∨
        (stateAt w.db i.cloudRunId = none ∧ A i.cloudRunId .create)) ∧
      A i.cloudRunId label ∧ RunPath (A i.cloudRunId) σ₀ σ₁ ∧ RunStep label σ₁ x.state ∧
      x.reservation.status = if label.releases then .released else .settled := by
  have hch := h.evolves i.cloudRunId
  rw [hat.stateAt] at hch
  cases hs : stateAt w.db i.cloudRunId with
  | none =>
    rw [hs] at hch
    obtain ⟨label,σ₁,hA,hpath,hstep,hres⟩ := hch.2.ending rfl hterm
    exact ⟨label,_,σ₁,Or.inr ⟨rfl,hch.1⟩,hA,hpath,hstep,hres⟩
  | some σ₀ =>
    rw [hs] at hch
    obtain ⟨j,y,hj,hat₀,rfl⟩ := hw.linked.stateAt_some hs
    obtain ⟨i',x',hi',hres',hat',_,_⟩ := h.follow hat₀
    have hrun := hat'.cloudRun
    rw [hi',hj,hat.cloudRun] at hrun
    have hsame := hat'.reservationId
    rw [← Option.some.inj hrun,hat.reservationId,hres'] at hsame
    rw [Option.some.inj hsame,(hw.ok _ _ hat₀.stateAt).left hat₀] at hnot
    obtain ⟨label,σ₁,hA,hpath,hstep,hres⟩ := RunPath.ending hch hnot hterm
    exact ⟨label,_,σ₁,Or.inl rfl,hA,hpath,hstep,hres⟩

theorem cancel_path {A : RunLabel → Prop}
    (hA : ∀ label, A label → label = .askCancel ∨ label = .cancelQueued) {σ₀ σ₁ : RunState}
    (h : RunPath A σ₀ σ₁) (hq : σ₁.status = .queued) : σ₀ = σ₁ := by
  cases h with
  | refl => rfl
  | tail _ hstep =>
    obtain ⟨label,hl,hstep⟩ := hstep
    rcases hA label hl with rfl | rfl
    · cases hstep with
      | askCancel hrun => simp [hrun] at hq
    · cases hstep with
      | cancelQueued _ => simp [RunState.ended] at hq

section histories

variable [Digest] {hist : List Event}

-- The label of the ending step and the record of the operation agree on the release.
theorem released_iff {clock : ℕ → Time} {o : CloudRunnerOp} (hw : Sound w) {i : RunIds} {x : RunRows}
    (hat : RunAt (perform clock o.program w).2.db i x)
    (hnot : hasLeft w.db i.reservationId = false) (hterm : x.state.status.terminal = true) :
    x.reservation.status =
      if (occurrence clock o w).releases i.cloudRunId then .released else .settled := by
  have hlead := operation_leads hw clock o
  obtain ⟨label,σ₀,σ₁,hstart,hA,hpath,hstep,hres⟩ := hlead.ending hw hat hnot hterm
  rw [hres]
  have hends : label.ends = true := hstep.ends.symm.trans hterm
  suffices h : label.releases = (occurrence clock o w).releases i.cloudRunId by rw [h]
  cases o with
  | claim req =>
    obtain rfl : label = .lease := hA
    rfl
  | heartbeat cred leaseSeconds =>
    obtain rfl : label = .beat := hA
    rfl
  | requeue provider limit =>
    obtain ⟨e,_,_,rfl | ⟨rfl,_⟩⟩ := hA
    · rfl
    · rfl
  | complete ctx cred body replies => rcases hA with rfl | rfl | rfl <;> rfl
  | process ctx cloudRunId workerId replies => rcases hA.2 with rfl | rfl | rfl | rfl <;> rfl
  | enqueue ctx taskId data replies =>
    rcases hA.2 with (rfl | rfl) | ⟨rfl,hcode⟩ | ⟨rfl,hcode⟩
    · cases hends
    · cases hends
    · simp [RunLabel.releases,Event.releases,occurrence,hcode]
    · simp [RunLabel.releases,Event.releases,occurrence,hcode]
  | cancel ctx cloudRunId =>
    obtain ⟨rfl,rfl | rfl⟩ := hA
    · cases hends
    · rcases hstart with hs | ⟨_,_,hcreate | hcreate⟩
      · have hq : σ₁.status = .queued := by
          generalize x.state = σ at hstep
          cases hstep with
          | cancelQueued h => exact h
        have hsame := cancel_path (fun label hl => hl.2) hpath hq
        obtain ⟨j,y,hj,hat₀,hy⟩ := hw.linked.stateAt_some hs
        have hqueued : y.cloudRun.status = .queued := by
          rw [← hsame,← hy] at hq
          exact hq
        have hrun := hat₀.cloudRun
        rw [hj] at hrun
        simp [RunLabel.releases,Event.releases,occurrence,hrun,hqueued]
      · cases hcreate
      · cases hcreate

theorem History.leaves_once {C : World → (ℕ → Time) → CloudRunnerOp → Prop} (h : History C hist w)
    (ρ : Id) : hist.countP (fun e => e.leaves ρ) = if hasLeft w.db ρ then 1 else 0 := by
  induction h with
  | start h => simp [hasLeft,h.runs (.budgetReservation ρ) trivial]
  | between _ hb ih => simpa [hasLeft,hb.reservation] using ih
  | @op hist w clock o hh _ ih =>
    rw [List.countP_append,ih]
    have hstay : hasLeft w.db ρ = true → hasLeft (perform clock o.program w).2.db ρ = true := by
      intro hleft
      obtain ⟨r,hr,hne⟩ := hasLeft_iff.mp hleft
      obtain ⟨_,_,r',_,_,hr',hst⟩ := (operation_leads hh.sound clock o).settledStays hh.sound hr hne
      exact hasLeft_iff.mpr ⟨r',hr',hst ▸ hne⟩
    cases hbefore : hasLeft w.db ρ with
    | true => simp [Event.leaves,occurrence,hbefore,hstay hbefore]
    | false => simp [Event.leaves,occurrence,hbefore]

theorem History.leaves_by {C : World → (ℕ → Time) → CloudRunnerOp → Prop} (h : History C hist w)
    {id ρ : Id} {c : CloudRun} {r : BudgetReservation} (hc : w.db (.cloudRun id) = some c)
    (hρ : c.budgetReservationId = some ρ) (hr : w.db (.budgetReservation ρ) = some r)
    (hleft : r.status ≠ .reserved) :
    ∃ e ∈ hist, e.leaves ρ = true ∧ r.status = if e.releases id then .released else .settled := by
  induction h generalizing c r with
  | start h =>
    rw [h.runs (.cloudRun id) trivial] at hc
    cases hc
  | between _ hb ih =>
    rw [hb.run] at hc
    rw [hb.reservation] at hr
    exact ih hc hρ hr hleft
  | @op hist w clock o hh _ ih =>
    have hlead := operation_leads hh.sound clock o
    have hafter : hasLeft (perform clock o.program w).2.db ρ = true := hasLeft_iff.mpr ⟨r,hr,hleft⟩
    cases hbefore : hasLeft w.db ρ with
    | true =>
      obtain ⟨r₀,hr₀,hne⟩ := hasLeft_iff.mp hbefore
      obtain ⟨id₀,c₀,r',hc₀,hρ₀,hr',hst⟩ := hlead.settledStays hh.sound hr₀ hne
      obtain ⟨c',hc',hl⟩ := hlead.keeps.links id₀ c₀ hc₀
      have hρ' : c'.budgetReservationId = c₀.budgetReservationId := congrArg (·.2.2.2.2) hl
      have hid : id₀ = id := hlead.sound.linked.reservations id₀ id c' c hc' hc (by rw [hρ',hρ₀,hρ])
      subst hid
      have hsame := Option.some.inj (hr.symm.trans hr')
      obtain ⟨e,he,hleaves,hrel⟩ := ih hc₀ hρ₀ hr₀ hne
      exact ⟨e,List.mem_append_left _ he,hleaves,by rw [hsame,hst,hrel]⟩
    | false =>
      obtain ⟨i,x,rfl,rfl,hat,hok⟩ := hlead.sound.rows hc
      rw [hat.reservationId] at hρ
      obtain rfl := Option.some.inj hρ
      obtain rfl := Option.some.inj (hat.reservation.symm.trans hr)
      rw [hok.left hat] at hafter
      refine ⟨_,List.mem_append_right _ List.mem_cons_self,?_,
        released_iff hh.sound hat hbefore hafter⟩
      simp [Event.leaves,occurrence,hbefore,hok.left hat,hafter]

theorem run_and_reservation_end_together (h : History anyOp hist w) {id ρ : Id} {c : CloudRun}
    (hc : w.db (.cloudRun id) = some c) (hρ : c.budgetReservationId = some ρ) :
    ∃ r, w.db (.budgetReservation ρ) = some r ∧
      (c.status.terminal = true ↔ r.status ≠ .reserved) ∧
      hist.countP (fun e => e.leaves ρ) = (if c.status.terminal then 1 else 0) ∧
      (c.status.terminal = true → ∃ e ∈ hist, e.leaves ρ = true ∧
        r.status = if e.releases id then .released else .settled) := by
  obtain ⟨i,x,rfl,rfl,hat,hok⟩ := h.sound.rows hc
  rw [hat.reservationId] at hρ
  obtain rfl := Option.some.inj hρ
  have hends : x.cloudRun.status.terminal = true ↔ x.reservation.status ≠ .reserved := by
    have hres : x.reservation.status = .reserved ↔ x.cloudRun.status.terminal = false :=
      hok.reservation
    rw [ne_eq,hres,Bool.not_eq_false]
  refine ⟨x.reservation,hat.reservation,hends,?_,fun hterm => ?_⟩
  · rw [h.leaves_once,hok.left hat]
    rfl
  · exact h.leaves_by hc hat.reservationId hat.reservation (hends.mp hterm)

end histories

def sampleCancelled : List ((ℕ → Time) × CloudRunnerOp) :=
  [(fun _ => 0,sampleEnqueue 4),(fun _ => 1,.cancel sampleOwner 7)]

theorem run_and_reservation_end_together_cancelled :
    ∃ r, (samplePlay sampleCancelled).2.db (.budgetReservation 6) = some r ∧
      (samplePlay sampleCancelled).1.countP (fun e => e.leaves 6) = 1 ∧
      ∃ e ∈ (samplePlay sampleCancelled).1, e.leaves 6 = true ∧
        r.status = if e.releases 7 then .released else .settled := by
  let _ := plainDigest
  have hrun : ((samplePlay sampleCancelled).2.db (.cloudRun 7)).any (fun c =>
      c.status = .cancelled ∧ c.budgetReservationId = some 6) = true := by decide +kernel
  obtain ⟨c,hc,hstatus⟩ := (Option.any_eq_true _ _).mp hrun
  simp only [decide_eq_true_eq] at hstatus
  have hterm : c.status.terminal = true := by
    rw [hstatus.1]
    rfl
  obtain ⟨r,hr,_,hcount,hend⟩ := run_and_reservation_end_together
    (sample_history (follows_any sampleWorld sampleCancelled)) hc hstatus.2
  rw [if_pos hterm] at hcount
  exact ⟨r,hr,hcount,hend hterm⟩

end AiScdc
