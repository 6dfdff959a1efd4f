import AiScdc.CloudRunner.Reservations

namespace AiScdc
open Transaction

def sampleComplete (leaseId : Id) : CloudRunnerOp :=
  .complete sampleOwner ⟨leaseId,"worker",none,false⟩
    { status := .patchReady, runnerKind := "docker" } ⟨fun _ => .readError "",[],.deleted⟩

section representation

variable [Digest] {hist : List Event} {w : World}

theorem cloud_run_representation (h : History anyOp hist w) {id : Id} {c : CloudRun}
    (hc : w.db (.cloudRun id) = some c) :
    (c.completedAt.isSome = true ↔ c.status.terminal = true) ∧
      (∃ localRunId l, c.localRunId = some localRunId ∧
        w.db (.localTaskRun localRunId) = some l ∧ l.status = c.status ∧
        (c.status = .patchReady →
          c.patchArtifactId.isSome = true ∧ l.patchArtifactId = c.patchArtifactId) ∧
        (c.status = .cancelled → c.patchArtifactId = none ∧ l.patchArtifactId = none)) ∧
      (c.status = .queued → c.leaseId = none ∧ c.leaseExpiresAt = none ∧ c.heartbeatAt = none) ∧
      (c.leaseId.isSome = true ↔ c.leaseExpiresAt.isSome = true) := by
  obtain ⟨i,x,rfl,rfl,hat,hok⟩ := h.sound.rows hc
  have hcompleted : x.cloudRun.completedAt.isSome = x.cloudRun.status.terminal := hok.completed
  have hlease : x.cloudRun.leaseId.isSome = x.cloudRun.leaseExpiresAt.isSome := hok.lease
  have hpatch : x.localRun.patchArtifactId = x.cloudRun.patchArtifactId := hok.patch
  refine ⟨by rw [hcompleted],⟨_,x.localRun,hat.localRunId,hat.localRun,hok.localStatus,?_,?_⟩,?_,
    by rw [hlease]⟩
  · intro hready
    exact ⟨hok.ready hready,hpatch⟩
  · intro hcancelled
    have hnone : x.cloudRun.patchArtifactId = none := hok.cancelled hcancelled
    exact ⟨hnone,hpatch.trans hnone⟩
  · intro hqueued
    obtain ⟨hid,hexpires,hbeat⟩ := hok.queued hqueued
    have hexpires : x.cloudRun.leaseExpiresAt.isSome = false := hexpires
    have hbeat : x.cloudRun.heartbeatAt.isSome = false := hbeat
    exact ⟨hid,by simpa using hexpires,by simpa using hbeat⟩

end representation

def sampleCompleted : List ((ℕ → Time) × CloudRunnerOp) :=
  sampleLeased 4 ++ [(fun _ => 2,sampleComplete 10)]

theorem cloud_run_representation_patch_ready :
    ∃ c l, (samplePlay sampleCompleted).2.db (.cloudRun 7) = some c ∧ c.status = .patchReady ∧
      c.completedAt.isSome = true ∧
      (samplePlay sampleCompleted).2.db (.localTaskRun 8) = some l ∧ l.status = .patchReady ∧
      c.patchArtifactId.isSome = true ∧ l.patchArtifactId = c.patchArtifactId := by
  let _ := plainDigest
  have hrun : ((samplePlay sampleCompleted).2.db (.cloudRun 7)).any (fun c =>
      c.status = .patchReady ∧ c.localRunId = some 8) = true := by decide +kernel
  obtain ⟨c,hc,hready⟩ := (Option.any_eq_true _ _).mp hrun
  simp only [decide_eq_true_eq] at hready
  obtain ⟨hcompleted,⟨localRunId,l,hid,hl,hstatus,hpatch,_⟩,_⟩ := cloud_run_representation
    (sample_history (follows_any sampleWorld sampleCompleted)) hc
  obtain rfl := Option.some.inj (hready.2.symm.trans hid)
  obtain ⟨hsome,hsame⟩ := hpatch hready.1
  refine ⟨c,l,hc,hready.1,hcompleted.mpr ?_,hl,hstatus.trans hready.1,hsome,hsame⟩
  rw [hready.1]
  rfl

section claimable

variable {A : RunLabel → Prop}

-- A run that was asked to cancel while it ran may come back to the queue by this step alone.
theorem RunStep.uncancelled {label : RunLabel} {s s' : RunState} (h : RunStep label s s')
    (hl : label ≠ .requeue true) (hs : s.status = .queued → s.cancelRequested = false) :
    s'.status = .queued → s'.cancelRequested = false := by
  intro hq
  cases h with
  | guard h => exact hs h
  | requeue h ha =>
    cases hc : s.cancelRequested with
    | false => rfl
    | true =>
      rw [hc] at hl
      exact (hl rfl).elim
  | beat h hl => exact hs hq
  | useToken h => exact hs hq
  | askCancel h =>
    have hq : s.status = .queued := hq
    rw [h] at hq
    cases hq
  | finish status patchArtifactId h hc hp => cases status <;> cases hq
  | queueRefused h => cases hq
  | runtimeRefused h => cases hq
  | claim h => cases hq
  | lease leaseId h hc ha => cases hq
  | cancelQueued h => cases hq
  | exhaust h ha => cases hq
  | finishCancelled h hc => cases hq
  | failPreflight patchArtifactId h => cases hq

theorem RunPath.uncancelled {s s' : RunState} (h : RunPath A s s') (hA : ¬ A (.requeue true))
    (hs : s.status = .queued → s.cancelRequested = false) :
    s'.status = .queued → s'.cancelRequested = false := by
  induction h with
  | refl => exact hs
  | tail _ hstep ih =>
    obtain ⟨label,hl,hstep⟩ := hstep
    exact hstep.uncancelled (fun e => hA (e ▸ hl)) ih

def Uncancelled (db : Db) : Prop :=
  ∀ id σ, stateAt db id = some σ → σ.status = .queued → σ.cancelRequested = false

theorem Evolves.uncancelled {A : Id → RunLabel → Prop} {db db' : Db} (h : Evolves A db db')
    (hA : ∀ id, ¬ A id (.requeue true)) (hdb : Uncancelled db) : Uncancelled db' := by
  intro id σ hσ
  have hch := h id
  rw [hσ] at hch
  cases hs : stateAt db id with
  | none =>
    rw [hs] at hch
    exact hch.2.uncancelled (hA id) fun _ => rfl
  | some σ₀ =>
    rw [hs] at hch
    exact RunPath.uncancelled hch (hA id) (hdb id σ₀ hs)

variable [Digest]

-- No requeue takes back a run whose cancel was accepted and whose attempts are not used up.
def noCancelledRequeue (w : World) (clock : ℕ → Time) : CloudRunnerOp → Prop
  | .requeue provider limit => ∀ e ∈ takenBack w.db w.next provider limit (clock 0),
      e.cloudRun.attemptCount < e.cloudRun.maxAttempts → e.cloudRun.cancelRequested = false
  | _ => True

omit [Digest] in
theorem noCancelledRequeue_allows {w : World} {clock : ℕ → Time} {o : CloudRunnerOp}
    (h : noCancelledRequeue w clock o) (statusCode : ℕ) (id : Id) :
    ¬ o.allows w (clock 0) statusCode id (.requeue true) := by
  intro hA
  cases o with
  | requeue provider limit =>
    obtain ⟨e,he,_,hl | ⟨hl,ha⟩⟩ := hA
    · cases hl
    · have hc := h e he ha
      simp [hc] at hl
  | claim req => cases hA
  | heartbeat cred leaseSeconds => cases hA
  | cancel ctx cloudRunId => rcases hA.2 with hl | hl <;> cases hl
  | complete ctx cred body replies => rcases hA with hl | hl | hl <;> cases hl
  | process ctx cloudRunId workerId replies => rcases hA.2 with hl | hl | hl | hl <;> cases hl
  | enqueue ctx taskId data replies =>
    rcases hA.2 with (hl | hl) | ⟨hl,_⟩ | ⟨hl,_⟩ <;> cases hl

theorem History.uncancelled {hist : List Event} {w : World} (h : History noCancelledRequeue hist w) :
    Uncancelled w.db := by
  induction h with
  | start h =>
    intro id σ hσ
    rw [stateAt_none (h.runs (.cloudRun id) trivial)] at hσ
    cases hσ
  | op clock o hh hc ih =>
    exact (operation_leads hh.sound clock o).evolves.uncancelled
      (noCancelledRequeue_allows hc _) ih
  | between _ hb ih =>
    intro id σ hσ
    rw [hb.stateAt] at hσ
    exact ih id σ hσ

theorem queued_runs_claimable {hist : List Event} {w : World} (h : History noCancelledRequeue hist w)
    {id : Id} {c : CloudRun} (hc : w.db (.cloudRun id) = some c) (hq : c.status = .queued) :
    isClaimable c = true := by
  obtain ⟨i,x,rfl,rfl,hat,hok⟩ := h.sound.rows hc
  have hcancel : x.cloudRun.cancelRequested = false := h.uncancelled _ _ hat.stateAt hq
  have hattempts : x.cloudRun.attemptCount < x.cloudRun.maxAttempts := hok.attempts hq
  simp [isClaimable,hq,hcancel,hattempts]

end claimable

def sampleRequeued : List ((ℕ → Time) × CloudRunnerOp) :=
  sampleLeased 4 ++ [(fun _ => 100000000,.requeue .localDb 10)]

theorem queued_runs_claimable_requeued :
    ((samplePlay sampleRequeued).2.db (.cloudRun 7)).any (fun c => isClaimable c) = true := by
  let _ := plainDigest
  have hfollows : Follows noCancelledRequeue sampleWorld sampleRequeued := by
    have hleased : Follows noCancelledRequeue sampleWorld (sampleLeased 4) := ⟨trivial,trivial,trivial⟩
    refine hleased.snoc ?_
    have hall : (takenBack (playOps sampleWorld (sampleLeased 4)).2.db
        (playOps sampleWorld (sampleLeased 4)).2.next .localDb 10 100000000).all (fun e =>
          e.cloudRun.cancelRequested = false) = true := by decide +kernel
    intro e he _
    exact of_decide_eq_true (List.all_eq_true.mp hall e he)
  have hrun : ((samplePlay sampleRequeued).2.db (.cloudRun 7)).any (fun c =>
      c.status = .queued) = true := by decide +kernel
  obtain ⟨c,hc,hq⟩ := (Option.any_eq_true _ _).mp hrun
  exact (Option.any_eq_true _ _).mpr
    ⟨c,hc,queued_runs_claimable (sample_history hfollows) hc (of_decide_eq_true hq)⟩

def sampleAbandoned : List ((ℕ → Time) × CloudRunnerOp) :=
  sampleLeased 4 ++ [(fun _ => 2,.cancel sampleOwner 7),(fun _ => 100000000,.requeue .localDb 10)]

-- The cancel is accepted while the run is leased, and then its worker vanishes.
theorem abandoned_run_unclaimable :
    @History plainDigest anyOp (samplePlay sampleAbandoned).1 (samplePlay sampleAbandoned).2 ∧
      ∃ c, (samplePlay sampleAbandoned).2.db (.cloudRun 7) = some c ∧ c.status = .queued ∧
        c.cancelRequested = true ∧ isClaimable c = false := by
  refine ⟨sample_history (@follows_any plainDigest sampleWorld sampleAbandoned),?_⟩
  have hrun : ((samplePlay sampleAbandoned).2.db (.cloudRun 7)).any (fun c =>
      c.status = .queued ∧ c.cancelRequested = true) = true := by decide +kernel
  obtain ⟨c,hc,hq⟩ := (Option.any_eq_true _ _).mp hrun
  simp only [decide_eq_true_eq] at hq
  refine ⟨c,hc,hq.1,hq.2,?_⟩
  simp [isClaimable,hq.2]

end AiScdc
