import AiScdc.CloudRunner.Rows
import Mathlib.Logic.Relation

namespace AiScdc

-- The part of a cloud run, its local run and its reservation that decides what may happen next.
structure RunState where
  status : RunStatus
  completed : Bool
  cancelRequested : Bool
  attemptCount : ℕ
  maxAttempts : ℕ
  leaseId : Option Id
  leaseExpires : Bool
  heartbeat : Bool
  patchArtifactId : Option Id
  tokenHash : Bool
  tokenUsed : Bool
  localStatus : RunStatus
  localPatch : Option Id
  reservation : BudgetReservationStatus
  deriving DecidableEq, Repr

def runState (c : CloudRun) (l : LocalTaskRun) (r : BudgetReservation) : RunState where
  status := c.status
  completed := c.completedAt.isSome
  cancelRequested := c.cancelRequested
  attemptCount := c.attemptCount
  maxAttempts := c.maxAttempts
  leaseId := c.leaseId
  leaseExpires := c.leaseExpiresAt.isSome
  heartbeat := c.heartbeatAt.isSome
  patchArtifactId := c.patchArtifactId
  tokenHash := c.callbackTokenHash.isSome
  tokenUsed := c.callbackTokenUsedAt.isSome
  localStatus := l.status
  localPatch := l.patchArtifactId
  reservation := r.status

inductive RunLabel where
  | create | guard | queueRefused | runtimeRefused | claim | lease | beat | askCancel | cancelQueued
  | requeue (cancelRequested : Bool) | exhaust | useToken | finish | finishCancelled | failPreflight
  deriving DecidableEq, Repr

def RunLabel.releases : RunLabel → Bool
  | .queueRefused | .cancelQueued => true
  | _ => false

def RunLabel.ends : RunLabel → Bool
  | .queueRefused | .runtimeRefused | .cancelQueued | .exhaust | .finish | .finishCancelled
  | .failPreflight => true
  | _ => false

namespace RunState

def fresh (maxAttempts : ℕ) : RunState where
  status := .queued
  completed := false
  cancelRequested := false
  attemptCount := 0
  maxAttempts := maxAttempts
  leaseId := none
  leaseExpires := false
  heartbeat := false
  patchArtifactId := none
  tokenHash := false
  tokenUsed := false
  localStatus := .queued
  localPatch := none
  reservation := .reserved

def ended (s : RunState) (status : RunStatus) (reservation : BudgetReservationStatus) : RunState :=
  { s with status, completed := true, localStatus := status, reservation }

def patched (s : RunState) (patchArtifactId : Option Id) : RunState :=
  { s with
    patchArtifactId := patchArtifactId.or s.patchArtifactId
    localPatch := patchArtifactId.or s.localPatch }

end RunState

inductive RunStep : RunLabel → RunState → RunState → Prop
  | guard {s} (h : s.status = .queued) :
      RunStep .guard s { s with tokenHash := true, tokenUsed := false }
  | queueRefused {s} (h : s.status = .queued) : RunStep .queueRefused s (s.ended .failed .released)
  | runtimeRefused {s} (h : s.status = .queued) :
      RunStep .runtimeRefused s (s.ended .failed .settled)
  | claim {s} (h : s.status = .queued) :
      RunStep .claim s { s with status := .running, localStatus := .running }
  | lease {s} (leaseId : Id) (h : s.status = .queued) (hc : s.cancelRequested = false)
      (ha : s.attemptCount < s.maxAttempts) :
      RunStep .lease s { s with
        status := .running, localStatus := .running, leaseId := some leaseId
        leaseExpires := true, heartbeat := true, attemptCount := s.attemptCount + 1 }
  | beat {s} (h : s.status = .running) (hl : s.leaseId.isSome) :
      RunStep .beat s { s with leaseExpires := true, heartbeat := true }
  | askCancel {s} (h : s.status = .running) : RunStep .askCancel s { s with cancelRequested := true }
  | cancelQueued {s} (h : s.status = .queued) :
      RunStep .cancelQueued s { s.ended .cancelled .released with
        cancelRequested := true, tokenUsed := s.tokenUsed || s.tokenHash }
  | requeue {s} (h : s.status = .running) (ha : s.attemptCount < s.maxAttempts) :
      RunStep (.requeue s.cancelRequested) s { s with
        status := .queued, localStatus := .queued, leaseId := none, leaseExpires := false
        heartbeat := false }
  | exhaust {s} (h : s.status = .running) (ha : s.maxAttempts ≤ s.attemptCount) :
      RunStep .exhaust s (s.ended .failed .settled)
  | useToken {s} (h : s.status = .running) :
      RunStep .useToken s { s with tokenUsed := s.tokenUsed || s.tokenHash }
  | finish {s} (status : ResultStatus) (patchArtifactId : Option Id) (h : s.status = .running)
      (hc : s.cancelRequested = false) (hp : status = .patchReady → patchArtifactId.isSome) :
      RunStep .finish s ((s.ended status.runStatus .settled).patched patchArtifactId)
  | finishCancelled {s} (h : s.status = .running) (hc : s.cancelRequested = true) :
      RunStep .finishCancelled s { s.ended .cancelled .settled with
        patchArtifactId := none, localPatch := none, tokenUsed := s.tokenUsed || s.tokenHash }
  | failPreflight {s} (patchArtifactId : Option Id) (h : s.status = .running) :
      RunStep .failPreflight s ((s.ended .failed .settled).patched patchArtifactId)

structure RunOk (s : RunState) : Prop where
  completed : s.completed = s.status.terminal
  localStatus : s.localStatus = s.status
  reservation : s.reservation = .reserved ↔ s.status.terminal = false
  queued : s.status = .queued → s.leaseId = none ∧ s.leaseExpires = false ∧ s.heartbeat = false
  lease : s.leaseId.isSome = s.leaseExpires
  patch : s.localPatch = s.patchArtifactId
  unended : s.status.terminal = false → s.patchArtifactId = none
  ready : s.status = .patchReady → s.patchArtifactId.isSome
  cancelled : s.status = .cancelled → s.patchArtifactId = none
  attempts : s.status = .queued → s.attemptCount < s.maxAttempts

theorem runOk_fresh {maxAttempts : ℕ} (h : 0 < maxAttempts) : RunOk (.fresh maxAttempts) := by
  constructor <;> simp [RunState.fresh,RunStatus.terminal,h]

@[simp] theorem ResultStatus.runStatus_terminal (status : ResultStatus) :
    status.runStatus.terminal = true := by
  cases status <;> rfl

theorem RunStep.alive {label : RunLabel} {s s' : RunState} (h : RunStep label s s') :
    s.status.terminal = false := by
  cases h <;> rename_i h <;> simp_all [RunStatus.terminal]

theorem RunStep.ok {label : RunLabel} {s s' : RunState} (h : RunStep label s s') (hs : RunOk s) :
    RunOk s' := by
  have hnone := hs.unended h.alive
  have hpatch := hs.patch
  have hlease := hs.lease
  have hcompleted := hs.completed
  have halive := h.alive
  cases h with
  | guard h =>
    exact ⟨hs.completed,hs.localStatus,hs.reservation,hs.queued,hs.lease,hs.patch,hs.unended,
      hs.ready,hs.cancelled,hs.attempts⟩
  | beat h hl =>
    refine ⟨hs.completed,hs.localStatus,hs.reservation,fun hq => ?_,hl,hs.patch,hs.unended,
      hs.ready,hs.cancelled,hs.attempts⟩
    simp [h] at hq
  | askCancel h =>
    exact ⟨hs.completed,hs.localStatus,hs.reservation,hs.queued,hs.lease,hs.patch,hs.unended,
      hs.ready,hs.cancelled,hs.attempts⟩
  | useToken h =>
    exact ⟨hs.completed,hs.localStatus,hs.reservation,hs.queued,hs.lease,hs.patch,hs.unended,
      hs.ready,hs.cancelled,hs.attempts⟩
  | finish status patchArtifactId h hc hp =>
    cases status <;> constructor <;>
      simp_all [RunState.ended,RunState.patched,RunStatus.terminal,ResultStatus.runStatus]
  | requeue h ha =>
    have hres := hs.reservation
    constructor <;> simp_all [RunStatus.terminal]
  | claim h =>
    have hres := hs.reservation
    constructor <;> simp_all [RunStatus.terminal]
  | lease leaseId h hc ha =>
    have hres := hs.reservation
    constructor <;> simp_all [RunStatus.terminal]
  | queueRefused h => constructor <;> simp_all [RunState.ended,RunStatus.terminal]
  | runtimeRefused h => constructor <;> simp_all [RunState.ended,RunStatus.terminal]
  | cancelQueued h => constructor <;> simp_all [RunState.ended,RunStatus.terminal]
  | exhaust h ha => constructor <;> simp_all [RunState.ended,RunStatus.terminal]
  | finishCancelled h hc => constructor <;> simp_all [RunState.ended,RunStatus.terminal]
  | failPreflight patchArtifactId h =>
    constructor <;> simp_all [RunState.ended,RunState.patched,RunStatus.terminal]

theorem RunStep.ends {label : RunLabel} {s s' : RunState} (h : RunStep label s s') :
    s'.status.terminal = label.ends := by
  have halive := h.alive
  cases h with
  | finish status patchArtifactId h hc hp => exact ResultStatus.runStatus_terminal status
  | guard h => exact halive
  | beat h hl => exact halive
  | askCancel h => exact halive
  | useToken h => exact halive
  | queueRefused h => rfl
  | runtimeRefused h => rfl
  | cancelQueued h => rfl
  | exhaust h ha => rfl
  | finishCancelled h hc => rfl
  | failPreflight patchArtifactId h => rfl
  | requeue h ha => rfl
  | claim h => rfl
  | lease leaseId h hc ha => rfl

theorem RunStep.ending {label : RunLabel} {s s' : RunState} (h : RunStep label s s')
    (ht : s'.status.terminal = true) :
    s'.reservation = if label.releases then .released else .settled := by
  rw [h.ends] at ht
  cases h <;> first | rfl | cases ht

def RunMoves (allowed : RunLabel → Prop) (s s' : RunState) : Prop :=
  ∃ label, allowed label ∧ RunStep label s s'

abbrev RunPath (allowed : RunLabel → Prop) : RunState → RunState → Prop :=
  Relation.ReflTransGen (RunMoves allowed)

section paths

variable {A B : RunLabel → Prop} {s s' : RunState}

theorem RunPath.single {label : RunLabel} (hA : A label) (h : RunStep label s s') :
    RunPath A s s' := Relation.ReflTransGen.single ⟨label,hA,h⟩

theorem RunPath.weaken (h : RunPath A s s') (hAB : ∀ label, A label → B label) : RunPath B s s' :=
  Relation.ReflTransGen.mono (fun _ _ ⟨label,hA,hs⟩ => ⟨label,hAB label hA,hs⟩) _ _ h

theorem RunPath.ok (h : RunPath A s s') (hs : RunOk s) : RunOk s' := by
  induction h with
  | refl => exact hs
  | tail _ hstep ih =>
    obtain ⟨label,_,hstep⟩ := hstep
    exact hstep.ok ih

theorem RunPath.stuck (h : RunPath A s s') (ht : s.status.terminal = true) : s' = s := by
  induction h with
  | refl => rfl
  | tail _ hstep ih =>
    obtain ⟨label,_,hstep⟩ := hstep
    have halive := hstep.alive
    rw [ih,ht] at halive
    cases halive

-- The run ended on the way, by a step that the path allows.
theorem RunPath.ending (h : RunPath A s s') (hs : s.status.terminal = false)
    (ht : s'.status.terminal = true) : ∃ label s₁, A label ∧ RunPath A s s₁ ∧
      RunStep label s₁ s' ∧ s'.reservation = if label.releases then .released else .settled := by
  cases h with
  | refl =>
    rw [hs] at ht
    cases ht
  | tail hpath hstep =>
    obtain ⟨label,hA,hstep⟩ := hstep
    exact ⟨label,_,hA,hpath,hstep,hstep.ending ht⟩

end paths

end AiScdc
