import AiScdc.CloudRunner.Operations
import AiScdc.Statements

namespace AiScdc
open Transaction

inductive RunPhase where
  | busy
  | clean
  | read (cloudRunId localRunId : Id)
  | held (cloudRunId localRunId : Id)

def RunPhase.unheld : RunPhase → Prop
  | .held _ _ => False
  | _ => True

def RunPhase.near (cloudRunId : Id) : RunPhase → Prop
  | .held id _ => id = cloudRunId
  | _ => True

theorem RunPhase.unheld.near {x : RunPhase} (h : x.unheld) (cloudRunId : Id) : x.near cloudRunId := by
  cases x with
  | held id l => exact h.elim
  | _ => trivial

inductive RunEdit where
  | create | link | lease | take | drop | requeue | still | keep

structure SameAttempts (l n : CloudRun) : Prop where
  attemptCount : n.attemptCount = l.attemptCount
  maxAttempts : n.maxAttempts = l.maxAttempts

theorem sameAttempts_refl (c : CloudRun) : SameAttempts c c := ⟨rfl,rfl⟩

theorem SameAttempts.trans {a b c : CloudRun} (h : SameAttempts a b) (h' : SameAttempts b c) :
    SameAttempts a c :=
  ⟨h'.attemptCount.trans h.attemptCount,h'.maxAttempts.trans h.maxAttempts⟩

structure KeepsRun (l n : CloudRun) : Prop where
  leaseId : n.leaseId = l.leaseId
  localRunId : n.localRunId = l.localRunId
  cancelRequested : n.cancelRequested = l.cancelRequested ∨ n.cancelRequested = true
  status : n.status = .patchReady → l.status = .patchReady
  moves : n.status = l.status ∨ n.status.terminal = true
  attempts : SameAttempts l n

section keeps

variable (c : CloudRun)

theorem keepsRun_refl : KeepsRun c c :=
  ⟨rfl,rfl,Or.inl rfl,id,Or.inl rfl,sameAttempts_refl c⟩

theorem Resummed.keeps {c c' : CloudRun} (h : Resummed c c') : KeepsRun c c' := by
  obtain ⟨a,s,rfl⟩ := h
  exact ⟨rfl,rfl,Or.inl rfl,id,Or.inl rfl,rfl,rfl⟩

theorem Resummed.status {c c' : CloudRun} (h : Resummed c c') : c'.status = c.status := by
  obtain ⟨a,s,rfl⟩ := h
  rfl

theorem keeps_guarded (w hash : String) (t : Time) : KeepsRun c (c.guarded w hash t) :=
  ⟨rfl,rfl,Or.inl rfl,id,Or.inl rfl,rfl,rfl⟩

theorem keeps_queueEnqueueFailed (detail : String) (t : Time) :
    KeepsRun c (c.queueEnqueueFailed detail t) := ⟨rfl,rfl,Or.inl rfl,(fun h => by cases h),Or.inr rfl,rfl,rfl⟩

theorem keeps_enqueued (m r e : Option String) (t : Time) : KeepsRun c (c.enqueued m r e t) :=
  ⟨rfl,rfl,Or.inl rfl,id,Or.inl rfl,rfl,rfl⟩

theorem keeps_runtimeSubmissionFailed (detail : String) (t : Time) :
    KeepsRun c (c.runtimeSubmissionFailed detail t) := ⟨rfl,rfl,Or.inl rfl,(fun h => by cases h),Or.inr rfl,rfl,rfl⟩

theorem keeps_runtimeSubmitted (t : Time) (job : String) (manifest log : Option ObjectStorageRef) :
    KeepsRun c ((c.touched t).runtimeSubmitted job manifest log) := ⟨rfl,rfl,Or.inl rfl,id,Or.inl rfl,rfl,rfl⟩

theorem keeps_delivered (cloudRunId : Id) (provider : QueueProvider) (receipt : Option String)
    (leaseId : Id) (t : Time) : KeepsRun c (delivered cloudRunId c provider receipt leaseId t) := by
  unfold delivered
  split
  · exact ⟨rfl,rfl,Or.inl rfl,id,Or.inl rfl,rfl,rfl⟩
  · split
    · split
      · exact ⟨rfl,rfl,Or.inl rfl,id,Or.inl rfl,rfl,rfl⟩
      · exact keepsRun_refl c
    · exact keepsRun_refl c

theorem keeps_heartbeat (e t : Time) : KeepsRun c (c.heartbeat e t) := ⟨rfl,rfl,Or.inl rfl,id,Or.inl rfl,rfl,rfl⟩

theorem keeps_attemptsExhausted (t : Time) : KeepsRun c (c.attemptsExhausted t) :=
  ⟨rfl,rfl,Or.inl rfl,(fun h => by cases h),Or.inr rfl,rfl,rfl⟩

theorem keeps_preflightFailed (reason message : String) (t : Time) :
    KeepsRun c (c.preflightFailed reason message t) := ⟨rfl,rfl,Or.inl rfl,(fun h => by cases h),Or.inr rfl,rfl,rfl⟩

theorem keeps_cancelledAfterExecution (results : List CommandResult) (t : Time) :
    KeepsRun c (c.cancelledAfterExecution results t) := ⟨rfl,rfl,Or.inr rfl,(fun h => by cases h),Or.inr rfl,rfl,rfl⟩

theorem keeps_failedResult (results : List CommandResult) (reason : Option String) (t : Time)
    {status : ResultStatus} (h : status = .failed) :
    KeepsRun c (c.resultRecorded status none results reason t) := by
  subst h
  exact ⟨rfl,rfl,Or.inl rfl,(fun h => by cases h),Or.inr rfl,rfl,rfl⟩

theorem keeps_callbackTokenRevoked (t : Time) : KeepsRun c (c.callbackTokenRevoked t) :=
  ⟨rfl,rfl,Or.inl rfl,id,Or.inl rfl,rfl,rfl⟩

theorem keeps_mnsMessageDeleted (t : Time) : KeepsRun c (c.mnsMessageDeleted t) :=
  ⟨rfl,rfl,Or.inl rfl,id,Or.inl rfl,rfl,rfl⟩

theorem keeps_mnsMessageDeleteFailed (t : Time) : KeepsRun c (c.mnsMessageDeleteFailed t) :=
  ⟨rfl,rfl,Or.inl rfl,id,Or.inl rfl,rfl,rfl⟩

end keeps

inductive RunWhere : RunEdit → (CloudRun → Bool) → (CloudRun → CloudRun) → Prop
  | lease (workerId workerKind : String) (leaseId : Id) (leaseExpiresAt now : Time) :
      RunWhere .lease isClaimable fun c => c.leased workerId workerKind leaseId leaseExpiresAt now
  | claim (workerId : String) (now : Time) :
      RunWhere .take (fun c => c.status = .queued) fun c => c.claimed workerId now
  | cancelQueued (now : Time) :
      RunWhere .drop (fun c => c.status = .queued) fun c => c.cancelledWhileQueued now
  | askCancel (now : Time) :
      RunWhere .still (fun c => c.status = .running && c.completedAt.isNone) fun c => c.cancelAsked now

inductive RunFlush : RunEdit → CloudRun → CloudRun → Prop
  | still {l n} (h : KeepsRun l n) (hs : n.status = l.status) : RunFlush .still l n
  | keep {l n} (h : KeepsRun l n) : RunFlush .keep l n
  | link {l} (headBranch : String) (localRunId : Id) (now : Time) :
      RunFlush .link l (l.linked headBranch localRunId now)
  | requeue {l} (now : Time) : RunFlush .requeue l (l.requeued now)

def Key.isPlain : Key → Bool
  | .cloudRun _ | .patchArtifact _ | .task _ => false
  | _ => true

inductive RunUpdate (A : Id → RunEdit → Prop) :
    RunPhase → ∀ k : Key, (Row k → Bool) → (Row k → Row k) → RunPhase → Prop
  | plain {x} (k : Key) (g : Row k → Bool) (s : Row k → Row k) (h : k.isPlain) : RunUpdate A x k g s x
  | create {x} (id : Id) (row : CloudRun) (hx : x.unheld) (hA : A id .create)
      (h : row.attemptCount = 0) :
      RunUpdate A x (.cloudRun id) (fun row => row.isNone) (fun _ => some row) .busy
  | edit {x} (id : Id) {e : RunEdit} {guard : CloudRun → Bool} {values : CloudRun → CloudRun}
      (hx : x.unheld) (h : RunWhere e guard values) (hA : A id e) :
      RunUpdate A x (.cloudRun id) (fun row => row.any guard) (fun row => row.map values) .busy
  | finalization (id localRunId : Id) (now : Time) (hA : A id .keep) :
      RunUpdate A (.read id localRunId) (.cloudRun id)
        (fun row => row.any fun c => c.status = .running && c.completedAt.isNone && !c.cancelRequested)
        (fun row => row.map fun c => c.touched now) (.held id localRunId)
  | artifact (id localRunId artifactId : Id) (row : PatchArtifact) (h : row.localRunId = localRunId) :
      RunUpdate A (.held id localRunId) (.patchArtifact artifactId) (fun row => row.isNone)
        (fun _ => some row) (.held id localRunId)

inductive RunWrite (A : Id → RunEdit → Prop) :
    RunPhase → ∀ k : Key, Row k → Row k → RunPhase → Prop
  | plain {x} (k : Key) (l n : Row k) (h : k.isPlain) : RunWrite A x k l n x
  | edit {x} (id : Id) {e : RunEdit} {l n : CloudRun} (hx : x.unheld) (h : RunFlush e l n)
      (hA : A id e) : RunWrite A x (.cloudRun id) (some l) (some n) .busy
  | heldEdit (id localRunId : Id) {l n : CloudRun} (h : KeepsRun l n) (hA : A id .keep) :
      RunWrite A (.held id localRunId) (.cloudRun id) (some l) (some n) (.held id localRunId)
  | result (id localRunId : Id) {l : CloudRun} (status : ResultStatus) (artifactId : Option Id)
      (commandResults : List CommandResult) (failureReason : Option String) (now : Time)
      (hA : A id .keep) :
      RunWrite A (.held id localRunId) (.cloudRun id) (some l)
        (some (l.resultRecorded status artifactId commandResults failureReason now))
        (.held id localRunId)
  | task (id localRunId taskId : Id) (l n : Task) :
      RunWrite A (.held id localRunId) (.task taskId) (some l) (some n) (.held id localRunId)

-- A tells which runs a transaction may edit, and how.
def runCourse (A : Id → RunEdit → Prop) : Course Row RunPhase where
  learn x db _ y :=
    ∃ id localRunId c, x = .clean ∧ y = .read id localRunId ∧ db (.cloudRun id) = some c ∧
      c.localRunId = some localRunId
  number _ _ _ := False
  update := RunUpdate A
  flush := RunWrite A
  commit _ y := y = .clean
  rollback _ y := y = .clean

section reads

variable {G α : Type} {P : Course Row G} {Φ : G → Prop}

theorem obeys_refresh (k : Key) : Obeys P Φ (refresh k) := by
  refine (obeys_get k).bind fun row => ?_
  cases row with
  | none => exact .raise _
  | some row => exact .pure row

theorem obeys_getCloudRun (ctx : Option AuthContext) (id : Id) :
    Obeys P Φ (getCloudRunOr404 ctx id) :=
  (obeys_getOr404 _ _).bind fun _ => (obeys_enforce _ _ _).bind fun _ => .pure _

theorem obeys_getLocalRun (cloudRun : CloudRun) :
    Obeys P Φ (getCloudRunLocalRunOr404 cloudRun) := by
  unfold getCloudRunLocalRunOr404
  split
  · exact obeys_http _ _
  · exact (obeys_getOr404 _ _).bind fun _ => .pure _

theorem obeys_orHttp400 (check : Except String Unit) : Obeys P Φ (orHttp400 check) := by
  cases check with
  | ok u => exact .pure ()
  | error detail => exact obeys_http _ _

theorem obeys_catchHttp {m : Op α} {handler : String → Op α} (hm : Obeys P Φ m)
    (hh : ∀ detail, Obeys P Φ (handler detail)) : Obeys P Φ (catchHttp m handler) := by
  refine Obeys.tryCatch hm fun e => ?_
  cases e with
  | http statusCode detail => exact hh detail
  | integrityError => exact .throw _
  | unhandled name => exact .throw _

theorem obeys_checkExecution (ctx : Option AuthContext) (cloudRun : CloudRun)
    (replies : ProcessReplies) : Obeys P Φ (checkExecution ctx cloudRun replies) := by
  refine (obeys_getTask ctx _).bind fun _ => (obeys_getRepository ctx _).bind fun _ => ?_
  refine (obeys_getLocalRun cloudRun).bind fun _ => ?_
  split
  · split
    · exact .pure ()
    · exact obeys_http _ _
  · exact .pure ()

end reads

section statements

variable {A : Id → RunEdit → Prop} {Φ : RunPhase → Prop}

theorem unregulated {k : Key} (h : k.isPlain) : Unregulated (runCourse A) Φ k :=
  ⟨fun g s x hx => ⟨x,hx,.plain k g s h⟩,fun l n x hx => ⟨x,hx,.plain k l n h⟩⟩

theorem unregulated_budget (k : Key) (h : k.isBudget) : Unregulated (runCourse A) Φ k := by
  refine unregulated ?_
  cases k <;> first | rfl | cases h

theorem resets (h : Φ .clean) : Resets (runCourse A) Φ :=
  ⟨fun _ _ => ⟨.clean,h,rfl⟩,fun _ _ => ⟨.clean,h,rfl⟩⟩

theorem resets_unheld : Resets (runCourse A) RunPhase.unheld := resets trivial

theorem resets_near (cloudRunId : Id) : Resets (runCourse A) (RunPhase.near cloudRunId) :=
  resets trivial

theorem obeys_editRun {id : Id} {e : RunEdit} {l n : CloudRun} (h : RunFlush e l n) (hA : A id e) :
    Obeys (runCourse A) RunPhase.unheld (flush (.cloudRun id) l n) :=
  obeys_flush fun _ hx => ⟨.busy,trivial,.edit id hx h hA⟩

theorem obeys_keepRun {id : Id} {l n : CloudRun} (h : KeepsRun l n) (hA : A id .keep) :
    Obeys (runCourse A) (RunPhase.near id) (flush (.cloudRun id) l n) := by
  refine obeys_flush fun x hx => ?_
  cases x with
  | held id' localRunId =>
    have hid : id' = id := hx
    subst hid
    exact ⟨.held id' localRunId,rfl,.heldEdit id' localRunId h hA⟩
  | busy => exact ⟨.busy,trivial,.edit id trivial (.keep h) hA⟩
  | clean => exact ⟨.busy,trivial,.edit id trivial (.keep h) hA⟩
  | read => exact ⟨.busy,trivial,.edit id trivial (.keep h) hA⟩

theorem obeys_insertPlain {k : Key} {row : k.Entity} (h : k.isPlain) :
    Obeys (runCourse A) Φ (insert k row) := obeys_insert ((unregulated h).update _ _)

theorem obeys_flushPlain {k : Key} {l n : k.Entity} (h : k.isPlain) :
    Obeys (runCourse A) Φ (flush k l n) := obeys_flush ((unregulated h).flush _ _)

theorem obeys_logAt (cloudRunId workspaceId : Id) (level : String) (event : LogEvent) (t : Time) :
    Obeys (runCourse A) Φ (appendCloudRunLogAt cloudRunId workspaceId level event t) :=
  obeys_freshId.bind fun _ => obeys_insertPlain rfl

theorem obeys_log (cloudRunId workspaceId : Id) (level : String) (event : LogEvent) :
    Obeys (runCourse A) Φ (appendCloudRunLog cloudRunId workspaceId level event) :=
  obeys_utcNow.bind fun _ => obeys_logAt _ _ _ _ _

theorem obeys_taskEvent (taskId : Id) (payload : TaskEventPayload) (t : Time) :
    Obeys (runCourse A) Φ (createTaskEvent taskId payload t) :=
  obeys_freshId.bind fun _ => obeys_insertPlain rfl

end statements

end AiScdc
