import AiScdc.CloudRunner.EnqueueSteps

namespace AiScdc
open Transaction

inductive CloudRunnerOp where
  | enqueue (ctx : Option AuthContext) (taskId : Id) (data : CloudRunCreate) (replies : EnqueueReplies)
  | claim (req : ClaimRequest)
  | heartbeat (cred : LeaseCredentials) (leaseSeconds : ℕ)
  | cancel (ctx : Option AuthContext) (cloudRunId : Id)
  | requeue (provider : QueueProvider) (limit : ℕ)
  | complete (ctx : Option AuthContext) (cred : LeaseCredentials)
      (body : CloudRunExecutionResultCreate) (replies : CompletionReplies)
  | process (ctx : Option AuthContext) (cloudRunId : Id) (workerId : String) (replies : ProcessReplies)

def discard {α : Type} (m : Op α) : Op Unit := do
  let _ ← m
  pure ()

def statusCode : Except Exn Unit → ℕ
  | .ok _ => 200
  | .error e => e.statusCode

structure Event where
  op : CloudRunnerOp
  outcome : Except Exn Unit
  before : Db
  after : Db

-- What an operation may do to a run, given the world it starts in, the first clock reading and
-- the status code of its answer.
def CloudRunnerOp.allows (w : World) (now : Time) (statusCode : ℕ) :
    CloudRunnerOp → Id → RunLabel → Prop
  | .enqueue _ _ _ _ => Enqueues (Stage.start w) statusCode
  | .claim _ => Leases
  | .heartbeat _ _ => Beats
  | .cancel _ cloudRunId => Cancels cloudRunId
  | .requeue provider limit => Requeues (takenBack w.db w.next provider limit now)
  | .complete _ _ _ _ => fun _ label => Completes label
  | .process _ cloudRunId _ _ => fun id label => id = cloudRunId ∧ Processes label

structure Sound (w : World) : Prop where
  linked : Linked w.db
  ok : ∀ id σ, stateAt w.db id = some σ → RunOk σ
  unused : ∀ k n, k.number = some n → w.next ≤ n → w.db k = none
  tenanted : Tenanted w.db

theorem Sound.ready {w : World} (h : Sound w) : Ready (Stage.start w) :=
  ⟨rfl,h.linked,h.ok,⟨fun k n hk hle => ⟨h.unused k n hk hle,h.unused k n hk hle⟩⟩⟩

theorem Keeps.tenanted {db db' : Db} (h : Keeps db db') (ht : Tenanted db) : Tenanted db' := by
  intro repoId repository p hrepo hp
  rw [h.tenant (.repository repoId) trivial] at hrepo
  rw [h.tenant (.project repository.projectId) trivial] at hp
  exact ht repoId repository p hrepo hp

structure Leads (A : Id → RunLabel → Prop) (w w' : World) : Prop where
  sound : Sound w'
  evolves : Evolves A w.db w'.db
  keeps : Keeps w.db w'.db
  placed : Placed w.db w'.db

theorem Goes.leads {A : Id → RunLabel → Prop} {w : World} {s : Stage Row} (hw : Sound w)
    (h : Goes A (Stage.start w) s) : Leads A w s.world :=
  ⟨⟨h.linked,h.evolves.ok hw.ok,fun k n hk hle => (h.free.unused k n hk hle).2,
    h.keeps.tenanted hw.tenanted⟩,h.evolves,h.keeps,h.placed⟩

theorem Ready.goesBack {s₀ s : Stage Row} (h : Ready s₀) (hs : s.committed = s₀.committed)
    (hf : Free s) (A : Id → RunLabel → Prop) : Goes A s₀ s := by
  refine ⟨?_,?_,hf,?_,?_⟩
  · rw [hs]
    exact Evolves.refl _ _
  · rw [hs]
    exact h.linked
  · rw [hs]
    exact Keeps.refl _
  · rw [hs]
    exact Placed.refl _

section operations

variable [Digest]

def CloudRunnerOp.program : CloudRunnerOp → Op Unit
  | .enqueue ctx taskId data replies => discard (enqueueCloudRun ctx taskId data replies)
  | .claim req => discard (claimNextCloudRunLease req)
  | .heartbeat cred leaseSeconds => discard (heartbeatCloudRunLease cred leaseSeconds)
  | .cancel ctx cloudRunId => discard (cancelCloudRun ctx cloudRunId)
  | .requeue provider limit => discard (requeueExpiredCloudRunLeases provider limit)
  | .complete ctx cred body replies => discard (completeCloudRunLease ctx cred body replies)
  | .process ctx cloudRunId workerId replies =>
    discard (processCloudRun ctx cloudRunId workerId replies)

omit [Digest] in
theorem leads_of_serial {α : Type} {w : World} (hw : Sound w) {m : Op α}
    {A : ℕ → Id → RunLabel → Prop}
    (h : Serial m (fun _ s => Goes (A 200) (Stage.start w) s)
      (fun e s => Goes (A e.statusCode) (Stage.start w) s) (Stage.start w)) (clock : ℕ → Time) :
    Leads (A (statusCode (perform clock (discard m) w).1)) w (perform clock (discard m) w).2 := by
  have hp := perform_serial clock (m := discard m) (w := w) (Q := fun _ w' => Leads (A 200) w w')
    (E := fun e w' => Leads (A e.statusCode) w w')
    (serial_bind (serial_mono h (fun _ s hs => serial_pure (hs.leads hw)) fun _ s hs => hs.leads hw))
  revert hp
  generalize perform clock (discard m) w = out
  obtain ⟨r,w'⟩ := out
  cases r <;> exact id

omit [Digest] in
theorem Over.goes {A : RunLabel → Prop} {i : RunIds} {s₀ s : Stage Row} (h : Over A i s₀ s) :
    Goes (fun _ label => A label) s₀ s := by
  obtain ⟨y,hy,_⟩ := h
  exact hy.goes.weaken fun _ _ hA => hA.2

theorem leads_requeue {w : World} (hw : Sound w) (clock : ℕ → Time) (provider : QueueProvider)
    (limit : ℕ) : Leads (Requeues (takenBack w.db w.next provider limit (clock 0))) w
      (perform clock (CloudRunnerOp.requeue provider limit).program w).2 := by
  have hstay := hw.ready.goes (Requeues (takenBack w.db w.next provider limit (clock 0)))
  cases hprov : getCloudQueueProvider provider with
  | error detail =>
    have hprog : (CloudRunnerOp.requeue provider limit).program = .throw (.http 400 detail) := by
      simp only [CloudRunnerOp.program,requeueExpiredCloudRunLeases,hprov]
      rfl
    rw [hprog]
    exact hstay.leads hw
  | ok u =>
    have hprog : (CloudRunnerOp.requeue provider limit).program =
        .utcNow fun now => discard (requeueExpiredAt provider limit now) := by
      simp only [CloudRunnerOp.program,requeueExpiredCloudRunLeases,hprov]
      rfl
    have hat := serial_requeueAt provider limit (clock 0) hw.ready (E := fun _ _ => False)
    have hp := perform_utcNow clock (k := fun now => discard (requeueExpiredAt provider limit now))
      (w := w) (Q := fun _ w' => Leads (Requeues (takenBack w.db w.next provider limit (clock 0))) w w')
      (E := fun _ _ => False)
      (serial_bind (serial_mono hat (fun _ s hs => serial_pure (hs.leads hw)) fun _ _ he => he))
    rw [hprog]
    revert hp
    generalize perform clock (.utcNow fun now => discard (requeueExpiredAt provider limit now)) w = out
    obtain ⟨r,w'⟩ := out
    cases r with
    | ok a => exact id
    | error e => exact False.elim

theorem operation_leads {w : World} (hw : Sound w) (clock : ℕ → Time) (o : CloudRunnerOp) :
    Leads (o.allows w (clock 0) (statusCode (perform clock o.program w).1)) w
      (perform clock o.program w).2 := by
  have hs := hw.ready
  cases o with
  | enqueue ctx taskId data replies =>
    exact leads_of_serial hw (A := Enqueues (Stage.start w))
      (serial_enqueue taskId data replies hs hw.tenanted) clock
  | claim req => exact leads_of_serial hw (A := fun _ => Leases) (serial_claimNext req hs) clock
  | heartbeat cred leaseSeconds =>
    exact leads_of_serial hw (A := fun _ => Beats) (serial_heartbeat cred leaseSeconds hs) clock
  | cancel ctx cloudRunId =>
    exact leads_of_serial hw (A := fun _ => Cancels cloudRunId) (serial_cancel ctx cloudRunId hs) clock
  | requeue provider limit => exact leads_requeue hw clock provider limit
  | complete ctx cred body replies =>
    refine leads_of_serial hw (A := fun _ _ label => Completes label)
      (serial_mono (serial_complete ctx cred body replies hs) (fun _ s h => ?_) fun e s h => ?_) clock
    · obtain ⟨i,hover⟩ := h
      exact hover.goes
    · rcases h with ⟨hcom,hfree⟩ | ⟨_,i,hover⟩ | ⟨i,c,c',l,r,t,_,_,s₁,hr,hcom,hfree⟩
      · exact hs.goesBack hcom hfree _
      · exact hover.goes
      · have hg := hr.goes.weaken (B := fun _ label => Completes label) fun _ _ hA => hA.2
        refine ⟨?_,?_,hfree,?_,?_⟩
        · rw [hcom]
          exact hg.evolves
        · rw [hcom]
          exact hg.linked
        · rw [hcom]
          exact hg.keeps
        · rw [hcom]
          exact hg.placed
  | process ctx cloudRunId workerId replies =>
    have hgo {s : Stage Row} {i : RunIds} {x : RunRows} (hid : i.cloudRunId = cloudRunId)
        (h : Executed Processes i (Stage.start w) x replies s) :
        Goes (fun id label => id = cloudRunId ∧ Processes label) (Stage.start w) s := by
      obtain ⟨y,hy,_⟩ := h
      exact hy.goes.weaken fun _ _ hA => ⟨hA.1.trans hid,hA.2⟩
    refine leads_of_serial hw (A := fun _ id label => id = cloudRunId ∧ Processes label)
      (serial_mono (serial_process cloudRunId workerId replies hs) (fun _ s h => ?_)
        fun e s h => ?_) clock
    · obtain ⟨i,c,l,r,t,now,s₁,hid,_,hex⟩ := h
      exact hgo hid hex
    · rcases h with ⟨hcom,hfree⟩ | ⟨i,c,l,r,t,now,s₁,hid,_,hex⟩
      · exact hs.goesBack hcom hfree _
      · exact hgo hid hex

end operations

def Key.isRunRow : Key → Prop
  | .cloudRun _ | .localTaskRun _ | .budgetReservation _ => True
  | _ => False

structure Initial (w : World) : Prop where
  runs : ∀ k, k.isRunRow → w.db k = none
  unused : ∀ k n, k.number = some n → w.next ≤ n → w.db k = none
  tenanted : Tenanted w.db

-- What the rest of the application may do between two operations on cloud runs.
structure Between (w w' : World) : Prop where
  runs : ∀ k, k.isRunRow → w'.db k = w.db k
  tasks : ∀ id t, w.db (.task id) = some t →
    ∃ t', w'.db (.task id) = some t' ∧ t'.projectId = t.projectId
  projects : ∀ id p, w.db (.project id) = some p → w'.db (.project id) = some p
  repositories : ∀ id r, w.db (.repository id) = some r →
    ∃ r', w'.db (.repository id) = some r' ∧ r'.workspaceId = r.workspaceId
  unused : ∀ k n, k.number = some n → w'.next ≤ n → w'.db k = none
  tenanted : Tenanted w'.db

theorem Initial.sound {w : World} (h : Initial w) : Sound w := by
  have hrun (id : Id) : w.db (.cloudRun id) = none := h.runs _ trivial
  refine ⟨⟨fun id c hc => ?_,fun id id' c c' hc => ?_,fun id id' c c' hc => ?_,fun ρ r hr => ?_⟩,
    fun id σ hσ => ?_,h.unused,h.tenanted⟩
  · rw [hrun] at hc
    cases hc
  · rw [hrun] at hc
    cases hc
  · rw [hrun] at hc
    cases hc
  · rw [h.runs (.budgetReservation ρ) trivial] at hr
    cases hr
  · rw [stateAt_none (hrun id)] at hσ
    cases hσ

section between

variable {w w' : World}

theorem Between.run (h : Between w w') (id : Id) : w'.db (.cloudRun id) = w.db (.cloudRun id) :=
  h.runs (.cloudRun id) trivial

theorem Between.local (h : Between w w') (id : Id) :
    w'.db (.localTaskRun id) = w.db (.localTaskRun id) := h.runs (.localTaskRun id) trivial

theorem Between.reservation (h : Between w w') (ρ : Id) :
    w'.db (.budgetReservation ρ) = w.db (.budgetReservation ρ) := h.runs (.budgetReservation ρ) trivial

theorem Between.stateAt (h : Between w w') (id : Id) : stateAt w'.db id = stateAt w.db id := by
  simp only [AiScdc.stateAt,h.run,h.local,h.reservation]

theorem Between.sound (h : Between w w') (hw : Sound w) : Sound w' := by
  refine ⟨⟨fun id c hc => ?_,fun id id' c c' hc hc' => ?_,fun id id' c c' hc hc' => ?_,fun ρ r hr => ?_⟩,
    fun id σ hσ => ?_,h.unused,h.tenanted⟩
  · rw [h.run] at hc
    obtain ⟨i,x,hi,hx,hat,⟨⟨p,hp,hpw⟩,⟨r,hr,hrw⟩⟩⟩ := hw.linked.rows id c hc
    obtain ⟨t',ht',hproj⟩ := h.tasks _ _ hat.task
    obtain ⟨r',hr',hrw'⟩ := h.repositories _ _ hr
    refine ⟨i,{ x with task := t' },hi,hx,⟨?_,?_,?_,ht',hat.localRunId,hat.reservationId,hat.taskId⟩,
      ⟨p,?_,hpw⟩,⟨r',hr',hrw'.trans hrw⟩⟩
    · exact (h.run _).trans hat.cloudRun
    · exact (h.local _).trans hat.localRun
    · exact (h.reservation _).trans hat.reservation
    · rw [hproj]
      exact h.projects _ _ hp
  · rw [h.run] at hc hc'
    exact hw.linked.localRuns id id' c c' hc hc'
  · rw [h.run] at hc hc'
    exact hw.linked.reservations id id' c c' hc hc'
  · rw [h.reservation] at hr
    obtain ⟨id,c,hc,hρ⟩ := hw.linked.attached ρ r hr
    exact ⟨id,c,(h.run id).trans hc,hρ⟩
  · rw [h.stateAt] at hσ
    exact hw.ok id σ hσ

end between

section histories

variable [Digest]

def occurrence (clock : ℕ → Time) (o : CloudRunnerOp) (w : World) : Event :=
  ⟨o,(perform clock o.program w).1,w.db,(perform clock o.program w).2.db⟩

-- Every operation runs to its end, returning or raising, before the next one starts.
inductive History (C : World → (ℕ → Time) → CloudRunnerOp → Prop) : List Event → World → Prop
  | start {w} (h : Initial w) : History C [] w
  | op {hist w} (clock : ℕ → Time) (o : CloudRunnerOp) (h : History C hist w) (hc : C w clock o) :
      History C (hist ++ [occurrence clock o w]) (perform clock o.program w).2
  | between {hist w w'} (h : History C hist w) (hb : Between w w') : History C hist w'

def anyOp (_ : World) (_ : ℕ → Time) (_ : CloudRunnerOp) : Prop := True

variable {C : World → (ℕ → Time) → CloudRunnerOp → Prop} {hist : List Event} {w : World}

theorem History.sound (h : History C hist w) : Sound w := by
  induction h with
  | start h => exact h.sound
  | op clock o _ _ ih => exact (operation_leads ih clock o).sound
  | between _ hb ih => exact hb.sound ih

-- Runs one operation after the other.
def playOps (w : World) : List ((ℕ → Time) × CloudRunnerOp) → List Event × World
  | [] => ([],w)
  | (clock,o) :: rest =>
    let played := playOps (perform clock o.program w).2 rest
    (occurrence clock o w :: played.1,played.2)

def Follows (C : World → (ℕ → Time) → CloudRunnerOp → Prop) (w : World) :
    List ((ℕ → Time) × CloudRunnerOp) → Prop
  | [] => True
  | (clock,o) :: rest => C w clock o ∧ Follows C (perform clock o.program w).2 rest

theorem History.plays {ops : List ((ℕ → Time) × CloudRunnerOp)} (h : History C hist w)
    (hc : Follows C w ops) : History C (hist ++ (playOps w ops).1) (playOps w ops).2 := by
  induction ops generalizing hist w with
  | nil => simpa [playOps] using h
  | cons step rest ih =>
    obtain ⟨clock,o⟩ := step
    obtain ⟨hstep,hrest⟩ := hc
    have hplayed := ih (h.op clock o hstep) hrest
    rwa [List.append_assoc] at hplayed

theorem Follows.snoc {ops : List ((ℕ → Time) × CloudRunnerOp)} {clock : ℕ → Time} {o : CloudRunnerOp}
    (h : Follows C w ops) (hc : C (playOps w ops).2 clock o) : Follows C w (ops ++ [(clock,o)]) := by
  induction ops generalizing w with
  | nil => exact ⟨hc,trivial⟩
  | cons step rest ih => exact ⟨h.1,ih h.2 hc⟩

theorem follows_any (w : World) (ops : List ((ℕ → Time) × CloudRunnerOp)) : Follows anyOp w ops := by
  induction ops generalizing w with
  | nil => trivial
  | cons step rest ih => exact ⟨trivial,ih _⟩

end histories

section sample

def sampleDb : Db
  | .creditWallet 1 => some ⟨150,0⟩
  | .project 2 => some ⟨1⟩
  | .repository 3 => some ⟨1,2,"github","active","main","https://github.com/acme/app","acme",
      "app",some 1⟩
  | .task 4 => some ⟨2,.created,none,none,none,0,"task",["src/**"],["pytest"]⟩
  | .task 5 => some ⟨2,.merged,none,none,none,0,"done",["src/**"],["pytest"]⟩
  | _ => none

def sampleWorld : World := ⟨sampleDb,6⟩

theorem sample_initial : Initial sampleWorld := by
  refine ⟨fun k hk => ?_,fun k n hk _ => ?_,fun repoId repository p hrepo hp => ?_⟩
  · cases k <;> first | rfl | cases hk
  · cases k <;> first | rfl | cases hk
  · have hid : repoId = 3 := by
      by_contra hne
      simp [sampleWorld,sampleDb,hne] at hrepo
    subst hid
    obtain rfl := Option.some.inj hrepo
    obtain rfl := Option.some.inj hp
    rfl

@[reducible] def plainDigest : Digest := ⟨fun text => text⟩

def samplePlay (ops : List ((ℕ → Time) × CloudRunnerOp)) : List Event × World :=
  letI := plainDigest
  playOps sampleWorld ops

theorem sample_history {C : World → (ℕ → Time) → CloudRunnerOp → Prop}
    {ops : List ((ℕ → Time) × CloudRunnerOp)} (h : @Follows plainDigest C sampleWorld ops) :
    @History plainDigest C (samplePlay ops).1 (samplePlay ops).2 :=
  letI := plainDigest
  (History.start sample_initial).plays h

def sampleOwner : Option AuthContext := some ⟨1,true⟩

def sampleReplies : EnqueueReplies :=
  ⟨"fake",.ok (),.ok (),.ok (),.ok (),"token",.sent none,.refused,""⟩

def sampleEnqueue (taskId : Id) : CloudRunnerOp :=
  .enqueue sampleOwner taskId ⟨3,none,.localDb,none,none⟩ sampleReplies

def sampleClaim : CloudRunnerOp :=
  .claim ⟨"worker","docker",.localDb,none,none,none,none,60,false⟩

def sampleLeased (taskId : Id) : List ((ℕ → Time) × CloudRunnerOp) :=
  [(fun _ => 0,sampleEnqueue taskId),(fun _ => 1,sampleClaim)]

end sample

end AiScdc
