import AiScdc.CloudRunner.RunRefinement

namespace AiScdc
open Transaction

variable [Digest]

-- Every commit of every operation is one move of the machine, for every run.
theorem commits_move (clock : ℕ → Time) (o : CloudRunOp) (w : World) :
    ∀ c ∈ commits clock o.program ⟨w,Pending.empty,0⟩, RunsMove clock o (runRows.of c.1.db) (runRows.of c.2.db) :=
  (walks_program (X := runRows.of w.db) o ⟨w,Pending.empty,0⟩ ⟨rfl,rfl⟩).1

structure RunCommit where
  clock : ℕ → Time
  op : CloudRunOp
  before : Db
  after : Db

def labelled (clock : ℕ → Time) (o : CloudRunOp) (cs : List (World × World)) : List RunCommit :=
  cs.map fun c => ⟨clock,o,c.1.db,c.2.db⟩

-- All commits so far, of operations that ran one after the other. An operation may stop after any of
-- its commits, and whatever else the application does leaves the rows of the runs alone.
inductive RunHistory : List RunCommit → World → Prop
  | start {w} (h : ∀ id, w.db (.cloudRun id) = none) : RunHistory [] w
  | op {hist w} (clock : ℕ → Time) (o : CloudRunOp) (h : RunHistory hist w) :
      RunHistory (hist ++ labelled clock o (commits clock o.program ⟨w,Pending.empty,0⟩))
        (perform clock o.program w).2
  | stopped {hist w made c rest} (clock : ℕ → Time) (o : CloudRunOp) (h : RunHistory hist w)
      (hc : commits clock o.program ⟨w,Pending.empty,0⟩ = made ++ c :: rest) :
      RunHistory (hist ++ labelled clock o (made ++ [c])) c.2
  | between {hist w w'} (h : RunHistory hist w)
      (hb : ∀ id, w'.db (.cloudRun id) = w.db (.cloudRun id)) : RunHistory hist w'

-- The history of one row.
inductive RowLog (id : Id) : List RunCommit → Option CloudRun → Prop
  | start : RowLog id [] none
  | kept {hist s b} (h : RowLog id hist b) (hb : s.before (.cloudRun id) = b)
      (hc : s.after (.cloudRun id) = b) : RowLog id (hist ++ [s]) b
  | moved {hist s b c} (h : RowLog id hist b) (hb : s.before (.cloudRun id) = b)
      (hc : s.after (.cloudRun id) = c) (hm : RunMove s.clock s.op id b c) : RowLog id (hist ++ [s]) c

variable {id : Id} {clock : ℕ → Time} {o : CloudRunOp} {hist : List RunCommit} {w : World}

theorem RowLog.commits {cs : List (World × World)} {db db' : Db}
    (h : RowLog id hist (db (.cloudRun id))) (hlinked : Transaction.Linked db cs db')
    (hm : ∀ c ∈ cs, RunsMove clock o (runRows.of c.1.db) (runRows.of c.2.db)) :
    RowLog id (hist ++ labelled clock o cs) (db' (.cloudRun id)) := by
  induction cs generalizing hist db with
  | nil =>
    obtain rfl : db' = db := hlinked
    simpa [labelled] using h
  | cons c cs ih =>
    obtain ⟨rfl,hrest⟩ := hlinked
    have hstep : RowLog id (hist ++ [⟨clock,o,c.1.db,c.2.db⟩]) (c.2.db (.cloudRun id)) := by
      rcases hm c List.mem_cons_self id with heq | hmove
      · have hsame : c.2.db (.cloudRun id) = c.1.db (.cloudRun id) := heq.symm
        rw [hsame]
        exact h.kept rfl hsame
      · exact h.moved rfl rfl hmove
    have hall := ih hstep hrest fun d hd => hm d (List.mem_cons_of_mem c hd)
    rwa [List.append_assoc] at hall

omit [Digest] in
theorem linked_upto {db db' : Db} {made rest : List (World × World)} {c : World × World}
    (h : Transaction.Linked db (made ++ c :: rest) db') :
    Transaction.Linked db (made ++ [c]) c.2.db := by
  induction made generalizing db with
  | nil => exact ⟨h.1,rfl⟩
  | cons d made ih => exact ⟨h.1,ih h.2⟩

theorem RunHistory.rowLog (h : RunHistory hist w) (id : Id) : RowLog id hist (w.db (.cloudRun id)) := by
  induction h with
  | start h =>
    rw [h id]
    exact .start
  | @op hist w clock o _ ih =>
    exact ih.commits (commits_linked clock o.program ⟨w,Pending.empty,0⟩) (commits_move clock o w)
  | @stopped hist w made c rest clock o _ hc ih =>
    have hlinked := commits_linked clock o.program ⟨w,Pending.empty,0⟩
    have hm := commits_move clock o w
    rw [hc] at hlinked hm
    refine ih.commits (linked_upto hlinked) fun d hd => hm d ?_
    rcases List.mem_append.mp hd with hd | hd
    · exact List.mem_append_left _ hd
    · exact List.mem_append_right _ (by simp_all)
  | between _ hb ih =>
    rw [hb id]
    exact ih

theorem RowLog.moves {row : Option CloudRun} (h : RowLog id hist row) : ∀ s ∈ hist,
    s.before (.cloudRun id) = s.after (.cloudRun id) ∨
      RunMove s.clock s.op id (s.before (.cloudRun id)) (s.after (.cloudRun id)) := by
  induction h with
  | start => exact fun s hs => (List.not_mem_nil hs).elim
  | @kept hist t b _ hb hc ih =>
    intro s hs
    rcases List.mem_append.mp hs with hs | hs
    · exact ih s hs
    · obtain rfl := List.mem_singleton.mp hs
      exact Or.inl (hb.trans hc.symm)
  | @moved hist t b c _ hb hc hm ih =>
    intro s hs
    rcases List.mem_append.mp hs with hs | hs
    · exact ih s hs
    · obtain rfl := List.mem_singleton.mp hs
      rw [← hb,← hc] at hm
      exact Or.inr hm

-- What no move takes away holds from the commit that brings it about on.
theorem RowLog.keeps {p : CloudRun → Prop} {row : Option CloudRun} (h : RowLog id hist row)
    (hp : ∀ clock o b c, RunMove clock o id (some b) (some c) → p b → p c) :
    ∀ s ∈ hist, ∀ b, s.after (.cloudRun id) = some b → p b → ∃ c, row = some c ∧ p c := by
  induction h with
  | start => exact fun s hs => (List.not_mem_nil hs).elim
  | @kept hist t b h _ hc ih =>
    intro s hs d hd hpd
    rcases List.mem_append.mp hs with hs | hs
    · exact ih s hs d hd hpd
    · obtain rfl := List.mem_singleton.mp hs
      exact ⟨d,hc.symm.trans hd,hpd⟩
  | @moved hist t b c h _ hc hm ih =>
    intro s hs d hd hpd
    rcases List.mem_append.mp hs with hs | hs
    · obtain ⟨e,rfl,hpe⟩ := ih s hs d hd hpd
      obtain ⟨e',rfl⟩ := hm.lands
      exact ⟨e',rfl,hp _ _ _ _ hm hpe⟩
    · obtain rfl := List.mem_singleton.mp hs
      exact ⟨d,hc.symm.trans hd,hpd⟩

theorem RowLog.before {p : CloudRun → Prop} {row : Option CloudRun} (h : RowLog id hist row)
    (hp : ∀ clock o b c, RunMove clock o id (some b) (some c) → p b → p c) :
    hist.Pairwise fun s t => ∀ b, s.after (.cloudRun id) = some b → p b →
      ∃ c, t.before (.cloudRun id) = some c ∧ p c := by
  induction h with
  | start => exact .nil
  | kept h hb _ ih =>
    refine List.pairwise_append.mpr ⟨ih,List.pairwise_singleton _ _,fun s hs t ht => ?_⟩
    rw [List.mem_singleton.mp ht,hb]
    exact h.keeps hp s hs
  | moved h hb _ _ ih =>
    refine List.pairwise_append.mpr ⟨ih,List.pairwise_singleton _ _,fun s hs t ht => ?_⟩
    rw [List.mem_singleton.mp ht,hb]
    exact h.keeps hp s hs

-- Apart from the receipt, the log stream and what the providers report, the row is as it was.
def Frozen (b c : CloudRun) : Prop :=
  c = { b with
    queueReceipt := c.queueReceipt
    logStreamUri := c.logStreamUri
    logStreamSizeBytes := c.logStreamSizeBytes
    externalStatus := c.externalStatus
    externalError := c.externalError
    updatedAt := c.updatedAt }

omit [Digest] in
theorem Frozen.refl (b : CloudRun) : Frozen b b := rfl

omit [Digest] in
theorem Frozen.trans {a b c : CloudRun} (h : Frozen a b) (h' : Frozen b c) : Frozen a c := by
  unfold Frozen at h h' ⊢
  rw [h] at h'
  exact h'

omit [Digest] in
theorem Frozen.status {b c : CloudRun} (h : Frozen b c) : c.status = b.status := by
  unfold Frozen at h
  rw [h]

-- An ended run only waits for its providers.
theorem RunMove.ended {b : CloudRun} {c : Option CloudRun} (h : RunMove clock o id (some b) c)
    (hb : b.status.terminal = true) : ∃ c', c = some c' ∧ Frozen b c' ∧
      (c'.externalStatus = b.externalStatus ∨ mnsReceiptRecoverySkipReason b = none ∨
        aliyunEciRuntimeCleanupSkipReason b = none) := by
  have hqueued : b.status ≠ .queued := fun h => by simp [h,RunStatus.terminal] at hb
  have hrunning : b.status ≠ .running := fun h => by simp [h,RunStatus.terminal] at hb
  cases h with
  | guarded _ _ _ _ hu _ => exact (hqueued hu.status).elim
  | queueRefused _ hu _ _ => exact (hqueued hu.status).elim
  | enqueued _ hu _ => exact (hqueued hu.status).elim
  | runtimeRefused _ hu _ _ => exact (hqueued hu.status).elim
  | submitted _ hu _ => exact (hqueued hu.status).elim
  | leased _ _ _ hg _ _ _ =>
    simp only [isClaimable,Bool.and_eq_true,decide_eq_true_eq] at hg
    exact (hqueued hg.1.1).elim
  | beat _ hl => exact (hrunning hl.running).elim
  | exhausted _ _ he _ _ =>
    simp only [isExpired,Bool.and_eq_true,decide_eq_true_eq] at he
    exact (hrunning he.1.1.1).elim
  | requeued _ _ he _ =>
    simp only [isExpired,Bool.and_eq_true,decide_eq_true_eq] at he
    exact (hrunning he.1.1.1).elim
  | cancelledQueued _ hs _ => exact (hqueued hs).elim
  | cancelAsked _ hs _ => exact (hrunning hs).elim
  | accepted _ _ hl => exact (hrunning hl.running).elim
  | taken _ hs => exact (hqueued hs).elim
  | finished _ _ _ hs _ _ _ _ => exact (hrunning hs).elim
  | cancelledAfter _ _ hs _ _ => exact (hrunning hs).elim
  | preflightFailed _ _ _ hs _ _ => exact (hrunning hs).elim
  | acknowledged _ _ hs => exact ⟨_,rfl,rfl,Or.inr (Or.inl hs)⟩
  | unacknowledged _ _ hs => exact ⟨_,rfl,rfl,Or.inr (Or.inl hs)⟩
  | retrySkipped => exact ⟨_,rfl,rfl,Or.inl rfl⟩
  | receiptRecovered _ hs => exact ⟨_,rfl,rfl,Or.inr (Or.inl hs)⟩
  | receiptRetained _ hs => exact ⟨_,rfl,rfl,Or.inr (Or.inl hs)⟩
  | cleanupSkipped => exact ⟨_,rfl,rfl,Or.inl rfl⟩
  | runtimeDeleted _ hs => exact ⟨_,rfl,rfl,Or.inr (Or.inr hs)⟩
  | runtimeRetained _ hs => exact ⟨_,rfl,rfl,Or.inr (Or.inr hs)⟩
  | logSynced => exact ⟨_,rfl,rfl,Or.inl rfl⟩

theorem RowLog.frozen {row : Option CloudRun} (h : RowLog id hist row) : ∀ s ∈ hist, ∀ b,
    s.after (.cloudRun id) = some b → b.status.terminal = true → ∃ c, row = some c ∧ Frozen b c := by
  intro s hs b hb hterm
  refine h.keeps (fun _ _ x y hm hx => ?_) s hs b hb (.refl b)
  obtain ⟨y',hy,hfrozen,_⟩ := hm.ended (by rw [hx.status]; exact hterm)
  cases hy
  exact hx.trans hfrozen

-- Runs one operation after the other.
def playRuns (w : World) : List ((ℕ → Time) × CloudRunOp) → List RunCommit × World
  | [] => ([],w)
  | (clock,o) :: rest =>
    let played := playRuns (perform clock o.program w).2 rest
    (labelled clock o (commits clock o.program ⟨w,Pending.empty,0⟩) ++ played.1,played.2)

theorem RunHistory.plays {ops : List ((ℕ → Time) × CloudRunOp)} (h : RunHistory hist w) :
    RunHistory (hist ++ (playRuns w ops).1) (playRuns w ops).2 := by
  induction ops generalizing hist w with
  | nil => simpa [playRuns] using h
  | cons step rest ih =>
    obtain ⟨clock,o⟩ := step
    have hplayed := ih (h.op clock o)
    rwa [List.append_assoc] at hplayed

section sample

def CloudRunOp.isClaim : CloudRunOp → Bool
  | .runner (.claim _) => true
  | _ => false

def sampleRuns (ops : List ((ℕ → Time) × CloudRunOp)) : List RunCommit × World :=
  letI := plainDigest
  playRuns sampleWorld ops

omit [Digest] in
theorem sampleRuns_history (ops : List ((ℕ → Time) × CloudRunOp)) :
    @RunHistory plainDigest (sampleRuns ops).1 (sampleRuns ops).2 := by
  let _ := plainDigest
  have hstart : RunHistory [] sampleWorld := .start fun _ => rfl
  exact hstart.plays

def samplePullEnqueue (runtimeProvider : Option RuntimeProvider) : CloudRunOp :=
  .runner (.enqueue sampleOwner 4 ⟨3,some 2,.aliyunMns,runtimeProvider,some .aliyunOss⟩
    ⟨"fake",.ok (),.ok (),.ok (),.ok (),"token",.sent (some "message"),.created "group" "manifest" "log",""⟩)

def samplePullClaim (callbackToken : String) : ClaimRequest :=
  ⟨"aliyun-mns-cloud_run_7","docker",.aliyunMns,some 7,some callbackToken,some "message",some "receipt",60,
    true⟩

def samplePulled : List ((ℕ → Time) × CloudRunOp) :=
  [(fun _ => 0,samplePullEnqueue none),(fun _ => 1,.runner (.claim (samplePullClaim "token")))]

def samplePullCredentials (callbackToken : String) : LeaseCredentials :=
  ⟨10,"aliyun-mns-cloud_run_7",some callbackToken,true⟩

-- The deletion of the message fails after the completion, and is repeated.
def sampleReported : List ((ℕ → Time) × CloudRunOp) :=
  samplePulled ++ [(fun _ => 2,.runner (.complete none (samplePullCredentials "token")
    { status := .failed, runnerKind := "docker" } ⟨fun _ => .readError "",[],.failed⟩)),
    (fun _ => 3,.retryReceipt sampleOwner 7 .deleted)]

def sampleCleaned : List ((ℕ → Time) × CloudRunOp) :=
  [(fun _ => 0,samplePullEnqueue (some .aliyunEci)),(fun _ => 1,.runner (.cancel sampleOwner 7)),
    (fun _ => 2,.cleanupRuntime sampleOwner 7 .deleted),(fun _ => 3,.cleanupRuntime sampleOwner 7 .deleted)]

end sample

omit [Digest] in
theorem commits_move_claim :
    let _ := plainDigest
    ∃ c ∈ commits (fun _ => 1) (CloudRunOp.runner (.claim (samplePullClaim "token"))).program
        ⟨(sampleRuns (samplePulled.take 1)).2,Pending.empty,0⟩,
      runRows.of c.1.db 7 ≠ runRows.of c.2.db 7 ∧ RunMove (fun _ => 1)
        (.runner (.claim (samplePullClaim "token"))) 7 (runRows.of c.1.db 7) (runRows.of c.2.db 7) := by
  let _ := plainDigest
  have hsome : (commits (fun _ => 1) (CloudRunOp.runner (.claim (samplePullClaim "token"))).program
      ⟨(sampleRuns (samplePulled.take 1)).2,Pending.empty,0⟩).any
        (fun c => runRows.of c.1.db 7 ≠ runRows.of c.2.db 7) = true := by decide +kernel
  obtain ⟨c,hc,hne⟩ := List.any_eq_true.mp hsome
  have hne := of_decide_eq_true hne
  exact ⟨c,hc,hne,(commits_move _ _ _ c hc 7).resolve_left hne⟩

-- From the commit that ends a run on, only its receipt, its log stream and what the providers report change.
theorem terminal_frozen (h : RunHistory hist w) (id : Id) : ∀ s ∈ hist, ∀ b,
    s.after (.cloudRun id) = some b → b.status.terminal = true →
      ∃ c, w.db (.cloudRun id) = some c ∧ Frozen b c := (h.rowLog id).frozen

omit [Digest] in
theorem terminal_frozen_cleaned : ∃ b c, b.status = .cancelled ∧ b.externalStatus ≠ c.externalStatus ∧
    (sampleRuns sampleCleaned).2.db (.cloudRun 7) = some c ∧ Frozen b c := by
  have hsome : (sampleRuns sampleCleaned).1.any (fun s => (s.after (.cloudRun 7)).any fun b =>
      b.status = .cancelled ∧ b.externalStatus ≠ some "runtime_cleanup_deleted") = true := by decide +kernel
  have hlast : ((sampleRuns sampleCleaned).2.db (.cloudRun 7)).all (fun c =>
      c.externalStatus = some "runtime_cleanup_deleted") = true := by decide +kernel
  obtain ⟨s,hs,hafter⟩ := List.any_eq_true.mp hsome
  obtain ⟨b,hb,hcancelled⟩ := (Option.any_eq_true _ _).mp hafter
  simp only [decide_eq_true_eq] at hcancelled
  obtain ⟨c,hc,hfrozen⟩ := @terminal_frozen plainDigest _ _ (sampleRuns_history sampleCleaned) 7 s hs b hb
    (by rw [hcancelled.1]; rfl)
  rw [hc] at hlast
  have hexternal : c.externalStatus = some "runtime_cleanup_deleted" := of_decide_eq_true hlast
  exact ⟨b,c,hcancelled.1,by rw [hexternal]; exact hcancelled.2,hc,hfrozen⟩

end AiScdc
