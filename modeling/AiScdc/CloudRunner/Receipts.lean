import AiScdc.CloudRunner.RunHistory

namespace AiScdc
open Transaction

section receipts

variable [Digest] {id : Id} {clock : ℕ → Time} {o : CloudRunOp} {hist : List RunCommit} {w : World}
  {b c : CloudRun}

-- The delete of the receipt succeeded in the operation.
def DeletesReceipt (id : Id) (o : CloudRunOp) : Prop :=
  o.ending id = some .deleted ∨ ∃ ctx, o = .retryReceipt ctx id .deleted

-- What a move may do to the receipt of a run on the MNS queue.
inductive ReceiptChange (id : Id) (o : CloudRunOp) (b c : CloudRun) : Prop
  | leased (req : ClaimRequest) (op : o = .runner (.claim req)) (queued : b.status = .queued)
      (taken : c.attemptCount = b.attemptCount + 1) (message : c.queueMessageId = b.queueMessageId)
      (receipt : (c.queueReceipt = req.queueReceipt ∧ isPresent req.queueReceipt = true ∧
          b.queueMessageId ≠ none) ∨
        (c.queueReceipt = b.queueReceipt ∧ (b.queueMessageId = none ∨ b.queueReceipt = none)))
  | kept (op : ∀ req, o ≠ .runner (.claim req)) (receipt : c.queueReceipt = b.queueReceipt)
      (message : c.queueMessageId = b.queueMessageId ∨ b.queueReceipt = none)
  | cleared (op : DeletesReceipt id o) (ended : b.status.terminal = true)
      (receipt : c.queueReceipt = none)

omit [Digest] in
theorem skipReason_none (h : mnsReceiptRecoverySkipReason c = none) :
    c.queueProvider = .aliyunMns ∧ c.status.terminal = true ∧ isPresent c.queueReceipt = true := by
  unfold mnsReceiptRecoverySkipReason at h
  split at h
  · cases h
  · split at h
    · cases h
    · split at h
      · cases h
      · simp_all

theorem RunMove.receipt (h : RunMove clock o id (some b) (some c))
    (hq : b.queueProvider = .aliyunMns) : ReceiptChange id o b c := by
  have hstub : b.queueProvider ≠ .externalStub := by simp [hq]
  have hsame {c' : CloudRun} (hr : Resummed c' c) (hop : ∀ req, o ≠ .runner (.claim req))
      (hreceipt : c'.queueReceipt = b.queueReceipt) (hmessage : c'.queueMessageId = b.queueMessageId) :
      ReceiptChange id o b c := by
    obtain ⟨a,s,rfl⟩ := hr
    exact .kept hop hreceipt (Or.inl hmessage)
  cases h with
  | guarded => exact hsame (.same _) (by simp) rfl rfl
  | queueRefused _ _ _ hr => exact hsame hr (by simp) rfl rfl
  | enqueued _ hu _ => exact .kept (by simp) hu.queueReceipt.symm (Or.inr hu.queueReceipt)
  | runtimeRefused _ _ _ hr => exact hsame hr (by simp) rfl rfl
  | submitted => exact hsame (.same _) (by simp) rfl rfl
  | leased receipt leaseId n hg hp htoken hreceipt =>
    rename_i req
    simp only [isClaimable,Bool.and_eq_true,decide_eq_true_eq] at hg
    have hreq : req.queueProvider = .aliyunMns := hp.symm.trans hq
    have hnot : req.queueProvider ≠ .externalStub := by simp [hreq]
    refine .leased req rfl hg.1.1 ?_ ?_ ?_
    · obtain ⟨_,_,_,_,hframe⟩ := delivered_frame _ receipt leaseId (clock n)
      rw [hframe]
      rfl
    all_goals simp only [delivered,if_neg hnot,if_pos hreq]
    · cases receipt <;> rfl
    · cases hreceipt with
      | otherQueue h => exact (h hreq).elim
      | undelivered h => exact Or.inr ⟨rfl,Or.inl h⟩
      | unqueued _ h => exact Or.inr ⟨rfl,Or.inr h⟩
      | delivered _ hpresent hmessage =>
        refine Or.inl ⟨?_,hpresent.2,fun hnone => ?_⟩
        · cases hr : req.queueReceipt with
          | none => simp [hr,isPresent] at hpresent
          | some r => rfl
        · simp [hmessage,hnone,isPresent] at hpresent
  | beat => exact hsame (.same _) (by simp) rfl rfl
  | exhausted _ _ _ _ hr =>
    refine hsame hr (by simp) ?_ rfl
    simp [CloudRun.attemptsExhausted,hstub]
  | requeued =>
    refine hsame (.same _) (by simp) ?_ rfl
    simp [CloudRun.requeued,hstub]
  | cancelledQueued _ _ hr => exact hsame hr (by simp) rfl rfl
  | cancelAsked => exact hsame (.same _) (by simp) rfl rfl
  | accepted =>
    refine hsame (.same _) (by simp) ?_ ?_
    all_goals simp only [completedBy,if_neg hstub]; split <;> rfl
  | taken => exact hsame (.same _) (by simp) rfl rfl
  | finished _ _ ho _ _ _ _ hr =>
    exact hsame hr (by rintro req rfl; cases ho) rfl rfl
  | cancelledAfter _ ho _ _ hr => exact hsame hr (by rintro req rfl; cases ho) rfl rfl
  | preflightFailed _ _ _ _ hx hr =>
    obtain ⟨_,_,_,_,_,_,rfl⟩ := hx.frame
    exact hsame hr (by simp) rfl rfl
  | acknowledged _ ho hb => exact .cleared (Or.inl ho) (skipReason_none hb).2.1 rfl
  | unacknowledged _ ho _ => exact hsame (.same _) (by rintro req rfl; cases ho) rfl rfl
  | retrySkipped => exact hsame (.same _) (by simp) rfl rfl
  | receiptRecovered _ hb => exact .cleared (Or.inr ⟨_,rfl⟩) (skipReason_none hb).2.1 rfl
  | receiptRetained => exact hsame (.same _) (by simp) rfl rfl
  | cleanupSkipped => exact hsame (.same _) (by simp) rfl rfl
  | runtimeDeleted => exact hsame (.same _) (by simp) rfl rfl
  | runtimeRetained => exact hsame (.same _) (by simp) rfl rfl
  | logSynced => exact hsame (.same _) (by simp) rfl rfl

-- The commit takes a lease of the run with this delivery.
def LeasesWith (id : Id) (req : ClaimRequest) (s : RunCommit) : Prop :=
  s.op = .runner (.claim req) ∧ s.before (.cloudRun id) ≠ s.after (.cloudRun id)

-- The receipt is the one of the delivery that was last leased.
def LastLeased (id : Id) (hist : List RunCommit) (receipt : String) : Prop :=
  ∃ earlier s later req, hist = earlier ++ s :: later ∧ LeasesWith id req s ∧
    req.queueReceipt = some receipt ∧ ∀ t ∈ later, ∀ req', ¬ LeasesWith id req' t

omit [Digest] in
theorem LastLeased.snoc {receipt : String} {s : RunCommit} (h : LastLeased id hist receipt)
    (hs : ∀ req, ¬ LeasesWith id req s) : LastLeased id (hist ++ [s]) receipt := by
  obtain ⟨earlier,t,later,req,rfl,hlease,hreceipt,hlater⟩ := h
  refine ⟨earlier,t,later ++ [s],req,by simp,hlease,hreceipt,fun u hu => ?_⟩
  rcases List.mem_append.mp hu with hu | hu
  · exact hlater u hu
  · rw [List.mem_singleton.mp hu]
    exact hs

-- A run on the MNS queue without a message id stores no receipt, and a receipt that it stores is that
-- of its last delivery.
structure ReceiptOk (id : Id) (hist : List RunCommit) (c : CloudRun) : Prop where
  undelivered : c.queueMessageId = none → c.queueReceipt = none
  present : ∀ receipt, c.queueReceipt = some receipt → isPresent (some receipt) = true
  last : ∀ receipt, c.queueReceipt = some receipt → LastLeased id hist receipt

omit [Digest] in
theorem ReceiptOk.move {s : RunCommit} (h : ReceiptOk id hist b) (hb : s.before (.cloudRun id) = some b)
    (hc : s.after (.cloudRun id) = some c) (hm : ReceiptChange id s.op b c) :
    ReceiptOk id (hist ++ [s]) c := by
  cases hm with
  | leased req ho hqueued htaken hmessage hreceipt =>
    have hlease : LeasesWith id req s := by
      refine ⟨ho,fun heq => ?_⟩
      rw [hb,hc] at heq
      cases heq
      omega
    rcases hreceipt with ⟨hreceipt,hpresent,hsome⟩ | ⟨hreceipt,hnone⟩
    · refine ⟨fun hm => (hsome (hmessage ▸ hm)).elim,fun r hr => ?_,fun r hr => ?_⟩
      · rw [← hr,hreceipt]
        exact hpresent
      · exact ⟨hist,s,[],req,rfl,hlease,hreceipt ▸ hr,by simp⟩
    · have hempty : c.queueReceipt = none := by
        rw [hreceipt]
        exact hnone.elim h.undelivered fun hn => hn
      exact ⟨fun _ => hempty,by simp [hempty],by simp [hempty]⟩
  | kept ho hreceipt hmessage =>
    have hno : ∀ req, ¬ LeasesWith id req s := fun req hl => ho req hl.1
    refine ⟨fun hm => ?_,fun r hr => ?_,fun r hr => ?_⟩
    · rw [hreceipt]
      rcases hmessage with hmessage | hnone
      · exact h.undelivered (hmessage ▸ hm)
      · exact hnone
    · exact h.present r (hreceipt ▸ hr)
    · exact (h.last r (hreceipt ▸ hr)).snoc hno
  | cleared ho hended hreceipt =>
    refine ⟨fun _ => hreceipt,fun r hr => ?_,fun r hr => ?_⟩
    · rw [hreceipt] at hr
      cases hr
    · rw [hreceipt] at hr
      cases hr

theorem RowLog.receipt {row : Option CloudRun} (h : RowLog id hist row) :
    ∀ c, row = some c → c.queueProvider = .aliyunMns → ReceiptOk id hist c := by
  induction h with
  | start =>
    rintro c hc
    cases hc
  | @kept hist s b h hb hc ih =>
    rintro c rfl hq
    have hno : ∀ req, ¬ LeasesWith id req s := fun req hl => hl.2 (hb.trans hc.symm)
    have hok := ih c rfl hq
    exact ⟨hok.undelivered,hok.present,fun r hr => (hok.last r hr).snoc hno⟩
  | @moved hist s b c h hb hc hm ih =>
    rintro c rfl hq
    cases b with
    | none =>
      generalize s.op = o at hm
      cases hm
      refine ⟨fun _ => rfl,fun r hr => ?_,fun r hr => ?_⟩
      · cases hr
      · cases hr
    | some b =>
      have hqb : b.queueProvider = .aliyunMns := hm.providers.1 ▸ hq
      exact (ih b rfl hqb).move hb hc (hm.receipt hqb)

-- Acknowledgement follows termination, whatever the order of the operations.
theorem receipt_acknowledged (h : RunHistory hist w) (id : Id) :
    (∀ s ∈ hist, ∀ b c receipt, s.before (.cloudRun id) = some b → s.after (.cloudRun id) = some c →
      b.queueProvider = .aliyunMns → b.queueReceipt = some receipt → c.queueReceipt ≠ some receipt →
        (∃ req, LeasesWith id req s ∧ c.queueReceipt = req.queueReceipt) ∨
          (DeletesReceipt id s.op ∧ b.status.terminal = true ∧ c.queueReceipt = none ∧ Frozen b c)) ∧
    ∀ c receipt, w.db (.cloudRun id) = some c → c.queueProvider = .aliyunMns →
      c.queueReceipt = some receipt → LastLeased id hist receipt ∧
        (c.status.terminal = true → mnsReceiptRecoverySkipReason c = none) := by
  refine ⟨fun s hs b c receipt hb hc hq hr hchange => ?_,fun c receipt hc hq hr => ?_⟩
  · have hne : s.before (.cloudRun id) ≠ s.after (.cloudRun id) := by
      rw [hb,hc]
      rintro heq
      cases heq
      exact hchange hr
    have hm := ((h.rowLog id).moves s hs).resolve_left hne
    rw [hb,hc] at hm
    cases hm.receipt hq with
    | leased req ho _ _ hmessage hreceipt =>
      rcases hreceipt with ⟨hreceipt,_⟩ | ⟨hreceipt,_⟩
      · exact Or.inl ⟨req,⟨ho,hne⟩,hreceipt⟩
      · exact (hchange (hreceipt.trans hr)).elim
    | kept _ hreceipt _ => exact (hchange (hreceipt.trans hr)).elim
    | cleared ho hended hreceipt =>
      obtain ⟨c',hc',hfrozen,_⟩ := hm.ended hended
      cases hc'
      exact Or.inr ⟨ho,hended,hreceipt,hfrozen⟩
  · have hok := (h.rowLog id).receipt c hc hq
    refine ⟨hok.last receipt hr,fun hended => ?_⟩
    have hpresent := hok.present receipt hr
    simp [mnsReceiptRecoverySkipReason,hq,hended,hr,hpresent]

omit [Digest] in
theorem receipt_acknowledged_retried :
    let _ := plainDigest
    ∃ s ∈ (sampleRuns sampleReported).1, ∃ b c, s.before (.cloudRun 7) = some b ∧
      s.after (.cloudRun 7) = some c ∧ b.queueReceipt = some "receipt" ∧
      DeletesReceipt 7 s.op ∧ b.status.terminal = true ∧ c.queueReceipt = none ∧ Frozen b c := by
  let _ := plainDigest
  have hsome : (sampleRuns sampleReported).1.any (fun s => (s.before (.cloudRun 7)).any fun b =>
      (s.after (.cloudRun 7)).any fun c => b.queueProvider = .aliyunMns ∧
        b.queueReceipt = some "receipt" ∧ c.queueReceipt = none ∧ s.op.isClaim = false) = true := by
    decide +kernel
  obtain ⟨s,hs,hbefore⟩ := List.any_eq_true.mp hsome
  obtain ⟨b,hb,hafter⟩ := (Option.any_eq_true _ _).mp hbefore
  obtain ⟨c,hc,hchange⟩ := (Option.any_eq_true _ _).mp hafter
  simp only [decide_eq_true_eq] at hchange
  obtain ⟨hq,hr,hnone,hop⟩ := hchange
  rcases (receipt_acknowledged (sampleRuns_history sampleReported) 7).1 s hs b c "receipt" hb hc hq hr
    (by simp [hnone]) with ⟨req,hlease,hreceipt⟩ | hcleared
  · rw [hlease.1] at hop
    cases hop
  · exact ⟨s,hs,b,c,hb,hc,hr,hcleared⟩

end receipts

section acknowledgement

variable {clock : ℕ → Time} {name : String} {s s' : Session Row} {i : Id}

-- The answers that the queue gives, once there is a client.
def deleteAnswer (deleted : Bool) : MnsDelete := if deleted then .deleted else .failed

-- The commit that records the answer changes the row of the run, and nothing else.
structure Answered (id : Id) (b : CloudRun) (deleted : Bool) (w u : World) : Prop where
  asked : w.db (.cloudRun id) = some b
  queueProvider : b.queueProvider = .aliyunMns
  present : isPresent b.queueReceipt = true
  recorded : ∃ c, u.db = Function.update w.db (.cloudRun id) (some c) ∧ Frozen b c ∧
    c.queueReceipt = if deleted then none else b.queueReceipt

-- Up to the question the operation does the same, whatever the queue then answers.
abbrev AckForks {α : Type} (clock : ℕ → Time) (name : String) (m : MnsDelete → Op α) (s : Session Row) :
    Prop :=
  Forks clock (.unhandled name) (fun (x : Id × CloudRun) j => Answered x.1 x.2 j) (m (.misconfigured name))
    (fun j => m (deleteAnswer j)) s

section sessions

variable {k : Key} {row : k.Entity}

theorem refresh_ok (h : exec clock (refresh k) s = (.ok row,s')) :
    s' = s ∧ s.pend.view s.world.db k = some row := by
  have hget : exec clock (get k : Op _) s = (.ok (s.pend.view s.world.db k),s) := rfl
  unfold refresh at h
  rw [exec_bind_ok hget] at h
  cases hrow : s.pend.view s.world.db k with
  | none =>
    rw [hrow] at h
    cases h
  | some r =>
    rw [hrow] at h
    cases h
    exact ⟨rfl,rfl⟩

theorem refresh_of_row (h : s.pend.view s.world.db k = some row) :
    exec clock (refresh k) s = (.ok row,s) ∧ commits clock (refresh k) s = [] := by
  have hget : exec clock (get k : Op _) s = (.ok (s.pend.view s.world.db k),s) := rfl
  unfold refresh
  rw [exec_bind_ok hget,commits_bind_ok hget,h]
  exact ⟨rfl,rfl⟩

theorem getCloudRun_ok {ctx : Option AuthContext} {c : CloudRun}
    (h : exec clock (getCloudRunOr404 ctx i) s = (.ok c,s')) :
    s' = s ∧ s.pend.view s.world.db (.cloudRun i) = some c := by
  have hget : exec clock (get (.cloudRun i) : Op _) s = (.ok (s.pend.view s.world.db (.cloudRun i)),s) := rfl
  unfold getCloudRunOr404 getOr404 at h
  rw [bind_assoc,exec_bind_ok hget] at h
  cases hrow : s.pend.view s.world.db (.cloudRun i) with
  | none =>
    rw [hrow] at h
    cases h
  | some row =>
    rw [hrow] at h
    unfold enforceWorkspaceAccess at h
    cases ctx with
    | none =>
      cases h
      exact ⟨rfl,rfl⟩
    | some a =>
      change exec clock ((if row.workspaceId = a.workspaceId then pure () else
        httpError 404 "Cloud run not found" : Op Unit) >>= fun _ => pure row) s = _ at h
      by_cases hw : row.workspaceId = a.workspaceId
      · rw [if_pos hw] at h
        cases h
        exact ⟨rfl,rfl⟩
      · rw [if_neg hw] at h
        cases h

theorem permission_ok {ctx : Option AuthContext} {a : Unit}
    (h : exec clock (requireAuditedPermissionIfAuthenticated ctx) s = (.ok a,s')) : s' = s := by
  cases ctx with
  | none =>
    cases h
    rfl
  | some c =>
    unfold requireAuditedPermissionIfAuthenticated at h
    dsimp only at h
    split at h
    · cases h
      rfl
    · cases h

-- The last transaction of an operation: one row is written, committed and read again.
def recordRow (k : Key) (row new : k.Entity) : Op k.Entity := do
  flush k row new
  commit
  refresh k

theorem exec_recordRow (new : k.Entity) (hidle : s.pend = Pending.empty) (hrow : s.world.db k = some row) :
    ∃ u : World, u.db = Function.update s.world.db k (some new) ∧
      exec clock (recordRow k row new) s = (.ok new,⟨u,Pending.empty,s.tick⟩) ∧
      commits clock (recordRow k row new) s = [(s.world,u)] := by
  obtain ⟨w,p,tick⟩ := s
  subst hidle
  have hlast (u : World) (hu : u.db = Function.update w.db k (some new)) :
      exec clock (refresh k) (⟨u,Pending.empty,tick⟩ : Session Row) = (.ok new,⟨u,Pending.empty,tick⟩) ∧
        commits clock (refresh k) (⟨u,Pending.empty,tick⟩ : Session Row) = [] := by
    refine refresh_of_row ?_
    show u.db k = some new
    rw [hu,Function.update_self]
  have hexec : exec clock (recordRow k row new) ⟨w,Pending.empty,tick⟩ =
      exec clock (.flush k (some row) (some new) (.commit (refresh k))) ⟨w,Pending.empty,tick⟩ := rfl
  have hcommits : commits clock (recordRow k row new) ⟨w,Pending.empty,tick⟩ =
      commits clock (.flush k (some row) (some new) (.commit (refresh k))) ⟨w,Pending.empty,tick⟩ := rfl
  by_cases hnew : row = new
  · subst hnew
    have hdb : Function.update w.db k (some row) = w.db := by rw [← hrow,Function.update_eq_self]
    obtain ⟨hrefresh,hnone⟩ := hlast ⟨w.db,w.next⟩ hdb.symm
    refine ⟨⟨w.db,w.next⟩,hdb.symm,hexec.trans ?_,hcommits.trans ?_⟩
    · simp only [exec,if_true]
      exact hrefresh
    · simp only [commits,if_true]
      exact congrArg _ hnone
  · have hne : (some row : Option k.Entity) ≠ some new := fun h => hnew (Option.some.inj h)
    have hmerged : Schema.merge k (some row) (some new) (w.db k) = some new := by
      rw [hrow]
      exact Schema.merge_loaded (V := Row) k (some row) (some new)
    have hdb : ((Pending.empty.put k (some row) (some new) : Pending Row).view w.db) =
        Function.update w.db k (some new) := congrArg Stage.current (Stage.of_put k _ Pending.empty w _)
    obtain ⟨hrefresh,hnone⟩ := hlast ⟨_,w.next⟩ hdb
    refine ⟨⟨(Pending.empty.put k (some row) (some new) : Pending Row).view w.db,w.next⟩,hdb,
      hexec.trans ?_,hcommits.trans ?_⟩
    · simp only [exec,if_neg hne,Pending.view_empty,hmerged]
      exact hrefresh
    · simp only [commits,if_neg hne,Pending.view_empty,hmerged]
      exact congrArg _ hnone

end sessions

section forks

variable {ctx : Option AuthContext}

theorem goesOn_record {c : CloudRun} (new : Time → CloudRun) {deleted : Bool} (hidle : s.pend = Pending.empty)
    (hc : s.world.db (.cloudRun i) = some c) (hqueue : c.queueProvider = .aliyunMns)
    (hpresent : isPresent c.queueReceipt = true) (hfrozen : ∀ t, Frozen c (new t))
    (hreceipt : ∀ t, (new t).queueReceipt = if deleted then none else c.queueReceipt) :
    GoesOn clock (Answered i c deleted) [] s.world
      (.utcNow fun t => recordRow (.cloudRun i) c (new t) : Op CloudRun) s := by
  obtain ⟨u,hu,hexec,hcommits⟩ := exec_recordRow (s := ⟨s.world,s.pend,s.tick+1⟩) (new (clock s.tick)) hidle
    hc
  exact ⟨[],hexec,hcommits,⟨hc,hqueue,hpresent,_,hu,hfrozen _,hreceipt _⟩,
    fun _ h => absurd h List.not_mem_nil,rfl,rfl⟩

-- The acknowledgement starts from what the commit before it has left.
theorem forks_acknowledge (hidle : s.pend = Pending.empty) {c : CloudRun}
    (hc : s.world.db (.cloudRun i) = some c) :
    AckForks clock name (ackMnsQueueReceiptAfterTerminalCommit i c) s := by
  unfold AckForks ackMnsQueueReceiptAfterTerminalCommit
  split
  · exact .refl _
  · rename_i hguard
    simp only [ne_eq,not_or,not_not,Bool.not_eq_true',Bool.not_eq_false] at hguard
    refine .parted (i,c) rfl fun j => ?_
    cases j with
    | true => exact goesOn_record c.mnsMessageDeleted hidle hc hguard.1 hguard.2 (fun _ => rfl) fun _ => rfl
    | false =>
      exact goesOn_record c.mnsMessageDeleteFailed hidle hc hguard.1 hguard.2 (fun _ => rfl) fun _ => rfl

theorem forks_settle (c : CloudRun) : AckForks clock name (settleAndCommit i c) s := by
  refine .after fun _ _ _ => .after fun _ _ _ => .after fun _ _ hcommit => .after fun c _ hc => ?_
  cases hcommit
  obtain ⟨rfl,hrow⟩ := refresh_ok hc
  exact forks_acknowledge rfl hrow

theorem forks_ended {α : Type} {c : CloudRun} {g : CloudRun → α} :
    AckForks clock name (fun d => settleAndCommit i c d >>= fun c => pure (g c)) s :=
  (forks_settle c).before fun _ => idles_pure _

theorem forks_markFailed {c : CloudRun} {localRunId : Id} {localRun : LocalTaskRun}
    {failureReason message : String} :
    AckForks clock name (markClaimedCloudRunFailed i c localRunId localRun failureReason message) s :=
  .after fun _ _ _ => .after fun _ _ _ => .after fun _ _ _ => .after fun _ _ _ => .after fun _ _ _ =>
    forks_ended

variable {result : SandboxExecutionResult} {secrets : List String}

theorem forks_markCancelled {run : ReloadedRun} :
    AckForks clock name (fun d => markClaimedCloudRunCancelled i run ⟨result,secrets,d⟩) s :=
  .after fun _ _ _ => .after fun _ _ _ => .after fun _ _ _ => .after fun _ _ _ => .after fun _ _ _ =>
    .after fun _ _ _ => forks_ended

theorem forks_finalizeFailed {run : ReloadedRun} {c : CloudRun} {t t' : Time} :
    AckForks clock name (fun d => finalizeFailed i run c ⟨result,secrets,d⟩ t t') s :=
  .after fun _ _ _ => .after fun _ _ _ => .after fun _ _ _ => .after fun _ _ _ => .after fun _ _ _ =>
    .after fun _ _ _ => .after fun _ _ _ => .after fun _ _ _ => forks_ended

theorem forks_finalizePatched {run : ReloadedRun} {c : CloudRun} {t t' : Time} :
    AckForks clock name (fun d => finalizePatched i run c ⟨result,secrets,d⟩ t t') s :=
  .after fun _ _ _ => .after fun _ _ _ => .after fun _ _ _ => .after fun _ _ _ => .after fun _ _ _ =>
    .after fun _ _ _ => .after fun _ _ _ => .after fun _ _ _ => .after fun _ _ _ => .after fun _ _ _ =>
      .after fun _ _ _ => .after fun _ _ _ => .after fun _ _ _ => forks_ended

theorem forks_lost {taskId : Id} :
    AckForks clock name (fun d => finalizationLost ctx i taskId ⟨result,secrets,d⟩) s :=
  .after fun _ _ _ => .after fun _ _ _ => .ite forks_markCancelled (.refl _)

theorem forks_finalize {c : CloudRun} :
    AckForks clock name (fun d => finalizeClaimedCloudRunResult ctx i c ⟨result,secrets,d⟩) s := by
  refine .after fun _ _ _ => .ite forks_markCancelled (.after fun _ _ _ => .after fun _ _ _ =>
    .after fun _ _ _ => .ite forks_markCancelled (.after fun _ _ _ => .after fun _ _ _ =>
      .after fun _ _ _ => .ite (.after fun _ _ _ => ?_) forks_lost))
  exact .ite forks_finalizePatched forks_finalizeFailed

theorem forks_execute {c : CloudRun} {localRunId : Id} {localRun : LocalTaskRun}
    {profileCheck : Except (ℕ × String) Unit} {execution : Option SandboxExecutionResult} :
    AckForks clock name (fun d =>
      executeClaimedCloudRun ctx i c localRunId localRun ⟨profileCheck,execution,secrets,d⟩) s := by
  refine .after fun refused _ _ => ?_
  cases refused with
  | some detail => exact forks_markFailed
  | none =>
    refine .caught forks_finalize rfl fun e _ => ?_
    cases e with
    | http statusCode detail => exact .after fun _ _ _ => .after fun _ _ _ => forks_markFailed
    | integrityError => exact .refl _
    | unhandled name => exact .refl _

theorem forks_retry (hidle : s.pend = Pending.empty) :
    AckForks clock name (retryRetainedMnsQueueReceiptDelete ctx i) s := by
  refine .after fun c _ hc => .after fun _ _ hpermitted => ?_
  obtain ⟨rfl,hrow⟩ := getCloudRun_ok hc
  obtain rfl := permission_ok hpermitted
  rw [hidle,Pending.view_empty] at hrow
  split
  · exact .refl _
  · rename_i hskip
    obtain ⟨hqueue,_,hpresent⟩ := skipReason_none hskip
    have hrecorded {status : ProviderOperationStatus} {reason : String} (new : Time → CloudRun)
        {deleted : Bool} (hfrozen : ∀ t, Frozen c (new t))
        (hreceipt : ∀ t, (new t).queueReceipt = if deleted then none else c.queueReceipt) :
        GoesOn clock (Answered i c deleted) [] _ _ _ :=
      (goesOn_record new hidle hrow hqueue hpresent hfrozen hreceipt).before
        (g := fun c => (pure ⟨status,reason,i,c⟩ : Op CloudRunProviderOperationResult)) fun _ => idles_pure _
    refine .parted (i,c) rfl fun j => ?_
    cases j with
    | true => exact hrecorded c.receiptRecovered (fun _ => rfl) fun _ => rfl
    | false => exact hrecorded c.receiptRetained (fun _ => rfl) fun _ => rfl

end forks

variable [Digest]

-- The same operation, where the queue's delete gives another answer.
def CloudRunOp.answering (d : MnsDelete) : CloudRunOp → CloudRunOp
  | .runner (.complete ctx cred body replies) =>
    .runner (.complete ctx cred body { replies with mnsDelete := d })
  | .runner (.process ctx cloudRunId workerId replies) =>
    .runner (.process ctx cloudRunId workerId { replies with mnsDelete := d })
  | .retryReceipt ctx cloudRunId _ => .retryReceipt ctx cloudRunId d
  | o => o

theorem forks_program (clock : ℕ → Time) (name : String) (o : CloudRunOp) (hidle : s.pend = Pending.empty) :
    Forks clock (.unhandled name) (fun (x : Id × CloudRun) j => Answered x.1 x.2 j)
      (o.answering (.misconfigured name)).program (fun j => (o.answering (deleteAnswer j)).program) s := by
  cases o with
  | runner o =>
    cases o with
    | complete ctx cred body replies =>
      exact .before (.after fun _ _ _ => forks_finalize) fun _ => idles_pure _
    | process ctx cloudRunId workerId replies =>
      exact .before (.after fun _ _ _ => .before forks_execute fun _ => idles_commit (idles_pure _))
        fun _ => idles_pure _
    | _ => exact .refl _
  | retryReceipt ctx cloudRunId mnsDelete => exact .before (forks_retry hidle) fun _ => idles_pure _
  | _ => exact .refl _

section acknowledged

variable {o : CloudRunOp} {hist : List RunCommit} {w w' : World} {id : Id} {b c : CloudRun}

-- The operation comes to get_cloud_queue_provider(...).delete(queue_receipt=cloud_run.queue_receipt) with
-- w' committed: whatever then keeps the client from being made is what it raises.
def AsksDelete (clock : ℕ → Time) (o : CloudRunOp) (w w' : World) : Prop :=
  ∀ name, perform clock (o.answering (.misconfigured name)).program w = (.error (.unhandled name),w')

-- What the operation has committed when it asks.
def askedAfter (clock : ℕ → Time) (o : CloudRunOp) (w : World) : List RunCommit :=
  labelled clock (o.answering (.misconfigured ""))
    (commits clock (o.answering (.misconfigured "")).program ⟨w,Pending.empty,0⟩)

theorem AsksDelete.parted (h : AsksDelete clock o w w') : ∃ id b, ∀ deleted,
    GoesOn clock (Answered id b deleted)
      (commits clock (o.answering (.misconfigured "")).program ⟨w,Pending.empty,0⟩) w'
      (o.answering (deleteAnswer deleted)).program ⟨w,Pending.empty,0⟩ := by
  have hexec (name : String) : exec clock (o.answering (.misconfigured name)).program ⟨w,Pending.empty,0⟩ =
      (.error (.unhandled name),
        (exec clock (o.answering (.misconfigured name)).program ⟨w,Pending.empty,0⟩).2) := by
    have hstop : (perform clock (o.answering (.misconfigured name)).program w).1 = .error (.unhandled name) := by
      rw [h name]
    exact Prod.ext hstop rfl
  have hworld : (exec clock (o.answering (.misconfigured "")).program ⟨w,Pending.empty,0⟩).2.world = w' :=
    congrArg Prod.snd (h "")
  cases forks_program clock "" (s := ⟨w,Pending.empty,0⟩) o rfl with
  | parted x hstop hgoes =>
    rw [hstop] at hworld
    refine ⟨x.1,x.2,fun deleted => ?_⟩
    rw [← hworld]
    exact hgoes deleted
  | same hsame _ =>
    have hone := (hsame true).symm.trans (hexec "")
    cases forks_program clock "other" (s := ⟨w,Pending.empty,0⟩) o rfl with
    | parted x _ hgoes =>
      obtain ⟨_,hend,_⟩ := hgoes true
      cases hone.symm.trans hend
    | same hsame' _ =>
      have hother := (hsame' true).symm.trans (hexec "other")
      have hname := congrArg Prod.fst (hone.symm.trans hother)
      exact absurd hname (by simp)

-- A commit that takes the receipt away records that its deletion succeeded.
theorem clears_receipt {p : World × World} (hp : p ∈ commits clock o.program ⟨w,Pending.empty,0⟩)
    (hb : p.1.db (.cloudRun id) = some b) (hc : p.2.db (.cloudRun id) = some c)
    (hq : b.queueProvider = .aliyunMns) (hr : b.queueReceipt ≠ none) (hnone : c.queueReceipt = none) :
    DeletesReceipt id o ∧ b.status.terminal = true := by
  have hm := commits_move clock o w p hp id
  rw [show runRows.of p.1.db id = some b from hb,show runRows.of p.2.db id = some c from hc] at hm
  rcases hm with heq | hm
  · cases heq
    exact (hr hnone).elim
  · cases hm.receipt hq with
    | leased req _ _ _ _ hreceipt =>
      rcases hreceipt with ⟨hreceipt,hpresent,_⟩ | ⟨hreceipt,_⟩
      · rw [hreceipt] at hnone
        rw [hnone] at hpresent
        cases hpresent
      · exact (hr (hreceipt ▸ hnone)).elim
    | kept _ hreceipt _ => exact (hr (hreceipt ▸ hnone)).elim
    | cleared ho hended _ => exact ⟨ho,hended⟩

omit [Digest] in
theorem DeletesReceipt.answering (h : DeletesReceipt id o) : o.answering .deleted = o := by
  rcases h with h | ⟨ctx,rfl⟩
  · unfold CloudRunOp.ending at h
    split at h
    · rename_i replies
      cases replies
      cases h
      rfl
    · rename_i replies
      split at h
      · cases replies
        cases h
        rfl
      · cases h
    · cases h
  · rfl

omit [Digest] in
theorem not_deletes_misconfigured {name : String} : ¬ DeletesReceipt id (o.answering (.misconfigured name)) := by
  intro h
  unfold DeletesReceipt at h
  cases o with
  | runner o => cases o <;> simp [CloudRunOp.answering,CloudRunOp.ending] at h
  | _ => simp [CloudRunOp.answering,CloudRunOp.ending] at h

theorem clears_asked {p : World × World} (hp : p ∈ commits clock o.program ⟨w,Pending.empty,0⟩)
    (hb : p.1.db (.cloudRun id) = some b) (hc : p.2.db (.cloudRun id) = some c)
    (hq : b.queueProvider = .aliyunMns) (hr : b.queueReceipt ≠ none) (hnone : c.queueReceipt = none) :
    AsksDelete clock o w p.1 := by
  intro name
  have hfirst (hmade : p ∈ commits clock (o.answering (.misconfigured name)).program ⟨w,Pending.empty,0⟩) :
      False := not_deletes_misconfigured (clears_receipt hmade hb hc hq hr hnone).1
  have hdeletes := (clears_receipt hp hb hc hq hr hnone).1.answering
  cases forks_program clock name (s := ⟨w,Pending.empty,0⟩) o rfl with
  | same _ hsame =>
    have hmade : commits clock (o.answering (.misconfigured name)).program ⟨w,Pending.empty,0⟩ =
      commits clock (o.answering .deleted).program ⟨w,Pending.empty,0⟩ := hsame true
    rw [hdeletes] at hmade
    exact (hfirst (hmade ▸ hp)).elim
  | parted x hstop hgoes =>
    have hdeleted : GoesOn clock (Answered x.1 x.2 true) _ _ (o.answering .deleted).program
      ⟨w,Pending.empty,0⟩ := hgoes true
    rw [hdeletes] at hdeleted
    obtain ⟨rest,_,hmade,_,hrest,_⟩ := hdeleted
    rw [hmade] at hp
    rcases List.mem_append.mp hp with hp | hp
    · exact (hfirst hp).elim
    · rcases List.mem_cons.mp hp with rfl | hp
      · unfold perform
        rw [hstop]
      · rw [hrest p hp,hb] at hc
        cases hc
        exact (hr hnone).elim

theorem retry_asks {ctx : Option AuthContext} {mnsDelete : MnsDelete} (hc : w.db (.cloudRun id) = some c)
    (hskip : mnsReceiptRecoverySkipReason c = none)
    (hctx : ∀ a, ctx = some a → c.workspaceId = a.workspaceId ∧ a.permitted = true) :
    AsksDelete clock (.retryReceipt ctx id mnsDelete) w w := by
  intro name
  have hload : exec clock (getCloudRunOr404 ctx id) ⟨w,Pending.empty,0⟩ = (.ok c,⟨w,Pending.empty,0⟩) := by
    have hget : exec clock (get (.cloudRun id) : Op _) ⟨w,Pending.empty,0⟩ =
      (.ok (w.db (.cloudRun id)),⟨w,Pending.empty,0⟩) := rfl
    unfold getCloudRunOr404 getOr404 enforceWorkspaceAccess
    rw [bind_assoc,exec_bind_ok hget,hc]
    cases ctx with
    | none => rfl
    | some a =>
      show exec clock ((if c.workspaceId = a.workspaceId then pure () else
        httpError 404 "Cloud run not found" : Op Unit) >>= fun _ => pure c) _ = _
      rw [if_pos (hctx a rfl).1]
      rfl
  have hpermitted : exec clock (requireAuditedPermissionIfAuthenticated ctx) ⟨w,Pending.empty,0⟩ =
      (.ok (),⟨w,Pending.empty,0⟩) := by
    cases ctx with
    | none => rfl
    | some a =>
      unfold requireAuditedPermissionIfAuthenticated
      dsimp only
      rw [if_pos (hctx a rfl).2]
      rfl
  have hexec : exec clock (retryRetainedMnsQueueReceiptDelete ctx id (.misconfigured name))
      ⟨w,Pending.empty,0⟩ = (.error (.unhandled name),⟨w,Pending.empty,0⟩) := by
    unfold retryRetainedMnsQueueReceiptDelete
    rw [exec_bind_ok hload,exec_bind_ok hpermitted,hskip]
    rfl
  unfold perform
  rw [show (CloudRunOp.answering (.misconfigured name) (.retryReceipt ctx id mnsDelete)).program =
    retryRetainedMnsQueueReceiptDelete ctx id (.misconfigured name) >>= fun _ => pure () from rfl,
    exec_bind_error hexec]

-- The queue is asked to delete a message only for an ended run, with the receipt of its last delivery.
theorem deletion_follows_end (h : RunHistory hist w) (clock : ℕ → Time) (o : CloudRunOp) :
    (∀ w', AsksDelete clock o w w' → ∃ id b receipt, w'.db (.cloudRun id) = some b ∧
      b.queueProvider = .aliyunMns ∧ b.status.terminal = true ∧ b.queueReceipt = some receipt ∧
      LastLeased id (hist ++ askedAfter clock o w) receipt ∧
      ∀ deleted, ∃ c, (perform clock (o.answering (deleteAnswer deleted)).program w).2.db =
          Function.update w'.db (.cloudRun id) (some c) ∧ Frozen b c ∧
        c.queueReceipt = if deleted then none else some receipt) ∧
    (∀ p ∈ commits clock o.program ⟨w,Pending.empty,0⟩, ∀ id b c, p.1.db (.cloudRun id) = some b →
      p.2.db (.cloudRun id) = some c → b.queueProvider = .aliyunMns → b.queueReceipt ≠ none →
        c.queueReceipt = none → DeletesReceipt id o ∧ AsksDelete clock o w p.1) ∧
    ∀ id c, w.db (.cloudRun id) = some c → c.queueProvider = .aliyunMns → c.queueReceipt ≠ none →
      c.status.terminal = true → ∀ ctx mnsDelete,
        (∀ a, ctx = some a → c.workspaceId = a.workspaceId ∧ a.permitted = true) →
          AsksDelete clock (.retryReceipt ctx id mnsDelete) w w := by
  refine ⟨fun w' hasks => ?_,fun p hp id b c hb hc hq hr hnone => ?_,fun id c hc hq hr hended ctx _ hctx => ?_⟩
  · obtain ⟨id,b,hgoes⟩ := hasks.parted
    have hafter : RunHistory (hist ++ askedAfter clock o w) w' := by
      have hop := RunHistory.op clock (o.answering (.misconfigured "")) h
      rwa [hasks ""] at hop
    obtain @⟨s₁,u,_,rest,_,hmade,⟨hb,hq,hpresent,c,hu,_,hreceipt⟩,_,_,_⟩ := hgoes true
    obtain ⟨receipt,hr⟩ : ∃ receipt, b.queueReceipt = some receipt := by
      cases hr : b.queueReceipt with
      | none =>
        rw [hr] at hpresent
        cases hpresent
      | some receipt => exact ⟨receipt,rfl⟩
    have hmem : (w',u) ∈ commits clock (o.answering .deleted).program ⟨w,Pending.empty,0⟩ := by
      rw [show commits clock (o.answering .deleted).program ⟨w,Pending.empty,0⟩ = _ from hmade]
      exact List.mem_append_right _ List.mem_cons_self
    have hc : u.db (.cloudRun id) = some c := by rw [hu,Function.update_self]
    have hended := (clears_receipt hmem hb hc hq (by simp [hr]) hreceipt).2
    have hok := (hafter.rowLog id).receipt b hb hq
    refine ⟨id,b,receipt,hb,hq,hended,hr,hok.last receipt hr,fun deleted => ?_⟩
    obtain ⟨_,hend,_,hanswered,_,hlast,_⟩ := hgoes deleted
    obtain ⟨c,hu,hfrozen,hreceipt⟩ := hanswered.recorded
    refine ⟨c,?_,hfrozen,hr ▸ hreceipt⟩
    unfold perform
    rw [hend]
    exact hlast.trans hu
  · exact ⟨(clears_receipt hp hb hc hq hr hnone).1,clears_asked hp hb hc hq hr hnone⟩
  · have hok := (h.rowLog id).receipt c hc hq
    obtain ⟨receipt,hreceipt⟩ := Option.ne_none_iff_exists'.mp hr
    have hpresent := hok.present receipt hreceipt
    exact retry_asks hc (by simp [mnsReceiptRecoverySkipReason,hq,hended,hreceipt,hpresent]) hctx

omit [Digest] in
theorem deletion_follows_end_reported :
    let _ := plainDigest
    AsksDelete (fun _ => 3) (.retryReceipt sampleOwner 7 .deleted) (sampleRuns (sampleReported.take 3)).2
      (sampleRuns (sampleReported.take 3)).2 ∧
    ∃ id b c receipt, (sampleRuns (sampleReported.take 3)).2.db (.cloudRun id) = some b ∧
      b.status.terminal = true ∧ b.queueReceipt = some receipt ∧
      (perform (fun _ => 3) (CloudRunOp.retryReceipt sampleOwner 7 .deleted).program
        (sampleRuns (sampleReported.take 3)).2).2.db =
          Function.update (sampleRuns (sampleReported.take 3)).2.db (.cloudRun id) (some c) ∧
      c.queueReceipt = none := by
  intro _
  have h := sampleRuns_history (sampleReported.take 3)
  have hstored : ((sampleRuns (sampleReported.take 3)).2.db (.cloudRun 7)).any (fun c =>
      c.queueProvider = .aliyunMns ∧ c.queueReceipt ≠ none ∧ c.status.terminal = true ∧
        sampleOwner.all (fun a => c.workspaceId = a.workspaceId ∧ a.permitted = true) = true) = true := by
    decide +kernel
  generalize (sampleRuns (sampleReported.take 3)).2 = w at h hstored ⊢
  obtain ⟨c,hc,hstored⟩ := (Option.any_eq_true _ _).mp hstored
  simp only [decide_eq_true_eq] at hstored
  obtain ⟨hq,hr,hended,hall⟩ := hstored
  have hctx : ∀ a, sampleOwner = some a → c.workspaceId = a.workspaceId ∧ a.permitted = true := by
    intro a ha
    rw [ha] at hall
    exact of_decide_eq_true hall
  have hasks := (deletion_follows_end h (fun _ => 3) (.retryReceipt sampleOwner 7 .deleted)).2.2 7 c hc hq hr
    hended sampleOwner .deleted hctx
  obtain ⟨id,b,receipt,hb,_,hended,hr,_,hanswer⟩ :=
    (deletion_follows_end h (fun _ => 3) (.retryReceipt sampleOwner 7 .deleted)).1 w hasks
  obtain ⟨d,hdb,_,hreceipt⟩ := hanswer true
  exact ⟨hasks,id,b,d,receipt,hb,hended,hr,hdb,hreceipt⟩

end acknowledged

end acknowledgement

end AiScdc
