import AiScdc.CloudRunner.Receipts

namespace AiScdc
open Transaction

variable [Digest] {id : Id} {clock : ℕ → Time} {o : CloudRunOp} {hist : List RunCommit} {w : World}
  {b c : CloudRun}

section unsent

-- No queue message is sent for a container group, so nothing is ever delivered for it.
structure OnEci (c : CloudRun) : Prop where
  queue : c.queueProvider = .aliyunMns
  runtime : c.runtimeProvider = some .aliyunEci

theorem RunMove.unsent (h : RunMove clock o id (some b) (some c)) (hb : OnEci b)
    (hm : b.queueMessageId = none) : c.queueMessageId = none := by
  have hresummed {d : CloudRun} (hr : Resummed d c) (hd : d.queueMessageId = b.queueMessageId) :
      c.queueMessageId = none := by
    obtain ⟨_,_,rfl⟩ := hr
    exact hd.trans hm
  cases h with
  | queueRefused _ _ _ hr => exact hresummed hr rfl
  | enqueued _ hu hsent =>
    cases hsent with
    | mns _ hruntime _ => exact (hruntime (hu.runtimeProvider ▸ hb.runtime)).elim
    | skipped | stub | localDb => rfl
  | runtimeRefused _ _ _ hr => exact hresummed hr rfl
  | leased receipt leaseId now _ hp _ _ =>
    have hreq := hp.symm.trans hb.queue
    simp only [delivered,hreq,reduceCtorEq,if_false,if_true]
    cases receipt <;> exact hm
  | exhausted _ _ _ _ hr => exact hresummed hr rfl
  | cancelledQueued _ _ hr => exact hresummed hr rfl
  | accepted m n _ =>
    obtain ⟨_,_,_,hframe⟩ := completedBy_frame _ (clock m) (clock n)
    rw [hframe]
    exact hm
  | finished _ _ _ _ _ _ _ hr => exact hresummed hr rfl
  | cancelledAfter _ _ _ _ hr => exact hresummed hr rfl
  | preflightFailed _ _ _ _ hx hr =>
    obtain ⟨_,_,_,_,_,_,rfl⟩ := hx.frame
    exact hresummed hr rfl
  | _ => exact hm

theorem RowLog.unsent {row : Option CloudRun} (h : RowLog id hist row) :
    ∀ c, row = some c → OnEci c → c.queueMessageId = none := by
  induction h with
  | start =>
    rintro c hc
    cases hc
  | kept _ _ _ ih => exact ih
  | @moved hist s b c _ _ _ hm ih =>
    rintro c rfl hc
    cases b with
    | none =>
      generalize s.op = o at hm
      cases hm
      rfl
    | some b =>
      have hb : OnEci b := ⟨hm.providers.1 ▸ hc.queue,hm.providers.2 ▸ hc.runtime⟩
      exact hm.unsent hb (ih b rfl hb)

end unsent

-- With the commit the row comes to say that the container group of the run was deleted.
def DeletesRuntime (id : Id) (s : RunCommit) : Prop :=
  ∃ b c, s.before (.cloudRun id) = some b ∧ s.after (.cloudRun id) = some c ∧
    b.externalStatus ≠ c.externalStatus ∧ c.externalStatus = some "runtime_cleanup_deleted"

structure RuntimeGone (c : CloudRun) : Prop where
  ended : c.status.terminal = true
  runtime : c.runtimeProvider = some .aliyunEci
  external : c.externalStatus = some "runtime_cleanup_deleted"

omit [Digest] in
theorem RuntimeGone.skipped (h : RuntimeGone c) : aliyunEciRuntimeCleanupSkipReason c ≠ none := by
  simp [aliyunEciRuntimeCleanupSkipReason,h.ended,h.runtime,h.external]

omit [Digest] in
theorem runtimeDeleted_gone {now : Time} (h : aliyunEciRuntimeCleanupSkipReason b = none) :
    RuntimeGone (b.runtimeDeleted now) := by
  unfold aliyunEciRuntimeCleanupSkipReason at h
  split at h
  · cases h
  · split at h
    · cases h
    · exact ⟨by simp_all [CloudRun.runtimeDeleted],by simp_all [CloudRun.runtimeDeleted],rfl⟩

omit [Digest] in
theorem delivered_external (provider : QueueProvider) (receipt : Option String) (leaseId : Id) (t : Time) :
    (delivered id c provider receipt leaseId t).externalStatus = c.externalStatus ∨
      (delivered id c provider receipt leaseId t).externalStatus ∈ [some "claimed",some "mns_message_claimed"] := by
  unfold delivered
  repeat' split
  all_goals simp [CloudRun.externalStubClaimed,CloudRun.mnsMessageClaimed]

omit [Digest] in
theorem completedBy_external (status : ResultStatus) (s t : Time) :
    (completedBy c status s t).externalStatus = c.externalStatus ∨
      (completedBy c status s t).externalStatus ∈ [some "completed",some "failed"] := by
  unfold completedBy
  repeat' split
  all_goals cases status <;> simp [CloudRun.externalStubCompleted,CloudRun.callbackTokenUsed]

-- Only the deletion that the provider has answered makes the row say so.
theorem RunMove.deletes (h : RunMove clock o id (some b) (some c)) (hne : b.externalStatus ≠ c.externalStatus)
    (hc : c.externalStatus = some "runtime_cleanup_deleted") :
    (∃ ctx, o = .cleanupRuntime ctx id .deleted) ∧ RuntimeGone c := by
  have hresummed {d : CloudRun} (hr : Resummed d c) (hd : d.externalStatus = b.externalStatus ∨
      d.externalStatus ∈ [some "failed",some "requeued"]) : False := by
    obtain ⟨_,_,rfl⟩ := hr
    rcases hd with hd | hd
    · exact hne hd.symm
    · rw [show d.externalStatus = _ from hc] at hd
      simp at hd
  cases h with
  | queueRefused _ _ _ hr => exact (hresummed hr (by simp [CloudRun.queueEnqueueFailed])).elim
  | enqueued _ _ hsent =>
    cases hsent with
    | mns | stub => simp [CloudRun.enqueued] at hc
    | skipped | localDb => exact (hne rfl).elim
  | runtimeRefused _ _ _ hr => exact (hresummed hr (by simp [CloudRun.runtimeSubmissionFailed])).elim
  | submitted => simp [CloudRun.runtimeSubmitted] at hc
  | leased receipt leaseId n _ _ _ _ =>
    rcases delivered_external _ receipt leaseId (clock n) with heq | hmem
    · refine (hne ?_).elim
      rw [heq]
      rfl
    · rw [hc] at hmem
      simp at hmem
  | exhausted _ _ _ _ hr =>
    refine (hresummed hr ?_).elim
    simp only [CloudRun.attemptsExhausted]
    split <;> simp
  | requeued =>
    simp only [CloudRun.requeued] at hne hc
    split at hc
    · simp at hc
    · rename_i hstub
      simp [hstub] at hne
  | cancelledQueued _ _ hr => exact (hresummed hr (Or.inl rfl)).elim
  | accepted m n _ =>
    rcases completedBy_external _ (clock m) (clock n) with heq | hmem
    · exact (hne heq.symm).elim
    · rw [hc] at hmem
      simp at hmem
  | finished _ _ _ _ _ _ _ hr => exact (hresummed hr (Or.inl rfl)).elim
  | cancelledAfter _ _ _ _ hr => exact (hresummed hr (Or.inl rfl)).elim
  | preflightFailed _ _ _ _ hx hr =>
    obtain ⟨_,_,_,_,_,_,rfl⟩ := hx.frame
    exact (hresummed hr (Or.inl rfl)).elim
  | acknowledged | unacknowledged | receiptRecovered | receiptRetained | runtimeRetained =>
    simp [CloudRun.mnsMessageDeleted,CloudRun.mnsMessageDeleteFailed,CloudRun.receiptRecovered,
      CloudRun.receiptRetained,CloudRun.runtimeRetained] at hc
  | runtimeDeleted _ hskip => exact ⟨⟨_,rfl⟩,runtimeDeleted_gone hskip⟩
  | _ => exact (hne rfl).elim

theorem RowLog.deletes {row : Option CloudRun} (h : RowLog id hist row) : ∀ s ∈ hist, DeletesRuntime id s →
    (∃ ctx, s.op = .cleanupRuntime ctx id .deleted) ∧ ∃ c, s.after (.cloudRun id) = some c ∧ RuntimeGone c := by
  rintro s hs ⟨b,c,hb,hc,hne,hexternal⟩
  have hm := (h.moves s hs).resolve_left fun heq => by
    rw [hb,hc] at heq
    cases heq
    exact hne rfl
  rw [hb,hc] at hm
  obtain ⟨hop,hgone⟩ := hm.deletes hne hexternal
  exact ⟨hop,c,hc,hgone⟩

theorem RowLog.gone {row : Option CloudRun} (h : RowLog id hist row) :
    (∃ s ∈ hist, DeletesRuntime id s) → ∃ c, row = some c ∧ RuntimeGone c := by
  have hlast {t : RunCommit} {hist : List RunCommit} {row : Option CloudRun} (h : RowLog id (hist ++ [t]) row)
      (hrow : t.after (.cloudRun id) = row) (hdel : DeletesRuntime id t) : ∃ c, row = some c ∧ RuntimeGone c := by
    obtain ⟨_,c,hc,hgone⟩ := h.deletes t (List.mem_append_right _ List.mem_cons_self) hdel
    exact ⟨c,hrow.symm.trans hc,hgone⟩
  induction h with
  | start =>
    rintro ⟨s,hs,_⟩
    cases hs
  | @kept hist t b h hb hc ih =>
    rintro ⟨s,hs,hdel⟩
    rcases List.mem_append.mp hs with hs | hs
    · exact ih ⟨s,hs,hdel⟩
    · obtain rfl := List.mem_singleton.mp hs
      exact hlast (h.kept hb hc) hc hdel
  | @moved hist t b c h hb hc hm ih =>
    rintro ⟨s,hs,hdel⟩
    rcases List.mem_append.mp hs with hs | hs
    · obtain ⟨b,rfl,hgone⟩ := ih ⟨s,hs,hdel⟩
      obtain ⟨c,rfl,hfrozen,hrest⟩ := hm.ended hgone.ended
      rcases hrest with hsame | hreceipt | hcleanup
      · exact ⟨c,rfl,hfrozen.status ▸ hgone.ended,hm.providers.2.trans hgone.runtime,
          hsame.trans hgone.external⟩
      · obtain ⟨hq,_,hpresent⟩ := skipReason_none hreceipt
        have hnone := (h.receipt b rfl hq).undelivered (h.unsent b rfl ⟨hq,hgone.runtime⟩)
        simp [hnone,isPresent] at hpresent
      · exact (hgone.skipped hcleanup).elim
    · obtain rfl := List.mem_singleton.mp hs
      exact hlast (h.moved hb hc hm) hc hdel

theorem RowLog.deletesOnce {row : Option CloudRun} (h : RowLog id hist row) :
    hist.Pairwise fun s t => ¬ (DeletesRuntime id s ∧ DeletesRuntime id t) := by
  have hlast {hist : List RunCommit} {row : Option CloudRun} {t : RunCommit} (h : RowLog id hist row)
      (hb : t.before (.cloudRun id) = row) (s : RunCommit) (hs : s ∈ hist) :
      ¬ (DeletesRuntime id s ∧ DeletesRuntime id t) := by
    rintro ⟨hdel,b,c,hbefore,_,hne,hexternal⟩
    obtain ⟨d,hrow,hgone⟩ := h.gone ⟨s,hs,hdel⟩
    rw [hbefore,hrow] at hb
    cases hb
    exact hne (hgone.external.trans hexternal.symm)
  induction h with
  | start => exact .nil
  | kept h hb _ ih =>
    exact List.pairwise_append.mpr ⟨ih,List.pairwise_singleton _ _,fun s hs t ht =>
      List.mem_singleton.mp ht ▸ hlast h hb s hs⟩
  | moved h hb _ _ ih =>
    exact List.pairwise_append.mpr ⟨ih,List.pairwise_singleton _ _,fun s hs t ht =>
      List.mem_singleton.mp ht ▸ hlast h hb s hs⟩

-- The container group of a run is deleted at most once, receipts or not: later the provider is not asked.
theorem runtime_deleted_once (h : RunHistory hist w) (id : Id) :
    (∀ s ∈ hist, DeletesRuntime id s → ∃ ctx, s.op = .cleanupRuntime ctx id .deleted) ∧
    (hist.Pairwise fun s t => ¬ (DeletesRuntime id s ∧ DeletesRuntime id t)) ∧
    ((∃ s ∈ hist, DeletesRuntime id s) → ∀ clock ctx eciDelete result,
      (perform clock (cleanupAliyunEciTerminalRuntimeJob ctx id eciDelete) w).1 = .ok result →
        result.status = .skipped) := by
  refine ⟨fun s hs hdel => ((h.rowLog id).deletes s hs hdel).1,(h.rowLog id).deletesOnce,?_⟩
  intro hdel clock ctx eciDelete result hresult
  obtain ⟨c,hc,hgone⟩ := (h.rowLog id).gone hdel
  obtain ⟨_,b,hb,hskipped⟩ := (walks_cleanup.performed ⟨rfl,rfl⟩).2 result hresult
  obtain rfl : c = b := Option.some.inj (hc.symm.trans hb)
  exact hskipped hgone.skipped

omit [Digest] in
theorem runtime_deleted_once_cleaned :
    let _ := plainDigest
    (∃ s ∈ (sampleRuns sampleCleaned).1, DeletesRuntime 7 s) ∧
      (∀ s ∈ (sampleRuns sampleCleaned).1, DeletesRuntime 7 s →
        ∃ ctx, s.op = .cleanupRuntime ctx 7 .deleted) ∧
      (sampleRuns sampleCleaned).1.Pairwise (fun s t => ¬ (DeletesRuntime 7 s ∧ DeletesRuntime 7 t)) ∧
      ((sampleRuns sampleCleaned).2.db (.cloudRun 7)).any (fun c =>
        c.externalStatus = some "runtime_cleanup_deleted") = true := by
  let _ := plainDigest
  have hsome : (sampleRuns sampleCleaned).1.any (fun s => (s.before (.cloudRun 7)).any fun b =>
      (s.after (.cloudRun 7)).any fun c => b.externalStatus ≠ c.externalStatus ∧
        c.externalStatus = some "runtime_cleanup_deleted") = true := by decide +kernel
  obtain ⟨s,hs,hbefore⟩ := List.any_eq_true.mp hsome
  obtain ⟨b,hb,hafter⟩ := (Option.any_eq_true _ _).mp hbefore
  obtain ⟨c,hc,hchange⟩ := (Option.any_eq_true _ _).mp hafter
  obtain ⟨hop,honce,_⟩ := runtime_deleted_once (sampleRuns_history sampleCleaned) 7
  exact ⟨⟨s,hs,b,c,hb,hc,of_decide_eq_true hchange⟩,hop,honce,by decide +kernel⟩

end AiScdc
