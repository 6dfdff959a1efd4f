import AiScdc.CloudRunner.ArtifactScope

namespace AiScdc
open Transaction

def inQueue (provider : QueueProvider) (id : Id) (cloudRun : CloudRun) : Option (Time × Id) :=
  if isClaimable cloudRun ∧ cloudRun.queueProvider = provider then some (cloudRun.createdAt,id) else none

-- The runs that wait in a provider's queue, by creation time and id.
def queueOrder (w : World) (provider : QueueProvider) : List Id :=
  (insertByTime ((List.range w.next).filterMap fun id =>
    (w.db (.cloudRun id)).bind (inQueue provider id))).map Prod.snd

-- A caller without token and without delivery may take the run.
def mayLease (provider : QueueProvider) (cloudRun : CloudRun) : Bool :=
  cloudRun.callbackTokenHash.isNone &&
    !(provider = .aliyunMns && cloudRun.queueMessageId.isSome)

def earliestLeasable (w : World) (provider : QueueProvider) : Option Id :=
  (queueOrder w provider).find? fun id => (w.db (.cloudRun id)).any (mayLease provider)

def hasLocalRun (db : Db) (cloudRun : CloudRun) : Prop :=
  ∃ localRunId localRun, cloudRun.localRunId = some localRunId ∧
    db (.localTaskRun localRunId) = some localRun

structure PlainClaim (req : ClaimRequest) : Prop where
  anyRun : req.cloudRunId = none
  callbackToken : req.callbackToken = none
  queueMessageId : req.queueMessageId = none
  queueReceipt : req.queueReceipt = none
  requireCallbackToken : req.requireCallbackToken = false
  provider : getCloudQueueProvider req.queueProvider = .ok ()

structure LeasedTo (workerId : String) (cloudRun : CloudRun) : Prop where
  worker : cloudRun.workerId = some workerId
  running : cloudRun.status = .running
  leased : cloudRun.leaseId.isSome

section claims

variable [Digest] {s : Stage Row} {req : ClaimRequest} {id : Id} {c : CloudRun} {now : Time}

omit [Digest] in
theorem LeasedTo.delivered {workerId : String} (h : LeasedTo workerId c) (provider : QueueProvider)
    (receipt : Option String) (leaseId : Id) (t : Time) :
    LeasedTo workerId (AiScdc.delivered id c provider receipt leaseId t) := by
  unfold AiScdc.delivered
  split
  · exact ⟨h.worker,h.running,h.leased⟩
  · split
    · cases receipt <;> exact ⟨h.worker,h.running,h.leased⟩
    · exact h

theorem serial_verifyPlain (hreq : PlainClaim req) {Q : Unit → Stage Row → Prop}
    {E : Exn → Stage Row → Prop} (hQ : c.callbackTokenHash = none → Q () s)
    (hE : c.callbackTokenHash.isSome → ∀ e s', E e s') :
    Serial (verifyCloudRunCallbackTokenOr403 id c req.workerId req.callbackToken (some now)
      req.requireCallbackToken) Q E s := by
  unfold verifyCloudRunCallbackTokenOr403
  rw [hreq.callbackToken,hreq.requireCallbackToken]
  cases hhash : c.callbackTokenHash with
  | none => exact serial_pure (hQ hhash)
  | some expectedHash => exact serial_bind (serial_commitNow (serial_http (hE (by simp [hhash]) _ _)))

omit [Digest] in
theorem serial_receiptPlain (hreq : PlainClaim req) {Q : Option String → Stage Row → Prop}
    {E : Exn → Stage Row → Prop} (hQ : Q none s)
    (hE : req.queueProvider = .aliyunMns → c.queueMessageId.isSome → ∀ e s', E e s') :
    Serial (validatedAliyunMnsClaimReceipt c req) Q E s := by
  unfold validatedAliyunMnsClaimReceipt
  split
  · exact serial_pure hQ
  · rename_i hmns
    simp only [not_or,not_not] at hmns
    split
    · exact serial_pure hQ
    · split
      · exact serial_http (hE hmns.1 (Option.isSome_iff_ne_none.mpr hmns.2) _ _)
      · rename_i hpresent
        rw [hreq.queueMessageId] at hpresent
        simp [isPresent] at hpresent

omit [Digest] in
-- What a claim does once its conditional update has taken the run.
theorem claim_taken (h : Free s) {leased : CloudRun} (hrow : s.current (.cloudRun id) = some leased)
    (hleased : LeasedTo req.workerId leased) (hexpires : leased.leaseExpiresAt.isSome)
    (hbeat : leased.heartbeatAt.isSome) (receipt : Option String) (leaseId : Id) :
    Serial (do
        let cloudRun ← refresh (.cloudRun id)
        let claimed := delivered id cloudRun req.queueProvider receipt leaseId now
        flush (.cloudRun id) cloudRun claimed
        let (localRunId,localRun) ← getCloudRunLocalRunOr404 claimed
        flush (.localTaskRun localRunId) localRun (localRun.moved .running now)
        appendCloudRunLog id cloudRun.workspaceId "info" .leaseClaimed
        commit
        let cloudRun ← refresh (.cloudRun id)
        let lease ← cloudRunLeaseRead id cloudRun
        pure (some lease))
      (fun out s' => hasLocalRun s.current leased ∧ ∃ lease, out = some lease ∧ lease.cloudRunId = id ∧
        ∃ c', s'.committed (.cloudRun id) = some c' ∧ LeasedTo req.workerId c')
      (fun _ _ => ¬ hasLocalRun s.current leased) s := by
  let claimed := delivered id leased req.queueProvider receipt leaseId now
  have hclaimed : LeasedTo req.workerId claimed := hleased.delivered req.queueProvider receipt leaseId now
  have hlinks : claimed.localRunId = leased.localRunId ∧ claimed.leaseExpiresAt = leased.leaseExpiresAt ∧
      claimed.heartbeatAt = leased.heartbeatAt := by
    unfold claimed delivered
    split
    · exact ⟨rfl,rfl,rfl⟩
    · split
      · cases receipt <;> exact ⟨rfl,rfl,rfl⟩
      · exact ⟨rfl,rfl,rfl⟩
  refine serial_bind (serial_bind (serial_get ?_))
  rw [hrow]
  refine serial_pure (serial_bind (serial_flushRow hrow ?_))
  have hf₁ : Free (s.write (.cloudRun id) (some claimed)) := h.write fun n hn => h.lt hn hrow
  unfold getCloudRunLocalRunOr404
  cases hlocal : claimed.localRunId with
  | none =>
    refine serial_bind (serial_http ?_)
    rintro ⟨localRunId,localRun,hid,_⟩
    cases hlocal.symm.trans (hlinks.1.trans hid)
  | some localRunId =>
    have hsame : (s.write (.cloudRun id) (some claimed)).current (.localTaskRun localRunId) =
        s.current (.localTaskRun localRunId) := Stage.write_ne s _ _ (by simp)
    refine serial_bind (serial_bind (serial_getOr404 (fun localRun hl => serial_pure ?_) fun hnone => ?_))
    · refine serial_bind (serial_flushRow hl ?_)
      have hf₂ := hf₁.write (k := .localTaskRun localRunId) (v := some (localRun.moved .running now))
        fun n hn => hf₁.lt hn hl
      refine serial_bind (hf₂.appendLog fun s₃ _ h₃ => serial_bind (serial_commitNow ?_))
      have hrow₃ : s₃.commit.current (.cloudRun id) = some claimed := by
        refine (h₃ (.cloudRun id) fun n e => by cases e).trans ?_
        exact (Stage.write_ne _ _ _ (by simp)).trans (Stage.write_self _ _ _)
      refine serial_bind (serial_bind (serial_get ?_))
      rw [hrow₃]
      refine serial_pure (serial_bind ?_)
      unfold cloudRunLeaseRead
      rw [if_pos ⟨hclaimed.leased,hlinks.2.1 ▸ hexpires,hlinks.2.2 ▸ hbeat⟩]
      refine serial_pure (serial_pure ⟨⟨localRunId,localRun,hlinks.1.symm.trans hlocal,hsame ▸ hl⟩,_,rfl,rfl,
        claimed,hrow₃,hclaimed⟩)
    · rintro ⟨localRunId',localRun,hid,hl⟩
      cases (hlinks.1.symm.trans hlocal).symm.trans hid
      cases hnone.symm.trans (hsame.trans hl)

theorem Free.claimFirst (h : Free s) (hreq : PlainClaim req) (hc : s.current (.cloudRun id) = some c)
    (hclaim : isClaimable c = true) (rest : List Id) :
    Serial (claimCandidates req now (id :: rest))
      (fun out s' => hasLocalRun s.current c ∧ ∃ lease, out = some lease ∧ lease.cloudRunId = id ∧
        ∃ c', s'.committed (.cloudRun id) = some c' ∧ LeasedTo req.workerId c')
      (fun _ _ => ¬ (mayLease req.queueProvider c = true ∧ hasLocalRun s.current c)) s := by
  refine serial_bind (serial_get ?_)
  rw [hc]
  refine serial_bind (serial_verifyPlain hreq (fun hhash => ?_) fun hhash _ _ hboth => ?_)
  · refine serial_bind (serial_receiptPlain hreq ?_ fun hmns hmessage _ _ hboth => ?_)
    · refine serial_bind (serial_fresh (serial_bind (serial_updateWhere hc (fun _ => ?_) fun hno => ?_)))
      · let leased := c.leased req.workerId req.workerKind s.next (now + seconds req.leaseSeconds) now
        have hleased : LeasedTo req.workerId leased := ⟨rfl,rfl,rfl⟩
        have hf : Free (s.bump.write (.cloudRun id) (some leased)) := h.bump.write fun n hn => h.bump.lt hn hc
        have hlocal : hasLocalRun (s.bump.write (.cloudRun id) (some leased)).current leased ↔
            hasLocalRun s.current c := by
          unfold hasLocalRun
          have hother (n : Id) : (s.bump.write (.cloudRun id) (some leased)).current (.localTaskRun n) =
              s.bump.current (.localTaskRun n) := Stage.write_ne _ _ _ (by simp)
          simp only [hother]
          exact Iff.rfl
        rw [if_pos rfl]
        refine serial_mono (claim_taken hf (Stage.write_self _ _ _) hleased rfl rfl none s.next)
          (fun out s' hout => ⟨hlocal.mp hout.1,hout.2⟩) fun _ _ hno hboth => hno (hlocal.mpr hboth.2)
      · rw [hclaim] at hno
        cases hno
    · have hmay := hboth.1
      simp [mayLease,hmns,hmessage] at hmay
  · have hmay := hboth.1
    rw [Option.isSome_iff_ne_none] at hhash
    simp [mayLease,hhash] at hmay

omit [Digest] in
theorem mem_queueOrder {w : World} {provider : QueueProvider} (h : id ∈ queueOrder w provider) :
    ∃ c, w.db (.cloudRun id) = some c ∧ isClaimable c = true := by
  obtain ⟨⟨t,id'⟩,hmem,rfl⟩ := List.mem_map.mp h
  obtain ⟨id,_,hid⟩ := List.mem_filterMap.mp ((List.mem_insertionSort _).mp hmem)
  obtain ⟨c,hc,hin⟩ := Option.bind_eq_some_iff.mp hid
  unfold inQueue at hin
  split at hin
  · rename_i hclaim
    cases hin
    exact ⟨c,hc,hclaim.1⟩
  · cases hin

theorem serial_claimPlain {w : World} (hw : Free (Stage.start w)) (hreq : PlainClaim req) {first : Id}
    {rest : List Id} (hq : queueOrder w req.queueProvider = first :: rest)
    (hc : w.db (.cloudRun first) = some c) :
    Serial (claimNextCloudRunLease req)
      (fun out s' => hasLocalRun w.db c ∧ ∃ lease, out = some lease ∧ lease.cloudRunId = first ∧
        ∃ c', s'.committed (.cloudRun first) = some c' ∧ LeasedTo req.workerId c')
      (fun _ _ => ¬ (mayLease req.queueProvider c = true ∧ hasLocalRun w.db c)) (Stage.start w) := by
  obtain ⟨c',hc',hclaim⟩ := mem_queueOrder (hq ▸ List.mem_cons_self)
  cases hc.symm.trans hc'
  unfold claimNextCloudRunLease claimOldestQueued
  rw [hreq.requireCallbackToken,hreq.provider,hreq.anyRun]
  refine serial_bind (serial_pure (serial_bind (serial_selectWhere (serial_bind (serial_now fun now => ?_)))))
  have hids : ((insertByTime ((List.range (Stage.start w).next).filterMap fun id =>
      ((Stage.start w).current (.cloudRun id)).bind fun cloudRun =>
        if isClaimable cloudRun ∧ cloudRun.queueProvider = req.queueProvider ∧
            (none : Option Id).all (fun wanted => wanted = id)
        then some (cloudRun.createdAt,id) else none)).take defaultLeaseClaimCandidateLimit).map Prod.snd =
      first :: rest.take 24 := by
    rw [List.map_take]
    have hsame := congrArg (List.take defaultLeaseClaimCandidateLimit) hq
    simp only [Option.all_none,and_true]
    exact hsame
  rw [hids]
  exact hw.claimFirst hreq hc hclaim _

end claims

-- The call leases the run to its caller, and the lease is committed.
def Takes [Digest] (w : World) (clock : ℕ → Time) (req : ClaimRequest) (id : Id) : Prop :=
  ∃ lease w' c, perform clock (claimNextCloudRunLease req) w = (.ok (some lease),w') ∧
    lease.cloudRunId = id ∧ w'.db (.cloudRun id) = some c ∧ LeasedTo req.workerId c

theorem earliest_leasable_leased [Digest] {w : World} (hw : Free (Stage.start w)) (clock : ℕ → Time)
    {req : ClaimRequest} (hreq : PlainClaim req) {id : Id}
    (he : earliestLeasable w req.queueProvider = some id) :
    Takes w clock req id ↔ (queueOrder w req.queueProvider).head? = some id ∧
      ∀ c, w.db (.cloudRun id) = some c → hasLocalRun w.db c := by
  have hmay := List.find?_some he
  obtain ⟨c,hc,hclaim⟩ := mem_queueOrder (List.mem_of_find?_eq_some he)
  rw [hc,Option.any_some] at hmay
  cases hq : queueOrder w req.queueProvider with
  | nil =>
    rw [earliestLeasable,hq] at he
    cases he
  | cons first rest =>
    obtain ⟨c₁,hc₁,_⟩ := mem_queueOrder (hq ▸ List.mem_cons_self)
    have hx := perform_serial clock (Q := fun (out : Option CloudRunLease) (w' : World) =>
      hasLocalRun w.db c₁ ∧ ∃ lease, out = some lease ∧
      lease.cloudRunId = first ∧ ∃ c', w'.db (.cloudRun first) = some c' ∧ LeasedTo req.workerId c')
      (E := fun _ _ => ¬ (mayLease req.queueProvider c₁ = true ∧ hasLocalRun w.db c₁))
      (serial_claimPlain hw hreq hq hc₁)
    unfold Takes
    revert hx
    generalize perform clock (claimNextCloudRunLease req) w = out
    obtain ⟨out,w'⟩ := out
    rw [List.head?_cons,Option.some.injEq]
    cases out with
    | error e =>
      refine fun hno => ⟨fun ⟨_,_,_,hout,_⟩ => (by cases hout),fun ⟨hfirst,hlocal⟩ => ?_⟩
      subst hfirst
      cases hc.symm.trans hc₁
      exact (hno ⟨hmay,hlocal c₁ hc₁⟩).elim
    | ok out =>
      rintro ⟨hlocal,lease,rfl,hid,c',hc',hleased⟩
      constructor
      · rintro ⟨_,_,_,hout,hid',_⟩
        cases hout
        cases hid.symm.trans hid'
        refine ⟨rfl,fun c₂ hc₂ => ?_⟩
        cases hc₁.symm.trans hc₂
        exact hlocal
      · rintro ⟨rfl,_⟩
        exact ⟨lease,w',c',rfl,hid,hc',hleased⟩

theorem Initial.credit {w : World} (h : Initial w) (workspaceId : Id) (wallet : CreditWallet) :
    Initial ⟨Function.update w.db (.creditWallet workspaceId) (some wallet),w.next⟩ := by
  have other {k : Key} (hk : k ≠ .creditWallet workspaceId) :
      Function.update w.db (.creditWallet workspaceId) (some wallet) k = w.db k :=
    Function.update_of_ne hk ..
  refine ⟨fun k hk => (other ?_).trans (h.runs k hk),fun k n hk hn => (other ?_).trans (h.unused k n hk hn),
    fun repoId repository p hrepo hp => ?_⟩
  · rintro rfl
    exact hk
  · rintro rfl
    cases hk
  · exact h.tenanted repoId repository p ((other (by simp)).symm.trans hrepo)
      ((other (by simp)).symm.trans hp)

def creditedWorld : World := ⟨Function.update sampleDb (.creditWallet 1) (some ⟨1000,0⟩),6⟩

-- A run that awaits the token of its own worker, then one that any worker may take.
def queuedPlay : List ((ℕ → Time) × CloudRunnerOp) :=
  [(fun _ => 0,.enqueue sampleOwner 4 ⟨3,some 1,.localDb,some .remoteStub,none⟩ sampleReplies),
    (fun _ => 1,sampleEnqueue 4)]

def queuedWorld (ops : List ((ℕ → Time) × CloudRunnerOp)) : World :=
  letI := plainDigest
  (playOps creditedWorld ops).2

theorem queued_free (ops : List ((ℕ → Time) × CloudRunnerOp)) :
    Free (Stage.start (queuedWorld ops)) := by
  let _ := plainDigest
  have hstart : History anyOp [] creditedWorld := History.start (sample_initial.credit 1 ⟨1000,0⟩)
  exact (hstart.plays (follows_any creditedWorld ops)).sound.ready.free

def samplePlain : ClaimRequest := ⟨"worker","docker",.localDb,none,none,none,none,60,false⟩

theorem sample_plain : PlainClaim samplePlain := ⟨rfl,rfl,rfl,rfl,rfl,rfl⟩

theorem earliest_leasable_leased_alone :
    @Takes plainDigest (queuedWorld [(fun _ => 1,sampleEnqueue 4)]) (fun _ => 2) samplePlain 7 := by
  let _ := plainDigest
  have hfree := queued_free [(fun _ => 1,sampleEnqueue 4)]
  have he : earliestLeasable (queuedWorld [(fun _ => 1,sampleEnqueue 4)]) .localDb = some 7 := by
    decide +kernel
  have hq : (queueOrder (queuedWorld [(fun _ => 1,sampleEnqueue 4)]) .localDb).head? = some 7 := by
    decide +kernel
  have hlocal : ((queuedWorld [(fun _ => 1,sampleEnqueue 4)]).db (.cloudRun 7)).bind
      CloudRun.localRunId = some 8 := by decide +kernel
  have hrow : ((queuedWorld [(fun _ => 1,sampleEnqueue 4)]).db (.localTaskRun 8)).isSome := by
    decide +kernel
  generalize queuedWorld [(fun _ => 1,sampleEnqueue 4)] = w at hfree he hq hlocal hrow ⊢
  refine (earliest_leasable_leased hfree _ sample_plain he).mpr ⟨hq,fun c hc => ?_⟩
  obtain ⟨localRun,hl⟩ := Option.isSome_iff_exists.mp hrow
  rw [hc] at hlocal
  exact ⟨8,localRun,hlocal,hl⟩

theorem guarded_run_blocks_queue :
    queueOrder (queuedWorld queuedPlay) .localDb = [7,12] ∧
      earliestLeasable (queuedWorld queuedPlay) .localDb = some 12 ∧
      ¬ @Takes plainDigest (queuedWorld queuedPlay) (fun _ => 2) samplePlain 12 := by
  let _ := plainDigest
  have hq : queueOrder (queuedWorld queuedPlay) .localDb = [7,12] := by decide +kernel
  have he : earliestLeasable (queuedWorld queuedPlay) .localDb = some 12 := by decide +kernel
  have hrefused : (perform (fun _ => 2) (claimNextCloudRunLease samplePlain)
      (queuedWorld queuedPlay)).1.toOption.isNone = true := by decide +kernel
  refine ⟨hq,he,fun ⟨lease,w',c,hperform,_⟩ => ?_⟩
  rw [hperform] at hrefused
  cases hrefused

end AiScdc
