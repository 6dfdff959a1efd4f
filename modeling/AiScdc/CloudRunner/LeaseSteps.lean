import AiScdc.CloudRunner.Finalization

namespace AiScdc
open Transaction

-- A session that has nothing pending, over runs that are linked and well formed.
structure Ready (s : Stage Row) : Prop where
  idle : s.current = s.committed
  linked : Linked s.committed
  ok : ∀ id σ, stateAt s.committed id = some σ → RunOk σ
  free : Free s

theorem commit_idle {s : Stage Row} (h : s.current = s.committed) : s.commit = s := by
  cases s
  cases h
  rfl

theorem rollback_idle {s : Stage Row} (h : s.current = s.committed) : s.rollback = s := by
  cases s
  cases h
  rfl

theorem Ready.goes {s : Stage Row} (h : Ready s) (A : Id → RunLabel → Prop) : Goes A s s :=
  ⟨Evolves.refl A s.committed,h.linked,h.free,Keeps.refl _,Placed.refl _⟩

theorem Ready.bump {s : Stage Row} (h : Ready s) : Ready s.bump :=
  ⟨h.idle,h.linked,h.ok,h.free.bump⟩

theorem Ready.still {s₀ s : Stage Row} (h : Ready s) (hs : s.committed = s₀.committed)
    (A : Id → RunLabel → Prop) : Goes A s₀ s := by
  refine ⟨?_,h.linked,h.free,?_,?_⟩
  · rw [hs]
    exact Evolves.refl _ _
  · rw [hs]
    exact Keeps.refl _
  · rw [hs]
    exact Placed.refl _

theorem Ready.rest {s₀ s : Stage Row} (h : Ready s) (hs : s.committed = s₀.committed) {id : Id}
    {c : CloudRun} (hc : s.current (.cloudRun id) = some c) :
    ∃ i x, i.cloudRunId = id ∧ x.cloudRun = c ∧ (∀ A, Rest A i s₀ x s) ∧ RunOk x.state := by
  have hcur : Linked s.current := h.idle ▸ h.linked
  obtain ⟨i,x,hi,hx,hat,hown⟩ := hcur.rows id c hc
  refine ⟨i,x,hi,hx,fun A => ⟨h.still hs _,h.idle,hat,hown⟩,?_⟩
  exact h.ok i.cloudRunId _ (by rw [← h.idle]; exact hat.stateAt)

theorem RunOk.reserved {c : CloudRun} {l : LocalTaskRun} {r : BudgetReservation}
    (h : RunOk (runState c l r)) (hc : c.status.terminal = false) : r.status = .reserved :=
  h.reservation.mpr hc

theorem RunOk.uncompleted {c : CloudRun} {l : LocalTaskRun} {r : BudgetReservation}
    (h : RunOk (runState c l r)) (hc : c.status.terminal = false) : c.completedAt = none := by
  have hcomp : c.completedAt.isSome = c.status.terminal := h.completed
  rw [hc] at hcomp
  simpa using hcomp

variable {s s₀ : Stage Row}

section authentication

variable [Digest] {c : CloudRun}

omit [Digest] in
theorem serial_reject {α : Type} (hs : s.current = s.committed) {statusCode : ℕ} {detail : String}
    {Q : α → Stage Row → Prop} {E : Exn → Stage Row → Prop}
    (hE : E (.http statusCode detail) s) :
    Serial (rejectWorkerAuthentication statusCode detail) Q E s := by
  refine serial_bind (serial_commitNow ?_)
  rw [commit_idle hs]
  exact serial_http hE

theorem serial_verify (hs : s.current = s.committed) {cloudRunId : Id} {workerId : String}
    {callbackToken : Option String} {now : Option Time} {requireToken : Bool}
    {Q : Unit → Stage Row → Prop} {E : Exn → Stage Row → Prop}
    (hQ : (c.callbackTokenHash.isSome → c.callbackTokenUsedAt = none) → Q () s)
    (hE : ∀ statusCode detail, E (.http statusCode detail) s) :
    Serial (verifyCloudRunCallbackTokenOr403 cloudRunId c workerId callbackToken now requireToken)
      Q E s := by
  have hinvalid {m : Op Unit} (hm : m = invalidToken) : Serial m Q E s := by
    rw [hm]
    exact serial_reject hs (hE _ _)
  unfold verifyCloudRunCallbackTokenOr403
  cases hhash : c.callbackTokenHash with
  | none =>
    dsimp only
    split
    · exact hinvalid rfl
    · exact serial_pure (hQ fun h => by simp [hhash] at h)
  | some expectedHash =>
    cases callbackToken with
    | none => exact serial_reject hs (hE _ _)
    | some token =>
      dsimp only
      split
      · exact hinvalid rfl
      · rename_i hused
        have hunused : c.callbackTokenUsedAt = none := by simpa using hused
        cases c.callbackTokenExpiresAt with
        | none => exact hinvalid rfl
        | some expiresAt =>
          have hcheck (t : Time) : Serial (if expiresAt < t then invalidToken
              else if verifyCallbackToken cloudRunId workerId token expectedHash then pure ()
              else invalidToken : Op Unit) Q E s := by
            split
            · exact hinvalid rfl
            · split
              · exact serial_pure (hQ fun _ => hunused)
              · exact hinvalid rfl
          refine serial_bind ?_
          cases now with
          | some t => exact serial_pure (hcheck t)
          | none => exact serial_now hcheck

omit [Digest] in
theorem serial_presented (hs : s.current = s.committed) {callbackToken : Option String}
    {Q : Unit → Stage Row → Prop} {E : Exn → Stage Row → Prop} (hQ : Q () s)
    (hE : ∀ statusCode detail, E (.http statusCode detail) s) :
    Serial (requirePresentedWorkerCallbackCredential callbackToken) Q E s := by
  unfold requirePresentedWorkerCallbackCredential
  split
  · exact serial_reject hs (hE _ _)
  · exact serial_pure hQ

structure CurrentLease (c : CloudRun) (workerId : String) : Prop where
  worker : c.workerId = some workerId
  running : c.status = .running
  uncompleted : c.completedAt = none
  expires : c.leaseExpiresAt.isSome

omit [Digest] in
theorem serial_ensureCurrent {workerId : String} {Q : Unit → Stage Row → Prop}
    {E : Exn → Stage Row → Prop} (hQ : CurrentLease c workerId → Q () s)
    (hE : ∀ statusCode detail, E (.http statusCode detail) s) :
    Serial (ensureCurrentCloudRunLeaseOr409 c workerId) Q E s := by
  unfold ensureCurrentCloudRunLeaseOr409
  split
  · exact serial_http (hE _ _)
  · rename_i hnot
    simp only [not_or,not_not,Bool.not_eq_true,Option.isSome_eq_false_iff,
      Option.isNone_iff_eq_none] at hnot
    obtain ⟨hworker,hrun,hdone⟩ := hnot
    cases hexp : c.leaseExpiresAt with
    | none => exact serial_http (hE _ _)
    | some expiresAt =>
      refine serial_bind (serial_now fun now => ?_)
      split
      · exact serial_http (hE _ _)
      · exact serial_pure (hQ ⟨hworker,hrun,hdone,by simp [hexp]⟩)

omit [Digest] in
theorem mem_selected {α : Type} {key : Id → Key} {view : ∀ id, (key id).Entity → Option α} {a : α}
    (h : a ∈ (List.range s.next).filterMap fun id => (s.current (key id)).bind (view id)) :
    ∃ id row, s.current (key id) = some row ∧ view id row = some a := by
  obtain ⟨id,_,hid⟩ := List.mem_filterMap.mp h
  obtain ⟨row,hrow,hview⟩ := Option.bind_eq_some_iff.mp hid
  exact ⟨id,row,hrow,hview⟩

theorem serial_resolve (hs : s.current = s.committed) {cred : LeaseCredentials}
    {Q : Id × CloudRun → Stage Row → Prop} {E : Exn → Stage Row → Prop}
    (hQ : ∀ id c, s.current (.cloudRun id) = some c → c.leaseId = some cred.leaseId →
      CurrentLease c cred.workerId → (c.callbackTokenHash.isSome → c.callbackTokenUsedAt = none) →
      Q (id,c) s)
    (hE : ∀ statusCode detail, E (.http statusCode detail) s) :
    Serial (resolveCloudRunCallbackLease cred) Q E s := by
  unfold resolveCloudRunCallbackLease
  split
  · refine serial_bind (serial_presented hs (serial_bind (serial_selectWhere ?_)) hE)
    split
    · exact serial_reject hs (hE _ _)
    · rename_i entries id c rest heq
      obtain ⟨id',c',hc,hview⟩ := mem_selected (heq ▸ List.mem_cons_self)
      simp only [Option.ite_none_right_eq_some,Option.some.injEq,Prod.mk.injEq] at hview
      obtain ⟨hlease,rfl,rfl⟩ := hview
      refine serial_bind (serial_verify hs (fun htoken => ?_) hE)
      exact serial_bind (serial_ensureCurrent (fun hcur => serial_pure (hQ _ _ hc hlease hcur htoken)) hE)
  · refine serial_bind (serial_bind (serial_selectWhere ?_))
    split
    · exact serial_http (hE _ _)
    · rename_i entries id c rest heq
      obtain ⟨id',c',hc,hview⟩ := mem_selected (heq ▸ List.mem_cons_self)
      simp only [Option.ite_none_right_eq_some,Option.some.injEq,Prod.mk.injEq] at hview
      obtain ⟨⟨hlease,_⟩,rfl,rfl⟩ := hview
      refine serial_bind (serial_ensureCurrent (fun hcur => serial_pure ?_) hE)
      exact serial_bind (serial_verify hs (fun htoken => serial_pure (hQ _ _ hc hlease hcur htoken)) hE)

end authentication

section leases

variable [Digest]

def Leases (_ : Id) (label : RunLabel) : Prop := label = .lease

omit [Digest] in
theorem serial_orHttp400 {check : Except String Unit} {Q : Unit → Stage Row → Prop}
    {E : Exn → Stage Row → Prop} (hQ : Q () s) (hE : ∀ statusCode detail, E (.http statusCode detail) s) :
    Serial (orHttp400 check) Q E s := by
  cases check with
  | ok u => exact serial_pure hQ
  | error detail => exact serial_http (hE _ _)

omit [Digest] in
theorem serial_receipt {c : CloudRun} {req : ClaimRequest} {Q : Option String → Stage Row → Prop}
    {E : Exn → Stage Row → Prop} (hQ : ∀ receipt, Q receipt s)
    (hE : ∀ statusCode detail, E (.http statusCode detail) s) :
    Serial (validatedAliyunMnsClaimReceipt c req) Q E s := by
  unfold validatedAliyunMnsClaimReceipt
  split
  · exact serial_pure (hQ _)
  · split
    · exact serial_pure (hQ _)
    · split
      · exact serial_http (hE _ _)
      · split
        · exact serial_http (hE _ _)
        · exact serial_pure (hQ _)

omit [Digest] in
theorem serial_leaseRead {id : Id} {c : CloudRun} {Q : CloudRunLease → Stage Row → Prop}
    {E : Exn → Stage Row → Prop} (hQ : ∀ lease, Q lease s)
    (hE : ∀ statusCode detail, E (.http statusCode detail) s) :
    Serial (cloudRunLeaseRead id c) Q E s := by
  unfold cloudRunLeaseRead
  split
  · exact serial_pure (hQ _)
  · exact serial_http (hE _ _)

omit [Digest] in
theorem delivered_links (id : Id) (c : CloudRun) (provider : QueueProvider) (receipt : Option String)
    (leaseId : Id) (now : Time) : (delivered id c provider receipt leaseId now).links = c.links := by
  unfold delivered
  split
  · rfl
  · split
    · cases receipt <;> rfl
    · rfl

omit [Digest] in
theorem delivered_state (id : Id) (c : CloudRun) (l : LocalTaskRun) (r : BudgetReservation)
    (provider : QueueProvider) (receipt : Option String) (leaseId : Id) (now : Time) :
    runState (delivered id c provider receipt leaseId now) l r = runState c l r := by
  unfold delivered
  split
  · rfl
  · split
    · cases receipt <;> rfl
    · rfl

omit [Digest] in
theorem lease_step {c : CloudRun} (hg : isClaimable c = true) (id : Id) (l : LocalTaskRun)
    (r : BudgetReservation) (req : ClaimRequest) (receipt : Option String) (leaseId : Id) (now : Time) :
    RunStep .lease (runState c l r) (runState (delivered id
      (c.leased req.workerId req.workerKind leaseId (now + seconds req.leaseSeconds) now)
      req.queueProvider receipt leaseId now) (l.moved .running now) r) := by
  have hclaim : c.status = .queued ∧ c.cancelRequested = false ∧
      c.attemptCount < c.maxAttempts := by
    simpa [isClaimable,and_assoc] using hg
  rw [delivered_state]
  exact .lease leaseId hclaim.1 hclaim.2.1 hclaim.2.2

theorem serial_claimCandidates {req : ClaimRequest} {now : Time} {ids : List Id} (hs : Ready s)
    (hcom : s.committed = s₀.committed) :
    Serial (claimCandidates req now ids) (fun _ s' => Goes Leases s₀ s') (fun _ s' => Goes Leases s₀ s')
      s := by
  induction ids generalizing s with
  | nil => exact serial_pure (hs.still hcom Leases)
  | cons id rest ih =>
    refine serial_bind (serial_get ?_)
    cases hc : s.current (.cloudRun id) with
    | none => exact ih hs hcom
    | some c =>
      obtain ⟨i,⟨c',l,r,t⟩,rfl,rfl,hrest,hok⟩ := hs.rest hcom hc
      have hr := hrest (· = RunLabel.lease)
      have hstay : Goes Leases s₀ s := hr.goes.only fun _ h => h
      refine serial_bind (serial_verify hs.idle (fun _ => serial_bind (serial_receipt (fun receipt => ?_)
        fun _ _ => hstay)) fun _ _ => hstay)
      refine serial_bind (serial_fresh (serial_bind (serial_updateWhere hc (fun hg => ?_) fun _ => ?_)))
      · have h₁ : Focus _ _ _ ⟨c'.leased req.workerId req.workerKind s.next
            (now + seconds req.leaseSeconds) now,_,_,_⟩ _ := hr.focus.bump.writeRun rfl
        simp only [if_true]
        refine serial_bind (h₁.refreshRun ?_)
        have hlinks := delivered_links i.cloudRunId
          (c'.leased req.workerId req.workerKind s.next (now + seconds req.leaseSeconds) now)
          req.queueProvider receipt s.next now
        refine serial_bind (h₁.flushRun (fun s₂ h₂ => ?_) hlinks)
        refine serial_bind (h₂.getLocal h₂.rows.localRunId (serial_bind (h₂.flushLocal fun s₃ h₃ => ?_)))
        have hws := (congrArg Prod.fst hlinks).symm
        refine serial_bind (h₃.log (fun s₄ h₄ => serial_bind (serial_commitNow ?_)) rfl hws)
        have hend := h₄.commit hr (RunPath.single rfl (lease_step hg _ _ _ _ _ _ _))
        have hgoes : Goes Leases s₀ s₄.commit := hend.goes.only fun _ h => h
        refine serial_bind (hend.focus.refreshRun (serial_bind (serial_leaseRead (fun lease => ?_)
          fun _ _ => hgoes)))
        exact serial_pure hgoes
      · simp only [Bool.false_eq_true,if_false]
        refine serial_bind (serial_rollbackNow ?_)
        rw [rollback_idle hs.bump.idle]
        exact ih hs.bump hcom

theorem serial_refuseActiveLease {req : ClaimRequest} {id : Id} {now : Time}
    (hs : s.current = s.committed) {Q : Unit → Stage Row → Prop} {E : Exn → Stage Row → Prop}
    (hQ : Q () s) (hE : ∀ statusCode detail, E (.http statusCode detail) s) :
    Serial (refuseActiveLease req id now) Q E s := by
  have hactive (c : CloudRun) : Serial (if c.leaseExpiresAt.any fun t => now ≤ t then
      httpError 409 "Cloud run already has an active lease" else pure () : Op Unit) Q E s := by
    split
    · exact serial_http (hE _ _)
    · exact serial_pure hQ
  refine serial_bind (serial_get ?_)
  cases hreq : req.requireCallbackToken with
  | true =>
    cases s.current (.cloudRun id) with
    | none => exact serial_bind (serial_reject hs (hE _ _))
    | some c =>
      refine serial_bind (serial_verify hs (fun _ => ?_) hE)
      dsimp only
      split
      · exact hactive c
      · exact serial_pure hQ
  | false =>
    cases s.current (.cloudRun id) with
    | none => exact serial_pure hQ
    | some c =>
      simp only [Bool.false_eq_true,if_false]
      split
      · exact serial_bind (serial_verify hs (fun _ => hactive c) hE)
      · exact serial_pure hQ

theorem serial_claimOldest (req : ClaimRequest) (hs : Ready s₀) :
    Serial (claimOldestQueued req) (fun _ s' => Goes Leases s₀ s') (fun _ s' => Goes Leases s₀ s') s₀ := by
  have hstay := hs.goes Leases
  refine serial_bind (serial_orHttp400 (serial_bind (serial_selectWhere (serial_bind (serial_now fun now => ?_))))
    fun _ _ => hstay)
  split
  · exact serial_bind (serial_refuseActiveLease hs.idle (serial_pure hstay) fun _ _ => hstay)
  · exact serial_claimCandidates hs rfl

theorem serial_claimNext (req : ClaimRequest) (hs : Ready s₀) :
    Serial (claimNextCloudRunLease req) (fun _ s' => Goes Leases s₀ s')
      (fun _ s' => Goes Leases s₀ s') s₀ := by
  have hstay := hs.goes Leases
  unfold claimNextCloudRunLease
  split
  · refine serial_bind (serial_presented hs.idle ?_ fun _ _ => hstay)
    split
    · exact serial_bind (serial_reject hs.idle hstay)
    · exact serial_claimOldest req hs
  · exact serial_claimOldest req hs

def Beats (_ : Id) (label : RunLabel) : Prop := label = .beat

theorem serial_heartbeat (cred : LeaseCredentials) (leaseSeconds : ℕ) (hs : Ready s₀) :
    Serial (heartbeatCloudRunLease cred leaseSeconds) (fun _ s' => Goes Beats s₀ s')
      (fun _ s' => Goes Beats s₀ s') s₀ := by
  refine serial_bind (serial_resolve hs.idle (fun id c hc hlease hcur _ => ?_) fun _ _ => hs.goes Beats)
  obtain ⟨i,⟨c,l,r,t⟩,rfl,rfl,hrest,hok⟩ := hs.rest rfl hc
  have hr := hrest (· = RunLabel.beat)
  refine serial_bind (serial_now fun now => serial_bind (hr.focus.flushRun fun s₁ h₁ => ?_))
  refine serial_bind (h₁.log fun s₂ h₂ => serial_bind (serial_commitNow ?_))
  have hstep : RunStep .beat (runState c l r)
      (runState (c.heartbeat (now + seconds leaseSeconds) now) l r) :=
    .beat hcur.running (Option.isSome_iff_exists.mpr ⟨_,hlease⟩)
  have hend := h₂.commit hr (RunPath.single rfl hstep)
  have hgoes : Goes Beats s₀ s₂.commit := hend.goes.only fun _ h => h
  exact serial_bind (hend.focus.refreshRun (serial_leaseRead (fun _ => hgoes) fun _ _ => hgoes))

end leases

section requeue

theorem RunChange.ok {A : RunLabel → Prop} {σ₀ : Option RunState} {σ : RunState}
    (h : RunChange A σ₀ (some σ)) (hok : ∀ τ, σ₀ = some τ → RunOk τ) : RunOk σ := by
  cases σ₀ with
  | none => exact RunPath.ok h.2 (runOk_fresh (by decide))
  | some τ => exact RunPath.ok h (hok τ rfl)

theorem Evolves.ok {A : Id → RunLabel → Prop} {db db' : Db} (h : Evolves A db db')
    (hok : ∀ id σ, stateAt db id = some σ → RunOk σ) :
    ∀ id σ, stateAt db' id = some σ → RunOk σ := by
  intro id σ hσ
  have hch := h id
  rw [hσ] at hch
  exact hch.ok (hok id)

def Requeues (expired : List ExpiredRun) (id : Id) (label : RunLabel) : Prop :=
  ∃ e ∈ expired, e.cloudRunId = id ∧ (label = .exhaust ∨
    (label = .requeue e.cloudRun.cancelRequested ∧ e.cloudRun.attemptCount < e.cloudRun.maxAttempts))

-- The transaction of a requeue after some of its runs: nothing is committed yet.
structure Requeued (expired : List ExpiredRun) (s₀ s : Stage Row) : Prop where
  evolves : Evolves (Requeues expired) s₀.current s.current
  linked : Linked s.current
  ok : ∀ id σ, stateAt s.current id = some σ → RunOk σ
  free : Free s
  keeps : Keeps s₀.current s.current
  placed : Placed s₀.current s.current

theorem Requeued.focus {expired : List ExpiredRun} {i : RunIds} {x x' : RunRows} {s' : Stage Row}
    (hs : Requeued expired s₀ s) (hf : Focus i s x x' s') {label : RunLabel}
    (hstep : RunStep label x.state x'.state) (hl : Requeues expired i.cloudRunId label) :
    Requeued expired s₀ s' ∧
      ∀ id, id ≠ i.cloudRunId → s'.current (.cloudRun id) = s.current (.cloudRun id) := by
  have hpath : RunPath (Requeues expired i.cloudRunId) x.state x'.state := RunPath.single hl hstep
  have hevo := (hf.evolves hpath).weaken (B := Requeues expired) fun _ _ ⟨hid,hA⟩ => hid ▸ hA
  exact ⟨⟨hs.evolves.trans hevo,hf.linkedNow,hevo.ok hs.ok,hf.free,hs.keeps.trans hf.keeps,
    hs.placed.trans hf.placed hf.keeps⟩,fun _ hid => hf.other hid⟩

def selectedRuns (db : Db) (next : ℕ) (provider : QueueProvider) (now : Time) : List ExpiredRun :=
  (List.range next).filterMap fun id => (db (.cloudRun id)).bind (expiredRun provider now id)

-- The runs that a requeue of this provider, with this limit and at this time, takes from its worker.
def takenBack (db : Db) (next : ℕ) (provider : QueueProvider) (limit : ℕ) (now : Time) :
    List ExpiredRun := expiredRuns (selectedRuns db next provider now) limit

theorem mem_selectedRuns {db : Db} {next : ℕ} {provider : QueueProvider} {now : Time} {e : ExpiredRun}
    (h : e ∈ selectedRuns db next provider now) :
    db (.cloudRun e.cloudRunId) = some e.cloudRun ∧ e.cloudRun.status = .running := by
  obtain ⟨id,_,hid⟩ := List.mem_filterMap.mp h
  obtain ⟨c,hc,hview⟩ := Option.bind_eq_some_iff.mp hid
  unfold expiredRun at hview
  split at hview
  · rename_i hexp
    obtain ⟨t,_,rfl⟩ := Option.map_eq_some_iff.mp hview
    simp only [isExpired,Bool.and_eq_true,decide_eq_true_eq] at hexp
    exact ⟨hc,hexp.1.1.1⟩
  · cases hview

theorem selectedRuns_nodup (db : Db) (next : ℕ) (provider : QueueProvider) (now : Time) :
    ((selectedRuns db next provider now).map ExpiredRun.cloudRunId).Nodup := by
  unfold selectedRuns
  rw [List.map_filterMap]
  refine List.nodup_range.filterMap fun a a' id ha ha' => ?_
  have hid {a₀ : Id} (h : id ∈ ((db (.cloudRun a₀)).bind (expiredRun provider now a₀)).map
      ExpiredRun.cloudRunId) : a₀ = id := by
    obtain ⟨e,he,rfl⟩ := Option.mem_map.mp h
    obtain ⟨c,_,hview⟩ := Option.bind_eq_some_iff.mp he
    unfold expiredRun at hview
    split at hview
    · obtain ⟨t,_,rfl⟩ := Option.map_eq_some_iff.mp hview
      rfl
    · cases hview
  exact (hid ha).trans (hid ha').symm

theorem mem_takenBack {db : Db} {next : ℕ} {provider : QueueProvider} {limit : ℕ} {now : Time}
    {e : ExpiredRun} (h : e ∈ takenBack db next provider limit now) :
    db (.cloudRun e.cloudRunId) = some e.cloudRun ∧ e.cloudRun.status = .running :=
  mem_selectedRuns ((List.mem_insertionSort _).mp (List.mem_of_mem_take h))

theorem takenBack_nodup (db : Db) (next : ℕ) (provider : QueueProvider) (limit : ℕ) (now : Time) :
    ((takenBack db next provider limit now).map ExpiredRun.cloudRunId).Nodup := by
  have hperm := ((List.perm_insertionSort (fun a b : ExpiredRun => a.leaseExpiresAt ≤ b.leaseExpiresAt)
    (selectedRuns db next provider now)).map ExpiredRun.cloudRunId).nodup_iff.mpr
      (selectedRuns_nodup db next provider now)
  exact hperm.sublist ((List.take_sublist _ _).map _)

theorem serial_requeueExpiredRun {expired : List ExpiredRun} {e : ExpiredRun} (he : e ∈ expired)
    (hs : Requeued expired s₀ s) (hrow : s.current (.cloudRun e.cloudRunId) = some e.cloudRun)
    (hrun : e.cloudRun.status = .running) {E : Exn → Stage Row → Prop} :
    Serial (requeueExpiredRun e) (fun _ s' => Requeued expired s₀ s' ∧
      ∀ id, id ≠ e.cloudRunId → s'.current (.cloudRun id) = s.current (.cloudRun id)) E s := by
  obtain ⟨i,⟨c,l,r,t⟩,hid,hc,hat,hown⟩ := hs.linked.rows _ _ hrow
  obtain ⟨id,c',expiresAt⟩ := e
  obtain rfl : i.cloudRunId = id := hid
  obtain rfl : c = c' := hc
  have hok := hs.ok i.cloudRunId _ hat.stateAt
  have hres : r.status = .reserved := hok.reserved (by rw [hrun]; rfl)
  have h := Focus.start hs.linked hat hown hs.free
  refine serial_bind (h.getLocal hat.localRunId (serial_bind (h.log fun s₁ h₁ => ?_)))
  dsimp only
  split
  · rename_i hmax
    refine serial_bind (serial_now fun now => serial_bind (h₁.flushRun fun s₂ h₂ => ?_))
    refine serial_bind (h₂.flushLocal fun s₃ h₃ => serial_bind (h₃.log fun s₄ h₄ => ?_))
    refine serial_bind (h₄.settle h₄.rows.reservationId hres fun usage now' s₅ h₅ => ?_)
    refine h₅.flushRun fun s₆ h₆ => hs.focus h₆ (.exhaust hrun hmax) ?_
    exact ⟨_,he,rfl,Or.inl rfl⟩
  · rename_i hmax
    have hlt : c.attemptCount < c.maxAttempts := Nat.lt_of_not_le hmax
    refine serial_bind (serial_now fun now => serial_bind (h₁.flushRun fun s₂ h₂ => ?_))
    refine serial_bind (h₂.flushLocal fun s₃ h₃ => h₃.log fun s₄ h₄ => ?_)
    refine hs.focus h₄ (.requeue hrun hlt) ?_
    exact ⟨_,he,rfl,Or.inr ⟨rfl,hlt⟩⟩

theorem serial_requeueExpiredRuns {expired rest : List ExpiredRun} (hrest : ∀ e ∈ rest, e ∈ expired)
    (hnodup : (rest.map ExpiredRun.cloudRunId).Nodup) (hs : Requeued expired s₀ s)
    (hrows : ∀ e ∈ rest, s.current (.cloudRun e.cloudRunId) = some e.cloudRun ∧
      e.cloudRun.status = .running) {E : Exn → Stage Row → Prop} :
    Serial (requeueExpiredRuns rest) (fun _ s' => Requeued expired s₀ s') E s := by
  induction rest generalizing s with
  | nil => exact serial_pure hs
  | cons e rest ih =>
    obtain ⟨hrow,hrun⟩ := hrows e List.mem_cons_self
    obtain ⟨hnew,hnodup'⟩ := List.nodup_cons.mp hnodup
    refine serial_bind (serial_mono (serial_requeueExpiredRun (hrest e List.mem_cons_self) hs hrow hrun)
      (fun _ s₁ h₁ => ?_) fun _ _ he => he)
    refine ih (fun e' he' => hrest e' (List.mem_cons_of_mem _ he')) hnodup' h₁.1 fun e' he' => ?_
    obtain ⟨hrow',hrun'⟩ := hrows e' (List.mem_cons_of_mem _ he')
    have hne : e'.cloudRunId ≠ e.cloudRunId := by
      intro heq
      exact hnew (heq ▸ List.mem_map_of_mem he')
    exact ⟨(h₁.2 _ hne).trans hrow',hrun'⟩

theorem serial_requeueAt (provider : QueueProvider) (limit : ℕ) (now : Time) (hs : Ready s₀)
    {E : Exn → Stage Row → Prop} :
    Serial (requeueExpiredAt provider limit now)
      (fun _ s' => Goes (Requeues (takenBack s₀.committed s₀.next provider limit now)) s₀ s') E s₀ := by
  refine serial_bind (serial_selectWhere (serial_bind ?_))
  have hstart : Requeued (takenBack s₀.committed s₀.next provider limit now) s₀ s₀ := by
    refine ⟨Evolves.refl _ _,?_,?_,hs.free,Keeps.refl _,Placed.refl _⟩
    · rw [hs.idle]
      exact hs.linked
    · rw [hs.idle]
      exact hs.ok
  rw [hs.idle]
  refine serial_mono (serial_requeueExpiredRuns (fun e he => he) (takenBack_nodup _ _ _ _ _) hstart
    fun e he => ?_) (fun _ s₁ h₁ => ?_) fun _ _ he => he
  · rw [hs.idle]
    exact mem_takenBack he
  · have hevo := h₁.evolves
    have hkeep := h₁.keeps
    have hplace := h₁.placed
    rw [hs.idle] at hevo hkeep hplace
    exact serial_bind (serial_commitNow (serial_pure ⟨hevo,h₁.linked,h₁.free.commit,hkeep,hplace⟩))

end requeue

end AiScdc
