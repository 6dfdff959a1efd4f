import AiScdc.CloudRunner.RunHistory

namespace AiScdc
open Transaction

variable [Digest] {id : Id} {clock : ℕ → Time} {o : CloudRunOp} {hist : List RunCommit} {w : World}
  {b c : CloudRun}

-- With the commit the row comes to hold a token: another hash, another expiry, or a used token as unused.
def IssuesToken (id : Id) (s : RunCommit) : Prop :=
  ∃ c, s.after (.cloudRun id) = some c ∧ c.callbackTokenHash ≠ none ∧
    ∀ b, s.before (.cloudRun id) = some b → b.callbackTokenHash ≠ c.callbackTokenHash ∨
      b.callbackTokenExpiresAt ≠ c.callbackTokenExpiresAt ∨
      (b.callbackTokenUsedAt ≠ none ∧ c.callbackTokenUsedAt = none)

-- The token is that of the enqueue that commits, for the worker of the run.
structure Issues (id : Id) (workerId token : String) (expiresAt : Time) (s : RunCommit) : Prop where
  issues : IssuesToken id s
  op : ∃ ctx taskId data replies, s.op = .runner (.enqueue ctx taskId data replies) ∧
    protectedWorkerId data id = some workerId ∧ replies.callbackToken = token
  plain : ':' ∉ workerId.toList
  expires : ∃ n, expiresAt = s.clock n + callbackTokenLifetime
  stored : ∃ c, s.after (.cloudRun id) = some c ∧
    c.callbackTokenHash = some (hashCallbackToken id workerId token) ∧
    c.callbackTokenExpiresAt = some expiresAt ∧ c.callbackTokenUsedAt = none

-- A stored hash was stored by the enqueue of the run, together with the expiry.
def TokenOk (id : Id) (hist : List RunCommit) (c : CloudRun) : Prop :=
  ∀ hash, c.callbackTokenHash = some hash → ∃ s ∈ hist, ∃ workerId token expiresAt,
    Issues id workerId token expiresAt s ∧ hash = hashCallbackToken id workerId token ∧
      c.callbackTokenExpiresAt = some expiresAt

theorem TokenOk.later {s : RunCommit} (h : TokenOk id hist b)
    (hhash : c.callbackTokenHash = b.callbackTokenHash)
    (hexpires : c.callbackTokenExpiresAt = b.callbackTokenExpiresAt) : TokenOk id (hist ++ [s]) c := by
  intro hash hc
  obtain ⟨t,ht,workerId,token,expiresAt,hissues,heq,he⟩ := h hash (hhash ▸ hc)
  exact ⟨t,List.mem_append_left _ ht,workerId,token,expiresAt,hissues,heq,hexpires.trans he⟩

theorem RowLog.token {row : Option CloudRun} (h : RowLog id hist row) :
    ∀ c, row = some c → TokenOk id hist c := by
  induction h with
  | start =>
    rintro c hc
    cases hc
  | kept _ _ _ ih =>
    rintro c rfl
    exact (ih c rfl).later rfl rfl
  | @moved hist s b c _ hb hc hm ih =>
    rintro c rfl
    cases b with
    | none =>
      generalize s.op = o at hm
      cases hm
      exact fun hash hh => by cases hh
    | some b =>
      cases hm.token with
      | issued workerId n ho hworker hplain hnone hguarded =>
        subst hguarded
        intro hash hh
        cases hh
        refine ⟨s,List.mem_append_right _ List.mem_cons_self,workerId,_,_,?_,rfl,rfl⟩
        refine ⟨⟨_,hc,by simp [CloudRun.guarded],fun d hd => Or.inl ?_⟩,⟨_,_,_,_,ho,hworker,rfl⟩,hplain,
          ⟨n,rfl⟩,_,hc,rfl,rfl,rfl⟩
        obtain rfl := Option.some.inj (hb.symm.trans hd)
        simp [hnone,CloudRun.guarded]
      | kept hhash hexpires _ => exact (ih b rfl).later hhash hexpires
      | spent hhash hexpires _ _ _ => exact (ih b rfl).later hhash hexpires

section calls

-- The presented token is the one that the enqueue of the run issued for this worker, in time and unused.
structure Authorised (clock : ℕ → Time) (hist : List RunCommit) (w : World) (id : Id) (c : CloudRun)
    (workerId : String) (callbackToken : Option String) : Prop where
  row : w.db (.cloudRun id) = some c
  unused : c.callbackTokenUsedAt = none
  issued : ∃ s ∈ hist, ∃ token expiresAt n, Issues id workerId token expiresAt s ∧
    callbackToken = some token ∧ clock n ≤ expiresAt

theorem RunHistory.authorised (h : RunHistory hist w) (hinj : Function.Injective Digest.sha256)
    {workerId : String} {callbackToken : Option String} (hplain : ':' ∉ workerId.toList)
    (hc : w.db (.cloudRun id) = some c)
    (ht : TokenAccepted clock id c workerId callbackToken true) :
    Authorised clock hist w id c workerId callbackToken := by
  cases ht with
  | unguarded _ h => cases h
  | checked n hpresented hunused hexpires hlive hhash =>
    obtain ⟨s,hs,workerId',token',expiresAt',hissues,heq,he⟩ := (h.rowLog id).token c hc _ hhash
    obtain ⟨rfl,rfl⟩ := hash_binds hinj hplain hissues.plain heq
    rw [hexpires] at he
    cases he
    exact ⟨hc,hunused,s,hs,_,_,n,hissues,hpresented,hlive⟩

-- The call is refused, and no run is changed.
structure TurnedAway {α : Type} (clock : ℕ → Time) (m : Op α) (accepts : α → Bool) (w : World) : Prop where
  outcome : ∀ a, (perform clock m w).1 = .ok a → accepts a = false
  unchanged : ∀ id, (perform clock m w).2.db (.cloudRun id) = w.db (.cloudRun id)

omit [Digest] in
theorem accepted_or_refused {α : Type} {A : Prop} {m : Op α} {accepts : α → Bool} {R : Runs → Runs → Prop}
    {Ψ : α → Runs → Runs → Prop} {Ξ : Exn → Runs → Runs → Prop}
    (h : RunTraces clock R (Stands (runRows.of w.db) (runRows.of w.db)) m Ψ Ξ)
    (hA : ∀ a B C, Ψ a B C → accepts a = true → A) (hR : ¬ A → ∀ B C, R B C → B = C) :
    A ∨ TurnedAway clock m accepts w := by
  by_cases hheld : A
  · exact Or.inl hheld
  · obtain ⟨hrows,houtcome⟩ := h.performed ⟨rfl,rfl⟩
    have hsame : runRows.of w.db = runRows.of (perform clock m w).2.db := by
      generalize runRows.of (perform clock m w).2.db = last at hrows ⊢
      induction hrows with
      | refl => rfl
      | tail _ hstep ih => exact ih.trans (hR hheld _ _ hstep)
    refine Or.inr ⟨fun a ha => ?_,fun id => (congrFun hsame id).symm⟩
    obtain ⟨y,hy⟩ := houtcome a ha
    exact eq_false_of_ne_true fun htrue => hheld (hA a _ y hy htrue)

theorem movesIf_still {A : Prop} (hA : ¬ A) {B C : Runs} (h : MovesIf A clock o B C) : B = C :=
  h.resolve_right fun h => hA h.1

-- The run that a worker's request addresses by its lease.
structure HoldsLease (clock : ℕ → Time) (hist : List RunCommit) (w : World) (cred : LeaseCredentials)
    (id : Id) (c : CloudRun) : Prop
    extends Authorised clock hist w id c cred.workerId cred.callbackToken where
  leaseId : c.leaseId = some cred.leaseId
  workerId : c.workerId = some cred.workerId
  running : c.status = .running

theorem RunHistory.holdsLease (h : RunHistory hist w) (hinj : Function.Injective Digest.sha256)
    {cred : LeaseCredentials} (hrequire : cred.requireCallbackToken = true)
    (hplain : ':' ∉ cred.workerId.toList) (hlease : SomeLease clock cred (runRows.of w.db)) :
    ∃ i c, HoldsLease clock hist w cred i c := by
  obtain ⟨i,c,hc,hl⟩ := hlease
  have ht := hl.token
  rw [hrequire] at ht
  exact ⟨i,c,h.authorised hinj hplain hc ht,hl.leaseId,hl.workerId,hl.running⟩

theorem claim_authorised (h : RunHistory hist w) (hinj : Function.Injective Digest.sha256)
    {req : ClaimRequest} (hrequire : req.requireCallbackToken = true) (hplain : ':' ∉ req.workerId.toList) :
    (∃ i c, req.cloudRunId = some i ∧ Authorised clock hist w i c req.workerId req.callbackToken) ∨
      TurnedAway clock (claimNextCloudRunLease req) Option.isSome w := by
  refine (accepted_or_refused traces_claim (fun _ _ _ hleased => hleased)
    fun hA _ _ => movesIf_still hA).imp_left ?_
  rintro ⟨i,c,hc,haccepted⟩
  have ht := haccepted.token
  rw [hrequire] at ht
  refine ⟨i,c,?_,h.authorised hinj hplain hc ht⟩
  cases hid : req.cloudRunId with
  | none => exact (haccepted.named hrequire hid).elim
  | some wanted => rw [haccepted.addressed wanted hid]

theorem lease_calls_authorised (h : RunHistory hist w) (hinj : Function.Injective Digest.sha256)
    {cred : LeaseCredentials} (hrequire : cred.requireCallbackToken = true)
    (hplain : ':' ∉ cred.workerId.toList) :
    (∃ i c, HoldsLease clock hist w cred i c) ∨
      (∀ leaseSeconds, TurnedAway clock (heartbeatCloudRunLease cred leaseSeconds) (fun _ => true) w) ∧
      (∀ data reply, TurnedAway clock (uploadCloudRunLeaseArtifact cred data reply) (fun _ => true) w) ∧
      ∀ ctx body replies,
        TurnedAway clock (completeCloudRunLease ctx cred body replies) (fun _ => true) w := by
  by_cases hlease : SomeLease clock cred (runRows.of w.db)
  · exact Or.inl (h.holdsLease hinj hrequire hplain hlease)
  · refine Or.inr ⟨fun leaseSeconds => ?_,fun data reply => ?_,fun ctx body replies => ?_⟩
    · exact (accepted_or_refused traces_heartbeat (fun _ _ _ hl _ => hl)
        fun hA _ _ => movesIf_still hA).resolve_left hlease
    · exact (accepted_or_refused traces_upload (fun _ _ _ hl _ => hl) fun _ _ _ h => h).resolve_left hlease
    · refine (accepted_or_refused traces_complete (fun _ _ _ hl _ => ?_)
        fun hA _ _ => movesIf_still hA).resolve_left hlease
      obtain ⟨i,c,hc,hl,_⟩ := hl
      exact ⟨i,c,hc,hl⟩

-- A worker's call does something only with the token that the enqueue of the run issued to this worker.
theorem worker_calls_authorised (h : RunHistory hist w) (hinj : Function.Injective Digest.sha256)
    (clock : ℕ → Time) :
    (∀ req : ClaimRequest, req.requireCallbackToken = true → ':' ∉ req.workerId.toList →
      (∃ i c, req.cloudRunId = some i ∧ Authorised clock hist w i c req.workerId req.callbackToken) ∨
        TurnedAway clock (claimNextCloudRunLease req) Option.isSome w) ∧
    ∀ cred : LeaseCredentials, cred.requireCallbackToken = true → ':' ∉ cred.workerId.toList →
      (∃ i c, HoldsLease clock hist w cred i c) ∨
        (∀ leaseSeconds, TurnedAway clock (heartbeatCloudRunLease cred leaseSeconds) (fun _ => true) w) ∧
        (∀ data reply, TurnedAway clock (uploadCloudRunLeaseArtifact cred data reply) (fun _ => true) w) ∧
        ∀ ctx body replies,
          TurnedAway clock (completeCloudRunLease ctx cred body replies) (fun _ => true) w :=
  ⟨fun _ hrequire hplain => claim_authorised h hinj hrequire hplain,
    fun _ hrequire hplain => lease_calls_authorised h hinj hrequire hplain⟩

omit [Digest] in
theorem TurnedAway.outcome_isNone {α : Type} {m : Op α} {accepts : α → Bool}
    (h : TurnedAway clock m accepts w) : (perform clock m w).1.toOption.any accepts = false := by
  have houtcome := h.outcome
  revert houtcome
  generalize (perform clock m w).1 = r
  cases r with
  | error e => exact fun _ => rfl
  | ok a => exact fun ha => ha a rfl

omit [Digest] in
theorem worker_calls_authorised_pulled :
    let _ := plainDigest
    (∃ c, Authorised (fun _ => 1) (sampleRuns (samplePulled.take 1)).1
      (sampleRuns (samplePulled.take 1)).2 7 c "aliyun-mns-cloud_run_7" (some "token")) ∧
    ∃ i c, HoldsLease (fun _ => 2) (sampleRuns samplePulled).1 (sampleRuns samplePulled).2
      (samplePullCredentials "token") i c := by
  let _ := plainDigest
  have hinj : Function.Injective (Digest.sha256 : String → String) := fun _ _ h => h
  constructor
  · rcases (worker_calls_authorised (sampleRuns_history (samplePulled.take 1)) hinj (fun _ => 1)).1
      (samplePullClaim "token") rfl (by decide) with ⟨i,c,hi,h⟩ | hrefused
    · cases hi
      exact ⟨c,h⟩
    · have hleased : (perform (fun _ => 1) (claimNextCloudRunLease (samplePullClaim "token"))
          (sampleRuns (samplePulled.take 1)).2).1.toOption.any Option.isSome = true := by decide +kernel
      rw [hrefused.outcome_isNone] at hleased
      cases hleased
  · refine ((worker_calls_authorised (sampleRuns_history samplePulled) hinj (fun _ => 2)).2
      (samplePullCredentials "token") rfl (by decide)).resolve_right fun hrefused => ?_
    have hbeat : (perform (fun _ => 2) (heartbeatCloudRunLease (samplePullCredentials "token") 60)
        (sampleRuns samplePulled).2).1.toOption.any (fun _ => true) = true := by decide +kernel
    rw [(hrefused.1 60).outcome_isNone] at hbeat
    cases hbeat

end calls

section once

-- The commit uses up the token of the run.
def SpendsToken (id : Id) (s : RunCommit) : Prop :=
  ∃ b c, s.before (.cloudRun id) = some b ∧ s.after (.cloudRun id) = some c ∧ ¬ TokenSpent b ∧ TokenSpent c

-- A token that is stored stays until the end.
theorem RunMove.keepsToken (h : RunMove clock o id (some b) (some c)) (hb : b.callbackTokenHash ≠ none) :
    c.callbackTokenHash = b.callbackTokenHash ∧ c.callbackTokenExpiresAt = b.callbackTokenExpiresAt ∧
      (b.callbackTokenUsedAt ≠ none → c.callbackTokenUsedAt ≠ none) := by
  cases h.token with
  | issued _ _ _ _ _ hnone _ => exact (hb hnone).elim
  | kept hhash hexpires hused => exact ⟨hhash,hexpires,fun h => hused ▸ h⟩
  | spent hhash hexpires _ _ hused => exact ⟨hhash,hexpires,fun _ => Option.isSome_iff_ne_none.mp hused⟩

theorem RowLog.issuesOnce {row : Option CloudRun} (h : RowLog id hist row) :
    hist.Pairwise fun s t => ¬ (IssuesToken id s ∧ IssuesToken id t) := by
  have hbefore := h.before (p := fun c => c.callbackTokenHash ≠ none) fun _ _ _ _ hm hb =>
    (hm.keepsToken hb).1 ▸ hb
  refine hbefore.imp_of_mem fun _ ht hkept => ?_
  rintro ⟨⟨c,hafter,hsome,_⟩,d,hd,_,hchange⟩
  obtain ⟨b,hb,hhash⟩ := hkept c hafter hsome
  have hm := h.moves _ ht
  rw [hb,hd] at hm
  rcases hm with heq | hm
  · cases heq
    rcases hchange _ hb with hne | hne | ⟨hused,hunused⟩
    · exact hne rfl
    · exact hne rfl
    · exact hused hunused
  · obtain ⟨hsame,hexpires,hused⟩ := hm.keepsToken hhash
    rcases hchange b hb with hne | hne | ⟨hb,hc⟩
    · exact hne hsame.symm
    · exact hne hexpires.symm
    · exact hused hb hc

theorem RowLog.spendsOnce {row : Option CloudRun} (h : RowLog id hist row) :
    hist.Pairwise fun s t => ¬ (SpendsToken id s ∧ SpendsToken id t) := by
  refine (h.before fun _ _ _ _ => RunMove.spent).imp fun hbefore => ?_
  rintro ⟨⟨_,c,_,hafter,_,hspent⟩,b,_,hb,_,hunspent,_⟩
  obtain ⟨d,hd,hspent⟩ := hbefore c hafter hspent
  rw [hb] at hd
  cases hd
  exact hunspent hspent

theorem RunHistory.unauthorised (h : RunHistory hist w) {s : RunCommit} (hs : s ∈ hist)
    (hspends : SpendsToken id s) {workerId : String} {callbackToken : Option String} :
    ¬ Authorised clock hist w id c workerId callbackToken := by
  obtain ⟨_,d,_,hafter,_,hspent⟩ := hspends
  rintro ⟨hrow,hunused,_⟩
  obtain ⟨e,he,hspent⟩ := (h.rowLog id).keeps (fun _ _ _ _ => RunMove.spent) s hs d hafter hspent
  rw [hrow] at he
  cases he
  have hused := hspent.used
  rw [hunused] at hused
  cases hused

theorem completion_spends {ctx : Option AuthContext} {cred : LeaseCredentials}
    {body : CloudRunExecutionResultCreate} {replies : CompletionReplies} {result : CloudRunResult}
    (hresult : (perform clock (completeCloudRunLease ctx cred body replies) w).1 = .ok result) :
    ∃ i c, w.db (.cloudRun i) = some c ∧ c.leaseId = some cred.leaseId ∧
      (c.callbackTokenHash.isSome = true → ∃ d,
        (perform clock (completeCloudRunLease ctx cred body replies) w).2.db (.cloudRun i) = some d ∧
          TokenSpent d) := by
  obtain ⟨_,i,c,hc,hl,hspent⟩ := (traces_complete.performed ⟨rfl,rfl⟩).2 result hresult
  exact ⟨i,c,hc,hl.leaseId,hspent⟩

-- The token of a run is issued once and used up once, and an accepted completion uses it up.
theorem callback_token_single_use (h : RunHistory hist w) (id : Id) :
    (hist.Pairwise fun s t => ¬ (IssuesToken id s ∧ IssuesToken id t)) ∧
    (hist.Pairwise fun s t => ¬ (SpendsToken id s ∧ SpendsToken id t)) ∧
    (∀ s ∈ hist, SpendsToken id s → ∀ clock c workerId callbackToken,
      ¬ Authorised clock hist w id c workerId callbackToken) ∧
    ∀ clock ctx cred body replies result,
      (perform clock (completeCloudRunLease ctx cred body replies) w).1 = .ok result →
        ∃ i c, w.db (.cloudRun i) = some c ∧ c.leaseId = some cred.leaseId ∧
          (c.callbackTokenHash.isSome = true → ∃ d,
            (perform clock (completeCloudRunLease ctx cred body replies) w).2.db (.cloudRun i) = some d ∧
              TokenSpent d) :=
  ⟨(h.rowLog id).issuesOnce,(h.rowLog id).spendsOnce,fun _ hs hspends _ _ _ _ => h.unauthorised hs hspends,
    fun _ _ _ _ _ _ hresult => completion_spends hresult⟩

omit [Digest] in
theorem callback_token_single_use_reported :
    let _ := plainDigest
    (∃ s ∈ (sampleRuns sampleReported).1, SpendsToken 7 s) ∧
      ∀ clock c, ¬ Authorised clock (sampleRuns sampleReported).1 (sampleRuns sampleReported).2 7 c
        "aliyun-mns-cloud_run_7" (some "token") := by
  let _ := plainDigest
  have hsome : (sampleRuns sampleReported).1.any (fun s => (s.before (.cloudRun 7)).any fun b =>
      (s.after (.cloudRun 7)).any fun c => b.callbackTokenUsedAt = none ∧
        c.callbackTokenHash.isSome = true ∧ c.callbackTokenUsedAt.isSome = true) = true := by
    decide +kernel
  obtain ⟨s,hs,hbefore⟩ := List.any_eq_true.mp hsome
  obtain ⟨b,hb,hafter⟩ := (Option.any_eq_true _ _).mp hbefore
  obtain ⟨c,hc,hstamp⟩ := (Option.any_eq_true _ _).mp hafter
  simp only [decide_eq_true_eq] at hstamp
  have hspends : SpendsToken 7 s := by
    refine ⟨b,c,hb,hc,fun hspent => ?_,hstamp.2.1,hstamp.2.2⟩
    have hused := hspent.used
    rw [hstamp.1] at hused
    cases hused
  exact ⟨⟨s,hs,hspends⟩,fun clock c => (callback_token_single_use
    (sampleRuns_history sampleReported) 7).2.2.1 s hs hspends clock c _ _⟩

end once

section checks

-- A call succeeds only where the token is the run's own, and it ends with whatever its check raises.
structure LeaseChecked {α : Type} (clock : ℕ → Time) (hist : List RunCommit) (cred : LeaseCredentials)
    (m : Op α) (w : World) : Prop where
  success : ∀ a, (perform clock m w).1 = .ok a →
    ∃ i c, HoldsLease clock hist w cred i c ∧ ∀ s ∈ hist, ¬ SpendsToken i s
  rejection : ∀ e, (perform clock (resolveCloudRunCallbackLease cred) w).1 = .error e →
    (perform clock m w).1 = .error e ∧ ∀ id, (perform clock m w).2.db (.cloudRun id) = w.db (.cloudRun id)

theorem perform_refused {α : Type} {cred : LeaseCredentials} {m : Op α} {f : Id × CloudRun → Op α}
    (hm : m = resolveCloudRunCallbackLease cred >>= f) {e : Exn}
    (he : (perform clock (resolveCloudRunCallbackLease cred) w).1 = .error e) :
    (perform clock m w).1 = .error e ∧
      ∀ id, (perform clock m w).2.db (.cloudRun id) = w.db (.cloudRun id) := by
  subst hm
  have hrows : RunTraces clock Eq (Stands (runRows.of w.db) (runRows.of w.db))
      (resolveCloudRunCallbackLease cred >>= pure) anyEnd fun _ B _ => B = runRows.of w.db :=
    traces_resolve (fun _ => rfl) (fun _ => rfl) fun _ _ _ _ => traces_done trivial
  rw [bind_pure] at hrows
  obtain ⟨_,hsame⟩ := hrows.raised ⟨rfl,rfl⟩ he
  rw [perform_bind_raised he]
  exact ⟨rfl,fun id => congrFun hsame id⟩

theorem RunHistory.leaseChecked {α : Type} (h : RunHistory hist w) {cred : LeaseCredentials} {m : Op α}
    {f : Id × CloudRun → Op α} (hm : m = resolveCloudRunCallbackLease cred >>= f)
    (hheld : (∃ i c, HoldsLease clock hist w cred i c) ∨ TurnedAway clock m (fun _ => true) w) :
    LeaseChecked clock hist cred m w := by
  refine ⟨fun a ha => ?_,fun e he => perform_refused hm he⟩
  rcases hheld with ⟨i,c,hholds⟩ | hrefused
  · exact ⟨i,c,hholds,fun s hs hspends => h.unauthorised hs hspends hholds.toAuthorised⟩
  · exact absurd (hrefused.outcome a ha) Bool.true_eq_false_eq_False

-- A run that is cancelled has its token used up.
theorem RunMove.cancelled (h : RunMove clock o id (some b) (some c)) (hb : b.status ≠ .cancelled)
    (hc : c.status = .cancelled) (hhash : c.callbackTokenHash.isSome = true) : TokenSpent c := by
  refine ⟨hhash,?_⟩
  have hrevoked {hash : Option String} {used : Option Time} {t : Time} (h : hash.isSome = true) :
      (if hash.isSome then used.or (some t) else used).isSome = true := by
    rw [if_pos h]
    cases used <;> rfl
  cases h with
  | cancelledQueued _ _ hr =>
    obtain ⟨_,_,rfl⟩ := hr
    exact hrevoked hhash
  | cancelledAfter _ _ _ _ hr =>
    obtain ⟨_,_,rfl⟩ := hr
    exact hrevoked hhash
  | queueRefused _ _ _ hr => exact absurd (hr.status.symm.trans hc) (by simp [CloudRun.queueEnqueueFailed])
  | runtimeRefused _ _ _ hr =>
    exact absurd (hr.status.symm.trans hc) (by simp [CloudRun.runtimeSubmissionFailed])
  | exhausted _ _ _ _ hr => exact absurd (hr.status.symm.trans hc) (by simp [CloudRun.attemptsExhausted])
  | preflightFailed _ _ _ _ _ hr =>
    exact absurd (hr.status.symm.trans hc) (by simp [CloudRun.preflightFailed])
  | @finished _ input _ _ _ _ _ _ _ _ _ _ _ _ hr =>
    have hstatus : input.result.status.runStatus = .cancelled := hr.status.symm.trans hc
    cases hresult : input.result.status <;> rw [hresult] at hstatus <;> cases hstatus
  | leased =>
    rw [delivered_status] at hc
    cases hc
  | accepted =>
    rw [completedBy_status] at hc
    exact absurd hc hb
  | requeued => cases hc
  | taken => cases hc
  | _ => exact absurd hc hb

theorem callback_token_authorises (h : RunHistory hist w) (hinj : Function.Injective Digest.sha256)
    (clock : ℕ → Time) :
    (∀ req : ClaimRequest, req.requireCallbackToken = true → ':' ∉ req.workerId.toList →
      (∀ lease, (perform clock (claimNextCloudRunLease req) w).1 = .ok (some lease) →
        ∃ i c, req.cloudRunId = some i ∧
          Authorised clock hist w i c req.workerId req.callbackToken ∧ ∀ s ∈ hist, ¬ SpendsToken i s) ∧
      ∀ e, (perform clock (claimNextCloudRunLease req) w).1 = .error e → e.rejectsWorker = true →
        ∀ id, (perform clock (claimNextCloudRunLease req) w).2.db (.cloudRun id) = w.db (.cloudRun id)) ∧
    (∀ cred : LeaseCredentials, cred.requireCallbackToken = true → ':' ∉ cred.workerId.toList →
      (∀ leaseSeconds, LeaseChecked clock hist cred (heartbeatCloudRunLease cred leaseSeconds) w) ∧
      (∀ data reply, LeaseChecked clock hist cred (uploadCloudRunLeaseArtifact cred data reply) w) ∧
      ∀ ctx body replies, LeaseChecked clock hist cred (completeCloudRunLease ctx cred body replies) w) ∧
    (∀ ctx cred body replies result,
      (perform clock (completeCloudRunLease ctx cred body replies) w).1 = .ok result →
        ∃ i c, w.db (.cloudRun i) = some c ∧ c.leaseId = some cred.leaseId ∧
          (c.callbackTokenHash.isSome = true → ∃ d,
            (perform clock (completeCloudRunLease ctx cred body replies) w).2.db (.cloudRun i) = some d ∧
              TokenSpent d)) ∧
    ∀ s ∈ hist, ∀ i b c, s.before (.cloudRun i) = some b → s.after (.cloudRun i) = some c →
      b.status ≠ .cancelled → c.status = .cancelled → c.callbackTokenHash.isSome = true → TokenSpent c := by
  refine ⟨fun req hrequire hplain => ⟨fun lease hlease => ?_,fun e he hrejected => ?_⟩,
    fun cred hrequire hplain => ?_,fun ctx cred body replies result => completion_spends,?_⟩
  · rcases claim_authorised h hinj hrequire hplain with ⟨i,c,hi,hauth⟩ | hrefused
    · exact ⟨i,c,hi,hauth,fun s hs hspends => h.unauthorised hs hspends hauth⟩
    · cases hrefused.outcome _ hlease
  · obtain ⟨_,hsame⟩ := traces_claim.raised ⟨rfl,rfl⟩ he
    exact fun id => congrFun (hsame hrejected) id
  · have hcalls : (∃ i c, HoldsLease clock hist w cred i c) ∨ _ :=
      lease_calls_authorised h hinj hrequire hplain
    refine ⟨fun leaseSeconds => h.leaseChecked rfl (hcalls.imp_right fun hc => hc.1 leaseSeconds),
      fun data reply => h.leaseChecked rfl (hcalls.imp_right fun hc => hc.2.1 data reply),
      fun ctx body replies => ?_⟩
    exact h.leaseChecked (bind_assoc _ _ _) (hcalls.imp_right fun hc => hc.2.2 ctx body replies)
  · intro s hs i b c hb hc hrunning hcancelled hhash
    have hm := (h.rowLog i).moves s hs
    rw [hb,hc] at hm
    rcases hm with heq | hm
    · cases heq
      exact absurd hcancelled hrunning
    · exact hm.cancelled hrunning hcancelled hhash

omit [Digest] in
theorem callback_token_authorises_pulled :
    let _ := plainDigest
    (∃ c, Authorised (fun _ => 1) (sampleRuns (samplePulled.take 1)).1
      (sampleRuns (samplePulled.take 1)).2 7 c "aliyun-mns-cloud_run_7" (some "token")) ∧
    (perform (fun _ => 1) (claimNextCloudRunLease (samplePullClaim "stolen"))
      (sampleRuns (samplePulled.take 1)).2).2.db (.cloudRun 7) =
        (sampleRuns (samplePulled.take 1)).2.db (.cloudRun 7) := by
  let _ := plainDigest
  have hinj : Function.Injective (Digest.sha256 : String → String) := fun _ _ h => h
  have h := sampleRuns_history (samplePulled.take 1)
  constructor
  · have hleased : (perform (fun _ => 1) (claimNextCloudRunLease (samplePullClaim "token"))
        (sampleRuns (samplePulled.take 1)).2).1.toOption.any Option.isSome = true := by decide +kernel
    rcases hout : (perform (fun _ => 1) (claimNextCloudRunLease (samplePullClaim "token"))
        (sampleRuns (samplePulled.take 1)).2).1 with e | answer
    all_goals rw [hout] at hleased
    · cases hleased
    obtain ⟨lease,rfl⟩ := Option.isSome_iff_exists.mp hleased
    obtain ⟨i,c,hi,hauth,_⟩ := ((callback_token_authorises h hinj fun _ => 1).1
      (samplePullClaim "token") rfl (by decide)).1 lease hout
    cases hi
    exact ⟨c,hauth⟩
  · have hrefused : (match (perform (fun _ => 1) (claimNextCloudRunLease (samplePullClaim "stolen"))
        (sampleRuns (samplePulled.take 1)).2).1 with
      | .error e => e.rejectsWorker
      | .ok _ => false) = true := by decide +kernel
    have hkept := ((callback_token_authorises h hinj fun _ => 1).1 (samplePullClaim "stolen") rfl (by decide)).2
    revert hrefused
    generalize (perform (fun _ => 1) (claimNextCloudRunLease (samplePullClaim "stolen"))
      (sampleRuns (samplePulled.take 1)).2) = out at hkept ⊢
    obtain ⟨r,w'⟩ := out
    cases r with
    | ok lease => intro hok; cases hok
    | error e => exact fun hrejected => hkept e rfl hrejected 7

end checks

end AiScdc
