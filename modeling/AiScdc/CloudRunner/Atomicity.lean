import AiScdc.CloudRunner.Invariants

namespace AiScdc
open Transaction

theorem RunPath.frozen {A : RunLabel → Prop} {s s' : RunState} (h : RunPath A s s')
    (hA : ∀ label, ¬ A label) : s' = s := by
  cases h with
  | refl => rfl
  | tail _ hstep =>
    obtain ⟨label,hl,_⟩ := hstep
    exact (hA label hl).elim

theorem Evolves.elsewhere {A : RunLabel → Prop} {i : RunIds} {db db' : Db}
    (h : Evolves (i.only A) db db') {j : Id} (hj : j ≠ i.cloudRunId) :
    stateAt db' j = stateAt db j := by
  have hno (label : RunLabel) : ¬ i.only A j label := fun hl => hj hl.1
  have hch := h j
  revert hch
  cases stateAt db j <;> cases stateAt db' j <;> intro hch
  · rfl
  · exact (hno _ hch.1).elim
  · exact hch.elim
  · rw [RunPath.frozen hch hno]

theorem TokenUsed.finishes {c c' : CloudRun} (h : TokenUsed c c') {l : LocalTaskRun}
    {r : BudgetReservation} {t : Task} {result : SandboxExecutionResult} :
    Finishes c' t result ↔ Finishes c t result := by
  have hc : c'.cancelRequested = c.cancelRequested :=
    congrArg RunState.cancelRequested (h.state l r)
  simp only [Finishes,hc]

theorem perform_discard {α : Type} (clock : ℕ → Time) (m : Op α) (w : World) :
    perform clock (discard m) w = ((perform clock m w).1.map fun _ => (),(perform clock m w).2) := by
  have hb := exec_bind clock m (fun _ => (pure () : Op Unit)) ⟨w,Pending.empty,0⟩
  unfold perform discard
  refine (congrArg (fun out => (out.1,out.2.world)) hb).trans ?_
  generalize exec clock m ⟨w,Pending.empty,0⟩ = out
  obtain ⟨r,s⟩ := out
  cases r <;> rfl

section completion

variable [Digest] {hist : List Event} {w : World} {ctx : Option AuthContext} {cred : LeaseCredentials}
  {body : CloudRunExecutionResultCreate} {replies : CompletionReplies}

-- If the completion raises an HTTP error, the persisted row of the run is as it was.
def UnchangedOnError (w : World) (clock : ℕ → Time) (ctx : Option AuthContext)
    (cred : LeaseCredentials) (body : CloudRunExecutionResultCreate) (replies : CompletionReplies)
    (id : Id) : Prop :=
  ∀ statusCode detail,
    (perform clock (completeCloudRunLease ctx cred body replies) w).1 = .error (.http statusCode detail) →
    (perform clock (completeCloudRunLease ctx cred body replies) w).2.db (.cloudRun id) =
      w.db (.cloudRun id)

-- The two ways in which an accepted completion ends.
structure Completion (w : World) (i : RunIds) (c c' : CloudRun) (l : LocalTaskRun)
    (r : BudgetReservation) (t : Task) (result : SandboxExecutionResult)
    (out : Except Exn CloudRunResult × World) : Prop where
  finished : Finishes c t result → (∀ statusCode detail, out.1 ≠ .error (.http statusCode detail)) ∧
    ∃ s, s.world = out.2 ∧ Over Completes i (Stage.start w) s
  refused : ¬ Finishes c t result → (∃ detail, out.1 = .error (.http 400 detail)) ∧
    ∃ s, s.current = out.2.db ∧ Rest Completes i (Stage.start w) ⟨c',l,r,t⟩ s

omit [Digest] in
theorem Accepted.completion {clock : ℕ → Time} {i : RunIds} {c c' : CloudRun} {l : LocalTaskRun}
    {r : BudgetReservation} {t : Task} {s : Session Row}
    (h : Accepted cred ctx (Stage.start w) i c c' l r t)
    (hr : Rest Completes i (Stage.start w) ⟨c',l,r,t⟩ (Stage.of s.pend s.world))
    (input : FinalizeInput) {out : Except Exn CloudRunResult × World}
    (hout : out = ((exec clock (finalizeClaimedCloudRunResult ctx i.cloudRunId c' input) s).1,
      (exec clock (finalizeClaimedCloudRunResult ctx i.cloudRunId c' input) s).2.world)) :
    Completion w i c c' l r t input.result out := by
  have hx := exec_serial clock (h.finalize hr input)
  have hfin : Finishes c' t input.result ↔ Finishes c t input.result :=
    h.token.finishes (l := l) (r := r)
  revert hx hout
  generalize exec clock (finalizeClaimedCloudRunResult ctx i.cloudRunId c' input) s = res
  obtain ⟨res,s'⟩ := res
  rintro rfl hx
  cases res with
  | ok a =>
    obtain ⟨hf,hover⟩ := hx
    refine ⟨fun _ => ⟨fun _ _ he => ?_,_,rfl,hover⟩,fun hno => (hno (hfin.mp hf)).elim⟩
    cases he
  | error e =>
    rcases hx with ⟨hf,hhttp,hover⟩ | ⟨hf,⟨detail,rfl⟩,b,a,y,hb,hy⟩
    · refine ⟨fun _ => ⟨fun _ _ he => ?_,_,rfl,hover⟩,fun hno => (hno (hfin.mp hf)).elim⟩
      cases he
      cases hhttp
    · refine ⟨fun hyes => (hf (hfin.mpr hyes)).elim,fun _ => ⟨⟨detail,rfl⟩,b,?_,hb⟩⟩
      exact hb.idle.trans hy.focus.committed.symm

theorem complete_cases (hw : Sound w) (clock : ℕ → Time) (ctx : Option AuthContext)
    (cred : LeaseCredentials) (body : CloudRunExecutionResultCreate) (replies : CompletionReplies) :
    match perform clock (acceptCompletion ctx cred body replies) w with
    | (.error _,_) =>
      (perform clock (completeCloudRunLease ctx cred body replies) w).2.db = w.db
    | (.ok (id,_,result),_) => ∃ i c c' l r t, i.cloudRunId = id ∧
        Accepted cred ctx (Stage.start w) i c c' l r t ∧ Completion w i c c' l r t result
          (perform clock (completeCloudRunLease ctx cred body replies) w) := by
  have hb := perform_bind clock (serial_accept ctx cred body replies hw.ready)
  have hprog : completeCloudRunLease ctx cred body replies =
      acceptCompletion ctx cred body replies >>= fun out => finalizeClaimedCloudRunResult ctx out.1
        out.2.1 ⟨out.2.2,replies.secrets,replies.mnsDelete⟩ := rfl
  rw [hprog]
  revert hb
  generalize perform clock (acceptCompletion ctx cred body replies) w = accepted
  obtain ⟨accepted,w'⟩ := accepted
  cases accepted with
  | error e =>
    rintro ⟨s,rfl,⟨hcom,_⟩,hperform⟩
    rw [hperform]
    exact hcom
  | ok out =>
    obtain ⟨id,c',result⟩ := out
    rintro ⟨s,⟨i,c,l,r,t,rfl,hacc,hr⟩,hperform⟩
    exact ⟨i,c,c',l,r,t,rfl,hacc,hacc.completion hr ⟨result,_,_⟩ (hperform _)⟩

-- No accepted completion of a run with a callback token is refused by the task of the run.
def acceptedFinishes (w : World) (clock : ℕ → Time) : CloudRunnerOp → Prop
  | .complete ctx cred body replies =>
    match perform clock (acceptCompletion ctx cred body replies) w with
    | (.error _,_) => True
    | (.ok (id,_,result),_) => ∀ c t, w.db (.cloudRun id) = some c →
        c.callbackTokenHash.isSome = true → w.db (.task c.taskId) = some t → Finishes c t result
  | _ => True

def TokensEnd (db : Db) : Prop :=
  ∀ id σ, stateAt db id = some σ → σ.tokenUsed = true → σ.status.terminal = true

omit [Digest] in
theorem RunStep.tokensEnd {label : RunLabel} {s s' : RunState} (h : RunStep label s s')
    (hl : label ≠ .useToken) (hs : s.tokenUsed = true → s.status.terminal = true) :
    s'.tokenUsed = true → s'.status.terminal = true := by
  intro hused
  have hunused : s.tokenUsed ≠ true := by
    intro hu
    have halive := h.alive
    rw [hs hu] at halive
    cases halive
  cases h with
  | useToken h => exact (hl rfl).elim
  | finish status patchArtifactId h hc hp => exact ResultStatus.runStatus_terminal status
  | guard h => cases hused
  | claim h => exact (hunused hused).elim
  | lease leaseId h hc ha => exact (hunused hused).elim
  | beat h hl => exact (hunused hused).elim
  | askCancel h => exact (hunused hused).elim
  | requeue h ha => exact (hunused hused).elim
  | queueRefused h => rfl
  | runtimeRefused h => rfl
  | cancelQueued h => rfl
  | exhaust h ha => rfl
  | finishCancelled h hc => rfl
  | failPreflight patchArtifactId h => rfl

omit [Digest] in
theorem RunPath.tokensEnd {A : RunLabel → Prop} {s s' : RunState} (h : RunPath A s s')
    (hA : ¬ A .useToken) (hs : s.tokenUsed = true → s.status.terminal = true) :
    s'.tokenUsed = true → s'.status.terminal = true := by
  induction h with
  | refl => exact hs
  | tail _ hstep ih =>
    obtain ⟨label,hl,hstep⟩ := hstep
    exact hstep.tokensEnd (fun e => hA (e ▸ hl)) ih

omit [Digest] in
theorem Evolves.tokensEnd {A : Id → RunLabel → Prop} {db db' : Db} (h : Evolves A db db')
    (hA : ∀ id, ¬ A id .useToken) (hdb : TokensEnd db) : TokensEnd db' := by
  intro id σ hσ
  have hch := h id
  rw [hσ] at hch
  cases hs : stateAt db id with
  | none =>
    rw [hs] at hch
    exact hch.2.tokensEnd (hA id) fun hu => by cases hu
  | some σ₀ =>
    rw [hs] at hch
    exact RunPath.tokensEnd hch (hA id) (hdb id σ₀ hs)

omit [Digest] in
theorem Rest.tokensEnd {A : RunLabel → Prop} {i : RunIds} {s₀ s : Stage Row} {x : RunRows}
    (h : Rest A i s₀ x s) (hx : x.state.tokenUsed = true → x.state.status.terminal = true)
    (hdb : TokensEnd s₀.committed) : TokensEnd s.committed := by
  intro id σ hσ
  by_cases hid : id = i.cloudRunId
  · subst hid
    rw [← h.idle,h.rows.stateAt] at hσ
    obtain rfl := Option.some.inj hσ
    exact hx
  · rw [h.goes.evolves.elsewhere hid] at hσ
    exact hdb id σ hσ

theorem complete_tokensEnd (hw : Sound w) {clock : ℕ → Time}
    (hc : acceptedFinishes w clock (.complete ctx cred body replies)) (hdb : TokensEnd w.db) :
    TokensEnd (perform clock (CloudRunnerOp.complete ctx cred body replies).program w).2.db := by
  have hprog : (CloudRunnerOp.complete ctx cred body replies).program =
      discard (completeCloudRunLease ctx cred body replies) := rfl
  rw [hprog,perform_discard]
  have hcases := complete_cases hw clock ctx cred body replies
  simp only [acceptedFinishes] at hc
  revert hc hcases
  generalize perform clock (acceptCompletion ctx cred body replies) w = accepted
  obtain ⟨accepted,w'⟩ := accepted
  cases accepted with
  | error e =>
    intro _ hsame
    rw [hsame]
    exact hdb
  | ok out =>
    obtain ⟨id,c₁,result⟩ := out
    rintro hfin ⟨i,c,c',l,r,t,rfl,hacc,hend⟩
    by_cases hf : Finishes c t result
    · obtain ⟨_,s,hs,y,hy,hterm⟩ := hend.finished hf
      rw [← hs]
      exact hy.tokensEnd (fun _ => hterm) hdb
    · obtain ⟨_,s,hs,hrest⟩ := hend.refused hf
      rw [← hs,hrest.idle]
      refine hrest.tokensEnd (fun hused => ?_) hdb
      have htask : w.db (.task c.taskId) = some t := by
        rw [hacc.rows.taskId]
        exact hacc.rows.task
      have hnone : c.callbackTokenHash.isSome ≠ true := fun hsome =>
        hf (hfin c t hacc.rows.cloudRun hsome htask)
      have hrunning : c.status.terminal = true := by
        refine hdb i.cloudRunId _ hacc.rows.stateAt ?_
        have hstate := congrArg RunState.tokenUsed (hacc.token.state l r)
        have hused : (runState c' l r).tokenUsed = true := hused
        rw [hused] at hstate
        simp only [runState] at hstate
        have hhash : c.callbackTokenHash.isSome = false := by simpa using hnone
        rw [hhash,Bool.or_false] at hstate
        exact hstate.symm
      rw [hacc.current.running] at hrunning
      cases hrunning

theorem CloudRunnerOp.keepsTokens {o : CloudRunnerOp} (hw : Sound w) {clock : ℕ → Time}
    (hc : acceptedFinishes w clock o) (hdb : TokensEnd w.db) :
    TokensEnd (perform clock o.program w).2.db := by
  have hlead := (operation_leads hw clock o).evolves
  cases o with
  | complete ctx cred body replies => exact complete_tokensEnd hw hc hdb
  | claim req => exact hlead.tokensEnd (fun id hl => by cases hl) hdb
  | heartbeat cred leaseSeconds => exact hlead.tokensEnd (fun id hl => by cases hl) hdb
  | cancel ctx cloudRunId => exact hlead.tokensEnd (fun id hl => by rcases hl.2 with hl | hl <;> cases hl) hdb
  | requeue provider limit =>
    exact hlead.tokensEnd (fun id ⟨_,_,_,hl⟩ => by rcases hl with hl | ⟨hl,_⟩ <;> cases hl) hdb
  | process ctx cloudRunId workerId replies =>
    exact hlead.tokensEnd (fun id hl => by rcases hl.2 with hl | hl | hl | hl <;> cases hl) hdb
  | enqueue ctx taskId data replies =>
    exact hlead.tokensEnd
      (fun id hl => by rcases hl.2 with (hl | hl) | ⟨hl,_⟩ | ⟨hl,_⟩ <;> cases hl) hdb

theorem History.tokensEnd (h : History acceptedFinishes hist w) : TokensEnd w.db := by
  induction h with
  | start h =>
    intro id σ hσ
    rw [stateAt_none (h.runs (.cloudRun id) trivial)] at hσ
    cases hσ
  | op clock o hh hc ih => exact CloudRunnerOp.keepsTokens hh.sound hc ih
  | between _ hb ih =>
    intro id σ hσ
    rw [hb.stateAt] at hσ
    exact ih id σ hσ

theorem completion_atomic_on_error (h : History anyOp hist w) (clock : ℕ → Time)
    (ctx : Option AuthContext) (cred : LeaseCredentials) (body : CloudRunExecutionResultCreate)
    (replies : CompletionReplies) :
    (match perform clock (acceptCompletion ctx cred body replies) w with
    | (.error _,_) => ∀ id, UnchangedOnError w clock ctx cred body replies id
    | (.ok (id,_,result),_) => ∃ c t, w.db (.cloudRun id) = some c ∧
        w.db (.task c.taskId) = some t ∧ (c.callbackTokenHash.isSome = true →
          (UnchangedOnError w clock ctx cred body replies id ↔ Finishes c t result))) ∧
    (History acceptedFinishes hist w → ∀ id c, w.db (.cloudRun id) = some c →
      c.callbackTokenUsedAt.isSome = true → c.status.terminal = true) := by
  refine ⟨?_,fun hfin id c hc hused => ?_⟩
  · have hcases := complete_cases h.sound clock ctx cred body replies
    revert hcases
    generalize perform clock (acceptCompletion ctx cred body replies) w = accepted
    obtain ⟨accepted,w'⟩ := accepted
    cases accepted with
    | error e => exact fun hsame id _ _ _ => congrFun hsame (.cloudRun id)
    | ok out =>
      obtain ⟨id,c₁,result⟩ := out
      rintro ⟨i,c,c',l,r,t,rfl,hacc,hend⟩
      have htask : w.db (.task c.taskId) = some t := by
        rw [hacc.rows.taskId]
        exact hacc.rows.task
      refine ⟨c,t,hacc.rows.cloudRun,htask,fun hsome => ⟨fun hsame => ?_,fun hf => ?_⟩⟩
      · by_contra hno
        obtain ⟨⟨detail,herror⟩,s,hs,hrest⟩ := hend.refused hno
        have hrow := hsame 400 detail herror
        rw [← hs,hrest.rows.cloudRun] at hrow
        have hrow' : some c' = some c := hrow.trans hacc.rows.cloudRun
        have hused := hacc.token.used hsome
        rw [Option.some.inj hrow',hacc.unused hsome] at hused
        cases hused
      · intro statusCode detail herror
        exact ((hend.finished hf).1 statusCode detail herror).elim
  · obtain ⟨i,x,rfl,rfl,hat,_⟩ := hfin.sound.rows hc
    exact hfin.tokensEnd _ _ hat.stateAt hused

end completion

def sampleWorker : String := "remote_stub-cloud_run_7"

def sampleGuarded (taskId : Id) : List ((ℕ → Time) × CloudRunnerOp) :=
  [(fun _ => 0,.enqueue sampleOwner taskId ⟨3,some 1,.localDb,some .remoteStub,none⟩ sampleReplies),
    (fun _ => 1,.claim ⟨sampleWorker,"docker",.localDb,some 7,some "token",none,none,60,true⟩)]

def sampleCredentials (token : String) : LeaseCredentials := ⟨11,sampleWorker,some token,true⟩

def sampleBody : CloudRunExecutionResultCreate := { status := .patchReady, runnerKind := "docker" }

def sampleCompletionReplies : CompletionReplies := ⟨fun _ => .readError "",[],.deleted⟩

def sampleAccepted : List ((ℕ → Time) × CloudRunnerOp) :=
  sampleGuarded 4 ++
    [(fun _ => 2,.complete sampleOwner (sampleCredentials "token") sampleBody sampleCompletionReplies)]

theorem sample_accepts : ∃ c₁ w', perform (fun _ => 2)
    (@acceptCompletion plainDigest sampleOwner (sampleCredentials "token") sampleBody sampleCompletionReplies)
    (samplePlay (sampleGuarded 4)).2 = (.ok (7,c₁,sampleBody.toSandboxExecutionResult),w') := by
  let _ := plainDigest
  have hout : (match perform (fun _ => 2) (acceptCompletion sampleOwner (sampleCredentials "token") sampleBody
      sampleCompletionReplies) (samplePlay (sampleGuarded 4)).2 with
      | (.ok (id,_,result),_) => some (id,result)
      | (.error _,_) => none) = some (7,sampleBody.toSandboxExecutionResult) := by decide +kernel
  revert hout
  generalize perform (fun _ => 2) (acceptCompletion sampleOwner (sampleCredentials "token") sampleBody
    sampleCompletionReplies) (samplePlay (sampleGuarded 4)).2 = accepted
  obtain ⟨_ | ⟨id,c₁,result⟩,w'⟩ := accepted
  · intro hout
    cases hout
  · intro hout
    cases hout
    exact ⟨c₁,w',rfl⟩

theorem sample_finishes {c : CloudRun} {t : Task}
    (hc : (samplePlay (sampleGuarded 4)).2.db (.cloudRun 7) = some c)
    (ht : (samplePlay (sampleGuarded 4)).2.db (.task c.taskId) = some t) :
    c.callbackTokenHash.isSome = true ∧ Finishes c t sampleBody.toSandboxExecutionResult := by
  have hrows : (((samplePlay (sampleGuarded 4)).2.db (.cloudRun 7)).bind fun c =>
      ((samplePlay (sampleGuarded 4)).2.db (.task c.taskId)).map fun t =>
        decide (c.callbackTokenHash.isSome = true ∧ Finishes c t sampleBody.toSandboxExecutionResult)) =
      some true := by decide +kernel
  rw [hc,Option.bind_some,ht] at hrows
  exact of_decide_eq_true (Option.some.inj hrows)

theorem completion_atomic_on_error_sampled :
    (∀ id, @UnchangedOnError plainDigest (samplePlay (sampleGuarded 4)).2 (fun _ => 2) sampleOwner
      (sampleCredentials "other") sampleBody sampleCompletionReplies id) ∧
    @UnchangedOnError plainDigest (samplePlay (sampleGuarded 4)).2 (fun _ => 2) sampleOwner
      (sampleCredentials "token") sampleBody sampleCompletionReplies 7 ∧
    ((samplePlay sampleAccepted).2.db (.cloudRun 7)).any (fun c => c.callbackTokenUsedAt.isSome) = true ∧
    ∀ id c, (samplePlay sampleAccepted).2.db (.cloudRun id) = some c →
      c.callbackTokenUsedAt.isSome = true → c.status.terminal = true := by
  let _ := plainDigest
  have hany := sample_history (follows_any sampleWorld (sampleGuarded 4))
  refine ⟨?_,?_,by decide +kernel,?_⟩
  · have hcases := (completion_atomic_on_error hany (fun _ => 2) sampleOwner (sampleCredentials "other")
      sampleBody sampleCompletionReplies).1
    have hrejected : (perform (fun _ => 2) (acceptCompletion sampleOwner (sampleCredentials "other")
        sampleBody sampleCompletionReplies) (samplePlay (sampleGuarded 4)).2).1.isOk = false := by
      decide +kernel
    revert hcases hrejected
    generalize perform (fun _ => 2) (acceptCompletion sampleOwner (sampleCredentials "other") sampleBody
      sampleCompletionReplies) (samplePlay (sampleGuarded 4)).2 = accepted
    obtain ⟨accepted,w'⟩ := accepted
    cases accepted with
    | error e => exact fun hall _ => hall
    | ok out => exact fun _ hno => by cases hno
  · have hcases := (completion_atomic_on_error hany (fun _ => 2) sampleOwner (sampleCredentials "token")
      sampleBody sampleCompletionReplies).1
    obtain ⟨c₁,w',haccepts⟩ := sample_accepts
    rw [haccepts] at hcases
    obtain ⟨c,t,hc,ht,hiff⟩ := hcases
    obtain ⟨hhash,hfinishes⟩ := sample_finishes hc ht
    exact (hiff hhash).mpr hfinishes
  · have hstep : acceptedFinishes (samplePlay (sampleGuarded 4)).2 (fun _ => 2)
        (.complete sampleOwner (sampleCredentials "token") sampleBody sampleCompletionReplies) := by
      obtain ⟨c₁,w',haccepts⟩ := sample_accepts
      dsimp only [acceptedFinishes]
      rw [haccepts]
      exact fun c t hc _ ht => (sample_finishes hc ht).2
    exact (completion_atomic_on_error (sample_history (follows_any sampleWorld sampleAccepted)) (fun _ => 3)
      sampleOwner (sampleCredentials "token") sampleBody sampleCompletionReplies).2
        (sample_history ⟨trivial,trivial,hstep,trivial⟩)

def sampleRefused : List ((ℕ → Time) × CloudRunnerOp) :=
  sampleGuarded 5 ++
    [(fun _ => 2,.complete sampleOwner (sampleCredentials "token") sampleBody sampleCompletionReplies)]

-- The task has been merged, so it cannot reach PATCH_READY and the completion is refused.
theorem refused_completion_uses_token :
    @History plainDigest anyOp (samplePlay sampleRefused).1 (samplePlay sampleRefused).2 ∧
      (samplePlay sampleRefused).1.getLast?.map (fun e => statusCode e.outcome) = some 400 ∧
      ((samplePlay (sampleGuarded 5)).2.db (.cloudRun 7)).any (fun c =>
        c.callbackTokenHash.isSome && c.callbackTokenUsedAt.isNone) = true ∧
      ((samplePlay sampleRefused).2.db (.cloudRun 7)).any (fun c =>
        c.status = .running && c.callbackTokenUsedAt.isSome) = true := by
  refine ⟨sample_history (@follows_any plainDigest sampleWorld sampleRefused),?_,?_,?_⟩
  · decide +kernel
  · decide +kernel
  · decide +kernel

section processing

variable [Digest] {hist : List Event} {w : World}

-- Whether an HTTP exception is raised inside the finalisation of the run that is processed.
def finalizationRaises (ctx : Option AuthContext) (cloudRunId : Id) (workerId : String)
    (replies : ProcessReplies) : Op Bool := do
  let started ← startCloudRun ctx cloudRunId workerId
  checkExecution ctx started.cloudRun replies
  tryCatch (do
    let _ ← finalizeClaimedCloudRunResult ctx cloudRunId started.cloudRun
      ⟨executionResult started.cloudRun replies,replies.secrets,replies.mnsDelete⟩
    pure false) fun e => pure e.isHttp

-- Nothing in the store tells of a patch of the run, and its task is as it was.
structure NoTrace (before after : Db) (cloudRunId : Id) (c : CloudRun) (l : LocalTaskRun) : Prop where
  artifact : ∀ id a, after (.patchArtifact id) = some a → c.localRunId ≠ some a.localRunId
  testRun : ∀ id t, after (.localTestRun id) = some t → c.localRunId ≠ some t.localRunId
  cloudRun : c.patchArtifactId = none
  localRun : l.patchArtifactId = none
  event : ∀ id e localRunId artifactId files, after (.taskEvent id) = some e →
    e.payload ≠ .patchArtifactCreated cloudRunId localRunId artifactId files
  log : ∀ id e, after (.cloudRunLogEntry id) = some e → e.cloudRunId = cloudRunId → e.event ≠ .patchReady
  task : ∀ t, before (.task c.taskId) = some t → ∃ t', after (.task c.taskId) = some t' ∧
    t'.repoId = t.repoId ∧ t'.branchName = t.branchName ∧ t'.worktreeRef = t.worktreeRef ∧
    t'.status = t.status

def FailsCleanly (w : World) (clock : ℕ → Time) (ctx : Option AuthContext) (cloudRunId : Id)
    (workerId : String) (replies : ProcessReplies) : Prop :=
  (perform clock (finalizationRaises ctx cloudRunId workerId replies) w).1 = .ok true →
    ∀ c localRunId l,
      (perform clock (processCloudRun ctx cloudRunId workerId replies) w).2.db (.cloudRun cloudRunId) =
        some c → c.localRunId = some localRunId →
      (perform clock (processCloudRun ctx cloudRunId workerId replies) w).2.db
        (.localTaskRun localRunId) = some l →
      NoTrace w.db (perform clock (processCloudRun ctx cloudRunId workerId replies) w).2.db cloudRunId
        c l

variable {ctx : Option AuthContext} {workerId : String} {replies : ProcessReplies} {i : RunIds}
  {c : CloudRun} {l : LocalTaskRun} {r : BudgetReservation} {t : Task} {now : Time}

omit [Digest] in
theorem Started.raises {s₀ s₁ : Stage Row} (h : Started s₀ i c l r t workerId now s₁)
    (ha : Allowed ctx c.workspaceId) (replies : ProcessReplies) :
    Serial (do
        checkExecution ctx (c.claimed workerId now) replies
        tryCatch (do
          let _ ← finalizeClaimedCloudRunResult ctx i.cloudRunId (c.claimed workerId now)
            ⟨executionResult (c.claimed workerId now) replies,replies.secrets,replies.mnsDelete⟩
          pure false) fun e => pure e.isHttp)
      (fun raised _ => profileAccepted (c.claimed workerId now) replies = true ∧
        (raised = true ↔ ¬ Finishes (c.claimed workerId now) t
          (executionResult (c.claimed workerId now) replies)))
      (fun _ _ => profileAccepted (c.claimed workerId now) replies = false) s₁ := by
  have hdone : c.completedAt = none := h.ok.uncompleted (by rw [h.queued]; rfl)
  have hres : r.status = .reserved := h.ok.reserved (by rw [h.queued]; rfl)
  refine serial_bind (h.rest.focus.checkExecution ha (fun hyes => ?_) fun hno _ _ => hno)
  refine serial_tryCatch (serial_bind (serial_mono (h.rest.focus.finalize h.rest ha (Or.inr (Or.inl rfl))
    (Or.inr (Or.inr (Or.inl rfl))) rfl hdone hres h.rest.rows.taskId _) (fun _ s₂ h₂ => ?_)
    fun e s₂ h₂ => ?_))
  · refine serial_pure ⟨hyes,?_⟩
    simp [h₂.1]
  · rcases h₂ with ⟨hf,hhttp,_⟩ | ⟨hf,⟨detail,rfl⟩,_⟩
    · refine serial_pure ⟨hyes,?_⟩
      simp only [hhttp]
      simp [hf]
    · exact serial_pure ⟨hyes,fun _ => hf,fun _ => rfl⟩

theorem failed_finalisation_leaves_no_trace (h : History anyOp hist w) (clock : ℕ → Time)
    (ctx : Option AuthContext) (cloudRunId : Id) (workerId : String) (replies : ProcessReplies) :
    match perform clock (startCloudRun ctx cloudRunId workerId) w with
    | (.error _,_) => FailsCleanly w clock ctx cloudRunId workerId replies
    | (.ok started,_) => FailsCleanly w clock ctx cloudRunId workerId replies ↔
        profileAccepted started.cloudRun replies = false ∨
          ∃ t, w.db (.task started.cloudRun.taskId) = some t ∧
            Finishes started.cloudRun t (executionResult started.cloudRun replies) := by
  have hstart : Serial (startCloudRun ctx cloudRunId workerId) _ _ (Stage.start w) :=
    serial_start cloudRunId workerId h.sound.ready
  have hb := perform_bind clock hstart
  unfold FailsCleanly finalizationRaises processCloudRun
  revert hb
  generalize perform clock (startCloudRun ctx cloudRunId workerId) w = out
  obtain ⟨out,w'⟩ := out
  cases out with
  | error e =>
    rintro ⟨_,_,_,hperform⟩ hraised
    rw [hperform] at hraised
    cases hraised
  | ok started =>
    rintro ⟨s,⟨i,c,l,r,t,now,rfl,ha,rfl,hst⟩,hperform⟩
    have hraises := exec_serial clock (hst.raises ha replies)
    have hexecuted := exec_serial clock (hst.execute ha replies)
    have htask : w.db (.task (c.claimed workerId now).taskId) = some t := by
      rw [show (c.claimed workerId now).taskId = i.taskId from hst.rest.rows.taskId]
      exact hst.rows.task
    rw [hperform,hperform]
    revert hraises hexecuted
    generalize exec clock (do
      checkExecution ctx (c.claimed workerId now) replies
      tryCatch (do
        let _ ← finalizeClaimedCloudRunResult ctx i.cloudRunId (c.claimed workerId now)
          ⟨executionResult (c.claimed workerId now) replies,replies.secrets,replies.mnsDelete⟩
        pure false) fun e => pure e.isHttp) s = raised
    generalize exec clock (do
      let result ← executeClaimedCloudRun ctx i.cloudRunId (c.claimed workerId now) i.localRunId
        (l.moved .running now) replies
      commit
      pure result) s = processed
    obtain ⟨raised,sr⟩ := raised
    obtain ⟨processed,sp⟩ := processed
    intro hraises hexecuted
    have hleft : Executed Processes i (Stage.start w) ⟨c.claimed workerId now,l.moved .running now,r,t⟩
        replies (Stage.of sp.pend sp.world) := by
      cases processed with
      | ok a => exact hexecuted
      | error e => exact hexecuted
    refine ⟨fun hclean => ?_,fun hcond hraised => ?_⟩
    · by_contra hno
      obtain ⟨hprofile,hfin⟩ := not_or.mp hno
      have hyes : profileAccepted (c.claimed workerId now) replies = true := by simpa using hprofile
      have hnot : ¬ Finishes (c.claimed workerId now) t
          (executionResult (c.claimed workerId now) replies) := fun hf => hfin ⟨t,htask,hf⟩
      have hraised : raised = .ok true := by
        cases raised with
        | ok b => rw [hraises.2.mpr hnot]
        | error e => exact (hprofile hraises).elim
      obtain ⟨y,hy,_,hpatch⟩ := hleft
      have hrun : sp.world.db (.cloudRun i.cloudRunId) = some y.cloudRun := by
        have hrow := hy.rows.cloudRun
        rw [hy.idle] at hrow
        exact hrow
      have hlocal : sp.world.db (.localTaskRun i.localRunId) = some y.localRun := by
        have hrow := hy.rows.localRun
        rw [hy.idle] at hrow
        exact hrow
      have hnone := (hclean hraised _ _ _ hrun hy.rows.localRunId hlocal).cloudRun
      have hsome := hpatch hyes hnot
      rw [hnone] at hsome
      cases hsome
    · cases raised with
      | error e => cases hraised
      | ok b =>
        obtain rfl : b = true := Except.ok.inj hraised
        obtain ⟨hyes,hnot⟩ := hraises
        rcases hcond with hprofile | ⟨t',ht',hf⟩
        · rw [hyes] at hprofile
          cases hprofile
        · rw [htask] at ht'
          obtain rfl := Option.some.inj ht'
          exact (hnot.mp rfl hf).elim

end processing

def sampleQueued (taskId : Id) : List ((ℕ → Time) × CloudRunnerOp) :=
  [(fun _ => 0,sampleEnqueue taskId)]

def sampleProcessReplies : ProcessReplies :=
  ⟨.ok (),some { status := .patchReady, runnerKind := "fake" },[],.deleted⟩

theorem failed_finalisation_leaves_no_trace_created :
    FailsCleanly (samplePlay (sampleQueued 4)).2 (fun _ => 1) sampleOwner 7 "worker"
      sampleProcessReplies := by
  let _ := plainDigest
  have hcases := failed_finalisation_leaves_no_trace
    (sample_history (follows_any sampleWorld (sampleQueued 4))) (fun _ => 1) sampleOwner 7 "worker"
    sampleProcessReplies
  have hstarted : (perform (fun _ => 1) (startCloudRun sampleOwner 7 "worker")
      (samplePlay (sampleQueued 4)).2).1.toOption.all (fun started =>
        ((samplePlay (sampleQueued 4)).2.db (.task started.cloudRun.taskId)).any fun t =>
          t.status.reachesPatchReady) = true := by decide +kernel
  revert hcases hstarted
  generalize perform (fun _ => 1) (startCloudRun sampleOwner 7 "worker")
    (samplePlay (sampleQueued 4)).2 = out
  obtain ⟨out,w'⟩ := out
  cases out with
  | error e => exact fun hclean _ => hclean
  | ok started =>
    intro hiff hreach
    obtain ⟨t,ht,hstatus⟩ := (Option.any_eq_true _ _).mp hreach
    exact hiff.mpr (Or.inr ⟨t,ht,Or.inr (Or.inr hstatus)⟩)

-- The task has been merged; the patch of the refused finalisation is committed with the failure.
theorem refused_finalisation_leaves_patch :
    @History plainDigest anyOp (samplePlay (sampleQueued 5)).1 (samplePlay (sampleQueued 5)).2 ∧
      ¬ FailsCleanly (samplePlay (sampleQueued 5)).2 (fun _ => 1) sampleOwner 7 "worker"
        sampleProcessReplies := by
  refine ⟨sample_history (@follows_any plainDigest sampleWorld (sampleQueued 5)),fun hclean => ?_⟩
  have hraised : (perform (fun _ => 1) (finalizationRaises sampleOwner 7 "worker" sampleProcessReplies)
      (samplePlay (sampleQueued 5)).2).1 = .ok true := by decide +kernel
  have hrun : ((perform (fun _ => 1) (processCloudRun sampleOwner 7 "worker" sampleProcessReplies)
      (samplePlay (sampleQueued 5)).2).2.db (.cloudRun 7)).any (fun c => c.localRunId = some 8 ∧
        c.failureReason = some "cloud_run_preflight_failed" ∧ c.patchArtifactId.isSome) = true := by
    decide +kernel
  have hlocal : ((perform (fun _ => 1) (processCloudRun sampleOwner 7 "worker" sampleProcessReplies)
      (samplePlay (sampleQueued 5)).2).2.db (.localTaskRun 8)).isSome = true := by decide +kernel
  obtain ⟨c,hc,hfields⟩ := (Option.any_eq_true _ _).mp hrun
  obtain ⟨l,hl⟩ := Option.isSome_iff_exists.mp hlocal
  simp only [decide_eq_true_eq] at hfields
  have hnone := (hclean hraised c 8 l hc hfields.1 hl).cloudRun
  rw [hnone] at hfields
  cases hfields.2.2

end AiScdc
