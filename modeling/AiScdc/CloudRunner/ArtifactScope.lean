import AiScdc.CloudRunner.Atomicity

namespace AiScdc
open Transaction

-- The scope that the reading of a run's artifacts checks of a local-inline reference.
def inScope (db : Db) (cloudRunId workspaceId : Id) (ref : ArtifactRef) : Bool :=
  match ref.uri with
  | .localInline objectId => (db (.storedObject objectId)).all fun stored =>
      stored.cloudRunId = cloudRunId && stored.workspaceId = workspaceId
  | _ => true

section scope

variable [Digest] {s : Stage Row} {ctx : Option AuthContext} {cred : LeaseCredentials}
  {body : CloudRunExecutionResultCreate} {replies : CompletionReplies}

omit [Digest] in
theorem Free.appendLog (h : Free s) {cloudRunId workspaceId : Id} {level : String} {event : LogEvent}
    {Q : Unit → Stage Row → Prop} {E : Exn → Stage Row → Prop}
    (hQ : ∀ s', Free s' → (∀ k, (∀ n, k ≠ .cloudRunLogEntry n) → s'.current k = s.current k) →
      Q () s') : Serial (appendCloudRunLog cloudRunId workspaceId level event) Q E s := by
  refine serial_bind (serial_now fun now => serial_bind (serial_fresh ?_))
  have hnone : s.bump.current (.cloudRunLogEntry s.next) = none :=
    (h.unused (.cloudRunLogEntry s.next) s.next rfl (Nat.le_refl _)).1
  refine serial_insert hnone (hQ _ ?_ fun k hk => ?_)
  · refine h.bump.write fun n hn => ?_
    cases hn
    exact Nat.lt_succ_self _
  · exact Stage.write_ne _ _ _ (hk s.next)

def repositoryOpen (db : Db) (ctx : Option AuthContext) (repoId : Id) : Prop :=
  ∃ repository, db (.repository repoId) = some repository ∧ Allowed ctx repository.workspaceId

omit [Digest] in
theorem serial_openRepository {repoId : Id} {Q : Repository → Stage Row → Prop}
    {E : Exn → Stage Row → Prop} (hQ : ∀ repository, repositoryOpen s.current ctx repoId → Q repository s)
    (hE : ¬ repositoryOpen s.current ctx repoId → ∀ e, E e s) :
    Serial (getRepository ctx repoId) Q E s := by
  refine serial_bind (serial_getOr404 (fun repository hrepo => ?_) fun hnone => ?_)
  · refine serial_bind (serial_enforce (fun ha => serial_pure (hQ _ ⟨repository,hrepo,ha⟩)) fun hno => ?_)
    refine hE ?_ _
    rintro ⟨repository',hrepo',ha⟩
    rw [hrepo] at hrepo'
    cases hrepo'
    exact hno ha
  · refine hE ?_ _
    rintro ⟨repository,hrepo,_⟩
    rw [hnone] at hrepo
    cases hrepo

def refsReadable (db : Db) (oss : ArtifactRef → OssReply) (body : CloudRunExecutionResultCreate) : Prop :=
  ∀ ref ∈ body.artifactRefs, ref.kind = .diff → readable db oss ref = true

theorem Free.resolveArtifacts (h : Free s) {id : Id} {c : CloudRun} {oss : ArtifactRef → OssReply}
    {Q : SandboxExecutionResult → Stage Row → Prop} {E : Exn → Stage Row → Prop}
    (hQ : refsReadable s.current oss body → ∀ result s', Free s' →
      (∀ k, (∀ n, k ≠ .cloudRunLogEntry n) → s'.current k = s.current k) → Q result s')
    (hE : ¬ refsReadable s.current oss body → ∀ e, E e s) :
    Serial (resolveCloudRunCompletionArtifacts id c body oss) Q E s := by
  refine serial_bind (serial_readAll (fun hall text => ?_) fun hex => hE ?_)
  · cases text with
    | none => exact serial_pure (hQ hall _ _ h fun _ _ => rfl)
    | some diffText =>
      refine serial_bind (h.appendLog fun s₁ hf₁ h₁ => ?_)
      dsimp only
      split
      · refine serial_bind (hf₁.appendLog fun s₂ hf₂ h₂ => serial_pure (hQ hall _ _ hf₂ ?_))
        intro k hk
        exact (h₂ k hk).trans (h₁ k hk)
      · exact serial_pure (hQ hall _ _ hf₁ h₁)
  · intro hall
    obtain ⟨ref,hmem,hkind,hno⟩ := hex
    rw [hall ref hmem hkind] at hno
    cases hno

-- The part of acceptCompletion that follows the resolution of the lease.
def acceptResolved (ctx : Option AuthContext) (body : CloudRunExecutionResultCreate)
    (replies : CompletionReplies) (leased : Id × CloudRun) :
    Op (Id × CloudRun × SandboxExecutionResult) := do
  let result ← resolveCloudRunCompletionArtifacts leased.1 leased.2 body replies.oss
  let stubbed ← stubCompletion leased.2 result.status
  let used ← useCallbackToken stubbed
  let _ ← getRepository ctx leased.2.repoId
  flush (.cloudRun leased.1) leased.2 used
  appendCloudRunLog leased.1 leased.2.workspaceId "info" .workerCompleted
  commit
  let cloudRun ← refresh (.cloudRun leased.1)
  pure (leased.1,cloudRun,result)

theorem Free.acceptResolved (h : Free s) {id : Id} {c : CloudRun}
    (hc : s.current (.cloudRun id) = some c) :
    Serial (acceptResolved ctx body replies (id,c))
      (fun out _ => out.1 = id ∧ refsReadable s.current replies.oss body ∧
        repositoryOpen s.current ctx c.repoId)
      (fun _ _ => ¬ (refsReadable s.current replies.oss body ∧ repositoryOpen s.current ctx c.repoId))
      s := by
  refine serial_bind (h.resolveArtifacts (fun hall result s₁ hf₁ h₁ => ?_) fun hno _ hboth =>
    hno hboth.1)
  refine serial_bind (serial_stub fun c₁ hstub => serial_bind (serial_useToken hstub fun c' htoken => ?_))
  have hrepo : s₁.current (.repository c.repoId) = s.current (.repository c.repoId) :=
    h₁ _ fun n e => by cases e
  have hopen : repositoryOpen s₁.current ctx c.repoId ↔ repositoryOpen s.current ctx c.repoId := by
    unfold repositoryOpen
    rw [hrepo]
  refine serial_bind (serial_openRepository (fun _ hyes => ?_) fun hno _ hboth =>
    hno (hopen.mpr hboth.2))
  have hrow : s₁.current (.cloudRun id) = some c := (h₁ _ fun n e => by cases e).trans hc
  refine serial_bind (serial_flushRow hrow ?_)
  have hf₂ : Free (s₁.write (.cloudRun id) (some c')) := hf₁.write fun n hn => hf₁.lt hn hrow
  refine serial_bind (hf₂.appendLog fun s₃ _ h₃ => serial_bind (serial_commitNow ?_))
  have hrow₃ : s₃.commit.current (.cloudRun id) = some c' :=
    (h₃ _ fun n e => by cases e).trans (Stage.write_self _ _ _)
  refine serial_bind (serial_bind (serial_get ?_))
  rw [hrow₃]
  exact serial_pure (serial_pure ⟨rfl,hall,hopen.mp hyes⟩)

-- Whenever the completion is accepted, its local-inline diffs are objects of the completed run.
def AcceptsInScope (w : World) (clock : ℕ → Time) (ctx : Option AuthContext) (cred : LeaseCredentials)
    (body : CloudRunExecutionResultCreate) (replies : CompletionReplies) : Prop :=
  ∀ id c' result, (perform clock (acceptCompletion ctx cred body replies) w).1 = .ok (id,c',result) →
    ∀ c, w.db (.cloudRun id) = some c → ∀ ref ∈ body.artifactRefs, ref.kind = .diff →
      inScope w.db id c.workspaceId ref = true

theorem completion_reads_own_objects {w : World} (hw : Free (Stage.start w)) (clock : ℕ → Time)
    (ctx : Option AuthContext) (cred : LeaseCredentials) (body : CloudRunExecutionResultCreate)
    (replies : CompletionReplies) :
    match perform clock (resolveCloudRunCallbackLease cred) w with
    | (.error _,_) => AcceptsInScope w clock ctx cred body replies
    | (.ok (id,c),_) => AcceptsInScope w clock ctx cred body replies ↔
        ¬ repositoryOpen w.db ctx c.repoId ∨ ¬ refsReadable w.db replies.oss body ∨
          ∀ ref ∈ body.artifactRefs, ref.kind = .diff → inScope w.db id c.workspaceId ref = true := by
  have hresolve : Serial (resolveCloudRunCallbackLease cred)
      (fun out s' => s' = Stage.start w ∧ w.db (.cloudRun out.1) = some out.2) (fun _ _ => True)
      (Stage.start w) :=
    serial_resolve rfl (fun id c hc _ _ _ => ⟨rfl,hc⟩) fun _ _ => trivial
  have hb := perform_bind clock hresolve
  have hprog : acceptCompletion ctx cred body replies =
      resolveCloudRunCallbackLease cred >>= acceptResolved ctx body replies := rfl
  unfold AcceptsInScope
  rw [hprog]
  revert hb
  generalize perform clock (resolveCloudRunCallbackLease cred) w = out
  obtain ⟨out,w'⟩ := out
  cases out with
  | error e =>
    rintro ⟨_,_,_,hperform⟩ id c' result hok
    rw [hperform] at hok
    cases hok
  | ok leased =>
    obtain ⟨id,c⟩ := leased
    rintro ⟨s,⟨hs,hc⟩,hperform⟩
    have haccept : Serial (acceptResolved ctx body replies (id,c))
        (fun out _ => out.1 = id ∧ refsReadable w.db replies.oss body ∧ repositoryOpen w.db ctx c.repoId)
        (fun _ _ => ¬ (refsReadable w.db replies.oss body ∧ repositoryOpen w.db ctx c.repoId))
        (Stage.of s.pend s.world) := by
      rw [hs]
      exact hw.acceptResolved hc
    have hx := exec_serial clock haccept
    rw [hperform]
    dsimp only
    revert hx
    generalize exec clock (acceptResolved ctx body replies (id,c)) s = res
    obtain ⟨res,s'⟩ := res
    cases res with
    | error e =>
      intro hno
      refine ⟨fun _ => ?_,fun _ _ _ _ hok => by cases hok⟩
      by_cases hopen : repositoryOpen w.db ctx c.repoId
      · exact Or.inr (Or.inl fun hread => hno ⟨hread,hopen⟩)
      · exact Or.inl hopen
    | ok accepted =>
      rintro ⟨hid,hread,hopen⟩
      obtain ⟨id',c',result⟩ := accepted
      obtain rfl : id' = id := hid
      refine ⟨fun hscope => Or.inr (Or.inr (hscope _ _ _ rfl c hc)),fun hcond id₂ c₂ result₂ hok c₁ hc₁ => ?_⟩
      obtain ⟨rfl,_,_⟩ : id' = id₂ ∧ c' = c₂ ∧ result = result₂ := by simpa using hok
      rw [hc] at hc₁
      cases hc₁
      rcases hcond with hno | hno | hin
      · exact (hno hopen).elim
      · exact (hno hread).elim
      · exact hin

end scope

theorem completion_reads_own_objects_missing :
    @AcceptsInScope plainDigest (samplePlay (sampleGuarded 4)).2 (fun _ => 2) sampleOwner
      (sampleCredentials "token") { sampleBody with artifactRefs := [⟨.diff,.localInline 100,"hash",4⟩] }
      sampleCompletionReplies := by
  let _ := plainDigest
  have hfree : Free (Stage.start (samplePlay (sampleGuarded 4)).2) :=
    (sample_history (follows_any sampleWorld (sampleGuarded 4))).sound.ready.free
  have hcases := completion_reads_own_objects hfree (fun _ => 2) sampleOwner (sampleCredentials "token")
    { sampleBody with artifactRefs := [⟨.diff,.localInline 100,"hash",4⟩] } sampleCompletionReplies
  have hmissing : readable (samplePlay (sampleGuarded 4)).2.db sampleCompletionReplies.oss
      ⟨.diff,.localInline 100,"hash",4⟩ = false := by decide +kernel
  revert hcases
  generalize perform (fun _ => 2) (resolveCloudRunCallbackLease (sampleCredentials "token"))
    (samplePlay (sampleGuarded 4)).2 = out
  obtain ⟨out,w'⟩ := out
  cases out with
  | error e => exact id
  | ok leased =>
    intro hiff
    refine hiff.mpr (Or.inr (Or.inl fun hall => ?_))
    rw [hall _ List.mem_cons_self rfl] at hmissing
    cases hmissing

def foreignText : String := "secret"

-- An object of the run 99 of another workspace lies in the store.
def sampleForeign : World where
  db := Function.update (samplePlay (sampleGuarded 4)).2.db (.storedObject 100)
    (some ⟨9,99,.diff,.localInline 100,foreignText,6,foreignText⟩)
  next := 101

def foreignBody : CloudRunExecutionResultCreate :=
  { sampleBody with artifactRefs := [⟨.diff,.localInline 100,foreignText,6⟩] }

theorem foreign_object_accepted :
    ¬ @AcceptsInScope plainDigest sampleForeign (fun _ => 2) sampleOwner (sampleCredentials "token")
      foreignBody sampleCompletionReplies ∧
    (@perform _ _ _ _ _ _ _ (fun _ => 2) (@completeCloudRunLease plainDigest sampleOwner
      (sampleCredentials "token") foreignBody sampleCompletionReplies) sampleForeign).1.toOption.any
      (fun done => done.patchArtifact.any fun a => a.diffText = foreignText) = true := by
  let _ := plainDigest
  refine ⟨fun hscope => ?_,by decide +kernel⟩
  have haccepted : (perform (fun _ => 2) (acceptCompletion sampleOwner (sampleCredentials "token")
      foreignBody sampleCompletionReplies) sampleForeign).1.toOption.any (fun out => out.1 = 7) = true := by
    decide +kernel
  have hrun : (sampleForeign.db (.cloudRun 7)).any (fun c => c.workspaceId = 1) = true := by
    decide +kernel
  obtain ⟨c,hc,hws⟩ := (Option.any_eq_true _ _).mp hrun
  unfold AcceptsInScope at hscope
  revert hscope haccepted
  generalize (perform (fun _ => 2) (acceptCompletion sampleOwner (sampleCredentials "token") foreignBody
    sampleCompletionReplies) sampleForeign).1 = accepted
  cases accepted with
  | error e => exact fun _ hno => by cases hno
  | ok out =>
    obtain ⟨id,c',result⟩ := out
    intro hscope hid
    obtain rfl : id = 7 := of_decide_eq_true hid
    have hin := hscope _ _ _ rfl c hc ⟨.diff,.localInline 100,foreignText,6⟩ List.mem_cons_self rfl
    simp [inScope,sampleForeign] at hin

end AiScdc
