import AiScdc.CloudRunner.RowOwners
import AiScdc.Workflow.History

namespace AiScdc
open Transaction

structure SameOutcome (l n : LocalTestRun) : Prop where
  status : n.status = l.status
  commands : n.commands = l.commands
  commandResults : n.commandResults = l.commandResults

theorem SameOutcome.refl (r : LocalTestRun) : SameOutcome r r := ⟨rfl,rfl,rfl⟩

theorem SameOutcome.trans {a b c : LocalTestRun} (h : SameOutcome a b) (h' : SameOutcome b c) :
    SameOutcome a c :=
  ⟨h'.status.trans h.status,h'.commands.trans h.commands,h'.commandResults.trans h.commandResults⟩

theorem SameOutcome.flush {l n : LocalTestRun} (h : SameOutcome l n) (c : LocalTestRun) :
    SameOutcome c (l.flush n c) := by
  constructor
  · simp [LocalTestRun.flush,h.status]
  · simp [LocalTestRun.flush,h.commands]
  · simp [LocalTestRun.flush,h.commandResults]

def Key.isTestRun : Key → Bool
  | .localTestRun _ => true
  | _ => false

-- Every stored test run keeps its outcome, and the new ones are admitted.
structure TestsKept (A : LocalTestRun → Prop) (base db : Db) : Prop where
  kept : ∀ id r, base (.localTestRun id) = some r →
    ∃ r', db (.localTestRun id) = some r' ∧ SameOutcome r r'
  new : ∀ id r', base (.localTestRun id) = none → db (.localTestRun id) = some r' → A r'

-- The outcome of a new test run outlives the changes made to the row in the same transaction.
def Stays (A : LocalTestRun → Prop) : Prop := ∀ r r', SameOutcome r r' → A r → A r'

def testCourse (A : LocalTestRun → Prop) : Course Row Unit where
  learn _ _ _ _ := False
  number _ _ _ := False
  update _ k g s _ := k.isTestRun = false ∨ ∃ id r, A r ∧
    ⟨k,g,s⟩ = (⟨.localTestRun id,fun row => row.isNone,fun _ => some r⟩ :
      Σ k : Key, (_ : Row k → Bool) × (Row k → Row k))
  flush _ k l n _ := k.isTestRun = false ∨ ∃ id l' n', SameOutcome l' n' ∧
    ⟨k,l,n⟩ = (⟨.localTestRun id,some l',some n'⟩ : Σ k : Key, (_ : Row k) × Row k)
  commit _ _ := True
  rollback _ _ := True

structure TestSession (A : LocalTestRun → Prop) (base : Db) (_ : Unit) (p : Pending Row) (w : World) :
    Prop where
  done : TestsKept A base w.db
  view : TestsKept A base (p.view w.db)

section courses

variable {A : LocalTestRun → Prop} {base : Db}

theorem TestsKept.self (A : LocalTestRun → Prop) (db : Db) : TestsKept A db db where
  kept id r h := ⟨r,h,SameOutcome.refl r⟩
  new id r' hnone h := by cases hnone.symm.trans h

theorem TestsKept.other {p : Pending Row} {w : World} (h : TestsKept A base (p.view w.db)) {k : Key}
    (l v : Row k) (hk : k.isTestRun = false) : TestsKept A base ((p.put k l v).view w.db) := by
  have hsame (id : Id) : (p.put k l v).view w.db (.localTestRun id) = p.view w.db (.localTestRun id) := by
    refine Pending.view_put_ne p l v w.db ?_
    rintro rfl
    cases hk
  constructor
  · intro id r hr
    rw [hsame]
    exact h.kept id r hr
  · intro id r' hnone hr
    rw [hsame] at hr
    exact h.new id r' hnone hr

theorem TestsKept.put {p : Pending Row} {w : World} (h : TestsKept A base (p.view w.db)) {id : Id}
    (l : Row (.localTestRun id)) {v : Row (.localTestRun id)} (hA : Stays A)
    (hkept : ∀ r, p.view w.db (.localTestRun id) = some r → ∃ r', v = some r' ∧ SameOutcome r r')
    (hnew : p.view w.db (.localTestRun id) = none → ∀ r', v = some r' → A r') :
    TestsKept A base ((p.put (.localTestRun id) l v).view w.db) := by
  constructor
  · intro id' r₀ hbase
    obtain ⟨r,hrow,hsame⟩ := h.kept id' r₀ hbase
    by_cases e : id' = id
    · subst e
      obtain ⟨r',rfl,hsame'⟩ := hkept r hrow
      exact ⟨r',Pending.view_put_self p _ l _ w.db,hsame.trans hsame'⟩
    · exact ⟨r,(Pending.view_put_ne p l v w.db (by simpa using e)).trans hrow,hsame⟩
  · intro id' r' hbase hrow
    by_cases e : id' = id
    · subst e
      rw [Pending.view_put_self] at hrow
      cases hview : p.view w.db (.localTestRun id') with
      | none => exact hnew hview r' hrow
      | some r =>
        obtain ⟨r'',hv,hsame⟩ := hkept r hview
        cases hv.symm.trans hrow
        exact hA _ _ hsame (h.new id' r hbase hview)
    · rw [Pending.view_put_ne p l v w.db (by simpa using e)] at hrow
      exact h.new id' r' hbase hrow

theorem test_stable (hA : Stays A) : Stable alone (testCourse A) (TestSession A base) where
  env h he := (env_alone.mp he) ▸ h
  bump h := ⟨h.done,h.view⟩
  learn _ hl := hl.elim
  miss _ hy := hy.elim
  skip _ hy := hy.elim
  number _ hn := hn.elim
  update {x y p w k g s} h hP hg := by
    refine ⟨h.done,?_⟩
    rcases hP with hk | ⟨id,r,hr,heq⟩
    · exact h.view.other _ _ hk
    · cases heq
      have hnone : p.view w.db (.localTestRun id) = none := Option.isNone_iff_eq_none.mp hg
      refine h.view.put _ hA (fun r hrow => ?_) fun _ r' hv => ?_
      · cases hnone.symm.trans hrow
      · cases hv
        exact hr
  flush {x y p w k l n} h hP _ _ := by
    refine ⟨h.done,?_⟩
    rcases hP with hk | ⟨id,l',n',hsame,heq⟩
    · exact h.view.other _ _ hk
    · cases heq
      refine h.view.put _ hA (fun r hrow => ?_) fun hnone r' hv => ?_
      · rw [hrow]
        exact ⟨_,rfl,hsame.flush r⟩
      · rw [hnone] at hv
        cases hv
  commit h _ := ⟨trivial,h.view,h.view⟩
  rollback h _ := ⟨h.done,h.done⟩

abbrev Admits (A : LocalTestRun → Prop) {α : Type} (m : Op α) : Prop :=
  Obeys (testCourse A) (fun _ => True) m

theorem serial_recorded {α : Type} {m : Op α} (hm : Admits A m) (hA : Stays A) {s : Stage Row}
    (hdone : TestsKept A base s.committed) (hview : TestsKept A base s.current) :
    Serial m (fun _ s' => TestsKept A base s'.committed ∧ TestsKept A base s'.current)
      (fun _ s' => TestsKept A base s'.committed ∧ TestsKept A base s'.current) s := by
  intro p w hs
  subst hs
  exact wp_mono m (fun _ _ _ ⟨_,_,h⟩ => ⟨h.done,h.view⟩) (fun _ _ _ ⟨_,_,h⟩ => ⟨h.done,h.view⟩)
    (wp_writes (test_stable hA) m (hm () trivial) ⟨hdone,hview⟩)

theorem admits_flush {k : Key} {l n : k.Entity} (h : k.isTestRun = false) : Admits A (flush k l n) :=
  obeys_flush fun x _ => ⟨x,trivial,Or.inl h⟩

theorem admits_insert {k : Key} {row : k.Entity} (h : k.isTestRun = false) : Admits A (insert k row) :=
  obeys_insert fun x _ => ⟨x,trivial,Or.inl h⟩

theorem admits_test {id : Id} {r : LocalTestRun} (h : A r) : Admits A (insert (.localTestRun id) r) :=
  obeys_insert fun x _ => ⟨x,trivial,Or.inr ⟨id,r,h,rfl⟩⟩

theorem admits_outcome {id : Id} {l n : LocalTestRun} (h : SameOutcome l n) :
    Admits A (flush (.localTestRun id) l n) :=
  obeys_flush fun x _ => ⟨x,trivial,Or.inr ⟨id,l,n,h,rfl⟩⟩

theorem admits_event (taskId : Id) (payload : TaskEventPayload) (createdAt : Time) :
    Admits A (createTaskEvent taskId payload createdAt) := obeys_freshId.bind fun _ => admits_insert rfl

theorem admits_tables : RunTables (testCourse A) (fun _ => True) where
  rows k hk := by
    have hother : k.isTestRun = false := by
      cases k with
      | localTestRun id => cases hk
      | _ => rfl
    exact ⟨fun _ _ x _ => ⟨x,trivial,Or.inl hother⟩,fun _ _ x _ => ⟨x,trivial,Or.inl hother⟩⟩
  resets := ⟨fun x _ => ⟨x,trivial,trivial⟩,fun x _ => ⟨x,trivial,trivial⟩⟩
  note taskId payload createdAt _ := admits_event taskId payload createdAt

end courses

-- The row carries what the worker or the executor reported, with at least one result.
structure ReportedIn (result : SandboxExecutionResult) (secrets : List String) (r : LocalTestRun) :
    Prop where
  tested : result.testCommandResults ≠ []
  status : r.status = result.testResult
  commands : r.commands = result.testsRun
  commandResults : r.commandResults = commandResultPayloads result.testCommandResults secrets

theorem ReportedIn.stays (result : SandboxExecutionResult) (secrets : List String) :
    Stays (ReportedIn result secrets) := fun _ _ hs h =>
  ⟨h.tested,hs.status.trans h.status,hs.commands.trans h.commands,hs.commandResults.trans h.commandResults⟩

section finalisations

variable {A : LocalTestRun → Prop}

theorem admits_testRun {workspaceId taskId : Id} {t : Task} {localRunId : Id} {a : Option Id}
    {input : FinalizeInput} (h : ∀ r, ReportedIn input.result input.secrets r → A r) :
    Admits A (insertLocalTestRun workspaceId taskId t localRunId a input) := by
  unfold insertLocalTestRun
  split
  · exact .pure ()
  · rename_i hne
    refine obeys_freshId.bind fun _ => obeys_utcNow.bind fun _ => obeys_utcNow.bind fun _ => ?_
    exact admits_test (h _ ⟨hne,rfl,rfl,rfl⟩)

theorem admits_along (taskId : Id) (task : Task) (t : Time) (path : List TaskStatus) :
    Admits A (transitionTaskAlong taskId task t path) := by
  induction path generalizing task t with
  | nil => exact .pure ()
  | cons requested rest ih =>
    refine Obeys.bind ?_ fun moved => ih moved _
    unfold transitionTaskForCloudRunner
    split
    · exact obeys_http _ _
    · refine obeys_utcNow.bind fun _ => (admits_flush rfl).bind fun _ => ?_
      exact (admits_event _ _ _).bind fun _ => .pure _

theorem admits_patched (id : Id) (run : ReloadedRun) (c : CloudRun) {input : FinalizeInput} (t t' : Time)
    (h : ∀ r, ReportedIn input.result input.secrets r → A r) :
    Admits A (finalizePatched id run c input t t') := by
  refine obeys_freshId.bind fun _ => obeys_utcNow.bind fun _ => (admits_insert rfl).bind fun _ => ?_
  refine (admits_testRun h).bind fun _ => obeys_utcNow.bind fun _ => (admits_flush rfl).bind fun _ => ?_
  refine obeys_utcNow.bind fun _ => (admits_flush rfl).bind fun _ => ?_
  refine (admits_tables.patchEvents _ _ _ _ _ _).bind fun _ => ?_
  refine (admits_tables.patchLog _ _ _ _).bind fun _ => (admits_tables.logAt _ _ _ _ _).bind fun _ => ?_
  refine (admits_flush rfl).bind fun _ => (admits_along _ _ _ _).bind fun _ => ?_
  exact (admits_tables.settleAndCommit _ _ _).bind fun _ => .pure _

theorem admits_failed (id : Id) (run : ReloadedRun) (c : CloudRun) {input : FinalizeInput} (t t' : Time)
    (h : ∀ r, ReportedIn input.result input.secrets r → A r) :
    Admits A (finalizeFailed id run c input t t') := by
  refine (admits_testRun h).bind fun _ => obeys_utcNow.bind fun _ => (admits_flush rfl).bind fun _ => ?_
  refine obeys_utcNow.bind fun _ => (admits_flush rfl).bind fun _ => (admits_event _ _ _).bind fun _ => ?_
  refine (admits_tables.logAt _ _ _ _ _).bind fun _ => (admits_tables.logAt _ _ _ _ _).bind fun _ => ?_
  exact (admits_tables.settleAndCommit _ _ _).bind fun _ => .pure _

theorem admits_finalize (ctx : Option AuthContext) (id : Id) (c : CloudRun) {input : FinalizeInput}
    (h : ∀ r, ReportedIn input.result input.secrets r → A r) :
    Admits A (finalizeClaimedCloudRunResult ctx id c input) := by
  refine (admits_tables.reload ctx id _).bind fun run => ?_
  split
  · exact admits_tables.markCancelled id run input
  · refine (admits_tables.reload ctx id _).bind fun run => obeys_utcNow.bind fun t => ?_
    refine obeys_utcNow.bind fun t' => ?_
    split
    · exact admits_tables.markCancelled id run input
    · refine obeys_utcNow.bind fun now => (admits_flush rfl).bind fun _ => ?_
      refine (admits_tables.updateRow rfl).bind fun claimed => ?_
      cases claimed with
      | false => exact admits_tables.lost ctx id _ input
      | true =>
        refine (obeys_refresh _).bind fun c => ?_
        split
        · exact admits_patched id run c t t' h
        · exact admits_failed id run c t t' h

end finalisations

-- The synthetic row that stands for a docker run without tests.
structure Bridged (r : LocalTestRun) : Prop where
  status : r.status = "passed"
  commands : r.commands = []
  commandResults : r.commandResults = []

def storedTest (db : Db) (next : ℕ) (patchArtifactId localRunId : Id) : Option (Id × LocalTestRun) :=
  latestOf ((List.range next).filterMap fun id => (db (.localTestRun id)).bind fun testRun =>
    if testRun.patchArtifactId = some patchArtifactId ∧ testRun.localRunId = localRunId then
      some (id,testRun)
    else none)

def untested (w : World) (patchArtifactId : Id) : Prop :=
  ∃ artifact, w.db (.patchArtifact patchArtifactId) = some artifact ∧
    storedTest w.db w.next patchArtifactId artifact.localRunId = none

def onDocker (db : Db) (patchArtifactId : Id) : Prop :=
  ∀ artifact l, db (.patchArtifact patchArtifactId) = some artifact →
    db (.localTaskRun artifact.localRunId) = some l → l.runnerKind = "docker_local"

section docker

variable {A : LocalTestRun → Prop}

theorem admits_move (t : Time) (taskId : Id) (task : Task) (requested : TaskStatus) :
    Admits A (transitionTaskForWorkflow t taskId task requested) := by
  unfold transitionTaskForWorkflow transitionTaskWith
  split
  · exact obeys_http _ _
  · refine obeys_utcNow.bind fun _ => (admits_flush rfl).bind fun _ => Obeys.bind (.pure _) fun _ => ?_
    exact (admits_event _ _ _).bind fun _ => .pure _

theorem admits_conclude (t : Time) (taskId patchArtifactId : Id) (artifact : PatchArtifact) (task : Task)
    (testRunId : Id) (passed : Bool) (rootCause : String) :
    Admits A (concludeTestRun t taskId patchArtifactId artifact task testRunId passed rootCause) := by
  unfold concludeTestRun
  split
  · exact (admits_move _ _ _ _).bind fun _ => .pure _
  · refine Obeys.bind ?_ fun attempt => (admits_move _ _ _ _).bind fun _ => .pure _
    refine obeys_freshId.bind fun _ => obeys_utcNow.bind fun _ => (admits_insert rfl).bind fun _ => ?_
    exact (admits_event _ _ _).bind fun _ => .pure _

theorem admits_save : Admits A commit := admits_tables.save

-- What follows once the test run is found or made: its outcome stays as it is.
theorem admits_persisted (patchArtifactId : Id) (artifact : PatchArtifact) (task : Task) (testRunId : Id)
    (testRun : LocalTestRun) : Admits A (do
      let eventClock ← utcNow
      createTaskEvent artifact.taskId (.testRunStarted patchArtifactId testRunId) (eventClock + 1)
      let task ← transitionTaskForWorkflow (eventClock + 2) artifact.taskId task .selfTesting
      let tested ← completeTestRun testRunId patchArtifactId testRun artifact testRun.status
        testRun.commandResults testRun.failureReason
      createTaskEvent artifact.taskId
        (.testRunCompleted patchArtifactId testRunId tested.testRun.status tested.testRun.failureReason)
        (eventClock + 3)
      let debugAttempt ← concludeTestRun (eventClock + 3) artifact.taskId patchArtifactId tested.artifact task
        testRunId (tested.testRun.status = "passed") (dockerRootCause tested.testRun)
      commit
      readPatchTestRun artifact.taskId patchArtifactId testRunId debugAttempt) := by
  refine obeys_utcNow.bind fun _ => (admits_event _ _ _).bind fun _ => (admits_move _ _ _ _).bind fun _ => ?_
  refine Obeys.bind ?_ fun tested => (admits_event _ _ _).bind fun _ => ?_
  · refine obeys_utcNow.bind fun now => ?_
    have hsame : SameOutcome testRun (testRun.completed testRun.status testRun.commandResults
        testRun.failureReason now) := ⟨rfl,rfl,rfl⟩
    exact (admits_outcome hsame).bind fun _ => (admits_flush rfl).bind fun _ => .pure _
  · refine (admits_conclude _ _ _ _ _ _ _ _).bind fun _ => admits_save.bind fun _ => ?_
    refine (obeys_refresh _).bind fun _ => (obeys_refresh _).bind fun _ => ?_
    exact (obeys_refresh _).bind fun _ => .pure _

def dockerTests (w : World) (patchArtifactId : Id) (r : LocalTestRun) : Prop :=
  Bridged r ∧ untested w patchArtifactId

theorem dockerTests_stays (w : World) (patchArtifactId : Id) : Stays (dockerTests w patchArtifactId) :=
  fun _ _ hs h => ⟨⟨hs.status.trans h.1.status,hs.commands.trans h.1.commands,
    hs.commandResults.trans h.1.commandResults⟩,h.2⟩

theorem serial_latest {s : Stage Row} {patchArtifactId localRunId : Id}
    {Q : Option (Id × LocalTestRun) → Stage Row → Prop} {E : Exn → Stage Row → Prop}
    (h : Q (storedTest s.current s.next patchArtifactId localRunId) s) :
    Serial (latestTestRunForLocalRun patchArtifactId localRunId) Q E s :=
  serial_bind (serial_selectWhere (serial_pure h))

theorem serial_dockerTest {w : World} {patchArtifactId : Id} {artifact : PatchArtifact} (task : Task)
    (ha : w.db (.patchArtifact patchArtifactId) = some artifact) :
    Serial (startPersistedDockerTestRun patchArtifactId artifact task)
      (fun _ s' => TestsKept (dockerTests w patchArtifactId) w.db s'.committed ∧
        TestsKept (dockerTests w patchArtifactId) w.db s'.current)
      (fun _ s' => TestsKept (dockerTests w patchArtifactId) w.db s'.committed ∧
        TestsKept (dockerTests w patchArtifactId) w.db s'.current) (Stage.start w) := by
  have hA := dockerTests_stays w patchArtifactId
  have hdone : TestsKept (dockerTests w patchArtifactId) w.db (Stage.start w).committed := TestsKept.self _ _
  have hview : TestsKept (dockerTests w patchArtifactId) w.db (Stage.start w).current := TestsKept.self _ _
  refine serial_bind (serial_bind (serial_latest ?_))
  cases hstored : storedTest (Stage.start w).current (Stage.start w).next patchArtifactId artifact.localRunId with
  | some stored =>
    exact serial_pure (serial_recorded (admits_persisted _ _ task _ _) hA hdone hview)
  | none =>
    have hmade : Admits (dockerTests w patchArtifactId) (do
        let completedAt ← utcNow
        let testRunId ← freshId
        let createdAt ← utcNow
        let testRun := newTestRun artifact task patchArtifactId "passed" [] (some completedAt) createdAt
        insert (.localTestRun testRunId) testRun
        pure (testRunId,testRun)) := by
      refine obeys_utcNow.bind fun _ => obeys_freshId.bind fun _ => obeys_utcNow.bind fun _ => ?_
      exact (admits_test ⟨⟨rfl,rfl,rfl⟩,artifact,ha,hstored⟩).bind fun _ => .pure _
    exact serial_mono (serial_recorded hmade hA hdone hview)
      (fun _ _ h => serial_recorded (admits_persisted _ _ task _ _) hA h.1 h.2) fun _ _ h => h

theorem serial_patchTest {w : World} (ctx : Option AuthContext) {patchArtifactId : Id}
    (reply : TestRunnerReply) (hdocker : onDocker w.db patchArtifactId) :
    Serial (startPatchTestRun ctx patchArtifactId reply)
      (fun _ s' => TestsKept (dockerTests w patchArtifactId) w.db s'.committed)
      (fun _ s' => TestsKept (dockerTests w patchArtifactId) w.db s'.committed) (Stage.start w) := by
  have hA := dockerTests_stays w patchArtifactId
  have hdone : TestsKept (dockerTests w patchArtifactId) w.db (Stage.start w).committed := TestsKept.self _ _
  refine serial_bind (serial_bind (serial_getOr404 (fun artifact ha => ?_) fun _ => hdone))
  refine serial_bind (serial_enforce (fun _ => serial_pure ?_) fun _ => hdone)
  refine serial_bind (serial_openTask (fun task _ => ?_) fun _ _ => hdone)
  refine serial_bind (serial_permission rfl ?_ fun _ _ => hdone)
  refine serial_bind ?_
  unfold requireStatus
  split
  · refine serial_pure (serial_bind (serial_bind (serial_getOr404 (fun l hl => ?_) fun _ => hdone)))
    refine serial_bind (serial_enforce (fun _ => serial_pure ?_) fun _ => hdone)
    have hkind : l.runnerKind = "docker_local" := hdocker artifact l ha hl
    rw [if_neg (by rw [hkind]; decide),if_pos hkind]
    refine serial_bind (serial_mono (serial_dockerTest task ha) (fun result s' h => ?_) fun _ _ h => h.1)
    exact serial_mono (serial_recorded (admits_save.bind fun _ => .pure result) hA h.1 h.2)
      (fun _ _ h => h.1) fun _ _ h => h.1
  · exact serial_http hdone

end docker

section histories

variable [Digest]

def Written (w : World) : WorkflowOp → LocalTestRun → Prop
  | .cloudRun (.complete _ _ body replies), r =>
    ReportedIn body.toSandboxExecutionResult replies.secrets r
  | .cloudRun (.process _ _ _ replies), r =>
    ∃ result, replies.execution = some result ∧ ReportedIn result replies.secrets r
  | .testRun _ patchArtifactId _, r => dockerTests w patchArtifactId r
  | _, _ => False

-- The operations on cloud runs, and the test runs of patches that a docker run has left.
def RecordsTests (db : Db) : WorkflowOp → Prop
  | .cloudRun _ => True
  | .testRun _ patchArtifactId _ => onDocker db patchArtifactId
  | _ => False

omit [Digest] in
theorem serial_http_recorded {A : LocalTestRun → Prop} {α : Type} {m : Op α} {w : World} (hA : Stays A)
    (hm : ObeysHttp (testCourse A) (fun _ => True) m) :
    Serial m (fun _ s' => TestsKept A w.db s'.committed) (fun _ s' => TestsKept A w.db s'.committed)
      (Stage.start w) := by
  have hobeys : Admits A m := fun x hx => (hm x hx).mono (fun _ _ hy => hy) fun _ _ _ => trivial
  exact serial_mono (serial_recorded hobeys hA (TestsKept.self A w.db) (TestsKept.self A w.db))
    (fun _ _ h => h.1) fun _ _ h => h.1

omit [Digest] in
theorem none_stays : Stays fun _ => False := fun _ _ _ h => h

omit [Digest] in
theorem written_stays (w : World) (o : WorkflowOp) : Stays (Written w o) := by
  intro r r' hs h
  cases o with
  | cloudRun o =>
    cases o with
    | complete ctx cred body replies => exact ReportedIn.stays _ _ r r' hs h
    | process ctx id workerId replies =>
      obtain ⟨result,hexecution,hr⟩ := h
      exact ⟨result,hexecution,ReportedIn.stays _ _ r r' hs hr⟩
    | _ => exact h.elim
  | testRun ctx patchArtifactId reply => exact dockerTests_stays w patchArtifactId r r' hs h
  | _ => exact h.elim

theorem step_recorded {w : World} (clock : ℕ → Time) {o : WorkflowOp} (ho : RecordsTests w.db o) :
    TestsKept (Written w o) w.db (perform clock o.program w).2.db := by
  have hdone {A : LocalTestRun → Prop} {α : Type} {m : Op α}
      (hm : Serial m (fun _ s' => TestsKept A w.db s'.committed) (fun _ s' => TestsKept A w.db s'.committed)
        (Stage.start w)) : TestsKept A w.db (perform clock (discard m) w).2.db :=
    perform_world clock (R := fun db => TestsKept A w.db db) (serial_bind (serial_mono hm
      (fun _ _ h => serial_pure h) fun _ _ h => h))
  have hnone {α : Type} {m : Op α} (hm : Admits (fun _ => False) m) :
      TestsKept (fun _ => False) w.db (perform clock (discard m) w).2.db :=
    hdone (serial_http_recorded none_stays (obeysHttp hm))
  cases o with
  | cloudRun o =>
    cases o with
    | enqueue ctx taskId data replies => exact hnone (admits_tables.enqueue ctx taskId data replies)
    | claim req => exact hnone (admits_tables.claimNext req)
    | heartbeat cred leaseSeconds => exact hnone (admits_tables.heartbeat cred leaseSeconds)
    | cancel ctx id => exact hnone (admits_tables.cancel ctx id)
    | requeue provider limit => exact hnone (admits_tables.requeue provider limit)
    | complete ctx cred body replies =>
      refine hdone (serial_http_recorded (ReportedIn.stays _ _) ?_)
      refine admits_tables.complete ctx cred body replies fun id c result hresult => obeysHttp ?_
      obtain ⟨diffText,rfl⟩ := hresult
      exact admits_finalize ctx id c fun r hr => ⟨hr.tested,hr.status,hr.commands,hr.commandResults⟩
    | process ctx id workerId replies =>
      refine hdone (serial_http_recorded (fun r r' hs h => ?_) ?_)
      · obtain ⟨result,hexecution,hr⟩ := h
        exact ⟨result,hexecution,ReportedIn.stays _ _ r r' hs hr⟩
      · refine admits_tables.process ctx id workerId replies fun c => obeysHttp ?_
        refine admits_finalize ctx id c fun r hr => ?_
        cases hexecution : replies.execution with
        | some result => exact ⟨result,hexecution,by simpa [executionResult,hexecution] using hr⟩
        | none =>
          -- An executor that fails without a result has run no tests.
          have htested := hr.tested
          simp [executionResult,hexecution,executorExceptionResult] at htested
  | testRun ctx patchArtifactId reply => exact hdone (serial_patchTest ctx reply ho)
  | _ => exact ho.elim

-- The operations of a history with the worlds they started in, among any other changes that leave
-- the test runs alone.
inductive TestHistory (w₀ : World) : List (World × WorkflowOp) → World → Prop
  | start : TestHistory w₀ [] w₀
  | op {hist w} (clock : ℕ → Time) (o : WorkflowOp) (h : TestHistory w₀ hist w)
      (ho : RecordsTests w.db o) : TestHistory w₀ ((w,o) :: hist) (perform clock o.program w).2
  | other {hist w} (w' : World) (h : TestHistory w₀ hist w)
      (hsame : ∀ id, w'.db (.localTestRun id) = w.db (.localTestRun id)) : TestHistory w₀ hist w'

omit [Digest] in
theorem TestsKept.trans {A B : LocalTestRun → Prop} {db₀ db₁ db₂ : Db} (h : TestsKept A db₀ db₁)
    (h' : TestsKept B db₁ db₂) (hA : Stays A) : TestsKept (fun r => A r ∨ B r) db₀ db₂ := by
  constructor
  · intro id r hr
    obtain ⟨r₁,hr₁,hs₁⟩ := h.kept id r hr
    obtain ⟨r₂,hr₂,hs₂⟩ := h'.kept id r₁ hr₁
    exact ⟨r₂,hr₂,hs₁.trans hs₂⟩
  · intro id r₂ hnone hr₂
    cases hr₁ : db₁ (.localTestRun id) with
    | none => exact Or.inr (h'.new id r₂ hr₁ hr₂)
    | some r₁ =>
      obtain ⟨r',hr',hs⟩ := h'.kept id r₁ hr₁
      cases hr'.symm.trans hr₂
      exact Or.inl (hA _ _ hs (h.new id r₁ hnone hr₁))

omit [Digest] in
theorem TestsKept.mono {A B : LocalTestRun → Prop} {db₀ db : Db} (h : TestsKept A db₀ db)
    (hAB : ∀ r, A r → B r) : TestsKept B db₀ db :=
  ⟨h.kept,fun id r hnone hr => hAB r (h.new id r hnone hr)⟩

theorem TestHistory.recorded {w₀ w : World} {hist : List (World × WorkflowOp)}
    (h : TestHistory w₀ hist w) :
    TestsKept (fun r => ∃ e ∈ hist, Written e.1 e.2 r) w₀.db w.db := by
  induction h with
  | start => exact TestsKept.self _ _
  | @op hist w clock o h ho ih =>
    have hstays : Stays fun r => ∃ e ∈ hist, Written e.1 e.2 r := by
      rintro r r' hs ⟨e,he,hr⟩
      exact ⟨e,he,written_stays e.1 e.2 r r' hs hr⟩
    refine (ih.trans (step_recorded clock ho) hstays).mono fun r hr => ?_
    rcases hr with ⟨e,he,hr⟩ | hr
    · exact ⟨e,List.mem_cons_of_mem _ he,hr⟩
    · exact ⟨(w,o),List.mem_cons_self,hr⟩
  | other w' h hsame ih =>
    constructor
    · intro id r hr
      rw [hsame]
      exact ih.kept id r hr
    · intro id r hnone hr
      rw [hsame] at hr
      exact ih.new id r hnone hr

-- One result for each command, in their order, and every one of them a success.
structure TestsPassed (commands : List String) (results : List CommandResult) : Prop where
  ran : results ≠ []
  commands : results.map CommandResult.command = commands
  passed : ∀ result ∈ results, result.exitCode = some 0 ∧ result.timedOut = false

def Reports : WorkflowOp → SandboxExecutionResult → List String → Prop
  | .cloudRun (.complete _ _ body replies), result, secrets =>
    result = body.toSandboxExecutionResult ∧ secrets = replies.secrets
  | .cloudRun (.process _ _ _ replies), result, secrets =>
    replies.execution = some result ∧ secrets = replies.secrets
  | _, _, _ => False

-- The row repeats a report whose own results do not bear out a pass.
def Unbacked (o : WorkflowOp) (r : LocalTestRun) : Prop :=
  ∃ result secrets, Reports o result secrets ∧ ReportedIn result secrets r ∧
    ¬ TestsPassed result.testsRun (commandResultPayloads result.testCommandResults secrets)

def Synthesised (w : World) (o : WorkflowOp) (r : LocalTestRun) : Prop :=
  ∃ ctx patchArtifactId reply, o = .testRun ctx patchArtifactId reply ∧ untested w patchArtifactId ∧
    Bridged r

omit [Digest] in
theorem Written.accounted {w : World} {o : WorkflowOp} {r : LocalTestRun} (h : Written w o r) :
    TestsPassed r.commands r.commandResults ∨ Unbacked o r ∨ Synthesised w o r := by
  have hreport {result : SandboxExecutionResult} {secrets : List String} (ho : Reports o result secrets)
      (hr : ReportedIn result secrets r) : TestsPassed r.commands r.commandResults ∨ Unbacked o r := by
    by_cases hbacked : TestsPassed result.testsRun (commandResultPayloads result.testCommandResults secrets)
    · rw [hr.commands,hr.commandResults]
      exact Or.inl hbacked
    · exact Or.inr ⟨result,secrets,ho,hr,hbacked⟩
  cases o with
  | cloudRun o =>
    cases o with
    | complete ctx cred body replies => exact or_assoc.mp (Or.inl (hreport ⟨rfl,rfl⟩ h))
    | process ctx id workerId replies =>
      obtain ⟨result,hexecution,hr⟩ := h
      exact or_assoc.mp (Or.inl (hreport ⟨hexecution,rfl⟩ hr))
    | _ => exact h.elim
  | testRun ctx patchArtifactId reply =>
    exact Or.inr (Or.inr ⟨ctx,patchArtifactId,reply,rfl,h.2,h.1⟩)
  | _ => exact h.elim

theorem recorded_passes_accounted {w₀ w : World} {hist : List (World × WorkflowOp)}
    (h : TestHistory w₀ hist w) :
    (∀ id r₀, w₀.db (.localTestRun id) = some r₀ →
      ∃ r, w.db (.localTestRun id) = some r ∧ SameOutcome r₀ r) ∧
    ∀ id r, w₀.db (.localTestRun id) = none → w.db (.localTestRun id) = some r →
      TestsPassed r.commands r.commandResults ∨ (∃ e ∈ hist, Unbacked e.2 r) ∨
        ∃ e ∈ hist, Synthesised e.1 e.2 r := by
  refine ⟨h.recorded.kept,fun id r hnone hr => ?_⟩
  obtain ⟨e,he,hwritten⟩ := h.recorded.new id r hnone hr
  rcases hwritten.accounted with hok | hreport | hmade
  · exact Or.inl hok
  · exact Or.inr (Or.inl ⟨e,he,hreport⟩)
  · exact Or.inr (Or.inr ⟨e,he,hmade⟩)

end histories

def dockerResult (tested : Bool) : CloudRunExecutionResultCreate :=
  if tested then { sampleResult with runnerKind := "docker_local" }
  else { sampleResult with
    runnerKind := "docker_local", testsRun := [], testResult := "not_run", testCommandResults := [] }

-- A docker run of the sample task ends with a patch, with or without tests.
def dockerDone (tested : Bool) : World :=
  letI := plainDigest
  playWork sampleWorld [(fun _ => 0,.cloudRun (sampleEnqueue 4)),(fun _ => 1,.cloudRun sampleClaim),
    (fun _ => 2,workComplete 10 (dockerResult tested))]

def dockerTested (tested : Bool) : World :=
  letI := plainDigest
  (perform (fun _ => 3) (WorkflowOp.testRun sampleOwner 13 (.error "")).program (dockerDone tested)).2

theorem docker_history (tested : Bool) :
    let _ := plainDigest
    ∃ hist, TestHistory sampleWorld hist (dockerTested tested) := by
  intro _
  have hdone : TestHistory sampleWorld _ (dockerDone tested) :=
    ((TestHistory.start.op (fun _ => 0) (.cloudRun (sampleEnqueue 4)) trivial).op (fun _ => 1)
      (.cloudRun sampleClaim) trivial).op (fun _ => 2) (workComplete 10 (dockerResult tested)) trivial
  have hpatch : ((dockerDone tested).db (.patchArtifact 13)).map PatchArtifact.localRunId = some 8 := by
    cases tested <;> decide +kernel
  have hlocal : ((dockerDone tested).db (.localTaskRun 8)).map LocalTaskRun.runnerKind =
      some "docker_local" := by
    cases tested <;> decide +kernel
  refine ⟨_,hdone.op (fun _ => 3) (.testRun sampleOwner 13 (.error "")) fun artifact l ha hl => ?_⟩
  rw [ha] at hpatch
  rw [Option.some.inj hpatch] at hl
  rw [hl] at hlocal
  exact Option.some.inj hlocal

theorem recorded_passes_accounted_tested :
    let _ := plainDigest
    ∃ hist r, TestHistory sampleWorld hist (dockerTested true) ∧
      (dockerTested true).db (.localTestRun 14) = some r ∧ r.status = "passed" ∧
      (TestsPassed r.commands r.commandResults ∨ (∃ e ∈ hist, Unbacked e.2 r) ∨
        ∃ e ∈ hist, Synthesised e.1 e.2 r) := by
  intro _
  obtain ⟨hist,h⟩ := docker_history true
  have hrow : ((dockerTested true).db (.localTestRun 14)).map LocalTestRun.status = some "passed" := by
    decide +kernel
  generalize dockerTested true = w at h hrow ⊢
  obtain ⟨r,hr,hs⟩ := Option.map_eq_some_iff.mp hrow
  exact ⟨hist,r,h,hr,hs,(recorded_passes_accounted h).2 14 r rfl hr⟩

-- The worker reports its tests as passed, and the exit code of a failed one.
def unbackedResult : CloudRunExecutionResultCreate :=
  { sampleResult with testCommandResults := [⟨"pytest",some 1,"","",0,false⟩] }

def unbackedDone : World :=
  let _ := plainDigest
  playWork sampleWorld [(fun _ => 0,.cloudRun (sampleEnqueue 4)),(fun _ => 1,.cloudRun sampleClaim),
    (fun _ => 2,workComplete 10 unbackedResult)]

theorem unbacked_history :
    let _ := plainDigest
    ∃ hist, TestHistory sampleWorld hist unbackedDone := by
  intro _
  exact ⟨_,((TestHistory.start.op (fun _ => 0) (.cloudRun (sampleEnqueue 4)) trivial).op (fun _ => 1)
    (.cloudRun sampleClaim) trivial).op (fun _ => 2) (workComplete 10 unbackedResult) trivial⟩

-- Without tests the start of the test run makes up the row, and a report is recorded as it is.
theorem pass_made_up :
    let _ := plainDigest
    ((∃ hist, TestHistory sampleWorld hist (dockerTested false)) ∧
      ∃ r, (dockerTested false).db (.localTestRun 20) = some r ∧ r.status = "passed" ∧
        ¬ TestsPassed r.commands r.commandResults) ∧
    (∃ hist, TestHistory sampleWorld hist unbackedDone) ∧
      ∃ r, unbackedDone.db (.localTestRun 14) = some r ∧ r.status = "passed" ∧
        ¬ TestsPassed r.commands r.commandResults := by
  intro _
  refine ⟨⟨docker_history false,?_⟩,unbacked_history,?_⟩
  · have hrow : ((dockerTested false).db (.localTestRun 20)).map (fun r => (r.status,r.commandResults)) =
        some ("passed",[]) := by decide +kernel
    generalize dockerTested false = w at hrow ⊢
    obtain ⟨r,hr,hfields⟩ := Option.map_eq_some_iff.mp hrow
    obtain ⟨hs,hresults⟩ := Prod.mk.inj hfields
    exact ⟨r,hr,hs,fun h => h.ran hresults⟩
  · have hrow : (unbackedDone.db (.localTestRun 14)).map (fun r => (r.status,r.commandResults)) =
        some ("passed",[⟨"pytest",some 1,"","",0,false⟩]) := by decide +kernel
    generalize unbackedDone = w at hrow ⊢
    obtain ⟨r,hr,hfields⟩ := Option.map_eq_some_iff.mp hrow
    obtain ⟨hs,hresults⟩ := Prod.mk.inj hfields
    refine ⟨r,hr,hs,fun h => ?_⟩
    rw [hresults] at h
    cases (h.passed _ (List.mem_singleton_self _)).1

end AiScdc
