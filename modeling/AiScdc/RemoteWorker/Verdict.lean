import AiScdc.RemoteWorker.Course

namespace AiScdc.RemoteWorker

def captureCommands (payload : WorkerPayload) : List String :=
  ["git add -N .","git diff --name-only","git diff --no-ext-diff","git rev-parse " ++ baseRef payload,
    "git rev-parse HEAD"]

-- What runs before the tests.
def stageCommands (payload : WorkerPayload) : List String :=
  commandText payload.patchCommand :: captureCommands payload

def testsExecuted (payload : WorkerPayload) (events : List WorkerEvent) : List (String × ProcessOutcome) :=
  (executed events).drop (stageCommands payload).length

def Succeeds (ran : List (String × ProcessOutcome)) : Prop := ∀ r ∈ ran, r.2.succeeded = true

structure Produced (payload : WorkerPayload) (events : List WorkerEvent) (execution : Execution) : Prop where
  commands : ((executed events).take (stageCommands payload).length).map Prod.fst = stageCommands payload
  succeed : Succeeds ((executed events).take (stageCommands payload).length)
  files : execution.filesChanged ≠ []
  diff : strippedText execution.diffText ≠ ""
  allowed : ∀ file ∈ execution.filesChanged, isAllowedFile payload.allowedPaths file = true

structure VerdictMatches (payload : WorkerPayload) (events : List WorkerEvent) (execution : Execution) :
    Prop where
  ready : execution.status = "patch_ready" ↔ execution.failureReason = none
  produced : execution.failureReason = none → Produced payload events execution
  passed : execution.testResult = "passed" →
    testsExecuted payload events ≠ [] ∧ Succeeds (testsExecuted payload events)
  stages : ((executed events).take (stageCommands payload).length).map Prod.fst <+: stageCommands payload
  tests : execution.testsRun = (testsExecuted payload events).map Prod.fst
  results : execution.testCommandResults.map some =
    (testsExecuted payload events).map fun ran => shellResult ran.1 ran.2
  obeys : ∀ before after, events = before ++ cancelAnswer :: after → executed after = []

section executions

variable (process : ℕ → ProcessOutcome)

def outcomesFrom (first : ℕ) (commands : List String) : List (String × ProcessOutcome) :=
  (commands.zipIdx first).map fun entry => (entry.1,process entry.2)

-- The processes of the commands, and nothing else.
structure Ran (commands : List String) (results : List RemoteProcessResult) (s s' : WorkerProgress) : Prop where
  heartbeats : s'.heartbeats = s.heartbeats
  processes : s'.processes = s.processes + commands.length
  events : s'.events = s.events ++ (outcomesFrom process s.processes commands).map fun ran =>
    .process ran.1 ran.2
  results : (outcomesFrom process s.processes commands).map (fun ran => shellResult ran.1 ran.2) =
    results.map some

variable {process} {commands commands' : List String} {results results' : List RemoteProcessResult}
  {s s' s'' : WorkerProgress}

theorem outcomesFrom_append (first : ℕ) : outcomesFrom process first (commands ++ commands') =
    outcomesFrom process first commands ++ outcomesFrom process (first + commands.length) commands' := by
  simp [outcomesFrom,List.zipIdx_append]

theorem outcomesFrom_commands (first : ℕ) : (outcomesFrom process first commands).map Prod.fst = commands := by
  induction commands generalizing first with
  | nil => rfl
  | cons command rest ih => exact congrArg (command :: ·) (ih (first + 1))

theorem Ran.trans (h : Ran process commands results s s') (h' : Ran process commands' results' s' s'') :
    Ran process (commands ++ commands') (results ++ results') s s'' where
  heartbeats := h'.heartbeats.trans h.heartbeats
  processes := by rw [h'.processes,h.processes,List.length_append,Nat.add_assoc]
  events := by
    rw [h'.events,h.events,h.processes,outcomesFrom_append,List.map_append,List.append_assoc]
  results := by
    rw [outcomesFrom_append,List.map_append,List.map_append,h.results,← h.processes,h'.results]

theorem runShell_ran {command : String} {result : RemoteProcessResult}
    (h : runShell process command s = (some result,s')) : Ran process [command] [result] s s' := by
  obtain ⟨hresult,rfl⟩ := Prod.mk.inj h
  exact ⟨rfl,rfl,rfl,congrArg (fun r => [r]) hresult⟩

theorem captureArtifacts_ran {payload : WorkerPayload} {captured : CapturedArtifacts}
    (h : captureArtifacts process payload s = (some captured,s')) :
    Ran process (captureCommands payload) captured.results s s' := by
  obtain ⟨addIntent,s1,h1,h⟩ := Step.bind_eq_some h
  obtain ⟨diffNameOnly,s2,h2,h⟩ := Step.bind_eq_some h
  obtain ⟨diffText,s3,h3,h⟩ := Step.bind_eq_some h
  obtain ⟨baseSha,s4,h4,h⟩ := Step.bind_eq_some h
  obtain ⟨headSha,s5,h5,h⟩ := Step.bind_eq_some h
  obtain ⟨hcaptured,rfl⟩ := Prod.mk.inj h
  obtain rfl := Option.some.inj hcaptured
  exact (runShell_ran h1).trans ((runShell_ran h2).trans ((runShell_ran h3).trans
    ((runShell_ran h4).trans (runShell_ran h5))))

theorem executed_processes (ran : List (String × ProcessOutcome)) :
    executed (ran.map fun r => .process r.1 r.2) = ran := by
  induction ran with
  | nil => rfl
  | cons r rest ih => exact congrArg (r :: ·) ih

theorem executed_append (events events' : List WorkerEvent) :
    executed (events ++ events') = executed events ++ executed events' := List.filterMap_append

theorem shellResult_succeeded {command : String} {outcome : ProcessOutcome} {result : RemoteProcessResult}
    (h : shellResult command outcome = some result) : result.failed = false ↔ outcome.succeeded = true := by
  cases outcome with
  | completed exitCode stdout stderr durationMs =>
    obtain rfl := Option.some.inj h
    simp [RemoteProcessResult.failed,ProcessOutcome.succeeded]
  | timedOut stdout stderr durationMs =>
    obtain rfl := Option.some.inj h
    simp [RemoteProcessResult.failed,ProcessOutcome.succeeded]
  | raised => cases h

theorem succeeds_results {ran : List (String × ProcessOutcome)} {results : List RemoteProcessResult}
    (h : ran.map (fun r => shellResult r.1 r.2) = results.map some) :
    Succeeds ran ↔ ∀ result ∈ results, result.failed = false := by
  induction ran generalizing results with
  | nil =>
    obtain rfl : results = [] := by simpa using h.symm
    simp [Succeeds]
  | cons r rest ih =>
    cases results with
    | nil => cases h
    | cons result results =>
      simp only [List.map_cons,List.cons.injEq] at h
      simp only [Succeeds,List.forall_mem_cons,shellResult_succeeded h.1]
      exact and_congr_right fun _ => ih h.2

end executions

section stages

variable {client : WorkerClient} {process : ℕ → ProcessOutcome} {payload : WorkerPayload}
  {s s' : WorkerProgress}

variable (payload) in
theorem draftOf_ready (patch : RemoteProcessResult) (captured : CapturedArtifacts) :
    (draftOf payload patch captured).failureReason = none ↔
      captured.results.any RemoteProcessResult.failed = false ∧
        parseLines captured.diffNameOnly.stdout ≠ [] ∧ strippedText captured.diffText.stdout ≠ "" ∧
        ensureFilesAllowed (parseLines captured.diffNameOnly.stdout) payload.allowedPaths = .ok () := by
  rw [draftOf]
  split
  · next hfailed => simp [hfailed]
  · next hcaptured =>
    simp only [Bool.not_eq_true] at hcaptured
    dsimp only
    split
    · next hempty =>
      simp only [Bool.or_eq_true,decide_eq_true_eq] at hempty
      simp only [reduceCtorEq,false_iff]
      rintro ⟨_,hfiles,hdiff,_⟩
      exact hempty.elim hfiles hdiff
    · next hpresent =>
      simp only [Bool.or_eq_true,decide_eq_true_eq,not_or] at hpresent
      split
      · next hrefused => simp [hrefused]
      · next hallowed => simp [hcaptured,hpresent,hallowed]

variable (payload) in
theorem draftOf_shown (patch : RemoteProcessResult) (captured : CapturedArtifacts)
    (h : (draftOf payload patch captured).failureReason = none) :
    (draftOf payload patch captured).filesChanged = parseLines captured.diffNameOnly.stdout ∧
      (draftOf payload patch captured).diffText = captured.diffText.stdout := by
  obtain ⟨hcaptured,hfiles,hdiff,hallowed⟩ := (draftOf_ready payload patch captured).mp h
  simp [draftOf,hcaptured,hfiles,hdiff,hallowed]

-- The stages before the tests, from the heartbeat on.
structure Staged (process : ℕ → ProcessOutcome) (payload : WorkerPayload) (draft : Draft)
    (s s' : WorkerProgress) : Prop where
  ran : ∃ commands results, commands <+: stageCommands payload ∧ Ran process commands results s s' ∧
    (draft.failureReason = none → commands = stageCommands payload ∧ ∀ result ∈ results, result.failed = false)
  files : draft.failureReason = none → draft.filesChanged ≠ []
  diff : draft.failureReason = none → strippedText draft.diffText ≠ ""
  allowed : draft.failureReason = none → ensureFilesAllowed draft.filesChanged payload.allowedPaths = .ok ()

theorem ran_nil (s : WorkerProgress) : Ran process [] [] s s := ⟨rfl,rfl,(List.append_nil _).symm,rfl⟩

theorem staged_early {draft : Draft} (hdraft : draft.failureReason ≠ none) {commands : List String}
    {results : List RemoteProcessResult} (hcommands : commands <+: stageCommands payload)
    (hran : Ran process commands results s s') : Staged process payload draft s s' :=
  ⟨⟨commands,results,hcommands,hran,fun h => (hdraft h).elim⟩,fun h => (hdraft h).elim,
    fun h => (hdraft h).elim,fun h => (hdraft h).elim⟩

theorem captureStage_staged {draft : Draft} (h : captureStage client process payload s = (some draft,s')) :
    ∃ b s1, heartbeat client s = (some b,s1) ∧ Staged process payload draft s1 s' := by
  obtain ⟨b,s1,hbeat,h⟩ := Step.bind_eq_some h
  refine ⟨b,s1,hbeat,?_⟩
  split at h
  · obtain ⟨hdraft,rfl⟩ := Prod.mk.inj h
    obtain rfl := Option.some.inj hdraft
    exact staged_early (by simp) List.nil_prefix (ran_nil s1)
  split at h
  · obtain ⟨hdraft,rfl⟩ := Prod.mk.inj h
    obtain rfl := Option.some.inj hdraft
    exact staged_early (by simp) List.nil_prefix (ran_nil s1)
  obtain ⟨patch,s2,hpatch,h⟩ := Step.bind_eq_some h
  have hran := runShell_ran hpatch
  split at h
  · obtain ⟨hdraft,rfl⟩ := Prod.mk.inj h
    obtain rfl := Option.some.inj hdraft
    exact staged_early (by simp) (List.prefix_append [_] (captureCommands payload)) hran
  · next hpatched =>
    obtain ⟨captured,s3,hcaptured,h⟩ := Step.bind_eq_some h
    obtain ⟨hdraft,rfl⟩ := Prod.mk.inj h
    obtain rfl := Option.some.inj hdraft
    have hready := draftOf_ready payload patch captured
    have hshown := draftOf_shown payload patch captured
    constructor
    · refine ⟨_,_,List.prefix_refl _,hran.trans (captureArtifacts_ran hcaptured),fun h => ⟨rfl,?_⟩⟩
      have hall := List.any_eq_false.mp (hready.mp h).1
      simpa [hpatched] using hall
    · intro h
      rw [(hshown h).1]
      exact (hready.mp h).2.1
    · intro h
      rw [(hshown h).2]
      exact (hready.mp h).2.2.1
    · intro h
      rw [(hshown h).1]
      exact (hready.mp h).2.2.2

theorem heartbeat_progress {b : Bool} (h : heartbeat client s = (some b,s')) :
    client.heartbeat s.heartbeats = some b ∧ s'.heartbeats = s.heartbeats + 1 ∧ s'.processes = s.processes ∧
      s'.events = s.events ++ [.heartbeat (some b)] := by
  obtain ⟨hanswer,rfl⟩ := Prod.mk.inj h
  exact ⟨hanswer,rfl,rfl,by rw [hanswer]⟩

-- The polls interleave with the commands that are not blank.
structure Tested (process : ℕ → ProcessOutcome) (tests : TestRuns) (s s' : WorkerProgress) : Prop where
  events : ∃ events, s'.events = s.events ++ events ∧
    executed events = outcomesFrom process s.processes (tests.runs.map Prod.fst)
  results : (outcomesFrom process s.processes (tests.runs.map Prod.fst)).map
    (fun ran => shellResult ran.1 ran.2) = tests.runs.map fun ran => some ran.2

theorem runTests_tested {commands : List String} {tests : TestRuns}
    (h : runTests client process commands s = (some tests,s')) : Tested process tests s s' := by
  induction commands generalizing s tests with
  | nil =>
    obtain ⟨htests,rfl⟩ := Prod.mk.inj h
    obtain rfl := Option.some.inj htests
    exact ⟨⟨[],(List.append_nil _).symm,rfl⟩,rfl⟩
  | cons command rest ih =>
    obtain ⟨b,s1,hbeat,h⟩ := Step.bind_eq_some h
    obtain ⟨_,_,hprocesses,hevents⟩ := heartbeat_progress hbeat
    split at h
    · obtain ⟨htests,rfl⟩ := Prod.mk.inj h
      obtain rfl := Option.some.inj htests
      exact ⟨⟨_,hevents,rfl⟩,rfl⟩
    split at h
    · obtain ⟨⟨events,hlater,hexecuted⟩,hresults⟩ := ih h
      rw [hprocesses] at hexecuted hresults
      refine ⟨⟨.heartbeat (some b) :: events,?_,hexecuted⟩,hresults⟩
      rw [hlater,hevents,List.append_assoc]
      rfl
    · obtain ⟨result,s2,hshell,h⟩ := Step.bind_eq_some h
      obtain ⟨later,s3,hrest,h⟩ := Step.bind_eq_some h
      obtain ⟨htests,rfl⟩ := Prod.mk.inj h
      obtain rfl := Option.some.inj htests
      obtain ⟨hresult,hprogress⟩ := Prod.mk.inj hshell
      obtain ⟨⟨events,hlater,hexecuted⟩,hresults⟩ := ih hrest
      have hnext : s2.processes = s.processes + 1 := by rw [← hprogress,← hprocesses]
      rw [hnext] at hexecuted hresults
      rw [hprocesses] at hresult
      refine ⟨⟨.heartbeat (some b) :: .process command (process s.processes) :: events,?_,?_⟩,?_⟩
      · rw [hlater,← hprogress,hevents,hprocesses,List.append_assoc,List.append_assoc]
        rfl
      · exact congrArg ((command,process s.processes) :: ·) hexecuted
      · exact congrArg₂ List.cons hresult hresults

theorem runTests_idle {commands : List String} {tests : TestRuns}
    (h : runTests client process commands s = (some tests,s')) (hruns : tests.runs = [])
    (hcancelled : tests.cancelled = false) : (∀ command ∈ commands, command = "") ∧
      ∀ n < commands.length, client.heartbeat (s.heartbeats + n) = some false := by
  induction commands generalizing s with
  | nil => exact ⟨by simp,by simp⟩
  | cons command rest ih =>
    obtain ⟨b,s1,hbeat,h⟩ := Step.bind_eq_some h
    obtain ⟨hanswer,hheartbeats,_,_⟩ := heartbeat_progress hbeat
    split at h
    · obtain rfl := Option.some.inj (Prod.mk.inj h).1
      cases hcancelled
    split at h
    · next hb hblank =>
      obtain ⟨hrest,hpolls⟩ := ih h
      refine ⟨List.forall_mem_cons.mpr ⟨hblank,hrest⟩,fun n hn => ?_⟩
      cases n with
      | zero => rw [Nat.add_zero,hanswer,eq_false_of_ne_true hb]
      | succ n =>
        have hpoll := hpolls n (Nat.lt_of_succ_lt_succ hn)
        rwa [hheartbeats,show s.heartbeats + 1 + n = s.heartbeats + (n + 1) by omega] at hpoll
    · obtain ⟨result,s2,_,h⟩ := Step.bind_eq_some h
      obtain ⟨later,s3,_,h⟩ := Step.bind_eq_some h
      obtain rfl := Option.some.inj (Prod.mk.inj h).1
      cases hruns

variable (client process s) in
theorem runTests_nothing {commands : List String} (hblank : ∀ command ∈ commands, command = "")
    (hpolls : ∀ n < commands.length, client.heartbeat (s.heartbeats + n) = some false) :
    ∃ s', runTests client process commands s = (some {},s') := by
  induction commands generalizing s with
  | nil => exact ⟨s,rfl⟩
  | cons command rest ih =>
    obtain ⟨s1,hbeat,hheartbeats,_⟩ := heartbeat_answered (hpolls 0 (Nat.succ_pos _))
    obtain ⟨rfl,hrest⟩ := List.forall_mem_cons.mp hblank
    obtain ⟨s',h⟩ := ih (s := s1) hrest fun n hn => by
      have hpoll := hpolls (n + 1) (Nat.succ_lt_succ hn)
      rwa [hheartbeats,show s.heartbeats + 1 + n = s.heartbeats + (n + 1) by omega]
    exact ⟨s',(Step.bind_of_some hbeat).trans h⟩

theorem shellResult_stdout {command : String} {outcome : ProcessOutcome} {result : RemoteProcessResult}
    (h : shellResult command outcome = some result) : result.stdout = outcome.stdout := by
  cases outcome with
  | completed exitCode stdout stderr durationMs =>
    obtain rfl := Option.some.inj h
    rfl
  | timedOut stdout stderr durationMs =>
    obtain rfl := Option.some.inj h
    rfl
  | raised => cases h

theorem captured_stdout {captured : CapturedArtifacts}
    (h : Ran process (captureCommands payload) captured.results s s') :
    captured.diffNameOnly.stdout = (process (s.processes + 1)).stdout ∧
      captured.diffText.stdout = (process (s.processes + 2)).stdout := by
  have hresults := h.results
  simp only [captureCommands,CapturedArtifacts.results,outcomesFrom,List.zipIdx_cons,List.zipIdx_nil,
    List.map_cons,List.map_nil,List.cons.injEq,and_true] at hresults
  exact ⟨shellResult_stdout hresults.2.1,shellResult_stdout hresults.2.2.1⟩

end stages

-- The patch is there and allowed, and no poll has cancelled the run.
structure ReachesTests (client : WorkerClient) (process : ℕ → ProcessOutcome) (payload : WorkerPayload) :
    Prop where
  poll : client.heartbeat 0 = some false
  captures : CapturesSucceed process payload
  files : parseLines (process 2).stdout ≠ []
  diff : strippedText (process 3).stdout ≠ ""
  allowed : ensureFilesAllowed (parseLines (process 2).stdout) payload.allowedPaths = .ok ()

-- There are test commands, all of them blank, and no poll between them cancels the run.
structure NothingToTest (client : WorkerClient) (payload : WorkerPayload) : Prop where
  commands : payload.testCommands ≠ []
  blank : ∀ command ∈ payload.testCommands, commandText command = ""
  polls : ∀ n < payload.testCommands.length, client.heartbeat (1 + n) = some false

section verdicts

variable {client : WorkerClient} {process : ℕ → ProcessOutcome} {payload : WorkerPayload}

theorem captureStage_reaches (h : ReachesTests client process payload) :
    ∃ draft s', captureStage client process payload {} = (some draft,s') ∧ draft.failureReason = none ∧
      s'.heartbeats = 1 := by
  obtain ⟨hcommand,hsucceeded⟩ := h.captures
  obtain ⟨s1,h1,hb1,hp1⟩ := heartbeat_answered (s := {}) h.poll
  obtain ⟨patch,s2,h2,hp2,hb2,hf2⟩ :=
    runShell_succeeded (commandText payload.patchCommand) hp1 (hsucceeded 0 (by decide))
  obtain ⟨captured,s3,h3,hb3,hf3⟩ := captureArtifacts_succeeded hp2 fun n hn =>
    hsucceeded (1 + n) (by omega)
  obtain ⟨hnames,hdiff⟩ := captured_stdout (captureArtifacts_ran h3)
  rw [hp2] at hnames hdiff
  refine ⟨draftOf payload patch captured,s3,?_,?_,?_⟩
  · refine (Step.bind_of_some h1).trans ?_
    rw [if_neg Bool.false_ne_true,if_neg hcommand]
    refine (Step.bind_of_some h2).trans ?_
    rw [hf2,if_neg Bool.false_ne_true]
    exact Step.bind_of_some h3
  · rw [draftOf_ready,hnames,hdiff]
    exact ⟨hf3,h.files,h.diff,h.allowed⟩
  · rw [hb3,hb2,hb1]

theorem reaches_of_captureStage {draft : Draft} {s' : WorkerProgress}
    (h : captureStage client process payload {} = (some draft,s')) (hdraft : draft.failureReason = none) :
    ReachesTests client process payload ∧ s'.heartbeats = 1 := by
  obtain ⟨b,s1,hbeat,h⟩ := Step.bind_eq_some h
  obtain ⟨hanswer,hheartbeats,hprocesses,_⟩ := heartbeat_progress hbeat
  split at h
  · obtain rfl := Option.some.inj (Prod.mk.inj h).1
    cases hdraft
  next hb =>
  split at h
  · obtain rfl := Option.some.inj (Prod.mk.inj h).1
    cases hdraft
  next hcommand =>
  obtain ⟨patch,s2,hpatch,h⟩ := Step.bind_eq_some h
  obtain ⟨hp2,_,hsucceeded⟩ := runShell_some hpatch
  rw [hprocesses] at hp2 hsucceeded
  split at h
  · obtain rfl := Option.some.inj (Prod.mk.inj h).1
    cases hdraft
  next hpatched =>
  obtain ⟨captured,s3,hcaptured,h⟩ := Step.bind_eq_some h
  obtain ⟨heq,rfl⟩ := Prod.mk.inj h
  obtain rfl := Option.some.inj heq
  have hran := captureArtifacts_ran hcaptured
  obtain ⟨hcaptures,hfiles,hdiff,hallowed⟩ := (draftOf_ready payload patch captured).mp hdraft
  obtain ⟨hnames,htext⟩ := captured_stdout hran
  have hall := (captureArtifacts_some hcaptured).succeeded hcaptures
  rw [hp2] at hnames htext hall
  rw [hnames] at hfiles hallowed
  rw [htext] at hdiff
  refine ⟨⟨?_,⟨hcommand,fun n hn => ?_⟩,hfiles,hdiff,hallowed⟩,?_⟩
  · rw [← eq_false_of_ne_true hb]
    exact hanswer
  · cases n with
    | zero => exact hsucceeded (eq_false_of_ne_true hpatched)
    | succ n =>
      have hrest := hall n (by omega)
      rwa [show ({} : WorkerProgress).processes + 1 + n = n + 1 from Nat.add_comm _ _] at hrest
  · rw [hran.heartbeats,(runShell_ran hpatch).heartbeats,hheartbeats]

theorem obeys_cancel {execution : Execution} {progress : WorkerProgress}
    (h : runCommands client process payload {} = (some execution,progress)) (before after : List WorkerEvent)
    (hevents : progress.events = before ++ cancelAnswer :: after) : after = [] := by
  obtain ⟨events,hlog,hquiet⟩ := heeds_runCommands client process payload {}
  rw [h] at hlog
  change progress.events = [] ++ events at hlog
  rw [List.nil_append] at hlog
  rw [hlog] at hevents
  rcases hquiet with hquiet | ⟨before',_,hlast,hbefore,_⟩
  · exact (hquiet (by rw [hevents]; simp)).elim
  · rcases List.eq_nil_or_concat after with rfl | ⟨rest,event,rfl⟩
    · rfl
    · rw [hlast,List.concat_eq_append,← List.cons_append,← List.append_assoc] at hevents
      rw [(List.append_inj' hevents rfl).1] at hbefore
      simp at hbefore

theorem filesAllowed {files allowedPaths : List String} (h : ensureFilesAllowed files allowedPaths = .ok ()) :
    ∀ file ∈ files, isAllowedFile allowedPaths file = true :=
  (ensureChangedFilesAllowed_iff.mp ((ensureFilesAllowed_accepts files allowedPaths).mp h)).2

-- The stages run first; what is executed after them are the tests.
structure StagesThenTests (payload : WorkerPayload) (draft : Draft) (tests : TestRuns)
    (events : List WorkerEvent) : Prop where
  stages : ((executed events).take (stageCommands payload).length).map Prod.fst <+: stageCommands payload
  ready : draft.failureReason = none →
    ((executed events).take (stageCommands payload).length).map Prod.fst = stageCommands payload ∧
      Succeeds ((executed events).take (stageCommands payload).length)
  commands : tests.runs.map Prod.fst = (testsExecuted payload events).map Prod.fst
  results : (testsExecuted payload events).map (fun ran => shellResult ran.1 ran.2) =
    tests.runs.map fun ran => some ran.2

theorem course_staged {draft : Draft} {s' : WorkerProgress} {b : Bool} {s1 : WorkerProgress}
    (hbeat : heartbeat client {} = (some b,s1)) (h : Staged process payload draft s1 s') :
    StagesThenTests payload draft {} s'.events := by
  obtain ⟨_,_,hprocesses,hevents⟩ := heartbeat_progress hbeat
  obtain ⟨commands,results,hcommands,hran,hready⟩ := h.ran
  have hexecuted : executed s'.events = outcomesFrom process s1.processes commands := by
    rw [hran.events,hevents,executed_append,executed_processes]
    rfl
  have hlength : (executed s'.events).length ≤ (stageCommands payload).length := by
    rw [hexecuted,← List.length_map Prod.fst,outcomesFrom_commands]
    exact hcommands.length_le
  have htests : testsExecuted payload s'.events = [] := List.drop_eq_nil_of_le hlength
  constructor
  · rwa [List.take_of_length_le hlength,hexecuted,outcomesFrom_commands]
  · intro hdraft
    obtain ⟨rfl,hall⟩ := hready hdraft
    rw [List.take_of_length_le hlength,hexecuted,outcomesFrom_commands]
    exact ⟨rfl,(succeeds_results hran.results).mpr hall⟩
  · rw [htests]
    rfl
  · rw [htests]
    rfl

theorem course_tested {draft : Draft} {tests : TestRuns} {s1 s' s'' : WorkerProgress} {b : Bool}
    (hbeat : heartbeat client {} = (some b,s1)) (h : Staged process payload draft s1 s')
    (hdraft : draft.failureReason = none) (ht : Tested process tests s' s'') :
    StagesThenTests payload draft tests s''.events := by
  obtain ⟨_,_,_,hevents⟩ := heartbeat_progress hbeat
  obtain ⟨commands,results,_,hran,hready⟩ := h.ran
  obtain ⟨rfl,hall⟩ := hready hdraft
  obtain ⟨⟨later,hlater,hexecuted⟩,hresults⟩ := ht
  have hstages : executed s'.events = outcomesFrom process s1.processes (stageCommands payload) := by
    rw [hran.events,hevents,executed_append,executed_processes]
    rfl
  have hlength : (executed s'.events).length = (stageCommands payload).length := by
    rw [hstages,← List.length_map Prod.fst,outcomesFrom_commands]
  have hsplit : executed s''.events = executed s'.events ++
      outcomesFrom process s'.processes (tests.runs.map Prod.fst) := by
    rw [hlater,executed_append,hexecuted]
  have htake : (executed s''.events).take (stageCommands payload).length = executed s'.events := by
    rw [hsplit,← hlength,List.take_left]
  have hdrop : testsExecuted payload s''.events =
      outcomesFrom process s'.processes (tests.runs.map Prod.fst) := by
    rw [testsExecuted,hsplit,← hlength,List.drop_left]
  have hnames : (executed s'.events).map Prod.fst = stageCommands payload := by
    rw [hstages,outcomesFrom_commands]
  constructor
  · rw [htake,hnames]
  · intro _
    rw [htake]
    exact ⟨hnames,by rw [hstages]; exact (succeeds_results hran.results).mpr hall⟩
  · rw [hdrop,outcomesFrom_commands]
  · rw [hdrop]
    exact hresults

theorem verdict_of_course {draft : Draft} {tests : TestRuns} {failureReason : Option String}
    {testResult : String} {progress : WorkerProgress}
    (hrun : runCommands client process payload {} =
      (some (executionOf payload draft tests failureReason testResult),progress))
    (hcourse : StagesThenTests payload draft tests progress.events)
    (hdraft : failureReason = none → draft.failureReason = none ∧ draft.filesChanged ≠ [] ∧
      strippedText draft.diffText ≠ "" ∧ ∀ file ∈ draft.filesChanged, isAllowedFile payload.allowedPaths file = true)
    (hpassed : testResult = "passed" → tests.runs ≠ [] ∧ ∀ ran ∈ tests.runs, ran.2.failed = false) :
    VerdictMatches payload progress.events (executionOf payload draft tests failureReason testResult) where
  ready := by
    show (if failureReason = none then "patch_ready" else "failed") = "patch_ready" ↔ failureReason = none
    split <;> simp [*]
  produced hready := by
    obtain ⟨hnone,hfiles,hdiff,hallowed⟩ := hdraft hready
    exact ⟨(hcourse.ready hnone).1,(hcourse.ready hnone).2,hfiles,hdiff,hallowed⟩
  passed htest := by
    obtain ⟨hruns,hall⟩ := hpassed htest
    constructor
    · intro hnone
      have htests := hcourse.commands
      rw [hnone] at htests
      exact hruns (List.map_eq_nil_iff.mp htests)
    · have hresults : (testsExecuted payload progress.events).map (fun ran => shellResult ran.1 ran.2) =
          (tests.runs.map Prod.snd).map some := by
        rw [hcourse.results,List.map_map]
        rfl
      rw [succeeds_results hresults]
      exact List.forall_mem_map.mpr hall
  stages := hcourse.stages
  tests := hcourse.commands
  results := by
    show (tests.runs.map Prod.snd).map some = _
    rw [hcourse.results,List.map_map]
    rfl
  obeys before after hevents := by
    rw [obeys_cancel hrun before after hevents]
    rfl

theorem verdict_matches_iff (client : WorkerClient) (process : ℕ → ProcessOutcome) (payload : WorkerPayload) :
    (∀ execution progress, runCommands client process payload {} = (some execution,progress) →
      VerdictMatches payload progress.events execution) ↔
      (ReachesTests client process payload → ¬ NothingToTest client payload) := by
  constructor
  · intro hall hreaches hnothing
    obtain ⟨draft,s1,hdraft,hready,hheartbeats⟩ := captureStage_reaches hreaches
    have hpolls : ∀ n < (payload.testCommands.map commandText).length,
        client.heartbeat (s1.heartbeats + n) = some false := by
      rw [List.length_map,hheartbeats]
      exact hnothing.polls
    obtain ⟨s2,htests⟩ := runTests_nothing client process s1 (List.forall_mem_map.mpr hnothing.blank) hpolls
    have hrun : runCommands client process payload {} =
        (some (executionOf payload draft {} none "passed"),s2) := by
      refine (Step.bind_of_some hdraft).trans ?_
      rw [if_neg (by simp [hready,hnothing.commands])]
      exact Step.bind_of_some htests
    have hverdict := hall _ _ hrun
    obtain ⟨hne,_⟩ := hverdict.passed rfl
    exact hne (List.map_eq_nil_iff.mp hverdict.tests.symm)
  · intro hcondition execution progress hrun
    obtain ⟨draft,s1,hdraft,h⟩ := Step.bind_eq_some hrun
    obtain ⟨b,s0,hbeat,hstaged⟩ := captureStage_staged hdraft
    split at h
    · obtain ⟨heq,rfl⟩ := Prod.mk.inj h
      obtain rfl := Option.some.inj heq
      refine verdict_of_course hrun (course_staged hbeat hstaged) (fun hready => ?_) fun hpassed => ?_
      · exact ⟨hready,hstaged.files hready,hstaged.diff hready,filesAllowed (hstaged.allowed hready)⟩
      · exact absurd hpassed (by decide)
    next htesting =>
    obtain ⟨hready,hcommands⟩ : draft.failureReason = none ∧ payload.testCommands ≠ [] := by
      simpa using htesting
    obtain ⟨tests,s2,htests,h⟩ := Step.bind_eq_some h
    obtain ⟨heq,rfl⟩ := Prod.mk.inj h
    obtain rfl := Option.some.inj heq
    refine verdict_of_course hrun (course_tested hbeat hstaged hready (runTests_tested htests))
      (fun _ => ⟨hready,hstaged.files hready,hstaged.diff hready,filesAllowed (hstaged.allowed hready)⟩)
      fun hpassed => ?_
    obtain ⟨hcancelled,hfailed⟩ : tests.cancelled = false ∧ ∀ ran ∈ tests.runs, ran.2.failed = false := by
      rw [testVerdict] at hpassed
      split at hpassed
      · exact absurd hpassed (by decide)
      next hcancelled =>
      split at hpassed
      · exact absurd hpassed (by decide)
      next hfailed =>
      exact ⟨eq_false_of_ne_true hcancelled,by simpa using hfailed⟩
    refine ⟨fun hruns => ?_,hfailed⟩
    obtain ⟨hreaches,hheartbeats⟩ := reaches_of_captureStage hdraft hready
    obtain ⟨hblank,hpolls⟩ := runTests_idle htests hruns hcancelled
    refine hcondition hreaches ⟨hcommands,List.forall_mem_map.mp hblank,?_⟩
    rwa [List.length_map,hheartbeats] at hpolls

end verdicts

def blankPayload : WorkerPayload :=
  { samplePayload with testCommands := [.value true "  "], allowedPaths := ["app.py"] }

theorem blank_tests_passed :
    ¬ ∀ execution progress, runCommands promptClient chattyProcess blankPayload {} = (some execution,progress) →
      VerdictMatches blankPayload progress.events execution := by
  intro h
  have hrun : (runCommands promptClient chattyProcess blankPayload {}).1.map
      (fun execution => (execution.testResult,execution.testsRun)) = some ("passed",[]) := by decide +kernel
  obtain ⟨execution,hexecution,heq⟩ := Option.map_eq_some_iff.mp hrun
  obtain ⟨htest,htests⟩ := Prod.mk.inj heq
  have hverdict := h execution _ (Prod.ext hexecution rfl)
  obtain ⟨hne,_⟩ := hverdict.passed htest
  have hnone := hverdict.tests
  rw [htests] at hnone
  exact hne (List.map_eq_nil_iff.mp hnone.symm)

end AiScdc.RemoteWorker
