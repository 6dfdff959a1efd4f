import AiScdc.DockerSandbox.Plan

namespace AiScdc.DockerSandbox

open AiScdc.ArtifactPlane (UrlText)
open RemoteWorker (strippedText parseLines)
open Traced (Guards)

def ending (raw : ProcessResult) : Option ℤ × Bool := (raw.exitCode,raw.timedOut)

def reportedEnding (result : CommandResult) : Option ℤ × Bool := (result.exitCode,result.timedOut)

-- The answer of the container of a step: docker version comes first, then the steps in order.
def stepAnswer (request : SandboxExecutionRequest) (launched : List (Planned × ProcessResult)) (label : StepLabel) :
    Option ProcessResult :=
  (((sandboxSteps request (presentToken request.githubToken).isSome).map SandboxStep.label).zip
    (launched.tail.map Prod.snd)).lookup label

-- The patch as the answers of the two diff containers give it.
structure Captures (secrets : List String) (request : SandboxExecutionRequest)
    (launched : List (Planned × ProcessResult)) (files : List String) (diffText : String) : Prop where
  files : ∃ raw, stepAnswer request launched .nameOnly = some raw ∧
    files = (parseLines (raw.redacted secrets).stdout).insertionSort fun a b => a ≤ b
  diff : ∃ raw, stepAnswer request launched .diff = some raw ∧ diffText = (raw.redacted secrets).stdout

structure Acceptable (allowedPaths files : List String) (diffText : String) : Prop where
  changed : files ≠ []
  written : strippedText diffText ≠ ""
  allowed : ∀ file ∈ files, isAllowedFile allowedPaths file = true

def Patched (secrets : List String) (request : SandboxExecutionRequest)
    (launched : List (Planned × ProcessResult)) : Prop :=
  ∃ files diffText, Captures secrets request launched files diffText ∧
    Acceptable request.allowedPaths files diffText

structure Produces (host : Host) (secrets : List String) (request : SandboxExecutionRequest)
    (launched : List (Planned × ProcessResult)) : Prop where
  calls : launched.map Prod.fst = plannedCalls host secrets request
  goes : ∀ entry ∈ launched, entry.1.stops entry.2 = false
  patched : Patched secrets request launched

-- Why no further call is due.
inductive Concluded (host : Host) (secrets : List String) (request : SandboxExecutionRequest)
    (launched : List (Planned × ProcessResult)) : Prop where
  | whole (hcalls : launched.map Prod.fst = plannedCalls host secrets request)
  | stopped (entry : Planned × ProcessResult) (hentry : entry ∈ launched) (hstops : entry.1.stops entry.2 = true)
  | unpatched (hcalls : launched.map Prod.fst = plannedVersion host :: plannedSteps host request)
      (hpatch : ¬ Patched secrets request launched)

-- The tests are due when all steps have been called and their patch may be tested.
def Ready (secrets : List String) (request : SandboxExecutionRequest)
    (launched : List (Planned × ProcessResult)) : Prop :=
  (sandboxSteps request (presentToken request.githubToken).isSome).length < launched.length →
    Patched secrets request launched

structure PatchVerdict (host : Host) (secrets : List String) (request : SandboxExecutionRequest)
    (launched : List (Planned × ProcessResult)) (result : SandboxExecutionResult) : Prop where
  created : shouldCreatePatchArtifact result = true ↔ Produces host secrets request launched
  ready : result.status = .patchReady ↔
    Produces host secrets request launched ∧ ∀ entry ∈ launched, entry.2.failed = false
  captured : shouldCreatePatchArtifact result = true →
    Captures secrets request launched result.filesChanged result.diffText
  reported : (result.commandResults ++ result.testCommandResults).map reportedEnding =
    launched.map fun entry => ending entry.2

section captures

variable {secrets : List String} {request : SandboxExecutionRequest}
  {launched more : List (Planned × ProcessResult)} {files files' : List String} {diffText diffText' : String}
  {label : StepLabel} {raw : ProcessResult}

theorem zip_lookup_append {α β : Type} [BEq α] {keys : List α} {values later : List β} {key : α} {value : β}
    (h : (keys.zip values).lookup key = some value) : (keys.zip (values ++ later)).lookup key = some value := by
  induction keys generalizing values with
  | nil => cases h
  | cons first keys ih =>
    cases values with
    | nil => cases h
    | cons found values =>
      simp only [List.cons_append,List.zip_cons_cons,List.lookup_cons] at h ⊢
      split at h
      · exact h
      · exact ih h

theorem stepAnswer_append (h : stepAnswer request launched label = some raw) :
    stepAnswer request (launched ++ more) label = some raw := by
  cases launched with
  | nil =>
    rw [stepAnswer,List.tail_nil,List.map_nil,List.zip_nil_right] at h
    cases h
  | cons first launched =>
    simp only [stepAnswer,List.cons_append,List.tail_cons,List.map_append] at h ⊢
    exact zip_lookup_append h

theorem Captures.append (h : Captures secrets request launched files diffText) :
    Captures secrets request (launched ++ more) files diffText := by
  obtain ⟨⟨names,hnames,hfiles⟩,raw,hraw,hdiff⟩ := h
  exact ⟨⟨names,stepAnswer_append hnames,hfiles⟩,raw,stepAnswer_append hraw,hdiff⟩

theorem Captures.unique (h : Captures secrets request launched files diffText)
    (h' : Captures secrets request launched files' diffText') : files = files' ∧ diffText = diffText' := by
  obtain ⟨⟨names,hnames,rfl⟩,raw,hraw,rfl⟩ := h
  obtain ⟨⟨names',hnames',rfl⟩,raw',hraw',rfl⟩ := h'
  rw [hnames] at hnames'
  rw [hraw] at hraw'
  obtain rfl := Option.some.inj hnames'
  obtain rfl := Option.some.inj hraw'
  exact ⟨rfl,rfl⟩

theorem Patched.append (h : Patched secrets request launched) : Patched secrets request (launched ++ more) := by
  obtain ⟨files,diffText,hcaptures,hacceptable⟩ := h
  exact ⟨files,diffText,hcaptures.append,hacceptable⟩

end captures

section blank

theorem strip_eq_nil {text : Text} : strip text = [] ↔ text.all isSpace = true := by
  rw [strip_eq,List.rdropWhile_eq_nil_iff,List.all_eq_true]
  constructor
  · intro h
    by_contra hspaces
    have hne : text.dropWhile isSpace ≠ [] := fun hnil => hspaces (List.dropWhile_eq_nil_iff.mp hnil)
    have hhead := List.head_dropWhile_not isSpace hne
    exact absurd (h _ (List.head_mem hne)) (by rw [hhead]; decide)
  · intro h c hc
    exact h c ((List.dropWhile_suffix isSpace).subset hc)

theorem isBlank_iff (text : String) : isBlank text = true ↔ strippedText text = "" := by
  rw [isBlank,← strip_eq_nil,strippedText,String.ofList_eq_empty_iff]

end blank

section loops

variable {secrets : List String} {steps : List SandboxStep} {commands : List SandboxCommandSelection}
  {raws : List ProcessResult} {runs : StepRuns} {tests : TestRuns}

theorem StepsRan.complete (h : StepsRan secrets steps raws runs) (hnone : runs.failureReason = none) :
    raws.length = steps.length ∧ ∀ raw ∈ raws, raw.failed = false := by
  induction h with
  | done => simp
  | stopped _ => cases hnone
  | next hgoes _ ih =>
    obtain ⟨hlength,hall⟩ := ih hnone
    exact ⟨by simp [hlength],List.forall_mem_cons.mpr ⟨hgoes,hall⟩⟩

theorem StepsRan.reported (h : StepsRan secrets steps raws runs) :
    (runs.results secrets).map reportedEnding = raws.map ending := by
  induction h with
  | done => rfl
  | stopped _ => rfl
  | next _ _ ih => exact congrArg (_ :: ·) ih

theorem StepsRan.length_le (h : StepsRan secrets steps raws runs) : raws.length ≤ steps.length := by
  induction h with
  | done => exact Nat.le_refl 0
  | stopped _ => simp
  | next _ _ ih => simpa using ih

theorem StepsRan.failed (h : StepsRan secrets steps raws runs) {reason : String}
    (hreason : runs.failureReason = some reason) : ∃ step raw, (step,raw) ∈ steps.zip raws ∧ raw.failed = true := by
  induction h with
  | done => cases hreason
  | @stopped step _ raw hfailed => exact ⟨step,raw,List.mem_cons_self,hfailed⟩
  | next _ _ ih =>
    obtain ⟨step,raw,hmem,hfailed⟩ := ih hreason
    exact ⟨step,raw,List.mem_cons_of_mem _ hmem,hfailed⟩

theorem StepsRan.reason (h : StepsRan secrets steps raws runs) {reason : String}
    (hreason : runs.failureReason = some reason) : ∃ label result, reason = stepFailure label result := by
  induction h with
  | done => cases hreason
  | @stopped step _ raw _ => exact ⟨step.label,raw.redacted secrets,(Option.some.inj hreason).symm⟩
  | next _ _ ih => exact ih hreason

-- Each label names one step, so its output is that step's.
theorem StepsRan.stdout (h : StepsRan secrets steps raws runs) (hnone : runs.failureReason = none)
    (hlabels : (steps.map SandboxStep.label).Nodup) {step : SandboxStep} (hstep : step ∈ steps) :
    ∃ raw, (step,raw) ∈ steps.zip raws ∧ runs.stdout step.label = (raw.redacted secrets).stdout := by
  induction h with
  | done => cases hstep
  | stopped _ => cases hnone
  | @next first rest raw raws later _ _ ih =>
    obtain ⟨hfirst,hrest⟩ := List.nodup_cons.mp hlabels
    rcases List.mem_cons.mp hstep with rfl | hstep
    · exact ⟨raw,List.mem_cons_self,by simp [StepRuns.stdout]⟩
    · obtain ⟨raw',hmem,hout⟩ := ih hnone hrest hstep
      have hne : first.label ≠ step.label := fun heq => hfirst (heq ▸ List.mem_map_of_mem hstep)
      exact ⟨raw',List.mem_cons_of_mem _ hmem,by rw [← hout]; simp [StepRuns.stdout,hne]⟩

theorem TestsRan.complete (h : TestsRan secrets commands raws tests) (hran : tests.unavailable = false) :
    raws.length = commands.length ∧
      ∀ raw ∈ raws, (raw.failed && isDockerRunStartFailure (raw.redacted secrets)) = false := by
  induction h with
  | done => simp
  | stopped _ => cases hran
  | next hgoes _ ih =>
    obtain ⟨hlength,hall⟩ := ih hran
    exact ⟨by simp [hlength],List.forall_mem_cons.mpr ⟨hgoes,hall⟩⟩

theorem TestsRan.reported (h : TestsRan secrets commands raws tests) :
    (tests.results secrets).map reportedEnding = raws.map ending := by
  induction h with
  | done => rfl
  | stopped _ => rfl
  | next _ _ ih => exact congrArg (_ :: ·) ih

theorem TestsRan.unavailable (h : TestsRan secrets commands raws tests) (hran : tests.unavailable = true) :
    ∃ command raw, (command,raw) ∈ commands.zip raws ∧
      (raw.failed && isDockerRunStartFailure (raw.redacted secrets)) = true := by
  induction h with
  | done => cases hran
  | @stopped command _ raw hstopped => exact ⟨command,raw,List.mem_cons_self,hstopped⟩
  | next _ _ ih =>
    obtain ⟨command,raw,hmem,hstopped⟩ := ih hran
    exact ⟨command,raw,List.mem_cons_of_mem _ hmem,hstopped⟩

theorem TestsRan.length_le (h : TestsRan secrets commands raws tests) : raws.length ≤ commands.length := by
  induction h with
  | done => exact Nat.le_refl 0
  | stopped _ => simp
  | next _ _ ih => simpa using ih

theorem TestsRan.failed (h : TestsRan secrets commands raws tests) :
    (tests.ran.any fun ran => ran.2.failed) = raws.any ProcessResult.failed := by
  induction h with
  | done => rfl
  | stopped _ => rfl
  | next _ _ ih => exact congrArg (_ || ·) ih

end loops

-- The state in which the tests are due.
structure Staged (host : Host) (secrets : List String) (request : SandboxExecutionRequest)
    (launched : List (Planned × ProcessResult)) (captured : CapturedPatch) (commandResults : List CommandResult) :
    Prop where
  calls : launched.map Prod.fst = plannedVersion host :: plannedSteps host request
  goes : ∀ entry ∈ launched, entry.1.stops entry.2 = false ∧ entry.2.failed = false
  captured : Captures secrets request launched captured.filesChanged captured.diffText
  reported : commandResults.map reportedEnding = launched.map fun entry => ending entry.2

-- What a run that answers leaves.
structure Answered (host : Host) (secrets : List String) (request : SandboxExecutionRequest)
    (result : SandboxExecutionResult) (s : PlanState) : Prop where
  verdict : PatchVerdict host secrets request s.launched result
  concluded : Concluded host secrets request s.launched
  unowed : s.owed = none

section verdicts

variable {host : Host} {secrets : List String} {request : SandboxExecutionRequest} {s : PlanState}
  {captured : CapturedPatch} {commandResults testResults : List CommandResult}
  {launched : List (Planned × ProcessResult)}

theorem Staged.patched_iff (h : Staged host secrets request launched captured commandResults) :
    Patched secrets request launched ↔ Acceptable request.allowedPaths captured.filesChanged captured.diffText := by
  constructor
  · rintro ⟨files,diffText,hcaptures,hacceptable⟩
    obtain ⟨rfl,rfl⟩ := hcaptures.unique h.captured
    exact hacceptable
  · exact fun hacceptable => ⟨_,_,h.captured,hacceptable⟩

theorem acceptable_paths {allowedPaths files : List String} {diffText : String}
    (h : Acceptable allowedPaths files diffText) : ensureChangedFilesAllowed files allowedPaths = .ok () := by
  refine ensureChangedFilesAllowed_iff.mpr ⟨fun hpaths => ?_,h.allowed⟩
  obtain ⟨file,rest,hfiles⟩ := List.exists_cons_of_ne_nil h.changed
  have hfile := h.allowed file (by rw [hfiles]; exact List.mem_cons_self)
  rw [hpaths] at hfile
  cases hfile

theorem not_produces_stopped {entry : Planned × ProcessResult} (hentry : entry ∈ launched)
    (hstops : entry.1.stops entry.2 = true) : ¬ Produces host secrets request launched := by
  intro h
  exact Bool.false_ne_true ((h.goes entry hentry).symm.trans hstops)

theorem verdict_failed {reason : String} (hreason : reason ≠ "test_failed")
    (hnot : ¬ Produces host secrets request launched)
    (hreported : (commandResults ++ testResults).map reportedEnding =
      launched.map fun entry => ending entry.2) :
    PatchVerdict host secrets request launched (failedResult reason commandResults testResults captured) := by
  have hnone : shouldCreatePatchArtifact (failedResult reason commandResults testResults captured) = false := by
    simp [shouldCreatePatchArtifact,failedResult,hreason]
  constructor
  · rw [hnone]
    exact iff_of_false Bool.false_ne_true hnot
  · exact iff_of_false (by simp [failedResult]) fun h => hnot h.1
  · intro h
    exact absurd (hnone.symm.trans h) Bool.false_ne_true
  · exact hreported

theorem zip_endings {plan : List Planned} {raws : List ProcessResult} (h : raws.length ≤ plan.length) :
    (plan.zip raws).map (fun entry => ending entry.2) = raws.map ending := by
  have hfun : (fun entry : Planned × ProcessResult => ending entry.2) = ending ∘ Prod.snd := rfl
  rw [hfun,← List.map_map,List.map_snd_zip h]

theorem verdict_tested {raws : List ProcessResult} {tests : TestRuns}
    (h : Staged host secrets request launched captured commandResults)
    (hacceptable : Acceptable request.allowedPaths captured.filesChanged captured.diffText)
    (hran : TestsRan secrets request.testCommands raws tests) (havailable : tests.unavailable = false)
    (hlaunched : s.launched = launched ++ (plannedTests host secrets request).zip raws) :
    PatchVerdict host secrets request s.launched (testedResult request captured commandResults
      (tests.results secrets) (testStatus tests request.testCommands)) ∧
        Concluded host secrets request s.launched := by
  obtain ⟨hlength,hgoes⟩ := hran.complete havailable
  have hlengths : (plannedTests host secrets request).length = raws.length := by
    rw [plannedTests,List.length_map,hlength]
  have hcalls : s.launched.map Prod.fst = plannedCalls host secrets request := by
    rw [hlaunched,List.map_append,h.calls,List.map_fst_zip (Nat.le_of_eq hlengths)]
    rfl
  have hstops : ∀ entry ∈ s.launched, entry.1.stops entry.2 = false := by
    rw [hlaunched]
    intro entry hentry
    rcases List.mem_append.mp hentry with hentry | hentry
    · exact (h.goes entry hentry).1
    · obtain ⟨hplanned,hraw⟩ := List.of_mem_zip hentry
      obtain ⟨command,_,hcommand⟩ := List.mem_map.mp hplanned
      rw [← hcommand]
      exact hgoes _ hraw
  have hfailed : testStatus tests request.testCommands = "failed" ↔ ∃ entry ∈ s.launched, entry.2.failed = true := by
    have hstatus : testStatus tests request.testCommands = "failed" ↔ raws.any ProcessResult.failed = true := by
      rw [testStatus,hran.failed]
      split
      · next hany => simp [hany]
      · next hany => split <;> simp [hany]
    rw [hstatus,List.any_eq_true,hlaunched]
    constructor
    · rintro ⟨raw,hraw,hfail⟩
      have hsnd : ((plannedTests host secrets request).zip raws).map Prod.snd = raws :=
        List.map_snd_zip (Nat.le_of_eq hlengths.symm)
      rw [← hsnd] at hraw
      obtain ⟨entry,hentry,rfl⟩ := List.mem_map.mp hraw
      exact ⟨entry,List.mem_append_right _ hentry,hfail⟩
    · rintro ⟨entry,hentry,hfail⟩
      rcases List.mem_append.mp hentry with hentry | hentry
      · exact absurd ((h.goes entry hentry).2.symm.trans hfail) Bool.false_ne_true
      · exact ⟨entry.2,(List.of_mem_zip hentry).2,hfail⟩
  have hcreated : shouldCreatePatchArtifact (testedResult request captured commandResults (tests.results secrets)
      (testStatus tests request.testCommands)) = true := by
    have hblank : isBlank captured.diffText = false :=
      eq_false_of_ne_true fun hblank => hacceptable.written ((isBlank_iff _).mp hblank)
    by_cases htests : testStatus tests request.testCommands = "failed"
    · simp [shouldCreatePatchArtifact,testedResult,htests,hacceptable.changed,hblank]
    · simp [shouldCreatePatchArtifact,testedResult,htests]
  have hproduces : Produces host secrets request s.launched := by
    refine ⟨hcalls,hstops,?_⟩
    rw [hlaunched]
    exact (h.patched_iff.mpr hacceptable).append
  refine ⟨⟨iff_of_true hcreated hproduces,?_,?_,?_⟩,.whole hcalls⟩
  · by_cases htests : testStatus tests request.testCommands = "failed"
    · obtain ⟨entry,hentry,hfail⟩ := hfailed.mp htests
      simp only [testedResult,htests,if_true]
      refine iff_of_false (by simp) fun hall => ?_
      exact Bool.false_ne_true ((hall.2 entry hentry).symm.trans hfail)
    · simp only [testedResult,htests,if_false]
      refine iff_of_true trivial ⟨hproduces,fun entry hentry => ?_⟩
      exact eq_false_of_ne_true fun hfail => htests (hfailed.mpr ⟨entry,hentry,hfail⟩)
  · intro _
    rw [hlaunched]
    exact h.captured.append
  · simp only [testedResult,List.map_append]
    rw [h.reported,hran.reported,hlaunched,List.map_append,zip_endings (Nat.le_of_eq hlengths.symm)]

theorem answered_unpatched {reason : String} {kept : CapturedPatch} (hreason : reason ≠ "test_failed")
    (h : Staged host secrets request launched captured commandResults) {rest : List Planned}
    (hrefused : ¬ Acceptable request.allowedPaths captured.filesChanged captured.diffText) :
    Answered host secrets request (failedResult reason commandResults [] kept) ⟨launched,rest,none,false⟩ := by
  have hpatch : ¬ Patched secrets request launched := mt h.patched_iff.mp hrefused
  refine ⟨verdict_failed hreason (fun hproduces => hpatch hproduces.patched) ?_,.unpatched h.calls hpatch,rfl⟩
  rw [List.append_nil,h.reported]

theorem follows_testPatch {image : String} (himage : validatedDockerImage request.dockerImage = some image)
    (h : Staged host secrets request launched captured commandResults) :
    Follows host (Ready secrets request) ⟨launched,plannedTests host secrets request,none,false⟩
      (testPatch host secrets request (host.mounts (envFilePath host request)) captured commandResults)
      (Answered host secrets request) := by
  rw [testPatch]
  split
  · next hblank =>
    refine Guards.pure (answered_unpatched (by decide) h fun hacceptable => ?_)
    simp [hacceptable.changed,hacceptable.written] at hblank
  next hpresent =>
  simp only [Bool.or_eq_true,decide_eq_true_eq,not_or] at hpresent
  split
  · next hrefused =>
    refine Guards.pure (answered_unpatched (by decide) h fun hacceptable => ?_)
    rw [acceptable_paths hacceptable] at hrefused
    cases hrefused
  next hallowed =>
  have hacceptable : Acceptable request.allowedPaths captured.filesChanged captured.diffText :=
    ⟨hpresent.1,hpresent.2,ensureChangedFilesAllowed_ok hallowed⟩
  have hready : ∀ more, Ready secrets request (launched ++ more) :=
    fun _ _ => (h.patched_iff.mpr hacceptable).append
  refine (follows_tests himage request.testCommands hready).bind ?_
  rintro tests s ⟨raws,hran,howed,hlaunched⟩
  split
  · next hunavailable =>
    have hlength : raws.length ≤ (plannedTests host secrets request).length := by
      rw [plannedTests,List.length_map]
      exact hran.length_le
    obtain ⟨command,raw,hentry,hstops⟩ := hran.unavailable hunavailable
    have hmem : (plannedTest host secrets request command,raw) ∈ s.launched := by
      rw [hlaunched,List.mem_append,List.zip_map_left]
      exact Or.inr (List.mem_map.mpr ⟨(command,raw),hentry,rfl⟩)
    refine Guards.pure ⟨verdict_failed (by decide) (not_produces_stopped hmem hstops) ?_,.stopped _ hmem hstops,howed⟩
    rw [List.map_append,h.reported,hran.reported,hlaunched,List.map_append]
    exact congrArg (_ ++ ·) (zip_endings hlength).symm
  · next havailable =>
    obtain ⟨hverdict,hconcluded⟩ := verdict_tested h hacceptable hran (eq_false_of_ne_true havailable) hlaunched
    exact Guards.pure ⟨hverdict,hconcluded,howed⟩

end verdicts

end AiScdc.DockerSandbox
