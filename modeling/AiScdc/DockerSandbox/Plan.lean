import AiScdc.DockerSandbox.Executor
import AiScdc.LocalRunner.PatchPath

namespace AiScdc.DockerSandbox

open AiScdc.ArtifactPlane (UrlText)
open Traced (Guards Permitted)

-- A call that is due, the container it names, and the outcomes that end the run.
structure Planned where
  call : ProcessCall
  container : Option String
  stops : ProcessResult → Bool

structure PlanState where
  launched : List (Planned × ProcessResult) := []
  rest : List Planned
  owed : Option String := none
  raised : Bool := false

-- An error that the program lets through. The removal of the workspace comes after it.
def HostEvent.raises : HostEvent → Bool
  | .workspaceCreated succeeded | .directoriesMade succeeded | .written _ _ succeeded => !succeeded
  | .process _ outcome => outcome.isNone
  | .unlinked _ | .workspaceRemoved _ => false

def PlanState.launch (s : PlanState) (planned : Planned) (rest : List Planned) : Option ProcessResult → PlanState
  | none => { s with rest := [] }
  | some result =>
    { s with
      launched := s.launched ++ [(planned,result)]
      rest := if planned.stops result then [] else rest
      owed := if result.timedOut then planned.container else none }

-- A container that timed out is owed its removal.
def PlanState.called (s : PlanState) (outcome : Option ProcessResult) : PlanState :=
  match s.owed,s.rest with
  | some _,rest => { s with owed := none, rest := if outcome.isNone then [] else rest }
  | none,planned :: rest => s.launch planned rest outcome
  | none,[] => s

def PlanState.seen (s : PlanState) : HostEvent → PlanState
  | .process _ outcome => s.called outcome
  | _ => s

def planNext (s : PlanState) (event : HostEvent) : PlanState :=
  { s.seen event with raised := s.raised || event.raises }

-- `ready` tells of the calls already made whether the next one may follow.
def PlanPermits (host : Host) (ready : List (Planned × ProcessResult) → Prop) (s : PlanState) : HostEvent → Prop
  | .process call _ =>
    match s.owed with
    | some name => call = removalCall host name
    | none => s.rest.head?.map Planned.call = some call ∧ ready s.launched
  | _ => s.owed = none

section plans

variable (host : Host) (secrets : List String) (request : SandboxExecutionRequest)

def envFilePath : Option String :=
  if containerEnvItems request.env = [] then none else some (host.artifactPath ++ "/container.env")

def containerCall (label command : String) (timeoutSeconds : ℤ) : ProcessCall :=
  ⟨(buildDockerRunArgs host.userArgs request (host.mounts (envFilePath host request)) command
    (some (dockerContainerName request.cloudRunId label))).getD [],host.cliEnv,timeoutSeconds⟩

def plannedVersion : Planned := ⟨versionCall host,none,ProcessResult.failed⟩

def plannedStep (step : SandboxStep) : Planned :=
  ⟨containerCall host request step.label.text step.command step.timeoutSeconds,
    some (dockerContainerName request.cloudRunId step.label.text),ProcessResult.failed⟩

def plannedTest (command : SandboxCommandSelection) : Planned :=
  ⟨containerCall host request ("test-" ++ command.key) command.command command.timeoutSeconds,
    some (dockerContainerName request.cloudRunId ("test-" ++ command.key)),
    fun result => result.failed && isDockerRunStartFailure (result.redacted secrets)⟩

def plannedSteps : List Planned :=
  (sandboxSteps request (presentToken request.githubToken).isSome).map (plannedStep host request)

def plannedTests : List Planned := request.testCommands.map (plannedTest host secrets request)

def plannedCalls : List Planned :=
  plannedVersion host :: plannedSteps host request ++ plannedTests host secrets request

end plans

section images

theorem validatedDockerImage_again {image : Option String} {valid : String}
    (h : validatedDockerImage image = some valid) : validatedDockerImage (some valid) = some valid := by
  cases image with
  | none =>
    obtain rfl := Option.some.inj h
    decide +kernel
  | some image =>
    simp only [validatedDockerImage] at h
    split at h
    · cases h
    next hvalid =>
    obtain rfl := Option.some.inj h
    simp only [validatedDockerImage,String.toList_ofList,strip_idempotent]
    exact if_neg hvalid

theorem admitted_image [UrlText] {request : SandboxExecutionRequest} (h : refusal request = none) :
    ∃ image, validatedDockerImage (admitted request).dockerImage = some image := by
  rw [refusal] at h
  split at h
  · cases h
  · next himage =>
    obtain ⟨image,hsome⟩ := Option.ne_none_iff_exists'.mp himage
    exact ⟨image,by rw [admitted,hsome]; exact validatedDockerImage_again hsome⟩

end images

section loops

variable (secrets : List String)

-- How the answers to the steps lead to what the loop records.
inductive StepsRan : List SandboxStep → List ProcessResult → StepRuns → Prop where
  | done : StepsRan [] [] {}
  | stopped {step : SandboxStep} {rest : List SandboxStep} {raw : ProcessResult} (h : raw.failed = true) :
      StepsRan (step :: rest) [raw]
        ⟨[(step,raw.redacted secrets)],some (stepFailure step.label (raw.redacted secrets))⟩
  | next {step : SandboxStep} {rest : List SandboxStep} {raw : ProcessResult} {raws : List ProcessResult}
      {later : StepRuns} (h : raw.failed = false) (hlater : StepsRan rest raws later) :
      StepsRan (step :: rest) (raw :: raws) { later with ran := (step,raw.redacted secrets) :: later.ran }

inductive TestsRan : List SandboxCommandSelection → List ProcessResult → TestRuns → Prop where
  | done : TestsRan [] [] {}
  | stopped {command : SandboxCommandSelection} {rest : List SandboxCommandSelection} {raw : ProcessResult}
      (h : (raw.failed && isDockerRunStartFailure (raw.redacted secrets)) = true) :
      TestsRan (command :: rest) [raw] ⟨[(command,raw.redacted secrets)],true⟩
  | next {command : SandboxCommandSelection} {rest : List SandboxCommandSelection} {raw : ProcessResult}
      {raws : List ProcessResult} {later : TestRuns}
      (h : (raw.failed && isDockerRunStartFailure (raw.redacted secrets)) = false)
      (hlater : TestsRan rest raws later) :
      TestsRan (command :: rest) (raw :: raws) { later with ran := (command,raw.redacted secrets) :: later.ran }

end loops

section programs

variable {host : Host} {secrets : List String} {request : SandboxExecutionRequest} {s : PlanState}
  {launched : List (Planned × ProcessResult)} {rest : List Planned} {planned : Planned}
  {ready : List (Planned × ProcessResult) → Prop}

abbrev Follows {α : Type} (host : Host) (ready : List (Planned × ProcessResult) → Prop) (s : PlanState)
    (m : Action α) (Q : α → PlanState → Prop) : Prop :=
  Guards planNext (PlanPermits host ready) s m Q fun s => s.owed = none ∧ s.raised = true

@[simp] theorem redacted_failed (raw : ProcessResult) (secrets : List String) :
    (raw.redacted secrets).failed = raw.failed := rfl

theorem planNext_quiet {event : HostEvent} (hquiet : event.raises = false)
    (hcall : ∀ call outcome, event ≠ .process call outcome) : planNext s event = s := by
  cases event with
  | process call outcome => exact (hcall call outcome rfl).elim
  | _ => simp [planNext,PlanState.seen,hquiet]

variable (rest planned) in
theorem follows_planned (hready : ready launched) :
    Follows host ready ⟨launched,planned :: rest,none,false⟩ (runProcess host secrets planned.call) fun result s =>
      ∃ raw, result = raw.redacted secrets ∧
        s = PlanState.launch ⟨launched,planned :: rest,none,false⟩ planned rest (some raw) := by
  apply Guards.act
  · exact fun _ => ⟨rfl,hready⟩
  · intro history
    cases host.answer history planned.call with
    | none => exact ⟨rfl,rfl⟩
    | some raw => exact ⟨raw,rfl,rfl⟩

theorem follows_removal {name : String} (h : s.owed = some name) :
    Follows host ready s (runProcess host secrets (removalCall host name)) fun _ s' =>
      s' = { s with owed := none } := by
  obtain ⟨launched,rest,owed,raised⟩ := s
  obtain rfl : owed = some name := h
  apply Guards.act
  · exact fun _ => rfl
  · intro history
    cases host.answer history (removalCall host name) with
    | none => exact ⟨rfl,Bool.or_true raised⟩
    | some result => simp [Traced.Ends,planNext,PlanState.seen,PlanState.called,HostEvent.raises]

theorem follows_removeTimedOut {name : String} {timedOut : Bool} (h : s.owed = if timedOut then some name else none) :
    Follows host ready s (removeTimedOut host secrets timedOut name) fun _ s' => s' = { s with owed := none } := by
  rw [removeTimedOut]
  split
  · next htimed =>
    rw [if_pos htimed] at h
    exact (follows_removal h).bind fun _ _ hs => Guards.pure hs
  · next htimed =>
    rw [if_neg htimed] at h
    obtain ⟨launched,rest,owed,raised⟩ := s
    obtain rfl : owed = none := h
    exact Guards.pure rfl

theorem follows_container {label command image : String} {timeoutSeconds : ℤ}
    (himage : validatedDockerImage request.dockerImage = some image) (hready : ready launched)
    (hcall : planned.call = containerCall host request label command timeoutSeconds)
    (hname : planned.container = some (dockerContainerName request.cloudRunId label)) :
    Follows host ready ⟨launched,planned :: rest,none,false⟩
      (runDockerContainer host secrets request (host.mounts (envFilePath host request)) label command timeoutSeconds)
      fun result s => ∃ raw, result = raw.redacted secrets ∧
        s = ⟨launched ++ [(planned,raw)],if planned.stops raw then [] else rest,none,false⟩ := by
  rw [runDockerContainer]
  split
  · next hnone => simp [buildDockerRunArgs,himage] at hnone
  · next args hargs =>
    have hplanned : planned.call = ⟨args,host.cliEnv,timeoutSeconds⟩ := by rw [hcall,containerCall,hargs]; rfl
    rw [← hplanned]
    refine (follows_planned rest planned hready).bind ?_
    rintro result s ⟨raw,rfl,rfl⟩
    refine (follows_removeTimedOut (by rw [← hname]; rfl)).bind fun _ s hs => ?_
    exact Guards.pure ⟨raw,rfl,hs⟩

theorem follows_unlink (path : String) (h : s.owed = none) : Follows host ready s (unlink path) fun _ s' => s' = s :=
  Guards.act (fun _ => h) fun _ => planNext_quiet rfl fun _ _ he => by cases he

theorem follows_removeAfterClone (label : StepLabel) (authFiles : Option GitAuthFiles) (h : s.owed = none) :
    Follows host ready s (removeAfterClone label authFiles) fun _ s' => s' = s := by
  cases authFiles with
  | none => exact Guards.pure rfl
  | some files =>
    rw [removeAfterClone_some]
    split
    · refine (follows_unlink _ h).bind fun _ s hs => ?_
      subst hs
      exact follows_unlink _ h
    · exact Guards.pure rfl

theorem follows_steps {image : String} (himage : validatedDockerImage request.dockerImage = some image)
    (authFiles : Option GitAuthFiles) (steps : List SandboxStep)
    (hready : ∀ more, more.length < steps.length → ready (launched ++ more)) :
    Follows host ready ⟨launched,steps.map (plannedStep host request) ++ rest,none,false⟩
      (runSteps host secrets request (host.mounts (envFilePath host request)) authFiles steps)
      fun runs s => ∃ raws, StepsRan secrets steps raws runs ∧ s.owed = none ∧
        s.launched = launched ++ (steps.map (plannedStep host request)).zip raws ∧
        (runs.failureReason = none → s.rest = rest ∧ s.raised = false) := by
  induction steps generalizing launched with
  | nil => exact Guards.pure ⟨[],.done,rfl,by simp,fun _ => ⟨rfl,rfl⟩⟩
  | cons step steps ih =>
    have hfirst : ready launched := by simpa using hready [] (Nat.succ_pos _)
    rw [runSteps]
    refine (follows_container himage hfirst rfl rfl).bind ?_
    rintro result s ⟨raw,rfl,rfl⟩
    refine (follows_removeAfterClone _ _ rfl).bind fun _ s hs => ?_
    subst hs
    have hstops : (plannedStep host request step).stops raw = raw.failed := rfl
    rw [redacted_failed,hstops]
    split
    · next hfailed =>
      exact Guards.pure ⟨[raw],.stopped hfailed,rfl,by simp,fun h => by cases h⟩
    · next hfailed =>
      have hlater : ∀ more, more.length < steps.length →
          ready ((launched ++ [(plannedStep host request step,raw)]) ++ more) := by
        intro more hmore
        rw [List.append_assoc]
        exact hready _ (Nat.succ_lt_succ hmore)
      refine (ih hlater).bind ?_
      rintro later s ⟨raws,hran,howed,hlaunched,hrest⟩
      refine Guards.pure ⟨raw :: raws,.next (eq_false_of_ne_true hfailed) hran,howed,?_,hrest⟩
      rw [hlaunched]
      simp

theorem follows_tests {image : String} (himage : validatedDockerImage request.dockerImage = some image)
    (commands : List SandboxCommandSelection) (hready : ∀ more, ready (launched ++ more)) :
    Follows host ready ⟨launched,commands.map (plannedTest host secrets request),none,false⟩
      (runTests host secrets request (host.mounts (envFilePath host request)) commands)
      fun tests s => ∃ raws, TestsRan secrets commands raws tests ∧ s.owed = none ∧
        s.launched = launched ++ (commands.map (plannedTest host secrets request)).zip raws := by
  induction commands generalizing launched with
  | nil => exact Guards.pure ⟨[],.done,rfl,by simp⟩
  | cons command commands ih =>
    have hfirst : ready launched := by simpa using hready []
    rw [runTests]
    refine (follows_container himage hfirst rfl rfl).bind ?_
    rintro result s ⟨raw,rfl,rfl⟩
    have hstops : (plannedTest host secrets request command).stops raw =
        (raw.failed && isDockerRunStartFailure (raw.redacted secrets)) := rfl
    rw [redacted_failed,hstops]
    split
    · next hstopped => exact Guards.pure ⟨[raw],.stopped hstopped,rfl,by simp⟩
    · next hgoes =>
      have hlater : ∀ more, ready ((launched ++ [(plannedTest host secrets request command,raw)]) ++ more) := by
        intro more
        rw [List.append_assoc]
        exact hready _
      refine (ih hlater).bind ?_
      rintro later s ⟨raws,hran,howed,hlaunched⟩
      refine Guards.pure ⟨raw :: raws,.next (eq_false_of_ne_true hgoes) hran,howed,?_⟩
      rw [hlaunched]
      simp

end programs

end AiScdc.DockerSandbox
