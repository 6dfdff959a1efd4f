import AiScdc.DockerSandbox.Executor

namespace AiScdc.DockerSandbox

open AiScdc.ArtifactPlane (UrlText)
open Github (isSafeAuthenticatedGithubUrl)
open Traced (Guards Permitted)

def Host.tokenPath (host : Host) : String := (gitAuthFiles host.artifactPath).tokenPath

-- Whether the token's file has been written and its removal is still to come.
def exposure (host : Host) : Bool → HostEvent → Bool
  | exposed,.written path _ _ => exposed || path = host.tokenPath
  | exposed,.unlinked path => exposed && path ≠ host.tokenPath
  | _,.workspaceRemoved _ => false
  | exposed,_ => exposed

def cloneName (request : SandboxExecutionRequest) : String :=
  dockerContainerName request.cloudRunId StepLabel.clone.text

-- The container that clones with the token, or its forced removal.
def IsCloneCall (host : Host) (request : SandboxExecutionRequest) (call : ProcessCall) : Prop :=
  call = removalCall host (cloneName request) ∨
    ∃ envFilePath args, buildDockerRunArgs host.userArgs request (host.mounts envFilePath)
        (gitCloneCommand request.repoUrl true) (some (cloneName request)) = some args ∧
      call = ⟨args,host.cliEnv,300⟩

def KeepsToken (host : Host) (request : SandboxExecutionRequest) : Bool → HostEvent → Prop
  | exposed,.process call _ => exposed = true → IsCloneCall host request call
  | _,.written path content _ => path = host.tokenPath → presentToken request.githubToken = some content
  | _,_ => True

section windows

variable {host : Host} {secrets : List String} {request : SandboxExecutionRequest} {mounts : Mounts}
  {exposed : Bool}

abbrev Watched {α : Type} (host : Host) (request : SandboxExecutionRequest) (exposed : Bool) (m : Action α)
    (Q : α → Bool → Prop) : Prop :=
  Guards (exposure host) (KeepsToken host request) exposed m Q fun _ => True

theorem watched_process {call : ProcessCall} (h : exposed = true → IsCloneCall host request call) :
    Watched host request exposed (runProcess host secrets call) fun _ s => s = exposed := by
  apply Guards.act
  · exact fun _ => h
  · intro history
    cases host.answer history call with
    | none => trivial
    | some result => rfl

theorem watched_removal {name : String} (timedOut : Bool)
    (h : exposed = true → IsCloneCall host request (removalCall host name)) :
    Watched host request exposed (removeTimedOut host secrets timedOut name) fun _ s => s = exposed := by
  rw [removeTimedOut]
  split
  · exact (watched_process h).bind fun _ _ hs => Guards.pure hs
  · exact Guards.pure rfl

theorem watched_container {label command : String} {timeoutSeconds : ℤ}
    (hrun : ∀ args, buildDockerRunArgs host.userArgs request mounts command
        (some (dockerContainerName request.cloudRunId label)) = some args →
      exposed = true → IsCloneCall host request ⟨args,host.cliEnv,timeoutSeconds⟩)
    (hremoval : exposed = true →
      IsCloneCall host request (removalCall host (dockerContainerName request.cloudRunId label))) :
    Watched host request exposed (runDockerContainer host secrets request mounts label command timeoutSeconds)
      fun _ s => s = exposed := by
  rw [runDockerContainer]
  split
  · exact Guards.raise trivial
  · next args hargs =>
    refine (watched_process (hrun args hargs)).bind fun result s hs => ?_
    subst hs
    exact (watched_removal result.timedOut hremoval).bind fun _ _ hs => Guards.pure hs

theorem watched_container_closed (label command : String) (timeoutSeconds : ℤ) :
    Watched host request false (runDockerContainer host secrets request mounts label command timeoutSeconds)
      fun _ s => s = false :=
  watched_container (fun _ _ h => absurd h (by decide)) fun h => absurd h (by decide)

theorem watched_unlink (path : String) :
    Watched host request exposed (unlink path) fun _ s => s = (exposed && path ≠ host.tokenPath) :=
  Guards.act (fun _ => trivial) fun _ => rfl

theorem watched_removeAfterClone_closed (label : StepLabel) (authFiles : Option GitAuthFiles) :
    Watched host request false (removeAfterClone label authFiles) fun _ s => s = false := by
  cases authFiles with
  | none => exact Guards.pure rfl
  | some files =>
    rw [removeAfterClone_some]
    split
    · refine (watched_unlink _).bind fun _ s hs => ?_
      subst hs
      exact (watched_unlink _).imp (fun _ _ hs => hs) fun _ _ => trivial
    · exact Guards.pure rfl

theorem watched_removeAfterClone_open :
    Watched host request exposed (removeAfterClone .clone (some (gitAuthFiles host.artifactPath)))
      fun _ s => s = false := by
  rw [removeAfterClone_some,if_pos rfl,removeGitAuthFiles]
  refine (watched_unlink _).bind fun _ s hs => ?_
  exact (watched_unlink _).imp (fun _ s hs => by simpa [Host.tokenPath] using hs) fun _ _ => trivial

theorem watched_steps (authFiles : Option GitAuthFiles) (steps : List SandboxStep) :
    Watched host request false (runSteps host secrets request mounts authFiles steps) fun _ s => s = false := by
  induction steps with
  | nil => exact Guards.pure rfl
  | cons step rest ih =>
    rw [runSteps]
    refine (watched_container_closed _ _ _).bind fun result s hs => ?_
    subst hs
    refine (watched_removeAfterClone_closed step.label authFiles).bind fun _ s hs => ?_
    subst hs
    split
    · exact Guards.pure rfl
    · exact ih.bind fun _ _ hs => Guards.pure hs

theorem watched_tests (commands : List SandboxCommandSelection) :
    Watched host request false (runTests host secrets request mounts commands) fun _ s => s = false := by
  induction commands with
  | nil => exact Guards.pure rfl
  | cons command rest ih =>
    rw [runTests]
    refine (watched_container_closed _ _ _).bind fun result s hs => ?_
    subst hs
    split
    · exact Guards.pure rfl
    · exact ih.bind fun _ _ hs => Guards.pure hs

theorem watched_testPatch (captured : CapturedPatch) (commandResults : List CommandResult) :
    Watched host request false (testPatch host secrets request mounts captured commandResults)
      fun _ s => s = false := by
  rw [testPatch]
  split
  · exact Guards.pure rfl
  split
  · exact Guards.pure rfl
  · refine (watched_tests _).bind fun tests s hs => ?_
    split
    · exact Guards.pure hs
    · exact Guards.pure hs

theorem watched_cloning (envFilePath : Option String) :
    Watched host request true
      (runSteps host secrets request (host.mounts envFilePath) (some (gitAuthFiles host.artifactPath))
        (sandboxSteps request true))
      fun _ s => s = false := by
  rw [sandboxSteps,runSteps]
  refine (watched_container (fun args hargs _ => .inr ⟨envFilePath,args,hargs,rfl⟩) fun _ => .inl rfl).bind
    fun result s hs => ?_
  subst hs
  refine watched_removeAfterClone_open.bind fun _ s hs => ?_
  subst hs
  split
  · exact Guards.pure rfl
  · exact (watched_steps _ _).bind fun _ _ hs => Guards.pure hs

theorem artifact_ne {name : String} (h : name.toList ≠ "/github-token".toList) :
    host.artifactPath ++ name ≠ host.tokenPath := by
  intro hsame
  have hlists := congrArg String.toList hsame
  simp only [gitAuthFiles,Host.tokenPath,String.toList_append] at hlists
  exact h (List.append_cancel_left hlists)

theorem watched_other {path : String} (content : String) (h : path ≠ host.tokenPath) :
    Watched host request exposed (writeText host path content) fun _ s => s = exposed := by
  apply Guards.act
  · exact fun _ hpath => absurd hpath h
  · intro history
    have hnext : exposure host exposed (.written path content (host.writes history path content)) = exposed := by
      simp [exposure,h]
    split
    · exact hnext
    · trivial

theorem watched_token {token : String} (h : presentToken request.githubToken = some token) :
    Watched host request exposed (writeText host host.tokenPath token) fun _ s => s = true := by
  apply Guards.act
  · exact fun _ _ => h
  · intro history
    split
    · exact show exposure host exposed (.written host.tokenPath token _) = true by simp [exposure]
    · trivial

theorem watched_envFile (env : ContainerEnv) :
    Watched host request exposed (writeDockerEnvFile host (host.artifactPath ++ "/container.env") env)
      fun _ s => s = exposed := by
  rw [writeDockerEnvFile]
  split
  · exact Guards.pure rfl
  · exact (watched_other _ (artifact_ne (by decide))).bind fun _ _ hs => Guards.pure hs

theorem watched_authFiles :
    Watched host request false (writeGitAuthFiles host host.artifactPath request.githubToken) fun authFiles s =>
      (authFiles = none ∧ s = false) ∨ (authFiles = some (gitAuthFiles host.artifactPath) ∧ s = true) := by
  rw [writeGitAuthFiles]
  split
  · exact Guards.pure (.inl ⟨rfl,rfl⟩)
  · next token htoken =>
    refine (watched_token htoken).bind fun _ s hs => ?_
    refine (watched_other _ (artifact_ne (by decide))).bind fun _ s' hs' => ?_
    exact Guards.pure (.inr ⟨rfl,hs'.trans hs⟩)

theorem watched_containers (envFilePath : Option String) (versionResult : CommandResult) :
    Watched host request false (runContainers host secrets request (host.mounts envFilePath) versionResult)
      fun _ s => s = false := by
  rw [runContainers]
  refine watched_authFiles.bind fun authFiles s hs => ?_
  have hsteps : Watched host request s (runSteps host secrets request (host.mounts envFilePath) authFiles
      (sandboxSteps request authFiles.isSome)) fun _ s => s = false := by
    rcases hs with ⟨rfl,rfl⟩ | ⟨rfl,rfl⟩
    · exact watched_steps _ _
    · exact watched_cloning envFilePath
  refine hsteps.bind fun steps s hs => ?_
  subst hs
  split
  · exact Guards.pure rfl
  · exact watched_testPatch _ _

theorem watched_workspace : Watched host request false (runInWorkspace host secrets request) fun _ s => s = false := by
  rw [runInWorkspace]
  have hmake : Watched host request false (makeDirectories host) fun _ s => s = false :=
    Guards.act (fun _ => trivial) fun history => by split <;> trivial
  refine hmake.bind fun _ s hs => ?_
  subst hs
  refine (watched_envFile request.env).bind fun envFilePath s hs => ?_
  subst hs
  refine (watched_process fun h => absurd h (by decide)).bind fun dockerVersion s hs => ?_
  subst hs
  split
  · exact Guards.pure rfl
  · exact watched_containers envFilePath _

end windows

structure TokenGuarded [UrlText] (host : Host) (request : SandboxExecutionRequest) (events : List HostEvent) :
    Prop where
  calls : ∀ before call outcome later, events = before ++ .process call outcome :: later →
    before.foldl (exposure host) false = true → IsCloneCall host (admitted request) call
  contents : ∀ before content succeeded later, events = before ++ .written host.tokenPath content succeeded :: later →
    presentToken request.githubToken = some content ∧
      isSafeAuthenticatedGithubUrl request.repoUrl request.githubOwner request.githubRepo = true
  removed : events.foldl (exposure host) false = false
  closed : .workspaceCreated true ∈ events → ∃ before succeeded, events = before ++ [.workspaceRemoved succeeded]

section runs

variable [UrlText] {host : Host} {request : SandboxExecutionRequest}

theorem refusal_url (h : refusal request = none) (htoken : presentToken request.githubToken ≠ none) :
    isSafeAuthenticatedGithubUrl request.repoUrl request.githubOwner request.githubRepo = true := by
  rw [refusal] at h
  split at h
  · cases h
  split at h
  · cases h
  split at h
  · cases h
  · next hsafe => simpa [htoken] using hsafe

variable (host request) in
theorem watched_run : Watched host (admitted request) false (run host request) fun _ s => s = false := by
  rw [run]
  split
  · exact Guards.pure rfl
  · have hcreate : Watched host (admitted request) false (createWorkspace host) fun _ s => s = false :=
      Guards.act (fun _ => trivial) fun history => by split <;> trivial
    refine hcreate.bind fun _ s hs => ?_
    subst hs
    exact watched_workspace.closedBy (fun _ _ _ _ => ⟨trivial,rfl,trivial⟩) fun _ _ _ => ⟨trivial,trivial⟩

theorem run_removed {history events : List HostEvent} {result : Option SandboxExecutionResult}
    (h : run host request history = (result,events)) : events.foldl (exposure host) false = false := by
  rcases run_cases h with ⟨_,_,_,rfl⟩ | ⟨_,_,rfl⟩ | ⟨_,_,acts,removed,_,_,rfl⟩
  · rfl
  · rfl
  · rw [List.foldl_append]
    rfl

theorem run_closed {history events : List HostEvent} {result : Option SandboxExecutionResult}
    (h : run host request history = (result,events)) (hcreated : .workspaceCreated true ∈ events) :
    ∃ before succeeded, events = before ++ [.workspaceRemoved succeeded] := by
  rcases run_cases h with ⟨_,_,_,rfl⟩ | ⟨_,_,rfl⟩ | ⟨_,_,acts,removed,_,_,rfl⟩
  · cases hcreated
  · simp at hcreated
  · exact ⟨.workspaceCreated true :: acts,removed,rfl⟩

theorem token_only_for_clone (host : Host) (request : SandboxExecutionRequest) (history : List HostEvent) :
    TokenGuarded host request (run host request history).2 := by
  have hpermitted := Traced.permitted_iff.mp (watched_run host request history).1
  constructor
  · intro before call outcome later hevents
    exact hpermitted before _ later hevents
  · intro before content succeeded later hevents
    have hcontent : presentToken request.githubToken = some content := hpermitted before _ later hevents rfl
    refine ⟨hcontent,?_⟩
    by_cases hrefusal : refusal request = none
    · exact refusal_url hrefusal (by rw [hcontent]; exact Option.some_ne_none _)
    · rw [refused_without_events hrefusal] at hevents
      exact absurd hevents (by simp)
  · exact run_removed rfl
  · exact run_closed rfl

end runs

end AiScdc.DockerSandbox
