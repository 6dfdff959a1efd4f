import AiScdc.DockerSandbox.Verdict

namespace AiScdc.DockerSandbox

open AiScdc.ArtifactPlane (UrlText)
open Traced (Guards Permitted)

def planStart (host : Host) (secrets : List String) (request : SandboxExecutionRequest) : PlanState :=
  { rest := plannedCalls host secrets request }

section programs

variable {host : Host} {secrets : List String} {request : SandboxExecutionRequest} {s : PlanState}
  {ready : List (Planned × ProcessResult) → Prop}

-- An event that is no call: it goes well, or it raises.
theorem follows_act {succeeds : List HostEvent → Bool} {event : List HostEvent → HostEvent} (h : s.owed = none)
    (hcall : ∀ history call outcome, event history ≠ .process call outcome)
    (hraises : ∀ history, (event history).raises = !succeeds history) :
    Follows host ready s (Traced.act fun history => (if succeeds history then some () else none,event history))
      fun _ s' => s' = s := by
  apply Guards.act
  · intro history
    have hno := hcall history
    cases hevent : event history with
    | process call outcome => exact (hno call outcome hevent).elim
    | _ => exact h
  · intro history
    have hevent := hraises history
    cases hsucceeds : succeeds history with
    | true =>
      rw [hsucceeds] at hevent
      exact planNext_quiet hevent (hcall history)
    | false =>
      rw [hsucceeds] at hevent
      have hseen : s.seen (event history) = s := by
        have hno := hcall history
        cases hkind : event history with
        | process call outcome => exact (hno call outcome hkind).elim
        | _ => rfl
      simp only [Bool.false_eq_true,if_false,Traced.Ends,planNext,hseen,hevent]
      exact ⟨h,Bool.or_true _⟩

theorem follows_writeText (path content : String) (h : s.owed = none) :
    Follows host ready s (writeText host path content) fun _ s' => s' = s :=
  follows_act h (fun _ _ _ he => by cases he) fun _ => rfl

theorem follows_envFile (h : s.owed = none) :
    Follows host ready s (writeDockerEnvFile host (host.artifactPath ++ "/container.env") request.env) fun path s' =>
      path = envFilePath host request ∧ s' = s := by
  rw [writeDockerEnvFile,envFilePath]
  split
  · exact Guards.pure ⟨rfl,rfl⟩
  · exact (follows_writeText _ _ h).bind fun _ _ hs => Guards.pure ⟨rfl,hs⟩

theorem follows_authFiles (h : s.owed = none) :
    Follows host ready s (writeGitAuthFiles host host.artifactPath request.githubToken) fun authFiles s' =>
      authFiles.isSome = (presentToken request.githubToken).isSome ∧ s' = s := by
  rw [writeGitAuthFiles]
  split
  · next hnone => exact Guards.pure ⟨by rw [hnone]; rfl,rfl⟩
  · next token htoken =>
    refine (follows_writeText _ _ h).bind fun _ s hs => ?_
    subst hs
    exact (follows_writeText _ _ h).bind fun _ _ hs => Guards.pure ⟨by rw [htoken]; rfl,hs⟩

theorem step_labels (request : SandboxExecutionRequest) (useAskpass : Bool) :
    (sandboxSteps request useAskpass).map SandboxStep.label =
      [.clone,.checkout,.branch,.patch,.intentToAdd,.nameOnly,.diff,.baseSha,.headSha] := by
  cases h : request.patchCommand <;> simp [sandboxSteps,cloneStep,laterSteps,patchStep,h]

theorem stepFailure_ne (label : StepLabel) (result : ProcessResult) : stepFailure label result ≠ "test_failed" := by
  rw [stepFailure]
  split
  · decide
  · cases label <;> decide

theorem lookup_zip {steps : List SandboxStep} {raws : List ProcessResult} {step : SandboxStep} {raw : ProcessResult}
    (hlabels : (steps.map SandboxStep.label).Nodup) (h : (step,raw) ∈ steps.zip raws) :
    ((steps.map SandboxStep.label).zip raws).lookup step.label = some raw := by
  induction steps generalizing raws with
  | nil => cases h
  | cons first steps ih =>
    cases raws with
    | nil => cases h
    | cons found raws =>
      obtain ⟨hfirst,hrest⟩ := List.nodup_cons.mp hlabels
      rw [List.map_cons,List.zip_cons_cons,List.lookup_cons]
      rcases List.mem_cons.mp h with heq | h
      · cases heq
        simp
      · have hne : step.label ≠ first.label := by
          intro heq
          exact hfirst (heq ▸ List.mem_map_of_mem (List.of_mem_zip h).1)
        rw [beq_false_of_ne hne]
        exact ih hrest h

theorem staged_steps {version : ProcessResult} {raws : List ProcessResult} {runs : StepRuns}
    (hversion : version.failed = false)
    (hran : StepsRan secrets (sandboxSteps request (presentToken request.githubToken).isSome) raws runs)
    (hnone : runs.failureReason = none) :
    Staged host secrets request ((plannedVersion host,version) :: (plannedSteps host request).zip raws)
      (capturedPatch request runs)
      ((version.redacted secrets).toCommandResult "docker version" secrets :: runs.results secrets) := by
  obtain ⟨hlength,hall⟩ := hran.complete hnone
  have hlengths : (plannedSteps host request).length = raws.length := by
    rw [plannedSteps,List.length_map,hlength]
  have hnodup : ((sandboxSteps request (presentToken request.githubToken).isSome).map SandboxStep.label).Nodup := by
    rw [step_labels]
    decide
  have hanswer {label : StepLabel} (hlabel : label ∈ (laterSteps request).map SandboxStep.label) :
      ∃ raw, stepAnswer request ((plannedVersion host,version) :: (plannedSteps host request).zip raws) label =
        some raw ∧ runs.stdout label = (raw.redacted secrets).stdout := by
    obtain ⟨step,hstep,rfl⟩ := List.mem_map.mp hlabel
    obtain ⟨raw,hmem,hout⟩ := hran.stdout hnone hnodup (List.mem_cons_of_mem _ hstep)
    refine ⟨raw,?_,hout⟩
    rw [stepAnswer,List.tail_cons,List.map_snd_zip (Nat.le_of_eq hlengths.symm)]
    exact lookup_zip hnodup hmem
  constructor
  · rw [List.map_cons,List.map_fst_zip (Nat.le_of_eq hlengths)]
  · intro entry hentry
    rcases List.mem_cons.mp hentry with rfl | hentry
    · exact ⟨hversion,hversion⟩
    · obtain ⟨hplanned,hraw⟩ := List.of_mem_zip hentry
      obtain ⟨step,_,hstep⟩ := List.mem_map.mp hplanned
      rw [← hstep]
      exact ⟨hall _ hraw,hall _ hraw⟩
  · have hlabels : StepLabel.nameOnly ∈ (laterSteps request).map SandboxStep.label ∧
        StepLabel.diff ∈ (laterSteps request).map SandboxStep.label := by simp [laterSteps]
    obtain ⟨names,hnames,hfiles⟩ := hanswer hlabels.1
    obtain ⟨diff,hdiff,htext⟩ := hanswer hlabels.2
    exact ⟨⟨names,hnames,by rw [← hfiles]; rfl⟩,diff,hdiff,htext⟩
  · rw [List.map_cons,hran.reported,List.map_cons,zip_endings (Nat.le_of_eq hlengths.symm)]
    rfl

theorem follows_containers {image : String} {version : ProcessResult}
    (himage : validatedDockerImage request.dockerImage = some image) (hversion : version.failed = false) :
    Follows host (Ready secrets request)
      ⟨[(plannedVersion host,version)],plannedSteps host request ++ plannedTests host secrets request,none,false⟩
      (runContainers host secrets request (host.mounts (envFilePath host request))
        ((version.redacted secrets).toCommandResult "docker version" secrets))
      (Answered host secrets request) := by
  rw [runContainers]
  refine (follows_authFiles rfl).bind ?_
  rintro authFiles s ⟨hauth,rfl⟩
  rw [hauth]
  have hready : ∀ more : List (Planned × ProcessResult),
      more.length < (sandboxSteps request (presentToken request.githubToken).isSome).length →
        Ready secrets request ([(plannedVersion host,version)] ++ more) := by
    intro more hmore hlate
    rw [List.length_append,List.length_singleton] at hlate
    omega
  refine (follows_steps himage authFiles _ hready).bind ?_
  rintro runs s ⟨raws,hran,howed,hlaunched,hrest⟩
  split
  · next reason hreason =>
    obtain ⟨label,result,hnamed⟩ := hran.reason hreason
    obtain ⟨step,raw,hmem,hfailed⟩ := hran.failed hreason
    have hentry : (plannedStep host request step,raw) ∈ s.launched := by
      rw [hlaunched,List.mem_append,List.zip_map_left]
      exact Or.inr (List.mem_map.mpr ⟨(step,raw),hmem,rfl⟩)
    rw [hnamed]
    refine Guards.pure ⟨verdict_failed (stepFailure_ne label result)
      (not_produces_stopped hentry hfailed) ?_,.stopped _ hentry hfailed,howed⟩
    have hlength : raws.length ≤ (plannedSteps host request).length := by
      rw [plannedSteps,List.length_map]
      exact hran.length_le
    rw [List.append_nil,List.map_cons,hran.reported,hlaunched,List.map_append]
    exact congrArg (_ :: ·) (zip_endings hlength).symm
  · next hnone =>
    obtain ⟨launched,rest,owed,raised⟩ := s
    obtain rfl : owed = none := howed
    obtain ⟨hrest,hraised⟩ := hrest hnone
    obtain rfl : rest = plannedTests host secrets request := hrest
    obtain rfl : raised = false := hraised
    obtain rfl : launched = (plannedVersion host,version) :: (plannedSteps host request).zip raws := hlaunched
    exact follows_testPatch himage (staged_steps hversion hran hnone)

theorem follows_workspace {image : String} (himage : validatedDockerImage request.dockerImage = some image) :
    Follows host (Ready secrets request) (planStart host secrets request) (runInWorkspace host secrets request)
      (Answered host secrets request) := by
  rw [runInWorkspace]
  have hmake : Follows host (Ready secrets request) (planStart host secrets request) (makeDirectories host)
      fun _ s => s = planStart host secrets request := follows_act rfl (fun _ _ _ he => by cases he) fun _ => rfl
  refine hmake.bind ?_
  rintro _ s rfl
  refine (follows_envFile rfl).bind ?_
  rintro path s ⟨rfl,rfl⟩
  have hready : Ready secrets request [] := fun hlate => absurd hlate (Nat.not_lt_zero _)
  refine (follows_planned (plannedSteps host request ++ plannedTests host secrets request)
    (plannedVersion host) hready).bind ?_
  rintro dockerVersion s ⟨version,rfl,rfl⟩
  have hlaunch : PlanState.launch ⟨[],plannedVersion host :: (plannedSteps host request ++
      plannedTests host secrets request),none,false⟩ (plannedVersion host)
      (plannedSteps host request ++ plannedTests host secrets request) (some version) =
    ⟨[(plannedVersion host,version)],if version.failed then [] else
      plannedSteps host request ++ plannedTests host secrets request,none,false⟩ := by
    simp [PlanState.launch,plannedVersion]
    rfl
  rw [hlaunch,redacted_failed]
  split
  · next hfailed =>
    have hentry : (plannedVersion host,version) ∈ [(plannedVersion host,version)] := List.mem_singleton_self _
    exact Guards.pure ⟨verdict_failed (by decide) (not_produces_stopped hentry hfailed) rfl,
      .stopped _ hentry hfailed,rfl⟩
  · next hversion => exact follows_containers himage (eq_false_of_ne_true hversion)

end programs

def containerName (call : ProcessCall) : Option String :=
  if call.args.take 4 = ["docker","run","--rm","--name"] then call.args[4]? else none

-- The calls are the planned ones, in order, and a test is called only for a patch that may be tested;
-- a container that timed out is removed by the next event.
structure PlanFollowed (host : Host) (plan : List Planned) (ready : List (Planned × ProcessResult) → Prop)
    (events : List HostEvent) : Prop where
  permitted : Permitted planNext (PlanPermits host ready) { rest := plan } events
  order : (events.foldl planNext { rest := plan }).launched.map Prod.fst <+: plan
  removed : ∀ before call result later name, events = before ++ .process call (some result) :: later →
    containerName call = some name → result.timedOut = true →
    ∃ outcome rest, later = .process (removalCall host name) outcome :: rest

section plans

variable {host : Host} {plan : List Planned} {ready : List (Planned × ProcessResult) → Prop} {s : PlanState}

-- What is launched and what is due make up the plan, unless the rest has been given up.
structure OnPlan (plan : List Planned) (s : PlanState) : Prop where
  due : s.rest ≠ [] → s.launched.map Prod.fst ++ s.rest = plan
  order : s.launched.map Prod.fst <+: plan

theorem onPlan_seen (h : OnPlan plan s) (event : HostEvent) : OnPlan plan (s.seen event) := by
  cases event with
  | process call outcome =>
    obtain ⟨launched,rest,owed,raised⟩ := s
    cases owed with
    | some name =>
      refine ⟨fun hne => ?_,h.order⟩
      cases outcome with
      | none => exact absurd rfl hne
      | some result => exact h.due hne
    | none =>
      cases rest with
      | nil => exact h
      | cons planned rest =>
        have hplan := h.due (List.cons_ne_nil planned rest)
        cases outcome with
        | none => exact ⟨fun hne => absurd rfl hne,h.order⟩
        | some result =>
          have hlaunched : ((launched ++ [(planned,result)]).map Prod.fst) ++ rest = plan := by
            rw [← hplan]
            simp
          refine ⟨fun hne => ?_,⟨rest,hlaunched⟩⟩
          simp only [PlanState.seen,PlanState.called,PlanState.launch] at hne ⊢
          split at hne
          · exact absurd rfl hne
          · next hgoes => rwa [if_neg hgoes]
  | _ => exact h

theorem onPlan_next (h : OnPlan plan s) (event : HostEvent) : OnPlan plan (planNext s event) :=
  ⟨(onPlan_seen h event).due,(onPlan_seen h event).order⟩

theorem onPlan_run (h : OnPlan plan s) (events : List HostEvent) : OnPlan plan (events.foldl planNext s) := by
  induction events generalizing s with
  | nil => exact h
  | cons event events ih => exact ih (onPlan_next h event)

theorem onPlan_start : OnPlan plan { rest := plan } := ⟨fun _ => rfl,List.nil_prefix⟩

theorem raised_run (events : List HostEvent) (s : PlanState) :
    (events.foldl planNext s).raised = (s.raised || events.any HostEvent.raises) := by
  induction events generalizing s with
  | nil => exact (Bool.or_false _).symm
  | cons event events ih =>
    rw [List.foldl_cons,ih,List.any_cons,← Bool.or_assoc]
    rfl

theorem removal_not_container (name : String) : containerName (removalCall host name) = none :=
  if_neg (by simp [removalCall])

-- A call that is due leaves its container owed when it times out.
theorem owed_after_timeout {call : ProcessCall} {result : ProcessResult} {name : String} (h : OnPlan plan s)
    (hnames : ∀ planned ∈ plan, planned.container = containerName planned.call)
    (hpermits : PlanPermits host ready s (.process call (some result))) (hname : containerName call = some name)
    (htimed : result.timedOut = true) : (planNext s (.process call (some result))).owed = some name := by
  obtain ⟨launched,rest,owed,raised⟩ := s
  cases owed with
  | some other =>
    have hcall : call = removalCall host other := hpermits
    rw [hcall,removal_not_container] at hname
    cases hname
  | none =>
    obtain ⟨planned,hhead,rfl⟩ := Option.map_eq_some_iff.mp hpermits.1
    obtain ⟨rest,rfl⟩ := List.head?_eq_some_iff.mp hhead
    have hmem : planned ∈ plan := by
      rw [← h.due (List.cons_ne_nil planned rest)]
      exact List.mem_append_right _ List.mem_cons_self
    have howed : (planNext ⟨launched,planned :: rest,none,raised⟩ (.process planned.call (some result))).owed =
        planned.container := if_pos htimed
    rw [howed,hnames planned hmem,hname]

theorem followed_of_permitted {events : List HostEvent}
    (hnames : ∀ planned ∈ plan, planned.container = containerName planned.call)
    (hpermitted : Permitted planNext (PlanPermits host ready) { rest := plan } events)
    (howed : (events.foldl planNext { rest := plan }).owed = none) : PlanFollowed host plan ready events where
  permitted := hpermitted
  order := (onPlan_run onPlan_start events).order
  removed := by
    rintro before call result later name rfl hname htimed
    obtain ⟨_,hcall,hlater⟩ := Traced.permitted_append.mp hpermitted
    have hdue := owed_after_timeout (onPlan_run onPlan_start before) hnames hcall hname htimed
    rw [List.foldl_append,List.foldl_cons] at howed
    cases later with
    | nil => exact absurd (hdue.symm.trans howed) (Option.some_ne_none name)
    | cons event rest =>
      have hevent := hlater.1
      cases event with
      | process call' outcome =>
        rw [PlanPermits,hdue] at hevent
        obtain rfl : call' = removalCall host name := hevent
        exact ⟨outcome,rest,rfl⟩
      | workspaceCreated _ => exact absurd (hdue.symm.trans hevent) (Option.some_ne_none name)
      | directoriesMade _ => exact absurd (hdue.symm.trans hevent) (Option.some_ne_none name)
      | written _ _ _ => exact absurd (hdue.symm.trans hevent) (Option.some_ne_none name)
      | unlinked _ => exact absurd (hdue.symm.trans hevent) (Option.some_ne_none name)
      | workspaceRemoved _ => exact absurd (hdue.symm.trans hevent) (Option.some_ne_none name)

end plans

section runs

variable {host : Host} {secrets : List String} {request : SandboxExecutionRequest}

theorem dockerContainerName_ne (cloudRunId label : String) : dockerContainerName cloudRunId label ≠ "" := by
  intro h
  have hlists := congrArg String.toList h
  rw [dockerContainerName,String.toList_ofList] at hlists
  simp at hlists

theorem containerCall_name {image : String} (himage : validatedDockerImage request.dockerImage = some image)
    (label command : String) (timeoutSeconds : ℤ) :
    containerName (containerCall host request label command timeoutSeconds) =
      some (dockerContainerName request.cloudRunId label) := by
  rw [containerName,containerCall,buildDockerRunArgs,himage]
  simp [Option.filter,dockerContainerName_ne]

theorem planned_names {image : String} (himage : validatedDockerImage request.dockerImage = some image) :
    ∀ planned ∈ plannedCalls host secrets request, planned.container = containerName planned.call := by
  intro planned hplanned
  rcases List.mem_cons.mp hplanned with rfl | hplanned
  · exact (if_neg (by simp [plannedVersion,versionCall])).symm
  rcases List.mem_append.mp hplanned with hplanned | hplanned
  · obtain ⟨step,_,rfl⟩ := List.mem_map.mp hplanned
    exact (containerCall_name himage _ _ _).symm
  · obtain ⟨command,_,rfl⟩ := List.mem_map.mp hplanned
    exact (containerCall_name himage _ _ _).symm

theorem refusal_reason [UrlText] {reason : String} (h : refusal request = some reason) : reason ≠ "test_failed" := by
  rw [refusal] at h
  split at h
  · obtain rfl := Option.some.inj h
    decide
  split at h
  · obtain rfl := Option.some.inj h
    decide
  split at h
  · obtain rfl := Option.some.inj h
    decide
  · cases h

variable (host request) in
theorem follows_run [UrlText] (hadmitted : refusal request = none) :
    Guards planNext (PlanPermits host (Ready (requestSecrets request) (admitted request)))
      (planStart host (requestSecrets request) (admitted request)) (run host request)
      (Answered host (requestSecrets request) (admitted request)) fun s => s.owed = none ∧
        (s.raised = true ∨ Concluded host (requestSecrets request) (admitted request) s.launched) := by
  rw [run,hadmitted]
  obtain ⟨image,himage⟩ := admitted_image hadmitted
  have hcreate : Follows host (Ready (requestSecrets request) (admitted request))
      (planStart host (requestSecrets request) (admitted request)) (createWorkspace host)
      fun _ s => s = planStart host (requestSecrets request) (admitted request) :=
    follows_act rfl (fun _ _ _ he => by cases he) fun _ => rfl
  refine (hcreate.imp (fun _ _ hs => hs) fun _ hs => ⟨hs.1,.inl hs.2⟩).bind ?_
  rintro _ s rfl
  have hlast (s : PlanState) (removed : Bool) : planNext s (.workspaceRemoved removed) = s :=
    planNext_quiet rfl fun _ _ he => by cases he
  refine (follows_workspace himage).closedBy (fun result s _ h => ?_) fun s _ h => ?_
  · rw [hlast]
    exact ⟨h.unowed,h,h.unowed,.inr h.concluded⟩
  · rw [hlast]
    exact ⟨h.1,h.1,.inl h.2⟩

variable [UrlText]

theorem run_ends (host : Host) (history : List HostEvent) (hadmitted : refusal request = none) :
    ((run host request history).2.foldl planNext
      (planStart host (requestSecrets request) (admitted request))).owed = none ∧
      ((∃ event ∈ (run host request history).2, event.raises = true) ∨
        Concluded host (requestSecrets request) (admitted request) ((run host request history).2.foldl planNext
          (planStart host (requestSecrets request) (admitted request))).launched) := by
  obtain ⟨_,hends⟩ := follows_run host request hadmitted history
  cases hresult : (run host request history).1 with
  | none =>
    rw [hresult] at hends
    refine ⟨hends.1,hends.2.imp_left fun hraised => ?_⟩
    rw [raised_run] at hraised
    simpa [planStart] using hraised
  | some result =>
    rw [hresult] at hends
    exact ⟨hends.unowed,.inr hends.concluded⟩

theorem plan_followed (host : Host) (request : SandboxExecutionRequest) (history : List HostEvent) :
    PlanFollowed host (plannedCalls host (requestSecrets request) (admitted request))
      (Ready (requestSecrets request) (admitted request)) (run host request history).2 ∧
    (refusal request ≠ none ∧ (run host request history).2 = [] ∨
      (∃ event ∈ (run host request history).2, event.raises = true) ∨
      Concluded host (requestSecrets request) (admitted request) ((run host request history).2.foldl planNext
        (planStart host (requestSecrets request) (admitted request))).launched) := by
  by_cases hrefusal : refusal request = none
  · obtain ⟨image,himage⟩ := admitted_image hrefusal
    obtain ⟨howed,hends⟩ := run_ends host history hrefusal
    exact ⟨followed_of_permitted (planned_names himage) (follows_run host request hrefusal history).1 howed,
      .inr hends⟩
  · have hnone : (run host request history).2 = [] := refused_without_events hrefusal
    rw [hnone]
    exact ⟨⟨trivial,List.nil_prefix,fun before call result later name h => absurd h (by simp)⟩,.inl ⟨hrefusal,rfl⟩⟩

theorem patch_verdict {history events : List HostEvent} {result : SandboxExecutionResult}
    (h : run host request history = (some result,events)) :
    PatchVerdict host (requestSecrets request) (admitted request)
      (events.foldl planNext (planStart host (requestSecrets request) (admitted request))).launched result := by
  cases hrefusal : refusal request with
  | none =>
    obtain ⟨_,hends⟩ := follows_run host request hrefusal history
    rw [h] at hends
    exact hends.verdict
  | some reason =>
    rw [run,hrefusal] at h
    obtain ⟨hresult,rfl⟩ := Prod.mk.inj h
    obtain rfl := Option.some.inj hresult
    refine verdict_failed (refusal_reason hrefusal) (fun hproduces => ?_) rfl
    exact absurd hproduces.calls (by simp [plannedCalls,planStart])

end runs

theorem sample_patch_verdict :
    let _ := Github.asciiUrls
    ∃ result events, run sampleHost sampleRequest [] = (some result,events) ∧
      result.failureReason = some "test_failed" ∧
      PatchVerdict sampleHost (requestSecrets sampleRequest) (admitted sampleRequest)
        (events.foldl planNext
          (planStart sampleHost (requestSecrets sampleRequest) (admitted sampleRequest))).launched result := by
  intro _
  have hreason : (run sampleHost sampleRequest []).1.map SandboxExecutionResult.failureReason =
      some (some "test_failed") := by decide +kernel
  obtain ⟨answer,events,hrun⟩ : ∃ answer events, run sampleHost sampleRequest [] = (answer,events) := ⟨_,_,rfl⟩
  rw [hrun] at hreason
  obtain ⟨result,rfl,hfound⟩ := Option.map_eq_some_iff.mp hreason
  exact ⟨result,events,hrun,hfound,patch_verdict hrun⟩

end AiScdc.DockerSandbox
