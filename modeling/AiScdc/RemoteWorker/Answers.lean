import AiScdc.RemoteWorker.Course

namespace AiScdc.RemoteWorker

-- The answers to the heartbeats before the completion, and what the client is sent.
structure WorkerRun where
  heartbeats : List (Option Bool)
  report : WorkerReport

section runs

variable (client : WorkerClient) (runner : Step Execution) (config : RemoteWorkerConfig)

-- The heartbeat that run_once makes after the runner.
def lastAnswers (execution : Execution) (progress : WorkerProgress) : List (Option Bool) :=
  if execution.failureReason = some "cancelled" then [] else [client.heartbeat progress.heartbeats]

-- run_once with any command runner.
def runOnceWith (payload : WorkerPayload) : WorkerRun :=
  let secrets := payloadSecrets payload config.callbackToken
  let complete := fun execution => completeExecution client config execution secrets
  if !client.leases then ⟨[],{}⟩
  else match client.heartbeat 0 with
    | none => ⟨[none],{}⟩
    | some true => ⟨[some true],complete (failedExecution "cancelled")⟩
    | some false =>
      match client.checkout with
      | .runtimeError message => ⟨[some false],complete (failedExecution (checkoutFailure message))⟩
      | .raised => ⟨[some false],complete (failedExecution "worker_execution_failed")⟩
      | .ok =>
        match client.heartbeat 1 with
        | none => ⟨[some false,none],{}⟩
        | some true => ⟨[some false,some true],complete (failedExecution "cancelled")⟩
        | some false =>
          match runner { heartbeats := 2 } with
          | (none,progress) => ⟨[some false,some false] ++ answers progress.events,
            complete (failedExecution "worker_execution_failed")⟩
          | (some execution,progress) => ⟨[some false,some false] ++ answers progress.events ++
              lastAnswers client execution progress,
            concludeRun client config execution secrets progress⟩

-- The calls that run_once makes itself.
structure DirectCallsSucceed : Prop where
  leases : client.leases = true
  first : (client.heartbeat 0).isSome
  second : client.heartbeat 0 = some false → client.checkout = .ok → (client.heartbeat 1).isSome
  last : client.heartbeat 0 = some false → client.checkout = .ok → client.heartbeat 1 = some false →
    ∀ execution progress, runner { heartbeats := 2 } = (some execution,progress) →
      execution.failureReason ≠ some "cancelled" → (client.heartbeat progress.heartbeats).isSome

end runs

def UploadRaised (client : WorkerClient) (report : WorkerReport) : Prop :=
  ∃ n < report.uploads.length, client.upload n = none

instance (client : WorkerClient) (report : WorkerReport) : Decidable (UploadRaised client report) :=
  inferInstanceAs (Decidable (∃ n < report.uploads.length, client.upload n = none))

section completions

variable {client : WorkerClient} {config : RemoteWorkerConfig} {secrets : List String} {execution : Execution}

variable (client) in
theorem uploadEach_raised (first : ℕ) (uploads : List ArtifactUpload) :
    (uploadEach client first uploads).artifactRefs = none ↔
      ∃ n < (uploadEach client first uploads).attempted.length, client.upload (first + n) = none := by
  induction uploads generalizing first with
  | nil => simp [uploadEach]
  | cons upload rest ih =>
    rw [uploadEach]
    split
    · next hraised => simpa using hraised
    · next ref haccepted =>
      simp only [Option.map_eq_none_iff,ih,List.length_cons]
      constructor
      · rintro ⟨n,hn,hraised⟩
        exact ⟨n + 1,by omega,by rwa [show first + (n + 1) = first + 1 + n by omega]⟩
      · rintro ⟨n,hn,hraised⟩
        cases n with
        | zero =>
          rw [Nat.add_zero,haccepted] at hraised
          cases hraised
        | succ n => exact ⟨n,by omega,by rwa [show first + 1 + n = first + (n + 1) by omega]⟩

theorem uploadEach_attempts {artifactRefs : List String} (first : ℕ) (uploads : List ArtifactUpload)
    (h : (uploadEach client first uploads).artifactRefs = some artifactRefs) :
    (uploadEach client first uploads).attempted = uploads := by
  induction uploads generalizing first artifactRefs with
  | nil => rfl
  | cons upload rest ih =>
    rw [uploadEach] at h ⊢
    split at h
    · cases h
    · obtain ⟨later,hlater,_⟩ := Option.map_eq_some_iff.mp h
      exact congrArg (upload :: ·) (ih (first + 1) hlater)

theorem uploadArtifacts_raised : (uploadArtifacts client config execution secrets).artifactRefs = none ↔
    ∃ n < (uploadArtifacts client config execution secrets).attempted.length, client.upload n = none := by
  have hfirst := uploadEach_raised client 0 (firstUploads secrets execution)
  simp only [Nat.zero_add] at hfirst
  rw [uploadArtifacts]
  split
  · next hraised =>
    rw [← hfirst]
  · next artifactRefs haccepted =>
    have hattempted := uploadEach_attempts 0 _ haccepted
    have hlength : (firstUploads secrets execution).length = 4 := rfl
    simp only [Option.map_eq_none_iff,hattempted,List.length_append,hlength,List.length_singleton]
    rw [haccepted,hattempted,hlength] at hfirst
    constructor
    · intro hraised
      exact ⟨4,by omega,hraised⟩
    · rintro ⟨n,hn,hraised⟩
      by_cases h4 : n = 4
      · rwa [h4] at hraised
      · cases hfirst.mpr ⟨n,by omega,hraised⟩

theorem completeExecution_uploads :
    (completeExecution client config execution secrets).uploads =
      (uploadArtifacts client config execution secrets).attempted := by
  rw [completeExecution]
  split
  · rfl
  · rfl

-- The completion reports the execution, or that an upload raised.
variable (client config secrets execution) in
theorem completeExecution_completions : ∃ artifactRefs,
    (completeExecution client config execution secrets).completions =
      [completionPayload secrets
        (if UploadRaised client (completeExecution client config execution secrets)
          then failedExecution "artifact_upload_failed" else execution) artifactRefs] := by
  have hraised : UploadRaised client (completeExecution client config execution secrets) ↔
      (uploadArtifacts client config execution secrets).artifactRefs = none := by
    rw [UploadRaised,completeExecution_uploads]
    exact uploadArtifacts_raised.symm
  simp only [hraised]
  cases hrefs : (uploadArtifacts client config execution secrets).artifactRefs with
  | none => exact ⟨[],by simp only [completeExecution,hrefs]; rfl⟩
  | some artifactRefs => exact ⟨artifactRefs,by simp only [completeExecution,hrefs]; rfl⟩

end completions

section answered

variable {client : WorkerClient} {runner : Step Execution} {config : RemoteWorkerConfig}
  {payload : WorkerPayload}

theorem runOnceWith_report (client : WorkerClient) (process : ℕ → ProcessOutcome) (config : RemoteWorkerConfig)
    (payload : WorkerPayload) :
    (runOnceWith client (runCommands client process payload) config payload).report =
      runOnce client process config payload := by
  rw [runOnceWith,runOnce]
  split
  · rfl
  cases client.heartbeat 0 with
  | none => rfl
  | some b =>
    cases b with
    | true => rfl
    | false =>
      cases client.checkout with
      | runtimeError message => rfl
      | raised => rfl
      | ok =>
        rw [runAfterCheckout]
        cases client.heartbeat 1 with
        | none => rfl
        | some b =>
          cases b with
          | true => rfl
          | false =>
            obtain ⟨result,progress⟩ := runCommands client process payload { heartbeats := 2 }
            cases result with
            | none => rfl
            | some execution => rfl

-- How the run went on, where it answers.
inductive Concluded (client : WorkerClient) (runner : Step Execution) (config : RemoteWorkerConfig)
    (payload : WorkerPayload) : WorkerRun → Prop
  | early (heartbeats : List (Option Bool)) (failureReason : String)
      (h : some true ∈ heartbeats → failureReason = "cancelled") :
      Concluded client runner config payload ⟨heartbeats,
        completeExecution client config (failedExecution failureReason)
          (payloadSecrets payload config.callbackToken)⟩
  | raised (progress : WorkerProgress) (h : runner { heartbeats := 2 } = (none,progress)) :
      Concluded client runner config payload ⟨[some false,some false] ++ answers progress.events,
        completeExecution client config (failedExecution "worker_execution_failed")
          (payloadSecrets payload config.callbackToken)⟩
  | cancelled (progress : WorkerProgress) (execution : Execution)
      (h : runner { heartbeats := 2 } = (some execution,progress))
      (hc : execution.failureReason = some "cancelled") :
      Concluded client runner config payload ⟨[some false,some false] ++ answers progress.events,
        completeExecution client config execution (payloadSecrets payload config.callbackToken)⟩
  | polled (progress : WorkerProgress) (execution : Execution) (cancelRequested : Bool)
      (h : runner { heartbeats := 2 } = (some execution,progress))
      (hc : execution.failureReason ≠ some "cancelled") :
      Concluded client runner config payload
        ⟨[some false,some false] ++ answers progress.events ++ [some cancelRequested],
          completeExecution client config (if cancelRequested then cancelExecution execution else execution)
            (payloadSecrets payload config.callbackToken)⟩

theorem concluded (h : DirectCallsSucceed client runner) :
    Concluded client runner config payload (runOnceWith client runner config payload) := by
  rw [runOnceWith,h.leases]
  obtain ⟨b,hb⟩ := Option.isSome_iff_exists.mp h.first
  simp only [Bool.not_true,Bool.false_eq_true,if_false,hb]
  cases b with
  | true => exact .early [some true] "cancelled" fun _ => rfl
  | false =>
    cases hcheckout : client.checkout with
    | runtimeError message => exact .early [some false] _ fun hm => by simp at hm
    | raised => exact .early [some false] _ fun hm => by simp at hm
    | ok =>
      obtain ⟨b,hb'⟩ := Option.isSome_iff_exists.mp (h.second hb hcheckout)
      simp only [hb']
      cases b with
      | true => exact .early [some false,some true] "cancelled" fun _ => rfl
      | false =>
        cases hrun : runner { heartbeats := 2 } with
        | mk result progress =>
          cases result with
          | none => exact .raised progress hrun
          | some execution =>
            simp only [concludeRun,lastAnswers]
            by_cases hc : execution.failureReason = some "cancelled"
            · rw [if_pos hc,if_pos hc,List.append_nil]
              exact .cancelled progress execution hrun hc
            · obtain ⟨cancelRequested,hlast⟩ :=
                Option.isSome_iff_exists.mp (h.last hb hcheckout hb' execution progress hrun hc)
              rw [if_neg hc,if_neg hc,hlast]
              exact .polled progress execution cancelRequested hrun hc

theorem mem_answers {events : List WorkerEvent} (h : some true ∈ answers events) : cancelAnswer ∈ events := by
  obtain ⟨event,hevent,hanswer⟩ := List.mem_filterMap.mp h
  cases event with
  | heartbeat answer =>
    obtain rfl := Option.some.inj hanswer
    exact hevent
  | process => cases hanswer

theorem mem_heartbeats {events : List WorkerEvent} (h : some true ∈ [some false,some false] ++ answers events) :
    cancelAnswer ∈ events := by
  rcases List.mem_append.mp h with h | h
  · simp at h
  · exact mem_answers h

theorem runCommands_status {process : ℕ → ProcessOutcome} {s s' : WorkerProgress} {execution : Execution}
    (h : runCommands client process payload s = (some execution,s')) :
    execution.status = if execution.failureReason = none then "patch_ready" else "failed" := by
  obtain ⟨draft,s1,_,h⟩ := Step.bind_eq_some h
  split at h
  · obtain rfl := Option.some.inj (Prod.mk.inj h).1
    rfl
  · obtain ⟨tests,s2,_,h⟩ := Step.bind_eq_some h
    obtain rfl := Option.some.inj (Prod.mk.inj h).1
    rfl

-- A run that was told to cancel ends in a cancelled execution.
theorem runCommands_cancelled {process : ℕ → ProcessOutcome} {n : ℕ} {result : Option Execution}
    {progress : WorkerProgress} (h : runCommands client process payload { heartbeats := n } = (result,progress))
    (hcancel : cancelAnswer ∈ progress.events) : ∃ execution, result = some execution ∧ execution.isCancelled := by
  obtain ⟨events,hevents,hquiet⟩ := heeds_runCommands client process payload { heartbeats := n }
  rw [h] at hevents hquiet
  rcases hquiet with hquiet | ⟨_,execution,_,_,hresult,hcancelled⟩
  · rw [hevents] at hcancel
    exact (hquiet hcancel).elim
  · exact ⟨execution,hresult,hcancelled⟩

def cancelReason (client : WorkerClient) (report : WorkerReport) : String :=
  if UploadRaised client report then "artifact_upload_failed" else "cancelled"

def ReportsCancel (client : WorkerClient) (report : WorkerReport) (reason : String → String) : Prop :=
  ∀ completion ∈ report.completions,
    completion.status = "failed" ∧ completion.failureReason = some (reason (cancelReason client report))

theorem reportsCancel_complete {secrets : List String} {execution : Execution} (h : execution.isCancelled) :
    ReportsCancel client (completeExecution client config execution secrets) fun text =>
      redactText text secrets := by
  obtain ⟨artifactRefs,hcompletions⟩ := completeExecution_completions client config secrets execution
  intro completion hmem
  rw [hcompletions] at hmem
  obtain rfl := List.mem_singleton.mp hmem
  rw [cancelReason]
  split
  · exact ⟨rfl,rfl⟩
  · exact ⟨h.1,congrArg (redactedOptionalText secrets) h.2⟩

theorem cancelled_failedExecution : (failedExecution "cancelled").isCancelled := ⟨rfl,rfl⟩

theorem reportsCancel_run {process : ℕ → ProcessOutcome} {run : WorkerRun}
    (h : Concluded client (runCommands client process payload) config payload run)
    (hcancel : some true ∈ run.heartbeats) :
    ReportsCancel client run.report fun text => redactText text (payloadSecrets payload config.callbackToken) := by
  cases h with
  | early heartbeats failureReason hreason =>
    rw [hreason hcancel]
    exact reportsCancel_complete cancelled_failedExecution
  | raised progress hrun =>
    obtain ⟨_,hnone,_⟩ := runCommands_cancelled hrun (mem_heartbeats hcancel)
    cases hnone
  | cancelled progress execution hrun hc =>
    apply reportsCancel_complete
    refine ⟨?_,hc⟩
    rw [runCommands_status hrun,hc]
    rfl
  | polled progress execution cancelRequested hrun hc =>
    rcases List.mem_append.mp hcancel with hcancel | hcancel
    · obtain ⟨execution',hexecution,hcancelled⟩ := runCommands_cancelled hrun (mem_heartbeats hcancel)
      obtain rfl := Option.some.inj hexecution
      exact (hc hcancelled.2).elim
    · obtain rfl : true = cancelRequested := by simpa using hcancel
      exact reportsCancel_complete ⟨rfl,rfl⟩

def Absent (secrets : List String) (text : String) : Prop :=
  ∀ secret ∈ secrets, secret ≠ "" → ¬ secret.toList <:+: text.toList

theorem redactText_absent {text : String} {secrets : List String} (h : Absent secrets text) :
    redactText text secrets = text := by
  have heq : redactText text secrets =
      String.ofList (AiScdc.redactText text.toList (secrets.map String.toList)) := rfl
  rw [heq,redactText_each,replaceEach_unchanged,String.ofList_toList]
  intro secret hmem
  obtain ⟨hmem,hne⟩ := mem_longestFirst.mp hmem
  obtain ⟨secret,hsecret,rfl⟩ := List.mem_map.mp hmem
  exact h secret hsecret (by simpa using hne)

theorem Concluded.completes {run : WorkerRun} (h : Concluded client runner config payload run) :
    ∃ completion, run.report.completions = [completion] := by
  cases h with
  | early => exact (completeExecution_completions _ _ _ _).imp' _ fun _ hcompletions => hcompletions
  | raised => exact (completeExecution_completions _ _ _ _).imp' _ fun _ hcompletions => hcompletions
  | cancelled => exact (completeExecution_completions _ _ _ _).imp' _ fun _ hcompletions => hcompletions
  | polled => exact (completeExecution_completions _ _ _ _).imp' _ fun _ hcompletions => hcompletions

theorem worker_answers_once (h : DirectCallsSucceed client runner) :
    (∃ completion, (runOnceWith client runner config payload).report.completions = [completion]) ∧
    ∀ process, runner = runCommands client process payload →
      some true ∈ (runOnceWith client runner config payload).heartbeats →
      ReportsCancel client (runOnceWith client runner config payload).report (fun text =>
        redactText text (payloadSecrets payload config.callbackToken)) ∧
      (Absent (payloadSecrets payload config.callbackToken)
          (cancelReason client (runOnceWith client runner config payload).report) →
        ReportsCancel client (runOnceWith client runner config payload).report id) := by
  have hconcluded : Concluded client runner config payload (runOnceWith client runner config payload) :=
    concluded h
  refine ⟨hconcluded.completes,?_⟩
  rintro process rfl hcancel
  have hreports := reportsCancel_run hconcluded hcancel
  refine ⟨hreports,fun habsent completion hmem => ?_⟩
  obtain ⟨hstatus,hreason⟩ := hreports completion hmem
  exact ⟨hstatus,hreason.trans (congrArg some (redactText_absent habsent))⟩

end answered

-- The cancellation is asked for while the runner works.
def cancellingClient : WorkerClient where
  leases := true
  heartbeat := fun n => some (n = 2)
  checkout := .ok
  upload := fun _ => some "ref"

theorem cancellingClient_succeeds (runner : Step Execution) : DirectCallsSucceed cancellingClient runner where
  leases := rfl
  first := rfl
  second _ _ := rfl
  last _ _ _ _ _ _ _ := rfl

def cancelledRun (payload : WorkerPayload) : WorkerRun :=
  runOnceWith cancellingClient (runCommands cancellingClient chattyProcess payload)
    ⟨"run_1","worker_1","callback"⟩ payload

theorem worker_answers_once_cancelled :
    (cancelledRun samplePayload).report =
        runOnce cancellingClient chattyProcess ⟨"run_1","worker_1","callback"⟩ samplePayload ∧
      some true ∈ (cancelledRun samplePayload).heartbeats ∧
      ReportsCancel cancellingClient (cancelledRun samplePayload).report id := by
  have hcancel : some true ∈ (cancelledRun samplePayload).heartbeats := by decide +kernel
  have hreason : cancelReason cancellingClient (cancelledRun samplePayload).report = "cancelled" := by
    decide +kernel
  refine ⟨runOnceWith_report _ _ _ _,hcancel,((worker_answers_once (cancellingClient_succeeds _)).2 chattyProcess rfl hcancel).2 ?_⟩
  change Absent _ (cancelReason cancellingClient (cancelledRun samplePayload).report)
  rw [hreason]
  intro secret hsecret _
  have hsecrets : payloadSecrets samplePayload "callback" = ["ghs_clone","callback","sk-live"] := rfl
  simp only [hsecrets,List.mem_cons,List.not_mem_nil,or_false] at hsecret
  rcases hsecret with rfl | rfl | rfl <;> decide

def stagedPayload : WorkerPayload := { samplePayload with env := [("STAGE",.value true "cancel")] }

theorem cancel_reason_redacted :
    DirectCallsSucceed cancellingClient (runCommands cancellingClient chattyProcess stagedPayload) ∧
      some true ∈ (cancelledRun stagedPayload).heartbeats ∧
      ¬ ReportsCancel cancellingClient (cancelledRun stagedPayload).report id := by
  refine ⟨cancellingClient_succeeds _,by decide +kernel,fun h => ?_⟩
  have hreasons : (cancelledRun stagedPayload).report.completions.map CompletionPayload.failureReason =
      [some "[redacted]led"] := by decide +kernel
  have hreason : cancelReason cancellingClient (cancelledRun stagedPayload).report = "cancelled" := by
    decide +kernel
  obtain ⟨completion,hcompletions,hfailure⟩ := List.map_eq_singleton_iff.mp hreasons
  have hreported := (h completion (by rw [hcompletions]; exact List.mem_singleton_self _)).2
  rw [hfailure,hreason] at hreported
  exact absurd hreported (by decide)

end AiScdc.RemoteWorker
