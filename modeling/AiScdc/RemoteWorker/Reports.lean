import AiScdc.RemoteWorker.Executor

namespace AiScdc.RemoteWorker

def RemoteProcessResult.texts (result : RemoteProcessResult) : List String :=
  [result.command,result.stdout,result.stderr]

-- The texts that come from a process, a command or an error.
def CompletionPayload.reported (completion : CompletionPayload) : List String :=
  completion.baseSha.toList ++ completion.headSha.toList ++ completion.filesChanged ++
    completion.testsRun ++ completion.risks ++
    (completion.commandResults ++ completion.testCommandResults).flatMap RemoteProcessResult.texts

def UploadContent.reported : UploadContent → List String
  | .text content => [content]
  | .results content => content.flatMap RemoteProcessResult.texts
  | .manifest _ _ _ _ => []

def WorkerReport.reported (report : WorkerReport) : List String :=
  report.uploads.flatMap (fun upload => upload.content.reported) ++
    report.completions.flatMap CompletionPayload.reported

def Clean (secrets : List String) (text : String) : Prop :=
  ∀ s ∈ secrets, Redactable s.toList → ¬ s.toList <:+: text.toList

def ReportsNoSecret (secrets : List String) (report : WorkerReport) : Prop :=
  ∀ text ∈ report.reported, Clean secrets text

section redaction

variable {secrets : List String}

theorem clean_redactText (text : String) : Clean secrets (redactText text secrets) := by
  intro s hs hr
  have h : ¬ s.toList <:+: AiScdc.redactText text.toList (secrets.map String.toList) :=
    hr.not_infix_redactText (List.mem_map_of_mem hs)
  have heq : (redactText text secrets).toList =
      AiScdc.redactText text.toList (secrets.map String.toList) := String.toList_ofList
  rw [heq]
  exact h

theorem clean_redactedResults (results : List RemoteProcessResult) :
    ∀ text ∈ (results.map (redactedCommandResult secrets)).flatMap RemoteProcessResult.texts,
      Clean secrets text := by
  intro text ht
  obtain ⟨_,hresult,htext⟩ := List.mem_flatMap.mp ht
  obtain ⟨result,_,rfl⟩ := List.mem_map.mp hresult
  simp only [RemoteProcessResult.texts,redactedCommandResult,List.mem_cons,List.not_mem_nil,
    or_false] at htext
  rcases htext with rfl | rfl | rfl
  · exact clean_redactText _
  · exact clean_redactText _
  · exact clean_redactText _

theorem clean_redactedList (values : List String) :
    ∀ text ∈ redactedStringList secrets values, Clean secrets text := by
  intro text ht
  obtain ⟨value,_,rfl⟩ := List.mem_map.mp ht
  exact clean_redactText value

theorem clean_firstUploads (execution : Execution) :
    ∀ upload ∈ firstUploads secrets execution, ∀ text ∈ upload.content.reported, Clean secrets text := by
  intro upload hu text ht
  simp only [firstUploads,List.mem_cons,List.not_mem_nil,or_false] at hu
  rcases hu with rfl | rfl | rfl | rfl
  · rw [List.mem_singleton.mp ht]
    exact clean_redactText _
  · exact clean_redactedResults _ text ht
  · exact clean_redactedResults _ text ht
  · rw [List.mem_singleton.mp ht]
    exact clean_redactText _

def Execution.shas (execution : Execution) : List String :=
  execution.baseSha.toList ++ execution.headSha.toList

theorem reported_completion (execution : Execution) (artifactRefs : List String) :
    (∀ text ∈ (completionPayload secrets execution artifactRefs).reported, Clean secrets text) ↔
      ∀ text ∈ execution.shas, Clean secrets text := by
  simp only [CompletionPayload.reported,completionPayload,List.flatMap_append,List.mem_append,or_imp,
    forall_and,Execution.shas]
  constructor
  · intro h
    exact h.1.1.1.1
  · intro h
    exact ⟨⟨⟨⟨h,clean_redactedList _⟩,clean_redactedList _⟩,clean_redactedList _⟩,
      clean_redactedResults _,clean_redactedResults _⟩

end redaction

section uploads

variable {client : WorkerClient} {config : RemoteWorkerConfig} {secrets : List String}

theorem uploadEach_attempted (client : WorkerClient) (first : ℕ) (uploads : List ArtifactUpload) :
    (uploadEach client first uploads).attempted <+: uploads := by
  induction uploads generalizing first with
  | nil => exact List.prefix_refl []
  | cons upload rest ih =>
    rw [uploadEach]
    split
    · exact List.cons_prefix_cons.mpr ⟨rfl,List.nil_prefix⟩
    · exact List.cons_prefix_cons.mpr ⟨rfl,ih (first + 1)⟩

theorem clean_uploadArtifacts (client : WorkerClient) (config : RemoteWorkerConfig) (secrets : List String)
    (execution : Execution) :
    ∀ upload ∈ (uploadArtifacts client config execution secrets).attempted,
      ∀ text ∈ upload.content.reported, Clean secrets text := by
  intro upload hu
  have hfirst := (uploadEach_attempted client 0 (firstUploads secrets execution)).subset
  rw [uploadArtifacts] at hu
  split at hu
  · exact clean_firstUploads execution upload (hfirst hu)
  · rcases List.mem_append.mp hu with hu | hu
    · exact clean_firstUploads execution upload (hfirst hu)
    · rw [List.mem_singleton.mp hu]
      intro text ht
      cases ht

theorem clean_completeExecution {execution : Execution} (h : ∀ text ∈ execution.shas, Clean secrets text) :
    ReportsNoSecret secrets (completeExecution client config execution secrets) := by
  have huploads := clean_uploadArtifacts client config secrets execution
  intro text ht
  rw [completeExecution] at ht
  split at ht
  · rcases List.mem_append.mp ht with ht | ht
    · obtain ⟨upload,hu,ht⟩ := List.mem_flatMap.mp ht
      exact huploads upload hu text ht
    · rw [List.flatMap_singleton] at ht
      exact (reported_completion execution _).mpr h text ht
  · rcases List.mem_append.mp ht with ht | ht
    · obtain ⟨upload,hu,ht⟩ := List.mem_flatMap.mp ht
      exact huploads upload hu text ht
    · rw [List.flatMap_singleton] at ht
      apply (reported_completion (failedExecution "artifact_upload_failed") []).mpr _ text ht
      intro sha hs
      cases hs

theorem uploadEach_accepted (hupload : ∀ n, (client.upload n).isSome) (first : ℕ)
    (uploads : List ArtifactUpload) :
    ∃ artifactRefs, (uploadEach client first uploads).artifactRefs = some artifactRefs := by
  induction uploads generalizing first with
  | nil => exact ⟨[],rfl⟩
  | cons upload rest ih =>
    obtain ⟨ref,href⟩ := Option.isSome_iff_exists.mp (hupload first)
    obtain ⟨refs,hrefs⟩ := ih (first + 1)
    exact ⟨ref :: refs,by simp [uploadEach,href,hrefs]⟩

theorem uploadArtifacts_accepted (config : RemoteWorkerConfig) (secrets : List String)
    (hupload : ∀ n, (client.upload n).isSome) (execution : Execution) :
    ∃ artifactRefs,
      (uploadArtifacts client config execution secrets).artifactRefs = some artifactRefs := by
  obtain ⟨refs,hrefs⟩ := uploadEach_accepted hupload 0 (firstUploads secrets execution)
  obtain ⟨ref,href⟩ := Option.isSome_iff_exists.mp (hupload 4)
  exact ⟨refs ++ [ref],by simp [uploadArtifacts,hrefs,href]⟩

theorem shas_clean_of_complete {execution : Execution} (hupload : ∀ n, (client.upload n).isSome)
    (h : ReportsNoSecret secrets (completeExecution client config execution secrets)) :
    ∀ text ∈ execution.shas, Clean secrets text := by
  obtain ⟨refs,hrefs⟩ := uploadArtifacts_accepted config secrets hupload execution
  apply (reported_completion execution refs).mp
  intro text ht
  apply h text
  simp only [completeExecution,hrefs,WorkerReport.reported]
  apply List.mem_append_right
  rw [List.flatMap_singleton]
  exact ht

end uploads

section runs

variable {client : WorkerClient} {process : ℕ → ProcessOutcome} {payload : WorkerPayload}
variable {s s' : WorkerProgress}

def ProcessOutcome.succeeded : ProcessOutcome → Bool
  | .completed exitCode _ _ _ => exitCode = 0
  | _ => false

def ProcessOutcome.stdout : ProcessOutcome → String
  | .completed _ stdout _ _ => stdout
  | .timedOut stdout _ _ => stdout
  | .raised => ""

-- The patch command is the first process, the capture commands are the next five.
def CapturesSucceed (process : ℕ → ProcessOutcome) (payload : WorkerPayload) : Prop :=
  commandText payload.patchCommand ≠ "" ∧ ∀ n < 6, (process n).succeeded

def capturedShas (process : ℕ → ProcessOutcome) : List String :=
  (nonEmpty (strippedText (process 4).stdout)).toList ++ (nonEmpty (strippedText (process 5).stdout)).toList

theorem heartbeat_some {b : Bool} (h : heartbeat client s = (some b,s')) : s'.processes = s.processes := by
  obtain ⟨_,rfl⟩ := Prod.mk.inj h
  rfl

theorem runShell_some {command : String} {result : RemoteProcessResult}
    (h : runShell process command s = (some result,s')) :
    s'.processes = s.processes + 1 ∧ result.stdout = (process s.processes).stdout ∧
      (result.failed = false → (process s.processes).succeeded) := by
  obtain ⟨hresult,rfl⟩ := Prod.mk.inj h
  refine ⟨rfl,?_⟩
  cases hp : process s.processes with
  | completed exitCode stdout stderr durationMs =>
    rw [hp] at hresult
    obtain rfl := Option.some.inj hresult
    refine ⟨rfl,?_⟩
    intro hf
    simpa [RemoteProcessResult.failed,ProcessOutcome.succeeded] using hf
  | timedOut stdout stderr durationMs =>
    rw [hp] at hresult
    obtain rfl := Option.some.inj hresult
    exact ⟨rfl,fun hf => by cases hf⟩
  | raised =>
    rw [hp] at hresult
    cases hresult

structure CapturedFrom (process : ℕ → ProcessOutcome) (first : ℕ) (captured : CapturedArtifacts) : Prop where
  baseSha : captured.baseSha.stdout = (process (first + 3)).stdout
  headSha : captured.headSha.stdout = (process (first + 4)).stdout
  succeeded : captured.results.any RemoteProcessResult.failed = false →
    ∀ n < 5, (process (first + n)).succeeded

theorem captureArtifacts_some {captured : CapturedArtifacts}
    (h : captureArtifacts process payload s = (some captured,s')) :
    CapturedFrom process s.processes captured := by
  obtain ⟨addIntent,s1,h1,h⟩ := Step.bind_eq_some h
  obtain ⟨diffNameOnly,s2,h2,h⟩ := Step.bind_eq_some h
  obtain ⟨diffText,s3,h3,h⟩ := Step.bind_eq_some h
  obtain ⟨baseSha,s4,h4,h⟩ := Step.bind_eq_some h
  obtain ⟨headSha,s5,h5,h⟩ := Step.bind_eq_some h
  obtain rfl := Option.some.inj (Prod.mk.inj h).1
  obtain ⟨hn1,_,hs1⟩ := runShell_some h1
  obtain ⟨hn2,_,hs2⟩ := runShell_some h2
  obtain ⟨hn3,_,hs3⟩ := runShell_some h3
  obtain ⟨hn4,hbase,hs4⟩ := runShell_some h4
  obtain ⟨hn5,hhead,hs5⟩ := runShell_some h5
  rw [hn1] at hn2 hs2
  rw [hn2] at hn3 hs3
  rw [hn3] at hn4 hbase hs4
  rw [hn4] at hhead hs5
  refine ⟨hbase,hhead,?_⟩
  intro hall n hn
  simp only [CapturedArtifacts.results,List.any_cons,List.any_nil,Bool.or_eq_false_iff] at hall
  obtain ⟨hf1,hf2,hf3,hf4,hf5,_⟩ := hall
  match n,hn with
  | 0,_ => exact hs1 hf1
  | 1,_ => exact hs2 hf2
  | 2,_ => exact hs3 hf3
  | 3,_ => exact hs4 hf4
  | 4,_ => exact hs5 hf5

def Draft.shas (draft : Draft) : List String := draft.baseSha.toList ++ draft.headSha.toList

theorem draftOf_shas (patch : RemoteProcessResult) (captured : CapturedArtifacts) :
    (draftOf payload patch captured).shas =
      if captured.results.any RemoteProcessResult.failed then []
      else (nonEmpty (strippedText captured.baseSha.stdout)).toList ++
        (nonEmpty (strippedText captured.headSha.stdout)).toList := by
  rw [draftOf]
  split
  · rfl
  · simp only
    split
    · simp only [Draft.shas]
    · split
      · simp only [Draft.shas]
      · simp only [Draft.shas]

theorem captureStage_shas {draft : Draft} (hfirst : s.processes = 0)
    (h : captureStage client process payload s = (some draft,s')) :
    draft.shas = [] ∨ CapturesSucceed process payload ∧ draft.shas = capturedShas process := by
  obtain ⟨cancelled,s1,hbeat,h⟩ := Step.bind_eq_some h
  have hn := (heartbeat_some hbeat).trans hfirst
  split at h
  · obtain rfl := Option.some.inj (Prod.mk.inj h).1
    exact .inl rfl
  · split at h
    · obtain rfl := Option.some.inj (Prod.mk.inj h).1
      exact .inl rfl
    · next hcommand =>
      obtain ⟨patch,s2,hpatch,h⟩ := Step.bind_eq_some h
      obtain ⟨hn2,_,hsucceeded⟩ := runShell_some hpatch
      rw [hn] at hn2 hsucceeded
      split at h
      · obtain rfl := Option.some.inj (Prod.mk.inj h).1
        exact .inl rfl
      · next hpatched =>
        obtain ⟨captured,s3,hcaptured,h⟩ := Step.bind_eq_some h
        obtain rfl := Option.some.inj (Prod.mk.inj h).1
        obtain ⟨hbase,hhead,hall⟩ := captureArtifacts_some hcaptured
        rw [hn2] at hbase hhead hall
        rw [draftOf_shas]
        split
        · exact .inl rfl
        · next hfailed =>
          right
          refine ⟨⟨hcommand,?_⟩,?_⟩
          · intro n hn
            cases n with
            | zero => exact hsucceeded (Bool.eq_false_iff.mpr hpatched)
            | succ n =>
              have hrest := hall (Bool.eq_false_iff.mpr hfailed) n (by omega)
              rwa [show 0 + 1 + n = n + 1 by omega] at hrest
          · rw [hbase,hhead]
            rfl

theorem runCommands_shas {execution : Execution} (hfirst : s.processes = 0)
    (h : runCommands client process payload s = (some execution,s')) :
    execution.shas = [] ∨ CapturesSucceed process payload ∧ execution.shas = capturedShas process := by
  obtain ⟨draft,s1,hdraft,h⟩ := Step.bind_eq_some h
  have hshas := captureStage_shas hfirst hdraft
  split at h
  · obtain rfl := Option.some.inj (Prod.mk.inj h).1
    exact hshas
  · obtain ⟨tests,s2,_,h⟩ := Step.bind_eq_some h
    obtain rfl := Option.some.inj (Prod.mk.inj h).1
    exact hshas

theorem runShell_succeeded (command : String) {n : ℕ} (hn : s.processes = n)
    (h : (process n).succeeded) :
    ∃ result s', runShell process command s = (some result,s') ∧
      s'.processes = n + 1 ∧ s'.heartbeats = s.heartbeats ∧ result.failed = false := by
  subst hn
  cases hp : process s.processes with
  | completed exitCode stdout stderr durationMs =>
    rw [hp] at h
    refine ⟨⟨command,some exitCode,stdout,stderr,durationMs,false⟩,(runShell process command s).2,
      Prod.ext ?_ rfl,rfl,rfl,?_⟩
    · simp only [runShell,hp,shellResult]
    · simpa [RemoteProcessResult.failed] using of_decide_eq_true h
  | timedOut stdout stderr durationMs =>
    rw [hp] at h
    cases h
  | raised =>
    rw [hp] at h
    cases h

theorem captureArtifacts_succeeded {first : ℕ} (hfirst : s.processes = first)
    (h : ∀ n < 5, (process (first + n)).succeeded) :
    ∃ captured s', captureArtifacts process payload s = (some captured,s') ∧
      s'.heartbeats = s.heartbeats ∧ captured.results.any RemoteProcessResult.failed = false := by
  obtain ⟨addIntent,s1,h1,hp1,hb1,hf1⟩ := runShell_succeeded "git add -N ." hfirst (h 0 (by decide))
  obtain ⟨diffNameOnly,s2,h2,hp2,hb2,hf2⟩ :=
    runShell_succeeded "git diff --name-only" hp1 (h 1 (by decide))
  obtain ⟨diffText,s3,h3,hp3,hb3,hf3⟩ :=
    runShell_succeeded "git diff --no-ext-diff" hp2 (h 2 (by decide))
  obtain ⟨baseSha,s4,h4,hp4,hb4,hf4⟩ :=
    runShell_succeeded ("git rev-parse " ++ baseRef payload) hp3 (h 3 (by decide))
  obtain ⟨headSha,s5,h5,hp5,hb5,hf5⟩ := runShell_succeeded "git rev-parse HEAD" hp4 (h 4 (by decide))
  refine ⟨⟨addIntent,diffNameOnly,diffText,baseSha,headSha⟩,s5,?_,?_,?_⟩
  · exact (Step.bind_of_some h1).trans ((Step.bind_of_some h2).trans ((Step.bind_of_some h3).trans
      ((Step.bind_of_some h4).trans (Step.bind_of_some h5))))
  · rw [hb5,hb4,hb3,hb2,hb1]
  · simp [CapturedArtifacts.results,hf1,hf2,hf3,hf4,hf5]

theorem heartbeat_answered {b : Bool} (h : client.heartbeat s.heartbeats = some b) :
    ∃ s', heartbeat client s = (some b,s') ∧ s'.heartbeats = s.heartbeats + 1 ∧
      s'.processes = s.processes :=
  ⟨(heartbeat client s).2,Prod.ext h rfl,rfl,rfl⟩

theorem captureStage_succeeded (hfirst : s.processes = 0) (hcapture : CapturesSucceed process payload)
    (hbeat : client.heartbeat s.heartbeats = some false) :
    ∃ draft s', captureStage client process payload s = (some draft,s') ∧
      s'.heartbeats = s.heartbeats + 1 ∧ draft.shas = capturedShas process := by
  obtain ⟨hcommand,hsucceeded⟩ := hcapture
  obtain ⟨s1,h1,hb1,hp1⟩ := heartbeat_answered hbeat
  rw [hfirst] at hp1
  obtain ⟨patch,s2,h2,hp2,hb2,hf2⟩ :=
    runShell_succeeded (commandText payload.patchCommand) hp1 (hsucceeded 0 (by decide))
  obtain ⟨captured,s3,h3,hb3,hf3⟩ := captureArtifacts_succeeded hp2 fun n hn =>
    hsucceeded (0 + 1 + n) (by omega)
  have hfrom := captureArtifacts_some h3
  rw [hp2] at hfrom
  refine ⟨draftOf payload patch captured,s3,?_,?_,?_⟩
  · refine (Step.bind_of_some h1).trans ?_
    rw [if_neg Bool.false_ne_true,if_neg hcommand]
    refine (Step.bind_of_some h2).trans ?_
    rw [hf2,if_neg Bool.false_ne_true]
    exact Step.bind_of_some h3
  · rw [hb3,hb2,hb1]
  · rw [draftOf_shas,hf3,if_neg Bool.false_ne_true,hfrom.baseSha,hfrom.headSha]
    rfl

end runs

section clients

-- It asks for the cancellation as soon as the capture is over, and accepts every upload.
def quietClient : WorkerClient where
  leases := true
  heartbeat := fun n => some (n = 3)
  checkout := .ok
  upload := fun _ => some "ref"

theorem runTests_cancelled {client : WorkerClient} (process : ℕ → ProcessOutcome) {s : WorkerProgress}
    {commands : List String} (hne : commands ≠ []) (hbeat : client.heartbeat s.heartbeats = some true) :
    ∃ s', runTests client process commands s = (some { cancelled := true },s') := by
  cases commands with
  | nil => exact absurd rfl hne
  | cons command rest =>
    obtain ⟨s1,h1,_,_⟩ := heartbeat_answered hbeat
    exact ⟨s1,Step.bind_of_some h1⟩

theorem quietClient_reports {process : ℕ → ProcessOutcome} (config : RemoteWorkerConfig)
    {payload : WorkerPayload} (h : CapturesSucceed process payload) :
    ∃ execution, runOnce quietClient process config payload =
        completeExecution quietClient config execution (payloadSecrets payload config.callbackToken) ∧
      execution.shas = capturedShas process := by
  have hsecond : quietClient.heartbeat ({ heartbeats := 2 } : WorkerProgress).heartbeats = some false := rfl
  obtain ⟨draft,s1,hdraft,hbeats,hshas⟩ := captureStage_succeeded rfl h hsecond
  have hthird : quietClient.heartbeat s1.heartbeats = some true := by rw [hbeats]; rfl
  have hleases : quietClient.leases = true := rfl
  have hcheckout : quietClient.checkout = .ok := rfl
  have hzeroth : quietClient.heartbeat 0 = some false := rfl
  have hfirst : quietClient.heartbeat 1 = some false := rfl
  simp only [runOnce,hleases,hcheckout,hzeroth,runAfterCheckout,hfirst,Bool.not_true,
    Bool.false_eq_true,if_false]
  by_cases htests : draft.failureReason ≠ none ∨ payload.testCommands = []
  · have hrun : runCommands quietClient process payload { heartbeats := 2 } =
        (some (executionOf payload draft {} draft.failureReason "not_run"),s1) := by
      refine (Step.bind_of_some hdraft).trans ?_
      rw [if_pos (by simpa using htests)]
      exact Step.pure_run _ _
    simp only [hrun,concludeRun,hthird]
    split
    · exact ⟨_,rfl,hshas⟩
    · exact ⟨_,rfl,hshas⟩
  · have hne : payload.testCommands.map commandText ≠ [] := by simpa using fun h => htests (.inr h)
    obtain ⟨s2,hcancelled⟩ := runTests_cancelled process hne hthird
    have hrun : runCommands quietClient process payload { heartbeats := 2 } =
        (some (executionOf payload draft { cancelled := true } (some "cancelled") "not_run"),s2) := by
      refine (Step.bind_of_some hdraft).trans ?_
      rw [if_neg (by simpa using htests)]
      exact Step.bind_of_some hcancelled
    simp only [hrun,concludeRun]
    exact ⟨_,rfl,hshas⟩

theorem clean_failedExecution {secrets : List String} (failureReason : String) :
    ∀ text ∈ (failedExecution failureReason).shas, Clean secrets text := by
  intro text ht
  cases ht

theorem clean_concludeRun {client : WorkerClient} {config : RemoteWorkerConfig} {execution : Execution}
    {secrets : List String} {progress : WorkerProgress} (h : ∀ text ∈ execution.shas, Clean secrets text) :
    ReportsNoSecret secrets (concludeRun client config execution secrets progress) := by
  rw [concludeRun]
  split
  · exact clean_completeExecution h
  · split
    · intro text ht
      cases ht
    · apply clean_completeExecution
      split
      · exact h
      · exact h

theorem reports_no_secret_iff (process : ℕ → ProcessOutcome) (config : RemoteWorkerConfig)
    (payload : WorkerPayload) :
    (∀ client, ReportsNoSecret (payloadSecrets payload config.callbackToken)
        (runOnce client process config payload)) ↔
      (CapturesSucceed process payload → ∀ text ∈ capturedShas process,
        Clean (payloadSecrets payload config.callbackToken) text) := by
  constructor
  · intro h hcapture
    obtain ⟨execution,hrun,hshas⟩ := quietClient_reports config hcapture
    have hreport := h quietClient
    rw [hrun] at hreport
    rw [← hshas]
    exact shas_clean_of_complete (fun _ => rfl) hreport
  · intro h client
    rw [runOnce]
    split
    · exact fun _ ht => by cases ht
    split
    · exact fun _ ht => by cases ht
    · exact clean_completeExecution (clean_failedExecution _)
    split
    · exact clean_completeExecution (clean_failedExecution _)
    · exact clean_completeExecution (clean_failedExecution _)
    rw [runAfterCheckout]
    split
    · exact fun _ ht => by cases ht
    · exact clean_completeExecution (clean_failedExecution _)
    split
    · exact clean_completeExecution (clean_failedExecution _)
    next execution progress hrun =>
    apply clean_concludeRun
    rcases runCommands_shas rfl hrun with hnone | ⟨hcapture,hshas⟩
    · rw [hnone]
      intro text ht
      cases ht
    · rw [hshas]
      exact h hcapture

end clients

section sample

def promptClient : WorkerClient where
  leases := true
  heartbeat := fun _ => some false
  checkout := .ok
  upload := fun _ => some "ref"

def samplePayload : WorkerPayload where
  cloudRunId := "run_1"
  cloneToken := .value true "ghs_clone"
  env := [("API_KEY",.value true "sk-live")]
  baseBranch := .value true "main"
  patchCommand := .value true "make patch"
  testCommands := []
  allowedPaths := ["app.py"]

-- A login shell whose profile prints the key.
def chattyProcess : ℕ → ProcessOutcome
  | 1 => .completed 0 "" "" 1
  | 2 => .completed 0 "app.py\n" "" 1
  | 3 => .completed 0 "+print(1)\n" "" 1
  | _ => .completed 0 "sk-live\n" "" 1

theorem revision_output_reported :
    ¬ ReportsNoSecret (payloadSecrets samplePayload "callback")
      (runOnce promptClient chattyProcess ⟨"run_1","worker_1","callback"⟩ samplePayload) := by
  intro h
  have hreported : "sk-live" ∈
      (runOnce promptClient chattyProcess ⟨"run_1","worker_1","callback"⟩ samplePayload).reported := by
    decide +kernel
  have hsecret : "sk-live" ∈ payloadSecrets samplePayload "callback" := by decide
  exact h _ hreported _ hsecret ⟨by decide,by decide,by decide,by decide⟩ List.infix_rfl

end sample

end AiScdc.RemoteWorker
