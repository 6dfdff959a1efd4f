import AiScdc.DockerSandbox.Executor
import AiScdc.LocalRunner.PatchPath
import AiScdc.RemoteWorker.Reports

namespace AiScdc.DockerSandbox

open AiScdc.ArtifactPlane (UrlText)
open RemoteWorker (Clean strippedText parseLines nonEmpty)
open Traced (Guards)

def commandTexts (result : CommandResult) : List String := [result.command,result.stdout,result.stderr]

def redactedTexts (result : SandboxExecutionResult) : List String :=
  (result.commandResults ++ result.testCommandResults).flatMap commandTexts ++ result.filesChanged ++
    [result.diffText] ++ result.baseSha.toList ++ result.headSha.toList

-- Every text of a result that a process or a command has had a part in.
def reportedTexts (result : SandboxExecutionResult) : List String := redactedTexts result ++ result.testsRun

section texts

variable {secrets : List String} {text text' : String}

theorem clean_part (h : Clean secrets text) (hpart : text'.toList <:+: text.toList) : Clean secrets text' :=
  fun s hs hr hfound => h s hs hr (hfound.trans hpart)

theorem clean_empty : Clean secrets "" := fun _ _ hr hfound => hr.ne_nil (List.infix_nil.mp hfound)

theorem clean_redacted (text : String) (secrets : List String) : Clean secrets (redactSecrets text secrets) := by
  intro s hs hr
  rw [redactSecrets,String.toList_ofList]
  exact hr.not_infix_redactText (List.mem_map_of_mem hs)

theorem stripped_part (text : String) : (strippedText text).toList <:+: text.toList := by
  rw [strippedText,String.toList_ofList]
  exact strip_infix

theorem line_part {line rest : List Char} {found : String} (h : found ∈ TextLines.splitLinesFrom line rest) :
    found.toList <:+: line.reverse ++ rest := by
  fun_induction TextLines.splitLinesFrom line rest with
  | case1 => cases h
  | case2 line _ =>
    rw [List.mem_singleton.mp h,String.toList_ofList,List.append_nil]
  | case3 line rest ih =>
    rcases List.mem_cons.mp h with rfl | h
    · rw [String.toList_ofList]
      exact (List.prefix_append _ _).isInfix
    · exact (ih h).trans (List.infix_append_of_infix_right (List.suffix_append ['\r','\n'] rest).isInfix)
  | case4 line c rest _ _ ih =>
    rcases List.mem_cons.mp h with rfl | h
    · rw [String.toList_ofList]
      exact (List.prefix_append _ _).isInfix
    · exact (ih h).trans (List.infix_append_of_infix_right (List.suffix_cons c rest).isInfix)
  | case5 line c rest _ _ ih =>
    have hsame : line.reverse ++ c :: rest = (c :: line).reverse ++ rest := by simp
    rw [hsame]
    exact ih h

theorem clean_lines (h : Clean secrets text) : ∀ line ∈ parseLines text, Clean secrets line := by
  intro line hline
  obtain ⟨found,hfound,rfl⟩ := List.mem_map.mp (List.mem_filter.mp hline).1
  exact clean_part h ((stripped_part found).trans (line_part hfound))

theorem clean_nonEmpty (h : Clean secrets text) : ∀ found ∈ (nonEmpty text).toList, Clean secrets found := by
  intro found hfound
  rw [nonEmpty] at hfound
  split at hfound
  · cases hfound
  · obtain rfl : found = text := by simpa using hfound
    exact h

end texts

section results

variable {secrets : List String} {request : SandboxExecutionRequest}

-- The test commands stand in tests_run as they were requested.
structure CleanResult (secrets : List String) (request : SandboxExecutionRequest)
    (result : SandboxExecutionResult) : Prop where
  redacted : ∀ text ∈ redactedTexts result, Clean secrets text
  tests : result.testsRun = [] ∨ result.testsRun = request.testCommands.map SandboxCommandSelection.command

theorem CleanResult.clean_iff {result : SandboxExecutionResult} (h : CleanResult secrets request result) :
    (∀ text ∈ reportedTexts result, Clean secrets text) ↔ ∀ text ∈ result.testsRun, Clean secrets text := by
  rw [reportedTexts,List.forall_mem_append]
  exact and_iff_right h.redacted

structure CleanPatch (secrets : List String) (captured : CapturedPatch) : Prop where
  files : ∀ file ∈ captured.filesChanged, Clean secrets file
  diff : Clean secrets captured.diffText
  shas : ∀ sha ∈ captured.baseSha.toList ++ captured.headSha.toList, Clean secrets sha

def CleanCommands (secrets : List String) (results : List CommandResult) : Prop :=
  ∀ result ∈ results, ∀ text ∈ commandTexts result, Clean secrets text

theorem clean_toCommandResult (result : ProcessResult) (command : String) :
    ∀ text ∈ commandTexts (result.toCommandResult command secrets), Clean secrets text := by
  intro text htext
  simp only [commandTexts,ProcessResult.toCommandResult,ProcessResult.redacted,List.mem_cons,List.not_mem_nil,
    or_false] at htext
  rcases htext with rfl | rfl | rfl
  · exact clean_redacted _ _
  · exact clean_redacted _ _
  · exact clean_redacted _ _

theorem clean_steps (steps : StepRuns) : CleanCommands secrets (steps.results secrets) := by
  intro result hresult
  obtain ⟨ran,_,rfl⟩ := List.mem_map.mp hresult
  exact clean_toCommandResult ran.2 ran.1.command

theorem clean_tests (tests : TestRuns) : CleanCommands secrets (tests.results secrets) := by
  intro result hresult
  obtain ⟨ran,_,rfl⟩ := List.mem_map.mp hresult
  exact clean_toCommandResult ran.2 ran.1.command

theorem clean_noPatch : CleanPatch secrets {} where
  files _ h := nomatch h
  diff := clean_empty
  shas _ h := nomatch h

theorem clean_captured {steps : StepRuns} (h : ∀ ran ∈ steps.ran, Clean secrets ran.2.stdout) :
    CleanPatch secrets (capturedPatch request steps) := by
  have hout (label : StepLabel) : Clean secrets (steps.stdout label) := by
    rw [StepRuns.stdout]
    cases hfound : steps.ran.find? fun ran => ran.1.label = label with
    | none => exact clean_empty
    | some ran => exact h ran (List.mem_of_find?_eq_some hfound)
  have hsha (label : StepLabel) : ∀ sha ∈ (nonEmpty (strippedText (steps.stdout label))).toList, Clean secrets sha :=
    clean_nonEmpty (clean_part (hout label) (stripped_part _))
  constructor
  · intro file hfile
    exact clean_lines (hout .nameOnly) file ((List.mem_insertionSort _).mp hfile)
  · exact hout .diff
  · intro sha hmem
    simp only [capturedPatch,List.mem_append] at hmem
    exact hmem.elim (hsha .baseSha sha) (hsha .headSha sha)

theorem clean_of_parts {result : SandboxExecutionResult} {captured : CapturedPatch}
    (hcommands : CleanCommands secrets result.commandResults) (htests : CleanCommands secrets result.testCommandResults)
    (hcaptured : CleanPatch secrets captured) (hfiles : result.filesChanged = captured.filesChanged)
    (hdiff : result.diffText = captured.diffText) (hbase : result.baseSha = captured.baseSha)
    (hhead : result.headSha = captured.headSha)
    (hrun : result.testsRun = [] ∨ result.testsRun = request.testCommands.map SandboxCommandSelection.command) :
    CleanResult secrets request result := by
  refine ⟨fun text htext => ?_,hrun⟩
  simp only [redactedTexts,hfiles,hdiff,hbase,hhead,List.append_assoc] at htext
  rcases List.mem_append.mp htext with htext | htext
  · obtain ⟨command,hcommand,htext⟩ := List.mem_flatMap.mp htext
    rcases List.mem_append.mp hcommand with hcommand | hcommand
    · exact hcommands command hcommand text htext
    · exact htests command hcommand text htext
  rcases List.mem_append.mp htext with htext | htext
  · exact hcaptured.files text htext
  rcases List.mem_append.mp htext with htext | htext
  · rw [List.mem_singleton.mp htext]
    exact hcaptured.diff
  · exact hcaptured.shas text htext

theorem clean_failed {commandResults testResults : List CommandResult} {captured : CapturedPatch} (reason : String)
    (hcommands : CleanCommands secrets commandResults) (htests : CleanCommands secrets testResults)
    (hcaptured : CleanPatch secrets captured) :
    CleanResult secrets request (failedResult reason commandResults testResults captured) :=
  clean_of_parts hcommands htests hcaptured rfl rfl rfl rfl (.inl rfl)

end results

section programs

variable {host : Host} {secrets : List String} {request : SandboxExecutionRequest} {mounts : Mounts}

-- What a program answers, whatever it does.
abbrev Answers {α : Type} (m : Action α) (Q : α → Prop) : Prop :=
  Guards (fun (s : Unit) _ => s) (fun _ _ => True) () m (fun a _ => Q a) fun _ => True

theorem answers_anything {α : Type} (m : Action α) : Answers m fun _ => True := by
  intro history
  constructor
  · generalize (m history).2 = done
    induction done with
    | nil => trivial
    | cons event done ih => exact ⟨trivial,ih⟩
  · cases (m history).1 <;> trivial

theorem answers_process (call : ProcessCall) :
    Answers (runProcess host secrets call) fun result => Clean secrets result.stdout := by
  refine Guards.act (fun _ => trivial) fun history => ?_
  cases host.answer history call with
  | none => trivial
  | some raw => exact clean_redacted _ _

theorem answers_container (label command : String) (timeoutSeconds : ℤ) :
    Answers (runDockerContainer host secrets request mounts label command timeoutSeconds) fun result =>
      Clean secrets result.stdout := by
  rw [runDockerContainer]
  split
  · exact Guards.raise trivial
  · refine (answers_process _).bind fun result _ hclean => ?_
    exact (answers_anything _).bind fun _ _ _ => Guards.pure hclean

theorem answers_steps (authFiles : Option GitAuthFiles) (steps : List SandboxStep) :
    Answers (runSteps host secrets request mounts authFiles steps) fun runs =>
      ∀ ran ∈ runs.ran, Clean secrets ran.2.stdout := by
  induction steps with
  | nil => exact Guards.pure fun _ h => nomatch h
  | cons step steps ih =>
    rw [runSteps]
    refine (answers_container _ _ _).bind fun result _ hclean => ?_
    refine (answers_anything _).bind fun _ _ _ => ?_
    split
    · exact Guards.pure (List.forall_mem_singleton.mpr hclean)
    · exact ih.bind fun later _ hlater => Guards.pure (List.forall_mem_cons.mpr ⟨hclean,hlater⟩)

theorem answers_testPatch {captured : CapturedPatch} {commandResults : List CommandResult}
    (hcaptured : CleanPatch secrets captured) (hcommands : CleanCommands secrets commandResults) :
    Answers (testPatch host secrets request mounts captured commandResults)
      (CleanResult secrets request) := by
  have hnone : CleanCommands secrets [] := fun _ h => nomatch h
  rw [testPatch]
  split
  · exact Guards.pure (clean_failed _ hcommands hnone clean_noPatch)
  split
  · exact Guards.pure (clean_failed _ hcommands hnone hcaptured)
  · refine (answers_anything _).bind fun tests _ _ => ?_
    split
    · exact Guards.pure (clean_failed _ hcommands (clean_tests tests) clean_noPatch)
    · exact Guards.pure (clean_of_parts hcommands (clean_tests tests) hcaptured rfl rfl rfl rfl (.inr rfl))

theorem answers_containers (versionResult : CommandResult)
    (hversion : ∀ text ∈ commandTexts versionResult, Clean secrets text) :
    Answers (runContainers host secrets request mounts versionResult) (CleanResult secrets request) := by
  rw [runContainers]
  refine (answers_anything _).bind fun authFiles _ _ => ?_
  refine (answers_steps authFiles _).bind fun steps _ hsteps => ?_
  have hcommands : CleanCommands secrets (versionResult :: steps.results secrets) :=
    List.forall_mem_cons.mpr ⟨hversion,clean_steps steps⟩
  split
  · exact Guards.pure (clean_failed _ hcommands (fun _ h => nomatch h) clean_noPatch)
  · exact answers_testPatch (clean_captured hsteps) hcommands

theorem answers_workspace : Answers (runInWorkspace host secrets request) (CleanResult secrets request) := by
  rw [runInWorkspace]
  refine (answers_anything _).bind fun _ _ _ => ?_
  refine (answers_anything _).bind fun envFilePath _ _ => ?_
  refine (answers_anything _).bind fun dockerVersion _ _ => ?_
  split
  · refine Guards.pure (clean_failed _ ?_ (fun _ h => nomatch h) clean_noPatch)
    exact List.forall_mem_singleton.mpr (clean_toCommandResult _ _)
  · exact answers_containers _ (clean_toCommandResult _ _)

theorem clean_run [UrlText] {history events : List HostEvent} {result : SandboxExecutionResult}
    (h : run host request history = (some result,events)) : CleanResult (requestSecrets request) request result := by
  rcases run_cases h with ⟨reason,_,hresult,_⟩ | ⟨_,hresult,_⟩ | ⟨_,answer,acts,removed,hrun,hresult,_⟩
  · obtain rfl := Option.some.inj hresult
    exact clean_failed _ (fun _ h => nomatch h) (fun _ h => nomatch h) clean_noPatch
  · cases hresult
  · have hanswer : answer = some result := by
      cases removed with
      | false => cases hresult
      | true => exact hresult.symm
    obtain ⟨_,hends⟩ := answers_workspace (history ++ [.workspaceCreated true])
    rw [hrun,hanswer] at hends
    exact ⟨hends.redacted,hends.tests⟩

theorem sandbox_reports_clean [UrlText] {history events : List HostEvent} {result : SandboxExecutionResult}
    (h : run host request history = (some result,events)) :
    CleanResult (requestSecrets request) request result ∧
      ((∀ text ∈ reportedTexts result, Clean (requestSecrets request) text) ↔
        ∀ text ∈ result.testsRun, Clean (requestSecrets request) text) :=
  ⟨clean_run h,(clean_run h).clean_iff⟩

end programs

-- The key of the environment is an argument of the test command.
def keyedRequest : SandboxExecutionRequest :=
  { sampleRequest with testCommands := [⟨"unit","pytest --key sk-live",60⟩] }

theorem sample_reports_clean :
    let _ := Github.asciiUrls
    ∃ result events, run sampleHost keyedRequest [] = (some result,events) ∧ result.diffText = "+[redacted]\n" ∧
      "sk-live" ∈ requestSecrets keyedRequest ∧ result.testsRun = ["pytest --key sk-live"] ∧
      CleanResult (requestSecrets keyedRequest) keyedRequest result := by
  intro _
  have hdiff : (run sampleHost keyedRequest []).1.map (fun result => (result.diffText,result.testsRun)) =
      some ("+[redacted]\n",["pytest --key sk-live"]) := by decide +kernel
  obtain ⟨answer,events,hrun⟩ : ∃ answer events, run sampleHost keyedRequest [] = (answer,events) := ⟨_,_,rfl⟩
  rw [hrun] at hdiff
  obtain ⟨result,rfl,hfound⟩ := Option.map_eq_some_iff.mp hdiff
  obtain ⟨hwritten,htests⟩ := Prod.mk.inj hfound
  exact ⟨result,events,hrun,hwritten,by decide +kernel,htests,(sandbox_reports_clean hrun).1⟩

end AiScdc.DockerSandbox
