import AiScdc.DockerSandbox.Commands
import AiScdc.LocalRunner.PatchPath
import AiScdc.Text.ShellWords

namespace AiScdc.DockerSandbox

open ShellWords (Lexeme readCommand commandLine quote literals scan)
open RemoteWorker (shellQuote)
open AiScdc.ArtifactPlane (UrlText)

def words (texts : List String) : List Lexeme := literals (texts.map String.toList)

-- What the shell is to read in the commands that the sandbox puts together.
def cloneWords (repoUrl : String) (useAskpass : Bool) : List Lexeme :=
  let clone := words ["git","clone","--",repoUrl,"."]
  if !useAskpass then clone
  else words ["chmod","700","/artifacts/git-askpass.sh"] ++ .semicolon ::
    words ["GIT_ASKPASS=/artifacts/git-askpass.sh","GIT_TERMINAL_PROMPT=0"] ++ clone ++ .semicolon ::
    .word "status=$?".toList false :: .semicolon ::
    words ["rm","-f","/artifacts/git-askpass.sh","/artifacts/github-token"] ++ .semicolon ::
    .word "exit".toList true :: .word "$status".toList false :: []

def stepWords (request : SandboxExecutionRequest) (useAskpass : Bool) : StepLabel → Option (List Lexeme)
  | .clone => some (cloneWords request.repoUrl useAskpass)
  | .checkout => some (words ["git","checkout",request.baseBranch])
  | .branch => some (words ["git","checkout","-B",request.headBranch])
  | .patch => readCommand (patchStep request.patchCommand).command
  | .intentToAdd => some (words ["git","add","-N","."])
  | .nameOnly => some (words ["git","diff","--name-only"])
  | .diff => some (words ["git","diff","--no-ext-diff"])
  | .baseSha => some (words ["git","rev-parse","origin/" ++ request.baseBranch])
  | .headSha => some (words ["git","rev-parse","HEAD"])

section quoting

theorem shellQuote_toList (text : String) : (shellQuote text).toList = quote text.toList := by
  rw [shellQuote,quote]
  split
  · next h => simp [h]
  next hne =>
  have htext : text.toList ≠ [] := by simpa using hne
  rw [if_neg htext]
  split
  · next hsafe => exact (if_pos hsafe).symm
  · next hsafe =>
    rw [String.toList_ofList]
    exact (if_neg hsafe).symm

theorem read_words {command : String} {texts : List String}
    (h : command.toList = commandLine (texts.map String.toList)) : readCommand command = some (words texts) := by
  rw [readCommand,h]
  exact ShellWords.read_commandLine _

theorem commandLine_quoted (first : List String) (text : String) (hne : first ≠ []) :
    commandLine ((first ++ [text]).map String.toList) =
      commandLine (first.map String.toList) ++ ' ' :: quote text.toList := by
  rw [List.map_append,ShellWords.commandLine_append (by simpa using hne) (by simp)]
  exact congrArg (fun line => _ ++ ' ' :: line) (ShellWords.commandLine_singleton _)

-- A command that ends with one quoted text.
theorem read_quoted {fixed : String} {first : List String} (text : String) (hne : first ≠ [])
    (h : fixed.toList = commandLine (first.map String.toList) ++ [' ']) :
    readCommand (fixed ++ shellQuote text) = some (words (first ++ [text])) := by
  apply read_words
  rw [String.toList_append,h,shellQuote_toList,commandLine_quoted first text hne]
  simp

end quoting

section clone

variable (repoUrl : String)

def cloneArgs : List String := ["git","clone","--",repoUrl,"."]

theorem cloneLine_words :
    "git clone -- ".toList ++ quote repoUrl.toList ++ " .".toList = commandLine ((cloneArgs repoUrl).map String.toList) := by
  have hfirst : "git clone -- ".toList = commandLine (["git","clone","--"].map String.toList) ++ [' '] := by decide
  have hdot : " .".toList = ' ' :: quote ".".toList := by decide
  have hlast := commandLine_quoted ["git","clone","--",repoUrl] "." (by simp)
  have hurl := commandLine_quoted ["git","clone","--"] repoUrl (by simp)
  simp only [List.cons_append,List.nil_append] at hlast hurl
  rw [cloneArgs,hlast,hurl,hfirst,hdot]
  simp

theorem read_clone : readCommand (gitCloneCommand repoUrl false) = some (cloneWords repoUrl false) := by
  have hread : readCommand (gitCloneCommand repoUrl false) = some (words (cloneArgs repoUrl)) := by
    apply read_words
    rw [← cloneLine_words]
    simp [gitCloneCommand,shellQuote_toList]
  exact hread

def afterClone : List Char :=
  " status=$?; rm -f /artifacts/git-askpass.sh /artifacts/github-token; exit $status".toList

theorem scan_afterClone : scan .plain none afterClone =
    some (.word "status=$?".toList false :: .semicolon ::
      words ["rm","-f","/artifacts/git-askpass.sh","/artifacts/github-token"] ++ .semicolon ::
      .word "exit".toList true :: .word "$status".toList false :: []) := by decide +kernel

def askpassSettings : List String := ["GIT_ASKPASS=/artifacts/git-askpass.sh","GIT_TERMINAL_PROMPT=0"]

def beforeClone : String :=
  "chmod 700 /artifacts/git-askpass.sh; " ++ "GIT_ASKPASS=/artifacts/git-askpass.sh " ++ "GIT_TERMINAL_PROMPT=0 "

def cloneEnding : String :=
  "; " ++ "status=$?; " ++ "rm -f /artifacts/git-askpass.sh /artifacts/github-token; " ++ "exit $status"

theorem askpass_parts : gitCloneCommand repoUrl true =
    beforeClone ++ ("git clone -- " ++ shellQuote repoUrl ++ " .") ++ cloneEnding := by
  have hassoc (a b c line d e f g : String) :
      a ++ b ++ c ++ line ++ d ++ e ++ f ++ g = (a ++ b ++ c) ++ line ++ (d ++ e ++ f ++ g) := by
    simp only [String.append_assoc]
  exact hassoc _ _ _ _ _ _ _ _

theorem beforeClone_toList : beforeClone.toList =
    commandLine (["chmod","700","/artifacts/git-askpass.sh"].map String.toList) ++ ';' :: ' ' ::
      (commandLine (askpassSettings.map String.toList) ++ [' ']) := by decide +kernel

theorem cloneEnding_toList : cloneEnding.toList = ';' :: afterClone := by decide +kernel

theorem askpass_command : (gitCloneCommand repoUrl true).toList =
    commandLine (["chmod","700","/artifacts/git-askpass.sh"].map String.toList) ++ ';' :: ' ' ::
      (commandLine ((askpassSettings ++ cloneArgs repoUrl).map String.toList) ++ ';' :: afterClone) := by
  have hsome : askpassSettings.map String.toList ≠ [] := List.cons_ne_nil _ _
  have hclone : (cloneArgs repoUrl).map String.toList ≠ [] := List.cons_ne_nil _ _
  rw [List.map_append,ShellWords.commandLine_append hsome hclone,← cloneLine_words,askpass_parts]
  simp only [String.toList_append,shellQuote_toList,beforeClone_toList,cloneEnding_toList,List.append_assoc,
    List.cons_append,List.nil_append]

theorem read_clone_askpass : readCommand (gitCloneCommand repoUrl true) = some (cloneWords repoUrl true) := by
  have hchmod : ["chmod","700","/artifacts/git-askpass.sh"].map String.toList ≠ [] := List.cons_ne_nil _ _
  have hline : (askpassSettings ++ cloneArgs repoUrl).map String.toList ≠ [] := List.cons_ne_nil _ _
  rw [readCommand,askpass_command,ShellWords.scan_commandLine_semicolon hchmod,ShellWords.scan_blank,
    ShellWords.scan_commandLine_semicolon hline,scan_afterClone]
  simp [cloneWords,words,literals,cloneArgs,askpassSettings]

end clone

section requests

variable {request : SandboxExecutionRequest} {branch : String}

theorem fixed_commands_read :
    readCommand "git add -N ." = some (words ["git","add","-N","."]) ∧
    readCommand "git diff --name-only" = some (words ["git","diff","--name-only"]) ∧
    readCommand "git diff --no-ext-diff" = some (words ["git","diff","--no-ext-diff"]) ∧
    readCommand "git rev-parse HEAD" = some (words ["git","rev-parse","HEAD"]) := by decide +kernel

theorem read_later {step : SandboxStep} (useAskpass : Bool) (h : step ∈ laterSteps request) :
    readCommand step.command = stepWords request useAskpass step.label := by
  simp only [laterSteps,List.mem_cons,List.not_mem_nil,or_false] at h
  rcases h with rfl | rfl | rfl | rfl | rfl | rfl | rfl | rfl
  · exact read_quoted _ (List.cons_ne_nil "git" ["checkout"]) (by decide +kernel)
  · exact read_quoted _ (List.cons_ne_nil "git" ["checkout","-B"]) (by decide +kernel)
  · cases hpatch : request.patchCommand <;> simp [patchStep,stepWords,hpatch]
  · exact fixed_commands_read.1
  · exact fixed_commands_read.2.1
  · exact fixed_commands_read.2.2.1
  · exact read_quoted _ (List.cons_ne_nil "git" ["rev-parse"]) (by decide +kernel)
  · exact fixed_commands_read.2.2.2

theorem valid_branch_no_option (h : validGitBranchName branch = true) : branch.toList.head? ≠ some '-' := by
  intro hdash
  obtain ⟨rest,hbranch⟩ := List.head?_eq_some_iff.mp hdash
  simp only [validGitBranchName,hbranch,Bool.and_eq_true,decide_eq_true_eq] at h
  obtain ⟨hne,hhead⟩ := h
  obtain ⟨c,stripped,hstrip⟩ := List.exists_cons_of_ne_nil hne
  have hbegins : strip ('-' :: rest) <+: '-' :: rest := by
    rw [strip_eq,List.dropWhile_cons_of_neg (by decide)]
    exact List.rdropWhile_prefix _ _
  rw [hstrip] at hbegins hhead
  obtain ⟨rfl,_⟩ := List.cons_prefix_cons.mp hbegins
  exact hhead rfl

theorem refusal_branches [UrlText] (h : refusal request = none) :
    validGitBranchName request.baseBranch = true ∧ validGitBranchName request.headBranch = true := by
  rw [refusal] at h
  split at h
  · cases h
  split at h
  · cases h
  · next hvalid => simpa [validGitReferenceInputs] using hvalid

theorem git_commands_read [UrlText] (request : SandboxExecutionRequest) (useAskpass : Bool) :
    (∀ step ∈ sandboxSteps request useAskpass,
      readCommand step.command = stepWords request useAskpass step.label) ∧
    (refusal request = none → ∀ branch ∈ [request.baseBranch,request.headBranch],
      branch.toList.head? ≠ some '-') ∧
    ∀ payload : RemoteWorker.WorkerPayload, readCommand ("git rev-parse " ++ RemoteWorker.baseRef payload) =
      some (words ["git","rev-parse","origin/" ++ payload.baseBranch.orElse "main"]) := by
  refine ⟨fun step hstep => ?_,fun h branch hbranch => ?_,fun payload => ?_⟩
  · rcases List.mem_cons.mp hstep with rfl | hstep
    · cases useAskpass with
      | false => exact read_clone _
      | true => exact read_clone_askpass _
    · exact read_later useAskpass hstep
  · obtain ⟨hbase,hhead⟩ := refusal_branches h
    simp only [List.mem_cons,List.not_mem_nil,or_false] at hbranch
    rcases hbranch with rfl | rfl
    · exact valid_branch_no_option hbase
    · exact valid_branch_no_option hhead
  · exact read_quoted _ (List.cons_ne_nil "git" ["rev-parse"]) (by decide +kernel)

end requests

end AiScdc.DockerSandbox
