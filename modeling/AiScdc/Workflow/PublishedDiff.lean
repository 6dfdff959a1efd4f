import AiScdc.Workflow.Publication

namespace AiScdc
open Transaction

-- How many lines of the old and of the new file the hunk at hand still has.
structure Hunk where
  old : ℕ := 0
  new : ℕ := 0
  deriving DecidableEq, Repr

def digitsOf (text : Text) : ℕ × Text :=
  let digits := text.takeWhile Char.isDigit
  (digits.foldl (fun n c => 10 * n + (c.toNat - '0'.toNat)) 0,text.drop digits.length)

-- The length of a range of lines, which is one where none is given.
def rangeLength (text : Text) : ℕ × Text :=
  match (digitsOf text).2 with
  | ',' :: rest => digitsOf rest
  | rest => (1,rest)

def hunkOf (line : Text) : Option Hunk :=
  match line with
  | '@' :: '@' :: ' ' :: '-' :: ranges =>
    match rangeLength ranges with
    | (old,' ' :: '+' :: rest) => some ⟨old,(rangeLength rest).1⟩
    | _ => none
  | _ => none

def inHunk (hunk : Hunk) : Text → Hunk
  | '-' :: _ => ⟨hunk.old - 1,hunk.new⟩
  | '+' :: _ => ⟨hunk.old,hunk.new - 1⟩
  | '\\' :: _ => hunk
  | _ => ⟨hunk.old - 1,hunk.new - 1⟩

def headerPath (line : Text) : Option Text :=
  match line with
  | '-' :: '-' :: '-' :: ' ' :: path | '+' :: '+' :: '+' :: ' ' :: path =>
    match path.takeWhile fun c => c ≠ '\t' && c ≠ '\r' with
    | 'a' :: '/' :: file | 'b' :: '/' :: file => some file
    | file => if file = "/dev/null".toList then none else some file
  | _ => none

def headerPaths : Hunk → List Text → List Text
  | _, [] => []
  | hunk, line :: lines =>
    if hunk.old = 0 ∧ hunk.new = 0 then
      match hunkOf line with
      | some hunk => headerPaths hunk lines
      | none => (headerPath line).toList ++ headerPaths {} lines
    else headerPaths (inHunk hunk line) lines

-- The files that the headers of a unified diff name.
def diffFiles (diffText : String) : List String :=
  (headerPaths {} (splitOn '\n' diffText.toList)).map String.ofList

example : diffFiles "--- a/old.py\n+++ b/new.py\n@@ -1 +1,2 @@\n--- a/in.py\n+++ b/in.py\n+x\n--- /dev/null\n+++ b/z"
    = ["old.py","new.py","z"] := by decide +kernel

def FilesAllowed (allowedPaths files : List String) : Prop :=
  ∀ file ∈ files, isAllowedFile allowedPaths file = true

-- The files of the diff that the artifact does not list among the changed ones.
def unlistedFiles (artifact : PatchArtifact) : List String :=
  (diffFiles artifact.diffText).filter fun file => file ∉ artifact.filesChanged

theorem Acceptable.filesAllowed {artifact : PatchArtifact} {task : Task} (h : Acceptable artifact task) :
    FilesAllowed task.allowedPaths (diffFiles artifact.diffText) ↔
      FilesAllowed task.allowedPaths (unlistedFiles artifact) := by
  have hlisted := ensureChangedFilesAllowed_ok h.allowed
  constructor
  · exact fun hall file hfile => hall file (List.mem_of_mem_filter hfile)
  · intro hunlisted file hfile
    by_cases hmem : file ∈ artifact.filesChanged
    · exact hlisted file hmem
    · exact hunlisted file (List.mem_filter.mpr ⟨hfile,by simpa using hmem⟩)

theorem published_diff_allowed [Digest] {w₀ w : World} (hw : Untouched w₀) (h : Visible w₀ w)
    {approvalId : Id} {calls : List PullRequestCall} (hcalls : w.db (.githubCalls approvalId) = some calls)
    {call : PullRequestCall} (hc : call ∈ calls) :
    ∃ record artifact task, w.db (.pullRequest approvalId) = some record ∧
      w.db (.patchArtifact record.patchArtifactId) = some artifact ∧
      w.db (.task record.taskId) = some task ∧ call.diffText = artifact.diffText ∧
      (FilesAllowed task.allowedPaths (diffFiles call.diffText) ↔
        FilesAllowed task.allowedPaths (unlistedFiles artifact)) := by
  have hchain := h.chain hw
  obtain ⟨record,artifact,hcall⟩ := hchain.calls approvalId calls call hcalls hc
  obtain ⟨approval,happroval⟩ := hchain.records approvalId record hcall.recordRow
  obtain ⟨review,hreview⟩ := hchain.approvals _ approval happroval.row
  obtain ⟨reviewed,task,hok⟩ := hchain.reviews _ review hreview.row
  have hsame : reviewed = artifact := Option.some.inj (hok.artifactRow.symm.trans hcall.artifactRow)
  have htask : review.taskId = record.taskId := hreview.taskId.symm.trans happroval.taskId
  have hacceptable : Acceptable artifact task := hsame ▸ hok.acceptable hreview.verdict
  refine ⟨record,artifact,task,hcall.recordRow,hcall.artifactRow,htask ▸ hok.taskRow,hcall.diffText,?_⟩
  rw [hcall.diffText]
  exact hacceptable.filesAllowed

-- The worker lists a file it may change and hands in a diff of another one.
def strayResult : CloudRunExecutionResultCreate :=
  { sampleResult with
    diffText := "--- a/infra/deploy.sh\n+++ b/infra/deploy.sh\n@@ -1 +1 @@\n-old\n+new\n" }

def callsUnder (w : World) (approvalId : Id) : List PullRequestCall :=
  (w.db (.githubCalls approvalId)).getD []

theorem published_diff_allowed_stray :
    let _ := plainDigest
    ∃ (call : PullRequestCall) (artifact : PatchArtifact) (task : Task), call ∈ callsUnder (playWork workWorld (timed (published strayResult))) 25 ∧
      call.diffText = artifact.diffText ∧
      (FilesAllowed task.allowedPaths (diffFiles call.diffText) ↔
        FilesAllowed task.allowedPaths (unlistedFiles artifact)) := by
  intro _
  have hreached : Reached workWorld (playWork workWorld (timed (published strayResult))) :=
    Reached.start.plays _
  have hcall : ((playWork workWorld (timed (published strayResult))).db (.githubCalls 25)).map
      List.length = some 1 := by decide +kernel
  generalize playWork workWorld (timed (published strayResult)) = w at hreached hcall ⊢
  obtain ⟨calls,hcalls,hlength⟩ := Option.map_eq_some_iff.mp hcall
  obtain ⟨call,rfl⟩ := List.length_eq_one_iff.mp hlength
  obtain ⟨_,artifact,task,_,_,_,hdiff,hiff⟩ :=
    published_diff_allowed work_untouched (Or.inl hreached) hcalls (List.mem_singleton_self call)
  exact ⟨call,artifact,task,by simp [callsUnder,hcalls],hdiff,hiff⟩

theorem stray_diff_published :
    let _ := plainDigest
    Reached workWorld (playWork workWorld (timed (published strayResult))) ∧
      ∃ record task, (playWork workWorld (timed (published strayResult))).db (.pullRequest 25) =
          some record ∧ record.status = .created ∧
        (playWork workWorld (timed (published strayResult))).db (.task record.taskId) = some task ∧
        ∃ call ∈ callsUnder (playWork workWorld (timed (published strayResult))) 25,
          ¬ FilesAllowed task.allowedPaths (diffFiles call.diffText) := by
  intro _
  have hreached : Reached workWorld (playWork workWorld (timed (published strayResult))) :=
    Reached.start.plays _
  have hrecord : ((playWork workWorld (timed (published strayResult))).db (.pullRequest 25)).map
      (fun record => (record.status,record.taskId)) = some (.created,4) := by decide +kernel
  have htask : ((playWork workWorld (timed (published strayResult))).db (.task 4)).map
      Task.allowedPaths = some ["src/**"] := by decide +kernel
  have hcall : (callsUnder (playWork workWorld (timed (published strayResult))) 25).map
      PullRequestCall.diffText = [strayResult.diffText] := by decide +kernel
  generalize playWork workWorld (timed (published strayResult)) = w at hreached hrecord htask hcall ⊢
  obtain ⟨record,hr,hfields⟩ := Option.map_eq_some_iff.mp hrecord
  obtain ⟨hstatus,hid⟩ := Prod.mk.inj hfields
  obtain ⟨task,ht,hallowed⟩ := Option.map_eq_some_iff.mp htask
  obtain ⟨call,hcalls⟩ := List.map_eq_singleton_iff.mp hcall
  refine ⟨hreached,record,task,hr,hstatus,hid ▸ ht,call,by simp [hcalls.1],fun hall => ?_⟩
  have hstray := hall "infra/deploy.sh" (by rw [hcalls.2]; decide +kernel)
  rw [hallowed] at hstray
  exact absurd hstray (by decide +kernel)

end AiScdc
