import AiScdc.CloudRunner.RunTables
import AiScdc.Workflow.Operations

namespace AiScdc
open Transaction

-- What a session of the patch workflow has read and written of the rows that count: the task it
-- holds, a status change still without its event, an approval still without its status change.
structure Knowledge where
  task : Option (Id × Task) := none
  owed : Option TaskStatus := none
  approving : Bool := false
  reviewed : Bool := false
  numbered : Option ℕ := none
  artifact : Option (Id × PatchArtifact) := none
  tests : Option (Id × Option (Id × LocalTestRun)) := none
  review : Option (Id × PatchReview) := none
  approval : Option (Id × PatchApproval) := none
  record : Option (Id × PullRequestRecord) := none

def Key.isTracked : Key → Bool
  | .task _ | .taskEvent _ | .patchArtifact _ | .localTestRun _ | .patchReview _ | .patchApproval _
  | .pullRequest _ | .githubCalls _ => true
  | _ => false

def testRunsOf (db : Db) (next : ℕ) (patchArtifactId : Id) : List (Id × LocalTestRun) :=
  (List.range next).filterMap fun id => (db (.localTestRun id)).bind fun testRun =>
    if testRun.patchArtifactId = some patchArtifactId then some (id,testRun) else none

def latestTestRunIn (db : Db) (next : ℕ) (patchArtifactId : Id) : Option (Id × LocalTestRun) :=
  latestOf (testRunsOf db next patchArtifactId)

structure SameTask (l n : Task) : Prop where
  projectId : n.projectId = l.projectId
  title : n.title = l.title
  allowedPaths : n.allowedPaths = l.allowedPaths
  requiredTests : n.requiredTests = l.requiredTests

structure SamePatch (l n : PatchArtifact) : Prop where
  workspaceId : n.workspaceId = l.workspaceId
  taskId : n.taskId = l.taskId
  localRunId : n.localRunId = l.localRunId
  filesChanged : n.filesChanged = l.filesChanged
  diffText : n.diffText = l.diffText

structure SameRecord (l n : PullRequestRecord) : Prop where
  workspaceId : n.workspaceId = l.workspaceId
  taskId : n.taskId = l.taskId
  patchArtifactId : n.patchArtifactId = l.patchArtifactId

inductive Learns (db : Db) (next : ℕ) : Knowledge → Knowledge → Prop
  | task {x} (id : Id) (row : Task) (h : db (.task id) = some row) (ho : x.owed = none)
      (ha : x.approving = false) : Learns db next x { x with task := some (id,row) }
  | artifact {x} (id : Id) (row : PatchArtifact) (h : db (.patchArtifact id) = some row) :
      Learns db next x { x with artifact := some (id,row) }
  | tests {x} (id : Id) :
      Learns db next x { x with tests := some (id,latestTestRunIn db next id) }
  | review {x} (id : Id) (row : PatchReview) (h : db (.patchReview id) = some row) :
      Learns db next x { x with review := some (id,row) }
  | approval {x} (id : Id) (row : PatchApproval) (h : db (.patchApproval id) = some row) :
      Learns db next x { x with approval := some (id,row) }

inductive WorkUpdate :
    Knowledge → ∀ k : Key, (Row k → Bool) → (Row k → Row k) → Knowledge → Prop
  | untracked {x} (k : Key) (g : Row k → Bool) (s : Row k → Row k) (h : k.isTracked = false) :
      WorkUpdate x k g s x
  | newTask {x} (id : Id) (row : Task) (h : row.status = .created) :
      WorkUpdate x (.task id) (fun row => row.isNone) (fun _ => some row) x
  | note {x} (id : Id) (row : TaskEvent) (h : row.payload.isTransition = false) :
      WorkUpdate x (.taskEvent id) (fun row => row.isNone) (fun _ => some row) x
  | transition {x taskId task fromStatus} (id : Id) (createdAt : Time)
      (ht : x.task = some (taskId,task)) (ho : x.owed = some fromStatus)
      (hn : x.numbered = some id) :
      WorkUpdate x (.taskEvent id) (fun row => row.isNone)
        (fun _ => some ⟨taskId,.taskTransitioned fromStatus task.status,createdAt⟩)
        { x with owed := none, numbered := none }
  | artifact {x} (id : Id) (row : PatchArtifact) :
      WorkUpdate x (.patchArtifact id) (fun row => row.isNone) (fun _ => some row) x
  | testRun {x} (id : Id) (row : LocalTestRun) (h : x.reviewed = false) (hn : x.numbered = some id) :
      WorkUpdate x (.localTestRun id) (fun row => row.isNone) (fun _ => some row)
        { x with tests := none }
  | review {x patchArtifactId artifact task latest} (id : Id) (createdAt : Time)
      (ha : x.artifact = some (patchArtifactId,artifact)) (ht : x.task = some (artifact.taskId,task))
      (hl : x.tests = some (patchArtifactId,latest)) :
      WorkUpdate x (.patchReview patchArtifactId) (fun row => row.isNone)
        (fun _ => some (patchReviewOf id artifact task latest createdAt)) { x with reviewed := true }
  | approval {x patchArtifactId artifact task review} (id : Id) (createdAt : Time)
      (ha : x.artifact = some (patchArtifactId,artifact)) (ht : x.task = some (artifact.taskId,task))
      (hs : task.status = .approved) (hr : x.review = some (patchArtifactId,review))
      (hv : review.verdict = .approved) (ho : x.owed = none) (hn : x.approving = false) :
      WorkUpdate x (.patchApproval patchArtifactId) (fun row => row.isNone)
        (fun _ => some (patchApprovalOf id artifact task review createdAt))
        { x with approving := true }
  | record {x approval} (row : PullRequestRecord)
      (ha : x.approval = some (row.patchArtifactId,approval)) (ht : row.taskId = approval.taskId)
      (hw : row.workspaceId = approval.workspaceId) :
      WorkUpdate x (.pullRequest approval.id) (fun row => row.isNone) (fun _ => some row)
        { x with record := some (approval.id,row) }
  | call {x approvalId record artifact} (call : PullRequestCall)
      (hr : x.record = some (approvalId,record))
      (ha : x.artifact = some (record.patchArtifactId,artifact))
      (hd : call.diffText = artifact.diffText) :
      WorkUpdate x (.githubCalls approvalId) (fun _ => true)
        (fun calls => some (call :: calls.getD [])) x

inductive WorkFlush : Knowledge → ∀ k : Key, Row k → Row k → Knowledge → Prop
  | untracked {x} (k : Key) (l n : Row k) (h : k.isTracked = false) : WorkFlush x k l n x
  | task {x} (id : Id) {l n : Task} (ht : x.task = some (id,l)) (hs : n.status = l.status)
      (hk : SameTask l n) :
      WorkFlush x (.task id) (some l) (some n) { x with task := some (id,n) }
  | move {x} (id : Id) {l n : Task} (ht : x.task = some (id,l)) (ho : x.owed = none)
      (hs : n.status ∈ l.status.transitions) (hk : SameTask l n)
      (ha : x.approving = true → n.status = .mergeReady) :
      WorkFlush x (.task id) (some l) (some n)
        { x with task := some (id,n), owed := some l.status, approving := false }
  | artifact {x} (id : Id) {l n : PatchArtifact} (h : SamePatch l n) :
      WorkFlush x (.patchArtifact id) (some l) (some n) { x with artifact := none }
  | testRun {x} (id : Id) (l n : LocalTestRun) (h : x.reviewed = false) :
      WorkFlush x (.localTestRun id) (some l) (some n) { x with tests := none }
  | record {x} (id : Id) {l n : PullRequestRecord} (h : SameRecord l n) :
      WorkFlush x (.pullRequest id) (some l) (some n) { x with record := none }

def workCourse : Course Row Knowledge where
  learn x db next y := Learns db next x y
  number x n y := y = { x with numbered := some n }
  update := WorkUpdate
  flush := WorkFlush
  commit x y := x.owed = none ∧ x.approving = false ∧ y = x
  rollback x y := y = { reviewed := x.reviewed }

structure Settled (reviewed : Bool) (x : Knowledge) : Prop where
  owed : x.owed = none
  approving : x.approving = false
  reviewed : x.reviewed = reviewed

section statements

variable {b : Bool} {Φ : Knowledge → Prop}

theorem untracked {k : Key} (h : k.isTracked = false) : Unregulated workCourse Φ k :=
  ⟨fun g s x hx => ⟨x,hx,.untracked k g s h⟩,fun l n x hx => ⟨x,hx,.untracked k l n h⟩⟩

theorem work_resets : Resets workCourse (Settled b) :=
  ⟨fun x hx => ⟨x,hx,hx.owed,hx.approving,rfl⟩,
    fun x hx => ⟨{ reviewed := x.reviewed },⟨rfl,rfl,hx.reviewed⟩,rfl⟩⟩

theorem work_note (taskId : Id) (payload : TaskEventPayload) (createdAt : Time)
    (h : payload.isTransition = false) : Obeys workCourse Φ (createTaskEvent taskId payload createdAt) :=
  obeys_freshId.bind fun id => obeys_insert fun x hx => ⟨x,hx,.note id _ h⟩

theorem work_tables : RunTables workCourse (Settled b) where
  rows k hk := untracked (by cases k <;> first | rfl | cases hk)
  resets := work_resets
  note := work_note

theorem work_newTask (id : Id) {row : Task} (h : row.status = .created) :
    Obeys workCourse Φ (insert (.task id) row) := obeys_insert fun x hx => ⟨x,hx,.newTask id row h⟩

-- The session holds the task and owes nothing.
structure Holds (b : Bool) (taskId : Id) (task : Task) (x : Knowledge) : Prop extends Settled b x where
  task : x.task = some (taskId,task)

end statements

end AiScdc
