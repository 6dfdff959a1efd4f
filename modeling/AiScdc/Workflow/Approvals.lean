import AiScdc.Workflow.TestReview

namespace AiScdc

def findPatchApproval (approvalId : Id) : Op (Option (Id × PatchApproval)) := do
  let found ← selectWhere .patchApproval fun patchArtifactId approval =>
    if approval.id = approvalId then some (patchArtifactId,approval) else none
  pure found.head?

def getPatchApprovalOr404 (ctx : Option AuthContext) (approvalId : Id) : Op (Id × PatchApproval) := do
  match ← findPatchApproval approvalId with
  | none => httpError 404 "Patch approval not found"
  | some (patchArtifactId,approval) =>
    enforceWorkspaceAccess ctx approval.workspaceId "Patch approval not found"
    pure (patchArtifactId,approval)

def getPatchReviewEntity (ctx : Option AuthContext) (reviewId : Id) : Op PatchReview := do
  let found ← selectWhere .patchReview fun _ review =>
    if review.id = reviewId then some review else none
  match found.head? with
  | none => httpError 404 "Patch review not found"
  | some review =>
    enforceWorkspaceAccess ctx review.workspaceId "Patch review not found"
    pure review

structure PatchApprovalResult where
  task : Task
  patchArtifact : PatchArtifact
  review : PatchReview
  approval : PatchApproval

def approvalResultRead (ctx : Option AuthContext) (patchArtifactId : Id) (approval : PatchApproval) :
    Op PatchApprovalResult := do
  let task ← getTask ctx approval.taskId
  let artifact ← getPatchArtifactEntity ctx patchArtifactId
  let review ← getPatchReviewEntity ctx approval.reviewId
  pure ⟨task,artifact,review,approval⟩

def patchApprovalOf (approvalId : Id) (artifact : PatchArtifact) (task : Task) (review : PatchReview)
    (createdAt : Time) : PatchApproval where
  id := approvalId
  workspaceId := artifact.workspaceId
  projectId := task.projectId
  taskId := artifact.taskId
  localRunId := artifact.localRunId
  reviewId := review.id
  createdAt := createdAt

def insertPatchApproval (eventClock : Time) (patchArtifactId : Id) (artifact : PatchArtifact)
    (task : Task) (review : PatchReview) : Op Unit := do
  let approvalId ← freshId
  let createdAt ← utcNow
  insert (.patchApproval patchArtifactId) (patchApprovalOf approvalId artifact task review createdAt)
  createTaskEvent artifact.taskId (.patchApprovalCreated approvalId patchArtifactId review.id)
    (eventClock + 1)
  let _ ← transitionTaskForPatchApproval (eventClock + 2) artifact.taskId task .mergeReady
  commit

def approvalConflict (ctx : Option AuthContext) (patchArtifactId : Id) : Op PatchApprovalResult := do
  rollback
  match ← get (.patchApproval patchArtifactId) with
  | some approval => approvalResultRead ctx patchArtifactId approval
  | none => httpError 409 "Patch approval could not be created because of a uniqueness conflict"

def isApproved (review : Option PatchReview) : Option PatchReview :=
  review.filter fun review => review.verdict = .approved

-- The answer carries the status code, 200 for an approval that existed and 201 for a new one.
def approvePatchArtifact (ctx : Option AuthContext) (patchArtifactId : Id) :
    Op (PatchApprovalResult × ℕ) := do
  let artifact ← getPatchArtifactEntity ctx patchArtifactId
  requireAuditedPermissionIfAuthenticated ctx
  match ← get (.patchApproval patchArtifactId) with
  | some approval =>
    let result ← approvalResultRead ctx patchArtifactId approval
    commit
    pure (result,200)
  | none =>
    let task ← getTask ctx artifact.taskId
    requireStatus task .approved "Task must be APPROVED before patch approval"
    let latest ← get (.patchReview patchArtifactId)
    match isApproved latest with
    | none => httpError 400 "Patch approval requires an approved review"
    | some review =>
      let eventClock ← utcNow
      let conflict ← catchIntegrityError (do
        insertPatchApproval eventClock patchArtifactId artifact task review
        pure none) (do
        let result ← approvalConflict ctx patchArtifactId
        pure (some result))
      match conflict with
      | some result => pure (result,200)
      | none =>
        let approval ← refresh (.patchApproval patchArtifactId)
        let result ← approvalResultRead ctx patchArtifactId approval
        pure (result,201)

def requestHumanApproval (ctx : Option AuthContext) (approvalId : Id) : Op PatchApprovalResult := do
  let (patchArtifactId,approval) ← getPatchApprovalOr404 ctx approvalId
  let task ← getTask ctx approval.taskId
  requireAuditedPermissionIfAuthenticated ctx
  requireStatus task .mergeReady "Task must be MERGE_READY before human approval can be requested"
  let eventClock ← utcNow
  createTaskEvent approval.taskId
    (.humanApprovalRequested approvalId patchArtifactId approval.reviewId) (eventClock + 1)
  let _ ← transitionTaskForPatchApproval (eventClock + 2) approval.taskId task .humanApproval
  commit
  let approval ← refresh (.patchApproval patchArtifactId)
  approvalResultRead ctx patchArtifactId approval

end AiScdc
