import AiScdc.Workflow.Tasks

namespace AiScdc

def getPlannerRun (ctx : Option AuthContext) (plannerRunId : Id) : Op PlannerRun := do
  let plannerRun ← getOr404 (.plannerRun plannerRunId) "Planner run not found"
  let _ ← getProject ctx plannerRun.projectId
  pure plannerRun

def ensurePlannerRunIsDrafted (plannerRun : PlannerRun) : Op Unit :=
  if plannerRun.status = .drafted then pure ()
  else httpError 400 "Planner run has already been decided"

def listPlannerTaskDrafts (plannerRunId : Id) : Op (List (Id × PlannerTaskDraft)) := do
  let drafts ← selectWhere .plannerTaskDraft fun id draft =>
    if draft.plannerRunId = plannerRunId then some (id,draft) else none
  pure (drafts.insertionSort fun a b => a.2.sequence ≤ b.2.sequence)

def newApproval (approvalId : Id) (project : Project) (projectId : Id) (status : ApprovalStatus)
    (reason : String) (decidedAt : Time) : Approval where
  id := approvalId
  workspaceId := project.workspaceId
  projectId := projectId
  reason := reason
  status := status
  decidedAt := decidedAt

def draftedTask (draft : PlannerTaskDraft) : TaskCreate where
  title := draft.title
  allowedPaths := draft.allowedPaths
  requiredTests := draft.requiredTests
  repoId := none
  branchName := none
  worktreeRef := none

def createDraftedTask (plannerRunId projectId draftId : Id) (draft : PlannerTaskDraft) : Op Id := do
  let taskId ← freshId
  let now ← utcNow
  insert (.task taskId) (newTask projectId (draftedTask draft) now)
  let createdAt ← utcNow
  createTaskEvent taskId (.taskCreated .created (some plannerRunId) (some draftId)) createdAt
  pure taskId

def createDraftedTasks (plannerRunId projectId : Id) : List (Id × PlannerTaskDraft) → Op (List Id)
  | [] => pure []
  | (draftId,draft) :: rest => do
    let taskId ← createDraftedTask plannerRunId projectId draftId draft
    let taskIds ← createDraftedTasks plannerRunId projectId rest
    pure (taskId :: taskIds)

def PlannerRun.decided (plannerRun : PlannerRun) (status : PlannerRunStatus) (now : Time) :
    PlannerRun :=
  { plannerRun with status, updatedAt := now }

def orAlreadyDecided {α : Type} (m : Op α) : Op α :=
  tryCatch m fun
    | .integrityError => do
      rollback
      httpError 400 "Planner run has already been decided"
    | e => throw e

structure PlannerRunDecision where
  approvalId : Id
  status : PlannerRunStatus
  createdTasks : List Task

def refreshTasks : List Id → Op (List Task)
  | [] => pure []
  | taskId :: rest => do
    let task ← refresh (.task taskId)
    let tasks ← refreshTasks rest
    pure (task :: tasks)

def decideApproved (plannerRunId : Id) (plannerRun : PlannerRun) (project : Project)
    (drafts : List (Id × PlannerTaskDraft)) : Op (List Id) := do
  let decidedAt ← utcNow
  let approvalId ← freshId
  insert (.approval plannerRunId)
    (newApproval approvalId project plannerRun.projectId .approved "" decidedAt)
  let taskIds ← createDraftedTasks plannerRunId plannerRun.projectId drafts
  let updatedAt ← utcNow
  flush (.plannerRun plannerRunId) plannerRun (plannerRun.decided .approved updatedAt)
  commit
  pure taskIds

def approvePlannerRun (ctx : Option AuthContext) (plannerRunId : Id) : Op PlannerRunDecision := do
  let plannerRun ← getPlannerRun ctx plannerRunId
  let project ← getProject ctx plannerRun.projectId
  requireAuditedPermissionIfAuthenticated ctx
  ensurePlannerRunIsDrafted plannerRun
  let drafts ← listPlannerTaskDrafts plannerRunId
  let taskIds ← orAlreadyDecided (decideApproved plannerRunId plannerRun project drafts)
  let approval ← refresh (.approval plannerRunId)
  let _ ← refresh (.plannerRun plannerRunId)
  let tasks ← refreshTasks taskIds
  pure ⟨approval.id,.approved,tasks⟩

def decideRejected (plannerRunId : Id) (plannerRun : PlannerRun) (project : Project)
    (reason : String) : Op Unit := do
  let decidedAt ← utcNow
  let approvalId ← freshId
  insert (.approval plannerRunId)
    (newApproval approvalId project plannerRun.projectId .rejected reason decidedAt)
  let updatedAt ← utcNow
  flush (.plannerRun plannerRunId) plannerRun (plannerRun.decided .rejected updatedAt)
  commit

def rejectPlannerRun (ctx : Option AuthContext) (plannerRunId : Id) (reason : String) :
    Op PlannerRunDecision := do
  let plannerRun ← getPlannerRun ctx plannerRunId
  let project ← getProject ctx plannerRun.projectId
  requireAuditedPermissionIfAuthenticated ctx
  ensurePlannerRunIsDrafted plannerRun
  orAlreadyDecided (decideRejected plannerRunId plannerRun project reason)
  let approval ← refresh (.approval plannerRunId)
  let _ ← refresh (.plannerRun plannerRunId)
  pure ⟨approval.id,.rejected,[]⟩

end AiScdc
