import AiScdc.BudgetRules

namespace AiScdc
open Transaction

def settlementOwned : UsageType → Bool
  | .workerSubmissions | .queueMessages | .cloudRunRuntimeSeconds | .objectStorageBytes
  | .logSyncCalls => true
  | .modelTokens | .objectStorageReads | .prPublishAttempts => false

structure UsageLedgerCreate where
  projectId : Option Id := none
  plannerRunId : Option Id := none
  taskId : Option Id := none
  cloudRunId : Option Id := none
  usageType : UsageType := .modelTokens
  providerName : QueueProvider
  quantity : ℕ := 0
  unitName : String := ""
  unitPriceCents : ℕ := 0
  amountCents : ℕ := 0
  deriving DecidableEq, Repr

def validateProject (ctx : Option AuthContext) : Option Id → Op Unit
  | none => pure ()
  | some projectId => do
    let _ ← getProject ctx projectId
    pure ()

def validateTask (ctx : Option AuthContext) (taskId projectId : Option Id) : Op (Option Task) :=
  match taskId with
  | none => pure none
  | some taskId => do
    let task ← getOr404 (.task taskId) "Task not found"
    validateProject ctx (some task.projectId)
    if projectId.any (fun p => p ≠ task.projectId) then
      httpError 400 "Task does not belong to project"
    else pure (some task)

def validatePlannerRun (ctx : Option AuthContext) (plannerRunId projectId : Option Id) :
    Op (Option PlannerRun) :=
  match plannerRunId with
  | none => pure none
  | some plannerRunId => do
    let plannerRun ← getOr404 (.plannerRun plannerRunId) "Planner run not found"
    validateProject ctx (some plannerRun.projectId)
    if projectId.any (fun p => p ≠ plannerRun.projectId) then
      httpError 400 "Planner run does not belong to project"
    else pure (some plannerRun)

def validateCloudRun (ctx : Option AuthContext) (cloudRunId projectId taskId : Option Id) :
    Op (Option (Id × CloudRun)) :=
  match cloudRunId with
  | none => pure none
  | some cloudRunId => do
    let cloudRun ← getOr404 (.cloudRun cloudRunId) "Cloud run not found"
    enforceWorkspaceAccess ctx cloudRun.workspaceId "Cloud run not found"
    if taskId.any (fun t => t ≠ cloudRun.taskId) then
      httpError 400 "Cloud run does not belong to task"
    else if projectId.any (fun p => p ≠ cloudRun.projectId) then
      httpError 400 "Cloud run does not belong to project"
    else pure (some (cloudRunId,cloudRun))

def rejectSettlementOwnedCloudRunUsage (data : UsageLedgerCreate) : Op Unit :=
  if data.cloudRunId.isSome ∧ settlementOwned data.usageType then
    httpError 400 "Cloud-run settlement owns this usage type for cloud_run_id entries"
  else pure ()

def enterUsage (workspaceId : Id) (data : UsageLedgerCreate) (cloudRun : Option (Id × CloudRun))
    (projectId taskId : Option Id) : Op Unit := do
  let createdAt ← utcNow
  match cloudRun with
  | some (cloudRunId,cloudRun) =>
    insert (.cloudRunUsage cloudRunId data.usageType)
      { workspaceId, projectId := projectId.getD cloudRun.projectId,
        taskId := taskId.getD cloudRun.taskId, providerName := data.providerName,
        quantity := data.quantity, unitName := data.unitName,
        unitPriceCents := data.unitPriceCents, amountCents := data.amountCents, createdAt }
  | none =>
    let id ← freshId
    insert (.workspaceUsage id)
      { workspaceId, projectId, taskId, plannerRunId := data.plannerRunId,
        usageType := data.usageType, providerName := data.providerName,
        quantity := data.quantity, unitName := data.unitName,
        unitPriceCents := data.unitPriceCents, amountCents := data.amountCents, createdAt }

def appendUsageLedgerEntry (ctx : Option AuthContext) (data : UsageLedgerCreate)
    (commitNow : Bool) : Op Unit := do
  validateProject ctx data.projectId
  let task ← validateTask ctx data.taskId data.projectId
  let projectId := data.projectId.or (task.map Task.projectId)
  let cloudRun ← validateCloudRun ctx data.cloudRunId projectId data.taskId
  rejectSettlementOwnedCloudRunUsage data
  let projectId := projectId.or (cloudRun.map fun entry => entry.2.projectId)
  let taskId := data.taskId.or (cloudRun.map fun entry => entry.2.taskId)
  let plannerRun ← validatePlannerRun ctx data.plannerRunId projectId
  let projectId := projectId.or (plannerRun.map PlannerRun.projectId)
  let workspaceId ← currentWorkspaceId ctx
  enterUsage workspaceId data cloudRun projectId taskId
  if commitNow then commit else pure ()

end AiScdc
