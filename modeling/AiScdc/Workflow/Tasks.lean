import AiScdc.CloudRunner.Finalize

namespace AiScdc

def Actor.text : Actor → String
  | .user => "user"
  | .system => "system"
  | .agent => "agent"

def invalidTransitionMessage (actor : Actor) (current requested : TaskStatus) : String :=
  let transition := s!"{current.text} -> {requested.text}"
  let allowed := quoted (allowedNextStatuses current)
  match validateTransition current requested actor with
  | .error (.terminal _ _) =>
    s!"Invalid task transition {transition}; terminal status cannot transition; allowed={allowed}"
  | .error (.mergeRefused _ _) =>
    s!"Invalid task transition {transition} for actor_type={actor.text}; " ++
      s!"MERGED requires HUMAN_APPROVAL or PR_CREATED and actor_type=system; allowed={allowed}"
  | _ => s!"Invalid task transition {transition}; allowed={allowed}"

def invalidTransitionDetail (actor : Actor) (current requested : TaskStatus) : String :=
  s!"message: {invalidTransitionMessage actor current requested}, " ++
    s!"current_status: {current.text}, requested_status: {requested.text}, " ++
    s!"allowed_next_statuses: {quoted (allowedNextStatuses current)}"

-- The step all helpers share: validate, write the status, write its event.
def transitionTaskWith (actor : Actor) (stamp : Op Time) (taskId : Id) (task : Task)
    (requested : TaskStatus) : Op Task :=
  match validateTransition task.status requested actor with
  | .error _ => httpError 400 (invalidTransitionDetail actor task.status requested)
  | .ok nextStatus => do
    let updatedAt ← utcNow
    let moved := { task with status := nextStatus, updatedAt }
    flush (.task taskId) task moved
    let createdAt ← stamp
    createTaskEvent taskId (.taskTransitioned task.status nextStatus) createdAt
    pure moved

def transitionTaskForWorkflow (eventTime : Time) (taskId : Id) (task : Task)
    (requested : TaskStatus) : Op Task :=
  transitionTaskWith .system (pure eventTime) taskId task requested

def transitionTaskForPatchApproval (eventTime : Time) (taskId : Id) (task : Task)
    (requested : TaskStatus) : Op Task :=
  transitionTaskWith .system (pure eventTime) taskId task requested

def transitionTaskForLocalRunner (eventTime : Time) (taskId : Id) (task : Task)
    (requested : TaskStatus) : Op Task :=
  transitionTaskWith .system (pure eventTime) taskId task requested

def transitionTaskToPrCreated (taskId : Id) (task : Task) : Op Task :=
  transitionTaskWith .system utcNow taskId task .prCreated

def transitionTask (ctx : Option AuthContext) (taskId : Id) (requested : TaskStatus)
    (actor : Actor) : Op Task := do
  let task ← getTask ctx taskId
  requireAuditedPermissionIfAuthenticated ctx
  let _ ← transitionTaskWith actor utcNow taskId task requested
  commit
  refresh (.task taskId)

def unexpectedStatusDetail (message : String) (current expected : TaskStatus) : String :=
  s!"message: {message}, current_status: {current.text}, expected_status: {expected.text}, " ++
    s!"allowed_next_statuses: {quoted (allowedNextStatuses current)}"

def requireStatus (task : Task) (expected : TaskStatus) (message : String) : Op Unit :=
  if task.status = expected then pure ()
  else httpError 400 (unexpectedStatusDetail message task.status expected)

structure TaskCreate where
  title : String
  allowedPaths : List String
  requiredTests : List String
  repoId : Option Id
  branchName : Option String
  worktreeRef : Option String
  deriving DecidableEq, Repr

def newTask (projectId : Id) (data : TaskCreate) (now : Time) : Task where
  projectId := projectId
  status := .created
  repoId := data.repoId
  branchName := data.branchName
  worktreeRef := data.worktreeRef
  updatedAt := now
  title := data.title
  allowedPaths := data.allowedPaths
  requiredTests := data.requiredTests

def taskRepository (ctx : Option AuthContext) (data : TaskCreate) : Op (Option Repository) :=
  match data.repoId with
  | none => pure none
  | some repoId => do
    let repository ← getRepository ctx repoId
    pure (some repository)

-- The checks on the conversation and on the parent task are left out.
def createTask (ctx : Option AuthContext) (projectId : Id) (data : TaskCreate) : Op Task := do
  let _ ← getProject ctx projectId
  let repository ← taskRepository ctx data
  requireAuditedPermissionIfAuthenticated ctx
  if repository.any fun r => r.projectId ≠ projectId then
    httpError 400 "Repository does not belong to project"
  else
    let taskId ← freshId
    let now ← utcNow
    insert (.task taskId) (newTask projectId data now)
    let createdAt ← utcNow
    createTaskEvent taskId (.taskCreated .created none none) createdAt
    commit
    refresh (.task taskId)

end AiScdc
