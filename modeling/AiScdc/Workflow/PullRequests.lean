import AiScdc.Workflow.Approvals

namespace AiScdc

structure CreatedPullRequest where
  number : ℤ
  url : String
  deriving DecidableEq, Repr

-- What the checks on the repository's address and credential, the vault and GitHub answer.
structure PublishReplies where
  urlCheck : Except String Unit
  credentialCheck : Except String Unit
  vault : Except String Unit
  adapter : Except String CreatedPullRequest

def checkRepository (repository : Repository) (replies : PublishReplies) : Op Unit :=
  if repository.provider ≠ "github" then httpError 400 "Pull requests require a GitHub repository"
  else if repository.connectionStatus ≠ "active" then
    httpError 400 "GitHub repository is not active"
  else if repository.githubOwner.getD "" = "" ∨ repository.githubRepo.getD "" = "" then
    httpError 400 "GitHub repository metadata is incomplete"
  else
    match replies.urlCheck with
    | .ok _ => pure ()
    | .error detail => httpError 400 detail

def openCredential (repository : Repository) (replies : PublishReplies) : Op Unit :=
  match repository.githubCredentialId with
  | none => httpError 400 "GitHub credential is required"
  | some _ =>
    match replies.credentialCheck with
    | .error detail => httpError 404 detail
    | .ok _ =>
      match replies.vault with
      | .error name => .throw (.unhandled name)
      | .ok _ => pure ()

def newerCloudRun (a b : Id × CloudRun) : Bool :=
  b.2.createdAt < a.2.createdAt || (a.2.createdAt = b.2.createdAt && b.1 ≤ a.1)

def latestCloudRun (cloudRuns : List (Id × CloudRun)) : Option (Id × CloudRun) :=
  cloudRuns.foldr (fun a best =>
    match best with
    | none => some a
    | some b => if newerCloudRun a b then some a else some b) none

def latestCloudRunForArtifact (patchArtifactId : Id) (artifact : PatchArtifact) :
    Op (Option (Id × CloudRun)) := do
  let linked ← selectWhere .cloudRun fun id cloudRun =>
    if cloudRun.patchArtifactId = some patchArtifactId ∧
        cloudRun.workspaceId = artifact.workspaceId then some (id,cloudRun)
    else none
  match latestCloudRun linked with
  | some cloudRun => pure (some cloudRun)
  | none =>
    let fallback ← selectWhere .cloudRun fun id cloudRun =>
      if cloudRun.taskId = artifact.taskId ∧ cloudRun.localRunId = some artifact.localRunId ∧
          cloudRun.workspaceId = artifact.workspaceId then some (id,cloudRun)
      else none
    pure (latestCloudRun fallback)

structure PullRequestResult where
  task : Task
  patchArtifact : PatchArtifact
  approval : PatchApproval
  pullRequest : PullRequestRecord

def pullRequestResultRead (ctx : Option AuthContext) (approvalId : Id) (record : PullRequestRecord) :
    Op PullRequestResult := do
  let task ← getTask ctx record.taskId
  let artifact ← getPatchArtifactEntity ctx record.patchArtifactId
  let (_,approval) ← getPatchApprovalOr404 ctx approvalId
  pure ⟨task,artifact,approval,record⟩

def PullRequestRecord.finalizing (record : PullRequestRecord) (created : CreatedPullRequest) :
    PullRequestRecord :=
  { record with githubPrNumber := created.number, githubPrUrl := created.url, status := .finalizing }

def PullRequestRecord.moved (record : PullRequestRecord) (status : PullRequestStatus) :
    PullRequestRecord :=
  { record with status }

def getPullRequestRecord (ctx : Option AuthContext) (approvalId : Id) : Op PullRequestRecord := do
  let record ← getOr404 (.pullRequest approvalId) "Pull request not found"
  enforceWorkspaceAccess ctx record.workspaceId "Pull request not found"
  pure record

def persistPullRequestFinalizing (ctx : Option AuthContext) (approvalId : Id)
    (created : CreatedPullRequest) : Op Unit := do
  let record ← getPullRequestRecord ctx approvalId
  flush (.pullRequest approvalId) record (record.finalizing created)
  commit

def markPullRequestFailed (approvalId : Id) : Op Unit := do
  match ← get (.pullRequest approvalId) with
  | none => pure ()
  | some record =>
    flush (.pullRequest approvalId) record (record.moved .failed)
    commit

-- The record is the one the session holds: a retry has selected it, the creator has just reloaded it.
def finalizePullRequest (ctx : Option AuthContext) (approvalId : Id) (record : PullRequestRecord)
    (statusCode : ℕ) : Op (PullRequestResult × ℕ) := do
  enforceWorkspaceAccess ctx record.workspaceId "Pull request not found"
  let task ← getTask ctx record.taskId
  if task.status ≠ .prCreated then
    let _ ← transitionTaskToPrCreated record.taskId task
    let createdAt ← utcNow
    createTaskEvent record.taskId
      (.pullRequestCreated record.id approvalId record.patchArtifactId record.githubPrNumber
        record.githubPrUrl) createdAt
  flush (.pullRequest approvalId) record (record.moved .created)
  commit
  let record ← refresh (.pullRequest approvalId)
  let result ← pullRequestResultRead ctx approvalId record
  pure (result,statusCode)

def PullRequestStatus.text : PullRequestStatus → String
  | .creating => "creating"
  | .finalizing => "finalizing"
  | .created => "created"
  | .failed => "failed"
  | .other name => name

def handleExistingPullRequest (ctx : Option AuthContext) (approvalId : Id)
    (record : PullRequestRecord) : Op (PullRequestResult × ℕ) :=
  match record.status with
  | .created => do
    let result ← pullRequestResultRead ctx approvalId record
    pure (result,200)
  | .creating => httpError 409 "Pull request is already being created for this patch approval"
  | .failed => httpError 409 "Pull request creation previously failed for this patch approval"
  | .finalizing =>
    if 0 < record.githubPrNumber ∧ record.githubPrUrl ≠ "" then
      finalizePullRequest ctx approvalId record 200
    else httpError 409 "Pull request finalization is missing GitHub metadata"
  | .other name => httpError 409 s!"Pull request is in unsupported status {name}"

def pullRequestCall (repository : Repository) (cloudRun : CloudRun) (task : Task)
    (artifact : PatchArtifact) (record : PullRequestRecord) : PullRequestCall where
  owner := repository.githubOwner.getD ""
  repo := repository.githubRepo.getD ""
  repoUrl := repository.repoUrl
  baseBranch := record.baseBranch
  headBranch := cloudRun.headBranch
  diffText := artifact.diffText
  title := task.title
  body := s!"Created from patch artifact {record.patchArtifactId}."

-- The commit of the record has expired the rows that the session had loaded.
def reloadPullRequestCall (record : PullRequestRecord) : Op PullRequestCall := do
  let repository ← refresh (.repository record.repoId)
  let cloudRun ← refresh (.cloudRun record.cloudRunId)
  let artifact ← refresh (.patchArtifact record.patchArtifactId)
  let task ← refresh (.task record.taskId)
  pure (pullRequestCall repository cloudRun task artifact record)

-- GitHub's side of the call, which takes effect whatever becomes of the session.
def createPullRequest (approvalId : Id) (call : PullRequestCall) : Op Unit :=
  .update (.githubCalls approvalId) (fun _ => true) (fun calls => some (call :: calls.getD []))
    fun _ => .commit (.pure ())

def newPullRequestRecord (recordId : Id) (approval : PatchApproval) (patchArtifactId cloudRunId : Id)
    (cloudRun : CloudRun) (repository : Repository) (createdAt : Time) : PullRequestRecord where
  id := recordId
  workspaceId := approval.workspaceId
  projectId := approval.projectId
  taskId := approval.taskId
  repoId := cloudRun.repoId
  patchArtifactId := patchArtifactId
  cloudRunId := cloudRunId
  headBranch := cloudRun.headBranch
  baseBranch := if cloudRun.baseBranch = "" then repository.defaultBranch else cloudRun.baseBranch
  githubPrNumber := 0
  githubPrUrl := ""
  status := .creating
  createdAt := createdAt

def preparePullRequestRecord (ctx : Option AuthContext) (patchArtifactId : Id)
    (approval : PatchApproval) (replies : PublishReplies) : Op PullRequestRecord := do
  let artifact ← getPatchArtifactEntity ctx patchArtifactId
  let task ← getTask ctx approval.taskId
  requireStatus task .humanApproval "Task must be HUMAN_APPROVAL before pull request creation"
  match ← latestCloudRunForArtifact patchArtifactId artifact with
  | none => httpError 400 "Pull request creation requires a linked cloud run"
  | some (cloudRunId,cloudRun) =>
    let repository ← getRepository ctx cloudRun.repoId
    checkRepository repository replies
    openCredential repository replies
    let recordId ← freshId
    let createdAt ← utcNow
    pure (newPullRequestRecord recordId approval patchArtifactId cloudRunId cloudRun repository
      createdAt)

def pullRequestConflict (ctx : Option AuthContext) (approvalId : Id) : Op (PullRequestResult × ℕ) := do
  rollback
  match ← get (.pullRequest approvalId) with
  | some record => handleExistingPullRequest ctx approvalId record
  | none =>
    httpError 409 "Pull request record could not be created because of a uniqueness conflict"

def publishPullRequest (ctx : Option AuthContext) (approvalId : Id) (record : PullRequestRecord)
    (adapter : Except String CreatedPullRequest) : Op (PullRequestResult × ℕ) := do
  let call ← reloadPullRequestCall record
  createPullRequest approvalId call
  match adapter with
  | .error detail =>
    markPullRequestFailed approvalId
    httpError 502 s!"message: Pull request creation failed, error: {detail}"
  | .ok created =>
    persistPullRequestFinalizing ctx approvalId created
    let record ← getOr404 (.pullRequest approvalId) "Pull request not found"
    let result ← finalizePullRequest ctx approvalId record 201
    commit
    pure result

def createPullRequestForApproval (ctx : Option AuthContext) (approvalId : Id)
    (replies : PublishReplies) : Op (PullRequestResult × ℕ) := do
  let (patchArtifactId,approval) ← getPatchApprovalOr404 ctx approvalId
  requireAuditedPermissionIfAuthenticated ctx
  match ← get (.pullRequest approvalId) with
  | some record =>
    let result ← handleExistingPullRequest ctx approvalId record
    commit
    pure result
  | none =>
    let record ← preparePullRequestRecord ctx patchArtifactId approval replies
    let conflict ← catchIntegrityError (do
      insert (.pullRequest approvalId) record
      commit
      pure none) (do
      let result ← pullRequestConflict ctx approvalId
      pure (some result))
    match conflict with
    | some result => pure result
    | none => publishPullRequest ctx approvalId record replies.adapter

end AiScdc
