import AiScdc.CloudRunner.History
import AiScdc.Workflow.LocalRuns
import AiScdc.Workflow.Planner
import AiScdc.Workflow.PullRequests

namespace AiScdc
open Transaction

inductive WorkflowOp where
  | cloudRun (o : CloudRunnerOp)
  | createTask (ctx : Option AuthContext) (projectId : Id) (data : TaskCreate)
  | transition (ctx : Option AuthContext) (taskId : Id) (requested : TaskStatus) (actor : Actor)
  | localRun (ctx : Option AuthContext) (taskId repoId : Id) (reply : Except String LocalRunnerResult)
  | testRun (ctx : Option AuthContext) (patchArtifactId : Id) (reply : TestRunnerReply)
  | review (ctx : Option AuthContext) (patchArtifactId : Id)
  | approve (ctx : Option AuthContext) (patchArtifactId : Id)
  | requestHuman (ctx : Option AuthContext) (approvalId : Id)
  | publish (ctx : Option AuthContext) (approvalId : Id) (replies : PublishReplies)
  | approvePlan (ctx : Option AuthContext) (plannerRunId : Id)
  | rejectPlan (ctx : Option AuthContext) (plannerRunId : Id) (reason : String)

def WorkflowOp.program [Digest] : WorkflowOp → Op Unit
  | .cloudRun o => o.program
  | .createTask ctx projectId data => discard (AiScdc.createTask ctx projectId data)
  | .transition ctx taskId requested actor => discard (transitionTask ctx taskId requested actor)
  | .localRun ctx taskId repoId reply => discard (startLocalTaskRun ctx taskId repoId reply)
  | .testRun ctx patchArtifactId reply => discard (startPatchTestRun ctx patchArtifactId reply)
  | .review ctx patchArtifactId => discard (startPatchReview ctx patchArtifactId)
  | .approve ctx patchArtifactId => discard (approvePatchArtifact ctx patchArtifactId)
  | .requestHuman ctx approvalId => discard (requestHumanApproval ctx approvalId)
  | .publish ctx approvalId replies => discard (createPullRequestForApproval ctx approvalId replies)
  | .approvePlan ctx plannerRunId => discard (approvePlannerRun ctx plannerRunId)
  | .rejectPlan ctx plannerRunId reason => discard (rejectPlannerRun ctx plannerRunId reason)

end AiScdc
