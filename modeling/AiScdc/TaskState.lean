import AiScdc.Entities

namespace AiScdc

namespace TaskStatus

def text : TaskStatus → String
  | .created => "CREATED"
  | .specDrafted => "SPEC_DRAFTED"
  | .userApprovedSpec => "USER_APPROVED_SPEC"
  | .tasksCreated => "TASKS_CREATED"
  | .assigned => "ASSIGNED"
  | .inProgress => "IN_PROGRESS"
  | .patchReady => "PATCH_READY"
  | .selfTesting => "SELF_TESTING"
  | .reviewing => "REVIEWING"
  | .fixRequested => "FIX_REQUESTED"
  | .approved => "APPROVED"
  | .ciRunning => "CI_RUNNING"
  | .mergeReady => "MERGE_READY"
  | .humanApproval => "HUMAN_APPROVAL"
  | .prCreated => "PR_CREATED"
  | .merged => "MERGED"
  | .closed => "CLOSED"
  | .cancelled => "CANCELLED"

def terminalStatuses : List TaskStatus := [.merged,.closed,.cancelled]

def transitions : TaskStatus → List TaskStatus
  | .created => [.specDrafted,.assigned,.cancelled]
  | .specDrafted => [.userApprovedSpec,.cancelled]
  | .userApprovedSpec => [.tasksCreated,.cancelled]
  | .tasksCreated => [.assigned,.cancelled]
  | .assigned => [.inProgress,.cancelled]
  | .inProgress => [.patchReady,.fixRequested,.cancelled]
  | .patchReady => [.selfTesting,.reviewing,.cancelled]
  | .selfTesting => [.reviewing,.fixRequested,.cancelled]
  | .reviewing => [.approved,.fixRequested,.cancelled]
  | .fixRequested => [.inProgress,.cancelled]
  | .approved => [.ciRunning,.mergeReady,.cancelled]
  | .ciRunning => [.mergeReady,.fixRequested,.cancelled]
  | .mergeReady => [.humanApproval,.cancelled]
  | .humanApproval => [.prCreated,.merged,.closed]
  | .prCreated => [.merged,.closed,.cancelled]
  | .merged => []
  | .closed => []
  | .cancelled => []

end TaskStatus

inductive Actor where
  | user | system | agent
  deriving DecidableEq, Repr

inductive InvalidTaskTransition where
  | terminal (current requested : TaskStatus)
  | mergeRefused (current : TaskStatus) (actor : Actor)
  | notAllowed (current requested : TaskStatus)
  deriving DecidableEq, Repr

def validateTransition (current requested : TaskStatus) (actor : Actor) :
    Except InvalidTaskTransition TaskStatus :=
  if current ∈ TaskStatus.terminalStatuses then .error (.terminal current requested)
  else if requested = .merged ∧
      (current ∉ [TaskStatus.humanApproval,TaskStatus.prCreated] ∨ actor ≠ .system) then
    .error (.mergeRefused current actor)
  else if requested ∉ current.transitions then .error (.notAllowed current requested)
  else .ok requested

theorem validateTransition_ok {current requested next : TaskStatus} {actor : Actor}
    (h : validateTransition current requested actor = .ok next) :
    next = requested ∧ requested ∈ current.transitions := by
  unfold validateTransition at h
  split at h
  · cases h
  · split at h
    · cases h
    · split at h
      · cases h
      · rename_i hmem
        cases h
        exact ⟨rfl,not_not.mp hmem⟩

theorem transitions_irrefl (status : TaskStatus) : status ∉ status.transitions := by
  cases status <;> decide

end AiScdc
