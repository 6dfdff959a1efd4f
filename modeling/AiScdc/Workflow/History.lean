import AiScdc.Transaction.Commits
import AiScdc.Workflow.Course

namespace AiScdc
open Transaction

section histories

variable [Digest]

-- Every operation runs to its end, returning or raising, before the next one starts.
inductive Reached (w₀ : World) : World → Prop
  | start : Reached w₀ w₀
  | op {w} (clock : ℕ → Time) (o : WorkflowOp) (h : Reached w₀ w) :
      Reached w₀ (perform clock o.program w).2

-- The worlds before and after one commit of an operation.
def Committed (w₀ : World) (c : World × World) : Prop :=
  ∃ w clock, ∃ o : WorkflowOp, Reached w₀ w ∧ c ∈ commits clock o.program ⟨w,Pending.empty,0⟩

def Visible (w₀ w : World) : Prop := Reached w₀ w ∨ ∃ c, Committed w₀ c ∧ w = c.2

theorem Reached.becomes {w₀ w : World} (h : Reached w₀ w) {B : Db → Prop} (h₀ : ¬ B w₀.db)
    (hB : B w.db) : ∃ c, Committed w₀ c ∧ ¬ B c.1.db ∧ B c.2.db := by
  induction h with
  | start => exact (h₀ hB).elim
  | @op w clock o h ih =>
    by_cases hb : B w.db
    · exact ih hb
    · obtain ⟨c,hc,hflip⟩ := (commits_linked clock o.program ⟨w,Pending.empty,0⟩).becomes hb (Or.inl rfl) hB
      exact ⟨c,⟨w,clock,o,h,hc⟩,hflip⟩

theorem Visible.becomes {w₀ w : World} (h : Visible w₀ w) {B : Db → Prop} (h₀ : ¬ B w₀.db)
    (hB : B w.db) : ∃ c, Committed w₀ c ∧ ¬ B c.1.db ∧ B c.2.db := by
  rcases h with h | ⟨c,⟨w',clock,o,h,hc⟩,rfl⟩
  · exact h.becomes h₀ hB
  · by_cases hb : B w'.db
    · exact h.becomes h₀ hb
    · obtain ⟨d,hd,hflip⟩ := (commits_linked clock o.program ⟨w',Pending.empty,0⟩).becomes hb
        (Or.inr ⟨c,hc,rfl⟩) hB
      exact ⟨d,⟨w',clock,o,h,hd⟩,hflip⟩

def playWork (w : World) : List ((ℕ → Time) × WorkflowOp) → World
  | [] => w
  | (clock,o) :: rest => playWork (perform clock o.program w).2 rest

theorem Reached.plays {w₀ w : World} (h : Reached w₀ w) (ops : List ((ℕ → Time) × WorkflowOp)) :
    Reached w₀ (playWork w ops) := by
  induction ops generalizing w with
  | nil => exact h
  | cons step rest ih => exact ih (h.op step.1 step.2)

end histories

-- No task and nothing of a task exists yet.
structure Untouched (w : World) : Prop where
  rows : ∀ k, k.isTracked → w.db k = none

section sample

def workDb : Db
  | .creditWallet 1 => some ⟨1000,0⟩
  | .project 2 => some ⟨1⟩
  | .repository 3 => some ⟨1,2,"github","active","main","https://github.com/acme/app","acme",
      "app",some 1⟩
  | _ => none

def workWorld : World := ⟨workDb,4⟩

theorem work_untouched : Untouched workWorld := ⟨fun k hk => by cases k <;> first | rfl | cases hk⟩

def sampleTask : WorkflowOp := .createTask sampleOwner 2 ⟨"task",["src/**"],[],none,none,none⟩

def move (requested : TaskStatus) : WorkflowOp := .transition sampleOwner 4 requested .user

def sampleResult : CloudRunExecutionResultCreate where
  status := .patchReady
  runnerKind := "docker"
  filesChanged := ["src/app.py"]
  testsRun := ["pytest"]
  testResult := "passed"
  diffText := "--- a/src/app.py\n+++ b/src/app.py\n"
  testCommandResults := [⟨"pytest",some 0,"","",0,false⟩]

def workComplete (leaseId : Id) (result : CloudRunExecutionResultCreate) : WorkflowOp :=
  .cloudRun (.complete sampleOwner ⟨leaseId,"worker",none,false⟩ result
    ⟨fun _ => .readError "",[],.deleted⟩)

-- The operations at one second after another.
def timed (ops : List WorkflowOp) : List ((ℕ → Time) × WorkflowOp) :=
  ops.zipIdx.map fun o => (fun tick => o.2 * 1000 + tick,o.1)

def samplePlan : List WorkflowOp :=
  [sampleTask,.cloudRun (sampleEnqueue 4),.cloudRun sampleClaim,workComplete 10 sampleResult]

-- Two cloud runs of the task have each left a patch.
def twoPatches : List WorkflowOp :=
  samplePlan ++ [.cloudRun (sampleEnqueue 4),.cloudRun sampleClaim,workComplete 25 sampleResult]

def reviewed : List WorkflowOp := [move .reviewing,.review sampleOwner 13]

def publishReplies : PublishReplies :=
  ⟨.ok (),.ok (),.ok (),.ok ⟨7,"https://github.com/acme/app/pull/7"⟩⟩

-- The patch of one cloud run goes all the way to a pull request, under approval 25.
def published (result : CloudRunExecutionResultCreate) : List WorkflowOp :=
  [sampleTask,.cloudRun (sampleEnqueue 4),.cloudRun sampleClaim,workComplete 10 result] ++ reviewed ++
    [.approve sampleOwner 13,.requestHuman sampleOwner 25,.publish sampleOwner 25 publishReplies]

-- The second patch is reviewed after a round through FIX_REQUESTED.
def bothReviewed : List WorkflowOp :=
  twoPatches ++ reviewed ++ [move .ciRunning,move .fixRequested,move .inProgress,move .patchReady,
    move .reviewing,.review sampleOwner 28]

-- One thread for each operation, each run to its end before the next.
def inTurn (steps : ℕ) (ops : List WorkflowOp) : List (Fin ops.length × Time) :=
  (List.finRange ops.length).flatMap fun i => List.replicate steps (i,(i.val * 1000 : ℤ))

end sample

end AiScdc
