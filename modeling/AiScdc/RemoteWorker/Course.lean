import AiScdc.RemoteWorker.Reports

namespace AiScdc.RemoteWorker

def answers (events : List WorkerEvent) : List (Option Bool) :=
  events.filterMap fun event => match event with
    | .heartbeat answer => some answer
    | .process _ _ => none

def executed (events : List WorkerEvent) : List (String × ProcessOutcome) :=
  events.filterMap fun event => match event with
    | .heartbeat _ => none
    | .process command outcome => some (command,outcome)

def cancelAnswer : WorkerEvent := .heartbeat (some true)

section heeding

variable {α β : Type}

-- A cancelled poll is the last event, and the step returns a value that says so.
def Heeds (m : Step α) (cancelled : α → Prop) : Prop :=
  ∀ s, ∃ events, (m s).2.events = s.events ++ events ∧
    (cancelAnswer ∉ events ∨ ∃ before a, events = before ++ [cancelAnswer] ∧ cancelAnswer ∉ before ∧
      (m s).1 = some a ∧ cancelled a)

variable {m : Step α} {f : α → Step β} {cancelled : α → Prop} {cancelled' : β → Prop}

theorem heeds_pure (a : α) : Heeds (pure a) cancelled :=
  fun _ => ⟨[],(List.append_nil _).symm,Or.inl List.not_mem_nil⟩

theorem heeds_heartbeat (client : WorkerClient) : Heeds (heartbeat client) fun b => b = true := by
  intro s
  refine ⟨[.heartbeat (client.heartbeat s.heartbeats)],rfl,?_⟩
  cases hanswer : client.heartbeat s.heartbeats with
  | none => exact Or.inl (by simp [cancelAnswer])
  | some b =>
    cases b with
    | false => exact Or.inl (by simp [cancelAnswer])
    | true => exact Or.inr ⟨[],true,rfl,List.not_mem_nil,hanswer,rfl⟩

theorem heeds_runShell (process : ℕ → ProcessOutcome) (command : String) {cancelled} :
    Heeds (runShell process command) cancelled :=
  fun s => ⟨[.process command (process s.processes)],rfl,Or.inl (by simp [cancelAnswer])⟩

theorem Heeds.bind (hm : Heeds m cancelled) (hf : ∀ a, Heeds (f a) cancelled')
    (hstop : ∀ a, cancelled a → ∃ b, cancelled' b ∧ f a = pure b) : Heeds (m >>= f) cancelled' := by
  intro s
  obtain ⟨events,hevents,hquiet⟩ := hm s
  cases hrun : m s with
  | mk result s' =>
    rw [hrun] at hevents hquiet
    cases result with
    | none =>
      have hbind : (m >>= f) s = (none,s') := by
        change Step.bind m f s = _
        rw [Step.bind,hrun]
      rw [hbind]
      refine ⟨events,hevents,hquiet.imp_right ?_⟩
      rintro ⟨_,_,_,_,hnone,_⟩
      cases hnone
    | some a =>
      rw [Step.bind_of_some hrun]
      rcases hquiet with hquiet | ⟨before,a',hlast,hbefore,hvalue,hcancelled⟩
      · obtain ⟨later,hlater,hend⟩ := hf a s'
        refine ⟨events ++ later,by rw [hlater,hevents,List.append_assoc],?_⟩
        rcases hend with hend | ⟨before,b,rfl,hbefore,hvalue,hcancelled⟩
        · exact Or.inl (by simp [hquiet,hend])
        · exact Or.inr ⟨events ++ before,b,(List.append_assoc _ _ _).symm,by simp [hquiet,hbefore],
            hvalue,hcancelled⟩
      · obtain rfl := Option.some.inj hvalue
        obtain ⟨b,hb,hpure⟩ := hstop a hcancelled
        rw [hpure]
        exact ⟨events,hevents,Or.inr ⟨before,b,hlast,hbefore,rfl,hb⟩⟩

-- What runs only processes is never cancelled.
theorem Heeds.andThen (hm : Heeds m fun _ => False) (hf : ∀ a, Heeds (f a) cancelled') :
    Heeds (m >>= f) cancelled' := hm.bind hf fun _ h => h.elim

end heeding

section stages

variable (client : WorkerClient) (process : ℕ → ProcessOutcome) (payload : WorkerPayload)

theorem heeds_captureArtifacts : Heeds (captureArtifacts process payload) fun _ => False :=
  (heeds_runShell _ _).andThen fun _ => (heeds_runShell _ _).andThen fun _ =>
    (heeds_runShell _ _).andThen fun _ => (heeds_runShell _ _).andThen fun _ =>
      (heeds_runShell _ _).andThen fun _ => heeds_pure _

theorem heeds_captureStage :
    Heeds (captureStage client process payload) fun draft => draft.failureReason = some "cancelled" := by
  refine (heeds_heartbeat client).bind (fun cancelled => ?_) fun cancelled hcancelled => ?_
  · cases cancelled with
    | true => exact heeds_pure _
    | false =>
      rw [if_neg Bool.false_ne_true]
      split
      · exact heeds_pure _
      · refine (heeds_runShell _ _).andThen fun patch => ?_
        split
        · exact heeds_pure _
        · exact (heeds_captureArtifacts process payload).andThen fun _ => heeds_pure _
  · exact ⟨_,rfl,if_pos hcancelled⟩

theorem heeds_runTests (commands : List String) :
    Heeds (runTests client process commands) fun tests => tests.cancelled = true := by
  induction commands with
  | nil => exact heeds_pure _
  | cons command rest ih =>
    refine (heeds_heartbeat client).bind (fun cancelled => ?_) fun cancelled hcancelled => ?_
    · cases cancelled with
      | true => exact heeds_pure _
      | false =>
        rw [if_neg Bool.false_ne_true]
        split
        · exact ih
        · refine (heeds_runShell _ _).andThen fun result => ih.bind (fun _ => heeds_pure _) ?_
          exact fun later hlater => ⟨{ later with runs := (command,result) :: later.runs },hlater,rfl⟩
    · exact ⟨_,rfl,if_pos hcancelled⟩

def Execution.isCancelled (execution : Execution) : Prop :=
  execution.status = "failed" ∧ execution.failureReason = some "cancelled"

theorem heeds_runCommands : Heeds (runCommands client process payload) Execution.isCancelled := by
  refine (heeds_captureStage client process payload).bind (fun draft => ?_) fun draft hdraft => ?_
  · split
    · exact heeds_pure _
    · refine (heeds_runTests client process _).bind (fun _ => heeds_pure _) fun tests htests => ?_
      refine ⟨_,?_,rfl⟩
      simp [Execution.isCancelled,executionOf,testVerdict,htests]
  · refine ⟨executionOf payload draft {} draft.failureReason "not_run",?_,if_pos (by simp [hdraft])⟩
    simp [Execution.isCancelled,executionOf,hdraft]

end stages

end AiScdc.RemoteWorker
