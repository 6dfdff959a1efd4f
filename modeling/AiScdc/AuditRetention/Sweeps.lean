import AiScdc.AuditRetention.Operations
import AiScdc.Transaction.Execution

namespace AiScdc.AuditRetention
open Transaction

-- Where a call stands. One that sweeps knows its token, the statements begun, the latest first, and
-- the rows that the latest has yet to work through.
inductive SweepPhase where
  | arriving | founding | named (token : Id) | claiming (token : Id)
  | sweeping (token : Id) (begun : List Cleanup) (rest : List Id)
  | recording (token eventId : Id) | recorded (token eventId : Id) | completing (token eventId : Id)
  | failed | failing (eventId : Id) | reporting (eventId : Id) | finished

abbrev RowChange := ∀ k : Key, Row k → Row k → Prop

def Founds : RowChange
  | .state, v, u => v = none ∧ u = some ⟨none,none,none⟩
  | _, _, _ => False

def Claims (token : Id) (now : Time) : RowChange
  | .state, v, u => ∃ s : AuditRetentionState, v = some s ∧ s.cleanupDue now = true ∧
      s.claimable now = true ∧ u = some (s.claim token now)
  | _, _, _ => False

def Completes (token : Id) (now : Time) : RowChange
  | .state, v, u => ∃ s : AuditRetentionState, v = some s ∧ s.claimToken = some token ∧
      u = some (s.complete now)
  | _, _, _ => False

def Clears (now : Time) (c : Cleanup) : RowChange
  | .event t _, v, u => t = c.table ∧ ∃ e : AuditEvent, v = some e ∧ c.applies now e = true ∧ u = c.change e
  | _, _, _ => False

def Records (now : Time) (eventId : Id) : RowChange
  | .event t id, v, u => t = .identity ∧ id = eventId ∧ v = none ∧
      ∃ content, u = some (⟨now,none,none,content⟩ : AuditEvent)
  | _, _, _ => False

-- A row that the statement has still to clear.
def Due (now : Time) (c : Cleanup) : ∀ k : Key, Row k → Prop
  | .event t _, v => t = c.table ∧ ∃ e : AuditEvent, v = some e ∧ c.applies now e = true
  | _, _ => False

def sweepCourse (now : Time) : Course Row SweepPhase where
  learn x db n y :=
    match x with
    | .sweeping τ begun [] => ∃ c : Cleanup, y = .sweeping τ (c :: begun) (c.selected now db n)
    | _ => False
  number x n y :=
    match x with
    | .arriving => y = .named n
    | .sweeping τ begun [] => y = .recording τ n ∧ ∀ c, c ∈ begun
    | .failed => y = .failing n
    | _ => False
  update x k g s y :=
    match x with
    | .arriving => y = .founding ∧ ∀ v, g v = true → Founds k v (s v)
    | .named τ => y = .claiming τ ∧ ∀ v, g v = true → Claims τ now k v (s v)
    | .sweeping τ (c :: begun) (id :: rest) => k = .event c.table id ∧ y = .sweeping τ (c :: begun) rest ∧
        ∀ v, g v = true → Clears now c k v (s v)
    | .recording τ x => y = .recorded τ x ∧ ∀ v, g v = true → Records now x k v (s v)
    | .recorded τ x => y = .completing τ x ∧ ∀ v, g v = true → Completes τ now k v (s v)
    | .failing x => y = .reporting x ∧ ∀ v, g v = true → Records now x k v (s v)
    | _ => False
  flush _ _ _ _ _ := False
  commit x y :=
    match x with
    | .founding => y = .arriving
    | .claiming τ => y = .sweeping τ [] []
    | .named _ | .completing _ _ | .reporting _ => y = .finished
    | _ => False
  rollback x y :=
    match x with
    | .arriving => y = .arriving
    | .sweeping _ _ _ | .recorded _ _ => y = .failed
    | _ => False
  miss x k g y :=
    match x with
    | .sweeping τ (c :: begun) (id :: rest) => k = .event c.table id ∧ y = .sweeping τ (c :: begun) rest ∧
        ∀ v, g v = false → ¬ Due now c k v
    | _ => False

section walks

variable {α β : Type} {now : Time} {x y : SweepPhase}

def Walks (now : Time) (x : SweepPhase) (m : Op α) : Prop :=
  Writes (sweepCourse now) x m (fun _ _ => True) fun _ _ => True

theorem walks_then {m : Op α} {f : α → Op β}
    (h : Writes (sweepCourse now) x m (fun _ z => z = y) fun _ _ => True)
    (hf : ∀ a, Walks now y (f a)) : Walks now x (m >>= f) :=
  Writes.bind (h.mono (fun a _ hz => hz ▸ hf a) fun _ _ _ => trivial)

theorem writes_record {t : Time} {n : SweepPhase → Prop} {z : Id → SweepPhase} (content : String)
    (hnumber : ∀ id, (sweepCourse now).number x id (z id)) (ht : t = now)
    (hinsert : ∀ id (g : Row (.event .identity id) → Bool) s,
      (∀ v, g v = true → Records now id (.event .identity id) v (s v)) →
        ∃ y, n y ∧ (sweepCourse now).update (z id) (.event .identity id) g s y) :
    Writes (sweepCourse now) x (recordIdentityAuditEvent t content) (fun _ y => n y) fun _ _ => True := by
  subst ht
  intro id
  obtain ⟨y,hn,hy⟩ := hinsert id (fun row => row.isNone) (fun _ => some ⟨t,none,none,content⟩)
    fun v hv => ⟨rfl,rfl,Option.isNone_iff_eq_none.mp hv,content,rfl⟩
  exact ⟨z id,Or.inr (hnumber id),⟨y,hy,hn⟩,z id,Or.inl rfl,trivial⟩

theorem clears_row (c : Cleanup) (id : Id) (v : Row (.event c.table id))
    (hg : (v.any fun e : AuditEvent => c.applies now e) = true) :
    Clears now c (.event c.table id) v (v.bind fun e : AuditEvent => c.change e) := by
  cases v with
  | none => cases hg
  | some e => exact ⟨rfl,e,rfl,hg,rfl⟩

theorem spares_row (c : Cleanup) (id : Id) (v : Row (.event c.table id))
    (hg : (v.any fun e : AuditEvent => c.applies now e) = false) : ¬ Due now c (.event c.table id) v := by
  rintro ⟨_,e,rfl,he⟩
  rw [Option.any_some,he] at hg
  cases hg

theorem writes_rows (c : Cleanup) (τ : Id) (begun : List Cleanup) (ids : List Id) :
    Writes (sweepCourse now) (.sweeping τ (c :: begun) ids) (c.runRows now ids)
      (fun _ y => y = .sweeping τ (c :: begun) []) fun _ _ => True := by
  induction ids with
  | nil => rfl
  | cons id rest ih =>
    exact ⟨⟨_,⟨rfl,rfl,clears_row c id⟩,ih⟩,_,Or.inr ⟨rfl,rfl,spares_row c id⟩,ih⟩

theorem writes_run (c : Cleanup) (τ : Id) (begun : List Cleanup) :
    Writes (sweepCourse now) (.sweeping τ begun []) (c.run now)
      (fun _ y => y = .sweeping τ (c :: begun) []) fun _ _ => True :=
  fun _ _ => ⟨_,Or.inr ⟨c,rfl⟩,writes_rows c τ begun _⟩

theorem writes_runAll (τ : Id) (begun cs : List Cleanup) :
    Writes (sweepCourse now) (.sweeping τ begun []) (Cleanup.runAll now cs)
      (fun _ y => y = .sweeping τ (cs.reverse ++ begun) []) fun _ _ => True := by
  induction cs generalizing begun with
  | nil => rfl
  | cons c cs ih =>
    refine Writes.bind ((writes_run c τ begun).mono ?_ fun _ _ _ => trivial)
    rintro _ _ rfl
    refine (ih (c :: begun)).mono ?_ fun _ _ _ => trivial
    rintro _ _ rfl
    simp

theorem cleanups_all (c : Cleanup) : c ∈ cleanups.reverse ++ [] := by
  cases c with
  | delete t => cases t <;> decide
  | details => decide

theorem writes_cleanup (τ : Id) : Writes (sweepCourse now) (.sweeping τ [] [])
    (runAuditRetentionCleanup now) (fun _ y => ∃ id, y = .recorded τ id) fun _ _ => True := by
  refine Writes.bind ((writes_runAll τ [] cleanups).mono ?_ fun _ _ _ => trivial)
  rintro _ _ rfl
  exact writes_record (z := fun id => .recording τ id) _ (fun _ => ⟨rfl,cleanups_all⟩) rfl
    fun id _ _ h => ⟨.recorded τ id,⟨id,rfl⟩,rfl,h⟩

theorem walks_failure (hroll : (sweepCourse now).rollback x .failed) :
    Walks now x (recordScheduledCleanupFailure now) := by
  refine ⟨.failed,hroll,?_⟩
  have hreport : Writes (sweepCourse now) .failed
      (recordIdentityAuditEvent now "scheduled_daily_cleanup_failed")
      (fun _ y => ∃ id, y = .reporting id) fun _ _ => True :=
    writes_record (z := .failing) _ (fun _ => rfl) rfl fun id _ _ h => ⟨.reporting id,⟨id,rfl⟩,rfl,h⟩
  have hend : Walks now .failed (do
      recordIdentityAuditEvent now "scheduled_daily_cleanup_failed"
      commit
      .throw .cleanupFailed : Op Unit) := by
    refine Writes.bind (hreport.mono ?_ fun _ _ _ => trivial)
    rintro _ _ ⟨id,rfl⟩
    exact ⟨.finished,rfl,trivial⟩
  exact hend

theorem walks_complete (τ id : Id) : Walks now (.recorded τ id) (completeCleanup τ now) := by
  refine ⟨⟨.completing τ id,⟨rfl,fun v hv => ?_⟩,.finished,rfl,trivial⟩,.recorded τ id,Or.inl rfl,
    .failed,rfl,trivial⟩
  cases v with
  | none => cases hv
  | some s => exact ⟨s,rfl,of_decide_eq_true hv,rfl⟩

theorem walks_clean (s : Sweep) (τ : Id) : Walks s.now (.sweeping τ [] []) (cleanAndComplete s τ) := by
  unfold cleanAndComplete
  cases s.raisesAfter with
  | none =>
    refine Writes.bind ((writes_cleanup τ).mono ?_ fun _ _ _ => trivial)
    rintro _ _ ⟨id,rfl⟩
    exact walks_complete τ id
  | some n =>
    dsimp only
    split
    · exact walks_then (writes_runAll τ [] _) fun _ => walks_failure rfl
    · refine Writes.bind ((writes_cleanup τ).mono ?_ fun _ _ _ => trivial)
      rintro _ _ ⟨id,rfl⟩
      exact walks_failure rfl

theorem writes_ensure : Writes (sweepCourse now) .arriving ensureRetentionState
    (fun _ y => y = .arriving) fun _ _ => True := by
  intro db n
  refine ⟨.arriving,Or.inl rfl,?_⟩
  show Writes _ _ (match db .state with
    | some _ => pure ()
    | none => _) _ _
  cases db .state with
  | some _ => exact rfl
  | none =>
    exact ⟨⟨.founding,⟨rfl,fun v hv => ⟨Option.isNone_iff_eq_none.mp hv,rfl⟩⟩,.arriving,rfl,rfl⟩,
      .arriving,Or.inl rfl,.arriving,rfl,rfl⟩

theorem walks_scheduled (s : Sweep) : Walks s.now .arriving (runScheduledAuditRetentionIfDue s) := by
  refine walks_then writes_ensure fun _ => ?_
  intro τ
  refine ⟨.named τ,Or.inr rfl,?_⟩
  refine ⟨⟨.claiming τ,⟨rfl,fun v hv => ?_⟩,.sweeping τ [] [],rfl,walks_clean s τ⟩,
    .named τ,Or.inl rfl,.finished,rfl,trivial⟩
  cases v with
  | none => cases hv
  | some r =>
    obtain ⟨hdue,hclaimable⟩ := (Bool.and_eq_true_iff).mp hv
    exact ⟨r,rfl,hdue,hclaimable,rfl⟩

end walks

end AiScdc.AuditRetention
