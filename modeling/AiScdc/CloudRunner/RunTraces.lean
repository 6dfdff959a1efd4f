import AiScdc.CloudRunner.LeaseFootprints
import AiScdc.Transaction.Traces

namespace AiScdc
open Transaction

abbrev Runs := Id → Option CloudRun

def Key.isCloudRun : Key → Bool
  | .cloudRun _ => true
  | _ => false

theorem Key.ne_of_plain {k : Key} (h : ¬ k.isCloudRun = true) (i : Id) : Key.cloudRun i ≠ k := by
  rintro rfl
  exact h rfl

-- The rows of all cloud runs.
def runRows : Projection Row Runs where
  of db i := db (.cloudRun i)
  looksAt k := k.isCloudRun = true
  spared db _ v h := funext fun i => Function.update_of_ne (Key.ne_of_plain h i) v db

theorem runRows_update (db : Db) (i : Id) (row : Option CloudRun) :
    runRows.of (Function.update db (.cloudRun i) row) = Function.update (runRows.of db) i row := by
  funext j
  by_cases h : j = i
  · subst h
    simp [runRows]
  · have hk : Key.cloudRun j ≠ Key.cloudRun i := fun hk => h (Key.cloudRun.inj hk)
    simp [runRows,h,hk]

section rules

variable {α β : Type} {clock : ℕ → Time} {R : Runs → Runs → Prop} {X Y : Runs} {i : Id} {c : CloudRun}
  {Ω : β → Runs → Runs → Prop} {Ξ : Exn → Runs → Runs → Prop}

-- The committed rows and the rows the session sees.
def Stands (X Y : Runs) : Runs → Runs → Prop := fun b c => b = X ∧ c = Y

variable (clock R) in
abbrev RunTraces (Φ : Runs → Runs → Prop) (m : Op α) (Ψ : α → Runs → Runs → Prop)
    (Ξ : Exn → Runs → Runs → Prop) : Prop := Traces runRows clock R Φ m Ψ Ξ

abbrev sparesRuns (committing : Prop) : Course Row Unit := sparing runRows committing

abbrev anyPhase (_ : Unit) : Prop := True

theorem unregulated_spared {committing : Prop} {k : Key} (h : k.isCloudRun = false) :
    Unregulated (sparesRuns committing) anyPhase k :=
  ⟨fun _ _ _ _ => ⟨(),trivial,by simp [sparing,runRows,h]⟩,
    fun _ _ _ _ => ⟨(),trivial,by simp [sparing,runRows,h]⟩⟩

theorem unregulated_spared_budget {committing : Prop} (k : Key) (h : k.isBudget) :
    Unregulated (sparesRuns committing) anyPhase k := by
  refine unregulated_spared ?_
  cases k <;> first | rfl | cases h

theorem throws_insert (k : Key) (row : k.Entity) :
    Throws (fun e : Exn => e.isHttp = false) (insert k row) := by
  refine Throws.bind (fun _ => trivial) fun b => ?_
  cases b with
  | false => rfl
  | true => trivial

theorem resets_spared : Resets (sparesRuns True) anyPhase :=
  ⟨fun _ _ => ⟨(),trivial,trivial⟩,fun _ _ => ⟨(),trivial,trivial⟩⟩

variable {m : Op α} {f : α → Op β}

-- A step that leaves the rows of the runs alone and commits nothing.
theorem traces_gives {A : α → Prop} (h : Gives (sparesRuns False) anyPhase m A) (hR : ∀ b, R b b)
    (hΞ : ∀ e, Ξ e X Y) (hf : ∀ a, A a → RunTraces clock R (Stands X Y) (f a) Ω Ξ) :
    RunTraces clock R (Stands X Y) (m >>= f) Ω Ξ := by
  refine (h.traces hR fun hc => hc.elim).andThen ?_ hf
  rintro e b c ⟨rfl,rfl⟩
  exact hΞ e

theorem traces_obeys (h : Obeys (sparesRuns False) anyPhase m) (hR : ∀ b, R b b)
    (hΞ : ∀ e, Ξ e X Y) (hf : ∀ a, RunTraces clock R (Stands X Y) (f a) Ω Ξ) :
    RunTraces clock R (Stands X Y) (m >>= f) Ω Ξ :=
  traces_gives (A := fun _ => True) (fun x hx => (h x hx).mono (fun _ _ hy => ⟨trivial,hy⟩)
    fun _ _ hy => hy) hR hΞ fun a _ => hf a

theorem traces_givesThrowing {A : α → Prop} {p : Exn → Prop}
    (h : Gives (sparesRuns False) anyPhase m A) (hp : Throws p m) (hR : ∀ b, R b b)
    (hΞ : ∀ e, p e → Ξ e X Y) (hf : ∀ a, A a → RunTraces clock R (Stands X Y) (f a) Ω Ξ) :
    RunTraces clock R (Stands X Y) (m >>= f) Ω Ξ := by
  refine ((h.traces hR fun hc => hc.elim).throwing hp).andThen ?_ hf
  rintro e b c ⟨he,rfl,rfl⟩
  exact hΞ e he

theorem traces_throwing {p : Exn → Prop} (h : Obeys (sparesRuns False) anyPhase m) (hp : Throws p m)
    (hR : ∀ b, R b b) (hΞ : ∀ e, p e → Ξ e X Y)
    (hf : ∀ a, RunTraces clock R (Stands X Y) (f a) Ω Ξ) :
    RunTraces clock R (Stands X Y) (m >>= f) Ω Ξ :=
  traces_givesThrowing (A := fun _ => True) (fun x hx => (h x hx).mono (fun _ _ hy => ⟨trivial,hy⟩)
    fun _ _ hy => hy) hp hR hΞ fun a _ => hf a

-- The same when the session has nothing pending on the runs, so that it may also commit.
theorem traces_givesIdle {A : α → Prop} (h : Gives (sparesRuns True) anyPhase m A) (hR : ∀ b, R b b)
    (hΞ : ∀ e, Ξ e X X) (hf : ∀ a, A a → RunTraces clock R (Stands X X) (f a) Ω Ξ) :
    RunTraces clock R (Stands X X) (m >>= f) Ω Ξ := by
  refine (h.traces hR fun _ b c hbc => hbc.1.trans hbc.2.symm).andThen ?_ hf
  rintro e b c ⟨rfl,rfl⟩
  exact hΞ e

theorem traces_obeysIdle (h : Obeys (sparesRuns True) anyPhase m) (hR : ∀ b, R b b)
    (hΞ : ∀ e, Ξ e X X) (hf : ∀ a, RunTraces clock R (Stands X X) (f a) Ω Ξ) :
    RunTraces clock R (Stands X X) (m >>= f) Ω Ξ :=
  traces_givesIdle (A := fun _ => True) (fun x hx => (h x hx).mono (fun _ _ hy => ⟨trivial,hy⟩)
    fun _ _ hy => hy) hR hΞ fun a _ => hf a

theorem traces_done {a : α} {Ψ : α → Runs → Runs → Prop} (h : Ψ a X Y) :
    RunTraces clock R (Stands X Y) (pure a) Ψ Ξ := by
  refine Traces.pure ?_
  rintro _ _ ⟨rfl,rfl⟩
  exact h

theorem traces_raise {e : Exn} {Ψ : α → Runs → Runs → Prop} (h : Ξ e X Y) :
    RunTraces clock R (Stands X Y) (.throw e : Op α) Ψ Ξ := by
  refine Traces.throw ?_
  rintro _ _ ⟨rfl,rfl⟩
  exact h

theorem traces_utcNow {f : Time → Op β}
    (h : ∀ n, RunTraces clock R (Stands X Y) (f (clock n)) Ω Ξ) :
    RunTraces clock R (Stands X Y) (utcNow >>= f) Ω Ξ := Traces.utcNow h

theorem traces_freshId {f : Id → Op β} (h : ∀ n, RunTraces clock R (Stands X Y) (f n) Ω Ξ) :
    RunTraces clock R (Stands X Y) (freshId >>= f) Ω Ξ := Traces.freshId h

theorem traces_select {f : Db → ℕ → Op β}
    (h : ∀ db n, runRows.of db = Y → RunTraces clock R (Stands X Y) (f db n) Ω Ξ) :
    RunTraces clock R (Stands X Y) (.select f) Ω Ξ := Traces.select fun _ db n hdb => h db n hdb.2

theorem traces_getRun {f : Option CloudRun → Op β}
    (h : RunTraces clock R (Stands X Y) (f (Y i)) Ω Ξ) :
    RunTraces clock R (Stands X Y) (get (.cloudRun i) >>= f) Ω Ξ := by
  refine traces_select fun db n hdb => ?_
  subst hdb
  exact h

theorem traces_selectRuns {view : Id → CloudRun → Option α} {f : List α → Op β}
    (h : ∀ n, RunTraces clock R (Stands X Y)
      (f ((List.range n).filterMap fun i => (Y i).bind (view i))) Ω Ξ) :
    RunTraces clock R (Stands X Y) (selectWhere .cloudRun view >>= f) Ω Ξ := by
  refine traces_select fun db n hdb => ?_
  subst hdb
  exact h n

theorem traces_getOr404 {detail : String} {f : CloudRun → Op β} (hΞ : Ξ (.http 404 detail) X Y)
    (h : ∀ c, Y i = some c → RunTraces clock R (Stands X Y) (f c) Ω Ξ) :
    RunTraces clock R (Stands X Y) (getOr404 (.cloudRun i) detail >>= f) Ω Ξ := by
  simp only [getOr404,bind_assoc]
  refine traces_getRun ?_
  cases hY : Y i with
  | none =>
    refine Traces.throw ?_
    rintro b c ⟨rfl,rfl⟩
    exact hΞ
  | some c => exact h c hY

theorem traces_getCloudRun {ctx : Option AuthContext} {f : CloudRun → Op β} (hR : ∀ b, R b b)
    (hΞ : ∀ e, Ξ e X Y) (h : ∀ c, Y i = some c → RunTraces clock R (Stands X Y) (f c) Ω Ξ) :
    RunTraces clock R (Stands X Y) (getCloudRunOr404 ctx i >>= f) Ω Ξ := by
  simp only [getCloudRunOr404,bind_assoc,pure_bind]
  exact traces_getOr404 (hΞ _) fun c hc => traces_obeys (obeys_enforce _ _ _) hR hΞ fun _ => h c hc

theorem traces_refresh {f : CloudRun → Op β} (hY : Y i = some c)
    (h : RunTraces clock R (Stands X Y) (f c) Ω Ξ) :
    RunTraces clock R (Stands X Y) (refresh (.cloudRun i) >>= f) Ω Ξ := by
  simp only [refresh,bind_assoc]
  refine traces_getRun ?_
  rw [hY]
  exact h

theorem traces_flushRun {l n : CloudRun} {f : Unit → Op β} (hY : Y i = some l)
    (h : RunTraces clock R (Stands X (Function.update Y i (some n))) (f ()) Ω Ξ) :
    RunTraces clock R (Stands X Y) (flush (.cloudRun i) l n >>= f) Ω Ξ := by
  refine Traces.flush (fun b db hdb => ⟨hdb.1,?_⟩) h
  have hrow : db (.cloudRun i) = some l := (congrFun hdb.2 i).trans hY
  rw [runRows_update,hdb.2,hrow]
  congr 1
  split
  · assumption
  · exact Schema.merge_loaded (V := Row) (.cloudRun i) (some l) (some n)

theorem traces_updateRun {guard : CloudRun → Bool} {values : CloudRun → CloudRun} {f : Bool → Op β}
    (hY : Y i = some c)
    (ht : guard c = true →
      RunTraces clock R (Stands X (Function.update Y i (some (values c)))) (f true) Ω Ξ)
    (hf : guard c = false → RunTraces clock R (Stands X Y) (f false) Ω Ξ) :
    RunTraces clock R (Stands X Y) (updateWhere (.cloudRun i) guard values >>= f) Ω Ξ := by
  have hrow {b : Runs} {db : Db} (hdb : Stands X Y b (runRows.of db)) :
      db (.cloudRun i) = some c := (congrFun hdb.2 i).trans hY
  refine Traces.update (H := fun b d => guard c = true ∧ Stands X (Function.update Y i (some (values c))) b d)
    (F := fun b d => guard c = false ∧ Stands X Y b d) (fun b db hdb hg => ?_) (fun b db hdb hg => ?_)
    (Traces.given (fun _ _ h => h.1) fun hg => (ht hg).mono (fun _ _ h => h.2) (fun _ _ _ h => h)
      fun _ _ _ h => h)
    (Traces.given (fun _ _ h => h.1) fun hg => (hf hg).mono (fun _ _ h => h.2) (fun _ _ _ h => h)
      fun _ _ _ h => h)
  · rw [hrow hdb] at hg ⊢
    refine ⟨hg,hdb.1,?_⟩
    rw [runRows_update,hdb.2]
    rfl
  · rw [hrow hdb] at hg
    exact ⟨hg,hdb⟩

theorem traces_insertRun {row : CloudRun} {f : Unit → Op β} (hΞ : Ξ .integrityError X Y)
    (h : Y i = none → RunTraces clock R (Stands X (Function.update Y i (some row))) (f ()) Ω Ξ) :
    RunTraces clock R (Stands X Y) (insert (.cloudRun i) row >>= f) Ω Ξ := by
  have hrow {b : Runs} {db : Db} (hdb : Stands X Y b (runRows.of db)) :
      db (.cloudRun i) = Y i := congrFun hdb.2 i
  refine Traces.update (H := fun b d => Y i = none ∧ Stands X (Function.update Y i (some row)) b d)
    (F := Stands X Y) (fun b db hdb hg => ?_) (fun b db hdb hg => hdb)
    (Traces.given (fun _ _ h => h.1) fun hg => (h hg).mono (fun _ _ h => h.2) (fun _ _ _ h => h)
      fun _ _ _ h => h)
    (Traces.throw (by rintro b c ⟨rfl,rfl⟩; exact hΞ))
  rw [hrow hdb] at hg
  refine ⟨by simpa using hg,hdb.1,?_⟩
  rw [runRows_update,hdb.2]

theorem traces_commit {f : Unit → Op β} (hR : R X Y)
    (h : RunTraces clock R (Stands Y Y) (f ()) Ω Ξ) :
    RunTraces clock R (Stands X Y) (commit >>= f) Ω Ξ := by
  refine Traces.commit (fun b c hbc => ?_) h
  obtain ⟨rfl,rfl⟩ := hbc
  exact ⟨hR,rfl,rfl⟩

theorem traces_rollback {f : Unit → Op β} (h : RunTraces clock R (Stands X X) (f ()) Ω Ξ) :
    RunTraces clock R (Stands X Y) (rollback >>= f) Ω Ξ :=
  Traces.rollback (fun _ _ hbc => ⟨hbc.1,hbc.1⟩) h

end rules

end AiScdc
