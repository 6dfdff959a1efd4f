import AiScdc.Transaction.Footprint

namespace Transaction

variable {K : Type} {E : K → Type} {T ε α : Type}

abbrev Rows (E : K → Type) (k : K) := Option (E k)

-- An UPDATE by primary key changes nothing where the row is gone.
def mergeRows (merge : ∀ k, E k → E k → E k → E k) (k : K) :
    Rows E k → Rows E k → Rows E k → Rows E k
  | some l, some n, some c => some (merge k l n c)
  | some _, some _, none => none
  | _, n, _ => n

theorem mergeRows_loaded {merge : ∀ k, E k → E k → E k → E k} (h : ∀ k l n, merge k l n l = n)
    (k : K) (l n : Rows E k) : mergeRows merge k l n l = n := by
  cases l <;> cases n <;> simp [mergeRows,h]

theorem mergeRows_some {merge : ∀ k, E k → E k → E k → E k} (k : K) (l n : E k) (u : Rows E k) :
    mergeRows merge k (some l) (some n) u = u.map (merge k l n) := by
  cases u <;> rfl

namespace Rows

def get (k : K) : Prog (Rows E) T ε (Rows E k) := .select fun db _ => .pure (db k)

def selectWhere (key : ℕ → K) (view : ∀ i, E (key i) → Option α) : Prog (Rows E) T ε (List α) :=
  .select fun db next => .pure ((List.range next).filterMap fun i => (db (key i)).bind (view i))

def updateWhere (k : K) (guard : E k → Bool) (values : E k → E k) : Prog (Rows E) T ε Bool :=
  .update k (fun row => row.any guard) (fun row => row.map values) .pure

def flush (k : K) (loaded new : E k) : Prog (Rows E) T ε Unit :=
  .flush k (some loaded) (some new) (.pure ())

def insert (k : K) (row : E k) (e : ε) : Prog (Rows E) T ε Unit := do
  if ← (.update k (fun row => row.isNone) (fun _ => some row) .pure : Prog (Rows E) T ε Bool) then pure ()
  else .throw e

-- An UPDATE of the rows selected: each is locked, and the WHERE is evaluated on it again.
def updateEach (key : ℕ → K) (guard : ∀ i, E (key i) → Bool) (values : ∀ i, E (key i) → E (key i)) :
    List ℕ → Prog (Rows E) T ε (List ℕ)
  | [] => pure []
  | i :: rest => do
    let updated ← updateWhere (key i) (guard i) (values i)
    let others ← updateEach key guard values rest
    pure (if updated then i :: others else others)

def updateAll (key : ℕ → K) (guard : ∀ i, E (key i) → Bool) (values : ∀ i, E (key i) → E (key i)) :
    Prog (Rows E) T ε (List ℕ) := do
  let selected ← selectWhere key fun i row => if guard i row then some i else none
  updateEach key guard values selected

section courses

variable {G : Type} {P : Course (Rows E) G} {Φ : G → Prop}

theorem obeys_get (k : K) : Obeys P Φ (get k : Prog (Rows E) T ε _) := .select fun _ _ => .pure _

theorem obeys_selectWhere {key : ℕ → K} {view : ∀ i, E (key i) → Option α} :
    Obeys P Φ (selectWhere key view : Prog (Rows E) T ε _) := .select fun _ _ => .pure _

theorem obeys_updateWhere {k : K} {guard : E k → Bool} {values : E k → E k}
    (h : ∀ x, Φ x → ∃ y, Φ y ∧ P.update x k (fun row => row.any guard) (fun row => row.map values) y) :
    Obeys P Φ (updateWhere k guard values : Prog (Rows E) T ε _) := .update h fun _ => .pure _

theorem obeys_flush {k : K} {loaded new : E k}
    (h : ∀ x, Φ x → ∃ y, Φ y ∧ P.flush x k (some loaded) (some new) y) :
    Obeys P Φ (flush k loaded new : Prog (Rows E) T ε _) := .flush (fun _ => h) (.pure ())

theorem obeys_insert {k : K} {row : E k} {e : ε}
    (h : ∀ x, Φ x → ∃ y, Φ y ∧ P.update x k (fun row => row.isNone) (fun _ => some row) y) :
    Obeys P Φ (insert k row e : Prog (Rows E) T ε _) := by
  refine Obeys.bind (.update h fun _ => .pure _) fun b => ?_
  cases b with
  | false => exact .raise _
  | true => exact .pure ()

theorem obeys_updateEach {key : ℕ → K} {guard : ∀ i, E (key i) → Bool}
    {values : ∀ i, E (key i) → E (key i)}
    (h : ∀ i x, Φ x → ∃ y, Φ y ∧
      P.update x (key i) (fun row => row.any (guard i)) (fun row => row.map (values i)) y) (ids : List ℕ) :
    Obeys P Φ (updateEach key guard values ids : Prog (Rows E) T ε _) := by
  induction ids with
  | nil => exact .pure []
  | cons i rest ih =>
    refine (obeys_updateWhere (h i)).bind fun updated => ih.bind fun others => ?_
    exact .pure _

theorem obeys_updateAll {key : ℕ → K} {guard : ∀ i, E (key i) → Bool}
    {values : ∀ i, E (key i) → E (key i)}
    (h : ∀ i x, Φ x → ∃ y, Φ y ∧
      P.update x (key i) (fun row => row.any (guard i)) (fun row => row.map (values i)) y) :
    Obeys P Φ (updateAll key guard values : Prog (Rows E) T ε _) :=
  obeys_selectWhere.bind fun ids => obeys_updateEach h ids

-- The statement works through the rows selected, whether or not each still meets the WHERE.
theorem writes_updateEach {key : ℕ → K} {guard : ∀ i, E (key i) → Bool}
    {values : ∀ i, E (key i) → E (key i)} {X : List ℕ → G} {R : ε → G → Prop}
    (h : ∀ i rest, P.update (X (i :: rest)) (key i) (fun row => row.any (guard i))
      (fun row => row.map (values i)) (X rest))
    (hm : ∀ i rest, P.miss (X (i :: rest)) (key i) (fun row => row.any (guard i)) (X rest))
    (ids : List ℕ) : Writes P (X ids) (updateEach key guard values ids : Prog (Rows E) T ε _)
      (fun _ y => y = X []) R := by
  induction ids with
  | nil => rfl
  | cons i rest ih =>
    have hrest (b : Bool) : Writes P (X rest) (do
        let others ← updateEach key guard values rest
        pure (if b then i :: others else others) : Prog (Rows E) T ε _) (fun _ y => y = X []) R :=
      Writes.bind (ih.mono (fun _ _ hy => hy) fun _ _ hy => hy)
    exact ⟨⟨X rest,h i rest,hrest true⟩,X rest,Or.inr (hm i rest),hrest false⟩

end courses

end Rows

end Transaction
