import Mathlib.Data.List.Basic

namespace Exchanges

-- A computation with a state and failures that asks its environment. Every answer is kept, and the
-- environment answers by the number of answers already given.
structure Asking (σ ξ φ α : Type) where
  run : σ → List ξ → Except φ α × σ × List ξ

section programs

variable {σ ξ φ α β : Type}

def Asking.bind (m : Asking σ ξ φ α) (f : α → Asking σ ξ φ β) : Asking σ ξ φ β where
  run s answered :=
    match m.run s answered with
    | (.ok a,s',answered') => (f a).run s' answered'
    | (.error e,s',answered') => (.error e,s',answered')

instance : Monad (Asking σ ξ φ) where
  pure a := ⟨fun s answered => (.ok a,s,answered)⟩
  bind := Asking.bind

def fail (e : φ) : Asking σ ξ φ α := ⟨fun s answered => (.error e,s,answered)⟩

def getState : Asking σ ξ φ σ := ⟨fun s answered => (.ok s,s,answered)⟩

def setState (s : σ) : Asking σ ξ φ Unit := ⟨fun _ answered => (.ok (),s,answered)⟩

-- What the computation observes besides its answers, such as a clock.
def observe (view : ℕ → α) : Asking σ ξ φ α := ⟨fun s answered => (.ok (view answered.length),s,answered)⟩

def asked {ρ : Type} (environment : ℕ → ρ) (record : ρ → ξ) (handle : ρ → Except φ α) : Asking σ ξ φ α where
  run s answered :=
    (handle (environment answered.length),s,answered ++ [record (environment answered.length)])

-- The failures that `catches` names end in `none`.
def caught (catches : φ → Bool) (m : Asking σ ξ φ α) : Asking σ ξ φ (Option α) where
  run s answered :=
    match m.run s answered with
    | (.ok a,s',answered') => (.ok (some a),s',answered')
    | (.error e,s',answered') => (if catches e then .ok none else .error e,s',answered')

def inOrder {ι : Type} (g : ι → Asking σ ξ φ α) : List ι → Asking σ ξ φ (List α)
  | [] => pure []
  | i :: l => do
    let a ← g i
    let rest ← inOrder g l
    pure (a :: rest)

def inTurn {ι : Type} (g : ι → Except φ α) : List ι → Except φ (List α)
  | [] => .ok []
  | i :: l => do
    let a ← g i
    let rest ← inTurn g l
    return a :: rest

end programs

section accounts

variable {σ ξ φ α β : Type} (catches : φ → Bool) (digestible : ξ → Prop)

def Clean (outcome : Except φ α) : Prop := ∀ e, outcome = .error e → catches e = true

-- An uncaught failure is always the fault of an answer.
def Accounts (m : Asking σ ξ φ α) : Prop := ∀ s answered, ∃ new,
  (m.run s answered).2.2 = answered ++ new ∧
    (Clean catches (m.run s answered).1 ↔ ∀ x ∈ new, digestible x)

variable {catches} {digestible} {m m' : Asking σ ξ φ α} {f : α → Asking σ ξ φ β} {e : φ}

theorem clean_ok (a : α) : Clean catches (.ok a : Except φ α) := by
  intro e he
  cases he

theorem clean_error : Clean catches (.error e : Except φ α) ↔ catches e = true := by
  constructor
  · intro h
    exact h e rfl
  · intro h e' he
    rw [← Except.error.inj he]
    exact h

theorem clean_bind {m : Except φ α} {f : α → Except φ β} :
    Clean catches (m >>= f) ↔ Clean catches m ∧ ∀ a, m = .ok a → Clean catches (f a) := by
  cases m with
  | error e =>
    change Clean catches (.error e : Except φ β) ↔ _
    rw [clean_error,clean_error]
    exact ⟨fun h => ⟨h,fun a ha => by cases ha⟩,fun h => h.1⟩
  | ok a =>
    change Clean catches (f a) ↔ _
    constructor
    · intro h
      refine ⟨clean_ok a,fun a' ha => ?_⟩
      rw [← Except.ok.inj ha]
      exact h
    · exact fun h => h.2 a rfl

-- The first failure ends the loop.
theorem clean_inTurn {ι : Type} {g : ι → Except φ α} {l : List ι} :
    Clean catches (inTurn g l) ↔ ∀ before i after, l = before ++ i :: after →
      (∀ b ∈ before, ∃ r, g b = .ok r) → Clean catches (g i) := by
  induction l with
  | nil =>
    constructor
    · intro _ before i after h
      simp at h
    · exact fun _ => clean_ok []
  | cons j l ih =>
    rw [inTurn,clean_bind]
    constructor
    · rintro ⟨hj,hrest⟩ before i after hsplit hread
      cases before with
      | nil =>
        rw [← (List.cons.inj hsplit).1]
        exact hj
      | cons b before =>
        obtain ⟨rfl,hl⟩ := List.cons.inj hsplit
        obtain ⟨r,hr⟩ := hread j List.mem_cons_self
        exact ih.mp (clean_bind.mp (hrest r hr)).1 before i after hl fun b hb =>
          hread b (List.mem_cons_of_mem _ hb)
    · intro h
      refine ⟨h [] j l rfl (by simp),fun r hr => clean_bind.mpr ⟨?_,fun rest _ => clean_ok _⟩⟩
      rw [ih]
      intro before i after hl hread
      apply h (j :: before) i after (by rw [hl]; rfl)
      intro b hb
      rcases List.mem_cons.mp hb with rfl | hb
      · exact ⟨r,hr⟩
      · exact hread b hb

theorem accounts_quiet (h : ∀ s answered, (m.run s answered).2.2 = answered ∧
    Clean catches (m.run s answered).1) : Accounts catches digestible m := by
  intro s answered
  obtain ⟨hanswered,hclean⟩ := h s answered
  exact ⟨[],by rw [hanswered,List.append_nil],fun _ _ hx => absurd hx List.not_mem_nil,fun _ => hclean⟩

theorem accounts_pure (a : α) : Accounts catches digestible (pure a : Asking σ ξ φ α) :=
  accounts_quiet fun _ _ => ⟨rfl,clean_ok a⟩

theorem accounts_fail (h : catches e = true) : Accounts catches digestible (fail e : Asking σ ξ φ α) :=
  accounts_quiet fun _ _ => ⟨rfl,clean_error.mpr h⟩

theorem accounts_setState (s : σ) : Accounts catches digestible (setState s : Asking σ ξ φ Unit) :=
  accounts_quiet fun _ _ => ⟨rfl,clean_ok ()⟩

theorem accounts_getState : Accounts catches digestible (getState : Asking σ ξ φ σ) :=
  accounts_quiet fun s _ => ⟨rfl,clean_ok s⟩

theorem accounts_observe (view : ℕ → α) : Accounts catches digestible (observe view : Asking σ ξ φ α) :=
  accounts_quiet fun _ answered => ⟨rfl,clean_ok (view answered.length)⟩

theorem accounts_asked {ρ : Type} {environment : ℕ → ρ} {record : ρ → ξ} {handle : ρ → Except φ α}
    (h : ∀ n, Clean catches (handle (environment n)) ↔ digestible (record (environment n))) :
    Accounts catches digestible (asked environment record handle : Asking σ ξ φ α) := by
  intro s answered
  refine ⟨[record (environment answered.length)],rfl,?_⟩
  rw [List.forall_mem_singleton]
  exact h _

theorem Accounts.bind (hm : Accounts catches digestible m) (hf : ∀ a, Accounts catches digestible (f a)) :
    Accounts catches digestible (m >>= f) := by
  intro s answered
  obtain ⟨new,hnew,hclean⟩ := hm s answered
  change ∃ new, ((Asking.bind m f).run s answered).2.2 = _ ∧
    (Clean catches ((Asking.bind m f).run s answered).1 ↔ _)
  rcases hrun : m.run s answered with ⟨outcome,s',answered'⟩
  rw [hrun] at hnew hclean
  simp only [Asking.bind,hrun]
  cases outcome with
  | error e => exact ⟨new,hnew,by rw [← hclean]; exact clean_error.trans clean_error.symm⟩
  | ok a =>
    obtain ⟨later,hlater,hclean'⟩ := hf a s' answered'
    refine ⟨new ++ later,?_,?_⟩
    · rw [hlater,← List.append_assoc]
      exact congrArg (fun before => before ++ later) hnew
    · have hdigested : ∀ x ∈ new, digestible x := hclean.mp (clean_ok a)
      rw [List.forall_mem_append]
      exact hclean'.trans ⟨fun h => ⟨hdigested,h⟩,fun h => h.2⟩

theorem Accounts.caught (hm : Accounts catches digestible m) :
    Accounts catches digestible (caught catches m) := by
  intro s answered
  obtain ⟨new,hnew,hclean⟩ := hm s answered
  rcases hrun : m.run s answered with ⟨outcome,s',answered'⟩
  rw [hrun] at hnew hclean
  simp only [Exchanges.caught,hrun]
  cases outcome with
  | ok a =>
    refine ⟨new,hnew,?_⟩
    rw [← hclean]
    exact ⟨fun _ => clean_ok a,fun _ => clean_ok (some a)⟩
  | error e =>
    refine ⟨new,hnew,?_⟩
    rw [← hclean]
    by_cases he : catches e = true
    · simp only [he,if_true]
      exact ⟨fun _ => clean_error.mpr he,fun _ => clean_ok _⟩
    · simp only [he,if_false,Bool.false_eq_true]
      exact clean_error.trans clean_error.symm

theorem accounts_inOrder {ι : Type} {g : ι → Asking σ ξ φ β} (h : ∀ i, Accounts catches digestible (g i))
    (l : List ι) : Accounts catches digestible (inOrder g l) := by
  induction l with
  | nil => exact accounts_pure []
  | cons i l ih => exact (h i).bind fun _ => ih.bind fun _ => accounts_pure _

theorem accounts_ite {c : Prop} [Decidable c] (hm : Accounts catches digestible m)
    (hm' : Accounts catches digestible m') : Accounts catches digestible (if c then m else m') := by
  split
  · exact hm
  · exact hm'

end accounts

section unfailing

variable {σ ξ φ α β : Type} (catches : φ → Bool)

def Unfailing (m : Asking σ ξ φ α) : Prop :=
  ∀ s answered e, (m.run s answered).1 = .error e → catches e = false

variable {catches} {m : Asking σ ξ φ α} {f : α → Asking σ ξ φ β}

theorem unfailing_pure (a : α) : Unfailing catches (pure a : Asking σ ξ φ α) := by
  intro s answered e h
  cases h

theorem unfailing_caught (m : Asking σ ξ φ α) : Unfailing catches (caught catches m) := by
  intro s answered e h
  rcases hrun : m.run s answered with ⟨outcome,s',answered'⟩
  simp only [caught,hrun] at h
  cases outcome with
  | ok a => cases h
  | error e' =>
    by_cases he : catches e' = true
    · simp [he] at h
    · simp only [he,Bool.false_eq_true,if_false] at h
      rw [← Except.error.inj h]
      exact Bool.eq_false_iff.mpr he

theorem Unfailing.bind (hm : Unfailing catches m) (hf : ∀ a, Unfailing catches (f a)) :
    Unfailing catches (m >>= f) := by
  intro s answered e h
  change ((Asking.bind m f).run s answered).1 = _ at h
  rcases hrun : m.run s answered with ⟨outcome,s',answered'⟩
  simp only [Asking.bind,hrun] at h
  cases outcome with
  | ok a => exact hf a s' answered' e h
  | error e' =>
    have hfails : (m.run s answered).1 = .error e' := by rw [hrun]
    rw [← Except.error.inj h]
    exact hm s answered e' hfails

theorem unfailing_ite {c : Prop} [Decidable c] {m' : Asking σ ξ φ α} (hm : Unfailing catches m)
    (hm' : Unfailing catches m') : Unfailing catches (if c then m else m') := by
  split
  · exact hm
  · exact hm'

theorem unfailing_inOrder {ι : Type} {g : ι → Asking σ ξ φ β} (h : ∀ i, Unfailing catches (g i)) (l : List ι) :
    Unfailing catches (inOrder g l) := by
  induction l with
  | nil => exact unfailing_pure []
  | cons i l ih => exact (h i).bind fun _ => ih.bind fun _ => unfailing_pure _

theorem Unfailing.clean_iff (hm : Unfailing catches m) (s : σ) (answered : List ξ) :
    Clean catches (m.run s answered).1 ↔ ∃ a, (m.run s answered).1 = .ok a := by
  cases hrun : (m.run s answered).1 with
  | ok a => exact ⟨fun _ => ⟨a,rfl⟩,fun _ => clean_ok a⟩
  | error e =>
    rw [clean_error,hm s answered e hrun]
    simp

theorem inOrder_length {ι : Type} {g : ι → Asking σ ξ φ β} {l : List ι} {s : σ} {answered : List ξ}
    {found : List β} (h : ((inOrder g l).run s answered).1 = .ok found) : found.length = l.length := by
  induction l generalizing s answered found with
  | nil =>
    rw [← Except.ok.inj h]
    rfl
  | cons i l ih =>
    change ((Asking.bind (g i) fun b => Asking.bind (inOrder g l) fun rest => pure (b :: rest)).run s answered).1 =
      .ok found at h
    rcases hrun : (g i).run s answered with ⟨outcome,s',answered'⟩
    simp only [Asking.bind,hrun] at h
    cases outcome with
    | error e => cases h
    | ok b =>
      rcases hrest : (inOrder g l).run s' answered' with ⟨outcome',s'',answered''⟩
      simp only [hrest] at h
      cases outcome' with
      | error e => cases h
      | ok rest =>
        have hread : ((inOrder g l).run s' answered').1 = .ok rest := by rw [hrest]
        have hlength : rest.length = l.length := ih hread
        rw [← Except.ok.inj h,List.length_cons,List.length_cons,hlength]

end unfailing

end Exchanges
