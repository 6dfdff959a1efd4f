import Mathlib.Data.List.Basic

-- What a program answers and does, given what has been done before; `none` is an exception on
-- its way up.
def Traced (ε α : Type) := List ε → Option α × List ε

namespace Traced

variable {ε α β : Type}

protected def pure (a : α) : Traced ε α := fun _ => (some a,[])

protected def bind (m : Traced ε α) (f : α → Traced ε β) : Traced ε β := fun history =>
  match m history with
  | (none,done) => (none,done)
  | (some a,done) =>
    let later := f a (history ++ done)
    (later.1,done ++ later.2)

instance : Monad (Traced ε) where
  pure := Traced.pure
  bind := Traced.bind

-- One event, chosen by the world.
def act (answer : List ε → Option α × ε) : Traced ε α := fun history =>
  ((answer history).1,[(answer history).2])

def raise : Traced ε α := fun _ => (none,[])

-- The last event comes however the program ends, and may itself raise.
def closedBy (m : Traced ε α) (last : List ε → Bool × ε) : Traced ε α := fun history =>
  let done := m history
  let closing := last (history ++ done.2)
  (if closing.1 then done.1 else none,done.2 ++ [closing.2])

section outcomes

variable {m : Traced ε α} {f : α → Traced ε β} {history done : List ε} {b : Option β}

@[simp] theorem pure_run (a : α) (history : List ε) : (pure a : Traced ε α) history = (some a,[]) := rfl

theorem bind_cases (h : (m >>= f) history = (b,done)) :
    (b = none ∧ m history = (none,done)) ∨
      ∃ a before after, m history = (some a,before) ∧ f a (history ++ before) = (b,after) ∧
        done = before ++ after := by
  change Traced.bind m f history = _ at h
  rw [Traced.bind] at h
  split at h
  · next before hm =>
    obtain ⟨rfl,rfl⟩ := Prod.mk.inj h
    exact .inl ⟨rfl,hm⟩
  · next a before hm =>
    obtain ⟨rfl,rfl⟩ := Prod.mk.inj h
    exact .inr ⟨a,before,_,hm,rfl,rfl⟩

end outcomes

section monitors

variable {σ : Type} (next : σ → ε → σ) (Permits : σ → ε → Prop)

-- Each event is permitted in the state that the events before it lead to.
def Permitted : σ → List ε → Prop
  | _,[] => True
  | s,e :: later => Permits s e ∧ Permitted (next s e) later

variable {next Permits} {s s' s'' : σ} {done later : List ε}

theorem permitted_append : Permitted next Permits s (done ++ later) ↔
    Permitted next Permits s done ∧ Permitted next Permits (done.foldl next s) later := by
  induction done generalizing s with
  | nil => simp [Permitted]
  | cons e done ih => simp only [List.cons_append,Permitted,List.foldl_cons,ih,and_assoc]

theorem permitted_iff : Permitted next Permits s done ↔
    ∀ before e after, done = before ++ e :: after → Permits (before.foldl next s) e := by
  constructor
  · rintro h before e after rfl
    exact (permitted_append.mp h).2.1
  · intro h
    induction done generalizing s with
    | nil => trivial
    | cons e done ih =>
      refine ⟨h [] e done rfl,ih fun before e' after hdone => ?_⟩
      exact h (e :: before) e' after (by rw [hdone,List.cons_append])

def Ends (Q : α → σ → Prop) (E : σ → Prop) : Option α → σ → Prop
  | some a,s => Q a s
  | none,s => E s

variable (next Permits) in
-- Every event is permitted; `Q` holds where the program answers, `E` where it raises.
def Guards (s : σ) (m : Traced ε α) (Q : α → σ → Prop) (E : σ → Prop) : Prop :=
  ∀ history, Permitted next Permits s (m history).2 ∧
    Ends Q E (m history).1 ((m history).2.foldl next s)

variable {m : Traced ε α} {f : α → Traced ε β} {Q Q' : α → σ → Prop} {R : β → σ → Prop} {E E' : σ → Prop}

theorem Guards.pure {a : α} (h : Q a s) : Guards next Permits s (pure a : Traced ε α) Q E :=
  fun _ => ⟨trivial,h⟩

theorem Guards.raise (h : E s) : Guards next Permits s (raise : Traced ε α) Q E := fun _ => ⟨trivial,h⟩

theorem Guards.act {answer : List ε → Option α × ε} (h : ∀ history, Permits s (answer history).2)
    (hends : ∀ history, Ends Q E (answer history).1 (next s (answer history).2)) :
    Guards next Permits s (act answer) Q E := fun history => ⟨⟨h history,trivial⟩,hends history⟩

theorem Guards.imp (h : Guards next Permits s m Q E) (hQ : ∀ a s, Q a s → Q' a s) (hE : ∀ s, E s → E' s) :
    Guards next Permits s m Q' E' := by
  intro history
  obtain ⟨hpermitted,hends⟩ := h history
  refine ⟨hpermitted,?_⟩
  cases hanswer : (m history).1 with
  | none =>
    rw [hanswer] at hends
    exact hE _ hends
  | some a =>
    rw [hanswer] at hends
    exact hQ a _ hends

theorem Guards.bind (hm : Guards next Permits s m Q E) (hf : ∀ a s', Q a s' → Guards next Permits s' (f a) R E) :
    Guards next Permits s (m >>= f) R E := by
  intro history
  obtain ⟨hpermitted,hends⟩ := hm history
  obtain ⟨b,done,hrun⟩ : ∃ b done, (m >>= f) history = (b,done) := ⟨_,_,rfl⟩
  rw [hrun]
  rcases bind_cases hrun with ⟨rfl,hm⟩ | ⟨a,before,after,hm,hlater,rfl⟩
  · rw [hm] at hpermitted hends
    exact ⟨hpermitted,hends⟩
  · rw [hm] at hpermitted hends
    have hR := hf a _ hends (history ++ before)
    rw [hlater] at hR
    refine ⟨permitted_append.mpr ⟨hpermitted,hR.1⟩,?_⟩
    rw [List.foldl_append]
    exact hR.2

theorem Guards.closedBy {last : List ε → Bool × ε} (hm : Guards next Permits s m Q E)
    (hQ : ∀ a s' history, Q a s' → Permits s' (last history).2 ∧ Q' a (next s' (last history).2) ∧
      E' (next s' (last history).2))
    (hE : ∀ s' history, E s' → Permits s' (last history).2 ∧ E' (next s' (last history).2)) :
    Guards next Permits s (Traced.closedBy m last) Q' E' := by
  intro history
  obtain ⟨hpermitted,hends⟩ := hm history
  have hfold : ((Traced.closedBy m last) history).2.foldl next s =
      next ((m history).2.foldl next s) (last (history ++ (m history).2)).2 := List.foldl_concat ..
  rw [hfold]
  cases hanswer : (m history).1 with
  | none =>
    rw [hanswer] at hends
    obtain ⟨hlast,hraised⟩ := hE _ (history ++ (m history).2) hends
    refine ⟨permitted_append.mpr ⟨hpermitted,hlast,trivial⟩,?_⟩
    simp only [Traced.closedBy,hanswer,ite_self]
    exact hraised
  | some a =>
    rw [hanswer] at hends
    obtain ⟨hlast,hdone,hraised⟩ := hQ a _ (history ++ (m history).2) hends
    refine ⟨permitted_append.mpr ⟨hpermitted,hlast,trivial⟩,?_⟩
    simp only [Traced.closedBy,hanswer]
    split
    · exact hdone
    · exact hraised

end monitors

end Traced
