import AiScdc.Transaction.Stage

namespace Transaction

variable {K : Type} {V : K → Type} {T ε α β : Type} [DecidableEq K] [Schema V]

-- A session that has read its clock n times runs alone to its end.
def Timed (clock : ℕ → T) (n : ℕ) (m : Prog V T ε α) (Q : α → ℕ → Stage V → Prop)
    (E : ε → ℕ → Stage V → Prop) (s : Stage V) : Prop :=
  ∀ p w, Stage.of p w = s → match exec clock m ⟨w,p,n⟩ with
    | (.ok a,s') => Q a s'.tick (Stage.of s'.pend s'.world)
    | (.error e,s') => E e s'.tick (Stage.of s'.pend s'.world)

variable {clock : ℕ → T} {n : ℕ} {Q Q' : α → ℕ → Stage V → Prop} {E E' : ε → ℕ → Stage V → Prop}
  {s : Stage V}

theorem timed_serial {m : Prog V T ε α} (h : Serial m (fun a s' => ∀ n', Q a n' s')
    (fun e s' => ∀ n', E e n' s') s) : Timed clock n m Q E s := by
  intro p w hs
  subst hs
  have hx := exec_serial clock (s := ⟨w,p,n⟩) h
  revert hx
  generalize exec clock m ⟨w,p,n⟩ = out
  obtain ⟨r,s'⟩ := out
  cases r with
  | ok a => exact fun hx => hx s'.tick
  | error e => exact fun hx => hx s'.tick

theorem timed_pure {a : α} (h : Q a n s) : Timed clock n (pure a : Prog V T ε α) Q E s :=
  fun _ _ hs => by subst hs; exact h

theorem timed_bind {m : Prog V T ε α} {f : α → Prog V T ε β} {Q : β → ℕ → Stage V → Prop}
    (h : Timed clock n m (fun a n' s' => Timed clock n' (f a) Q E s') E s) :
    Timed clock n (m >>= f) Q E s := by
  intro p w hs
  have hx := h p w hs
  change match exec clock (m.bind f) ⟨w,p,n⟩ with
    | (.ok a,s') => Q a s'.tick (Stage.of s'.pend s'.world)
    | (.error e,s') => E e s'.tick (Stage.of s'.pend s'.world)
  rw [exec_bind]
  revert hx
  generalize exec clock m ⟨w,p,n⟩ = out
  obtain ⟨r,s'⟩ := out
  cases r with
  | ok a => exact fun hx => hx s'.pend s'.world rfl
  | error e => exact fun hx => hx

theorem timed_utcNow {k : T → Prog V T ε α} (h : Timed clock (n + 1) (k (clock n)) Q E s) :
    Timed clock n (.utcNow k) Q E s := fun p w hs => h p w hs

theorem timed_select {k : Db V → ℕ → Prog V T ε α} (h : Timed clock n (k s.current s.next) Q E s) :
    Timed clock n (.select k) Q E s := by
  intro p w hs
  subst hs
  exact h p w rfl

theorem perform_timed {m : Prog V T ε α} {w : World V} {Q : α → World V → Prop}
    {E : ε → World V → Prop} (h : Timed clock 0 m (fun a _ s' => Q a s'.world)
      (fun e _ s' => E e s'.world) (Stage.start w)) :
    match perform clock m w with
    | (.ok a,w') => Q a w'
    | (.error e,w') => E e w' := by
  have hx := h Pending.empty w rfl
  unfold perform
  revert hx
  generalize exec clock m ⟨w,Pending.empty,0⟩ = out
  obtain ⟨r,s'⟩ := out
  cases r <;> exact id

theorem perform_timed_inv {m : Prog V T ε α} {w : World V} {I : World V → Prop}
    (h : Timed clock 0 m (fun _ _ s' => I s'.world) (fun _ _ s' => I s'.world) (Stage.start w)) :
    I (perform clock m w).2 := by
  have hx := perform_timed (Q := fun _ => I) (E := fun _ => I) h
  revert hx
  generalize perform clock m w = out
  obtain ⟨r,w'⟩ := out
  cases r <;> exact id

end Transaction
