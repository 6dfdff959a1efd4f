import AiScdc.Transaction.Sequential

namespace Transaction

variable {K : Type} {V : K → Type} {T ε α β : Type}

-- Before a statement is sent, others may have committed; the rows written here are locked.
def Session.met (env : ℕ → Db V → Db V) (s : Session V) : Session V where
  world := ⟨fun k => if (s.pend k).isSome then s.world.db k else env s.tick s.world.db k,s.world.next⟩
  pend := s.pend
  tick := s.tick + 1

variable [DecidableEq K] [Schema V]

def interrupted (env : ℕ → Db V → Db V) (clock : ℕ → T) :
    Prog V T ε α → Session V → Except ε α × Session V
  | .pure a, s => (.ok a,s)
  | .throw e, s => (.error e,s)
  | .utcNow k, s => interrupted env clock (k (clock s.tick)) ⟨s.world,s.pend,s.tick+1⟩
  | .freshId k, s =>
      let s := s.met env
      interrupted env clock (k s.world.next) ⟨s.world.bump,s.pend,s.tick⟩
  | .select k, s =>
      let s := s.met env
      interrupted env clock (k (s.pend.view s.world.db) s.world.next) s
  | .update key guard set k, s =>
      let s := s.met env
      let row := s.pend.view s.world.db key
      if guard row then
        interrupted env clock (k true) ⟨s.world,s.pend.put key (s.world.db key) (set row),s.tick⟩
      else interrupted env clock (k false) s
  | .flush key l n k, s =>
      if l = n then interrupted env clock k s
      else
        let s := s.met env
        let row := s.pend.view s.world.db key
        interrupted env clock k ⟨s.world,s.pend.put key l (Schema.merge key l n row),s.tick⟩
  | .commit k, s =>
      let s := s.met env
      interrupted env clock k ⟨⟨s.pend.view s.world.db,s.world.next⟩,Pending.empty,s.tick⟩
  | .rollback k, s =>
      let s := s.met env
      interrupted env clock k ⟨s.world,Pending.empty,s.tick⟩

variable {env : ℕ → Db V → Db V} {clock : ℕ → T}

variable (env clock) in
theorem interrupted_bind (m : Prog V T ε α) (f : α → Prog V T ε β) (s : Session V) :
    interrupted env clock (m.bind f) s = match interrupted env clock m s with
      | (.ok a,s') => interrupted env clock (f a) s'
      | (.error e,s') => (.error e,s') := by
  induction m generalizing s with
  | pure a => rfl
  | throw e => rfl
  | utcNow k ih => exact ih _ _
  | freshId k ih => exact ih _ _
  | select k ih => exact ih _ _ _
  | update key g set k ih =>
    simp only [Prog.bind,interrupted]
    split
    · exact ih true _
    · exact ih false _
  | flush key l n k ih =>
    simp only [Prog.bind,interrupted]
    split
    · exact ih _
    · exact ih _
  | commit k ih => exact ih _
  | rollback k ih => exact ih _

-- How a run has ended: with a value or with an error.
def EndsIn (Q : Post V α) (E : Post V ε) : Except ε α × Session V → Prop
  | (.ok a,s) => Q a s.pend s.world
  | (.error e,s) => E e s.pend s.world

omit [DecidableEq K] [Schema V] in
theorem Session.met_env {D : Discipline V} (henv : ∀ s : Session V, D.rely s.world (s.met env).world)
    (s : Session V) : Env D s.pend s.world (s.met env).world := by
  constructor
  · exact henv s
  · intro k hk
    simp [Session.met,Option.isSome_iff_ne_none.mpr hk]

variable (clock) in
theorem interrupted_ends {D : Discipline V} {Q : Post V α} {E : Post V ε}
    (henv : ∀ s : Session V, D.rely s.world (s.met env).world) (hfresh : ∀ k l n c, D.fresh k l n c)
    (m : Prog V T ε α) (s : Session V) (h : wp D m Q E s.pend s.world) :
    EndsIn Q E (interrupted env clock m s) := by
  induction m generalizing s with
  | pure a => exact h
  | throw e => exact h
  | utcNow k ih => exact ih _ _ (h _)
  | freshId k ih => exact ih _ _ (h _ (Session.met_env henv s))
  | select k ih => exact ih _ _ _ (h _ (Session.met_env henv s))
  | update key g set k ih =>
    have hrow := h _ (Session.met_env henv s)
    simp only [interrupted]
    split
    · rename_i hg
      exact ih true _ (hrow.1 hg)
    · rename_i hg
      exact ih false _ (hrow.2 (Bool.eq_false_iff.mpr hg))
  | flush key l n k ih =>
    simp only [interrupted]
    split
    · rename_i heq
      exact ih _ (h.1 heq)
    · rename_i hne
      exact ih _ (h.2 hne _ (Session.met_env henv s) (hfresh _ _ _ _))
  | commit k ih => exact ih _ (h _ (Session.met_env henv s)).2
  | rollback k ih => exact ih _ (h _ (Session.met_env henv s))

end Transaction
