import AiScdc.Transaction.Footprint
import AiScdc.Transaction.Sequential

namespace Transaction

variable {K : Type} {V : K → Type} {T ε α G : Type} [DecidableEq K] [Schema V]

-- The worlds before and after each commit of a transaction that runs alone.
def commits (clock : ℕ → T) : Prog V T ε α → Session V → List (World V × World V)
  | .pure _, _ => []
  | .throw _, _ => []
  | .utcNow k, s => commits clock (k (clock s.tick)) ⟨s.world,s.pend,s.tick+1⟩
  | .freshId k, s => commits clock (k s.world.next) ⟨s.world.bump,s.pend,s.tick⟩
  | .select k, s => commits clock (k (s.pend.view s.world.db) s.world.next) s
  | .update key guard set k, s =>
      let row := s.pend.view s.world.db key
      if guard row then
        commits clock (k true) ⟨s.world,s.pend.put key (s.world.db key) (set row),s.tick⟩
      else commits clock (k false) s
  | .flush key l n k, s =>
      if l = n then commits clock k s
      else
        let row := s.pend.view s.world.db key
        commits clock k ⟨s.world,s.pend.put key l (Schema.merge key l n row),s.tick⟩
  | .commit k, s =>
      let after : World V := ⟨s.pend.view s.world.db,s.world.next⟩
      (s.world,after) :: commits clock k ⟨after,Pending.empty,s.tick⟩
  | .rollback k, s => commits clock k ⟨s.world,Pending.empty,s.tick⟩

-- The commits lead from one database to the other.
def Linked : Db V → List (World V × World V) → Db V → Prop
  | db, [], db' => db' = db
  | db, c :: cs, db' => c.1.db = db ∧ Linked c.2.db cs db'

theorem commits_linked (clock : ℕ → T) (m : Prog V T ε α) (s : Session V) :
    Linked s.world.db (commits clock m s) (exec clock m s).2.world.db := by
  induction m generalizing s with
  | pure a => rfl
  | throw e => rfl
  | utcNow k ih => exact ih _ ⟨s.world,s.pend,s.tick+1⟩
  | freshId k ih => exact ih _ ⟨s.world.bump,s.pend,s.tick⟩
  | select k ih => exact ih _ _ s
  | update key g f k ih =>
    by_cases hg : g (s.pend.view s.world.db key) = true
    · simp only [exec,commits,if_pos hg]
      exact ih true ⟨s.world,s.pend.put key (s.world.db key) (f (s.pend.view s.world.db key)),s.tick⟩
    · simp only [exec,commits,if_neg hg]
      exact ih false s
  | flush key l n k ih =>
    by_cases hln : l = n
    · simp only [exec,commits,if_pos hln]
      exact ih s
    · simp only [exec,commits,if_neg hln]
      exact ih ⟨s.world,s.pend.put key l (Schema.merge key l n (s.pend.view s.world.db key)),s.tick⟩
  | commit k ih => exact ⟨rfl,ih ⟨⟨s.pend.view s.world.db,s.world.next⟩,Pending.empty,s.tick⟩⟩
  | rollback k ih => exact ih ⟨s.world,Pending.empty,s.tick⟩

omit [DecidableEq K] [Schema V] in
-- What was not so at first and is so later has become so in some commit.
theorem Linked.becomes {B : Db V → Prop} {db db' e : Db V} {cs : List (World V × World V)}
    (h : Linked db cs db') (h₀ : ¬ B db) (he : e = db' ∨ ∃ c ∈ cs, e = c.2.db) (hB : B e) :
    ∃ c ∈ cs, ¬ B c.1.db ∧ B c.2.db := by
  induction cs generalizing db with
  | nil =>
    rcases he with rfl | ⟨c,hc,_⟩
    · exact (h₀ (h ▸ hB)).elim
    · cases hc
  | cons c cs ih =>
    obtain ⟨hc,hrest⟩ := h
    by_cases hb : B c.2.db
    · exact ⟨c,by simp,hc ▸ h₀,hb⟩
    · have hlater : e = db' ∨ ∃ d ∈ cs, e = d.2.db := by
        rcases he with he | ⟨d,hd,rfl⟩
        · exact Or.inl he
        · rcases List.mem_cons.mp hd with rfl | hd
          · exact (hb hB).elim
          · exact Or.inr ⟨d,hd,rfl⟩
      obtain ⟨d,hd,hflip⟩ := ih hrest hb hlater
      exact ⟨d,List.mem_cons_of_mem c hd,hflip⟩

-- A commit made in a phase of the course that allows it.
def CommitOf (P : Course V G) (I : G → Pending V → World V → Prop) (c : World V × World V) : Prop :=
  ∃ x y p, I x p c.1 ∧ P.commit x y ∧ c.2 = ⟨p.view c.1.db,c.1.next⟩

variable {P : Course V G} {I : G → Pending V → World V → Prop}

theorem exec_writes (hI : Stable alone P I) (clock : ℕ → T) (m : Prog V T ε α) {x : G}
    {Q : α → G → Prop} {E : ε → G → Prop} {s : Session V} (h : Writes P x m Q E)
    (hs : I x s.pend s.world) :
    (∃ y, I y (exec clock m s).2.pend (exec clock m s).2.world) ∧
      ∀ c ∈ commits clock m s, CommitOf P I c := by
  induction m generalizing x s with
  | pure a => exact ⟨⟨x,hs⟩,by simp [commits]⟩
  | throw e => exact ⟨⟨x,hs⟩,by simp [commits]⟩
  | utcNow k ih => exact ih _ (h _) hs
  | freshId k ih =>
    obtain ⟨y,rfl | hy,hk⟩ := h s.world.next
    · exact ih _ hk (s := ⟨s.world.bump,s.pend,s.tick⟩) (hI.bump hs)
    · exact ih _ hk (s := ⟨s.world.bump,s.pend,s.tick⟩) (hI.number hs hy)
  | select k ih =>
    obtain ⟨y,rfl | hy,hk⟩ := h (s.pend.view s.world.db) s.world.next
    · exact ih _ _ hk hs
    · exact ih _ _ hk (hI.learn hs hy)
  | update key g f k ih =>
    obtain ⟨⟨y,hy,ht⟩,⟨z,hz,hf⟩⟩ := h
    by_cases hg : g (s.pend.view s.world.db key) = true
    · simp only [exec,commits,if_pos hg]
      exact ih true ht (hI.update hs hy hg)
    · simp only [exec,commits,if_neg hg]
      rcases hz with rfl | hz
      · exact ih false hf hs
      · exact ih false hf (hI.miss hs hz (by simpa using hg))
  | flush key l n k ih =>
    by_cases hln : l = n
    · simp only [exec,commits,if_pos hln]
      obtain ⟨y,rfl | hy,hk⟩ := h.1 hln
      · exact ih hk hs
      · exact ih hk (hI.skip hs hy)
    · simp only [exec,commits,if_neg hln]
      obtain ⟨y,hy,hk⟩ := h.2 hln
      exact ih hk (hI.flush hs hy hln trivial)
  | commit k ih =>
    obtain ⟨y,hy,hk⟩ := h
    obtain ⟨hlast,hall⟩ := ih hk (s := ⟨⟨s.pend.view s.world.db,s.world.next⟩,Pending.empty,s.tick⟩)
      (hI.commit hs hy).2
    refine ⟨hlast,fun c hc => ?_⟩
    rcases List.mem_cons.mp hc with rfl | hc
    · exact ⟨x,y,s.pend,hs,hy,rfl⟩
    · exact hall c hc
  | rollback k ih =>
    obtain ⟨y,hy,hk⟩ := h
    exact ih hk (hI.rollback hs hy)

end Transaction
