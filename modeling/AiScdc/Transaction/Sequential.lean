import AiScdc.Transaction.Logic

namespace Transaction

variable {K : Type} {V : K → Type} {T ε α β : Type}

structure Session (V : K → Type) where
  world : World V
  pend : Pending V
  tick : ℕ

variable [DecidableEq K] [Schema V]

def exec (clock : ℕ → T) : Prog V T ε α → Session V → Except ε α × Session V
  | .pure a, s => (.ok a,s)
  | .throw e, s => (.error e,s)
  | .utcNow k, s => exec clock (k (clock s.tick)) ⟨s.world,s.pend,s.tick+1⟩
  | .freshId k, s => exec clock (k s.world.next) ⟨s.world.bump,s.pend,s.tick⟩
  | .select k, s => exec clock (k (s.pend.view s.world.db) s.world.next) s
  | .update key guard set k, s =>
      let row := s.pend.view s.world.db key
      if guard row then exec clock (k true) ⟨s.world,s.pend.put key (s.world.db key) (set row),s.tick⟩
      else exec clock (k false) s
  | .flush key l n k, s =>
      if l = n then exec clock k s
      else
        let row := s.pend.view s.world.db key
        exec clock k ⟨s.world,s.pend.put key l (Schema.merge key l n row),s.tick⟩
  | .commit k, s =>
      exec clock k ⟨⟨s.pend.view s.world.db,s.world.next⟩,Pending.empty,s.tick⟩
  | .rollback k, s => exec clock k ⟨s.world,Pending.empty,s.tick⟩

theorem exec_bind (clock : ℕ → T) (m : Prog V T ε α) (f : α → Prog V T ε β) (s : Session V) :
    exec clock (m.bind f) s = match exec clock m s with
      | (.ok a,s') => exec clock (f a) s'
      | (.error e,s') => (.error e,s') := by
  induction m generalizing s with
  | pure a => rfl
  | throw e => rfl
  | utcNow k ih => exact ih (clock s.tick) ⟨s.world,s.pend,s.tick+1⟩
  | freshId k ih => exact ih s.world.next ⟨s.world.bump,s.pend,s.tick⟩
  | select k ih => exact ih (s.pend.view s.world.db) s.world.next s
  | update key g set k ih =>
    simp only [Prog.bind,exec]
    split
    · exact ih true _
    · exact ih false _
  | flush key l n k ih =>
    simp only [Prog.bind,exec]
    split
    · exact ih _
    · exact ih _
  | commit k ih => exact ih ⟨⟨s.pend.view s.world.db,s.world.next⟩,Pending.empty,s.tick⟩
  | rollback k ih => exact ih ⟨s.world,Pending.empty,s.tick⟩

-- Closing the session discards what was not committed.
def perform (clock : ℕ → T) (m : Prog V T ε α) (w : World V) : Except ε α × World V :=
  let r := exec clock m ⟨w,Pending.empty,0⟩
  (r.1,r.2.world)

def alone : Discipline V where
  rely w w' := w' = w
  guar _ _ := True
  fresh _ _ _ _ := True

omit [DecidableEq K] [Schema V] in
theorem env_alone {p : Pending V} {w w' : World V} : Env alone p w w' ↔ w' = w :=
  ⟨fun h => h.1,fun h => ⟨h,fun _ _ => h ▸ rfl⟩⟩

omit [DecidableEq K] [Schema V] in
@[simp] theorem alone_guar (p : Pending V) (db : Db V) : alone.guar p db := trivial

omit [DecidableEq K] [Schema V] in
@[simp] theorem alone_fresh (k : K) (l n c : V k) : alone.fresh k l n c := trivial

section rules

variable {Q : Post V α} {E : Post V ε} {p : Pending V} {w : World V}

@[simp] theorem alone_pure (a : α) : wp alone (.pure a : Prog V T ε α) Q E p w ↔ Q a p w := Iff.rfl

@[simp] theorem alone_throw (e : ε) : wp alone (.throw e : Prog V T ε α) Q E p w ↔ E e p w := Iff.rfl

@[simp] theorem alone_utcNow (k : T → Prog V T ε α) :
    wp alone (.utcNow k) Q E p w ↔ ∀ t, wp alone (k t) Q E p w := Iff.rfl

@[simp] theorem alone_freshId (k : ℕ → Prog V T ε α) :
    wp alone (.freshId k) Q E p w ↔ wp alone (k w.next) Q E p w.bump := by
  simp [wp,env_alone]

@[simp] theorem alone_select (k : Db V → ℕ → Prog V T ε α) :
    wp alone (.select k) Q E p w ↔ wp alone (k (p.view w.db) w.next) Q E p w := by
  simp [wp,env_alone]

@[simp] theorem alone_update (key : K) (g : V key → Bool) (s : V key → V key)
    (k : Bool → Prog V T ε α) : wp alone (.update key g s k) Q E p w ↔
      (g (p.view w.db key) = true →
        wp alone (k true) Q E (p.put key (w.db key) (s (p.view w.db key))) w) ∧
      (g (p.view w.db key) = false → wp alone (k false) Q E p w) := by
  simp [wp,env_alone]

@[simp] theorem alone_flush (key : K) (l n : V key) (k : Prog V T ε α) :
    wp alone (.flush key l n k) Q E p w ↔ (l = n → wp alone k Q E p w) ∧
      (l ≠ n → wp alone k Q E (p.put key l (Schema.merge key l n (p.view w.db key))) w) := by
  simp [wp,env_alone]

@[simp] theorem alone_commit (k : Prog V T ε α) :
    wp alone (.commit k) Q E p w ↔ wp alone k Q E Pending.empty ⟨p.view w.db,w.next⟩ := by
  simp [wp,env_alone]

@[simp] theorem alone_rollback (k : Prog V T ε α) :
    wp alone (.rollback k) Q E p w ↔ wp alone k Q E Pending.empty w := by
  simp [wp,env_alone]

end rules

theorem exec_wp (clock : ℕ → T) (m : Prog V T ε α) {Q : Post V α} {E : Post V ε}
    {s : Session V} (h : wp alone m Q E s.pend s.world) :
    match exec clock m s with
    | (.ok a,s') => Q a s'.pend s'.world
    | (.error e,s') => E e s'.pend s'.world := by
  induction m generalizing s with
  | pure a => exact h
  | throw e => exact h
  | utcNow k ih => exact ih (clock s.tick) (s := ⟨s.world,s.pend,s.tick+1⟩) (h _)
  | freshId k ih =>
    exact ih s.world.next (s := ⟨s.world.bump,s.pend,s.tick⟩) ((alone_freshId k).mp h)
  | select k ih => exact ih _ _ ((alone_select k).mp h)
  | update key g f k ih =>
    obtain ⟨ht,hf⟩ := (alone_update key g f k).mp h
    by_cases hg : g (s.pend.view s.world.db key) = true
    · rw [exec,if_pos hg]
      exact ih true (s := ⟨s.world,_,s.tick⟩) (ht hg)
    · rw [exec,if_neg hg]
      exact ih false (hf (by simpa using hg))
  | flush key l n k ih =>
    obtain ⟨he,hn⟩ := (alone_flush key l n k).mp h
    by_cases hln : l = n
    · rw [exec,if_pos hln]
      exact ih (he hln)
    · rw [exec,if_neg hln]
      exact ih (s := ⟨s.world,_,s.tick⟩) (hn hln)
  | commit k ih => exact ih ((alone_commit k).mp h)
  | rollback k ih => exact ih ((alone_rollback k).mp h)

theorem perform_wp (clock : ℕ → T) (m : Prog V T ε α) {w : World V}
    {Q : α → World V → Prop} {E : ε → World V → Prop}
    (h : wp alone m (fun a _ w' => Q a w') (fun e _ w' => E e w') Pending.empty w) :
    match perform clock m w with
    | (.ok a,w') => Q a w'
    | (.error e,w') => E e w' := by
  have hx := exec_wp clock m (s := ⟨w,Pending.empty,0⟩) h
  unfold perform
  revert hx
  generalize exec clock m ⟨w,Pending.empty,0⟩ = r
  obtain ⟨r,s⟩ := r
  cases r <;> exact id

theorem perform_inv (clock : ℕ → T) (m : Prog V T ε α) {w : World V} {I : World V → Prop}
    (h : wp alone m (fun _ _ w' => I w') (fun _ _ w' => I w') Pending.empty w) :
    I (perform clock m w).2 := by
  have hx := perform_wp clock m (Q := fun _ => I) (E := fun _ => I) h
  revert hx
  generalize perform clock m w = r
  obtain ⟨r,w'⟩ := r
  cases r <;> exact id

theorem perform_eq (clock : ℕ → T) (m : Prog V T ε α) {w w' : World V} {a : α}
    (h : wp alone m (fun b _ u => b = a ∧ u = w') (fun _ _ _ => False) Pending.empty w) :
    perform clock m w = (.ok a,w') := by
  have hx := perform_wp clock m (Q := fun b u => b = a ∧ u = w') (E := fun _ _ => False) h
  revert hx
  generalize perform clock m w = r
  obtain ⟨r,u⟩ := r
  cases r with
  | error e => exact False.elim
  | ok b => rintro ⟨rfl,rfl⟩; rfl

def quiet (w w' : World V) : Prop := w'.db = w.db ∧ w.next ≤ w'.next

omit [DecidableEq K] [Schema V] in
theorem drift_alone : Drift (alone (V := V)) quiet where
  refl _ := ⟨rfl,le_rfl⟩
  trans hab hbc := ⟨hbc.1.trans hab.1,hab.2.trans hbc.2⟩
  rely h := ⟨h ▸ rfl,h ▸ le_rfl⟩
  bump w := ⟨rfl,Nat.le_succ w.next⟩

abbrev Framed (F : K → Prop) : Pending V → World V → Pending V → World V → Prop :=
  Evolved quiet F

namespace Framed

variable {F : K → Prop} {p p' p'' : Pending V} {w w' w'' : World V}

omit [DecidableEq K] [Schema V] in
theorem refl (F : K → Prop) (p : Pending V) (w : World V) : Framed F p w p w :=
  Evolved.still drift_alone

omit [DecidableEq K] [Schema V] in
theorem trans (h : Framed F p w p' w') (h' : Framed F p' w' p'' w'') : Framed F p w p'' w'' :=
  Evolved.trans drift_alone h h'

omit [Schema V] in
theorem put {key : K} (l v : V key) (h : F key) : Framed F p w (p.put key l v) w :=
  Evolved.put drift_alone l v h

omit [DecidableEq K] [Schema V] in
theorem view (h : Framed F p w p' w') {k : K} (hk : ¬ F k) :
    p'.view w'.db k = p.view w.db k := by
  simp only [Pending.view,h.same k hk,h.drift.1]

end Framed

theorem wp_framed {F : K → Prop} (m : Prog V T ε α) (hm : Within F m) {Q : Post V α}
    {E : Post V ε} {p : Pending V} {w : World V}
    (hQ : ∀ a p' w', Framed F p w p' w' → Q a p' w')
    (hE : ∀ e p' w', Framed F p w p' w' → E e p' w') : wp alone m Q E p w :=
  wp_within drift_alone m hm hQ hE

end Transaction
