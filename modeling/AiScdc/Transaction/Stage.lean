import AiScdc.Transaction.Sequential

namespace Transaction

variable {K : Type} {V : K → Type} {T ε α β : Type}

-- What a session that runs alone sees, has committed, and would number next.
structure Stage (V : K → Type) where
  current : Db V
  committed : Db V
  next : ℕ

namespace Stage

def of (p : Pending V) (w : World V) : Stage V := ⟨p.view w.db,w.db,w.next⟩

def start (w : World V) : Stage V := ⟨w.db,w.db,w.next⟩

def bump (s : Stage V) : Stage V := { s with next := s.next + 1 }

def commit (s : Stage V) : Stage V := { s with committed := s.current }

def rollback (s : Stage V) : Stage V := { s with current := s.committed }

def world (s : Stage V) : World V := ⟨s.committed,s.next⟩

section

variable (s : Stage V)

@[simp] theorem bump_current : s.bump.current = s.current := rfl

@[simp] theorem bump_committed : s.bump.committed = s.committed := rfl

@[simp] theorem bump_next : s.bump.next = s.next + 1 := rfl

@[simp] theorem commit_current : s.commit.current = s.current := rfl

@[simp] theorem commit_committed : s.commit.committed = s.current := rfl

@[simp] theorem commit_next : s.commit.next = s.next := rfl

@[simp] theorem rollback_current : s.rollback.current = s.committed := rfl

@[simp] theorem rollback_committed : s.rollback.committed = s.committed := rfl

@[simp] theorem rollback_next : s.rollback.next = s.next := rfl

end

variable [DecidableEq K]

def write (s : Stage V) (k : K) (v : V k) : Stage V :=
  { s with current := Function.update s.current k v }

variable (s : Stage V) (k : K) (v : V k)

@[simp] theorem write_committed : (s.write k v).committed = s.committed := rfl

@[simp] theorem write_next : (s.write k v).next = s.next := rfl

@[simp] theorem write_self : (s.write k v).current k = v := Function.update_self ..

theorem write_ne {k' : K} (h : k' ≠ k) : (s.write k v).current k' = s.current k' :=
  Function.update_of_ne h ..

@[simp] theorem write_same (h : s.current k = v) : s.write k v = s := by
  subst h
  simp [write]

theorem of_put (p : Pending V) (w : World V) (l : V k) :
    Stage.of (p.put k l v) w = (Stage.of p w).write k v := by
  unfold Stage.of Stage.write
  congr 1
  funext k'
  by_cases h : k' = k
  · subst h
    simp
  · rw [Pending.view_put_ne p l v w.db h,Function.update_of_ne h]

end Stage

-- Without a commit the session has written only rows of F.
structure Touched (F : K → Prop) (s s' : Stage V) : Prop where
  same : ∀ k, ¬ F k → s'.current k = s.current k
  committed : s'.committed = s.committed
  next : s.next ≤ s'.next

theorem Framed.touched {F : K → Prop} {p p' : Pending V} {w w' : World V}
    (h : Framed F p w p' w') : Touched F (Stage.of p w) (Stage.of p' w') :=
  ⟨fun _ hk => h.view hk,h.drift.1,h.drift.2⟩

section stages

variable [DecidableEq K] [Schema V]

variable {Q Q' : α → Stage V → Prop} {E E' : ε → Stage V → Prop} {s : Stage V}

def Serial (m : Prog V T ε α) (Q : α → Stage V → Prop) (E : ε → Stage V → Prop) (s : Stage V) : Prop :=
  ∀ p w, Stage.of p w = s →
    wp alone m (fun a p' w' => Q a (Stage.of p' w')) (fun e p' w' => E e (Stage.of p' w')) p w

theorem serial_pure {a : α} (h : Q a s) : Serial (pure a : Prog V T ε α) Q E s :=
  fun _ _ hs => by subst hs; exact h

theorem serial_throw {e : ε} (h : E e s) : Serial (.throw e : Prog V T ε α) Q E s :=
  fun _ _ hs => by subst hs; exact h

theorem serial_bind {m : Prog V T ε α} {f : α → Prog V T ε β} {Q : β → Stage V → Prop}
    (h : Serial m (fun a s' => Serial (f a) Q E s') E s) : Serial (m >>= f) Q E s := by
  intro p w hs
  rw [wp_monad_bind]
  exact wp_mono m (fun a p' w' ha => ha p' w' rfl) (fun _ _ _ he => he) (h p w hs)

theorem serial_tryCatch {m : Prog V T ε α} {f : ε → Prog V T ε α}
    (h : Serial m Q (fun e s' => Serial (f e) Q E s') s) : Serial (tryCatch m f) Q E s := by
  intro p w hs
  rw [wp_monad_tryCatch]
  exact wp_mono m (fun _ _ _ ha => ha) (fun e p' w' he => he p' w' rfl) (h p w hs)

theorem serial_mono {m : Prog V T ε α} (h : Serial m Q E s) (hQ : ∀ a s', Q a s' → Q' a s')
    (hE : ∀ e s', E e s' → E' e s') : Serial m Q' E' s :=
  fun p w hs => wp_mono m (fun a _ _ => hQ a _) (fun e _ _ => hE e _) (h p w hs)

theorem serial_utcNow {k : T → Prog V T ε α} (h : ∀ t, Serial (k t) Q E s) : Serial (.utcNow k) Q E s :=
  fun p w hs t => h t p w hs

theorem serial_freshId {k : ℕ → Prog V T ε α} (h : Serial (k s.next) Q E s.bump) :
    Serial (.freshId k) Q E s := by
  intro p w hs
  subst hs
  exact (alone_freshId k).mpr (h p w.bump rfl)

theorem serial_select {k : Db V → ℕ → Prog V T ε α} (h : Serial (k s.current s.next) Q E s) :
    Serial (.select k) Q E s := by
  intro p w hs
  subst hs
  exact (alone_select k).mpr (h p w rfl)

theorem serial_update {key : K} {g : V key → Bool} {f : V key → V key} {k : Bool → Prog V T ε α}
    (ht : g (s.current key) = true → Serial (k true) Q E (s.write key (f (s.current key))))
    (hf : g (s.current key) = false → Serial (k false) Q E s) : Serial (.update key g f k) Q E s := by
  intro p w hs
  subst hs
  exact (alone_update key g f k).mpr
    ⟨fun hg => ht hg _ _ (Stage.of_put _ _ p w _),fun hg => hf hg p w rfl⟩

theorem serial_flush {key : K} {l n : V key} {k : Prog V T ε α} (he : l = n → Serial k Q E s)
    (hn : l ≠ n → Serial k Q E (s.write key (Schema.merge key l n (s.current key)))) :
    Serial (.flush key l n k) Q E s := by
  intro p w hs
  subst hs
  exact (alone_flush key l n k).mpr
    ⟨fun h => he h p w rfl,fun h => hn h _ _ (Stage.of_put _ _ p w _)⟩

theorem serial_commit {k : Prog V T ε α} (h : Serial k Q E s.commit) : Serial (.commit k) Q E s := by
  intro p w hs
  subst hs
  exact (alone_commit k).mpr (h _ _ rfl)

theorem serial_rollback {k : Prog V T ε α} (h : Serial k Q E s.rollback) : Serial (.rollback k) Q E s := by
  intro p w hs
  subst hs
  exact (alone_rollback k).mpr (h _ _ rfl)

theorem exec_serial (clock : ℕ → T) {m : Prog V T ε α} {s : Session V}
    (h : Serial m Q E (Stage.of s.pend s.world)) :
    match exec clock m s with
    | (.ok a,s') => Q a (Stage.of s'.pend s'.world)
    | (.error e,s') => E e (Stage.of s'.pend s'.world) :=
  exec_wp clock m (h s.pend s.world rfl)

-- The first part runs to its end; whatever follows goes on in the session that it leaves.
theorem perform_bind (clock : ℕ → T) {m : Prog V T ε α} {w : World V}
    (h : Serial m Q E (Stage.start w)) :
    match perform clock m w with
    | (.ok a,_) => ∃ s : Session V, Q a (Stage.of s.pend s.world) ∧
        ∀ {β : Type} (f : α → Prog V T ε β),
          perform clock (m >>= f) w = ((exec clock (f a) s).1,(exec clock (f a) s).2.world)
    | (.error e,w') => ∃ s : Stage V, s.world = w' ∧ E e s ∧
        ∀ {β : Type} (f : α → Prog V T ε β), perform clock (m >>= f) w = (.error e,w') := by
  have hx := exec_serial clock (s := ⟨w,Pending.empty,0⟩) h
  have hb {β : Type} (f : α → Prog V T ε β) := exec_bind clock m f ⟨w,Pending.empty,0⟩
  have hp {β : Type} (f : α → Prog V T ε β) : perform clock (m >>= f) w =
      ((exec clock (m.bind f) ⟨w,Pending.empty,0⟩).1,
        (exec clock (m.bind f) ⟨w,Pending.empty,0⟩).2.world) := rfl
  simp only [hp,hb]
  unfold perform
  revert hx
  generalize exec clock m ⟨w,Pending.empty,0⟩ = out
  obtain ⟨r,s'⟩ := out
  cases r with
  | ok a => exact fun hx => ⟨s',hx,fun _ => rfl⟩
  | error e => exact fun hx => ⟨_,rfl,hx,fun _ => rfl⟩

theorem perform_serial (clock : ℕ → T) {m : Prog V T ε α} {w : World V}
    {Q : α → World V → Prop} {E : ε → World V → Prop}
    (h : Serial m (fun a s' => Q a s'.world) (fun e s' => E e s'.world) (Stage.start w)) :
    match perform clock m w with
    | (.ok a,w') => Q a w'
    | (.error e,w') => E e w' :=
  perform_wp clock m (h Pending.empty w rfl)

theorem perform_utcNow (clock : ℕ → T) {k : T → Prog V T ε α} {w : World V}
    {Q : α → World V → Prop} {E : ε → World V → Prop}
    (h : Serial (k (clock 0)) (fun a s' => Q a s'.world) (fun e s' => E e s'.world)
      (Stage.start w)) :
    match perform clock (.utcNow k) w with
    | (.ok a,w') => Q a w'
    | (.error e,w') => E e w' := by
  have hx := exec_wp clock (k (clock 0)) (s := ⟨w,Pending.empty,1⟩) (h Pending.empty w rfl)
  unfold perform
  rw [exec]
  revert hx
  generalize exec clock (k (clock 0)) ⟨w,Pending.empty,1⟩ = r
  obtain ⟨r,s⟩ := r
  cases r <;> exact id

end stages

end Transaction
