import AiScdc.Transaction.Interleaving

namespace Transaction

variable {K : Type} {V : K → Type} {T ε α β ι G : Type}

-- The course a transaction takes through its phases: the writes each phase allows and what a
-- read, a new number or a statement that writes nothing may teach it.
structure Course (V : K → Type) (G : Type) where
  learn : G → Db V → ℕ → G → Prop
  number : G → ℕ → G → Prop
  update : G → ∀ k, (V k → Bool) → (V k → V k) → G → Prop
  flush : G → ∀ k, V k → V k → G → Prop
  commit : G → G → Prop
  rollback : G → G → Prop
  miss : G → ∀ k, (V k → Bool) → G → Prop := fun _ _ _ _ => False
  skip : G → ∀ k, V k → G → Prop := fun _ _ _ _ => False

def Writes (P : Course V G) : G → Prog V T ε α → (α → G → Prop) → (ε → G → Prop) → Prop
  | x, .pure a, Q, _ => Q a x
  | x, .throw e, _, E => E e x
  | x, .utcNow k, Q, E => ∀ t, Writes P x (k t) Q E
  | x, .freshId k, Q, E => ∀ n, ∃ y, (y = x ∨ P.number x n y) ∧ Writes P y (k n) Q E
  | x, .select k, Q, E => ∀ db n, ∃ y, (y = x ∨ P.learn x db n y) ∧ Writes P y (k db n) Q E
  | x, .update key g s k, Q, E =>
      (∃ y, P.update x key g s y ∧ Writes P y (k true) Q E) ∧
        ∃ y, (y = x ∨ P.miss x key g y) ∧ Writes P y (k false) Q E
  | x, .flush key l n k, Q, E =>
      (l = n → ∃ y, (y = x ∨ P.skip x key l y) ∧ Writes P y k Q E) ∧
        (l ≠ n → ∃ y, P.flush x key l n y ∧ Writes P y k Q E)
  | x, .commit k, Q, E => ∃ y, P.commit x y ∧ Writes P y k Q E
  | x, .rollback k, Q, E => ∃ y, P.rollback x y ∧ Writes P y k Q E

section writes

variable {P : Course V G} {x : G} {Q Q' : α → G → Prop} {E E' : ε → G → Prop}

theorem Writes.mono {m : Prog V T ε α} (h : Writes P x m Q E) (hQ : ∀ a y, Q a y → Q' a y)
    (hE : ∀ e y, E e y → E' e y) : Writes P x m Q' E' := by
  induction m generalizing x with
  | pure a => exact hQ a x h
  | throw e => exact hE e x h
  | utcNow k ih => exact fun t => ih t (h t)
  | freshId k ih =>
    intro n
    obtain ⟨y,hy,hk⟩ := h n
    exact ⟨y,hy,ih n hk⟩
  | select k ih =>
    intro db n
    obtain ⟨y,hy,hk⟩ := h db n
    exact ⟨y,hy,ih db n hk⟩
  | update key g s k ih =>
    obtain ⟨⟨y,hy,ht⟩,⟨z,hz,hf⟩⟩ := h
    exact ⟨⟨y,hy,ih true ht⟩,⟨z,hz,ih false hf⟩⟩
  | flush key l n k ih =>
    refine ⟨fun heq => ?_,fun hne => ?_⟩
    · obtain ⟨y,hy,hk⟩ := h.1 heq
      exact ⟨y,hy,ih hk⟩
    · obtain ⟨y,hy,hk⟩ := h.2 hne
      exact ⟨y,hy,ih hk⟩
  | commit k ih =>
    obtain ⟨y,hy,hk⟩ := h
    exact ⟨y,hy,ih hk⟩
  | rollback k ih =>
    obtain ⟨y,hy,hk⟩ := h
    exact ⟨y,hy,ih hk⟩

theorem Writes.bind {m : Prog V T ε α} {f : α → Prog V T ε β} {Q : β → G → Prop}
    (h : Writes P x m (fun a y => Writes P y (f a) Q E) E) : Writes P x (m >>= f) Q E := by
  show Writes P x (m.bind f) Q E
  induction m generalizing x with
  | pure a => exact h
  | throw e => exact h
  | utcNow k ih => exact fun t => ih t (h t)
  | freshId k ih =>
    intro n
    obtain ⟨y,hy,hk⟩ := h n
    exact ⟨y,hy,ih n hk⟩
  | select k ih =>
    intro db n
    obtain ⟨y,hy,hk⟩ := h db n
    exact ⟨y,hy,ih db n hk⟩
  | update key g s k ih =>
    obtain ⟨⟨y,hy,ht⟩,⟨z,hz,hf⟩⟩ := h
    exact ⟨⟨y,hy,ih true ht⟩,⟨z,hz,ih false hf⟩⟩
  | flush key l n k ih =>
    refine ⟨fun heq => ?_,fun hne => ?_⟩
    · obtain ⟨y,hy,hk⟩ := h.1 heq
      exact ⟨y,hy,ih hk⟩
    · obtain ⟨y,hy,hk⟩ := h.2 hne
      exact ⟨y,hy,ih hk⟩
  | commit k ih =>
    obtain ⟨y,hy,hk⟩ := h
    exact ⟨y,hy,ih hk⟩
  | rollback k ih =>
    obtain ⟨y,hy,hk⟩ := h
    exact ⟨y,hy,ih hk⟩

theorem Writes.tryCatch {m : Prog V T ε α} {h : ε → Prog V T ε α}
    (hm : Writes P x m Q (fun e y => Writes P y (h e) Q E)) : Writes P x (tryCatch m h) Q E := by
  show Writes P x (m.handle h) Q E
  induction m generalizing x with
  | pure a => exact hm
  | throw e => exact hm
  | utcNow k ih => exact fun t => ih t (hm t)
  | freshId k ih =>
    intro n
    obtain ⟨y,hy,hk⟩ := hm n
    exact ⟨y,hy,ih n hk⟩
  | select k ih =>
    intro db n
    obtain ⟨y,hy,hk⟩ := hm db n
    exact ⟨y,hy,ih db n hk⟩
  | update key g s k ih =>
    obtain ⟨⟨y,hy,ht⟩,⟨z,hz,hf⟩⟩ := hm
    exact ⟨⟨y,hy,ih true ht⟩,⟨z,hz,ih false hf⟩⟩
  | flush key l n k ih =>
    refine ⟨fun heq => ?_,fun hne => ?_⟩
    · obtain ⟨y,hy,hk⟩ := hm.1 heq
      exact ⟨y,hy,ih hk⟩
    · obtain ⟨y,hy,hk⟩ := hm.2 hne
      exact ⟨y,hy,ih hk⟩
  | commit k ih =>
    obtain ⟨y,hy,hk⟩ := hm
    exact ⟨y,hy,ih hk⟩
  | rollback k ih =>
    obtain ⟨y,hy,hk⟩ := hm
    exact ⟨y,hy,ih hk⟩

-- From a phase of Φ the program stays in phases of Φ, however it ends.
def Obeys (P : Course V G) (Φ : G → Prop) (m : Prog V T ε α) : Prop :=
  ∀ x, Φ x → Writes P x m (fun _ y => Φ y) fun _ y => Φ y

variable {Φ : G → Prop}

theorem Obeys.pure (a : α) : Obeys P Φ (pure a : Prog V T ε α) := fun _ hx => hx

theorem Obeys.throw (e : ε) : Obeys P Φ (throw e : Prog V T ε α) := fun _ hx => hx

theorem Obeys.raise (e : ε) : Obeys P Φ (.throw e : Prog V T ε α) := fun _ hx => hx

theorem Obeys.then {m : Prog V T ε α} {f : α → Prog V T ε β} {Q : β → G → Prop} (h : Obeys P Φ m)
    (hx : Φ x) (hf : ∀ a y, Φ y → Writes P y (f a) Q E) (hE : ∀ e y, Φ y → E e y) :
    Writes P x (m >>= f) Q E := Writes.bind ((h x hx).mono hf hE)

theorem Obeys.still {m : Prog V T ε α} {f : α → Prog V T ε β} {Q : β → G → Prop}
    (h : Obeys P (fun y => y = x) m) (hf : ∀ a, Writes P x (f a) Q E) (hE : ∀ e, E e x) :
    Writes P x (m >>= f) Q E := h.then rfl (fun a _ hy => hy ▸ hf a) fun e _ hy => hy ▸ hE e

theorem Obeys.bind {m : Prog V T ε α} {f : α → Prog V T ε β} (h : Obeys P Φ m)
    (hf : ∀ a, Obeys P Φ (f a)) : Obeys P Φ (m >>= f) :=
  fun _ hx => h.then hx hf fun _ _ hy => hy

theorem Obeys.tryCatch {m : Prog V T ε α} {h : ε → Prog V T ε α} (hm : Obeys P Φ m)
    (hh : ∀ e, Obeys P Φ (h e)) : Obeys P Φ (tryCatch m h) :=
  fun x hx => Writes.tryCatch ((hm x hx).mono (fun _ _ hy => hy) hh)

theorem Obeys.select {k : Db V → ℕ → Prog V T ε α} (h : ∀ db n, Obeys P Φ (k db n)) :
    Obeys P Φ (.select k) := fun x hx db n => ⟨x,Or.inl rfl,h db n x hx⟩

theorem Obeys.utcNow {k : T → Prog V T ε α} (h : ∀ t, Obeys P Φ (k t)) : Obeys P Φ (.utcNow k) :=
  fun x hx t => h t x hx

theorem Obeys.freshId {k : ℕ → Prog V T ε α} (h : ∀ n, Obeys P Φ (k n)) :
    Obeys P Φ (.freshId k) := fun x hx n => ⟨x,Or.inl rfl,h n x hx⟩

theorem Obeys.update {key : K} {g : V key → Bool} {s : V key → V key} {k : Bool → Prog V T ε α}
    (h : ∀ x, Φ x → ∃ y, Φ y ∧ P.update x key g s y) (hk : ∀ b, Obeys P Φ (k b)) :
    Obeys P Φ (.update key g s k) := by
  intro x hx
  obtain ⟨y,hy,hP⟩ := h x hx
  exact ⟨⟨y,hP,hk true y hy⟩,x,Or.inl rfl,hk false x hx⟩

theorem Obeys.flush {key : K} {l n : V key} {k : Prog V T ε α}
    (h : l ≠ n → ∀ x, Φ x → ∃ y, Φ y ∧ P.flush x key l n y) (hk : Obeys P Φ k) :
    Obeys P Φ (.flush key l n k) := by
  intro x hx
  refine ⟨fun _ => ⟨x,Or.inl rfl,hk x hx⟩,fun hne => ?_⟩
  obtain ⟨y,hy,hP⟩ := h hne x hx
  exact ⟨y,hP,hk y hy⟩

theorem Obeys.commit {k : Prog V T ε α} (h : ∀ x, Φ x → ∃ y, Φ y ∧ P.commit x y)
    (hk : Obeys P Φ k) : Obeys P Φ (.commit k) := by
  intro x hx
  obtain ⟨y,hy,hP⟩ := h x hx
  exact ⟨y,hP,hk y hy⟩

theorem Obeys.rollback {k : Prog V T ε α} (h : ∀ x, Φ x → ∃ y, Φ y ∧ P.rollback x y)
    (hk : Obeys P Φ k) : Obeys P Φ (.rollback k) := by
  intro x hx
  obtain ⟨y,hy,hP⟩ := h x hx
  exact ⟨y,hP,hk y hy⟩

def Gives (P : Course V G) (Φ : G → Prop) (m : Prog V T ε α) (R : α → Prop) : Prop :=
  ∀ x, Φ x → Writes P x m (fun a y => R a ∧ Φ y) fun _ y => Φ y

variable {R : α → Prop}

theorem Gives.pure {a : α} (h : R a) : Gives P Φ (pure a : Prog V T ε α) R := fun _ hx => ⟨h,hx⟩

theorem Gives.obeys {m : Prog V T ε α} (h : Gives P Φ m R) : Obeys P Φ m :=
  fun x hx => (h x hx).mono (fun _ _ hy => hy.2) fun _ _ hy => hy

theorem Gives.mono {m : Prog V T ε α} {R' : α → Prop} (h : Gives P Φ m R) (hR : ∀ a, R a → R' a) :
    Gives P Φ m R' := fun x hx => (h x hx).mono (fun a _ hy => ⟨hR a hy.1,hy.2⟩) fun _ _ hy => hy

theorem Gives.bind {m : Prog V T ε α} {f : α → Prog V T ε β} (h : Gives P Φ m R)
    (hf : ∀ a, R a → Obeys P Φ (f a)) : Obeys P Φ (m >>= f) :=
  fun x hx => Writes.bind ((h x hx).mono (fun a y hy => hf a hy.1 y hy.2) fun _ _ hy => hy)

theorem Gives.gives {m : Prog V T ε α} {f : α → Prog V T ε β} {R' : β → Prop} (h : Gives P Φ m R)
    (hf : ∀ a, R a → Gives P Φ (f a) R') : Gives P Φ (m >>= f) R' :=
  fun x hx => Writes.bind ((h x hx).mono (fun a y hy => hf a hy.1 y hy.2) fun _ _ hy => hy)

theorem Obeys.gives {m : Prog V T ε α} {f : α → Prog V T ε β} {R' : β → Prop} (h : Obeys P Φ m)
    (hf : ∀ a, Gives P Φ (f a) R') : Gives P Φ (m >>= f) R' :=
  fun x hx => Writes.bind ((h x hx).mono (fun a y hy => hf a y hy) fun _ _ hy => hy)

-- From a phase of Φ the program ends in a phase of Ψ or raises.
def Reaches (P : Course V G) (Φ : G → Prop) (m : Prog V T ε α) (Ψ : α → G → Prop) : Prop :=
  ∀ x, Φ x → Writes P x m Ψ fun _ _ => True

variable {Φ' : G → Prop} {Ψ Ψ' : α → G → Prop} {Ω : β → G → Prop}

theorem Reaches.bind {m : Prog V T ε α} {f : α → Prog V T ε β} (h : Reaches P Φ m Ψ)
    (hf : ∀ a, Reaches P (Ψ a) (f a) Ω) : Reaches P Φ (m >>= f) Ω :=
  fun x hx => Writes.bind ((h x hx).mono hf fun _ _ _ => trivial)

theorem Reaches.mono {m : Prog V T ε α} (h : Reaches P Φ m Ψ) (hΦ : ∀ x, Φ' x → Φ x)
    (hΨ : ∀ a y, Ψ a y → Ψ' a y) : Reaches P Φ' m Ψ' :=
  fun x hx => (h x (hΦ x hx)).mono hΨ fun _ _ _ => trivial

theorem Obeys.reaches {m : Prog V T ε α} (h : Obeys P Φ m) : Reaches P Φ m fun _ => Φ :=
  fun x hx => (h x hx).mono (fun _ _ hy => hy) fun _ _ _ => trivial

theorem Obeys.next {m : Prog V T ε α} {f : α → Prog V T ε β} (h : Obeys P Φ m)
    (hf : ∀ a, Reaches P Φ (f a) Ω) : Reaches P Φ (m >>= f) Ω := h.reaches.bind hf

theorem Gives.next {m : Prog V T ε α} {f : α → Prog V T ε β} (h : Gives P Φ m R)
    (hf : ∀ a, R a → Reaches P Φ (f a) Ω) : Reaches P Φ (m >>= f) Ω :=
  fun x hx => Writes.bind ((h x hx).mono (fun a y hy => hf a hy.1 y hy.2) fun _ _ _ => trivial)

end writes

variable [DecidableEq K] [Schema V]

-- What a transaction knows in each phase, whatever the others commit meanwhile.
structure Stable (D : Discipline V) (P : Course V G) (I : G → Pending V → World V → Prop) : Prop where
  env : ∀ {x p w w'}, I x p w → Env D p w w' → I x p w'
  bump : ∀ {x p w}, I x p w → I x p w.bump
  learn : ∀ {x y p w}, I x p w → P.learn x (p.view w.db) w.next y → I y p w
  number : ∀ {x y p w}, I x p w → P.number x w.next y → I y p w.bump
  update : ∀ {x y p w k g s}, I x p w → P.update x k g s y → g (p.view w.db k) = true →
    I y (p.put k (w.db k) (s (p.view w.db k))) w
  flush : ∀ {x y p w k l n}, I x p w → P.flush x k l n y → l ≠ n → D.fresh k l n (p.view w.db k) →
    I y (p.put k l (Schema.merge k l n (p.view w.db k))) w
  commit : ∀ {x y p w}, I x p w → P.commit x y →
    D.guar p w.db ∧ I y Pending.empty ⟨p.view w.db,w.next⟩
  rollback : ∀ {x y p w}, I x p w → P.rollback x y → I y Pending.empty w
  miss : ∀ {x y p w k g}, I x p w → P.miss x k g y → g (p.view w.db k) = false → I y p w
  skip : ∀ {x y p w k l}, I x p w → P.skip x k l y → I y p w

theorem wp_writes {D : Discipline V} {P : Course V G} {I : G → Pending V → World V → Prop}
    (hI : Stable D P I) (m : Prog V T ε α) {x : G} {Q : α → G → Prop} {E : ε → G → Prop}
    {p : Pending V} {w : World V} (h : Writes P x m Q E) (hp : I x p w) :
    wp D m (fun a p' w' => ∃ y, Q a y ∧ I y p' w') (fun e p' w' => ∃ y, E e y ∧ I y p' w')
      p w := by
  induction m generalizing x p w with
  | pure a => exact ⟨x,h,hp⟩
  | throw e => exact ⟨x,h,hp⟩
  | utcNow k ih => exact fun t => ih t (h t) hp
  | freshId k ih =>
    intro w' he
    have hp' := hI.env hp he
    obtain ⟨y,rfl | hy,hk⟩ := h w'.next
    · exact ih _ hk (hI.bump hp')
    · exact ih _ hk (hI.number hp' hy)
  | select k ih =>
    intro w' he
    have hp' := hI.env hp he
    obtain ⟨y,rfl | hy,hk⟩ := h (p.view w'.db) w'.next
    · exact ih _ _ hk hp'
    · exact ih _ _ hk (hI.learn hp' hy)
  | update key g s k ih =>
    intro w' he
    have hp' := hI.env hp he
    obtain ⟨⟨y,hy,ht⟩,⟨z,hz,hf⟩⟩ := h
    refine ⟨fun hg => ih _ ht (hI.update hp' hy hg),fun hg => ?_⟩
    rcases hz with rfl | hz
    · exact ih _ hf hp'
    · exact ih _ hf (hI.miss hp' hz hg)
  | flush key l n k ih =>
    refine ⟨fun heq => ?_,fun hne w' he hf => ?_⟩
    · obtain ⟨y,rfl | hy,hk⟩ := h.1 heq
      · exact ih hk hp
      · exact ih hk (hI.skip hp hy)
    obtain ⟨y,hy,hk⟩ := h.2 hne
    exact ih hk (hI.flush (hI.env hp he) hy hne hf)
  | commit k ih =>
    intro w' he
    obtain ⟨y,hy,hk⟩ := h
    obtain ⟨hg,hempty⟩ := hI.commit (hI.env hp he) hy
    exact ⟨hg,ih hk hempty⟩
  | rollback k ih =>
    intro w' he
    obtain ⟨y,hy,hk⟩ := h
    exact ih hk (hI.rollback (hI.env hp he) hy)

theorem Stable.safe {D : Discipline V} {P : Course V G} {I : G → Pending V → World V → Prop}
    (hI : Stable D P I) {m : Prog V T ε α} {x : G} {Q : α → G → Prop} {E : ε → G → Prop}
    {w : World V} (h : Writes P x m Q E) (hp : I x Pending.empty w) :
    wp D m (fun _ _ _ => True) (fun _ _ _ => True) Pending.empty w :=
  wp_mono m (fun _ _ _ _ => trivial) (fun _ _ _ _ => trivial) (wp_writes hI m h hp)

theorem wp_unguarded {D : Discipline V} (hD : ∀ p db, D.guar p db) (m : Prog V T ε α) (p : Pending V)
    (w : World V) : wp D m (fun _ _ _ => True) (fun _ _ _ => True) p w := by
  induction m generalizing p w with
  | pure a => trivial
  | throw e => trivial
  | utcNow k ih => exact fun t => ih t p w
  | freshId k ih => exact fun w' _ => ih _ p _
  | select k ih => exact fun w' _ => ih _ _ p w'
  | update key g s k ih => exact fun w' _ => ⟨fun _ => ih _ _ w',fun _ => ih _ p w'⟩
  | flush key l n k ih => exact ⟨fun _ => ih p w,fun _ w' _ _ => ih _ w'⟩
  | commit k ih => exact fun w' _ => ⟨hD p w'.db,ih _ _⟩
  | rollback k ih => exact fun w' _ => ih _ w'

-- A relation between the version of a row first loaded, the committed one and the pending one.
def RowWise (S : ∀ k, V k → V k → V k → Prop) (p : Pending V) (db : Db V) : Prop :=
  ∀ k wr, p k = some wr → S k wr.loaded (db k) wr.value

omit [DecidableEq K] [Schema V] in
theorem rowWise_empty {S : ∀ k, V k → V k → V k → Prop} {db : Db V} : RowWise S Pending.empty db :=
  fun _ _ h => by cases h

omit [Schema V] in
theorem RowWise.put {S : ∀ k, V k → V k → V k → Prop} {p : Pending V} {db : Db V}
    (h : RowWise S p db) {k : K} {l v : V k}
    (hk : S k (((p k).map Write.loaded).getD l) (db k) v) : RowWise S (p.put k l v) db := by
  intro k' wr hwr
  by_cases e : k' = k
  · subst e
    rw [Pending.put_self] at hwr
    cases hwr
    exact hk
  · rw [Pending.put_ne p l v e] at hwr
    exact h k' wr hwr

omit [DecidableEq K] [Schema V] in
theorem RowWise.env {S : ∀ k, V k → V k → V k → Prop} {D : Discipline V} {p : Pending V}
    {w w' : World V} (h : RowWise S p w.db) (he : Env D p w w') : RowWise S p w'.db := by
  intro k wr hwr
  rw [he.2 k (by simp [hwr])]
  exact h k wr hwr

structure RowRules (P : Course V G) (fresh S : ∀ k, V k → V k → V k → Prop) : Prop where
  update : ∀ {x y k g s v}, P.update x k g s y → g v = true → S k v v (s v)
  flush : ∀ {x y k l n v}, P.flush x k l n y → l ≠ n → fresh k l n v → S k l v (Schema.merge k l n v)
  updateAgain : ∀ {x y k l v u g s}, S k l v u → P.update x k g s y → g u = true → S k l v (s u)
  flushAgain : ∀ {x y k l v u l' n}, S k l v u → P.flush x k l' n y → l' ≠ n → fresh k l' n u →
    S k l v (Schema.merge k l' n u)

def rowDiscipline (fresh S : ∀ k, V k → V k → V k → Prop) : Discipline V where
  rely _ _ := True
  guar := RowWise S
  fresh := fresh

theorem RowRules.put_update {P : Course V G} {fresh S : ∀ k, V k → V k → V k → Prop}
    (h : RowRules P fresh S) {p : Pending V} {db : Db V} (hp : RowWise S p db) {x y : G} {k : K}
    {g : V k → Bool} {s : V k → V k} (hP : P.update x k g s y) (hg : g (p.view db k) = true) :
    RowWise S (p.put k (db k) (s (p.view db k))) db := by
  refine hp.put ?_
  cases hk : p k with
  | none =>
    rw [Pending.view_of_none hk] at hg ⊢
    exact h.update hP hg
  | some wr =>
    rw [Pending.view_of_some hk] at hg ⊢
    exact h.updateAgain (hp k wr hk) hP hg

theorem RowRules.put_flush {P : Course V G} {fresh S : ∀ k, V k → V k → V k → Prop}
    (h : RowRules P fresh S) {p : Pending V} {db : Db V} (hp : RowWise S p db) {x y : G} {k : K}
    {l n : V k} (hP : P.flush x k l n y) (hne : l ≠ n) (hf : fresh k l n (p.view db k)) :
    RowWise S (p.put k l (Schema.merge k l n (p.view db k))) db := by
  refine hp.put ?_
  cases hk : p k with
  | none =>
    rw [Pending.view_of_none hk] at hf ⊢
    exact h.flush hP hne hf
  | some wr =>
    rw [Pending.view_of_some hk] at hf ⊢
    exact h.flushAgain (hp k wr hk) hP hne hf

theorem RowRules.stable {P : Course V G} {fresh S : ∀ k, V k → V k → V k → Prop}
    (h : RowRules P fresh S) : Stable (rowDiscipline fresh S) P fun _ p w => RowWise S p w.db where
  env hp he := hp.env he
  bump hp := hp
  learn hp _ := hp
  number hp _ := hp
  update hp hP hg := h.put_update hp hP hg
  flush hp hP hne hf := h.put_flush hp hP hne hf
  commit hp _ := ⟨hp,rowWise_empty⟩
  rollback _ _ := rowWise_empty
  miss hp _ _ := hp
  skip hp _ := hp

-- Transactions that write rows by their courses, each flush as fresh as the condition asks.
def rowProtocol (prog : ι → Prog V T ε Unit) (P : ι → Course V G) (start : ι → G)
    (fresh S : ι → ∀ k, V k → V k → V k → Prop) (cond : Global ι V T ε → ι → Prop)
    (hprog : ∀ i, Writes (P i) (start i) (prog i) (fun _ _ => True) fun _ _ => True)
    (hrules : ∀ i, RowRules (P i) (fresh i) (S i))
    (hcond : ∀ g i key l n k, cond g i → (g.thread i).prog = .flush key l n k →
      fresh i key l n (g.view i key)) : Protocol ι V T ε where
  prog := prog
  disc i := rowDiscipline (fresh i) (S i)
  inv _ := True
  cond := cond
  rely_refl _ _ := trivial
  rely_trans _ _ _ _ _ _ := trivial
  rely_bump _ _ := trivial
  inv_commit _ _ _ _ _ := trivial
  fresh := hcond
  compat _ _ _ _ _ _ _ _ _ _ _ := trivial
  safe i _ _ := (hrules i).stable.safe (hprog i) rowWise_empty

theorem Run.rowWise [DecidableEq ι] [Fintype ι] {prog : ι → Prog V T ε Unit} {P : ι → Course V G}
    {X : ι → G} {F S : ι → ∀ k, V k → V k → V k → Prop} {cond : Global ι V T ε → ι → Prop}
    (hprog : ∀ i, Writes (P i) (X i) (prog i) (fun _ _ => True) fun _ _ => True)
    (hrules : ∀ i, RowRules (P i) (F i) (S i))
    (hcond : ∀ g i key l n k, cond g i → (g.thread i).prog = .flush key l n k →
      F i key l n (g.view i key)) {w : World V} {tr : List (Commit ι V)} {g : Global ι V T ε}
    (h : Run cond (Global.init w prog) tr g) : ∀ c ∈ tr, RowWise (S c.thread) c.pend c.before :=
  fun c hc => (((rowProtocol prog P X F S cond hprog hrules hcond).sound trivial h).2 c hc).1

end Transaction
