import AiScdc.Transaction.Commits
import AiScdc.Transaction.Stage

namespace Transaction

variable {K S : Type} {V : K → Type} {T ε α β : Type} [DecidableEq K]

-- The part of a database that a development follows: nothing of it lies in the rows it does not look at.
structure Projection (V : K → Type) (S : Type) where
  of : Db V → S
  looksAt : K → Prop
  spared : ∀ db k v, ¬ looksAt k → of (Function.update db k v) = of db

variable [Schema V]

theorem commits_bind (clock : ℕ → T) (m : Prog V T ε α) (f : α → Prog V T ε β) (s : Session V) :
    commits clock (m.bind f) s = commits clock m s ++ match exec clock m s with
      | (.ok a,s') => commits clock (f a) s'
      | (.error _,_) => [] := by
  induction m generalizing s with
  | pure a => rfl
  | throw e => rfl
  | utcNow k ih => exact ih (clock s.tick) ⟨s.world,s.pend,s.tick+1⟩
  | freshId k ih => exact ih s.world.next ⟨s.world.bump,s.pend,s.tick⟩
  | select k ih => exact ih (s.pend.view s.world.db) s.world.next s
  | update key g set k ih =>
    simp only [Prog.bind,commits,exec]
    split
    · exact ih true _
    · exact ih false _
  | flush key l n k ih =>
    simp only [Prog.bind,commits,exec]
    split
    · exact ih _
    · exact ih _
  | commit k ih =>
    exact congrArg (_ :: ·) (ih ⟨⟨s.pend.view s.world.db,s.world.next⟩,Pending.empty,s.tick⟩)
  | rollback k ih => exact ih ⟨s.world,Pending.empty,s.tick⟩

theorem exec_handle (clock : ℕ → T) (m : Prog V T ε α) (h : ε → Prog V T ε α) (s : Session V) :
    exec clock (m.handle h) s = match exec clock m s with
      | (.ok a,s') => (.ok a,s')
      | (.error e,s') => exec clock (h e) s' := by
  induction m generalizing s with
  | pure a => rfl
  | throw e => rfl
  | utcNow k ih => exact ih (clock s.tick) ⟨s.world,s.pend,s.tick+1⟩
  | freshId k ih => exact ih s.world.next ⟨s.world.bump,s.pend,s.tick⟩
  | select k ih => exact ih (s.pend.view s.world.db) s.world.next s
  | update key g set k ih =>
    simp only [Prog.handle,exec]
    split
    · exact ih true _
    · exact ih false _
  | flush key l n k ih =>
    simp only [Prog.handle,exec]
    split
    · exact ih _
    · exact ih _
  | commit k ih => exact ih ⟨⟨s.pend.view s.world.db,s.world.next⟩,Pending.empty,s.tick⟩
  | rollback k ih => exact ih ⟨s.world,Pending.empty,s.tick⟩

theorem commits_handle (clock : ℕ → T) (m : Prog V T ε α) (h : ε → Prog V T ε α) (s : Session V) :
    commits clock (m.handle h) s = commits clock m s ++ match exec clock m s with
      | (.ok _,_) => []
      | (.error e,s') => commits clock (h e) s' := by
  induction m generalizing s with
  | pure a => rfl
  | throw e => rfl
  | utcNow k ih => exact ih (clock s.tick) ⟨s.world,s.pend,s.tick+1⟩
  | freshId k ih => exact ih s.world.next ⟨s.world.bump,s.pend,s.tick⟩
  | select k ih => exact ih (s.pend.view s.world.db) s.world.next s
  | update key g set k ih =>
    simp only [Prog.handle,commits,exec]
    split
    · exact ih true _
    · exact ih false _
  | flush key l n k ih =>
    simp only [Prog.handle,commits,exec]
    split
    · exact ih _
    · exact ih _
  | commit k ih =>
    exact congrArg (_ :: ·) (ih ⟨⟨s.pend.view s.world.db,s.world.next⟩,Pending.empty,s.tick⟩)
  | rollback k ih => exact ih ⟨s.world,Pending.empty,s.tick⟩

section parts

variable {clock : ℕ → T} {m : Prog V T ε α} {s s' : Session V} {a : α} {e : ε}

theorem exec_bind_ok (h : exec clock m s = (.ok a,s')) (f : α → Prog V T ε β) :
    exec clock (m >>= f) s = exec clock (f a) s' := by
  refine (exec_bind clock m f s).trans ?_
  rw [h]

theorem commits_bind_ok (h : exec clock m s = (.ok a,s')) (f : α → Prog V T ε β) :
    commits clock (m >>= f) s = commits clock m s ++ commits clock (f a) s' := by
  refine (commits_bind clock m f s).trans ?_
  rw [h]

theorem exec_bind_error (h : exec clock m s = (.error e,s')) (f : α → Prog V T ε β) :
    exec clock (m >>= f) s = (.error e,s') := by
  refine (exec_bind clock m f s).trans ?_
  rw [h]

theorem commits_bind_error (h : exec clock m s = (.error e,s')) (f : α → Prog V T ε β) :
    commits clock (m >>= f) s = commits clock m s := by
  refine (commits_bind clock m f s).trans ?_
  rw [h]
  exact List.append_nil _

theorem exec_caught_ok (h : exec clock m s = (.ok a,s')) (f : ε → Prog V T ε α) :
    exec clock (tryCatch m f) s = (.ok a,s') := by
  refine (exec_handle clock m f s).trans ?_
  rw [h]

theorem commits_caught_ok (h : exec clock m s = (.ok a,s')) (f : ε → Prog V T ε α) :
    commits clock (tryCatch m f) s = commits clock m s := by
  refine (commits_handle clock m f s).trans ?_
  rw [h]
  exact List.append_nil _

theorem exec_caught_error (h : exec clock m s = (.error e,s')) (f : ε → Prog V T ε α) :
    exec clock (tryCatch m f) s = exec clock (f e) s' := by
  refine (exec_handle clock m f s).trans ?_
  rw [h]

theorem commits_caught_error (h : exec clock m s = (.error e,s')) (f : ε → Prog V T ε α) :
    commits clock (tryCatch m f) s = commits clock m s ++ commits clock (f e) s' := by
  refine (commits_handle clock m f s).trans ?_
  rw [h]

end parts

-- What is committed of the projection, and what the session sees of it.
def At (π : Projection V S) (Φ : S → S → Prop) (s : Session V) : Prop :=
  Φ (π.of s.world.db) (π.of (s.pend.view s.world.db))

def Lands (π : Projection V S) (Ψ : α → S → S → Prop) (Ξ : ε → S → S → Prop) :
    Except ε α × Session V → Prop
  | (.ok a,s) => At π (Ψ a) s
  | (.error e,s) => At π (Ξ e) s

-- Run alone under the clock, the program commits along R only and leads from Φ to Ψ, or raises in Ξ.
def Traces (π : Projection V S) (clock : ℕ → T) (R Φ : S → S → Prop) (m : Prog V T ε α)
    (Ψ : α → S → S → Prop) (Ξ : ε → S → S → Prop) : Prop :=
  ∀ s : Session V, At π Φ s →
    (∀ c ∈ commits clock m s, R (π.of c.1.db) (π.of c.2.db)) ∧ Lands π Ψ Ξ (exec clock m s)

section rules

variable {π : Projection V S} {clock : ℕ → T} {R Φ Φ' : S → S → Prop} {Ψ Ψ' : α → S → S → Prop}
  {Ω : β → S → S → Prop} {Ξ Ξ' : ε → S → S → Prop}

theorem Traces.mono {m : Prog V T ε α} (h : Traces π clock R Φ m Ψ Ξ) (hΦ : ∀ b c, Φ' b c → Φ b c)
    (hΨ : ∀ a b c, Ψ a b c → Ψ' a b c) (hΞ : ∀ e b c, Ξ e b c → Ξ' e b c) :
    Traces π clock R Φ' m Ψ' Ξ' := by
  intro s hs
  obtain ⟨hR,hx⟩ := h s (hΦ _ _ hs)
  refine ⟨hR,?_⟩
  revert hx
  generalize exec clock m s = out
  obtain ⟨r,s'⟩ := out
  cases r with
  | ok a => exact hΨ a _ _
  | error e => exact hΞ e _ _

theorem Traces.weaken {R' : S → S → Prop} {m : Prog V T ε α} (h : Traces π clock R Φ m Ψ Ξ)
    (hR : ∀ b c, R b c → R' b c) : Traces π clock R' Φ m Ψ Ξ :=
  fun s hs => ⟨fun c hc => hR _ _ ((h s hs).1 c hc),(h s hs).2⟩

theorem Traces.pure {a : α} (h : ∀ b c, Φ b c → Ψ a b c) :
    Traces π clock R Φ (pure a : Prog V T ε α) Ψ Ξ :=
  fun _ hs => ⟨fun _ hc => (List.not_mem_nil hc).elim,h _ _ hs⟩

theorem Traces.throw {e : ε} (h : ∀ b c, Φ b c → Ξ e b c) :
    Traces π clock R Φ (.throw e : Prog V T ε α) Ψ Ξ :=
  fun _ hs => ⟨fun _ hc => (List.not_mem_nil hc).elim,h _ _ hs⟩

theorem Traces.bind {m : Prog V T ε α} {f : α → Prog V T ε β} (h : Traces π clock R Φ m Ψ Ξ)
    (hf : ∀ a, Traces π clock R (Ψ a) (f a) Ω Ξ) : Traces π clock R Φ (m >>= f) Ω Ξ := by
  intro s hs
  obtain ⟨hR,hx⟩ := h s hs
  show (∀ c ∈ commits clock (m.bind f) s, _) ∧ Lands π Ω Ξ (exec clock (m.bind f) s)
  rw [commits_bind,exec_bind]
  revert hx
  generalize exec clock m s = out
  obtain ⟨r,s'⟩ := out
  cases r with
  | ok a =>
    intro hx
    obtain ⟨hR',hx'⟩ := hf a s' hx
    exact ⟨fun c hc => (List.mem_append.mp hc).elim (hR c) (hR' c),hx'⟩
  | error e => exact fun hx => ⟨by simpa using hR,hx⟩

theorem Traces.andThen {m : Prog V T ε α} {f : α → Prog V T ε β} {A : α → Prop}
    (h : Traces π clock R Φ m (fun a b c => A a ∧ Φ' b c) Ξ') (hΞ : ∀ e b c, Ξ' e b c → Ξ e b c)
    (hf : ∀ a, A a → Traces π clock R Φ' (f a) Ω Ξ) : Traces π clock R Φ (m >>= f) Ω Ξ :=
  (h.mono (fun _ _ h => h) (fun _ _ _ h => h) hΞ).bind fun a s hs => hf a hs.1 s hs.2

-- A fact that holds wherever the program starts may be used to follow it.
theorem Traces.given {m : Prog V T ε α} {p : Prop} (hp : ∀ b c, Φ b c → p)
    (h : p → Traces π clock R Φ m Ψ Ξ) : Traces π clock R Φ m Ψ Ξ := fun s hs => h (hp _ _ hs) s hs

theorem Traces.tryCatch {m : Prog V T ε α} {f : ε → Prog V T ε α} (h : Traces π clock R Φ m Ψ Ξ)
    (hf : ∀ e, Traces π clock R (Ξ e) (f e) Ψ Ξ') : Traces π clock R Φ (tryCatch m f) Ψ Ξ' := by
  intro s hs
  obtain ⟨hR,hx⟩ := h s hs
  show (∀ c ∈ commits clock (m.handle f) s, _) ∧ Lands π Ψ Ξ' (exec clock (m.handle f) s)
  rw [commits_handle,exec_handle]
  revert hx
  generalize exec clock m s = out
  obtain ⟨r,s'⟩ := out
  cases r with
  | ok a => exact fun hx => ⟨by simpa using hR,hx⟩
  | error e =>
    intro hx
    obtain ⟨hR',hx'⟩ := hf e s' hx
    exact ⟨fun c hc => (List.mem_append.mp hc).elim (hR c) (hR' c),hx'⟩

theorem Traces.utcNow {f : T → Prog V T ε α} (h : ∀ n, Traces π clock R Φ (f (clock n)) Ψ Ξ) :
    Traces π clock R Φ (.utcNow f) Ψ Ξ := fun s hs => h s.tick ⟨s.world,s.pend,s.tick+1⟩ hs

theorem Traces.freshId {f : ℕ → Prog V T ε α} (h : ∀ n, Traces π clock R Φ (f n) Ψ Ξ) :
    Traces π clock R Φ (.freshId f) Ψ Ξ := fun s hs => h s.world.next ⟨s.world.bump,s.pend,s.tick⟩ hs

theorem Traces.select {f : Db V → ℕ → Prog V T ε α}
    (h : ∀ b db n, Φ b (π.of db) → Traces π clock R Φ (f db n) Ψ Ξ) :
    Traces π clock R Φ (.select f) Ψ Ξ := fun s hs => h _ _ _ hs s hs

omit [Schema V] in
theorem of_put (π : Projection V S) (p : Pending V) (w : World V) (k : K) (l v : V k) :
    π.of ((p.put k l v).view w.db) = π.of (Function.update (p.view w.db) k v) :=
  congrArg π.of (congrArg Stage.current (Stage.of_put k v p w l))

omit [Schema V] in
theorem at_put {p : Pending V} {w : World V} {k : K} {l v : V k} {tick : ℕ}
    (h : Φ (π.of w.db) (π.of (Function.update (p.view w.db) k v))) :
    At π Φ ⟨w,p.put k l v,tick⟩ := by
  show Φ (π.of w.db) (π.of ((p.put k l v).view w.db))
  rw [of_put]
  exact h

theorem Traces.update {key : K} {g : V key → Bool} {set : V key → V key} {f : Bool → Prog V T ε α}
    {F H : S → S → Prop}
    (ht : ∀ b db, Φ b (π.of db) → g (db key) = true →
      H b (π.of (Function.update db key (set (db key)))))
    (hf : ∀ b db, Φ b (π.of db) → g (db key) = false → F b (π.of db))
    (h₁ : Traces π clock R H (f true) Ψ Ξ) (h₂ : Traces π clock R F (f false) Ψ Ξ) :
    Traces π clock R Φ (.update key g set f) Ψ Ξ := by
  intro s hs
  by_cases hg : g (s.pend.view s.world.db key) = true
  · simp only [exec,commits,if_pos hg]
    exact h₁ ⟨s.world,_,s.tick⟩ (at_put (ht _ _ hs hg))
  · simp only [exec,commits,if_neg hg]
    exact h₂ s (hf _ _ hs (eq_false_of_ne_true hg))

theorem Traces.flush {key : K} {l n : V key} {f : Prog V T ε α}
    (hn : ∀ b db, Φ b (π.of db) →
      Φ' b (π.of (Function.update db key (if l = n then db key else Schema.merge key l n (db key)))))
    (h : Traces π clock R Φ' f Ψ Ξ) : Traces π clock R Φ (.flush key l n f) Ψ Ξ := by
  intro s hs
  have hs' := hn _ _ hs
  by_cases hln : l = n
  · simp only [exec,commits,if_pos hln]
    rw [if_pos hln,Function.update_eq_self] at hs'
    exact h s hs'
  · simp only [exec,commits,if_neg hln]
    rw [if_neg hln] at hs'
    exact h ⟨s.world,_,s.tick⟩ (at_put hs')

theorem Traces.commit {f : Prog V T ε α} (hR : ∀ b c, Φ b c → R b c ∧ Φ' c c)
    (h : Traces π clock R Φ' f Ψ Ξ) : Traces π clock R Φ (.commit f) Ψ Ξ := by
  intro s hs
  obtain ⟨hc,hs'⟩ := hR _ _ hs
  obtain ⟨hrest,hx⟩ := h ⟨⟨s.pend.view s.world.db,s.world.next⟩,Pending.empty,s.tick⟩ hs'
  refine ⟨fun c hc' => ?_,hx⟩
  rcases List.mem_cons.mp hc' with rfl | hc'
  · exact hc
  · exact hrest c hc'

theorem Traces.rollback {f : Prog V T ε α} (hb : ∀ b c, Φ b c → Φ' b b)
    (h : Traces π clock R Φ' f Ψ Ξ) : Traces π clock R Φ (.rollback f) Ψ Ξ :=
  fun s hs => h ⟨s.world,Pending.empty,s.tick⟩ (hb _ _ hs)

end rules

section sparing

-- Whatever a program of this course does, it does not write what the projection looks at.
def sparing (π : Projection V S) (committing : Prop) : Course V Unit where
  learn _ _ _ _ := True
  number _ _ _ := True
  update _ k _ _ _ := ¬ π.looksAt k
  flush _ k _ _ _ := ¬ π.looksAt k
  commit _ _ := committing
  rollback _ _ := committing

variable {π : Projection V S} {committing : Prop} {b c : S}

theorem sparing_stable (h : committing → b = c) :
    Stable alone (sparing π committing) fun _ p w => π.of w.db = b ∧ π.of (p.view w.db) = c where
  env hI he := (env_alone.mp he) ▸ hI
  bump hI := hI
  learn hI _ := hI
  number hI _ := hI
  update hI hk _ := ⟨hI.1,(of_put π _ _ _ _ _).trans ((π.spared _ _ _ hk).trans hI.2)⟩
  flush hI hk _ _ := ⟨hI.1,(of_put π _ _ _ _ _).trans ((π.spared _ _ _ hk).trans hI.2)⟩
  commit hI hc := ⟨trivial,hI.2.trans (h hc).symm,hI.2⟩
  rollback hI hc := ⟨hI.1,hI.1.trans (h hc)⟩
  miss hI _ _ := hI
  skip hI _ := hI

variable {clock : ℕ → T} {R Φ : S → S → Prop} {A : α → Prop}

theorem Gives.traces {m : Prog V T ε α} (h : Gives (sparing π committing) (fun _ => True) m A)
    (hR : ∀ b, R b b) (hΦ : committing → ∀ b c, Φ b c → b = c) :
    Traces π clock R Φ m (fun a b c => A a ∧ Φ b c) fun _ => Φ := by
  intro s hs
  have hI : Stable alone (sparing π committing) fun _ p w =>
      π.of w.db = π.of s.world.db ∧ π.of (p.view w.db) = π.of (s.pend.view s.world.db) :=
    sparing_stable fun hc => hΦ hc _ _ hs
  have hw := h () trivial
  refine ⟨fun c hc => ?_,?_⟩
  · obtain ⟨x,y,p,hx,hcom,hafter⟩ := (exec_writes hI clock m hw ⟨rfl,rfl⟩).2 c hc
    rw [hafter,hx.1,hx.2,hΦ hcom _ _ hs]
    exact hR _
  · have hx := exec_wp clock m (wp_writes hI m hw ⟨rfl,rfl⟩)
    revert hx
    generalize exec clock m s = out
    obtain ⟨r,s'⟩ := out
    cases r with
    | ok a =>
      rintro ⟨_,⟨ha,_⟩,hb,hc⟩
      exact ⟨ha,by rw [hb,hc]; exact hs⟩
    | error e =>
      rintro ⟨_,_,hb,hc⟩
      show Φ _ _
      rw [hb,hc]
      exact hs

end sparing

-- Whatever the program raises is of p.
def Throws (p : ε → Prop) : Prog V T ε α → Prop
  | .pure _ => True
  | .throw e => p e
  | .utcNow k => ∀ t, Throws p (k t)
  | .freshId k => ∀ n, Throws p (k n)
  | .select k => ∀ db n, Throws p (k db n)
  | .update _ _ _ k => ∀ b, Throws p (k b)
  | .flush _ _ _ k => Throws p k
  | .commit k => Throws p k
  | .rollback k => Throws p k

section throws

variable {p : ε → Prop}

omit [DecidableEq K] [Schema V] in
theorem Throws.bind {m : Prog V T ε α} {f : α → Prog V T ε β} (h : Throws p m)
    (hf : ∀ a, Throws p (f a)) : Throws p (m >>= f) := by
  show Throws p (m.bind f)
  induction m with
  | pure a => exact hf a
  | throw e => exact h
  | utcNow k ih => exact fun t => ih t (h t)
  | freshId k ih => exact fun n => ih n (h n)
  | select k ih => exact fun db n => ih db n (h db n)
  | update key g s k ih => exact fun b => ih b (h b)
  | flush key l n k ih => exact ih h
  | commit k ih => exact ih h
  | rollback k ih => exact ih h

omit [DecidableEq K] [Schema V] in
theorem Throws.tryCatch {q : ε → Prop} {m : Prog V T ε α} {f : ε → Prog V T ε α} (h : Throws q m)
    (hf : ∀ e, q e → Throws p (f e)) : Throws p (tryCatch m f) := by
  show Throws p (m.handle f)
  induction m with
  | pure a => trivial
  | throw e => exact hf e h
  | utcNow k ih => exact fun t => ih t (h t)
  | freshId k ih => exact fun n => ih n (h n)
  | select k ih => exact fun db n => ih db n (h db n)
  | update key g s k ih => exact fun b => ih b (h b)
  | flush key l n k ih => exact ih h
  | commit k ih => exact ih h
  | rollback k ih => exact ih h

theorem Throws.exec {m : Prog V T ε α} (h : Throws p m) (clock : ℕ → T) (s : Session V) :
    ∀ e s', exec clock m s = (.error e,s') → p e := by
  induction m generalizing s with
  | pure a => exact fun e s' he => by cases he
  | throw e =>
    intro e' s' he
    cases he
    exact h
  | utcNow k ih => exact ih _ (h _) _
  | freshId k ih => exact ih _ (h _) _
  | select k ih => exact ih _ _ (h _ _) _
  | update key g f k ih =>
    intro e s' he
    rw [Transaction.exec] at he
    split at he
    · exact ih true (h true) _ e s' he
    · exact ih false (h false) _ e s' he
  | flush key l n k ih =>
    intro e s' he
    rw [Transaction.exec] at he
    split at he
    · exact ih h _ e s' he
    · exact ih h _ e s' he
  | commit k ih => exact ih h _
  | rollback k ih => exact ih h _

theorem Traces.throwing {π : Projection V S} {clock : ℕ → T} {R Φ : S → S → Prop} {m : Prog V T ε α}
    {Ψ : α → S → S → Prop} {Ξ : ε → S → S → Prop} (h : Traces π clock R Φ m Ψ Ξ) (hp : Throws p m) :
    Traces π clock R Φ m Ψ fun e b c => p e ∧ Ξ e b c := by
  intro s hs
  obtain ⟨hR,hx⟩ := h s hs
  have hex := hp.exec clock s
  refine ⟨hR,?_⟩
  revert hx hex
  generalize exec clock m s = out
  obtain ⟨r,s'⟩ := out
  cases r with
  | ok a => exact fun hx _ => hx
  | error e => exact fun hx hex => ⟨hex e s' rfl,hx⟩

end throws

section perform

variable {π : Projection V S} {R Φ : S → S → Prop} {Ψ : α → S → S → Prop} {Ξ : ε → S → S → Prop}

omit [Schema V] in
theorem Linked.reaches {db db' : Db V} {cs : List (World V × World V)} (h : Linked db cs db')
    (hR : ∀ c ∈ cs, R (π.of c.1.db) (π.of c.2.db)) :
    Relation.ReflTransGen R (π.of db) (π.of db') := by
  induction cs generalizing db with
  | nil =>
    obtain rfl : db' = db := h
    exact .refl
  | cons c cs ih =>
    obtain ⟨rfl,hrest⟩ := h
    exact (ih hrest fun d hd => hR d (List.mem_cons_of_mem c hd)).head (hR c List.mem_cons_self)

omit [Schema V] in
theorem Linked.reached {p : S → Prop} {db db' : Db V} {cs : List (World V × World V)}
    (h : Linked db cs db') (hR : ∀ c ∈ cs, R (π.of c.1.db) (π.of c.2.db)) (hp : ∀ b c, R b c → p b → p c)
    (hdb : p (π.of db)) : p (π.of db') := by
  have hreach := h.reaches hR
  generalize π.of db' = last at hreach ⊢
  induction hreach with
  | refl => exact hdb
  | tail _ hstep ih => exact hp _ _ hstep ih

-- What every commit keeps is there at the end.
theorem Traces.stable {clock : ℕ → T} {m : Prog V T ε α} {p : S → Prop} (h : Traces π clock R Φ m Ψ Ξ)
    (hp : ∀ b c, R b c → p b → p c) (hΦ : ∀ b c, Φ b c → p b) :
    Traces π clock R Φ m (fun a b c => Ψ a b c ∧ p b) (fun e b c => Ξ e b c ∧ p b) := by
  intro s hs
  obtain ⟨hR,hx⟩ := h s hs
  have hlast := (commits_linked clock m s).reached hR hp (hΦ _ _ hs)
  refine ⟨hR,?_⟩
  revert hx hlast
  generalize exec clock m s = out
  obtain ⟨r,s'⟩ := out
  cases r with
  | ok a => exact fun hx hlast => ⟨hx,hlast⟩
  | error e => exact fun hx hlast => ⟨hx,hlast⟩

-- What a whole run leaves behind.
theorem Traces.performed {clock : ℕ → T} {m : Prog V T ε α} {w : World V}
    (h : Traces π clock R Φ m Ψ Ξ) (hw : Φ (π.of w.db) (π.of w.db)) :
    Relation.ReflTransGen R (π.of w.db) (π.of (perform clock m w).2.db) ∧
      ∀ a, (perform clock m w).1 = .ok a → ∃ y, Ψ a (π.of (perform clock m w).2.db) y := by
  obtain ⟨hR,hx⟩ := h ⟨w,Pending.empty,0⟩ hw
  refine ⟨(commits_linked clock m ⟨w,Pending.empty,0⟩).reaches hR,fun a ha => ?_⟩
  unfold perform at ha ⊢
  revert ha hx
  generalize exec clock m ⟨w,Pending.empty,0⟩ = out
  obtain ⟨r,s⟩ := out
  rintro hx rfl
  exact ⟨_,hx⟩

-- What the first part raises ends the whole.
theorem perform_bind_raised {clock : ℕ → T} {m : Prog V T ε α} {f : α → Prog V T ε β} {w : World V} {e : ε}
    (he : (perform clock m w).1 = .error e) :
    perform clock (m >>= f) w = (.error e,(perform clock m w).2) := by
  have hstop : exec clock m ⟨w,Pending.empty,0⟩ = (.error e,(exec clock m ⟨w,Pending.empty,0⟩).2) :=
    Prod.ext he rfl
  unfold perform
  rw [exec_bind_error hstop]

theorem Traces.raised {clock : ℕ → T} {m : Prog V T ε α} {w : World V} {e : ε}
    (h : Traces π clock R Φ m Ψ Ξ) (hw : Φ (π.of w.db) (π.of w.db)) (he : (perform clock m w).1 = .error e) :
    ∃ y, Ξ e (π.of (perform clock m w).2.db) y := by
  obtain ⟨_,hx⟩ := h ⟨w,Pending.empty,0⟩ hw
  unfold perform at he ⊢
  revert he hx
  generalize exec clock m ⟨w,Pending.empty,0⟩ = out
  obtain ⟨r,s⟩ := out
  rintro rfl hx
  exact ⟨_,hx⟩

end perform

section forks

variable {ι X : Type} {clock : ℕ → T} {e : ε} {s s' : Session V}

-- The program commits what was made before and then once more, as N says, and ends without a change.
inductive GoesOn (clock : ℕ → T) (N : World V → World V → Prop) (made : List (World V × World V))
    (w : World V) (m : Prog V T ε α) (s : Session V) : Prop
  | intro {s' : Session V} {u : World V} {a : α} (rest : List (World V × World V))
      (hend : exec clock m s = (.ok a,s')) (hcommits : commits clock m s = made ++ (w,u) :: rest)
      (hnext : N w u) (hrest : ∀ c ∈ rest, c.2.db = c.1.db) (hlast : s'.world.db = u.db)
      (hidle : s'.pend = Pending.empty)

-- All these programs do what m does, unless m stops with e: there they go on, each with its own answer
-- to the same question.
inductive Forks (clock : ℕ → T) (e : ε) (N : X → ι → World V → World V → Prop) (m : Prog V T ε α)
    (m' : ι → Prog V T ε α) (s : Session V) : Prop
  | same (hexec : ∀ j, exec clock m s = exec clock (m' j) s)
      (hcommits : ∀ j, commits clock m s = commits clock (m' j) s)
  | parted {s' : Session V} (x : X) (hstop : exec clock m s = (.error e,s'))
      (hgoes : ∀ j, GoesOn clock (N x j) (commits clock m s) s'.world (m' j) s)

variable {N : X → ι → World V → World V → Prop} {m : Prog V T ε α} {m' : ι → Prog V T ε α}

theorem Forks.refl (m : Prog V T ε α) : Forks clock e N m (fun _ => m) s := .same (fun _ => rfl) fun _ => rfl

theorem GoesOn.after {N : World V → World V → Prop} {a : α} {f : α → Prog V T ε β}
    {made : List (World V × World V)} {w : World V} (hm : exec clock m s = (.ok a,s'))
    (h : GoesOn clock N made w (f a) s') : GoesOn clock N (commits clock m s ++ made) w (m >>= f) s := by
  obtain ⟨rest,hend,hcommits,hnext,hrest,hlast,hidle⟩ := h
  refine ⟨rest,(exec_bind_ok hm f).trans hend,?_,hnext,hrest,hlast,hidle⟩
  rw [commits_bind_ok hm,hcommits,List.append_assoc]

-- The programs part in what follows a common beginning.
theorem Forks.after {f : α → Prog V T ε β} {f' : ι → α → Prog V T ε β}
    (h : ∀ a s', exec clock m s = (.ok a,s') → Forks clock e N (f a) (fun j => f' j a) s') :
    Forks clock e N (m >>= f) (fun j => m >>= f' j) s := by
  rcases hm : exec clock m s with ⟨r,s'⟩
  cases r with
  | error d =>
    refine .same (fun j => ?_) fun j => ?_
    · rw [exec_bind_error hm,exec_bind_error hm]
    · rw [commits_bind_error hm,commits_bind_error hm]
  | ok a =>
    cases h a s' hm with
    | same hexec hcommits =>
      refine .same (fun j => ?_) fun j => ?_
      · rw [exec_bind_ok hm,exec_bind_ok hm,hexec j]
      · rw [commits_bind_ok hm,commits_bind_ok hm,hcommits j]
    | parted x hstop hgoes =>
      refine .parted x ((exec_bind_ok hm f).trans hstop) fun j => ?_
      rw [commits_bind_ok hm]
      exact (hgoes j).after hm

theorem Forks.ite {p : Prop} [Decidable p] {n : Prog V T ε α} {n' : ι → Prog V T ε α}
    (hm : Forks clock e N m m' s) (hn : Forks clock e N n n' s) :
    Forks clock e N (if p then m else n) (fun j => if p then m' j else n' j) s := by
  split
  · exact hm
  · exact hn

-- What follows leaves the database as it is.
def Idles (clock : ℕ → T) (g : Prog V T ε α) : Prop :=
  ∀ s : Session V, s.pend = Pending.empty →
    ∃ a s', exec clock g s = (.ok a,s') ∧ s'.world.db = s.world.db ∧ s'.pend = Pending.empty ∧
      ∀ c ∈ commits clock g s, c.2.db = c.1.db

theorem idles_pure (a : α) : Idles clock (pure a : Prog V T ε α) :=
  fun s hs => ⟨a,s,rfl,rfl,hs,fun _ hc => absurd hc List.not_mem_nil⟩

theorem idles_commit {g : Prog V T ε α} (h : Idles clock g) : Idles clock (.commit g) := by
  intro s hs
  obtain ⟨a,s',hexec,hdb,hidle,hcommits⟩ :=
    h ⟨⟨s.pend.view s.world.db,s.world.next⟩,Pending.empty,s.tick⟩ rfl
  have hview : s.pend.view s.world.db = s.world.db := by
    rw [hs]
    rfl
  refine ⟨a,s',hexec,hdb.trans hview,hidle,fun c hc => ?_⟩
  rcases List.mem_cons.mp hc with rfl | hc
  · exact hview
  · exact hcommits c hc

theorem GoesOn.before {N : World V → World V → Prop} {g : α → Prog V T ε β}
    {made : List (World V × World V)} {w : World V} (h : GoesOn clock N made w m s)
    (hg : ∀ a, Idles clock (g a)) : GoesOn clock N made w (m >>= g) s := by
  obtain @⟨s',u,a,rest,hend,hcommits,hnext,hrest,hlast,hidle⟩ := h
  obtain ⟨b,s'',hafter,hdb,hidle',hmade⟩ := hg a s' hidle
  refine ⟨rest ++ commits clock (g a) s',(exec_bind_ok hend g).trans hafter,?_,hnext,fun c hc => ?_,hdb.trans hlast,hidle'⟩
  · rw [commits_bind_ok hend,hcommits,List.append_assoc]
    rfl
  · exact (List.mem_append.mp hc).elim (hrest c) (hmade c)

theorem Forks.before {g : α → Prog V T ε β} (h : Forks clock e N m m' s) (hg : ∀ a, Idles clock (g a)) :
    Forks clock e N (m >>= g) (fun j => m' j >>= g) s := by
  cases h with
  | same hexec hcommits =>
    rcases hm : exec clock m s with ⟨r,s'⟩
    have hm' (j : ι) := (hexec j).symm.trans hm
    cases r with
    | error d =>
      refine .same (fun j => ?_) fun j => ?_
      · rw [exec_bind_error hm,exec_bind_error (hm' j)]
      · rw [commits_bind_error hm,commits_bind_error (hm' j),hcommits j]
    | ok a =>
      refine .same (fun j => ?_) fun j => ?_
      · rw [exec_bind_ok hm,exec_bind_ok (hm' j)]
      · rw [commits_bind_ok hm,commits_bind_ok (hm' j),hcommits j]
  | parted x hstop hgoes =>
    refine .parted x (exec_bind_error hstop g) fun j => ?_
    rw [commits_bind_error hstop]
    exact (hgoes j).before hg

-- A handler that lets the error pass.
theorem Forks.caught {f : ε → Prog V T ε α} {f' : ι → ε → Prog V T ε α} (h : Forks clock e N m m' s)
    (hpass : f e = .throw e) (hf : ∀ d s', Forks clock e N (f d) (fun j => f' j d) s') :
    Forks clock e N (tryCatch m f) (fun j => tryCatch (m' j) (f' j)) s := by
  cases h with
  | same hexec hcommits =>
    rcases hm : exec clock m s with ⟨r,s'⟩
    have hm' (j : ι) := (hexec j).symm.trans hm
    cases r with
    | ok a =>
      refine .same (fun j => ?_) fun j => ?_
      · rw [exec_caught_ok hm,exec_caught_ok (hm' j)]
      · rw [commits_caught_ok hm,commits_caught_ok (hm' j),hcommits j]
    | error d =>
      cases hf d s' with
      | same hexec' hcommits' =>
        refine .same (fun j => ?_) fun j => ?_
        · rw [exec_caught_error hm,exec_caught_error (hm' j),hexec' j]
        · rw [commits_caught_error hm,commits_caught_error (hm' j),hcommits j,hcommits' j]
      | parted x hstop hgoes =>
        refine .parted x ((exec_caught_error hm f).trans hstop) fun j => ?_
        obtain ⟨rest,hend,hmade,hnext,hrest,hlast,hidle⟩ := hgoes j
        refine ⟨rest,(exec_caught_error (hm' j) (f' j)).trans hend,?_,hnext,hrest,hlast,hidle⟩
        rw [commits_caught_error hm,commits_caught_error (hm' j),hcommits j,hmade,List.append_assoc]
  | parted x hstop hgoes =>
    have hthrown : commits clock (tryCatch m f) s = commits clock m s := by
      rw [commits_caught_error hstop,hpass]
      exact List.append_nil _
    refine .parted x ((exec_caught_error hstop f).trans (by rw [hpass]; rfl)) fun j => ?_
    rw [hthrown]
    obtain ⟨rest,hend,hmade,hnext,hrest,hlast,hidle⟩ := hgoes j
    exact ⟨rest,exec_caught_ok hend (f' j),(commits_caught_ok hend (f' j)).trans hmade,hnext,hrest,hlast,hidle⟩

end forks

end Transaction
