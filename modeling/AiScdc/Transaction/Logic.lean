import AiScdc.Transaction.Program

namespace Transaction

variable {K : Type} {V : K → Type} {T ε α β : Type}

structure Discipline (V : K → Type) where
  rely : World V → World V → Prop
  guar : Pending V → Db V → Prop
  fresh : ∀ k, V k → V k → V k → Prop

abbrev Post (V : K → Type) (α : Type) := α → Pending V → World V → Prop

def Env (D : Discipline V) (p : Pending V) (w w' : World V) : Prop :=
  D.rely w w' ∧ ∀ k, p k ≠ none → w'.db k = w.db k

def World.bump (w : World V) : World V := ⟨w.db,w.next+1⟩

variable [DecidableEq K] [Schema V]

def wp (D : Discipline V) : Prog V T ε α → Post V α → Post V ε → Pending V → World V → Prop
  | .pure a, Q, _, p, w => Q a p w
  | .throw e, _, E, p, w => E e p w
  | .utcNow k, Q, E, p, w => ∀ t, wp D (k t) Q E p w
  | .freshId k, Q, E, p, w => ∀ w', Env D p w w' → wp D (k w'.next) Q E p w'.bump
  | .select k, Q, E, p, w => ∀ w', Env D p w w' → wp D (k (p.view w'.db) w'.next) Q E p w'
  | .update key g s k, Q, E, p, w => ∀ w', Env D p w w' →
      (g (p.view w'.db key) = true →
        wp D (k true) Q E (p.put key (w'.db key) (s (p.view w'.db key))) w') ∧
      (g (p.view w'.db key) = false → wp D (k false) Q E p w')
  | .flush key l n k, Q, E, p, w =>
      (l = n → wp D k Q E p w) ∧
      (l ≠ n → ∀ w', Env D p w w' → D.fresh key l n (p.view w'.db key) →
        wp D k Q E (p.put key l (Schema.merge key l n (p.view w'.db key))) w')
  | .commit k, Q, E, p, w => ∀ w', Env D p w w' →
      D.guar p w'.db ∧ wp D k Q E Pending.empty ⟨p.view w'.db,w'.next⟩
  | .rollback k, Q, E, p, w => ∀ w', Env D p w w' → wp D k Q E Pending.empty w'

variable {D : Discipline V} {Q Q' : Post V α} {E E' : Post V ε} {p : Pending V} {w : World V}

theorem wp_bind (m : Prog V T ε α) (f : α → Prog V T ε β) (Q : Post V β) :
    wp D (m.bind f) Q E p w ↔ wp D m (fun a => wp D (f a) Q E) E p w := by
  induction m generalizing p w with
  | pure a => rfl
  | throw e => rfl
  | utcNow k ih => simp only [Prog.bind,wp,ih]
  | freshId k ih => simp only [Prog.bind,wp,ih]
  | select k ih => simp only [Prog.bind,wp,ih]
  | update key g s k ih => simp only [Prog.bind,wp,ih]
  | flush key l n k ih => simp only [Prog.bind,wp,ih]
  | commit k ih => simp only [Prog.bind,wp,ih]
  | rollback k ih => simp only [Prog.bind,wp,ih]

theorem wp_handle (m : Prog V T ε α) (h : ε → Prog V T ε α) :
    wp D (m.handle h) Q E p w ↔ wp D m Q (fun e => wp D (h e) Q E) p w := by
  induction m generalizing p w with
  | pure a => rfl
  | throw e => rfl
  | utcNow k ih => simp only [Prog.handle,wp,ih]
  | freshId k ih => simp only [Prog.handle,wp,ih]
  | select k ih => simp only [Prog.handle,wp,ih]
  | update key g s k ih => simp only [Prog.handle,wp,ih]
  | flush key l n k ih => simp only [Prog.handle,wp,ih]
  | commit k ih => simp only [Prog.handle,wp,ih]
  | rollback k ih => simp only [Prog.handle,wp,ih]

@[simp] theorem wp_monad_pure (a : α) : wp D (pure a : Prog V T ε α) Q E p w ↔ Q a p w := Iff.rfl

@[simp] theorem wp_monad_throw (e : ε) : wp D (throw e : Prog V T ε α) Q E p w ↔ E e p w := Iff.rfl

@[simp] theorem wp_monad_bind (m : Prog V T ε α) (f : α → Prog V T ε β) (Q : Post V β) :
    wp D (m >>= f) Q E p w ↔ wp D m (fun a => wp D (f a) Q E) E p w := wp_bind m f Q

@[simp] theorem wp_monad_tryCatch (m : Prog V T ε α) (h : ε → Prog V T ε α) :
    wp D (tryCatch m h) Q E p w ↔ wp D m Q (fun e => wp D (h e) Q E) p w := wp_handle m h

theorem wp_mono (m : Prog V T ε α) (hQ : ∀ a p w, Q a p w → Q' a p w)
    (hE : ∀ e p w, E e p w → E' e p w) (h : wp D m Q E p w) : wp D m Q' E' p w := by
  induction m generalizing p w with
  | pure a => exact hQ a p w h
  | throw e => exact hE e p w h
  | utcNow k ih => exact fun t => ih t (h t)
  | freshId k ih => exact fun w' he => ih _ (h w' he)
  | select k ih => exact fun w' he => ih _ _ (h w' he)
  | update key g s k ih =>
    exact fun w' he => ⟨fun hg => ih _ ((h w' he).1 hg),fun hg => ih _ ((h w' he).2 hg)⟩
  | flush key l n k ih =>
    exact ⟨fun heq => ih (h.1 heq),fun hne w' he hf => ih (h.2 hne w' he hf)⟩
  | commit k ih => exact fun w' he => ⟨(h w' he).1,ih (h w' he).2⟩
  | rollback k ih => exact fun w' he => ih (h w' he)

-- A thread that waits keeps its obligation while the others move the world along the rely.
theorem wp_env (m : Prog V T ε α) (htrans : ∀ {a b c}, D.rely a b → D.rely b c → D.rely a c)
    (hQ : ∀ a p w w', Q a p w → Env D p w w' → Q a p w')
    (hE : ∀ e p w w', E e p w → Env D p w w' → E e p w')
    (h : wp D m Q E p w) {w' : World V} (he : Env D p w w') : wp D m Q E p w' := by
  have step {u : World V} (hu : Env D p w' u) : Env D p w u :=
    ⟨htrans he.1 hu.1,fun k hk => (hu.2 k hk).trans (he.2 k hk)⟩
  induction m generalizing p w with
  | pure a => exact hQ a p w w' h he
  | throw e => exact hE e p w w' h he
  | utcNow k ih => exact fun t => ih t (h t) he step
  | freshId k ih => exact fun u hu => h u (step hu)
  | select k ih => exact fun u hu => h u (step hu)
  | update key g s k ih => exact fun u hu => h u (step hu)
  | flush key l n k ih =>
    exact ⟨fun heq => ih (h.1 heq) he step,fun hne u hu hf => h.2 hne u (step hu) hf⟩
  | commit k ih => exact fun u hu => h u (step hu)
  | rollback k ih => exact fun u hu => h u (step hu)

-- The program neither commits nor rolls back, and writes only rows of F.
def Within (F : K → Prop) : Prog V T ε α → Prop
  | .pure _ => True
  | .throw _ => True
  | .utcNow k => ∀ t, Within F (k t)
  | .freshId k => ∀ n, Within F (k n)
  | .select k => ∀ db n, Within F (k db n)
  | .update key _ _ k => F key ∧ ∀ b, Within F (k b)
  | .flush key _ _ k => F key ∧ Within F k
  | .commit _ => False
  | .rollback _ => False

omit [DecidableEq K] [Schema V] in
theorem Within.bind {F : K → Prop} {m : Prog V T ε α} {f : α → Prog V T ε β}
    (hm : Within F m) (hf : ∀ a, Within F (f a)) : Within F (m.bind f) := by
  induction m with
  | pure a => exact hf a
  | throw e => exact hm
  | utcNow k ih => exact fun t => ih t (hm t)
  | freshId k ih => exact fun n => ih n (hm n)
  | select k ih => exact fun db n => ih db n (hm db n)
  | update key g s k ih => exact ⟨hm.1,fun b => ih b (hm.2 b)⟩
  | flush key l n k ih => exact ⟨hm.1,ih hm.2⟩
  | commit k ih => exact hm.elim
  | rollback k ih => exact hm.elim

structure Drift (D : Discipline V) (R : World V → World V → Prop) : Prop where
  refl : ∀ w, R w w
  trans : ∀ {a b c}, R a b → R b c → R a c
  rely : ∀ {a b}, D.rely a b → R a b
  bump : ∀ w : World V, R w w.bump

structure Evolved (R : World V → World V → Prop) (F : K → Prop) (p : Pending V) (w : World V)
    (p' : Pending V) (w' : World V) : Prop where
  drift : R w w'
  held : ∀ k, p k ≠ none → p' k ≠ none ∧ w'.db k = w.db k
  same : ∀ k, ¬ F k → p' k = p k

namespace Evolved

variable {R : World V → World V → Prop} {F G : K → Prop} {p p' p'' : Pending V} {w w' w'' : World V}

omit [DecidableEq K] [Schema V] in
theorem still (hR : Drift D R) : Evolved R F p w p w :=
  ⟨hR.refl w,fun _ hk => ⟨hk,rfl⟩,fun _ _ => rfl⟩

omit [DecidableEq K] [Schema V] in
theorem env (hR : Drift D R) (he : Env D p w w') : Evolved R F p w p w' :=
  ⟨hR.rely he.1,fun k hk => ⟨hk,he.2 k hk⟩,fun _ _ => rfl⟩

omit [DecidableEq K] [Schema V] in
theorem bump (hR : Drift D R) (he : Env D p w w') : Evolved R F p w p w'.bump :=
  ⟨hR.trans (hR.rely he.1) (hR.bump w'),fun k hk => ⟨hk,he.2 k hk⟩,fun _ _ => rfl⟩

omit [Schema V] in
theorem put (hR : Drift D R) {key : K} (l v : V key) (hF : F key) :
    Evolved R F p w (p.put key l v) w := by
  refine ⟨hR.refl w,fun k hk => ⟨?_,rfl⟩,fun k hk => Pending.put_ne p l v fun e => hk (e ▸ hF)⟩
  by_cases e : k = key
  · subst e
    simp [Pending.put_self]
  · rwa [Pending.put_ne p l v e]

omit [DecidableEq K] [Schema V] in
theorem trans (hR : Drift D R) (h : Evolved R F p w p' w') (h' : Evolved R F p' w' p'' w'') :
    Evolved R F p w p'' w'' := by
  refine ⟨hR.trans h.drift h'.drift,fun k hk => ?_,fun k hk => (h'.same k hk).trans (h.same k hk)⟩
  obtain ⟨hk',hdb⟩ := h.held k hk
  obtain ⟨hk'',hdb'⟩ := h'.held k hk'
  exact ⟨hk'',hdb'.trans hdb⟩

omit [DecidableEq K] [Schema V] in
theorem mono (h : Evolved R F p w p' w') (hFG : ∀ k, F k → G k) : Evolved R G p w p' w' :=
  ⟨h.drift,h.held,fun k hk => h.same k fun hf => hk (hFG k hf)⟩

end Evolved

theorem wp_within {R : World V → World V → Prop} (hR : Drift D R) {F : K → Prop}
    (m : Prog V T ε α) (hm : Within F m) (hQ : ∀ a p' w', Evolved R F p w p' w' → Q a p' w')
    (hE : ∀ e p' w', Evolved R F p w p' w' → E e p' w') : wp D m Q E p w := by
  induction m generalizing p w with
  | pure a => exact hQ a p w (Evolved.still hR)
  | throw e => exact hE e p w (Evolved.still hR)
  | utcNow k ih => exact fun t => ih t (hm t) hQ hE
  | freshId k ih =>
    intro w' he
    exact ih _ (hm _) (fun a q u hu => hQ a q u ((Evolved.bump hR he).trans hR hu))
      (fun e q u hu => hE e q u ((Evolved.bump hR he).trans hR hu))
  | select k ih =>
    intro w' he
    exact ih _ _ (hm _ _) (fun a q u hu => hQ a q u ((Evolved.env hR he).trans hR hu))
      (fun e q u hu => hE e q u ((Evolved.env hR he).trans hR hu))
  | update key g s k ih =>
    intro w' he
    have henv : Evolved R F p w p w' := Evolved.env hR he
    refine ⟨fun _ => ?_,fun _ => ?_⟩
    · have hput := henv.trans hR (Evolved.put hR (w'.db key) (s (p.view w'.db key)) hm.1)
      exact ih _ (hm.2 _) (fun a q u hu => hQ a q u (hput.trans hR hu))
        (fun e q u hu => hE e q u (hput.trans hR hu))
    · exact ih _ (hm.2 _) (fun a q u hu => hQ a q u (henv.trans hR hu))
        (fun e q u hu => hE e q u (henv.trans hR hu))
  | flush key l n k ih =>
    refine ⟨fun _ => ih hm.2 hQ hE,fun _ w' he _ => ?_⟩
    have hput := (Evolved.env hR he).trans hR
      (Evolved.put hR l (Schema.merge key l n (p.view w'.db key)) hm.1)
    exact ih hm.2 (fun a q u hu => hQ a q u (hput.trans hR hu))
      (fun e q u hu => hE e q u (hput.trans hR hu))
  | commit k ih => exact hm.elim
  | rollback k ih => exact hm.elim

end Transaction
