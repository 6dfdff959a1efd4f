import AiScdc.Transaction.Footprint

namespace Transaction

variable {K : Type} {V : K → Type} {T ε ι G : Type}

section executions

variable [DecidableEq ι]

-- A crash loses what the thread has not committed.
def Global.crash (g : Global ι V T ε) (i : ι) : Global ι V T ε :=
  g.advance i g.world Pending.empty (.pure ())

def Global.pends (g : Global ι V T ε) (i : ι) : Pending V := (g.thread i).pend

theorem Global.pends_advance (g : Global ι V T ε) (i : ι) (w : World V) (p : Pending V)
    (m : Prog V T ε Unit) : (g.advance i w p m).pends = Function.update g.pends i p := by
  funext j
  by_cases h : j = i
  · subst h
    simp [pends,advance]
  · simp [pends,advance,h]

variable [DecidableEq K] [Schema V] [Fintype ι]

inductive Execution (C : Global ι V T ε → ι → Prop) (g₀ : Global ι V T ε) :
    List (Commit ι V) → Global ι V T ε → Prop
  | refl : Execution C g₀ [] g₀
  | step {tr g g'} (i : ι) (t : T) (h : Execution C g₀ tr g) (hc : C g i)
      (hs : g.step i t = some g') : Execution C g₀ (tr ++ g.committed i) g'
  | crash {tr g} (i : ι) (h : Execution C g₀ tr g) : Execution C g₀ tr (g.crash i)

variable {C : Global ι V T ε → ι → Prop} {g₀ g : Global ι V T ε} {tr : List (Commit ι V)}

theorem Run.execution (h : Run C g₀ tr g) : Execution C g₀ tr g := by
  induction h with
  | refl => exact .refl
  | step i t _ hc hs ih => exact .step i t ih hc hs

theorem Execution.weaken {C' : Global ι V T ε → ι → Prop} (hCC : ∀ g i, C g i → C' g i)
    (h : Execution C g₀ tr g) : Execution C' g₀ tr g := by
  induction h with
  | refl => exact .refl
  | step i t _ hc hs ih => exact .step i t ih (hCC _ _ hc) hs
  | crash i _ ih => exact .crash i ih

omit [DecidableEq ι] [DecidableEq K] [Schema V] [Fintype ι] in
theorem chained_unique {tr : List (Commit ι V)} {db m m' : Db V} (h : Transaction.chained db tr m)
    (h' : Transaction.chained db tr m') : m = m' := by
  induction tr generalizing db with
  | nil => exact Eq.trans h (Eq.symm h')
  | cons c cs ih => exact ih h.2 h'.2

theorem Execution.chained (h : Execution C g₀ tr g) : chained g₀.world.db tr g.world.db := by
  induction h with
  | refl => rfl
  | step i t _ _ hs ih => exact chained_append.mpr ⟨_,ih,Global.step_db hs⟩
  | crash i _ ih => exact ih

omit [DecidableEq K] [Schema V] [Fintype ι] in
theorem Global.advance_thread (g : Global ι V T ε) {i j : ι} (hj : j ≠ i) (w : World V) (p : Pending V)
    (m : Prog V T ε Unit) : (g.advance i w p m).thread j = g.thread j := by
  simp [Global.advance,hj]

theorem Global.step_thread {g' : Global ι V T ε} {i j : ι} {t : T} (hs : g.step i t = some g')
    (hj : j ≠ i) : g'.thread j = g.thread j := by
  unfold Global.step at hs
  cases hp : (g.thread i).prog with
  | update key guard set k =>
    simp only [hp] at hs
    split at hs
    · split at hs <;> cases hs <;> exact g.advance_thread hj _ _ _
    · cases hs
  | flush key l n k =>
    simp only [hp] at hs
    split at hs
    · cases hs
      exact g.advance_thread hj _ _ _
    · split at hs <;> cases hs
      exact g.advance_thread hj _ _ _
  | _ =>
    simp only [hp,Option.some.injEq] at hs
    subst hs
    exact g.advance_thread hj _ _ _

theorem Global.play_thread {ok : Global ι V T ε → ι → Bool} {j : ι} (schedule : List (ι × T))
    (hj : ∀ s ∈ schedule, j ≠ s.1) {g' : Global ι V T ε} (hp : g.play ok schedule = some (tr,g')) :
    g'.thread j = g.thread j := by
  induction schedule generalizing g tr with
  | nil =>
    cases hp
    rfl
  | cons it rest ih =>
    rw [Global.play] at hp
    split at hp
    · simp only [Option.bind_eq_some_iff,Option.map_eq_some_iff] at hp
      obtain ⟨g₁,hs,⟨tr₁,g₂⟩,hr,heq⟩ := hp
      cases heq
      have hrest := ih (fun s hs => hj s (List.mem_cons_of_mem _ hs)) hr
      exact hrest.trans (Global.step_thread hs (hj it List.mem_cons_self))
    · cases hp

-- Runs a schedule in which a thread may crash instead of taking its next step.
def Global.playCrashing (g : Global ι V T ε) : List (ι × Option T) →
    Option (List (Commit ι V) × Global ι V T ε)
  | [] => some ([],g)
  | (i,none) :: rest => (g.crash i).playCrashing rest
  | (i,some t) :: rest =>
    (g.step i t).bind fun g' => (g'.playCrashing rest).map fun r => (g.committed i ++ r.1,r.2)

theorem Global.playCrashing_execution (h : Execution (fun _ _ => True) g₀ tr g)
    (schedule : List (ι × Option T)) {tr' g'} (hp : g.playCrashing schedule = some (tr',g')) :
    Execution (fun _ _ => True) g₀ (tr ++ tr') g' := by
  induction schedule generalizing g tr tr' with
  | nil =>
    simp only [Global.playCrashing,Option.some.injEq,Prod.mk.injEq] at hp
    obtain ⟨rfl,rfl⟩ := hp
    simpa using h
  | cons it rest ih =>
    obtain ⟨i,t⟩ := it
    cases t with
    | none => exact ih (h.crash i) hp
    | some t =>
      simp only [Global.playCrashing,Option.bind_eq_some_iff,Option.map_eq_some_iff] at hp
      obtain ⟨g₁,hs,⟨tr₁,g₂⟩,hr,heq⟩ := hp
      cases heq
      have hrun := ih (h.step i t trivial hs) hr
      simpa using hrun

end executions

-- No two open transactions have written the same row.
def Apart (pd : ι → Pending V) : Prop := ∀ i j k, i ≠ j → pd i k ≠ none → pd j k = none

section annotations

variable [DecidableEq ι] [DecidableEq K] [Schema V]

-- An invariant of all threads together, of the phases they are in and of what was committed.
structure Annotated (P : ι → Course V G) (fresh : ι → ∀ k, V k → V k → V k → Prop)
    (J : List (Commit ι V) → (ι → G) → (ι → Pending V) → World V → Prop) : Prop where
  bump : ∀ {tr ph pd w}, J tr ph pd w → J tr ph pd w.bump
  learn : ∀ {tr ph pd w i y}, J tr ph pd w → (P i).learn (ph i) ((pd i).view w.db) w.next y →
    J tr (Function.update ph i y) pd w
  number : ∀ {tr ph pd w i y}, J tr ph pd w → (P i).number (ph i) w.next y →
    J tr (Function.update ph i y) pd w.bump
  update : ∀ {tr ph pd w i y k g s}, J tr ph pd w → Apart pd → (∀ j, j ≠ i → pd j k = none) →
    (P i).update (ph i) k g s y → g ((pd i).view w.db k) = true →
    J tr (Function.update ph i y)
      (Function.update pd i ((pd i).put k (w.db k) (s ((pd i).view w.db k)))) w
  flush : ∀ {tr ph pd w i y k l n}, J tr ph pd w → Apart pd → (∀ j, j ≠ i → pd j k = none) →
    (P i).flush (ph i) k l n y → l ≠ n → fresh i k l n ((pd i).view w.db k) →
    J tr (Function.update ph i y)
      (Function.update pd i ((pd i).put k l (Schema.merge k l n ((pd i).view w.db k)))) w
  commit : ∀ {tr ph pd w i y}, J tr ph pd w → Apart pd → (P i).commit (ph i) y →
    J (tr ++ [⟨i,pd i,w.db⟩]) (Function.update ph i y) (Function.update pd i Pending.empty)
      ⟨(pd i).view w.db,w.next⟩
  rollback : ∀ {tr ph pd w i y}, J tr ph pd w → (P i).rollback (ph i) y →
    J tr (Function.update ph i y) (Function.update pd i Pending.empty) w
  stop : ∀ {tr ph pd w} i, J tr ph pd w →
    ∃ y, J tr (Function.update ph i y) (Function.update pd i Pending.empty) w
  miss : ∀ {tr ph pd w i y k g}, J tr ph pd w → (P i).miss (ph i) k g y →
    g ((pd i).view w.db k) = false → J tr (Function.update ph i y) pd w
  skip : ∀ {tr ph pd w i y k l}, J tr ph pd w → (P i).skip (ph i) k l y →
    (pd i k = none → fresh i k l l ((pd i).view w.db k)) → J tr (Function.update ph i y) pd w

omit [DecidableEq K] [Schema V] in
theorem Apart.update {pd : ι → Pending V} (h : Apart pd) {i : ι} {p : Pending V}
    (hp : ∀ j k, j ≠ i → p k ≠ none → pd j k = none) : Apart (Function.update pd i p) := by
  intro a b k hab ha
  by_cases hai : a = i
  · subst hai
    rw [Function.update_self] at ha
    rw [Function.update_of_ne (Ne.symm hab)]
    exact hp b k (Ne.symm hab) ha
  · rw [Function.update_of_ne hai] at ha
    by_cases hbi : b = i
    · subst hbi
      rw [Function.update_self]
      by_contra hne
      exact ha (hp a k hai hne)
    · rw [Function.update_of_ne hbi]
      exact h a b k hab ha

omit [Schema V] in
theorem Apart.put {pd : ι → Pending V} (h : Apart pd) {i : ι} {key : K} (l v : V key)
    (hfree : ∀ j, j ≠ i → pd j key = none) : Apart (Function.update pd i ((pd i).put key l v)) := by
  refine h.update fun j k hj hk => ?_
  by_cases e : k = key
  · subst e
    exact hfree j hj
  · rw [Pending.put_ne _ _ _ e] at hk
    exact h i j k (Ne.symm hj) hk

omit [DecidableEq K] [Schema V] in
theorem Apart.drop {pd : ι → Pending V} (h : Apart pd) (i : ι) :
    Apart (Function.update pd i Pending.empty) := h.update fun _ _ _ hk => (hk rfl).elim

-- Every thread follows its course, and what it raises agrees with the phase it is then in.
def OnCourse (P : ι → Course V G) (E : ι → ε → G → Prop) (ph : ι → G) (g : Global ι V T ε) : Prop :=
  ∀ i, Writes (P i) (ph i) (g.thread i).prog (fun _ _ => True) (E i)

omit [DecidableEq K] [Schema V] in
theorem OnCourse.advance {P : ι → Course V G} {E : ι → ε → G → Prop} {ph : ι → G}
    {g : Global ι V T ε} (h : OnCourse P E ph g) (i : ι) (w : World V) (p : Pending V)
    {m : Prog V T ε Unit} {y : G} (hm : Writes (P i) y m (fun _ _ => True) (E i)) :
    OnCourse P E (Function.update ph i y) (g.advance i w p m) := by
  intro j
  by_cases hj : j = i
  · subst hj
    simpa [Global.advance] using hm
  · simpa [Global.advance,hj] using h j

variable [Fintype ι]

structure Standing (P : ι → Course V G) (E : ι → ε → G → Prop)
    (J : List (Commit ι V) → (ι → G) → (ι → Pending V) → World V → Prop) (tr : List (Commit ι V))
    (ph : ι → G) (g : Global ι V T ε) : Prop where
  inv : J tr ph g.pends g.world
  apart : Apart g.pends
  course : OnCourse P E ph g

variable {P : ι → Course V G} {E : ι → ε → G → Prop} {fresh : ι → ∀ k, V k → V k → V k → Prop}
  {J : List (Commit ι V) → (ι → G) → (ι → Pending V) → World V → Prop}
  {tr : List (Commit ι V)} {ph : ι → G} {g g' : Global ι V T ε}

omit [DecidableEq K] [Schema V] [Fintype ι] in
theorem Standing.advance (h : Standing P E J tr ph g) {i : ι} {w : World V} {p : Pending V}
    {m : Prog V T ε Unit} {y : G} {tr' : List (Commit ι V)}
    (hJ : J tr' (Function.update ph i y) (Function.update g.pends i p) w)
    (ha : Apart (Function.update g.pends i p))
    (hm : Writes (P i) y m (fun _ _ => True) (E i)) :
    Standing P E J tr' (Function.update ph i y) (g.advance i w p m) :=
  ⟨by rw [Global.pends_advance]; exact hJ,by rw [Global.pends_advance]; exact ha,
    h.course.advance i w p hm⟩

omit [Fintype ι] in
theorem Standing.stop (hA : Annotated P fresh J) (h : Standing P E J tr ph g) (i : ι) :
    ∃ ph', Standing P E J tr ph' (g.advance i g.world Pending.empty (.pure ())) := by
  obtain ⟨y,hy⟩ := hA.stop i h.inv
  exact ⟨_,h.advance hy (h.apart.drop i) trivial⟩

-- A thread that has raised an error may lose its transaction, but not what the error says.
def Ends (E : ι → ε → G → Prop)
    (J : List (Commit ι V) → (ι → G) → (ι → Pending V) → World V → Prop) : Prop :=
  ∀ {tr ph pd w} i e, J tr ph pd w → E i e (ph i) →
    ∃ y, E i e y ∧ J tr (Function.update ph i y) (Function.update pd i Pending.empty) w

theorem Standing.step (hA : Annotated P fresh J) (hend : Ends E J) (h : Standing P E J tr ph g)
    {i : ι} {t : T}
    (hf : ∀ key l n k, (g.thread i).prog = .flush key l n k → (l = n → g.pends i key = none) →
      fresh i key l n (g.view i key))
    (hs : g.step i t = some g') : ∃ ph', Standing P E J (tr ++ g.committed i) ph' g' := by
  have hm := h.course i
  have keep : Function.update g.pends i (g.thread i).pend = g.pends := Function.update_eq_self i _
  have same : Function.update ph i (ph i) = ph := Function.update_eq_self i _
  have self : Apart (Function.update g.pends i (g.thread i).pend) := by
    rw [keep]
    exact h.apart
  unfold Global.step at hs
  unfold Global.committed
  cases hp : (g.thread i).prog with
  | pure a =>
    simp only [hp,Option.some.injEq] at hs
    subst hs
    simpa using h.stop hA i
  | throw e =>
    simp only [hp,Option.some.injEq] at hs hm
    subst hs
    obtain ⟨y,hy,hJ⟩ := hend i e h.inv hm
    refine ⟨_,h.advance (y := y) ?_ (h.apart.drop i) hy⟩
    rw [List.append_nil]
    exact hJ
  | utcNow k =>
    simp only [hp,Option.some.injEq] at hs hm
    subst hs
    refine ⟨_,h.advance (y := ph i) ?_ self (hm t)⟩
    rw [keep,same,List.append_nil]
    exact h.inv
  | freshId k =>
    simp only [hp,Option.some.injEq] at hs hm
    subst hs
    obtain ⟨y,hy,hk⟩ := hm g.world.next
    refine ⟨_,h.advance (y := y) ?_ self hk⟩
    rw [keep,List.append_nil]
    rcases hy with rfl | hy
    · rw [same]
      exact hA.bump h.inv
    · exact hA.number h.inv hy
  | select k =>
    simp only [hp,Option.some.injEq] at hs hm
    subst hs
    obtain ⟨y,hy,hk⟩ := hm ((g.thread i).pend.view g.world.db) g.world.next
    refine ⟨_,h.advance (y := y) ?_ self hk⟩
    rw [keep,List.append_nil]
    rcases hy with rfl | hy
    · rw [same]
      exact h.inv
    · exact hA.learn h.inv hy
  | update key guard set k =>
    simp only [hp] at hs hm
    obtain ⟨⟨y,hy,ht⟩,⟨z,hz,hk⟩⟩ := hm
    simp only [List.append_nil]
    split at hs
    · rename_i hfree
      split at hs <;> cases hs
      · rename_i hg
        exact ⟨_,h.advance (hA.update h.inv h.apart hfree hy hg) (h.apart.put _ _ hfree) ht⟩
      · rename_i hg
        refine ⟨_,h.advance (y := z) ?_ self hk⟩
        rw [keep]
        rcases hz with rfl | hz
        · rw [same]
          exact h.inv
        · exact hA.miss h.inv hz (eq_false_of_ne_true hg)
    · cases hs
  | flush key l n k =>
    simp only [hp] at hs hm
    simp only [List.append_nil]
    split at hs
    · rename_i heq
      cases hs
      obtain ⟨y,hy,hk⟩ := hm.1 heq
      refine ⟨_,h.advance (y := y) ?_ self hk⟩
      rw [keep]
      rcases hy with rfl | hy
      · rw [same]
        exact h.inv
      · subst heq
        exact hA.skip h.inv hy fun hnone => hf key l l k hp fun _ => hnone
    · rename_i hne
      split at hs <;> cases hs
      rename_i hfree
      obtain ⟨y,hy,hk⟩ := hm.2 hne
      have hfresh := hf key l n k hp fun heq => (hne heq).elim
      exact ⟨_,h.advance (hA.flush h.inv h.apart hfree hy hne hfresh)
        (h.apart.put _ _ hfree) hk⟩
  | commit k =>
    simp only [hp,Option.some.injEq] at hs hm
    subst hs
    obtain ⟨y,hy,hk⟩ := hm
    exact ⟨_,h.advance (hA.commit h.inv h.apart hy) (h.apart.drop i) hk⟩
  | rollback k =>
    simp only [hp,Option.some.injEq] at hs hm
    subst hs
    obtain ⟨y,hy,hk⟩ := hm
    simp only [List.append_nil]
    exact ⟨_,h.advance (hA.rollback h.inv hy) (h.apart.drop i) hk⟩

omit [Fintype ι] in
theorem ends_trivial (hA : Annotated P fresh J) : Ends (fun _ (_ : ε) _ => True) J := by
  intro tr ph pd w i e hJ _
  have hstop : ∃ y, J tr (Function.update ph i y) (Function.update pd i Pending.empty) w := hA.stop i hJ
  obtain ⟨y,hy⟩ := hstop
  exact ⟨y,trivial,hy⟩

theorem Execution.ending (hA : Annotated P fresh J) (hend : Ends E J)
    {cond : Global ι V T ε → ι → Prop}
    (hcond : ∀ g i key l n k, cond g i → (g.thread i).prog = .flush key l n k →
      (l = n → g.pends i key = none) → fresh i key l n (g.view i key))
    {prog : ι → Prog V T ε Unit} {start : ι → G}
    (hprog : ∀ i, Writes (P i) (start i) (prog i) (fun _ _ => True) (E i))
    {w : World V} (h₀ : J [] start (fun _ => Pending.empty) w)
    (h : Execution cond (Global.init w prog) tr g) : ∃ ph, Standing P E J tr ph g := by
  induction h with
  | refl => exact ⟨start,h₀,fun _ _ _ _ hk => (hk rfl).elim,hprog⟩
  | step i t _ hc hs ih =>
    obtain ⟨ph,hph⟩ := ih
    exact hph.step hA hend (fun key l n k hp => hcond _ i key l n k hc hp) hs
  | crash i _ ih =>
    obtain ⟨ph,hph⟩ := ih
    exact hph.stop hA i

theorem Execution.standing (hA : Annotated P fresh J) {cond : Global ι V T ε → ι → Prop}
    (hcond : ∀ g i key l n k, cond g i → (g.thread i).prog = .flush key l n k →
      (l = n → g.pends i key = none) → fresh i key l n (g.view i key))
    {prog : ι → Prog V T ε Unit} {start : ι → G}
    (hprog : ∀ i, Writes (P i) (start i) (prog i) (fun _ _ => True) fun _ _ => True)
    {w : World V} (h₀ : J [] start (fun _ => Pending.empty) w)
    (h : Execution cond (Global.init w prog) tr g) :
    ∃ ph, Standing P (fun _ _ _ => True) J tr ph g :=
  h.ending hA (ends_trivial hA) hcond hprog h₀

end annotations

section rows

variable [DecidableEq ι] [DecidableEq K] [Schema V]

omit [DecidableEq ι] [DecidableEq K] [Schema V] in
-- Another transaction's commit changes no row that this one has written.
theorem RowWise.commit {S : ∀ k, V k → V k → V k → Prop} {pd : ι → Pending V} {w : World V} {i j : ι}
    (h : RowWise S (pd j) w.db) (ha : Apart pd) (hj : j ≠ i) : RowWise S (pd j) ((pd i).view w.db) := by
  intro k wr hk
  have hfree : pd i k = none := ha j i k hj (by simp [hk])
  rw [show (pd i).view w.db k = w.db k from Pending.view_of_none hfree w.db]
  exact h k wr hk

structure RowsKept (S : ι → ∀ k, V k → V k → V k → Prop) (tr : List (Commit ι V))
    (pd : ι → Pending V) (w : World V) : Prop where
  pending : ∀ i, RowWise (S i) (pd i) w.db
  done : ∀ c ∈ tr, RowWise (S c.thread) c.pend c.before

theorem RowsKept.annotated {P : ι → Course V G} {fresh S : ι → ∀ k, V k → V k → V k → Prop}
    (hrules : ∀ i, RowRules (P i) (fresh i) (S i)) :
    Annotated P fresh fun tr _ pd w => RowsKept S tr pd w := by
  have change {tr : List (Commit ι V)} {pd : ι → Pending V} {w : World V} (h : RowsKept S tr pd w)
      {i : ι} {p : Pending V} (hp : RowWise (S i) p w.db) :
      RowsKept S tr (Function.update pd i p) w := by
    refine ⟨fun j => ?_,h.done⟩
    by_cases hj : j = i
    · subst hj
      simpa using hp
    · simpa [hj] using h.pending j
  refine ⟨fun h => ⟨h.pending,h.done⟩,fun h _ => h,fun h _ => ⟨h.pending,h.done⟩,?_,?_,?_,fun h _ => change h rowWise_empty,
    fun {_ ph _ _} i h => ⟨ph i,change h rowWise_empty⟩,fun h _ _ => ⟨h.pending,h.done⟩,
    fun h _ _ => ⟨h.pending,h.done⟩⟩
  · intro tr ph pd w i y k g s h _ _ hP hg
    exact change h ((hrules i).put_update (h.pending i) hP hg)
  · intro tr ph pd w i y k l n h _ _ hP hne hf
    exact change h ((hrules i).put_flush (h.pending i) hP hne hf)
  · intro tr ph pd w i y h ha _
    refine ⟨fun j => ?_,fun c hc => ?_⟩
    · by_cases hj : j = i
      · subst hj
        simpa using rowWise_empty
      · rw [Function.update_of_ne hj]
        exact (h.pending j).commit ha hj
    · rcases List.mem_append.mp hc with hc | hc
      · exact h.done c hc
      · obtain rfl := List.mem_singleton.mp hc
        exact h.pending i

theorem Execution.rowWise [Fintype ι] {prog : ι → Prog V T ε Unit} {P : ι → Course V G}
    {start : ι → G} {fresh S : ι → ∀ k, V k → V k → V k → Prop} {cond : Global ι V T ε → ι → Prop}
    (hprog : ∀ i, Writes (P i) (start i) (prog i) (fun _ _ => True) fun _ _ => True)
    (hrules : ∀ i, RowRules (P i) (fresh i) (S i))
    (hcond : ∀ g i key l n k, cond g i → (g.thread i).prog = .flush key l n k →
      fresh i key l n (g.view i key)) {w : World V} {tr : List (Commit ι V)} {g : Global ι V T ε}
    (h : Execution cond (Global.init w prog) tr g) :
    ∀ c ∈ tr, RowWise (S c.thread) c.pend c.before := by
  obtain ⟨_,hst⟩ := h.standing (J := fun tr _ pd w => RowsKept S tr pd w)
    (RowsKept.annotated hrules) (fun g i key l n k hc hp _ => hcond g i key l n k hc hp) hprog ⟨fun _ => rowWise_empty,by simp⟩
  exact hst.inv.done

end rows

end Transaction
