import AiScdc.Transaction.Logic
import Mathlib.Data.Fintype.Basic

namespace Transaction

variable {K : Type} {V : K → Type} {T ε ι : Type}

structure Thread (V : K → Type) (T ε : Type) where
  prog : Prog V T ε Unit
  pend : Pending V
  started : Bool

structure Global (ι : Type) (V : K → Type) (T ε : Type) where
  world : World V
  thread : ι → Thread V T ε

structure Commit (ι : Type) (V : K → Type) where
  thread : ι
  pend : Pending V
  before : Db V

def Commit.after (c : Commit ι V) : Db V := c.pend.view c.before

def Prog.finished {α : Type} : Prog V T ε α → Bool
  | .pure _ => true
  | .throw _ => true
  | _ => false

namespace Global

def init (w : World V) (prog : ι → Prog V T ε Unit) : Global ι V T ε :=
  ⟨w,fun i => ⟨prog i,Pending.empty,false⟩⟩

def free (g : Global ι V T ε) (i : ι) (k : K) : Prop :=
  ∀ j, j ≠ i → (g.thread j).pend k = none

def view (g : Global ι V T ε) (i : ι) : Db V := (g.thread i).pend.view g.world.db

variable [DecidableEq ι]

def advance (g : Global ι V T ε) (i : ι) (w : World V) (p : Pending V)
    (m : Prog V T ε Unit) : Global ι V T ε :=
  ⟨w,Function.update g.thread i ⟨m,p,true⟩⟩

instance [Fintype ι] (g : Global ι V T ε) (i : ι) (k : K) : Decidable (g.free i k) :=
  inferInstanceAs (Decidable (∀ j, j ≠ i → (g.thread j).pend k = none))

variable [DecidableEq K] [Schema V] [Fintype ι]

-- A statement on a row that another open transaction has written blocks.
def step (g : Global ι V T ε) (i : ι) (t : T) : Option (Global ι V T ε) :=
  let p := (g.thread i).pend
  let w := g.world
  match (g.thread i).prog with
  | .pure a => some (g.advance i w Pending.empty (.pure a))
  | .throw e => some (g.advance i w Pending.empty (.throw e))
  | .utcNow k => some (g.advance i w p (k t))
  | .freshId k => some (g.advance i w.bump p (k w.next))
  | .select k => some (g.advance i w p (k (p.view w.db) w.next))
  | .update key guard set k =>
      if g.free i key then
        if guard (p.view w.db key) then
          some (g.advance i w (p.put key (w.db key) (set (p.view w.db key))) (k true))
        else some (g.advance i w p (k false))
      else none
  | .flush key l n k =>
      if l = n then some (g.advance i w p k)
      else if g.free i key then
        some (g.advance i w (p.put key l (Schema.merge key l n (p.view w.db key))) k)
      else none
  | .commit k => some (g.advance i ⟨p.view w.db,w.next⟩ Pending.empty k)
  | .rollback k => some (g.advance i w Pending.empty k)

def committed (g : Global ι V T ε) (i : ι) : List (Commit ι V) :=
  match (g.thread i).prog with
  | .commit _ => [⟨i,(g.thread i).pend,g.world.db⟩]
  | _ => []

end Global

variable [DecidableEq ι] [DecidableEq K] [Schema V] [Fintype ι]

inductive Run (C : Global ι V T ε → ι → Prop) (g₀ : Global ι V T ε) :
    List (Commit ι V) → Global ι V T ε → Prop
  | refl : Run C g₀ [] g₀
  | step {tr g g'} (i : ι) (t : T) (h : Run C g₀ tr g) (hc : C g i)
      (hs : g.step i t = some g') : Run C g₀ (tr ++ g.committed i) g'

theorem Run.weaken {C B : Global ι V T ε → ι → Prop} (hCC : ∀ g i, C g i → B g i)
    {g₀ g : Global ι V T ε} {tr : List (Commit ι V)} (h : Run C g₀ tr g) : Run B g₀ tr g := by
  induction h with
  | refl => exact .refl
  | step i t _ hc hs ih => exact .step i t ih (hCC _ _ hc) hs

-- Runs a schedule as long as every step may be taken and passes the check.
def Global.play (ok : Global ι V T ε → ι → Bool) (g : Global ι V T ε) : List (ι × T) →
    Option (List (Commit ι V) × Global ι V T ε)
  | [] => some ([],g)
  | (i,t) :: rest =>
    if ok g i then
      (g.step i t).bind fun g' => (g'.play ok rest).map fun r => (g.committed i ++ r.1,r.2)
    else none

theorem Global.play_run {ok : Global ι V T ε → ι → Bool} {g₀ g : Global ι V T ε}
    {tr : List (Commit ι V)} (h : Run (fun g i => ok g i = true) g₀ tr g)
    (schedule : List (ι × T)) {tr' g'} (hp : g.play ok schedule = some (tr',g')) :
    Run (fun g i => ok g i = true) g₀ (tr ++ tr') g' := by
  induction schedule generalizing g tr tr' with
  | nil =>
    simp only [Global.play,Option.some.injEq,Prod.mk.injEq] at hp
    obtain ⟨rfl,rfl⟩ := hp
    simpa using h
  | cons it rest ih =>
    obtain ⟨i,t⟩ := it
    rw [Global.play] at hp
    split at hp
    · rename_i hok
      simp only [Option.bind_eq_some_iff,Option.map_eq_some_iff] at hp
      obtain ⟨g₁,hs,⟨tr₁,g₂⟩,hr,heq⟩ := hp
      cases heq
      have hrun := ih (h.step i t hok hs) hr
      simpa using hrun
    · cases hp

def chained : Db V → List (Commit ι V) → Db V → Prop
  | db, [], db' => db' = db
  | db, c :: cs, db' => c.before = db ∧ chained c.after cs db'

omit [DecidableEq ι] [DecidableEq K] [Schema V] [Fintype ι] in
theorem chained_append {db db' : Db V} {cs ds : List (Commit ι V)} :
    chained db (cs ++ ds) db' ↔ ∃ m, chained db cs m ∧ chained m ds db' := by
  induction cs generalizing db with
  | nil => simp [chained]
  | cons c cs ih =>
    simp only [List.cons_append,chained,ih]
    exact ⟨fun ⟨h,m,hm⟩ => ⟨m,⟨h,hm.1⟩,hm.2⟩,fun ⟨m,⟨h,hm⟩,hd⟩ => ⟨h,m,hm,hd⟩⟩

omit [DecidableEq ι] [DecidableEq K] [Schema V] [Fintype ι] in
theorem chained_kept {I : Db V → Prop} {tr : List (Commit ι V)} {db db' : Db V}
    (hI : ∀ c ∈ tr, I c.before → I c.after) (hc : chained db tr db') (h : I db) : I db' := by
  induction tr generalizing db with
  | nil =>
    have heq : db' = db := hc
    exact heq ▸ h
  | cons c cs ih =>
    obtain ⟨rfl,hc⟩ := hc
    exact ih (fun d hd => hI d (by simp [hd])) hc (hI c (by simp) h)

omit [DecidableEq ι] [DecidableEq K] [Schema V] [Fintype ι] in
-- What held at the start and fails at the end failed first at some commit.
theorem chained_turn {I : Db V → Prop} {tr : List (Commit ι V)} {db db' : Db V}
    (hc : chained db tr db') (h : I db) (h' : ¬ I db') : ∃ c ∈ tr, I c.before ∧ ¬ I c.after := by
  by_contra hno
  push Not at hno
  exact h' (chained_kept hno hc h)

omit [DecidableEq ι] [DecidableEq K] [Schema V] [Fintype ι] in
-- A counter that the commits of one kind advance by one, and no others.
theorem chained_counts {n : Db V → ℕ} {p : Commit ι V → Bool} {tr : List (Commit ι V)} {db db' : Db V}
    (hn : ∀ c ∈ tr, n c.after = n c.before + if p c then 1 else 0) (hc : chained db tr db') :
    n db' = n db + tr.countP p ∧
      (tr.filter p).map (fun c => n c.after) = List.range' (n db + 1) (tr.countP p) := by
  induction tr generalizing db with
  | nil =>
    have heq : db' = db := hc
    subst heq
    simp
  | cons c cs ih =>
    obtain ⟨rfl,hc⟩ := hc
    have hafter := hn c (by simp)
    obtain ⟨hend,hall⟩ := ih (fun d hd => hn d (by simp [hd])) hc
    cases hp : p c with
    | false =>
      simp only [hp,Bool.false_eq_true,if_false,Nat.add_zero] at hafter
      rw [hafter] at hend hall
      simp [hp,hend,hall]
    | true =>
      simp only [hp,if_true] at hafter
      rw [hafter] at hend hall
      refine ⟨?_,?_⟩
      · rw [hend,List.countP_cons_of_pos hp]
        omega
      · rw [List.filter_cons_of_pos hp,List.countP_cons_of_pos hp,List.map_cons,hall,hafter,
          List.range'_succ]

theorem Global.step_db {g g' : Global ι V T ε} {i : ι} {t : T} (hs : g.step i t = some g') :
    chained g.world.db (g.committed i) g'.world.db := by
  unfold Global.step at hs
  unfold Global.committed
  cases hp : (g.thread i).prog <;> simp only [hp] at hs <;>
    (try split at hs) <;> (try split at hs) <;> (try cases hs) <;>
    simp_all [Global.advance,chained,Commit.after,World.bump]

theorem Run.chained {C : Global ι V T ε → ι → Prop} {g₀ g : Global ι V T ε}
    {tr : List (Commit ι V)} (h : Run C g₀ tr g) : chained g₀.world.db tr g.world.db := by
  induction h with
  | refl => rfl
  | step i t _ _ hs ih => exact chained_append.mpr ⟨_,ih,Global.step_db hs⟩

structure Protocol (ι : Type) (V : K → Type) (T ε : Type) [DecidableEq K] [Schema V] where
  prog : ι → Prog V T ε Unit
  disc : ι → Discipline V
  inv : Db V → Prop
  cond : Global ι V T ε → ι → Prop
  rely_refl : ∀ i w, (disc i).rely w w
  rely_trans : ∀ i {a b c}, (disc i).rely a b → (disc i).rely b c → (disc i).rely a c
  rely_bump : ∀ i (w : World V), (disc i).rely w w.bump
  inv_commit : ∀ i p db, inv db → (disc i).guar p db → inv (p.view db)
  fresh : ∀ g i key l n k, cond g i → (g.thread i).prog = .flush key l n k →
    (disc i).fresh key l n (g.view i key)
  compat : ∀ g i j k, i ≠ j → cond g i → inv g.world.db → (g.thread i).prog = .commit k →
    (disc i).guar (g.thread i).pend g.world.db → (g.thread j).started = true →
    (g.thread j).prog.finished = false → (disc j).rely g.world ⟨g.view i,g.world.next⟩
  safe : ∀ i w, inv w.db →
    wp (disc i) (prog i) (fun _ _ _ => True) (fun _ _ _ => True) Pending.empty w

namespace Protocol

variable (P : Protocol ι V T ε)

def obligation (i : ι) (m : Prog V T ε Unit) (p : Pending V) (w : World V) : Prop :=
  wp (P.disc i) m (fun _ _ _ => True) (fun _ _ _ => True) p w

structure Valid (g : Global ι V T ε) : Prop where
  inv : P.inv g.world.db
  disjoint : ∀ i j k, i ≠ j → (g.thread i).pend k ≠ none → (g.thread j).pend k = none
  idle : ∀ i, (g.thread i).started = false → g.thread i = ⟨P.prog i,Pending.empty,false⟩
  busy : ∀ i, (g.thread i).started = true → P.obligation i (g.thread i).prog (g.thread i).pend g.world

omit [DecidableEq ι] [Fintype ι] in
theorem valid_init (w : World V) (h : P.inv w.db) : P.Valid (Global.init w P.prog) :=
  ⟨h,fun _ _ _ _ hk => (hk rfl).elim,fun _ _ => rfl,fun _ hs => by simp [Global.init] at hs⟩

omit [DecidableEq ι] [Fintype ι] in
theorem Valid.obligation {P : Protocol ι V T ε} {g : Global ι V T ε} (h : P.Valid g) (i : ι) :
    P.obligation i (g.thread i).prog (g.thread i).pend g.world := by
  cases hs : (g.thread i).started with
  | true => exact h.busy i hs
  | false => rw [h.idle i hs]; exact P.safe i g.world h.inv

omit [DecidableEq ι] [Fintype ι] in
theorem env_refl (i : ι) (p : Pending V) (w : World V) : Env (P.disc i) p w w :=
  ⟨P.rely_refl i w,fun _ _ => rfl⟩

omit [Fintype ι] in
-- One thread moves; every other open transaction sees a step of its rely that spares its rows.
theorem Valid.advance {P : Protocol ι V T ε} {g : Global ι V T ε} (h : P.Valid g) {i : ι}
    {w : World V} {p : Pending V} {m : Prog V T ε Unit} (hinv : P.inv w.db)
    (hlock : ∀ j k, j ≠ i → p k ≠ none → (g.thread j).pend k = none)
    (hm : P.obligation i m p w)
    (henv : ∀ j, j ≠ i → (g.thread j).started = true → (g.thread j).prog.finished = false →
      Env (P.disc j) (g.thread j).pend g.world w) :
    P.Valid (g.advance i w p m) := by
  refine ⟨hinv,fun a b k hab ha => ?_,fun a hs => ?_,fun a hs => ?_⟩
  · by_cases hai : a = i
    · subst hai
      simp only [Global.advance,Function.update_self] at ha ⊢
      rw [Function.update_of_ne (Ne.symm hab)]
      exact hlock b k (Ne.symm hab) ha
    · simp only [Global.advance] at ha ⊢
      rw [Function.update_of_ne hai] at ha
      by_cases hbi : b = i
      · subst hbi
        simp only [Function.update_self]
        by_contra hp
        exact ha (hlock a k hai hp)
      · rw [Function.update_of_ne hbi]
        exact h.disjoint a b k hab ha
  · by_cases hai : a = i
    · subst hai; simp [Global.advance] at hs
    · simp only [Global.advance,Function.update_of_ne hai] at hs ⊢
      exact h.idle a hs
  · by_cases hai : a = i
    · subst hai; simpa [Global.advance] using hm
    · simp only [Global.advance,Function.update_of_ne hai] at hs ⊢
      cases hf : (g.thread a).prog.finished with
      | false =>
        exact wp_env _ (P.rely_trans a) (fun _ _ _ _ _ _ => trivial) (fun _ _ _ _ _ _ => trivial)
          (h.busy a hs) (henv a hai hs hf)
      | true =>
        cases hp : (g.thread a).prog <;> simp [hp,Prog.finished] at hf <;>
          simp [Protocol.obligation,wp]

theorem Valid.step {P : Protocol ι V T ε} {g g' : Global ι V T ε} (h : P.Valid g) {i : ι} {t : T}
    (hc : P.cond g i) (hs : g.step i t = some g') :
    P.Valid g' ∧ ∀ c ∈ g.committed i, (P.disc c.thread).guar c.pend c.before ∧ P.inv c.before := by
  have ho := h.obligation i
  have hself := P.env_refl i (g.thread i).pend g.world
  have still : ∀ j, j ≠ i → (g.thread j).started = true → (g.thread j).prog.finished = false →
      Env (P.disc j) (g.thread j).pend g.world g.world := fun j _ _ _ => P.env_refl j _ _
  have own : ∀ j k, j ≠ i → (g.thread i).pend k ≠ none → (g.thread j).pend k = none :=
    fun j k hj hk => h.disjoint i j k (Ne.symm hj) hk
  have none_held : ∀ j k, j ≠ i → (Pending.empty : Pending V) k ≠ none → (g.thread j).pend k = none :=
    fun _ _ _ hk => (hk rfl).elim
  have held {key : K} {l v : V key} (hfree : g.free i key) :
      ∀ j k, j ≠ i → (g.thread i).pend.put key l v k ≠ none → (g.thread j).pend k = none := by
    intro j k hj hk
    by_cases e : k = key
    · subst e; exact hfree j hj
    · rw [Pending.put_ne _ _ _ e] at hk; exact own j k hj hk
  unfold Global.step at hs
  unfold Global.committed
  cases hp : (g.thread i).prog with
  | pure a =>
    simp only [hp,Option.some.injEq] at hs ⊢
    exact ⟨hs ▸ h.advance h.inv none_held (by simp [Protocol.obligation,wp]) still,by simp⟩
  | throw e =>
    simp only [hp,Option.some.injEq] at hs ⊢
    exact ⟨hs ▸ h.advance h.inv none_held (by simp [Protocol.obligation,wp]) still,by simp⟩
  | utcNow k =>
    simp only [hp,Option.some.injEq] at hs ⊢
    rw [hp] at ho
    exact ⟨hs ▸ h.advance h.inv own (ho t) still,by simp⟩
  | freshId k =>
    simp only [hp,Option.some.injEq] at hs ⊢
    rw [hp] at ho
    refine ⟨hs ▸ h.advance h.inv own (ho g.world hself) (fun j _ _ _ => ?_),by simp⟩
    exact ⟨P.rely_bump j g.world,fun _ _ => rfl⟩
  | select k =>
    simp only [hp,Option.some.injEq] at hs ⊢
    rw [hp] at ho
    exact ⟨hs ▸ h.advance h.inv own (ho g.world hself) still,by simp⟩
  | update key guard set k =>
    simp only [hp] at hs ⊢
    rw [hp] at ho
    split at hs
    · rename_i hfree
      split at hs <;> cases hs
      · rename_i hg
        exact ⟨h.advance h.inv (held hfree) ((ho g.world hself).1 hg) still,by simp⟩
      · rename_i hg
        exact ⟨h.advance h.inv own ((ho g.world hself).2 (by simpa using hg)) still,by simp⟩
    · cases hs
  | flush key l n k =>
    simp only [hp] at hs ⊢
    rw [hp] at ho
    split at hs
    · rename_i heq
      cases hs
      exact ⟨h.advance h.inv own (ho.1 heq) still,by simp⟩
    · rename_i hne
      split at hs <;> cases hs
      rename_i hfree
      have hf := P.fresh g i key l n k hc hp
      exact ⟨h.advance h.inv (held hfree) (ho.2 hne g.world hself hf) still,by simp⟩
  | commit k =>
    simp only [hp,Option.some.injEq] at hs ⊢
    rw [hp] at ho
    obtain ⟨hg,hk⟩ := ho g.world hself
    have hinv : P.inv (g.view i) := P.inv_commit i _ _ h.inv hg
    refine ⟨hs ▸ h.advance hinv none_held hk (fun j hj hst hf => ?_),by simpa using ⟨hg,h.inv⟩⟩
    refine ⟨P.compat g i j k (Ne.symm hj) hc h.inv hp hg hst hf,fun q hq => ?_⟩
    exact Pending.view_of_none (h.disjoint j i q hj hq) _
  | rollback k =>
    simp only [hp,Option.some.injEq] at hs ⊢
    rw [hp] at ho
    exact ⟨hs ▸ h.advance h.inv none_held (ho g.world hself) still,by simp⟩

theorem sound {w : World V} (hw : P.inv w.db) {tr : List (Commit ι V)} {g : Global ι V T ε}
    (h : Run P.cond (Global.init w P.prog) tr g) :
    P.Valid g ∧ ∀ c ∈ tr, (P.disc c.thread).guar c.pend c.before ∧ P.inv c.before := by
  induction h with
  | refl => exact ⟨P.valid_init w hw,by simp⟩
  | step i t _ hc hs ih =>
    obtain ⟨hv,hg⟩ := ih.1.step hc hs
    refine ⟨hv,fun c hcm => ?_⟩
    rcases List.mem_append.mp hcm with hm | hm
    · exact ih.2 c hm
    · exact hg c hm

end Protocol

end Transaction
