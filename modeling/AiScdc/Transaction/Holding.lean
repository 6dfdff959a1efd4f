import AiScdc.Transaction.Execution

namespace Transaction

variable {K : Type} {V : K → Type} {T ε ι G : Type}

-- Steps that end a transaction without a commit.
def Prog.givesUp {α : Type} : Prog V T ε α → Bool
  | .pure _ | .throw _ | .rollback _ => true
  | _ => false

variable [DecidableEq K] [Schema V]

-- What a transaction has made of a row, its later statements leave it so.
structure Course.Keeps (P : Course V G) (k : K) (S : V k → Prop) : Prop where
  update : ∀ {x guard set y v}, P.update x k guard set y → S v → guard v = true → S (set v)
  flush : ∀ {x l n y v}, P.flush x k l n y → S v → S (Schema.merge k l n v)

-- The thread has written the row, which is committed as v.
structure Global.Holds (g : Global ι V T ε) (i : ι) (k : K) (v : V k) (S : V k → Prop) : Prop where
  committed : g.world.db k = v
  written : g.pends i k ≠ none
  kept : S (g.view i k)

section steps

variable [DecidableEq ι] {P : ι → Course V G} {E : ι → ε → G → Prop}
  {J : List (Commit ι V) → (ι → G) → (ι → Pending V) → World V → Prop} {tr : List (Commit ι V)}
  {ph : ι → G} {g g' : Global ι V T ε} {i j : ι} {k : K} {v : V k} {S : V k → Prop} {t : T}

omit [DecidableEq K] [Schema V] in
theorem holds_advance {w : World V} {p : Pending V} {m : Prog V T ε Unit} (hdb : w.db k = v)
    (hp : p k ≠ none) (hS : S (p.view w.db k)) : (g.advance i w p m).Holds i k v S := by
  refine ⟨hdb,?_,?_⟩
  · simpa [Global.pends,Global.advance] using hp
  · simpa [Global.view,Global.advance] using hS

omit [Schema V] in
theorem holds_put {key : K} {m : Prog V T ε Unit} (h : g.Holds i k v S) (l value : V key)
    (hS : ∀ e : key = k, S (e ▸ value)) :
    (g.advance i g.world ((g.thread i).pend.put key l value) m).Holds i k v S := by
  by_cases e : key = k
  · subst e
    refine holds_advance h.committed ?_ ?_
    · simp [Pending.put_self]
    · rw [Pending.view_put_self]
      exact hS rfl
  · refine holds_advance h.committed ?_ ?_
    · rw [Pending.put_ne _ _ _ (Ne.symm e)]
      exact h.written
    · rw [Pending.view_put_ne _ _ _ _ (Ne.symm e)]
      exact h.kept

variable [Fintype ι]

theorem Global.Holds.blocks (h : g.Holds i k v S) (hj : j ≠ i) {guard : V k → Bool} {set : V k → V k}
    {m : Bool → Prog V T ε Unit} (hp : (g.thread j).prog = .update k guard set m) :
    g.step j t = none := by
  have hnot : ¬ g.free j k := fun hfree => h.written (hfree i (Ne.symm hj))
  simp [Global.step,hp,hnot]

theorem Global.Holds.step_other (hst : Standing P E J tr ph g) (h : g.Holds i k v S) (hj : j ≠ i)
    (hs : g.step j t = some g') :
    g'.Holds i k v S ∧ ∀ c ∈ g.committed j, c.thread ≠ i ∧ c.after k = c.before k := by
  have hfree : (g.thread j).pend k = none := hst.apart i j k (Ne.symm hj) h.written
  have hcommits : ∀ c ∈ g.committed j, c.thread ≠ i ∧ c.after k = c.before k := by
    intro c hc
    unfold Global.committed at hc
    split at hc
    · obtain rfl := List.mem_singleton.mp hc
      exact ⟨hj,Pending.view_of_none hfree _⟩
    · exact absurd hc List.not_mem_nil
  have hdb : g'.world.db k = g.world.db k := by
    have hkept : ∀ c ∈ g.committed j, c.before k = g.world.db k → c.after k = g.world.db k :=
      fun c hc hb => (hcommits c hc).2.trans hb
    exact chained_kept (I := fun db => db k = g.world.db k) hkept (Global.step_db hs) rfl
  have hthread := Global.step_thread hs (Ne.symm hj)
  refine ⟨⟨hdb.trans h.committed,?_,?_⟩,hcommits⟩
  · rw [Global.pends,hthread]
    exact h.written
  · obtain ⟨wr,hwr⟩ := Option.ne_none_iff_exists'.mp h.written
    have hwr' : (g'.thread i).pend k = some wr := by
      rw [hthread]
      exact hwr
    have hview : g'.view i k = g.view i k := by
      rw [show g'.view i k = _ from Pending.view_of_some hwr' _,
        show g.view i k = _ from Pending.view_of_some hwr _]
    rw [hview]
    exact h.kept

theorem Global.Holds.step_self (hk : (P i).Keeps k S) (hst : Standing P E J tr ph g)
    (h : g.Holds i k v S) (hup : (g.thread i).prog.givesUp = false) (hs : g.step i t = some g') :
    g'.Holds i k v S ∧ g.committed i = [] ∨
      ∃ c, g.committed i = [c] ∧ c.thread = i ∧ c.before k = v ∧ S (c.after k) := by
  have hm := hst.course i
  have keep {w : World V} (m : Prog V T ε Unit) (hw : w.db = g.world.db) :
      (g.advance i w (g.thread i).pend m).Holds i k v S :=
    holds_advance (by rw [hw]; exact h.committed) h.written (by rw [hw]; exact h.kept)
  unfold Global.step at hs
  unfold Global.committed
  cases hp : (g.thread i).prog with
  | pure a => simp [hp,Prog.givesUp] at hup
  | throw e => simp [hp,Prog.givesUp] at hup
  | rollback m => simp [hp,Prog.givesUp] at hup
  | utcNow m | freshId m | select m =>
    simp only [hp,Option.some.injEq] at hs
    subst hs
    exact Or.inl ⟨keep _ rfl,rfl⟩
  | commit m => exact Or.inr ⟨_,rfl,rfl,h.committed,h.kept⟩
  | update key guard set m =>
    simp only [hp] at hs hm
    obtain ⟨⟨y,hy,_⟩,_⟩ := hm
    split at hs
    · split at hs <;> cases hs
      · rename_i hg
        refine Or.inl ⟨holds_put h _ _ fun e => ?_,rfl⟩
        subst e
        exact hk.update hy h.kept hg
      · exact Or.inl ⟨keep _ rfl,rfl⟩
    · cases hs
  | flush key l n m =>
    simp only [hp] at hs hm
    split at hs
    · cases hs
      exact Or.inl ⟨keep _ rfl,rfl⟩
    · rename_i hne
      split at hs <;> cases hs
      obtain ⟨y,hy,_⟩ := hm.2 hne
      refine Or.inl ⟨holds_put h _ _ fun e => ?_,rfl⟩
      subst e
      exact hk.flush hy h.kept

variable {guard : V k → Bool} {set : V k → V k} {m : Bool → Prog V T ε Unit}

theorem holds_of_update (hp : (g.thread i).prog = .update k guard set m)
    (hg : guard (g.view i k) = true) (hS : S (set (g.view i k))) (hs : g.step i t = some g') :
    g'.Holds i k (g.world.db k) S := by
  unfold Global.step at hs
  simp only [hp] at hs
  split at hs
  · rw [if_pos (show guard ((g.thread i).pend.view g.world.db k) = true from hg)] at hs
    cases hs
    refine holds_advance rfl ?_ ?_
    · simp [Pending.put_self]
    · rw [Pending.view_put_self]
      exact hS
  · cases hs

theorem missed_update (hp : (g.thread i).prog = .update k guard set m)
    (hg : guard (g.view i k) = false) (hs : g.step i t = some g') :
    g'.world = g.world ∧ g'.pends = g.pends := by
  unfold Global.step at hs
  simp only [hp] at hs
  split at hs
  · have hno : ¬ guard ((g.thread i).pend.view g.world.db k) = true := ne_true_of_eq_false hg
    rw [if_neg hno] at hs
    cases hs
    refine ⟨rfl,?_⟩
    rw [Global.pends_advance]
    exact Function.update_eq_self i _
  · cases hs

end steps

section runs

variable [DecidableEq ι] [Fintype ι] {P : ι → Course V G}
  {fresh : ι → ∀ k, V k → V k → V k → Prop}
  {J : List (Commit ι V) → (ι → G) → (ι → Pending V) → World V → Prop} {tr₀ tr : List (Commit ι V)}
  {ph : ι → G} {g₀ g : Global ι V T ε} {i : ι} {k : K} {v : V k} {S : V k → Prop}
  {C : Global ι V T ε → ι → Prop}

theorem Run.standing (hA : Annotated P fresh J)
    (hC : ∀ g i key l n m, C g i → (g.thread i).prog = .flush key l n m →
      (l = n → g.pends i key = none) → fresh i key l n (g.view i key))
    (hst : Standing P (fun _ _ _ => True) J tr₀ ph g₀) (h : Run C g₀ tr g) : ∃ ph, Standing P (fun _ _ _ => True) J (tr₀ ++ tr) ph g := by
  induction h with
  | refl => exact ⟨ph,by rwa [List.append_nil]⟩
  | step j t _ hc hs ih =>
    obtain ⟨ph',hph⟩ := ih
    rw [← List.append_assoc]
    exact hph.step hA (ends_trivial hA) (fun key l n m hp => hC _ j key l n m hc hp) hs

-- The thread still holds the row, or its first commit is the first to change it.
def Settles (i : ι) (k : K) (v : V k) (S : V k → Prop) (tr : List (Commit ι V))
    (g : Global ι V T ε) : Prop :=
  (g.Holds i k v S ∧ ∀ c ∈ tr, c.thread ≠ i ∧ c.after k = c.before k) ∨
    ∃ tr₁ c tr₂, tr = tr₁ ++ c :: tr₂ ∧ (∀ d ∈ tr₁, d.thread ≠ i ∧ d.after k = d.before k) ∧
      c.thread = i ∧ c.before k = v ∧ S (c.after k)

theorem Run.settles (hA : Annotated P fresh J)
    (hC : ∀ g i key l n m, C g i → (g.thread i).prog = .flush key l n m →
      (l = n → g.pends i key = none) → fresh i key l n (g.view i key))
    (hup : ∀ g, C g i → (g.thread i).prog.givesUp = false) (hk : (P i).Keeps k S)
    (hst : Standing P (fun _ _ _ => True) J tr₀ ph g₀) (h₀ : g₀.Holds i k v S) (h : Run C g₀ tr g) :
    Settles i k v S tr g := by
  induction h with
  | refl => exact Or.inl ⟨h₀,by simp⟩
  | @step tr g g' j t hrun hc hs ih =>
    rcases ih with ⟨hheld,hothers⟩ | ⟨tr₁,c,tr₂,rfl,hbefore,hcommit⟩
    · obtain ⟨_,hstands⟩ := hrun.standing hA hC hst
      by_cases hj : j = i
      · subst hj
        rcases hheld.step_self hk hstands (hup g hc) hs with ⟨hkept,hnone⟩ | ⟨c,hone,hcommit⟩
        · refine Or.inl ⟨hkept,?_⟩
          rw [hnone,List.append_nil]
          exact hothers
        · exact Or.inr ⟨tr,c,[],by rw [hone],hothers,hcommit⟩
      · obtain ⟨hkept,hnew⟩ := hheld.step_other hstands hj hs
        exact Or.inl ⟨hkept,List.forall_mem_append.mpr ⟨hothers,hnew⟩⟩
    · exact Or.inr ⟨tr₁,c,tr₂ ++ g.committed j,by simp,hbefore,hcommit⟩

end runs

end Transaction
