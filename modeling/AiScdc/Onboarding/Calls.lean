import AiScdc.Onboarding.Accounts

namespace AiScdc.Onboarding
open Transaction
open DeviceSessions (DeviceSession SecretHash)

section calls

variable {ι : Type} [EmailText]

structure Calls (operator : ι → Bool) (db₀ : Db) (tr : List (Commit ι Row)) (ph : ι → AccountPhase)
    (pd : ι → Pending Row) (db : Db) : Prop where
  facts : ∀ i, Fact (ph i) (pd i) db
  linked : Linked db
  accounts : ∃ accounts, Accounts db₀ db accounts
  commits : ∀ c ∈ tr, Grows c.before c.after ∧ Linked c.after
  refused : ∀ c ∈ tr, operator c.thread = true → (ph c.thread).known ≠ .linked →
    ∀ k, Tracked k → c.after k = c.before k

variable {operator : ι → Bool} {db₀ : Db} {tr : List (Commit ι Row)} {ph : ι → AccountPhase}
  {pd : ι → Pending Row} {w : World} {i : ι} {y : AccountPhase} [DecidableEq ι]

-- A step that commits nothing.
theorem Calls.turn (h : Calls operator db₀ tr ph pd w.db) {p : Pending Row} (hfact : Fact y p w.db)
    (hknown : (ph i).known = .linked → y.known = .linked) :
    Calls operator db₀ tr (Function.update ph i y) (Function.update pd i p) w.db where
  facts j := by
    by_cases hj : j = i
    · subst hj
      simpa using hfact
    · simpa [hj] using h.facts j
  linked := h.linked
  accounts := h.accounts
  commits := h.commits
  refused c hc hop hne k hk := by
    refine h.refused c hc hop (fun heq => hne ?_) k hk
    by_cases hj : c.thread = i
    · rw [hj] at heq ⊢
      rw [Function.update_self]
      exact hknown heq
    · rw [Function.update_of_ne hj]
      exact heq

omit [EmailText] in
theorem Settles.keeps_linked {op : Bool} {d : Draft} {known : Known} (h : Settles d op .linked known) :
    known = .linked := by
  cases h
  rfl

theorem calls_commit (h : Calls operator db₀ tr ph pd w.db) (ha : Apart pd)
    (hcommit : (accountCourse (operator i)).commit (ph i) y) :
    Calls operator db₀ (tr ++ [⟨i,pd i,w.db⟩]) (Function.update ph i y)
      (Function.update pd i Pending.empty) ((pd i).view w.db) := by
  obtain ⟨known,hsettles,rfl⟩ := hcommit
  have hfact := h.facts i
  have hg := hfact.grows hsettles
  have hlinked := hfact.linked hsettles h.linked
  obtain ⟨accounts,haccounts⟩ := h.accounts
  refine ⟨fun j => ?_,hlinked,hfact.opens_accounts hsettles haccounts,fun c hc => ?_,fun c hc hop hne k hk => ?_⟩
  · by_cases hj : j = i
    · subst hj
      rw [Function.update_self,Function.update_self]
      refine fact_empty ?_
      have hknows := hfact.knows.grow hg
      generalize (ph j).known = x at hsettles hknows
      generalize operator j = op at hsettles
      cases hsettles with
      | links => trivial
      | _ => exact hknows
    · rw [Function.update_of_ne hj,Function.update_of_ne hj]
      refine (h.facts j).commit hg fun k hk => ?_
      have hfree : pd i k = none := ha j i k hj hk
      exact Pending.view_of_none hfree w.db
  · rcases List.mem_append.mp hc with hc | hc
    · exact h.commits c hc
    · obtain rfl := List.mem_singleton.mp hc
      exact ⟨hg,hlinked⟩
  · rcases List.mem_append.mp hc with hc | hc
    · refine h.refused c hc hop (fun heq => hne ?_) k hk
      by_cases hj : c.thread = i
      · rw [hj] at heq ⊢
        rw [Function.update_self]
        rw [heq] at hsettles
        exact hsettles.keeps_linked
      · rw [Function.update_of_ne hj]
        exact heq
    · obtain rfl := List.mem_singleton.mp hc
      have hop' : operator i = true := hop
      rw [Function.update_self] at hne
      rw [hop'] at hsettles
      have hbare : (ph i).draft = noDraft := by
        generalize (ph i).known = x at hsettles
        cases hsettles with
        | bare hbare => exact hbare
        | links => exact (hne rfl).elim
      exact hfact.view_bare hbare hk

theorem calls_update (h : Calls operator db₀ tr ph pd w.db) {k : Key} {g : Row k → Bool} {s : Row k → Row k}
    (hup : (accountCourse (operator i)).update (ph i) k g s y) (hg : g ((pd i).view w.db k) = true) :
    Calls operator db₀ tr (Function.update ph i y)
      (Function.update pd i ((pd i).put k (w.db k) (s ((pd i).view w.db k)))) w.db := by
  have hfact := h.facts i
  obtain ⟨hk,row,hinsert,rfl⟩ := hup
  obtain ⟨hnone,hrow⟩ := hinsert _ hg
  have hbase : w.db k = none ∨ Revises (ph i).known k (w.db k) := by
    cases hd : (ph i).draft k with
    | none => exact Or.inl ((hfact.view_none hk hd).symm.trans hnone)
    | some v => exact (hfact.view_some hd).2
  rw [hrow]
  exact h.turn (hfact.put hk hbase) fun heq => heq

theorem calls_flush (h : Calls operator db₀ tr ph pd w.db) {k : Key} {l n : Row k}
    (hflush : (accountCourse (operator i)).flush (ph i) k l n y) :
    Calls operator db₀ tr (Function.update ph i y)
      (Function.update pd i ((pd i).put k l (Schema.merge k l n ((pd i).view w.db k)))) w.db := by
  have hfact := h.facts i
  rcases hflush with ⟨hk,rfl⟩ | ⟨c,s,r,userId,now,hknown,hidentity,hrecovery,hcompletes,rfl⟩
  · exact h.turn (hfact.put_untracked hk _ _) fun heq => heq
  · cases k with
    | accountLinkRecovery s' =>
      obtain ⟨rfl,rfl,rfl⟩ := hcompletes
      have hknows := hfact.knows
      rw [hknown] at hknows
      -- The identity inserted before was not there, so nobody has completed the recovery.
      obtain ⟨v,hv⟩ := Option.ne_none_iff_exists'.mp hidentity
      have habsent : w.db (.externalIdentity s') = none := by
        rcases (hfact.view_some hv).2 with hnone | hrevises
        · exact hnone
        · rw [hknown] at hrevises
          exact hrevises.elim
      have hrow : w.db (.accountLinkRecovery s') = some r := by
        obtain ⟨c',hc',rfl | hcompleted⟩ := hknows.2.2.1
        · exact hc'
        · obtain ⟨e,he,_⟩ := h.linked.completed s' c' hc' hcompleted
          rw [habsent] at he
          cases he
      have hview : (pd i).view w.db (.accountLinkRecovery s') = some r :=
        (hfact.view_none (k := .accountLinkRecovery s') trivial hrecovery).trans hrow
      rw [hview,Schema.merge_loaded]
      refine h.turn (hfact.put (k := .accountLinkRecovery s') trivial (Or.inr ?_)) fun heq => heq
      rw [hknown]
      exact ⟨rfl,hrow⟩
    | _ => exact hcompletes.elim

theorem calls_annotated (operator : ι → Bool) (db₀ : Db) :
    Annotated (fun i => accountCourse (operator i)) (fun _ _ _ _ _ => True)
      fun tr ph pd w => Calls operator db₀ tr ph pd w.db where
  bump h := h
  learn {tr ph pd w i y} h hlearn := by
    have hturn := h.turn (w := w) (i := i) ((h.facts i).learn h.linked hlearn) fun heq => ?_
    · rwa [Function.update_eq_self] at hturn
    · obtain ⟨_,_,⟨hx,_⟩ | ⟨hx,_⟩ | ⟨_,_,_,_,_,hx,_⟩⟩ := hlearn
      all_goals
        rw [hx] at heq
        cases heq
  number _ hnumber := hnumber.elim
  update h _ _ hup hg := calls_update h hup hg
  flush h _ _ hflush _ _ := calls_flush h hflush
  commit h ha hcommit := calls_commit h ha hcommit
  rollback {_ ph _ w i _} h hroll := by
    obtain rfl := hroll
    exact h.turn (w := w) (fact_empty (h.facts i).knows) fun heq => heq
  stop {_ ph _ w} i h := ⟨⟨noDraft,(ph i).known⟩,h.turn (w := w) (fact_empty (h.facts i).knows) fun heq => heq⟩
  miss _ hmiss := hmiss.elim
  skip _ hskip := hskip.elim

theorem calls_end (operator : ι → Bool) (db₀ : Db) : Ends (fun (_ : ι) (e : Response) x => Answers e x)
    fun tr ph pd w => Calls operator db₀ tr ph pd w.db :=
  fun {_ ph _ w} i _ h he =>
    ⟨⟨noDraft,(ph i).known⟩,he,h.turn (w := w) (fact_empty (h.facts i).knows) fun heq => heq⟩

end calls

end AiScdc.Onboarding
