import AiScdc.AuditRetention.Facts

namespace AiScdc.AuditRetention
open Transaction

section sweeps

variable {ι : Type}

def ClaimedBy (now : Time) (i : ι) (τ : Id) (c : Commit ι Row) : Prop :=
  c.thread = i ∧ Claims τ now .state (c.before .state) (c.after .state)

def InsertedIn (tr : List (Commit ι Row)) (k : Key) : Prop :=
  ∃ c ∈ tr, c.before k = none ∧ c.after k ≠ none

-- Since some moment after the claim, every row still due has been inserted or is yet to come.
def Swept (now : Time) (i : ι) (τ : Id) (rest : Id → Prop) (cl : Cleanup) (tr : List (Commit ι Row))
    (db : Db) : Prop :=
  ∃ tr₀ tr₁, tr = tr₀ ++ tr₁ ∧ (∃ c ∈ tr₀, ClaimedBy now i τ c) ∧
    ∀ id, Due now cl (.event cl.table id) (db (.event cl.table id)) →
      InsertedIn tr₁ (.event cl.table id) ∨ rest id

def completion (c : Commit ι Row) : Option Time := completedAt (c.before .state) (c.after .state)

def lastCompleted (db : Db) : Option Time := (db .state).bind fun s : AuditRetentionState => s.lastCompletedAt

-- When the sweeps have completed, with the last completion before the run.
def history (db₀ : Db) (tr : List (Commit ι Row)) : List Time :=
  (lastCompleted db₀).toList ++ tr.filterMap completion

def Spaced (a b : Time) : Prop := a + auditCleanupInterval ≤ b

structure Completed (now : Time) (pre : List (Commit ι Row)) (c : Commit ι Row) : Prop where
  claim : ∃ τ, ∃ s : AuditRetentionState, c.before .state = some s ∧ s.claimToken = some τ ∧
    ∃ d ∈ pre, ClaimedBy now c.thread τ d
  swept : ∀ cl : Cleanup, ∃ tr₀ tr₁, pre = tr₀ ++ tr₁ ∧ (∃ d ∈ tr₀, ∃ τ, ClaimedBy now c.thread τ d) ∧
    ∀ id, Due now cl (.event cl.table id) (c.after (.event cl.table id)) →
      InsertedIn tr₁ (.event cl.table id)
  others : ∀ t id, c.before (.event t id) ≠ none → c.after (.event t id) = c.before (.event t id) ∨
    Ages now (.event t id) (c.before (.event t id)) (c.after (.event t id))

structure Sound (now : ι → Time) (pre : List (Commit ι Row)) (c : Commit ι Row) : Prop where
  completes : ∀ t, completion c = some t → t = now c.thread ∧ Completed (now c.thread) pre c
  changes : ∀ t id, c.before (.event t id) ≠ none → c.after (.event t id) ≠ c.before (.event t id) →
    completion c = some (now c.thread)

structure Sweeps (now : ι → Time) (db₀ : Db) (tr : List (Commit ι Row)) (ph : ι → SweepPhase)
    (pd : ι → Pending Row) (w : World) : Prop where
  facts : ∀ i, Fact (now i) (ph i) (pd i) w
  tokens : ∀ i j τ, (ph i).token = some τ → (ph j).token = some τ → i = j
  claimed : ∀ i τ, (ph i).owned = some τ → ∃ c ∈ tr, ClaimedBy (now i) i τ c
  swept : ∀ i τ cl, (ph i).owned = some τ → (ph i).Begun cl →
    Swept (now i) i τ ((ph i).Rest cl) cl tr ((pd i).view w.db)
  numbered : ∀ t id, w.db (.event t id) ≠ none → id < w.next
  spaced : (history db₀ tr).Pairwise Spaced
  latest : ∀ a ∈ history db₀ tr, ∃ s : AuditRetentionState, ∃ b, w.db .state = some s ∧
    s.lastCompletedAt = some b ∧ a ≤ b
  sound : ∀ pre c post, tr = pre ++ c :: post → Sound now pre c

theorem SweepPhase.owned_token {x : SweepPhase} {τ : Id} (h : x.owned = some τ) : x.token = some τ := by
  cases x <;> first | exact h | cases h

variable {now : ι → Time} {db₀ : Db} {tr : List (Commit ι Row)} {ph : ι → SweepPhase}
  {pd : ι → Pending Row} {w : World} {i : ι} {y : SweepPhase}

-- Another call's claim is taken over, never restored.
theorem Sweeps.stands (h : Sweeps now db₀ tr ph pd w) {j : ι} (hj : j ≠ i) {τ : Id}
    {s : AuditRetentionState} (hτ : (ph j).owned = some τ) (hs : (pd i).view w.db .state = some s)
    (hstored : s.claimToken = some τ) : w.db .state = some s := by
  rcases (h.facts i).state_view with ⟨heq,_⟩ | hstep
  · exact heq.symm.trans hs
  · cases hph : ph i with
    | founding =>
      rw [hph] at hstep
      obtain rfl := Option.some.inj (hstep.2.symm.trans hs)
      cases hstored
    | claiming σ =>
      rw [hph] at hstep
      obtain ⟨s',_,_,_,hclaim⟩ := hstep
      obtain rfl := Option.some.inj (hclaim.symm.trans hs)
      obtain rfl := Option.some.inj hstored
      have hsame := h.tokens i j σ (by rw [hph]; rfl) (SweepPhase.owned_token hτ)
      exact (hj hsame.symm).elim
    | completing σ id =>
      rw [hph] at hstep
      obtain ⟨s',_,_,hcomplete⟩ := hstep
      obtain rfl := Option.some.inj (hcomplete.symm.trans hs)
      cases hstored
    | _ =>
      rw [hph] at hstep
      exact hstep.elim

-- What is due after a commit was due before it or is inserted by it.
theorem Fact.due_view {nw nw' : Time} {x : SweepPhase} {p : Pending Row} (h : Fact nw x p w)
    {cl : Cleanup} {t : AuditTable} {id : Id} (hdue : Due nw' cl (.event t id) (p.view w.db (.event t id))) :
    Due nw' cl (.event t id) (w.db (.event t id)) ∨
      w.db (.event t id) = none ∧ p.view w.db (.event t id) ≠ none := by
  rcases h.event_view t id with heq | ⟨_,hages⟩ | ⟨_,hrecords⟩
  · rw [heq] at hdue
    exact Or.inl hdue
  · exact Or.inl (hages.due hdue)
  · obtain ⟨_,_,hnone,content,hu⟩ := hrecords
    refine Or.inr ⟨hnone,?_⟩
    rw [hu]
    exact Option.some_ne_none _

theorem Swept.mono {nw : Time} {τ : Id} {rest rest' : Id → Prop} {cl : Cleanup} {db db' : Db}
    (h : Swept nw i τ rest cl tr db)
    (hrow : ∀ id, Due nw cl (.event cl.table id) (db' (.event cl.table id)) →
      Due nw cl (.event cl.table id) (db (.event cl.table id)) ∧ (rest id → rest' id)) :
    Swept nw i τ rest' cl tr db' := by
  obtain ⟨tr₀,tr₁,heq,hclaim,hcleared⟩ := h
  refine ⟨tr₀,tr₁,heq,hclaim,fun id hdue => ?_⟩
  obtain ⟨hold,hrest⟩ := hrow id hdue
  exact (hcleared id hold).imp_right hrest

theorem SweepPhase.rest_nil {τ : Id} {begun : List Cleanup} {cl : Cleanup} {id : Id} :
    ¬ (SweepPhase.sweeping τ begun []).Rest cl id := by
  intro hrest
  cases begun with
  | nil => exact hrest
  | cons _ _ => cases hrest.2

theorem Swept.commit {nw nw' : Time} {j : ι} {τ : Id} {rest : Id → Prop} {cl : Cleanup} {q : Pending Row}
    {x : SweepPhase} (h : Swept nw' j τ rest cl tr (q.view w.db)) (hfact : Fact nw x (pd i) w) :
    Swept nw' j τ rest cl (tr ++ [⟨i,pd i,w.db⟩]) (q.view ((pd i).view w.db)) := by
  obtain ⟨tr₀,tr₁,rfl,hclaim,hcleared⟩ := h
  refine ⟨tr₀,tr₁ ++ [⟨i,pd i,w.db⟩],(List.append_assoc _ _ _),hclaim,fun id hdue => ?_⟩
  have hold (hd : Due nw' cl (.event cl.table id) (q.view w.db (.event cl.table id))) :
      InsertedIn (tr₁ ++ [⟨i,pd i,w.db⟩]) (.event cl.table id) ∨ rest id := by
    rcases hcleared id hd with ⟨c,hc,hins⟩ | hrest
    · exact Or.inl ⟨c,List.mem_append_left _ hc,hins⟩
    · exact Or.inr hrest
  cases hq : q (.event cl.table id) with
  | some wr =>
    rw [Pending.view_of_some hq] at hdue
    refine hold ?_
    rw [Pending.view_of_some hq]
    exact hdue
  | none =>
    rw [Pending.view_of_none hq] at hdue
    rcases hfact.due_view hdue with hd | hins
    · refine hold ?_
      rw [Pending.view_of_none hq]
      exact hd
    · exact Or.inl ⟨_,List.mem_append_right _ (List.mem_singleton_self _),hins⟩

theorem SweepPhase.inserted_drawn {x : SweepPhase} {id : Id} (h : x.inserted = some id) :
    x.drawn = some id := by
  cases x <;> first | exact h | cases h

theorem Sweeps.numbered_view (h : Sweeps now db₀ tr ph pd w) {t : AuditTable} {id : Id}
    (hne : (pd i).view w.db (.event t id) ≠ none) : id < w.next := by
  rcases (h.facts i).event_view t id with heq | ⟨_,hages⟩ | ⟨hid,_⟩
  · exact h.numbered t id (heq ▸ hne)
  · exact h.numbered t id hages.present
  · exact (h.facts i).drawn id (SweepPhase.inserted_drawn hid)

-- No call has written the row of a number not yet drawn.
theorem Sweeps.unused (h : Sweeps now db₀ tr ph pd w) (i : ι) (t : AuditTable) :
    pd i (.event t w.next) = none := by
  cases hp : pd i (.event t w.next) with
  | none => rfl
  | some wr =>
    rcases (h.facts i).events t w.next wr hp with ⟨_,hages⟩ | ⟨hid,_⟩
    · exact absurd (h.numbered t w.next hages.present) (lt_irrefl _)
    · exact absurd ((h.facts i).drawn _ (SweepPhase.inserted_drawn hid)) (lt_irrefl _)

-- Only a completing sweep commits what its cleanup has done.
theorem Sweeps.sound_commit (h : Sweeps now db₀ tr ph pd w) (hcommit : (sweepCourse (now i)).commit (ph i) y) :
    Sound now tr ⟨i,pd i,w.db⟩ := by
  have hfact := h.facts i
  rcases hfact.completes with ⟨hnot,hnone,_⟩ | ⟨τ,id,hph,hcompletes⟩
  · refine ⟨fun t ht => ?_,fun t id hne hchanged => ?_⟩
    · cases (hnone.symm.trans ht)
    · rcases hfact.event_view t id with heq | ⟨howned,_⟩ | ⟨_,hrecords⟩
      · exact (hchanged heq).elim
      · cases hph : ph i with
        | completing τ id =>
          rw [hph] at hnot
          exact (hnot trivial).elim
        | sweeping | recording | recorded =>
          rw [hph] at hcommit
          exact hcommit.elim
        | _ =>
          rw [hph] at howned
          exact (howned rfl).elim
      · exact (hne hrecords.2.2.1).elim
  · have htime : completion ⟨i,pd i,w.db⟩ = some (now i) := hcompletes.completedAt
    have howned : (ph i).owned = some τ := by rw [hph]; rfl
    refine ⟨fun t ht => ⟨Option.some.inj (ht.symm.trans htime),?_,fun cl => ?_,fun t id hne => ?_⟩,
      fun _ _ _ _ => htime⟩
    · obtain ⟨s,hs,hstored,_⟩ := hcompletes
      exact ⟨τ,s,hs,hstored,h.claimed i τ howned⟩
    · have hbegun : (ph i).Begun cl := by rw [hph]; trivial
      obtain ⟨tr₀,tr₁,heq,⟨d,hd,hclaim⟩,hcleared⟩ := h.swept i τ cl howned hbegun
      refine ⟨tr₀,tr₁,heq,⟨d,hd,τ,hclaim⟩,fun id hdue => ?_⟩
      rcases hcleared id hdue with hins | hrest
      · exact hins
      · rw [hph] at hrest
        exact hrest.elim
    · rcases hfact.event_view t id with heq | ⟨_,hages⟩ | ⟨_,hrecords⟩
      · exact Or.inl heq
      · exact Or.inr hages
      · exact (hne hrecords.2.2.1).elim

theorem history_append (c : Commit ι Row) :
    history db₀ (tr ++ [c]) = history db₀ tr ++ (completion c).toList := by
  rw [history,List.filterMap_append,← List.append_assoc,← history]
  cases hc : completion c <;> simp [hc]

theorem Sweeps.next_history (h : Sweeps now db₀ tr ph pd w) :
    (history db₀ (tr ++ [⟨i,pd i,w.db⟩])).Pairwise Spaced ∧
      ∀ a ∈ history db₀ (tr ++ [⟨i,pd i,w.db⟩]), ∃ s : AuditRetentionState, ∃ b,
        (pd i).view w.db .state = some s ∧ s.lastCompletedAt = some b ∧ a ≤ b := by
  rw [history_append]
  rcases (h.facts i).completes with ⟨_,hnone,hkeeps⟩ | ⟨τ,id,hph,hcompletes⟩
  · have hnot : completion ⟨i,pd i,w.db⟩ = none := hnone
    rw [hnot,Option.toList_none,List.append_nil]
    refine ⟨h.spaced,fun a ha => ?_⟩
    obtain ⟨s,b,hs,hb,hle⟩ := h.latest a ha
    obtain ⟨s',hs',hsame⟩ := hkeeps s hs
    exact ⟨s',b,hs',hsame.trans hb,hle⟩
  · have htime : completion ⟨i,pd i,w.db⟩ = some (now i) := hcompletes.completedAt
    obtain ⟨s,hs,hstored,hcomplete⟩ := hcompletes
    have hdue := (h.facts i).due τ s (by rw [hph]; rfl) hs hstored
    -- What was last completed is at least one interval older than this sweep.
    have hafter (a : Time) (ha : a ∈ history db₀ tr) : Spaced a (now i) := by
      obtain ⟨s',b,hs',hb,hle⟩ := h.latest a ha
      obtain rfl : s = s' := Option.some.inj (hs.symm.trans hs')
      rw [AuditRetentionState.cleanupDue,hb,Option.all_some] at hdue
      have hb' : b ≤ now i - auditCleanupInterval := of_decide_eq_true hdue
      exact le_sub_iff_add_le.mp (hle.trans hb')
    rw [htime,Option.toList_some]
    refine ⟨List.pairwise_append.mpr ⟨h.spaced,List.pairwise_singleton _ _,fun a ha b hb => ?_⟩,
      fun a ha => ⟨_,now i,hcomplete,rfl,?_⟩⟩
    · obtain rfl := List.mem_singleton.mp hb
      exact hafter a ha
    · rcases List.mem_append.mp ha with ha | ha
      · have hpos : (0 : ℤ) ≤ auditCleanupInterval := by decide
        exact le_trans (le_add_of_nonneg_right hpos) (hafter a ha)
      · exact le_of_eq (List.mem_singleton.mp ha)

theorem sound_append {c : Commit ι Row} (h : ∀ pre d post, tr = pre ++ d :: post → Sound now pre d)
    (hc : Sound now tr c) (pre : List (Commit ι Row)) (d : Commit ι Row) (post : List (Commit ι Row))
    (heq : tr ++ [c] = pre ++ d :: post) : Sound now pre d := by
  rcases List.eq_nil_or_concat post with rfl | ⟨rest,e,rfl⟩
  · obtain ⟨rfl,hd⟩ := List.append_inj' heq rfl
    obtain rfl := (List.cons.inj hd).1
    exact hc
  · have hsplit : tr ++ [c] = (pre ++ d :: rest) ++ [e] := by simpa using heq
    obtain ⟨rfl,_⟩ := List.append_inj' hsplit rfl
    exact h pre d rest rfl

section steps

variable [DecidableEq ι]

-- A step of one call that commits nothing.
theorem Sweeps.turn (h : Sweeps now db₀ tr ph pd w) {p : Pending Row} {n : ℕ} (hn : w.next ≤ n)
    (hfact : Fact (now i) y p ⟨w.db,n⟩)
    (htoken : ∀ τ, y.token = some τ → (ph i).token = some τ ∨ w.next ≤ τ)
    (howned : ∀ τ, y.owned = some τ → (ph i).owned = some τ)
    (hswept : ∀ τ cl, y.owned = some τ → y.Begun cl → Swept (now i) i τ (y.Rest cl) cl tr (p.view w.db)) :
    Sweeps now db₀ tr (Function.update ph i y) (Function.update pd i p) ⟨w.db,n⟩ where
  facts j := by
    by_cases hj : j = i
    · subst hj
      simpa using hfact
    · rw [Function.update_of_ne hj,Function.update_of_ne hj]
      obtain ⟨h₁,h₂,h₃,h₄,h₅,h₆,h₇⟩ := h.facts j
      exact ⟨h₁,h₂,h₃,h₄,fun τ hτ => lt_of_lt_of_le (h₅ τ hτ) hn,fun id hid => lt_of_lt_of_le (h₆ id hid) hn,h₇⟩
  tokens a b τ ha hb := by
    have hnew {j : ι} (hy : y.token = some τ) (hj : (ph j).token = some τ) (hij : j ≠ i) : False := by
      rcases htoken τ hy with hx | hx
      · exact hij (h.tokens j i τ hj hx)
      · exact absurd ((h.facts j).token τ hj) (not_lt.mpr hx)
    by_cases hai : a = i
    · by_cases hbi : b = i
      · exact hai.trans hbi.symm
      · rw [hai,Function.update_self] at ha
        rw [Function.update_of_ne hbi] at hb
        exact (hnew ha hb hbi).elim
    · rw [Function.update_of_ne hai] at ha
      by_cases hbi : b = i
      · rw [hbi,Function.update_self] at hb
        exact (hnew hb ha hai).elim
      · rw [Function.update_of_ne hbi] at hb
        exact h.tokens a b τ ha hb
  claimed j τ hτ := by
    by_cases hj : j = i
    · subst hj
      rw [Function.update_self] at hτ
      exact h.claimed j τ (howned τ hτ)
    · rw [Function.update_of_ne hj] at hτ
      exact h.claimed j τ hτ
  swept j τ cl hτ hcl := by
    by_cases hj : j = i
    · subst hj
      rw [Function.update_self] at hτ hcl ⊢
      rw [Function.update_self]
      exact hswept τ cl hτ hcl
    · rw [Function.update_of_ne hj] at hτ hcl ⊢
      rw [Function.update_of_ne hj]
      exact h.swept j τ cl hτ hcl
  numbered t id hne := lt_of_lt_of_le (h.numbered t id hne) hn
  spaced := h.spaced
  latest := h.latest
  sound := h.sound

theorem Sweeps.committed (h : Sweeps now db₀ tr ph pd w) (ha : Apart pd)
    (hcommit : (sweepCourse (now i)).commit (ph i) y)
    (hfact : Fact (now i) y Pending.empty ⟨(pd i).view w.db,w.next⟩)
    (htoken : ∀ τ, y.token = some τ → (ph i).token = some τ)
    (howned : ∀ τ, y.owned = some τ → ClaimedBy (now i) i τ ⟨i,pd i,w.db⟩)
    (hbegun : ∀ cl, ¬ y.Begun cl) :
    Sweeps now db₀ (tr ++ [⟨i,pd i,w.db⟩]) (Function.update ph i y)
      (Function.update pd i Pending.empty) ⟨(pd i).view w.db,w.next⟩ where
  facts j := by
    by_cases hj : j = i
    · subst hj
      simpa using hfact
    · rw [Function.update_of_ne hj,Function.update_of_ne hj]
      refine (h.facts j).commit (fun k hk => ?_) fun τ s hτ hs hstored => h.stands hj hτ hs hstored
      have hfree : pd i k = none := ha j i k hj hk
      exact Pending.view_of_none hfree w.db
  tokens a b τ ha hb := by
    have hold {j : ι} (hj : (Function.update ph i y j).token = some τ) : (ph j).token = some τ := by
      by_cases hji : j = i
      · subst hji
        rw [Function.update_self] at hj
        exact htoken τ hj
      · rwa [Function.update_of_ne hji] at hj
    exact h.tokens a b τ (hold ha) (hold hb)
  claimed j τ hτ := by
    by_cases hj : j = i
    · subst hj
      rw [Function.update_self] at hτ
      exact ⟨_,List.mem_append_right _ (List.mem_singleton_self _),howned τ hτ⟩
    · rw [Function.update_of_ne hj] at hτ
      obtain ⟨c,hc,hclaim⟩ := h.claimed j τ hτ
      exact ⟨c,List.mem_append_left _ hc,hclaim⟩
  swept j τ cl hτ hcl := by
    by_cases hj : j = i
    · subst hj
      rw [Function.update_self] at hcl
      exact (hbegun cl hcl).elim
    · rw [Function.update_of_ne hj] at hτ hcl ⊢
      rw [Function.update_of_ne hj]
      exact (h.swept j τ cl hτ hcl).commit (h.facts i)
  numbered t id hne := h.numbered_view hne
  spaced := h.next_history.1
  latest := h.next_history.2
  sound := sound_append h.sound (h.sound_commit hcommit)

theorem sweeps_learn (h : Sweeps now db₀ tr ph pd w)
    (hlearn : (sweepCourse (now i)).learn (ph i) ((pd i).view w.db) w.next y) :
    Sweeps now db₀ tr (Function.update ph i y) pd w := by
  cases hph : ph i with
  | sweeping τ begun rest =>
    cases rest with
    | cons id rest =>
      rw [hph] at hlearn
      exact hlearn.elim
    | nil =>
      have hfact := h.facts i
      rw [hph] at hlearn hfact
      obtain ⟨cl,rfl⟩ := hlearn
      have hnone : pd i .state = none := hfact.state_none fun _ _ hstep => hstep
      have hturn := h.turn (i := i) (y := .sweeping τ (cl :: begun) (cl.selected (now i) ((pd i).view w.db) w.next))
        (le_refl w.next) (hfact.phase (le_refl w.next) hnone (fun hx => hx) rfl rfl (fun _ hτ => Or.inl hτ)
          fun _ hd => by cases hd) (fun σ hσ => Or.inl (by rw [hph]; exact hσ))
        (fun σ hσ => by rw [hph]; exact hσ) fun σ cl' hσ hcl' => ?_
      · rwa [Function.update_eq_self] at hturn
      rcases List.mem_cons.mp hcl' with rfl | hold
      · obtain ⟨c,hc,hclaim⟩ := h.claimed i σ (by rw [hph]; exact hσ)
        refine ⟨tr,[],(List.append_nil tr).symm,⟨c,hc,hclaim⟩,fun id hdue => Or.inr ⟨rfl,?_⟩⟩
        obtain ⟨_,e,he,happlies⟩ := hdue
        have hlt : id < w.next := h.numbered_view (i := i) (t := cl'.table) (by rw [he]; exact Option.some_ne_none e)
        rw [Cleanup.selected,List.mem_filter,List.mem_range,he]
        exact ⟨hlt,happlies⟩
      · have hswept := h.swept i σ cl' (by rw [hph]; exact hσ) (by rw [hph]; exact hold)
        rw [hph] at hswept
        exact hswept.mono fun id hdue => ⟨hdue,fun hrest => (SweepPhase.rest_nil hrest).elim⟩
  | _ =>
    rw [hph] at hlearn
    exact hlearn.elim

theorem sweeps_number (h : Sweeps now db₀ tr ph pd w)
    (hnumber : (sweepCourse (now i)).number (ph i) w.next y) :
    Sweeps now db₀ tr (Function.update ph i y) pd w.bump := by
  have hfact := h.facts i
  have hlt : w.next < w.next + 1 := Nat.lt_succ_self _
  have hle : w.next ≤ w.next + 1 := Nat.le_succ _
  cases hph : ph i with
  | arriving =>
    rw [hph] at hnumber hfact
    obtain rfl : y = .named w.next := hnumber
    have hnone : pd i .state = none := hfact.state_none fun _ _ hstep => hstep
    have hturn := h.turn (i := i) (y := .named w.next) hle
      (hfact.phase hle hnone (fun hx => hx) rfl rfl (fun τ hτ => Or.inr (by cases hτ; exact hlt))
        fun _ hd => by cases hd) (fun τ hτ => Or.inr (by cases hτ; exact le_refl _))
      (fun _ hτ => by cases hτ) fun _ _ hτ => by cases hτ
    rwa [Function.update_eq_self] at hturn
  | sweeping τ begun rest =>
    cases rest with
    | cons id rest =>
      rw [hph] at hnumber
      exact hnumber.elim
    | nil =>
      rw [hph] at hnumber hfact
      obtain ⟨rfl,hall⟩ := hnumber
      have hnone : pd i .state = none := hfact.state_none fun _ _ hstep => hstep
      have hturn := h.turn (i := i) (y := .recording τ w.next) hle
        (hfact.phase hle hnone (fun hx => hx) rfl rfl (fun _ hτ => Or.inl hτ)
          fun id hd => by cases hd; exact ⟨hlt,h.unused i⟩) (fun σ hσ => Or.inl (by rw [hph]; exact hσ))
        (fun σ hσ => by rw [hph]; exact hσ) fun σ cl hσ _ => ?_
      · rwa [Function.update_eq_self] at hturn
      have hswept := h.swept i σ cl (by rw [hph]; exact hσ) (by rw [hph]; exact hall cl)
      rw [hph] at hswept
      exact hswept.mono fun id hdue => ⟨hdue,fun hrest => (SweepPhase.rest_nil hrest).elim⟩
  | failed =>
    rw [hph] at hnumber hfact
    obtain rfl : y = .failing w.next := hnumber
    have hnone : pd i .state = none := hfact.state_none fun _ _ hstep => hstep
    have hturn := h.turn (i := i) (y := .failing w.next) hle
      (hfact.phase hle hnone (fun hx => hx) rfl rfl (fun _ hτ => Or.inl hτ)
        fun id hd => by cases hd; exact ⟨hlt,h.unused i⟩) (fun _ hτ => by cases hτ)
      (fun _ hτ => by cases hτ) fun _ _ hτ => by cases hτ
    rwa [Function.update_eq_self] at hturn
  | _ =>
    rw [hph] at hnumber
    exact hnumber.elim

-- A statement on the state row.
theorem Sweeps.put_state (h : Sweeps now db₀ tr ph pd w) {l u : Row .state}
    (hstep : y.stateStep (now i) .state (w.db .state) u) (howned : y.owned = (ph i).owned)
    (hinserted : y.inserted = (ph i).inserted) (htoken : y.token = none ∨ y.token = (ph i).token)
    (hdrawn : y.drawn = (ph i).drawn) (hbegun : ∀ cl, y.Begun cl → (ph i).Begun cl)
    (hrest : ∀ cl id, ¬ (ph i).Rest cl id) :
    Sweeps now db₀ tr (Function.update ph i y) (Function.update pd i ((pd i).put .state l u)) w := by
  refine h.turn (le_refl w.next) ((h.facts i).put_state hstep howned hinserted htoken hdrawn)
    (fun τ hτ => ?_) (fun τ hτ => howned ▸ hτ) fun τ cl hτ hcl => ?_
  · rcases htoken with heq | heq
    · rw [heq] at hτ
      cases hτ
    · exact Or.inl (heq ▸ hτ)
  · refine (h.swept i τ cl (howned ▸ hτ) (hbegun cl hcl)).mono fun id hdue =>
      ⟨?_,fun hr => (hrest cl id hr).elim⟩
    rwa [Pending.view_put_ne _ _ _ _ (fun hk => by cases hk)] at hdue

-- The insertion of a record of its own.
theorem Sweeps.put_record (h : Sweeps now db₀ tr ph pd w) {k : Key} {id : Id} {l u : Row k}
    (hrecords : Records (now i) id k ((pd i).view w.db k) u) (hdrawn : (ph i).drawn = some id)
    (hnone : (ph i).inserted = none) (hstate : ∀ v u, ¬ (ph i).stateStep (now i) .state v u)
    (hinserted : y.inserted = some id) (hwrites : ¬ y.WritesState) (howned : y.owned = (ph i).owned)
    (htoken : y.token = (ph i).token) (hkept : y.drawn = (ph i).drawn)
    (hbegun : ∀ cl, y.Begun cl → (ph i).Begun cl) (hrest : ∀ cl id, ¬ (ph i).Rest cl id) :
    Sweeps now db₀ tr (Function.update ph i y) (Function.update pd i ((pd i).put k l u)) w := by
  cases k with
  | state => exact hrecords.elim
  | event t e =>
    obtain rfl : e = id := hrecords.2.1
    have hfree : pd i (.event t e) = none := (h.facts i).unwritten e hdrawn hnone t
    have hview : (pd i).view w.db (.event t e) = w.db (.event t e) := Pending.view_of_none hfree w.db
    have hyoung (cl : Cleanup) : ¬ Due (now i) cl (.event t e) u := hrecords.young
    rw [hview] at hrecords
    refine h.turn (le_refl w.next) ((h.facts i).put_event (Or.inr ⟨hinserted,hrecords⟩)
      ((h.facts i).state_none hstate) hwrites howned hnone htoken hkept
      (Or.inr (by rw [hinserted]; exact Option.some_ne_none e)))
      (fun τ hτ => Or.inl (htoken ▸ hτ)) (fun τ hτ => howned ▸ hτ) fun τ cl hτ hcl => ?_
    refine (h.swept i τ cl (howned ▸ hτ) (hbegun cl hcl)).mono fun id hdue =>
      ⟨?_,fun hr => (hrest cl id hr).elim⟩
    by_cases hk : Key.event cl.table id = .event t e
    · cases hk
      rw [Pending.view_put_self] at hdue
      exact (hyoung cl hdue).elim
    · rwa [Pending.view_put_ne _ _ _ _ hk] at hdue

-- One row deleted, or left without details.
theorem Sweeps.put_cleared (h : Sweeps now db₀ tr ph pd w) {τ : Id} {cl : Cleanup} {begun : List Cleanup}
    {id : Id} {rest : List Id} (hph : ph i = .sweeping τ (cl :: begun) (id :: rest))
    {l u : Row (.event cl.table id)}
    (hclears : Clears (now i) cl (.event cl.table id) ((pd i).view w.db (.event cl.table id)) u) :
    Sweeps now db₀ tr (Function.update ph i (.sweeping τ (cl :: begun) rest))
      (Function.update pd i ((pd i).put (.event cl.table id) l u)) w := by
  have hfact := h.facts i
  rw [hph] at hfact
  have hages : Ages (now i) (.event cl.table id) (w.db (.event cl.table id)) u := by
    rcases hfact.event_view cl.table id with heq | ⟨_,hold⟩ | ⟨hid,_⟩
    · exact heq ▸ hclears.ages
    · exact hold.again hclears.ages
    · cases hid
  refine h.turn (le_refl w.next) (hfact.put_event (Or.inl ⟨Option.some_ne_none τ,hages⟩)
    (hfact.state_none fun _ _ hstep => hstep) (fun hx => hx) rfl rfl rfl rfl (Or.inl rfl))
    (fun σ hσ => Or.inl (by rw [hph]; exact hσ)) (fun σ hσ => by rw [hph]; exact hσ) fun σ cl' hσ hcl' => ?_
  have hswept := h.swept i σ cl' (by rw [hph]; exact hσ) (by rw [hph]; exact hcl')
  rw [hph] at hswept
  refine hswept.mono fun id' hdue => ?_
  by_cases hk : Key.event cl'.table id' = .event cl.table id
  · have hdue' : Due (now i) cl' (.event cl.table id) u := by
      rw [hk,Pending.view_put_self] at hdue
      exact hdue
    refine ⟨?_,fun hrest => ?_⟩
    · rw [hk]
      exact hclears.ages.due hdue'
    · obtain ⟨rfl,_⟩ := hrest
      exact (hclears.cleared hdue').elim
  · rw [Pending.view_put_ne _ _ _ _ hk] at hdue
    refine ⟨hdue,fun hrest => ?_⟩
    obtain ⟨rfl,hid⟩ := hrest
    rcases List.mem_cons.mp hid with rfl | hid
    · exact (hk rfl).elim
    · exact ⟨rfl,hid⟩

theorem sweeps_update (h : Sweeps now db₀ tr ph pd w) {k : Key} {g : Row k → Bool} {s : Row k → Row k}
    (hup : (sweepCourse (now i)).update (ph i) k g s y) (hg : g ((pd i).view w.db k) = true) :
    Sweeps now db₀ tr (Function.update ph i y)
      (Function.update pd i ((pd i).put k (w.db k) (s ((pd i).view w.db k)))) w := by
  have hfact := h.facts i
  cases hph : ph i with
  | arriving =>
    rw [hph] at hup hfact
    obtain ⟨rfl,hfounds⟩ := hup
    have hstep := hfounds _ hg
    cases k with
    | event t id => exact hstep.elim
    | state =>
      rw [Pending.view_of_none (hfact.state_none fun _ _ hs => hs)] at hstep ⊢
      exact h.put_state hstep (by rw [hph]; rfl) (by rw [hph]; rfl) (Or.inl rfl) (by rw [hph]; rfl)
        (fun _ hcl => hcl.elim) fun _ _ hr => by rw [hph] at hr; exact hr
  | named τ =>
    rw [hph] at hup hfact
    obtain ⟨rfl,hclaims⟩ := hup
    have hstep := hclaims _ hg
    cases k with
    | event t id => exact hstep.elim
    | state =>
      rw [Pending.view_of_none (hfact.state_none fun _ _ hs => hs)] at hstep ⊢
      exact h.put_state hstep (by rw [hph]; rfl) (by rw [hph]; rfl) (Or.inr (by rw [hph]; rfl))
        (by rw [hph]; rfl) (fun _ hcl => hcl.elim) fun _ _ hr => by rw [hph] at hr; exact hr
  | recorded τ id =>
    rw [hph] at hup hfact
    obtain ⟨rfl,hcompletes⟩ := hup
    have hstep := hcompletes _ hg
    cases k with
    | event t id => exact hstep.elim
    | state =>
      rw [Pending.view_of_none (hfact.state_none fun _ _ hs => hs)] at hstep ⊢
      exact h.put_state hstep (by rw [hph]; rfl) (by rw [hph]; rfl) (Or.inr (by rw [hph]; rfl))
        (by rw [hph]; rfl) (fun _ _ => by rw [hph]; trivial) fun _ _ hr => by rw [hph] at hr; exact hr
  | recording τ id =>
    rw [hph] at hup
    obtain ⟨rfl,hrecords⟩ := hup
    exact h.put_record (hrecords _ hg) (by rw [hph]; rfl) (by rw [hph]; rfl)
      (fun _ _ hs => by rw [hph] at hs; exact hs) rfl (fun hx => hx) (by rw [hph]; rfl) (by rw [hph]; rfl)
      (by rw [hph]; rfl) (fun _ _ => by rw [hph]; trivial) fun _ _ hr => by rw [hph] at hr; exact hr
  | failing id =>
    rw [hph] at hup
    obtain ⟨rfl,hrecords⟩ := hup
    exact h.put_record (hrecords _ hg) (by rw [hph]; rfl) (by rw [hph]; rfl)
      (fun _ _ hs => by rw [hph] at hs; exact hs) rfl (fun hx => hx) (by rw [hph]; rfl) (by rw [hph]; rfl)
      (by rw [hph]; rfl) (fun _ hcl => hcl.elim) fun _ _ hr => by rw [hph] at hr; exact hr
  | sweeping τ begun ids =>
    cases begun with
    | nil =>
      rw [hph] at hup
      exact hup.elim
    | cons cl begun =>
      cases ids with
      | nil =>
        rw [hph] at hup
        exact hup.elim
      | cons id rest =>
        rw [hph] at hup
        obtain ⟨rfl,rfl,hclears⟩ := hup
        exact h.put_cleared hph (hclears _ hg)
  | _ =>
    rw [hph] at hup
    exact hup.elim

theorem sweeps_miss (h : Sweeps now db₀ tr ph pd w) {k : Key} {g : Row k → Bool}
    (hmiss : (sweepCourse (now i)).miss (ph i) k g y) (hg : g ((pd i).view w.db k) = false) :
    Sweeps now db₀ tr (Function.update ph i y) pd w := by
  have hfact := h.facts i
  cases hph : ph i with
  | sweeping τ begun ids =>
    cases begun with
    | nil =>
      rw [hph] at hmiss
      exact hmiss.elim
    | cons cl begun =>
      cases ids with
      | nil =>
        rw [hph] at hmiss
        exact hmiss.elim
      | cons id rest =>
        rw [hph] at hmiss hfact
        obtain ⟨rfl,rfl,hspared⟩ := hmiss
        have hnone : pd i .state = none := hfact.state_none fun _ _ hstep => hstep
        have hturn := h.turn (i := i) (y := .sweeping τ (cl :: begun) rest) (le_refl w.next)
          (hfact.phase (le_refl w.next) hnone (fun hx => hx) rfl rfl (fun _ hτ => Or.inl hτ)
            fun _ hd => by cases hd) (fun σ hσ => Or.inl (by rw [hph]; exact hσ))
          (fun σ hσ => by rw [hph]; exact hσ) fun σ cl' hσ hcl' => ?_
        · rwa [Function.update_eq_self] at hturn
        have hswept := h.swept i σ cl' (by rw [hph]; exact hσ) (by rw [hph]; exact hcl')
        rw [hph] at hswept
        refine hswept.mono fun id' hdue => ⟨hdue,fun hrest => ?_⟩
        obtain ⟨rfl,hid⟩ := hrest
        rcases List.mem_cons.mp hid with rfl | hid
        · exact (hspared _ hg hdue).elim
        · exact ⟨rfl,hid⟩
  | _ =>
    rw [hph] at hmiss
    exact hmiss.elim

-- A call that gives up its transaction, and what it owned.
theorem Sweeps.drop (h : Sweeps now db₀ tr ph pd w) (hwrites : ¬ y.WritesState) (hdrawn : y.drawn = none)
    (howned : y.owned = none) (htoken : y.token = none) :
    Sweeps now db₀ tr (Function.update ph i y) (Function.update pd i Pending.empty) w := by
  refine h.turn (le_refl w.next) (.empty hwrites (fun τ s hτ => ?_) (fun τ hτ => ?_) fun id hid => ?_)
    (fun τ hτ => ?_) (fun τ hτ => ?_) fun τ cl hτ => ?_
  · rw [howned] at hτ
    cases hτ
  · rw [htoken] at hτ
    cases hτ
  · rw [hdrawn] at hid
    cases hid
  · rw [htoken] at hτ
    cases hτ
  · rw [howned] at hτ
    cases hτ
  · rw [howned] at hτ
    cases hτ

theorem sweeps_rollback (h : Sweeps now db₀ tr ph pd w)
    (hroll : (sweepCourse (now i)).rollback (ph i) y) :
    Sweeps now db₀ tr (Function.update ph i y) (Function.update pd i Pending.empty) w := by
  cases hph : ph i with
  | arriving =>
    rw [hph] at hroll
    obtain rfl : y = .arriving := hroll
    exact h.drop (fun hx => hx) rfl rfl rfl
  | sweeping | recorded =>
    rw [hph] at hroll
    obtain rfl : y = .failed := hroll
    exact h.drop (fun hx => hx) rfl rfl rfl
  | _ =>
    rw [hph] at hroll
    exact hroll.elim

theorem sweeps_commit (h : Sweeps now db₀ tr ph pd w) (ha : Apart pd)
    (hcommit : (sweepCourse (now i)).commit (ph i) y) :
    Sweeps now db₀ (tr ++ [⟨i,pd i,w.db⟩]) (Function.update ph i y)
      (Function.update pd i Pending.empty) ⟨(pd i).view w.db,w.next⟩ := by
  have hallowed := hcommit
  have hlast (hy : y = .finished ∨ y = .arriving) :
      Sweeps now db₀ (tr ++ [⟨i,pd i,w.db⟩]) (Function.update ph i y)
        (Function.update pd i Pending.empty) ⟨(pd i).view w.db,w.next⟩ := by
    have hfact : Fact (now i) y Pending.empty ⟨(pd i).view w.db,w.next⟩ := by
      rcases hy with rfl | rfl
      · exact .empty (w := ⟨(pd i).view w.db,w.next⟩) (fun hx => hx) (fun _ _ hτ => by cases hτ)
          (fun _ hτ => by cases hτ) fun _ hd => by cases hd
      · exact .empty (w := ⟨(pd i).view w.db,w.next⟩) (fun hx => hx) (fun _ _ hτ => by cases hτ)
          (fun _ hτ => by cases hτ) fun _ hd => by cases hd
    refine h.committed ha hallowed hfact (fun τ hτ => ?_) (fun τ hτ => ?_) fun cl hcl => ?_
    · rcases hy with rfl | rfl <;> cases hτ
    · rcases hy with rfl | rfl <;> cases hτ
    · rcases hy with rfl | rfl <;> exact hcl
  cases hph : ph i with
  | founding =>
    rw [hph] at hcommit
    exact hlast (Or.inr hcommit)
  | named | completing | reporting =>
    rw [hph] at hcommit
    exact hlast (Or.inl hcommit)
  | claiming τ =>
    have hfact := h.facts i
    rw [hph] at hcommit hfact
    obtain rfl : y = .sweeping τ [] [] := hcommit
    have hclaims : Claims τ (now i) .state (w.db .state) ((pd i).view w.db .state) := by
      rcases hfact.state_view with ⟨_,hnot⟩ | hstep
      · exact (hnot trivial).elim
      · exact hstep
    refine h.committed ha hallowed
      (.empty (w := ⟨(pd i).view w.db,w.next⟩) (fun hx => hx) (fun σ s _ hs _ => ?_) (fun σ hσ => hfact.token σ hσ)
        fun _ hd => by cases hd)
      (fun σ hσ => by rw [hph]; exact hσ) (fun σ hσ => ?_) fun cl hcl => by cases hcl
    · obtain ⟨s',_,hdue,_,hclaim⟩ := hclaims
      obtain rfl : s = s'.claim τ (now i) := Option.some.inj (hs.symm.trans hclaim)
      exact hdue
    · obtain rfl : τ = σ := Option.some.inj hσ
      exact ⟨rfl,hclaims⟩
  | _ =>
    rw [hph] at hcommit
    exact hcommit.elim

theorem sweeps_annotated (now : ι → Time) (db₀ : Db) :
    Annotated (fun i => sweepCourse (now i)) (fun _ _ _ _ _ => True) fun tr ph pd w => Sweeps now db₀ tr ph pd w where
  bump {_ _ _ _} h := by
    have hle := Nat.le_succ
    refine ⟨fun j => ?_,h.tokens,h.claimed,h.swept,fun t id hne => ?_,h.spaced,h.latest,h.sound⟩
    · obtain ⟨h₁,h₂,h₃,h₄,h₅,h₆,h₇⟩ := h.facts j
      exact ⟨h₁,h₂,h₃,h₄,fun τ hτ => lt_of_lt_of_le (h₅ τ hτ) (hle _),
        fun id hid => lt_of_lt_of_le (h₆ id hid) (hle _),h₇⟩
    · exact lt_of_lt_of_le (h.numbered t id hne) (hle _)
  learn := sweeps_learn
  number := sweeps_number
  update h _ _ hup hg := sweeps_update h hup hg
  flush _ _ _ hflush := hflush.elim
  commit := sweeps_commit
  rollback := sweeps_rollback
  stop _ h := ⟨.finished,h.drop (fun hx => hx) rfl rfl rfl⟩
  miss h hmiss hg := sweeps_miss h hmiss hg
  skip _ hskip := hskip.elim

end steps

end sweeps

end AiScdc.AuditRetention
