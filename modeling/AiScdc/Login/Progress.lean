import AiScdc.Login.Course

namespace AiScdc.Login
open Transaction
open DeviceSessions (DeviceSession)

-- How far the login has come: claimed by i, rejected by it, or completed by it with a session.
inductive Progress (ι : Type) where
  | free | held (i : ι) | refused (i : ι) | done (i : ι) (sessionId : Id)

namespace Progress

variable {ι : Type}

def claimers : Progress ι → List ι
  | .free => []
  | .held i | .refused i | .done i _ => [i]

def session : Progress ι → Option Id
  | .done _ d => some d
  | _ => none

def At : Progress ι → ι → CallbackPhase → Prop
  | .free, _, x => x = .outside ∨ x = .claiming
  | .held i₀, i, x => match x with
    | .claimed | .holder | .overtaken | .rejecting | .issuing _ | .completing _ => i = i₀
    | .outside => i ≠ i₀
    | _ => False
  | .refused i₀, i, x | .done i₀ _, i, x => match x with
    | .finished => i = i₀
    | .outside => i ≠ i₀
    | _ => False

-- Where rejections are strict, they come upon a pending transaction only.
def RowAt (strict : Prop) (t : LoginTransaction) : Progress ι → Prop
  | .free => t.completedSessionId = none ∧ (strict → t.status = .pending ∨ t.status = .rejected)
  | .held _ => t.completedSessionId = none ∧ (t.status = .processing ∨ t.status = .rejected ∧ ¬ strict)
  | .refused _ => t.completedSessionId = none ∧ t.status = .rejected
  | .done _ d => t.completedSessionId = some d ∧ (t.status = .completed ∨ t.status = .rejected ∧ ¬ strict)

end Progress

-- How a callback may be about to change the transaction.
def rowStep (strict : Prop) (t t' : LoginTransaction) : CallbackPhase → Prop
  | .outside => t'.completedSessionId = t.completedSessionId ∧
      (t'.status = t.status ∨ t'.status = .rejected ∧ (strict → t.status = .pending))
  | .claiming => t'.completedSessionId = t.completedSessionId ∧ t.status = .pending ∧ t'.status = .processing
  | .rejecting => t'.completedSessionId = t.completedSessionId ∧ t'.status = .rejected
  | .completing d => t'.completedSessionId = some d ∧ t'.status = .completed
  | _ => False

def opened : CallbackPhase → Option Id
  | .issuing d | .completing d => some d
  | _ => none

-- A session that is written and active: created, or its secret replaced.
def OpensSession (p : Pending Row) (d : Id) : Prop :=
  ∃ wr s, p (.deviceSession d) = some wr ∧ wr.value = some (s : DeviceSession) ∧ s.status = .active

def writesRow : CallbackPhase → Prop
  | .claiming | .rejecting | .completing _ => True
  | _ => False

structure Fact (id : Id) (strict : Prop) (x : CallbackPhase) (p : Pending Row) (db : Db) : Prop where
  row : ∀ wr, p (.loginTransaction id) = some wr → ∃ t t' : LoginTransaction,
    db (.loginTransaction id) = some t ∧ wr.value = some t' ∧ rowStep strict t t' x
  written : writesRow x → p (.loginTransaction id) ≠ none
  sessions : ∀ d, OpensSession p d → opened x = some d
  session : ∀ d, opened x = some d → OpensSession p d

section facts

variable {id : Id} {strict : Prop} {x y : CallbackPhase} {p q : Pending Row} {db db' : Db}

theorem Fact.commit (h : Fact id strict x p db)
    (hdb : p (.loginTransaction id) ≠ none → db' (.loginTransaction id) = db (.loginTransaction id)) :
    Fact id strict x p db' where
  row wr hwr := by
    rw [hdb (by simp [hwr])]
    exact h.row wr hwr
  written := h.written
  sessions := h.sessions
  session := h.session

theorem Fact.empty (hwritten : ¬ writesRow x) (hopened : opened x = none) :
    Fact id strict x Pending.empty db where
  row _ hwr := by cases hwr
  written hx := (hwritten hx).elim
  sessions _ h := by
    obtain ⟨_,_,hwr,_⟩ := h
    cases hwr
  session d hd := by
    rw [hopened] at hd
    cases hd

-- Where the phase changes and nothing is written.
theorem Fact.phase (h : Fact id strict x p db) (hnone : p (.loginTransaction id) = none)
    (hwritten : ¬ writesRow y) (hopened : opened y = opened x) : Fact id strict y p db where
  row wr hwr := by
    rw [hnone] at hwr
    cases hwr
  written hy := (hwritten hy).elim
  sessions d hd := hopened.trans (h.sessions d hd)
  session d hd := h.session d (hopened.symm.trans hd)

theorem Fact.unwritten (h : Fact id strict x p db) (hx : ∀ t t', ¬ rowStep strict t t' x) :
    p (.loginTransaction id) = none := by
  cases hp : p (.loginTransaction id) with
  | none => rfl
  | some wr =>
    obtain ⟨t,t',_,_,hstep⟩ := h.row wr hp
    exact (hx t t' hstep).elim

theorem opensSession_put_ne {k : Key} {l u : Row k} {d : Id} (hk : Key.deviceSession d ≠ k) :
    OpensSession (p.put k l u) d ↔ OpensSession p d := by
  simp only [OpensSession,Pending.put_ne p l u hk]

theorem opensSession_put {d : Id} {l u : Row (.deviceSession d)} :
    OpensSession (p.put (.deviceSession d) l u) d ↔
      ∃ s : DeviceSession, u = some s ∧ s.status = .active := by
  simp only [OpensSession,Pending.put_self]
  constructor
  · rintro ⟨_,s,heq,hs,hactive⟩
    cases heq
    exact ⟨s,hs,hactive⟩
  · rintro ⟨s,hs,hactive⟩
    exact ⟨_,s,rfl,hs,hactive⟩

-- The view that a callback has of the transaction.
theorem Fact.view (h : Fact id strict x p db) {t : LoginTransaction}
    (ht : db (.loginTransaction id) = some t) : ∃ t' : LoginTransaction,
      p.view db (.loginTransaction id) = some t' ∧
        (t' = t ∧ p (.loginTransaction id) = none ∨ rowStep strict t t' x) := by
  cases hp : p (.loginTransaction id) with
  | none => exact ⟨t,by rw [Pending.view_of_none hp,ht],Or.inl ⟨rfl,rfl⟩⟩
  | some wr =>
    obtain ⟨u,t',hu,hv,hstep⟩ := h.row wr hp
    obtain rfl : t = u := Option.some.inj (ht.symm.trans hu)
    exact ⟨t',by rw [Pending.view_of_some hp,hv],Or.inr hstep⟩

theorem Fact.unwrittenView (h : Fact id strict x p db) (hx : ∀ t t', ¬ rowStep strict t t' x)
    {t : LoginTransaction} (ht : db (.loginTransaction id) = some t) :
    p.view db (.loginTransaction id) = some t := by
  rw [Pending.view_of_none (h.unwritten hx),ht]

theorem Fact.writtenView (h : Fact id strict x p db) (hx : writesRow x) {t : LoginTransaction}
    (ht : db (.loginTransaction id) = some t) : ∃ t' : LoginTransaction,
      p.view db (.loginTransaction id) = some t' ∧ rowStep strict t t' x := by
  obtain ⟨t',ht',⟨_,hnone⟩ | hstep⟩ := h.view ht
  · exact (h.written hx hnone).elim
  · exact ⟨t',ht',hstep⟩

theorem rowStep_refl (t : LoginTransaction) : rowStep strict t t .outside := ⟨rfl,Or.inl rfl⟩

theorem Fact.outsideView (h : Fact id strict .outside p db) {t : LoginTransaction}
    (ht : db (.loginTransaction id) = some t) : ∃ t' : LoginTransaction,
      p.view db (.loginTransaction id) = some t' ∧ rowStep strict t t' .outside := by
  obtain ⟨t',ht',⟨rfl,_⟩ | hstep⟩ := h.view ht
  · exact ⟨t',ht',rowStep_refl t'⟩
  · exact ⟨t',ht',hstep⟩

-- A write of the transaction.
theorem Fact.putRow (h : Fact id strict x p db) {l u : Row (.loginTransaction id)} {t t' : LoginTransaction}
    (ht : db (.loginTransaction id) = some t) (hu : u = some t') (hstep : rowStep strict t t' y)
    (hopened : opened y = opened x) : Fact id strict y (p.put (.loginTransaction id) l u) db where
  row wr hwr := by
    rw [Pending.put_self] at hwr
    cases hwr
    exact ⟨t,t',ht,hu,hstep⟩
  written _ := by
    rw [Pending.put_self]
    exact Option.some_ne_none _
  sessions d hd := by
    rw [opensSession_put_ne (fun hk => by cases hk)] at hd
    exact hopened.trans (h.sessions d hd)
  session d hd := by
    rw [opensSession_put_ne (fun hk => by cases hk)]
    exact h.session d (hopened.symm.trans hd)

theorem Fact.putOther (h : Fact id strict x p db) {k : Key} {l u : Row k}
    (hrow : Key.loginTransaction id ≠ k) (hsession : ∀ d, Key.deviceSession d ≠ k) :
    Fact id strict x (p.put k l u) db where
  row wr hwr := by
    rw [Pending.put_ne p l u hrow] at hwr
    exact h.row wr hwr
  written hw := by
    rw [Pending.put_ne p l u hrow]
    exact h.written hw
  sessions d hd := h.sessions d ((opensSession_put_ne (hsession d)).mp hd)
  session d hd := (opensSession_put_ne (hsession d)).mpr (h.session d hd)

-- A write of a session that leaves none active.
theorem Fact.putDead (h : Fact id strict x p db) {d : Id} {l u : Row (.deviceSession d)}
    (hu : ∀ s : DeviceSession, u = some s → s.status ≠ .active) (hx : opened x = none) :
    Fact id strict x (p.put (.deviceSession d) l u) db where
  row wr hwr := by
    rw [Pending.put_ne p l u (fun hk => by cases hk)] at hwr
    exact h.row wr hwr
  written hw := by
    rw [Pending.put_ne p l u (fun hk => by cases hk)]
    exact h.written hw
  sessions e he := by
    by_cases hed : e = d
    · subst hed
      obtain ⟨s,hs,hactive⟩ := opensSession_put.mp he
      exact (hu s hs hactive).elim
    · rw [opensSession_put_ne (fun hk => hed (by cases hk; rfl))] at he
      exact h.sessions e he
  session e he := by
    rw [hx] at he
    cases he

theorem Fact.putOpen (h : Fact id strict x p db) (hnone : p (.loginTransaction id) = none)
    {d : Id} {l u : Row (.deviceSession d)} (hu : ∃ s : DeviceSession, u = some s ∧ s.status = .active)
    (hx : opened x = none) : Fact id strict (.issuing d) (p.put (.deviceSession d) l u) db where
  row wr hwr := by
    rw [Pending.put_ne p l u (fun hk => by cases hk),hnone] at hwr
    cases hwr
  written hw := hw.elim
  sessions e he := by
    by_cases hed : e = d
    · subst hed
      rfl
    · rw [opensSession_put_ne (fun hk => hed (by cases hk; rfl))] at he
      have hnot := h.sessions e he
      rw [hx] at hnot
      cases hnot
  session e he := by
    obtain rfl : d = e := Option.some.inj he
    exact opensSession_put.mpr hu

end facts

section logins

variable {ι : Type} {id : Id} {strict : Prop}

def claims (id : Id) (c : Commit ι Row) : Bool :=
  (c.before (.loginTransaction id)).any (fun t : LoginTransaction => t.status = .pending) &&
    (c.after (.loginTransaction id)).any (fun t : LoginTransaction => t.status = .processing)

-- The callbacks that have claimed the transaction, in order.
def claimers (id : Id) (tr : List (Commit ι Row)) : List ι := (tr.filter (claims id)).map Commit.thread

structure Sound (id : Id) (strict : Prop) (claimed : List ι) (c : Commit ι Row) : Prop where
  kept : ∀ t t' : LoginTransaction, c.before (.loginTransaction id) = some t →
    c.after (.loginTransaction id) = some t' → ∀ d, t.completedSessionId = some d →
      t'.completedSessionId = some d
  final : strict → ∀ t t' : LoginTransaction, c.before (.loginTransaction id) = some t →
    c.after (.loginTransaction id) = some t' → t.status = .completed ∨ t.status = .rejected →
      t'.status = t.status
  own : strict → ∀ t t' : LoginTransaction, c.before (.loginTransaction id) = some t →
    c.after (.loginTransaction id) = some t' → t.status = .processing → t'.status ≠ .processing →
      c.thread ∈ claimed

structure Logins (id : Id) (strict : Prop) (st : Progress ι) (tr : List (Commit ι Row))
    (ph : ι → CallbackPhase) (pd : ι → Pending Row) (w : World) : Prop where
  phase : ∀ i, st.At i (ph i)
  facts : ∀ i, Fact id strict (ph i) (pd i) w.db
  row : ∃ t, w.db (.loginTransaction id) = some t ∧ st.RowAt strict t
  claimed : claimers id tr = st.claimers
  issues : ∀ c ∈ tr, ∀ e, OpensSession c.pend e → st.session = some e
  issued : ∀ d, st.session = some d → ∃ c ∈ tr, OpensSession c.pend d
  sound : ∀ c ∈ tr, Sound id strict st.claimers c

theorem Sound.mono {claimed claimed' : List ι} {c : Commit ι Row} (h : Sound id strict claimed c)
    (hsub : ∀ i ∈ claimed, i ∈ claimed') : Sound id strict claimed' c :=
  ⟨h.kept,h.final,fun hs t t' ht ht' hp hn => hsub _ (h.own hs t t' ht ht' hp hn)⟩

namespace Progress

def Inside : CallbackPhase → Prop
  | .claimed | .holder | .overtaken | .rejecting | .issuing _ | .completing _ => True
  | _ => False

theorem At.held_of {st : Progress ι} {i : ι} {x : CallbackPhase} (h : st.At i x) (hx : Inside x) :
    st = held i := by
  cases st with
  | free =>
    rcases h with rfl | rfl
    · exact hx.elim
    · exact hx.elim
  | held i₀ =>
    cases x with
    | outside | claiming | finished | lost => exact hx.elim
    | _ =>
      obtain rfl : i = i₀ := h
      rfl
  | refused | done =>
    cases x with
    | outside | claiming | finished | lost => exact hx.elim
    | _ => exact h.elim

theorem At.others {i₀ j : ι} {x : CallbackPhase} (h : (held i₀).At j x) (hj : j ≠ i₀) : x = .outside := by
  cases x with
  | outside => rfl
  | claiming | finished | lost => exact h.elim
  | _ => exact (hj h).elim

-- A rejection by a callback that has not claimed.
theorem RowAt.outside {st : Progress ι} {t t' : LoginTransaction} (h : st.RowAt strict t)
    (hstep : rowStep strict t t' .outside) : st.RowAt strict t' := by
  obtain ⟨hsame,hstatus⟩ := hstep
  cases st with
  | free =>
    refine ⟨hsame.trans h.1,fun hs => ?_⟩
    rcases hstatus with heq | ⟨heq,_⟩
    · rw [heq]
      exact h.2 hs
    · exact Or.inr heq
  | held i =>
    refine ⟨hsame.trans h.1,?_⟩
    rcases hstatus with heq | ⟨heq,hpending⟩
    · rw [heq]
      exact h.2
    · refine Or.inr ⟨heq,fun hs => ?_⟩
      rcases h.2 with hp | ⟨_,hns⟩
      · rw [hpending hs] at hp
        cases hp
      · exact hns hs
  | refused i =>
    refine ⟨hsame.trans h.1,?_⟩
    rcases hstatus with heq | ⟨heq,_⟩
    · exact heq.trans h.2
    · exact heq
  | done i d =>
    refine ⟨hsame.trans h.1,?_⟩
    rcases hstatus with heq | ⟨heq,hpending⟩
    · rw [heq]
      exact h.2
    · refine Or.inr ⟨heq,fun hs => ?_⟩
      rcases h.2 with hp | ⟨_,hns⟩
      · rw [hpending hs] at hp
        cases hp
      · exact hns hs

end Progress

section updates

variable [DecidableEq ι] {st : Progress ι} {tr : List (Commit ι Row)} {ph : ι → CallbackPhase}
  {pd : ι → Pending Row} {w : World} {i : ι} {y : CallbackPhase}

theorem update_facts {p : Pending Row} {db : Db} (h : ∀ j, Fact id strict (ph j) (pd j) db)
    (hi : Fact id strict y p db) (j : ι) :
    Fact id strict (Function.update ph i y j) (Function.update pd i p j) db := by
  by_cases hj : j = i
  · subst hj
    simpa using hi
  · simpa [hj] using h j

theorem update_phases {st' : Progress ι} (h : ∀ j, j ≠ i → st'.At j (ph j)) (hi : st'.At i y) (j : ι) :
    st'.At j (Function.update ph i y j) := by
  by_cases hj : j = i
  · subst hj
    simpa using hi
  · simpa [hj] using h j hj

-- A write that leaves the login where it is.
theorem Logins.write (h : Logins id strict st tr ph pd w) {p : Pending Row} (hy : st.At i y)
    (hp : Fact id strict y p w.db) :
    Logins id strict st tr (Function.update ph i y) (Function.update pd i p) w where
  phase := update_phases (fun j _ => h.phase j) hy
  facts := update_facts h.facts hp
  row := h.row
  claimed := h.claimed
  issues := h.issues
  issued := h.issued
  sound := h.sound

theorem Logins.turn (h : Logins id strict st tr ph pd w) (hy : st.At i y)
    (hp : Fact id strict y (pd i) w.db) : Logins id strict st tr (Function.update ph i y) pd w := by
  have hw := h.write hy hp
  rwa [Function.update_eq_self] at hw

theorem Logins.committed (h : Logins id strict st tr ph pd w) (ha : Apart pd) {st' : Progress ι}
    {t t' : LoginTransaction} (ht : w.db (.loginTransaction id) = some t)
    (ht' : (pd i).view w.db (.loginTransaction id) = some t')
    (hothers : ∀ j, j ≠ i → st'.At j (ph j)) (hy : st'.At i y)
    (hempty : Fact id strict y Pending.empty ((pd i).view w.db)) (hrow : st'.RowAt strict t')
    (hclaimers : st'.claimers = st.claimers ++ if t.status = .pending ∧ t'.status = .processing then [i] else [])
    (hnew : ∀ e, opened (ph i) = some e → st'.session = some e)
    (hold : ∀ e, st.session = some e → st'.session = some e)
    (hfrom : ∀ d, st'.session = some d → opened (ph i) = some d ∨ st.session = some d)
    (hsound : Sound id strict st'.claimers ⟨i,pd i,w.db⟩) :
    Logins id strict st' (tr ++ [⟨i,pd i,w.db⟩]) (Function.update ph i y)
      (Function.update pd i Pending.empty) ⟨(pd i).view w.db,w.next⟩ where
  phase := update_phases hothers hy
  facts := by
    intro j
    by_cases hj : j = i
    · subst hj
      simpa using hempty
    · rw [Function.update_of_ne hj,Function.update_of_ne hj]
      refine (h.facts j).commit fun hne => ?_
      have hfree : pd i (.loginTransaction id) = none := ha j i _ hj hne
      exact Pending.view_of_none hfree w.db
  row := ⟨t',ht',hrow⟩
  claimed := by
    have hclaims : claims id (⟨i,pd i,w.db⟩ : Commit ι Row) =
        decide (t.status = .pending ∧ t'.status = .processing) := by
      simp [claims,Commit.after,ht,ht']
    rw [claimers,List.filter_append,List.map_append,← claimers,h.claimed,hclaimers]
    congr 1
    simp only [List.filter_cons,List.filter_nil,hclaims,decide_eq_true_eq]
    split <;> rfl
  issues := by
    intro c hc e he
    rcases List.mem_append.mp hc with hc | hc
    · exact hold e (h.issues c hc e he)
    · obtain rfl := List.mem_singleton.mp hc
      exact hnew e ((h.facts i).sessions e he)
  issued := by
    intro d hd
    rcases hfrom d hd with hi | hs
    · exact ⟨_,List.mem_append_right _ (List.mem_singleton_self _),(h.facts i).session d hi⟩
    · obtain ⟨c,hc,hopens⟩ := h.issued d hs
      exact ⟨c,List.mem_append_left _ hc,hopens⟩
  sound := by
    intro c hc
    rcases List.mem_append.mp hc with hc | hc
    · refine (h.sound c hc).mono fun j hj => ?_
      rw [hclaimers]
      exact List.mem_append_left _ hj
    · obtain rfl := List.mem_singleton.mp hc
      exact hsound

def freshRejection (id : Id) (strict : Prop) (providerError : Bool) :
    ∀ k : Key, Row k → Row k → Row k → Prop
  | .loginTransaction d, some (l : LoginTransaction), _ => fun v => strict → d = id →
      l.status = .pending ∨ providerError = true → ∀ c : LoginTransaction, v = some c → c.status = .pending
  | _, _, _ => fun _ => True

variable {providerError : ι → Bool}

theorem logins_learn (h : Logins id strict st tr ph pd w)
    (hlearn : (loginCourse id (providerError i)).learn (ph i) ((pd i).view w.db) w.next y) :
    Logins id strict st tr (Function.update ph i y) pd w := by
  obtain ⟨hph,hfound⟩ := hlearn
  have hat := h.phase i
  have hfact := h.facts i
  rw [hph] at hat hfact
  obtain rfl := hat.held_of trivial
  obtain ⟨t,ht,hrow⟩ := h.row
  have hnone := hfact.unwritten fun _ _ hstep => hstep
  have hview : (pd i).view w.db (.loginTransaction id) = some t := by rw [Pending.view_of_none hnone,ht]
  rcases hfound with ⟨_,rfl⟩ | ⟨_,rfl⟩ | ⟨hprocessing,hrejected,_⟩
  · exact h.turn rfl (hfact.phase hnone (fun hw => hw) rfl)
  · exact h.turn rfl (hfact.phase hnone (fun hw => hw) rfl)
  · rcases hrow.2 with hs | ⟨hs,_⟩
    · exact (hprocessing ⟨t,hview,hrow.1,hs⟩).elim
    · exact (hrejected ⟨t,hview,hrow.1,hs⟩).elim

omit [DecidableEq ι] in
theorem claim_free (h : Logins id strict st tr ph pd w) (hph : ph i = .outside)
    {t : LoginTransaction} (ht : (pd i).view w.db (.loginTransaction id) = some t)
    (hpending : t.status = .pending) : st = .free ∧ ∃ t₀ : LoginTransaction,
      w.db (.loginTransaction id) = some t₀ ∧ rowStep strict t₀ t.process .claiming := by
  obtain ⟨t₀,ht₀,hrow⟩ := h.row
  have hfact := h.facts i
  rw [hph] at hfact
  obtain ⟨t',ht',hout⟩ := hfact.outsideView ht₀
  obtain rfl : t = t' := Option.some.inj (ht.symm.trans ht')
  have hstatus : t₀.status = .pending := by
    rcases hout.2 with heq | ⟨heq,_⟩
    · exact heq.symm.trans hpending
    · rw [hpending] at heq
      cases heq
  refine ⟨?_,t₀,ht₀,hout.1,hstatus,rfl⟩
  cases st with
  | free => rfl
  | held i =>
    rcases hrow.2 with hs | ⟨hs,_⟩
    · rw [hstatus] at hs
      cases hs
    · rw [hstatus] at hs
      cases hs
  | refused i =>
    have hs := hrow.2
    rw [hstatus] at hs
    cases hs
  | done i d =>
    rcases hrow.2 with hs | ⟨hs,_⟩
    · rw [hstatus] at hs
      cases hs
    · rw [hstatus] at hs
      cases hs

theorem logins_update (h : Logins id strict st tr ph pd w) {k : Key} {g : Row k → Bool} {s : Row k → Row k}
    (hup : (loginCourse id (providerError i)).update (ph i) k g s y)
    (hg : g ((pd i).view w.db k) = true) :
    Logins id strict st tr (Function.update ph i y)
      (Function.update pd i ((pd i).put k (w.db k) (s ((pd i).view w.db k)))) w := by
  have hat := h.phase i
  have hfact := h.facts i
  -- A statement of a callback that has claimed calls the provider, revokes sessions or opens one.
  have hclaimed (x : CallbackPhase) (hx : x = .holder ∨ x = .overtaken) (hph : ph i = x)
      (hk : k = .provider ∧ y = x ∨
        (∃ d, k = .deviceSession d) ∧ y = x ∧ (∀ v, Rejects k v (s v)) ∨
        ∃ d, k = .deviceSession d ∧ y = .issuing d ∧ ∀ v, g v = true → Opens k v (s v)) :
      Logins id strict st tr (Function.update ph i y)
        (Function.update pd i ((pd i).put k (w.db k) (s ((pd i).view w.db k)))) w := by
    rw [hph] at hat hfact
    have hheld : st = .held i := by
      rcases hx with rfl | rfl
      · exact hat.held_of trivial
      · exact hat.held_of trivial
    have hnone : (pd i) (.loginTransaction id) = none := by
      rcases hx with rfl | rfl
      · exact hfact.unwritten fun _ _ hstep => hstep
      · exact hfact.unwritten fun _ _ hstep => hstep
    have hopened : opened x = none := by rcases hx with rfl | rfl <;> rfl
    rcases hk with ⟨rfl,rfl⟩ | ⟨⟨d,rfl⟩,rfl,hrejects⟩ | ⟨d,rfl,rfl,hopen⟩
    · exact h.write hat (hfact.putOther (fun hk => by cases hk) fun _ hk => by cases hk)
    · exact h.write hat (hfact.putDead (hrejects _) hopened)
    · subst hheld
      exact h.write rfl (hfact.putOpen hnone (hopen _ hg) hopened)
  cases hph : ph i with
  | outside =>
    rw [hph] at hup hfact
    obtain ⟨rfl,rfl,hclaim⟩ := hup
    obtain ⟨t,ht,hpending,hu⟩ := hclaim _ hg
    obtain ⟨rfl,t₀,ht₀,hstep⟩ := claim_free h hph ht hpending
    exact h.write (Or.inr rfl) (hfact.putRow ht₀ hu hstep rfl)
  | holder =>
    rw [hph] at hup
    exact hclaimed .holder (Or.inl rfl) hph hup
  | overtaken =>
    rw [hph] at hup
    exact hclaimed .overtaken (Or.inr rfl) hph hup
  | lost =>
    rw [hph] at hat
    cases st with
    | free => rcases hat with hx | hx <;> cases hx
    | _ => exact hat.elim
  | _ =>
    rw [hph] at hup
    exact hup.elim

omit [DecidableEq ι] in
theorem outside_again {t₀ t t' : LoginTransaction} (h : rowStep strict t₀ t .outside)
    (hcompleted : t'.completedSessionId = t.completedSessionId)
    (hstatus : t'.status = t.status ∨ t'.status = .rejected) (hfresh : strict → t.status = .pending) :
    rowStep strict t₀ t' .outside := by
  refine ⟨hcompleted.trans h.1,?_⟩
  rcases hstatus with heq | heq
  · rw [heq]
    exact h.2
  · refine Or.inr ⟨heq,fun hs => ?_⟩
    rcases h.2 with hsame | ⟨_,hpending⟩
    · exact hsame.symm.trans (hfresh hs)
    · exact hpending hs

theorem logins_flush (h : Logins id strict st tr ph pd w) {k : Key} {l n : Row k}
    (hflush : (loginCourse id (providerError i)).flush (ph i) k l n y)
    (hfresh : freshRejection id strict (providerError i) k l n ((pd i).view w.db k)) :
    Logins id strict st tr (Function.update ph i y)
      (Function.update pd i ((pd i).put k l (Schema.merge k l n ((pd i).view w.db k)))) w := by
  have hat := h.phase i
  have hfact := h.facts i
  obtain ⟨t,ht,_⟩ := h.row
  cases hph : ph i with
  | outside =>
    rw [hph] at hflush hfact hat
    obtain ⟨rfl,hloaded,hrejects⟩ := hflush
    refine h.write hat ?_
    cases k with
    | loginTransaction d =>
      by_cases hd : d = id
      · subst hd
        cases l with
        | none => exact hloaded.elim
        | some l =>
          obtain ⟨c,hc,hout⟩ := hfact.outsideView ht
          obtain ⟨t',hu,hcompleted,hstatus⟩ := hrejects _ c hc
          exact hfact.putRow ht hu
            (outside_again hout hcompleted hstatus fun hs => hfresh hs rfl hloaded c hc) rfl
      · exact hfact.putOther (fun hk => hd (by cases hk; rfl)) fun _ hk => by cases hk
    | deviceSession d => exact hfact.putDead (hrejects _) rfl
    | provider => exact (hrejects ((pd i).view w.db .provider)).elim
  | holder =>
    rw [hph] at hflush hfact hat
    rcases hflush with ⟨⟨d,rfl⟩,rfl,hrejects⟩ | ⟨rfl,rfl,hends⟩
    · exact h.write hat (hfact.putDead (hrejects _) rfl)
    · obtain ⟨t',hu,hcompleted,hstatus⟩ := hends _ t (hfact.unwrittenView (fun _ _ hstep => hstep) ht)
      obtain rfl := hat.held_of trivial
      exact h.write rfl (hfact.putRow ht hu ⟨hcompleted,hstatus⟩ rfl)
  | overtaken =>
    rw [hph] at hflush hfact hat
    obtain ⟨⟨d,rfl⟩,rfl,hrejects⟩ := hflush
    exact h.write hat (hfact.putDead (hrejects _) rfl)
  | issuing d =>
    rw [hph] at hflush hfact hat
    obtain ⟨rfl,rfl,hends⟩ := hflush
    obtain ⟨t',hu,hcompleted,hstatus⟩ := hends _ t (hfact.unwrittenView (fun _ _ hstep => hstep) ht)
    obtain rfl := hat.held_of trivial
    exact h.write rfl (hfact.putRow ht hu ⟨hcompleted,hstatus⟩ rfl)
  | lost =>
    rw [hph] at hat
    cases st with
    | free => rcases hat with hx | hx <;> cases hx
    | _ => exact hat.elim
  | _ =>
    rw [hph] at hflush
    exact hflush.elim

omit [DecidableEq ι] in
-- A commit that changes of the transaction at most what a rejection from outside changes.
theorem sound_outside {c : Commit ι Row} {t t' : LoginTransaction} {claimed : List ι}
    (ht : c.before (.loginTransaction id) = some t) (ht' : c.after (.loginTransaction id) = some t')
    (hstep : rowStep strict t t' .outside) : Sound id strict claimed c where
  kept u u' hu hu' d hd := by
    obtain rfl : t = u := Option.some.inj (ht.symm.trans hu)
    obtain rfl : t' = u' := Option.some.inj (ht'.symm.trans hu')
    exact hstep.1.trans hd
  final hs u u' hu hu' hend := by
    obtain rfl : t = u := Option.some.inj (ht.symm.trans hu)
    obtain rfl : t' = u' := Option.some.inj (ht'.symm.trans hu')
    rcases hstep.2 with heq | ⟨_,hpending⟩
    · exact heq
    · rw [hpending hs] at hend
      rcases hend with hx | hx <;> cases hx
  own hs u u' hu hu' hprocessing hne := by
    obtain rfl : t = u := Option.some.inj (ht.symm.trans hu)
    obtain rfl : t' = u' := Option.some.inj (ht'.symm.trans hu')
    rcases hstep.2 with heq | ⟨_,hpending⟩
    · exact (hne (heq.trans hprocessing)).elim
    · rw [hpending hs] at hprocessing
      cases hprocessing

omit [DecidableEq ι] in
-- A commit of the callback that has claimed.
theorem sound_own {c : Commit ι Row} {t : LoginTransaction} {claimed : List ι}
    (ht : c.before (.loginTransaction id) = some t) (hnone : t.completedSessionId = none)
    (hstatus : strict → t.status = .pending ∨ t.status = .processing) (hown : c.thread ∈ claimed) :
    Sound id strict claimed c where
  kept u u' hu _ d hd := by
    obtain rfl : t = u := Option.some.inj (ht.symm.trans hu)
    rw [hnone] at hd
    cases hd
  final hs u u' hu _ hend := by
    obtain rfl : t = u := Option.some.inj (ht.symm.trans hu)
    rcases hstatus hs with hx | hx <;> rw [hx] at hend <;> rcases hend with hy | hy <;> cases hy
  own _ _ _ _ _ _ _ := hown

omit [DecidableEq ι] in
theorem Progress.RowAt.unsettled {t : LoginTransaction} {i : ι} (h : (Progress.held i).RowAt strict t) :
    t.status ≠ .pending ∧ (strict → t.status = .pending ∨ t.status = .processing) := by
  rcases h.2 with hs | ⟨hs,hns⟩
  · exact ⟨by rw [hs]; decide,fun _ => Or.inr hs⟩
  · exact ⟨by rw [hs]; decide,fun hstrict => (hns hstrict).elim⟩

-- After a commit of the callback i that puts it in y.
def Committed (id : Id) (strict : Prop) (tr : List (Commit ι Row)) (ph : ι → CallbackPhase)
    (pd : ι → Pending Row) (w : World) (i : ι) (y : CallbackPhase) : Prop :=
  ∃ st, Logins id strict st (tr ++ [⟨i,pd i,w.db⟩]) (Function.update ph i y)
    (Function.update pd i Pending.empty) ⟨(pd i).view w.db,w.next⟩

theorem commit_outside (h : Logins id strict st tr ph pd w) (ha : Apart pd) (hph : ph i = .outside) :
    Committed id strict tr ph pd w i .outside := by
  have hat := h.phase i
  have hfact := h.facts i
  rw [hph] at hfact hat
  obtain ⟨t,ht,hrow⟩ := h.row
  obtain ⟨t',ht',hout⟩ := hfact.outsideView ht
  have hnot : ¬ (t.status = .pending ∧ t'.status = .processing) := by
    rintro ⟨hp,hq⟩
    rcases hout.2 with heq | ⟨heq,_⟩
    · rw [heq,hp] at hq
      cases hq
    · rw [heq] at hq
      cases hq
  refine ⟨st,h.committed ha ht ht' (fun j _ => h.phase j) hat (.empty (fun hw => hw) rfl)
    (hrow.outside hout) ?_ ?_ (fun _ he => he) (fun _ hd => Or.inr hd) (sound_outside ht ht' hout)⟩
  · rw [if_neg hnot,List.append_nil]
  · intro e he
    rw [hph] at he
    cases he

theorem commit_claiming (h : Logins id strict st tr ph pd w) (ha : Apart pd) (hph : ph i = .claiming) :
    Committed id strict tr ph pd w i .claimed := by
  have hat := h.phase i
  have hfact := h.facts i
  rw [hph] at hfact hat
  obtain ⟨t,ht,hrow⟩ := h.row
  obtain ⟨t',ht',hcompleted,hpending,hprocessing⟩ := hfact.writtenView trivial ht
  have hwritten := hfact.written trivial
  cases st with
  | free =>
    refine ⟨.held i,h.committed ha ht ht' (fun j hj => ?_) rfl (.empty (fun hw => hw) rfl)
      ⟨hcompleted.trans hrow.1,Or.inl hprocessing⟩ ?_ ?_ (fun _ he => by cases he)
      (fun _ hd => by cases hd) (sound_own ht hrow.1 (fun _ => Or.inl hpending) ?_)⟩
    · rcases h.phase j with hx | hx
      · rw [hx]
        exact hj
      · have hfree := ha i j (.loginTransaction id) (Ne.symm hj) hwritten
        have hmust := (h.facts j).written (by rw [hx]; trivial)
        exact (hmust hfree).elim
    · rw [if_pos ⟨hpending,hprocessing⟩]
      rfl
    · intro e he
      rw [hph] at he
      cases he
    · exact List.mem_singleton_self i
  | _ => exact hat.elim

-- The callback that has claimed commits nothing of its transaction.
theorem commit_still {x : CallbackPhase} (h : Logins id strict st tr ph pd w) (ha : Apart pd)
    (hph : ph i = x) (hx : x = .holder ∨ x = .overtaken)
    (hy : y = .holder ∨ y = .overtaken ∨ y = .claimed) : Committed id strict tr ph pd w i y := by
  have hat := h.phase i
  have hfact := h.facts i
  rw [hph] at hat hfact
  obtain rfl : st = .held i := by
    rcases hx with rfl | rfl
    · exact hat.held_of trivial
    · exact hat.held_of trivial
  obtain ⟨t,ht,hrow⟩ := h.row
  have hview : (pd i).view w.db (.loginTransaction id) = some t := by
    rcases hx with rfl | rfl
    · exact hfact.unwrittenView (fun _ _ hstep => hstep) ht
    · exact hfact.unwrittenView (fun _ _ hstep => hstep) ht
  have hyat : (Progress.held i).At i y := by rcases hy with rfl | rfl | rfl <;> rfl
  have hempty : Fact id strict y Pending.empty ((pd i).view w.db) := by
    rcases hy with rfl | rfl | rfl <;> exact .empty (fun hw => hw) rfl
  refine ⟨.held i,h.committed ha ht hview (fun j _ => h.phase j) hyat hempty hrow ?_ ?_
    (fun _ he => he) (fun _ hd => Or.inr hd) (sound_outside ht hview (rowStep_refl t))⟩
  · rw [if_neg (fun hp => hrow.unsettled.1 hp.1),List.append_nil]
  · intro e he
    rw [hph] at he
    rcases hx with rfl | rfl <;> cases he

theorem commit_rejecting (h : Logins id strict st tr ph pd w) (ha : Apart pd) (hph : ph i = .rejecting) :
    Committed id strict tr ph pd w i .finished := by
  have hat := h.phase i
  have hfact := h.facts i
  rw [hph] at hfact hat
  obtain rfl := hat.held_of trivial
  obtain ⟨t,ht,hrow⟩ := h.row
  obtain ⟨t',ht',hcompleted,hrejected⟩ := hfact.writtenView trivial ht
  refine ⟨.refused i,h.committed ha ht ht' (fun j hj => ?_) rfl (.empty (fun hw => hw) rfl)
    ⟨hcompleted.trans hrow.1,hrejected⟩ ?_ ?_ (fun _ he => by cases he)
    (fun _ hd => by cases hd) (sound_own ht hrow.1 hrow.unsettled.2 (List.mem_singleton_self i))⟩
  · rw [(h.phase j).others hj]
    exact hj
  · rw [if_neg (fun hp => hrow.unsettled.1 hp.1),List.append_nil]
    rfl
  · intro e he
    rw [hph] at he
    cases he

theorem commit_completing {d : Id} (h : Logins id strict st tr ph pd w) (ha : Apart pd)
    (hph : ph i = .completing d) : Committed id strict tr ph pd w i .finished := by
  have hat := h.phase i
  have hfact := h.facts i
  rw [hph] at hfact hat
  obtain rfl := hat.held_of trivial
  obtain ⟨t,ht,hrow⟩ := h.row
  obtain ⟨t',ht',hcompleted,hstatus⟩ := hfact.writtenView trivial ht
  refine ⟨.done i d,h.committed ha ht ht' (fun j hj => ?_) rfl (.empty (fun hw => hw) rfl)
    ⟨hcompleted,Or.inl hstatus⟩ ?_ ?_ (fun _ he => by cases he)
    (fun e he => Or.inl (by rw [hph]; exact he))
    (sound_own ht hrow.1 hrow.unsettled.2 (List.mem_singleton_self i))⟩
  · rw [(h.phase j).others hj]
    exact hj
  · rw [if_neg (fun hp => hrow.unsettled.1 hp.1),List.append_nil]
    rfl
  · intro e he
    rw [hph] at he
    exact he

theorem logins_commit (h : Logins id strict st tr ph pd w) (ha : Apart pd)
    (hcommit : (loginCourse id (providerError i)).commit (ph i) y) :
    Committed id strict tr ph pd w i y := by
  cases hph : ph i with
  | outside =>
    rw [hph] at hcommit
    obtain rfl : y = .outside := hcommit
    exact commit_outside h ha hph
  | claiming =>
    rw [hph] at hcommit
    obtain rfl : y = .claimed := hcommit
    exact commit_claiming h ha hph
  | holder =>
    rw [hph] at hcommit
    refine commit_still h ha hph (Or.inl rfl) ?_
    rcases hcommit with rfl | rfl
    · exact Or.inl rfl
    · exact Or.inr (Or.inr rfl)
  | overtaken =>
    rw [hph] at hcommit
    exact commit_still h ha hph (Or.inr rfl) (Or.inr hcommit)
  | rejecting =>
    rw [hph] at hcommit
    obtain rfl : y = .finished := hcommit
    exact commit_rejecting h ha hph
  | completing d =>
    rw [hph] at hcommit
    obtain rfl : y = .finished := hcommit
    exact commit_completing h ha hph
  | lost =>
    have hat := h.phase i
    rw [hph] at hat
    cases st with
    | free => rcases hat with hx | hx <;> cases hx
    | _ => exact hat.elim
  | _ =>
    rw [hph] at hcommit
    exact hcommit.elim

theorem logins_rollback (h : Logins id strict st tr ph pd w)
    (hroll : (loginCourse id (providerError i)).rollback (ph i) y) :
    Logins id strict st tr (Function.update ph i y) (Function.update pd i Pending.empty) w := by
  have hat := h.phase i
  cases hph : ph i with
  | outside =>
    rw [hph] at hroll hat
    obtain rfl : y = .outside := hroll
    exact h.write hat (.empty (fun hw => hw) rfl)
  | holder | overtaken | issuing | completing =>
    rw [hph] at hroll hat
    obtain rfl : y = .claimed := hroll
    obtain rfl := hat.held_of trivial
    exact h.write rfl (.empty (fun hw => hw) rfl)
  | lost =>
    rw [hph] at hat
    cases st with
    | free => rcases hat with hx | hx <;> cases hx
    | _ => exact hat.elim
  | _ =>
    rw [hph] at hroll
    exact hroll.elim

theorem logins_stop (h : Logins id strict st tr ph pd w) (i : ι) : ∃ y,
    Logins id strict st tr (Function.update ph i y) (Function.update pd i Pending.empty) w := by
  have hat := h.phase i
  cases hph : ph i with
  | outside =>
    rw [hph] at hat
    exact ⟨.outside,h.write hat (.empty (fun hw => hw) rfl)⟩
  | claiming =>
    rw [hph] at hat
    cases st with
    | free => exact ⟨.outside,h.write (Or.inl rfl) (.empty (fun hw => hw) rfl)⟩
    | _ => exact hat.elim
  | finished =>
    rw [hph] at hat
    exact ⟨.finished,h.write hat (.empty (fun hw => hw) rfl)⟩
  | lost =>
    rw [hph] at hat
    cases st with
    | free => rcases hat with hx | hx <;> cases hx
    | _ => exact hat.elim
  | _ =>
    rw [hph] at hat
    obtain rfl := hat.held_of trivial
    exact ⟨.claimed,h.write rfl (.empty (fun hw => hw) rfl)⟩

theorem logins_annotated (strict : Prop) (providerError : ι → Bool) :
    Annotated (fun i => loginCourse id (providerError i)) (fun i => freshRejection id strict (providerError i))
      fun tr ph pd w => ∃ st, Logins id strict st tr ph pd w where
  bump := by
    rintro tr ph pd w ⟨st,h⟩
    exact ⟨st,h.phase,h.facts,h.row,h.claimed,h.issues,h.issued,h.sound⟩
  learn := by
    rintro tr ph pd w i y ⟨st,h⟩ hlearn
    exact ⟨st,logins_learn h hlearn⟩
  number _ hnumber := hnumber.elim
  update := by
    rintro tr ph pd w i y k g s ⟨st,h⟩ _ _ hup hg
    exact ⟨st,logins_update h hup hg⟩
  flush := by
    rintro tr ph pd w i y k l n ⟨st,h⟩ _ _ hflush _ hfresh
    exact ⟨st,logins_flush h hflush hfresh⟩
  commit := by
    rintro tr ph pd w i y ⟨st,h⟩ ha hcommit
    exact logins_commit h ha hcommit
  rollback := by
    rintro tr ph pd w i y ⟨st,h⟩ hroll
    exact ⟨st,logins_rollback h hroll⟩
  stop := by
    rintro tr ph pd w i ⟨st,h⟩
    obtain ⟨y,hy⟩ := logins_stop h i
    exact ⟨y,st,hy⟩
  miss _ hmiss := hmiss.elim
  skip _ hskip := hskip.elim

end updates

end logins

end AiScdc.Login
