import AiScdc.Identity.StatusChecks

namespace AiScdc.Identity
open Transaction

def tokenOf (row : Option ExternalIdentity) : Option Id := row.bind ExternalIdentity.statusCheckToken

-- The identity is disabled or missing, and only a controlled restoration makes it active again.
def awaitsRestoration (row : Option ExternalIdentity) : Prop :=
  ∃ i, row = some i ∧ i.status.controlledRestoration = true

def Tied (row : Option ExternalIdentity) : Prop := awaitsRestoration row → tokenOf row = none

-- A login that loaded the identity with no token records it disabled or missing only where no status
-- check has claimed it since.
def checkFresh : ∀ k : Key, Row k → Row k → Row k → Bool
  | .externalIdentity _, some l, some n, some c =>
    (l : ExternalIdentity).statusCheckToken.isSome ||
      (n : ExternalIdentity).status = (l : ExternalIdentity).status ||
        (c : ExternalIdentity).statusCheckToken.isNone
  | _, _, _, _ => true

def checksFresh {ι : Type} (g : Global ι Row Time Exn) (i : ι) : Bool :=
  match (g.thread i).prog with
  | .flush key l n _ => checkFresh key l n (g.view i key)
  | _ => true

-- What a transaction in a phase leaves of an identity that it has written.
def Kept : CheckPhase → Option ExternalIdentity → Option ExternalIdentity → Prop
  | .login, v, u => (Tied v → Tied u) ∧ (awaitsRestoration v → awaitsRestoration u) ∧
      ∀ token, tokenOf u = some token → tokenOf v = some token
  | .restoring, _, u => tokenOf u = none
  | .idle, _, _ => False
  | .claiming token, v, u => ¬ awaitsRestoration v ∧ ¬ awaitsRestoration u ∧ tokenOf u = some token
  | .checking token, v, u => tokenOf v = some token ∧ tokenOf u = none

def kept (x : CheckPhase) : ∀ k : Key, Row k → Row k → Row k → Prop
  | .externalIdentity _, _, v, u => Kept x v u
  | .deviceSession _, _, _, _ => True

section steps

variable {x : CheckPhase} {v u : Option ExternalIdentity}

theorem not_awaits_active {i : ExternalIdentity} (h : i.status = .active) :
    ¬ awaitsRestoration (some i) := by
  rintro ⟨j,hj,hs⟩
  cases hj
  simp [h,Status.controlledRestoration] at hs

theorem any_some {g : ExternalIdentity → Bool} (h : u.any g = true) : ∃ i, u = some i ∧ g i = true := by
  cases u with
  | none => simp at h
  | some i => exact ⟨i,rfl,h⟩

theorem tokenOf_some {i : ExternalIdentity} : tokenOf (some i) = i.statusCheckToken := rfl

theorem awaits_some {i : ExternalIdentity} :
    awaitsRestoration (some i) ↔ i.status.controlledRestoration = true :=
  ⟨fun ⟨_,hj,hs⟩ => by cases hj; exact hs,fun h => ⟨i,rfl,h⟩⟩

theorem kept_update {id : Id} {g : Row (.externalIdentity id) → Bool}
    {s : Row (.externalIdentity id) → Row (.externalIdentity id)}
    (h : CheckUpdate x (.externalIdentity id) g s) (hg : g u = true) (hu : u = v ∨ Kept x v u) :
    Kept x v (s u) := by
  cases h with
  | create id row ht hs =>
    have hnone : u = none := by simpa using hg
    have hv : ¬ awaitsRestoration v := by
      intro ha
      rcases hu with rfl | ⟨_,hk,_⟩
      · rw [hnone] at ha
        obtain ⟨i,hi,_⟩ := ha
        cases hi
      · obtain ⟨i,hi,_⟩ := hk ha
        rw [hnone] at hi
        cases hi
    exact ⟨fun _ _ => ht,fun ha => (hv ha).elim,fun token htok => by simp [tokenOf,ht] at htok⟩
  | claim token id userId dueBefore checkedAt =>
    obtain ⟨i,rfl,hi⟩ := any_some hg
    simp only [dueForCheck,Bool.and_eq_true,decide_eq_true_eq] at hi
    have hv : ¬ awaitsRestoration v := by
      rcases hu with rfl | ⟨hv,_⟩
      · exact not_awaits_active hi.1.2
      · exact hv
    exact ⟨hv,not_awaits_active hi.1.2,rfl⟩
  | fail token id =>
    obtain ⟨i,rfl,hi⟩ := any_some hg
    rcases hu with rfl | ⟨_,hnone⟩
    · exact ⟨of_decide_eq_true hi,rfl⟩
    · rw [tokenOf_some] at hnone
      simp [hnone] at hi
  | apply token id localStatus confirmedStatus confirmedAt =>
    obtain ⟨i,rfl,hi⟩ := any_some hg
    rcases hu with rfl | ⟨_,hnone⟩
    · exact ⟨of_decide_eq_true hi,rfl⟩
    · rw [tokenOf_some] at hnone
      simp [hnone] at hi
  | restore id now =>
    obtain ⟨i,rfl,hi⟩ := any_some hg
    rfl

theorem recorded_status (l c : ExternalIdentity) (s : Status) (now : Time) :
    (l.flush (l.recorded s now) c).status = c.status ∨
      (l.recorded s now).status ≠ l.status ∧
        (l.flush (l.recorded s now) c).status.controlledRestoration = true := by
  by_cases hn : (l.recorded s now).status = l.status
  · left
    simp [ExternalIdentity.flush,hn]
  · right
    refine ⟨hn,?_⟩
    have hc : s.controlledRestoration = true := by
      by_contra hc
      simp [ExternalIdentity.recorded,hc] at hn
    have hs : (l.recorded s now).status = s := by simp [ExternalIdentity.recorded,hc]
    show (pick l.status (l.recorded s now).status c.status).controlledRestoration = true
    rw [pick,if_neg hn,hs]
    exact hc

theorem recorded_token {l c : ExternalIdentity} {s : Status} {now : Time} {token : Id}
    (h : (l.flush (l.recorded s now) c).statusCheckToken = some token) :
    l.statusCheckToken = none ∧ c.statusCheckToken = some token := by
  have h' : pick l.statusCheckToken none c.statusCheckToken = some token := h
  unfold pick at h'
  split at h'
  · rename_i hl
    exact ⟨hl.symm,h'⟩
  · cases h'

theorem recorded_flush {l c : ExternalIdentity} {s : Status} {now : Time} {id : Id}
    (hf : checkFresh (.externalIdentity id) (some l) (some (l.recorded s now)) (some c) = true) :
    (Tied (some c) → Tied (some (l.flush (l.recorded s now) c))) ∧
      (awaitsRestoration (some c) → awaitsRestoration (some (l.flush (l.recorded s now) c))) ∧
      ∀ token, tokenOf (some (l.flush (l.recorded s now) c)) = some token → tokenOf (some c) = some token := by
  refine ⟨fun ht ha => ?_,fun ha => ?_,fun token htok => (recorded_token htok).2⟩
  · cases htok : tokenOf (some (l.flush (l.recorded s now) c)) with
    | none => rfl
    | some token =>
      obtain ⟨hl,hc⟩ := recorded_token htok
      simp only [checkFresh,hl,hc,Option.isSome_none,Option.isNone_some,Bool.false_or,Bool.or_false,
        decide_eq_true_eq] at hf
      rcases recorded_status l c s now with hs | ⟨hne,_⟩
      · rw [awaits_some,hs] at ha
        have hnone := ht (awaits_some.mpr ha)
        rw [tokenOf_some,hc] at hnone
        cases hnone
      · exact (hne hf).elim
  · rw [awaits_some] at ha ⊢
    rcases recorded_status l c s now with hs | ⟨_,hs⟩
    · rwa [hs]
    · exact hs

theorem kept_flush {l : ExternalIdentity} {s : Status} {now : Time} {id : Id}
    (hf : checkFresh (.externalIdentity id) (some l) (some (l.recorded s now)) u = true)
    (hu : u = v ∨ Kept .login v u) :
    Kept .login v (mergeRows mergeEntity (.externalIdentity id) (some l) (some (l.recorded s now)) u) := by
  rw [mergeRows_some]
  cases u with
  | none =>
    rcases hu with rfl | hk
    · exact ⟨fun h => h,fun h => h,fun _ h => h⟩
    · exact hk
  | some c =>
    obtain ⟨ht,ha,hk⟩ := recorded_flush hf
    rcases hu with rfl | ⟨ht',ha',hk'⟩
    · exact ⟨ht,ha,hk⟩
    · exact ⟨fun h => ht (ht' h),fun h => ha (ha' h),fun token h => hk' token (hk token h)⟩

end steps

section invariant

variable {ι : Type}

-- The commit puts a token on the identity.
def setsToken (c : Commit ι Row) (id token : Id) : Prop :=
  tokenOf (c.after (.externalIdentity id)) = some token ∧
    tokenOf (c.before (.externalIdentity id)) ≠ some token

-- A transaction was committed in a phase of its operation, with that operation's token.
structure Done (ops : ι → IdentityOp) (ph : ι → CheckPhase) (c : Commit ι Row) (x : CheckPhase) :
    Prop where
  belongs : x.belongs (ops c.thread)
  token : x.token = none ∨ x.token = (ph c.thread).token
  kept : RowWise (kept x) c.pend c.before

structure Checks (ops : ι → IdentityOp) (tr : List (Commit ι Row)) (ph : ι → CheckPhase)
    (pd : ι → Pending Row) (w : World) : Prop where
  belongs : ∀ i, (ph i).belongs (ops i)
  fresh : ∀ i token, (ph i).token = some token → token < w.next
  apart : ∀ i j token, (ph i).token = some token → (ph j).token = some token → i = j
  early : ∀ i, (ph i).early → ∀ c ∈ tr, c.thread ≠ i
  pending : ∀ i, RowWise (kept (ph i)) (pd i) w.db
  done : ∀ c ∈ tr, ∃ x, Done ops ph c x
  once : tr.Pairwise fun c d => c.thread = d.thread → ∀ id token, ¬ setsToken d id token

variable {ops : ι → IdentityOp} {tr : List (Commit ι Row)} {ph : ι → CheckPhase}
  {pd : ι → Pending Row} {w : World}

-- What a commit in a phase does to an identity.
theorem Done.identity {c : Commit ι Row} {x : CheckPhase} (h : Done ops ph c x) (id : Id) :
    c.after (.externalIdentity id) = c.before (.externalIdentity id) ∨
      Kept x (c.before (.externalIdentity id)) (c.after (.externalIdentity id)) := by
  cases hp : c.pend (.externalIdentity id) with
  | none => exact Or.inl (Pending.view_of_none hp _)
  | some wr =>
    right
    rw [show c.after (.externalIdentity id) = _ from Pending.view_of_some hp _]
    exact h.kept (.externalIdentity id) wr hp

theorem Done.claims {c : Commit ι Row} {x : CheckPhase} (h : Done ops ph c x) {id token : Id}
    (hs : setsToken c id token) : x = .claiming token := by
  rcases h.identity id with heq | hk
  · exact (hs.2 (heq ▸ hs.1)).elim
  · cases x with
    | login => exact (hs.2 (hk.2.2 token hs.1)).elim
    | restoring =>
      have hnone : tokenOf (c.after (.externalIdentity id)) = none := hk
      have ht := hnone.symm.trans hs.1
      cases ht
    | idle => exact hk.elim
    | claiming t =>
      have ht := hk.2.2.symm.trans hs.1
      rw [Option.some.inj ht]
    | checking t =>
      have ht := hk.2.symm.trans hs.1
      cases ht

variable [DecidableEq ι]

theorem Checks.write (h : Checks ops tr ph pd w) {i : ι} {p : Pending Row}
    (hp : RowWise (kept (ph i)) p w.db) :
    Checks ops tr (Function.update ph i (ph i)) (Function.update pd i p) w := by
  rw [Function.update_eq_self]
  refine ⟨h.belongs,h.fresh,h.apart,h.early,fun j => ?_,h.done,h.once⟩
  by_cases hj : j = i
  · subst hj
    simpa using hp
  · simpa [hj] using h.pending j

omit [DecidableEq ι] in
theorem Checks.held (h : Checks ops tr ph pd w) (i : ι) (id : Id) :
    (pd i).view w.db (.externalIdentity id) = w.db (.externalIdentity id) ∨
      Kept (ph i) (w.db (.externalIdentity id)) ((pd i).view w.db (.externalIdentity id)) := by
  cases hp : pd i (.externalIdentity id) with
  | none => exact Or.inl (Pending.view_of_none hp _)
  | some wr =>
    right
    rw [Pending.view_of_some hp]
    exact h.pending i (.externalIdentity id) wr hp

theorem Checks.number (h : Checks ops tr ph pd w) {i : ι} {y : CheckPhase}
    (hy : checkCourse.number (ph i) w.next y) : Checks ops tr (Function.update ph i y) pd w.bump := by
  obtain ⟨hidle,rfl⟩ := hy
  have hphase (j : ι) : Function.update ph i (.claiming w.next) j =
      if j = i then .claiming w.next else ph j := by
    by_cases hj : j = i
    · subst hj
      simp
    · simp [hj]
  have hbelongs := h.belongs i
  have hearly := h.early i (by rw [hidle]; trivial)
  have htoken (j : ι) (token : Id)
      (hj : (Function.update ph i (.claiming w.next) j).token = some token) :
      j = i ∧ token = w.next ∨ j ≠ i ∧ (ph j).token = some token := by
    rw [hphase] at hj
    split at hj
    · rename_i he
      exact Or.inl ⟨he,(Option.some.inj hj).symm⟩
    · rename_i he
      exact Or.inr ⟨he,hj⟩
  refine ⟨fun j => ?_,fun j token hj => ?_,fun j k token hj hk => ?_,fun j hj => ?_,fun j => ?_,
    fun c hc => ?_,h.once⟩
  · rw [hphase]
    split
    · rename_i he
      subst he
      rw [hidle] at hbelongs
      revert hbelongs
      cases ops j <;> exact fun hb => hb
    · exact h.belongs j
  · rcases htoken j token hj with ⟨_,rfl⟩ | ⟨_,ht⟩
    · exact Nat.lt_succ_self _
    · exact Nat.lt_succ_of_lt (h.fresh j token ht)
  · rcases htoken j token hj with ⟨rfl,rfl⟩ | ⟨_,ht⟩
    · rcases htoken k _ hk with ⟨rfl,_⟩ | ⟨_,ht'⟩
      · rfl
      · exact (Nat.lt_irrefl _ (h.fresh k _ ht')).elim
    · rcases htoken k _ hk with ⟨rfl,rfl⟩ | ⟨_,ht'⟩
      · exact (Nat.lt_irrefl _ (h.fresh j _ ht)).elim
      · exact h.apart j k token ht ht'
  · rw [hphase] at hj
    split at hj
    · rename_i he
      subst he
      exact hearly
    · exact h.early j hj
  · rw [hphase]
    split
    · rename_i he
      subst he
      have hno := h.pending j
      rw [hidle] at hno
      intro k wr hwr
      have hk := hno k wr hwr
      cases k with
      | externalIdentity id => exact hk.elim
      | deviceSession id => trivial
    · exact h.pending j
  · obtain ⟨x,hx⟩ := h.done c hc
    refine ⟨x,hx.belongs,?_,hx.kept⟩
    rw [hphase,if_neg (hearly c hc)]
    exact hx.token

theorem Checks.commit (h : Checks ops tr ph pd w) (ha : Apart pd) {i : ι} {y : CheckPhase}
    (hy : checkCourse.commit (ph i) y) :
    Checks ops (tr ++ [⟨i,pd i,w.db⟩]) (Function.update ph i y) (Function.update pd i Pending.empty)
      ⟨(pd i).view w.db,w.next⟩ := by
  have htoken : y.token = (ph i).token := by
    rcases hy with ⟨token,hx,rfl⟩ | ⟨_,rfl⟩
    · rw [hx]
      rfl
    · rfl
  have hsame (j : ι) : (Function.update ph i y j).token = (ph j).token := by
    by_cases hj : j = i
    · subst hj
      simpa using htoken
    · simp [hj]
  have hlate : ¬ y.early := by
    rcases hy with ⟨token,_,rfl⟩ | ⟨hx,rfl⟩
    · exact fun he => he
    · exact hx
  have hnew : Done ops (Function.update ph i y) ⟨i,pd i,w.db⟩ (ph i) :=
    ⟨h.belongs i,Or.inr (hsame i).symm,h.pending i⟩
  refine ⟨fun j => ?_,fun j token hj => ?_,fun j k token hj hk => ?_,fun j hj c hc => ?_,fun j => ?_,
    fun c hc => ?_,List.pairwise_append.mpr ⟨h.once,List.pairwise_singleton _ _,?_⟩⟩
  · by_cases hj : j = i
    · subst hj
      have hb := h.belongs j
      rcases hy with ⟨token,hx,rfl⟩ | ⟨_,rfl⟩
      · rw [hx] at hb
        rw [Function.update_self]
        revert hb
        cases ops j <;> exact fun hb => hb
      · rwa [Function.update_self]
    · rw [Function.update_of_ne hj]
      exact h.belongs j
  · exact h.fresh j token ((hsame j).symm.trans hj)
  · exact h.apart j k token ((hsame j).symm.trans hj) ((hsame k).symm.trans hk)
  · by_cases hji : j = i
    · subst hji
      rw [Function.update_self] at hj
      exact (hlate hj).elim
    · rw [Function.update_of_ne hji] at hj
      rcases List.mem_append.mp hc with hc | hc
      · exact h.early j hj c hc
      · obtain rfl := List.mem_singleton.mp hc
        exact fun he => hji he.symm
  · by_cases hj : j = i
    · subst hj
      simpa using rowWise_empty
    · rw [Function.update_of_ne hj,Function.update_of_ne hj]
      exact (h.pending j).commit ha hj
  · rcases List.mem_append.mp hc with hc | hc
    · obtain ⟨x,hx⟩ := h.done c hc
      exact ⟨x,hx.belongs,hx.token.imp_right fun ht => ht.trans (hsame _).symm,hx.kept⟩
    · obtain rfl := List.mem_singleton.mp hc
      exact ⟨ph i,hnew⟩
  · intro c hc d hd heq id token hset
    obtain rfl := List.mem_singleton.mp hd
    have hclaim := hnew.claims hset
    exact h.early i (by rw [hclaim]; trivial) c hc heq

theorem checks_annotated (ops : ι → IdentityOp) :
    Annotated (fun _ => checkCourse) (fun _ k l n c => checkFresh k l n c = true) (Checks ops) where
  bump h := ⟨h.belongs,fun i token ht => Nat.lt_succ_of_lt (h.fresh i token ht),h.apart,h.early,
    h.pending,h.done,h.once⟩
  learn _ hy := hy.elim
  miss _ hy := hy.elim
  skip _ hy := hy.elim
  number h hy := h.number hy
  update := by
    intro tr ph pd w i y k g s h _ _ hP hg
    obtain ⟨hu,rfl⟩ := hP
    refine h.write ((h.pending i).put ?_)
    cases k with
    | deviceSession id => trivial
    | externalIdentity id => exact kept_update hu hg (h.held i id)
  flush := by
    intro tr ph pd w i y k l n h _ _ hP _ hf
    obtain ⟨hw,rfl⟩ := hP
    refine h.write ((h.pending i).put ?_)
    have hheld := h.held i
    generalize ph i = x at hw hheld ⊢
    cases hw with
    | recorded id l s now => exact kept_flush hf (hheld id)
  commit h ha hy := h.commit ha hy
  rollback h hy := by
    subst hy
    exact h.write rowWise_empty
  stop i h := ⟨_,h.write rowWise_empty⟩

end invariant

def IdentityOp.isRestore : IdentityOp → Bool
  | .restore _ => true
  | _ => false

def IdentityOp.isSynchronize : IdentityOp → Bool
  | .synchronize _ _ _ _ => true
  | _ => false

section executions

variable {ι : Type} {ops : ι → IdentityOp}

def claimsCheck (ops : ι → IdentityOp) (c : Commit ι Row) (id : Id) : Prop :=
  (ops c.thread).isSynchronize ∧ ∃ token, setsToken c id token

-- The identity is disabled or missing now, or has just been restored.
def endsChecks (ops : ι → IdentityOp) (c : Commit ι Row) (id : Id) : Prop :=
  awaitsRestoration (c.after (.externalIdentity id)) ∨
    (ops c.thread).isRestore ∧ c.pend (.externalIdentity id) ≠ none

variable {ph : ι → CheckPhase} {c : Commit ι Row} {x : CheckPhase}

theorem Done.tied (h : Done ops ph c x) {id : Id} (ht : Tied (c.before (.externalIdentity id))) :
    Tied (c.after (.externalIdentity id)) := by
  rcases h.identity id with heq | hk
  · rwa [heq]
  · cases x with
    | login => exact hk.1 ht
    | restoring => exact fun _ => hk
    | idle => exact hk.elim
    | claiming token => exact fun ha => (hk.2.1 ha).elim
    | checking token => exact fun _ => hk.2

theorem Done.restores (h : Done ops ph c x) {id : Id} (ht : Tied (c.before (.externalIdentity id)))
    (hb : awaitsRestoration (c.before (.externalIdentity id)))
    (ha : ¬ awaitsRestoration (c.after (.externalIdentity id))) : (ops c.thread).isRestore := by
  rcases h.identity id with heq | hk
  · rw [heq] at ha
    exact (ha hb).elim
  · cases x with
    | login => exact (ha (hk.2.1 hb)).elim
    | restoring =>
      have hbelongs := h.belongs
      revert hbelongs
      cases ops c.thread with
      | restore r => exact fun _ => rfl
      | login c => exact fun hb => hb.elim
      | synchronize => exact fun hb => hb.elim
    | idle => exact hk.elim
    | claiming token => exact (hk.1 hb).elim
    | checking token =>
      have hnone := (ht hb).symm.trans hk.1
      cases hnone

theorem Done.ends (h : Done ops ph c x) {id : Id} (ht : Tied (c.before (.externalIdentity id)))
    (he : endsChecks ops c id) : tokenOf (c.after (.externalIdentity id)) = none := by
  rcases he with ha | ⟨hr,hp⟩
  · exact h.tied ht ha
  · obtain ⟨wr,hwr⟩ := Option.ne_none_iff_exists'.mp hp
    have hk := h.kept (.externalIdentity id) wr hwr
    have hbelongs := h.belongs
    have hx : x = .restoring := by
      revert hbelongs hr
      cases ops c.thread <;> cases x <;> simp [CheckPhase.belongs,IdentityOp.isRestore]
    subst hx
    rw [show c.after (.externalIdentity id) = _ from Pending.view_of_some hwr _]
    exact hk

-- What a later commit of a claimed check that writes the identity has found there.
theorem Done.finds (h : Done ops ph c x) (hs : (ops c.thread).isSynchronize) {token : Id}
    (htoken : (ph c.thread).token = some token) {id : Id} (hp : c.pend (.externalIdentity id) ≠ none) :
    tokenOf (c.before (.externalIdentity id)) = some token ∨ setsToken c id token := by
  obtain ⟨wr,hwr⟩ := Option.ne_none_iff_exists'.mp hp
  have hk : Kept x (c.before (.externalIdentity id)) (c.after (.externalIdentity id)) := by
    rw [show c.after (.externalIdentity id) = _ from Pending.view_of_some hwr _]
    exact h.kept (.externalIdentity id) wr hwr
  have hbelongs := h.belongs
  have hx := h.token
  rw [htoken] at hx
  cases x with
  | login => revert hbelongs hs; cases ops c.thread <;> simp [CheckPhase.belongs,IdentityOp.isSynchronize]
  | restoring =>
    revert hbelongs hs; cases ops c.thread <;> simp [CheckPhase.belongs,IdentityOp.isSynchronize]
  | idle => exact hk.elim
  | claiming t =>
    obtain rfl : t = token := by simpa [CheckPhase.token] using hx
    by_cases hb : tokenOf (c.before (.externalIdentity id)) = some t
    · exact Or.inl hb
    · exact Or.inr ⟨hk.2.2,hb⟩
  | checking t =>
    obtain rfl : t = token := by simpa [CheckPhase.token] using hx
    exact Or.inl hk.1

variable [Fintype ι] [DecidableEq ι]

theorem run_checks {w : World} {tr : List (Commit ι Row)} {g : Global ι Row Time Exn}
    (h : Execution (fun g i => checksFresh g i = true) (Global.init w fun i => (ops i).program) tr g) :
    ∃ ph, Checks ops tr ph g.pends g.world := by
  have hbelongs (i : ι) : ((ops i).start).belongs (ops i) := by cases ops i <;> trivial
  have hstart (i : ι) : ((ops i).start).token = none := by cases ops i <;> rfl
  obtain ⟨ph,hst⟩ := h.standing (checks_annotated ops)
    (fun g i key l n k hc hp _ => by simpa [checksFresh,hp] using hc) (fun i => writes_program (ops i))
    ⟨hbelongs,fun i token ht => by simp [hstart] at ht,fun i j token ht => by simp [hstart] at ht,
      by simp,fun _ => rowWise_empty,by simp,.nil⟩
  exact ⟨ph,hst.inv⟩

theorem disabled_identity_needs_restoration {w : World}
    (hw : ∀ id, Tied (w.db (.externalIdentity id))) {tr : List (Commit ι Row)}
    {g : Global ι Row Time Exn}
    (h : Execution (fun g i => checksFresh g i = true) (Global.init w fun i => (ops i).program) tr g)
    (id : Id) :
    (∀ c ∈ tr, awaitsRestoration (c.before (.externalIdentity id)) →
      ¬ awaitsRestoration (c.after (.externalIdentity id)) → (ops c.thread).isRestore) ∧
    ∀ tr₁ c tr₂ d tr₃ e tr₄, tr = tr₁ ++ c :: (tr₂ ++ d :: (tr₃ ++ e :: tr₄)) →
      claimsCheck ops c id → endsChecks ops d id → e.thread = c.thread →
      e.pend (.externalIdentity id) = none := by
  obtain ⟨ph,hchecks⟩ := run_checks h
  have htied : ∀ tr₁ c tr₂, tr = tr₁ ++ c :: tr₂ → Tied (c.before (.externalIdentity id)) := by
    intro tr₁ c tr₂ heq
    have hchain : chained w.db tr g.world.db := h.chained
    rw [heq,chained_append] at hchain
    obtain ⟨m,hm,hc,_⟩ := hchain
    rw [hc]
    refine chained_kept (I := fun db => Tied (db (.externalIdentity id))) (fun b hb ht => ?_) hm (hw id)
    obtain ⟨x,hx⟩ := hchecks.done b (by simp [heq,hb])
    exact hx.tied ht
  refine ⟨fun c hc hb ha => ?_,fun tr₁ c tr₂ d tr₃ e tr₄ heq hclaim hends hthread => ?_⟩
  · obtain ⟨tr₁,tr₂,heq⟩ := List.append_of_mem hc
    obtain ⟨x,hx⟩ := hchecks.done c hc
    exact hx.restores (htied tr₁ c tr₂ heq) hb ha
  · by_contra hp
    obtain ⟨hs,token,hset⟩ := hclaim
    have hdone {b : Commit ι Row} (hb : b ∈ tr) : ∃ x, Done ops ph b x := hchecks.done b hb
    obtain ⟨xc,hc⟩ := hdone (b := c) (by simp [heq])
    obtain ⟨xd,hd⟩ := hdone (b := d) (by simp [heq])
    obtain ⟨xe,he⟩ := hdone (b := e) (by simp [heq])
    have hxc := hc.claims hset
    have hown : (ph c.thread).token = some token := by
      rcases hc.token with ht | ht
      · rw [hxc] at ht
        cases ht
      · rw [← ht,hxc]
        rfl
    have honce : ∀ b ∈ tr₂ ++ d :: (tr₃ ++ e :: tr₄), c.thread = b.thread → ¬ setsToken b id token := by
      have hpair := hchecks.once
      rw [heq] at hpair
      have hlater := (List.pairwise_cons.mp (List.pairwise_append.mp hpair).2.1).1
      exact fun b hb ht => hlater b hb ht id token
    have hnone := hd.ends (htied (tr₁ ++ c :: tr₂) d (tr₃ ++ e :: tr₄) (by simp [heq])) hends
    have hfound : tokenOf (e.before (.externalIdentity id)) = some token := by
      rcases he.finds (by rwa [hthread]) (by rwa [hthread]) hp with hf | hset'
      · exact hf
      · exact (honce e (by simp) hthread.symm hset').elim
    have hchain : chained w.db tr g.world.db := h.chained
    rw [heq,chained_append] at hchain
    obtain ⟨_,_,_,hrest⟩ := hchain
    obtain ⟨_,_,_,hrest⟩ := chained_append.mp hrest
    obtain ⟨m,hmid,hm,_⟩ := chained_append.mp hrest
    obtain ⟨b,hb,hbefore,hafter⟩ := chained_turn
      (I := fun db => tokenOf (db (.externalIdentity id)) ≠ some token) hmid (by simp [hnone])
      (by rw [← hm]; simp [hfound])
    have hset' : setsToken b id token := ⟨not_not.mp hafter,hbefore⟩
    obtain ⟨xb,hxb⟩ := hdone (b := b) (by simp [heq,hb])
    have hb' := hxb.claims hset'
    have hother : (ph b.thread).token = some token := by
      rcases hxb.token with ht | ht
      · rw [hb'] at ht
        cases ht
      · rw [← ht,hb']
        rfl
    exact honce b (by simp [hb]) (hchecks.apart _ _ token hown hother) hset'

end executions

def sampleIdentity : ExternalIdentity := ⟨"issuer","subject",1,.active,.active,0,0,none,0⟩

def sampleWorld : World where
  db
    | .externalIdentity id => if id = 2 then some sampleIdentity else none
    | .deviceSession _ => none
  next := 3

def sampleCallback (identityStatus : Status) : LoginCallback :=
  ⟨"issuer","subject",identityStatus,.login,⟨none,1,true,true⟩,true,false,fun _ _ => true,true,5,60⟩

def statusesOver (tr : List (Commit Bool Row)) : List (Bool × Option Status × Option Status) :=
  tr.map fun c =>
    (c.thread,(c.before (.externalIdentity 2)).map fun i : ExternalIdentity => i.status,
      (c.after (.externalIdentity 2)).map fun i : ExternalIdentity => i.status)

theorem sample_tied (id : Id) : Tied (sampleWorld.db (.externalIdentity id)) := by
  rintro ⟨i,hi,hs⟩
  simp only [sampleWorld,Option.ite_none_right_eq_some,Option.some.injEq] at hi
  obtain ⟨_,rfl⟩ := hi
  cases hs

def disableAndRestore : Bool → IdentityOp
  | false => .login (sampleCallback .disabled)
  | true => .restore ⟨"issuer","subject",none,.status .active,7⟩

theorem disabled_identity_restored :
    ∃ tr g, Execution (fun g i => checksFresh g i = true)
        (Global.init sampleWorld fun i => (disableAndRestore i).program) tr g ∧
      ∃ c ∈ tr, awaitsRestoration (c.before (.externalIdentity 2)) ∧
        ¬ awaitsRestoration (c.after (.externalIdentity 2)) ∧ (disableAndRestore c.thread).isRestore := by
  have hplay : (((Global.init sampleWorld fun i => (disableAndRestore i).program).play checksFresh
      (List.replicate 12 (false,1) ++ List.replicate 12 (true,2))).map fun r => statusesOver r.1) =
      some [(false,some .active,some .disabled),(true,some .disabled,some .disabled),
        (true,some .disabled,some .active)] := by decide +kernel
  obtain ⟨⟨tr,g⟩,hp,heq⟩ := Option.map_eq_some_iff.mp hplay
  have hrun := (Global.play_run (.refl) _ hp).execution
  rw [List.nil_append] at hrun
  have hstatuses : statusesOver tr = _ := heq
  obtain ⟨c₁,c₂,c₃,rfl⟩ : ∃ c₁ c₂ c₃, tr = [c₁,c₂,c₃] := by
    have hlen : tr.length = 3 := by simpa [statusesOver] using congrArg List.length hstatuses
    exact List.length_eq_three.mp hlen
  simp only [statusesOver,List.map_cons,List.map_nil,List.cons.injEq,Prod.mk.injEq,
    Option.map_eq_some_iff] at hstatuses
  obtain ⟨_,_,⟨_,⟨i,hi,hs⟩,⟨i',hi',hs'⟩⟩,_⟩ := hstatuses
  have hb : awaitsRestoration (c₃.before (.externalIdentity 2)) := ⟨i,hi,by rw [hs]; rfl⟩
  have ha : ¬ awaitsRestoration (c₃.after (.externalIdentity 2)) := by
    rw [hi']
    exact not_awaits_active hs'
  refine ⟨_,g,hrun,c₃,by simp,hb,ha,?_⟩
  exact (disabled_identity_needs_restoration sample_tied hrun 2).1 c₃ (by simp) hb ha

def disableAndCheck : Bool → IdentityOp
  | false => .login (sampleCallback .disabled)
  | true => .synchronize 1 10 5 fun _ => .status .active

-- The check is claimed between the SELECT and the flush of the login, which loaded no token to clear.
def checkInside : List (Bool × Time) :=
  [(false,0)] ++ List.replicate 4 (true,1) ++ List.replicate 8 (false,1) ++ List.replicate 8 (true,1)

theorem claimed_check_revives_disabled_identity :
    ∃ tr g, Execution (fun _ _ => True)
        (Global.init sampleWorld fun i => (disableAndCheck i).program) tr g ∧
      statusesOver tr = [(true,some .active,some .active),(false,some .active,some .disabled),
        (true,some .disabled,some .active)] := by
  have hplay : (((Global.init sampleWorld fun i => (disableAndCheck i).program).play (fun _ _ => true)
      checkInside).map fun r => statusesOver r.1) =
      some [(true,some .active,some .active),(false,some .active,some .disabled),
        (true,some .disabled,some .active)] := by decide +kernel
  obtain ⟨⟨tr,g⟩,hp,heq⟩ := Option.map_eq_some_iff.mp hplay
  have hrun := (Global.play_run (.refl) _ hp).execution
  exact ⟨tr,g,by simpa using hrun.weaken fun _ _ _ => trivial,heq⟩

end AiScdc.Identity
