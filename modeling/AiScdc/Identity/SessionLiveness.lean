import AiScdc.Identity.ControlledRestoration
import AiScdc.Identity.SessionCourse

namespace AiScdc.Identity
open Transaction

def DeviceSession.worksAt (s : DeviceSession) (t : Time) : Prop := s.status = .active ∧ t < s.idleExpiresAt

-- All external identities of the user are disabled or missing.
def ShutOut (db : Db) (userId : Id) : Prop :=
  ∀ id i, db (.externalIdentity id) = some i → (i : ExternalIdentity).userId = userId →
    i.status.controlledRestoration = true

def SessionsNeedIdentity (t : Time) (db : Db) : Prop :=
  ∀ userId, ShutOut db userId → ∀ id s, db (.deviceSession id) = some s →
    (s : DeviceSession).userId = userId → ¬ s.worksAt t

-- A login that confirms the identity as active finds it neither disabled nor missing, and keeps its
-- row locked: it writes the row there, or has written it before.
def confirmsLive (locked : Bool) : ∀ k : Key, Row k → Row k → Row k → Bool
  | .externalIdentity _, some l, some n, some c =>
    (n : ExternalIdentity).lastConfirmedStatus ≠ .active ||
      !(c : ExternalIdentity).status.controlledRestoration && (locked || l ≠ n)
  | _, _, _, _ => true

def confirmationsLive {ι : Type} (g : Global ι Row Time Exn) (i : ι) : Bool :=
  match (g.thread i).prog with
  | .flush key l n _ => confirmsLive (g.pends i key).isSome key l n (g.view i key)
  | _ => true

namespace SessionPhase

-- The transaction may leave the identity disabled or missing.
def closes : SessionPhase → Id → Prop
  | .changed id, id' | .revoking id _, id' | .sweeping id _ _, id' => id = id'
  | _, _ => False

-- The transaction will still come to the session.
def reaches : SessionPhase → Id → Prop
  | .sweeping _ _ sessions, sessionId => sessionId ∈ sessions
  | _, _ => True

def opens : SessionPhase → Id → Id → Prop
  | .opening id userId, id', userId' | .numbered id userId _, id', userId'
  | .opened id userId _, id', userId' => id = id' ∧ userId = userId'
  | _, _, _ => False

end SessionPhase

def BelongsTo (db : Db) (id userId : Id) : Prop :=
  ∃ i, db (.externalIdentity id) = some i ∧ (i : ExternalIdentity).userId = userId

def WrittenLive (p : Pending Row) (id userId : Id) : Prop :=
  ∃ wr, p (.externalIdentity id) = some wr ∧ ∃ i, wr.value = some i ∧
    (i : ExternalIdentity).userId = userId ∧ i.live

def SessionPhase.holds (p : Pending Row) (w : World) : SessionPhase → Prop
  | .calm => p = Pending.empty
  | .marked | .mopping => True
  | .found id userId => p = Pending.empty ∧ BelongsTo w.db id userId
  | .opening id userId | .opened id userId _ => WrittenLive p id userId
  | .numbered id userId sessionId => WrittenLive p id userId ∧ sessionId < w.next
  | .changed id => p (.externalIdentity id) ≠ none ∧ ∃ userId, BelongsTo w.db id userId
  | .revoking id userId | .sweeping id userId _ =>
    p (.externalIdentity id) ≠ none ∧ BelongsTo w.db id userId
  | .blind => False

-- What a transaction has written of an identity that was there before.
def Carried (closed : Prop) (v u : Option ExternalIdentity) : Prop :=
  ∀ i, v = some i → ∃ i', u = some i' ∧ i'.userId = i.userId ∧ (i.live → i'.live ∨ closed)

structure SessionFact (t : Time) (x : SessionPhase) (p : Pending Row) (w : World) : Prop where
  holds : x.holds p w
  identities : ∀ id, Carried (x.closes id) (w.db (.externalIdentity id)) (p.view w.db (.externalIdentity id))
  sessions : ∀ id wr s, p (.deviceSession id) = some wr → wr.value = some s → (s : DeviceSession).worksAt t →
    ∃ identityId, x.opens identityId s.userId
  drawn : ∀ id, w.next ≤ id → p.view w.db (.deviceSession id) = none

section facts

variable {t : Time} {x y : SessionPhase} {p : Pending Row} {w : World}

theorem Carried.refl {closed : Prop} (v : Option ExternalIdentity) : Carried closed v v :=
  fun i hv => ⟨i,hv,rfl,Or.inl⟩

theorem Carried.trans {closed closed' : Prop} {v u u' : Option ExternalIdentity} (h : Carried closed v u)
    (h' : Carried closed' u u') (hc : closed → closed') : Carried closed' v u' := by
  intro i hv
  obtain ⟨i',hu,huser,hlive⟩ := h i hv
  obtain ⟨i'',hu',huser',hlive'⟩ := h' i' hu
  refine ⟨i'',hu',huser'.trans huser,fun hi => ?_⟩
  rcases hlive hi with hi' | hclosed
  · exact hlive' hi'
  · exact Or.inr (hc hclosed)

theorem Carried.belongs {closed : Prop} {db db' : Db} {id userId : Id}
    (h : Carried closed (db (.externalIdentity id)) (db' (.externalIdentity id)))
    (hb : BelongsTo db id userId) : BelongsTo db' id userId := by
  obtain ⟨i,hi,rfl⟩ := hb
  obtain ⟨i',hi',huser,_⟩ := h i hi
  exact ⟨i',hi',huser⟩

theorem SessionPhase.holds_closed (h : x.holds p w) {id : Id} (hc : x.closes id) :
    p (.externalIdentity id) ≠ none := by
  cases x <;> cases hc <;> exact h.1

theorem SessionPhase.holds_opens (h : x.holds p w) {id userId : Id} (ho : x.opens id userId) :
    WrittenLive p id userId := by
  cases x with
  | opening _ _ | opened _ _ _ =>
    obtain ⟨rfl,rfl⟩ := ho
    exact h
  | numbered _ _ _ =>
    obtain ⟨rfl,rfl⟩ := ho
    exact h.1
  | _ => exact ho.elim

theorem SessionFact.empty {w : World} (hused : ∀ id, w.next ≤ id → w.db (.deviceSession id) = none) :
    SessionFact t .calm Pending.empty w :=
  ⟨rfl,fun _ => .refl _,fun _ _ _ hp => (by cases hp),hused⟩

theorem SessionFact.move (h : SessionFact t x p w) (hy : y.holds p w)
    (hc : ∀ id, x.closes id → y.closes id) (ho : ∀ id userId, x.opens id userId → y.opens id userId) :
    SessionFact t y p w where
  holds := hy
  identities id := (h.identities id).trans (.refl _) (hc id)
  sessions id wr s hp hs hw := (h.sessions id wr s hp hs hw).imp fun _ => ho _ _
  drawn := h.drawn

theorem SessionFact.bump (h : SessionFact t x p w) : SessionFact t x p w.bump where
  holds := by
    have hx := h.holds
    cases x with
    | numbered => exact ⟨hx.1,Nat.lt_succ_of_lt hx.2⟩
    | _ => exact hx
  identities := h.identities
  sessions := h.sessions
  drawn id hid := h.drawn id (Nat.le_of_succ_le hid)

theorem SessionFact.put_identity (h : SessionFact t x p w) {id : Id} {l v : Row (.externalIdentity id)}
    (hy : y.holds (p.put (.externalIdentity id) l v) w)
    (hv : Carried (y.closes id) (p.view w.db (.externalIdentity id)) v)
    (hc : ∀ id, x.closes id → y.closes id) (ho : ∀ id userId, x.opens id userId → y.opens id userId) :
    SessionFact t y (p.put (.externalIdentity id) l v) w where
  holds := hy
  identities id' := by
    by_cases hid : id' = id
    · subst hid
      rw [Pending.view_put_self]
      exact (h.identities id').trans hv (hc id')
    · rw [Pending.view_put_ne _ _ _ _ (by simpa using hid)]
      exact (h.identities id').trans (.refl _) (hc id')
  sessions sessionId wr s hp hs hw := by
    rw [Pending.put_ne _ _ _ (by simp)] at hp
    exact (h.sessions sessionId wr s hp hs hw).imp fun _ => ho _ _
  drawn sessionId hid := by
    rw [Pending.view_put_ne _ _ _ _ (by simp)]
    exact h.drawn sessionId hid

theorem SessionFact.put_session (h : SessionFact t x p w) {id : Id} {l v : Row (.deviceSession id)}
    (hy : y.holds (p.put (.deviceSession id) l v) w)
    (hs : ∀ s, v = some s → (s : DeviceSession).worksAt t → ∃ identityId, y.opens identityId s.userId)
    (hid : id < w.next) (hc : ∀ id, x.closes id → y.closes id)
    (ho : ∀ id userId, x.opens id userId → y.opens id userId) :
    SessionFact t y (p.put (.deviceSession id) l v) w where
  holds := hy
  identities id' := by
    rw [Pending.view_put_ne _ _ _ _ (by simp)]
    exact (h.identities id').trans (.refl _) (hc id')
  sessions sessionId wr s hp hvalue hw := by
    by_cases heq : sessionId = id
    · subst heq
      rw [Pending.put_self] at hp
      cases hp
      exact hs s hvalue hw
    · rw [Pending.put_ne _ _ _ (by simpa using heq)] at hp
      exact (h.sessions sessionId wr s hp hvalue hw).imp fun _ => ho _ _
  drawn sessionId hle := by
    have hne : sessionId ≠ id := fun heq => absurd (heq ▸ hle) (Nat.not_le.mpr hid)
    rw [Pending.view_put_ne _ _ _ _ (by simpa using hne)]
    exact h.drawn sessionId hle

theorem SessionFact.seen_below (h : SessionFact t x p w) {id : Id}
    (hs : p.view w.db (.deviceSession id) ≠ none) : id < w.next := by
  by_contra hle
  exact hs (h.drawn id (Nat.le_of_not_lt hle))

-- The rows that another transaction commits are none that this one has written.
theorem SessionFact.commit {z : SessionPhase} {q : Pending Row} (h : SessionFact t x p w)
    (hq : SessionFact t z q w) (ha : ∀ k, p k ≠ none → q k = none) :
    SessionFact t x p ⟨q.view w.db,w.next⟩ := by
  have hrow (k : Key) (hk : p k ≠ none) : q.view w.db k = w.db k := Pending.view_of_none (ha k hk) w.db
  have hbelongs {id userId : Id} (hb : BelongsTo w.db id userId) : BelongsTo (q.view w.db) id userId :=
    (hq.identities id).belongs hb
  constructor
  · have hx := h.holds
    cases x with
    | found => exact ⟨hx.1,hbelongs hx.2⟩
    | changed => exact ⟨hx.1,hx.2.imp fun _ => hbelongs⟩
    | revoking | sweeping => exact ⟨hx.1,hbelongs hx.2⟩
    | _ => exact hx
  · intro id
    cases hp : p (.externalIdentity id) with
    | none =>
      rw [Pending.view_of_none hp]
      exact .refl _
    | some wr =>
      have hk := h.identities id
      rw [Pending.view_of_some hp] at hk ⊢
      simpa only [hrow (.externalIdentity id) (by simp [hp])] using hk
  · exact h.sessions
  · intro id hid
    cases hp : p (.deviceSession id) with
    | none =>
      rw [Pending.view_of_none hp]
      exact hq.drawn id hid
    | some wr =>
      have hk := h.drawn id hid
      rw [Pending.view_of_some hp] at hk ⊢
      exact hk

end facts

section flushes

variable {l c : ExternalIdentity} {now : Time}

theorem flush_userId (s : Status) : (l.flush (l.recorded s now) c).userId = c.userId := by
  simp [ExternalIdentity.flush,ExternalIdentity.recorded]

theorem flush_active_live : (l.flush (l.recorded .active now) c).live ↔ c.live := by
  simp [ExternalIdentity.live,ExternalIdentity.flush,ExternalIdentity.recorded,Status.controlledRestoration]

theorem carried_active (u : Option ExternalIdentity) (id : Id) {closed : Prop} :
    Carried closed u (mergeRows mergeEntity (.externalIdentity id) (some l) (some (l.recorded .active now)) u) := by
  rintro c rfl
  exact ⟨_,rfl,flush_userId _,fun hc => Or.inl (flush_active_live.mpr hc)⟩

theorem carried_closed (u : Option ExternalIdentity) (id : Id) (s : Status) {closed : Prop} (h : closed) :
    Carried closed u (mergeRows mergeEntity (.externalIdentity id) (some l) (some (l.recorded s now)) u) := by
  rintro c rfl
  exact ⟨_,rfl,flush_userId _,fun _ => Or.inr h⟩

end flushes

-- The user of a session has a live identity; a transaction that closes it will revoke the session.
structure SessionsShielded {ι : Type} (t : Time) (ph : ι → SessionPhase) (pd : ι → Pending Row) (w : World) :
    Prop where
  facts : ∀ i, SessionFact t (ph i) (pd i) w
  unused : ∀ id, w.next ≤ id → w.db (.deviceSession id) = none
  shielded : ∀ id s, w.db (.deviceSession id) = some s → (s : DeviceSession).worksAt t →
    ∃ identityId i, w.db (.externalIdentity identityId) = some i ∧ (i : ExternalIdentity).userId = s.userId ∧
      i.live ∧ ∀ j, (ph j).closes identityId → (ph j).reaches id ∨ pd j (.deviceSession id) ≠ none

section steps

variable {ι : Type} [DecidableEq ι] {t : Time} {ph : ι → SessionPhase} {pd : ι → Pending Row} {w : World}
  {i : ι} {x y : SessionPhase}

theorem SessionsShielded.turn (h : SessionsShielded t ph pd w) {p : Pending Row} (hfact : SessionFact t y p w)
    (hreach : ∀ identityId id s, y.closes identityId → BelongsTo w.db identityId (s : DeviceSession).userId →
      w.db (.deviceSession id) = some s → s.worksAt t →
      ((ph i).closes identityId → (ph i).reaches id ∨ pd i (.deviceSession id) ≠ none) →
      y.reaches id ∨ p (.deviceSession id) ≠ none) :
    SessionsShielded t (Function.update ph i y) (Function.update pd i p) w where
  facts j := by
    by_cases hj : j = i
    · subst hj
      simpa using hfact
    · simpa [hj] using h.facts j
  unused := h.unused
  shielded id s hs hw := by
    obtain ⟨identityId,c,hc,huser,hlive,hcloses⟩ := h.shielded id s hs hw
    refine ⟨identityId,c,hc,huser,hlive,fun j hj => ?_⟩
    by_cases hji : j = i
    · subst hji
      rw [Function.update_self] at hj ⊢
      rw [Function.update_self]
      exact hreach identityId id s hj ⟨c,hc,huser⟩ hs hw (hcloses j)
    · rw [Function.update_of_ne hji] at hj ⊢
      rw [Function.update_of_ne hji]
      exact hcloses j hj

theorem SessionsShielded.phase (h : SessionsShielded t ph pd w) (hfact : SessionFact t y (pd i) w)
    (hreach : ∀ identityId id s, y.closes identityId → BelongsTo w.db identityId (s : DeviceSession).userId →
      w.db (.deviceSession id) = some s → s.worksAt t →
      ((ph i).closes identityId → (ph i).reaches id ∨ pd i (.deviceSession id) ≠ none) →
      y.reaches id ∨ pd i (.deviceSession id) ≠ none) :
    SessionsShielded t (Function.update ph i y) pd w := by
  have hturn := h.turn hfact hreach
  rwa [Function.update_eq_self] at hturn

omit [DecidableEq ι] in
theorem SessionsShielded.bump (h : SessionsShielded t ph pd w) : SessionsShielded t ph pd w.bump where
  facts j := (h.facts j).bump
  unused id hid := h.unused id (Nat.le_of_succ_le hid)
  shielded := h.shielded

theorem SessionsShielded.drop (h : SessionsShielded t ph pd w) :
    SessionsShielded t (Function.update ph i .calm) (Function.update pd i Pending.empty) w :=
  h.turn (.empty h.unused) fun _ _ _ hc => hc.elim

theorem shielded_learn (h : SessionsShielded t ph pd w)
    (hlearn : SessionLearn (ph i) ((pd i).view w.db) w.next y) :
    SessionsShielded t (Function.update ph i y) pd w := by
  have hfact := h.facts i
  generalize hph : ph i = x at hlearn hfact
  cases hlearn with
  | find id c hc =>
    have hempty : pd i = Pending.empty := hfact.holds
    rw [hempty] at hc
    exact h.phase (hfact.move ⟨hempty,c,hc,rfl⟩ (fun _ hc => hc) fun _ _ ho => ho) fun _ _ _ hc => hc.elim
  | reload id c hc =>
    obtain ⟨hwritten,userId,j,hj,_⟩ := hfact.holds
    obtain ⟨c',hc',huser,_⟩ := hfact.identities id j hj
    obtain rfl := Option.some.inj (hc'.symm.trans hc)
    exact h.phase (hfact.move ⟨hwritten,j,hj,huser.symm⟩ (fun _ hc => hc) fun _ _ ho => ho)
      fun _ _ _ _ _ _ _ _ => Or.inl trivial
  | select id userId sessions hsessions =>
    refine h.phase (hfact.move hfact.holds (fun _ hc => hc) fun _ _ ho => ho) fun id' sessionId s hc hb hs hw _ => ?_
    cases hp : pd i (.deviceSession sessionId) with
    | some wr => simp
    | none =>
      left
      obtain rfl : id = id' := hc
      obtain ⟨j,hj,rfl⟩ := hfact.holds.2
      obtain ⟨j',hj',huser⟩ := hb
      obtain rfl := Option.some.inj (hj.symm.trans hj')
      apply hsessions sessionId s
      · by_contra hle
        have hnone := h.unused sessionId (Nat.le_of_not_lt hle)
        rw [hs] at hnone
        cases hnone
      · rw [Pending.view_of_none hp]
        exact hs
      · exact huser.symm
      · exact hw.1

theorem shielded_number (h : SessionsShielded t ph pd w) (hnumber : sessionCourse.number (ph i) w.next y) :
    SessionsShielded t (Function.update ph i y) pd w.bump := by
  have hfact := (h.facts i).bump
  obtain ⟨id,userId,hph,rfl⟩ := hnumber
  rw [hph] at hfact
  exact h.bump.phase (hfact.move ⟨hfact.holds,Nat.lt_succ_self _⟩ (fun _ hc => hc) fun _ _ ho => ho)
    fun _ _ _ hc => hc.elim

theorem not_works_revoked {s : Option DeviceSession} {now : Time} {s' : DeviceSession}
    (h : s.map (fun s => s.revoked now) = some s') : ¬ s'.worksAt t := by
  obtain ⟨s₀,_,rfl⟩ := Option.map_eq_some_iff.mp h
  intro hw
  cases hw.1

theorem not_none_of_any {s : Option DeviceSession} {g : DeviceSession → Bool} (h : s.any g = true) :
    s ≠ none := by
  rintro rfl
  cases h

theorem shielded_update {k : Key} {g : Row k → Bool} {f : Row k → Row k} (h : SessionsShielded t ph pd w)
    (hup : SessionUpdate (ph i) k g f y) (hg : g ((pd i).view w.db k) = true) :
    SessionsShielded t (Function.update ph i y)
      (Function.update pd i ((pd i).put k (w.db k) (f ((pd i).view w.db k)))) w := by
  have hfact := h.facts i
  generalize hph : ph i = x at hup hfact
  cases hup with
  | mild hx id g f hu hl =>
    have hcloses (id' : Id) (hc : x.closes id') : SessionPhase.marked.closes id' := by
      rcases hx with rfl | rfl <;> exact hc
    have hopens (id' userId : Id) (ho : x.opens id' userId) : SessionPhase.marked.opens id' userId := by
      rcases hx with rfl | rfl <;> exact ho
    refine h.turn (hfact.put_identity trivial (fun c hc => ?_) hcloses hopens) fun _ _ _ hc => hc.elim
    exact ⟨f c,by rw [hc]; rfl,hu c,fun hlive => Or.inl (hl c hlive)⟩
  | change id g f hu =>
    have hempty : pd i = Pending.empty := hfact.holds
    obtain ⟨c,hc,_⟩ := any_some hg
    refine h.turn (hfact.put_identity ⟨by rw [Pending.put_self]; simp,c.userId,c,?_,rfl⟩ (fun c hc => ?_)
      (fun _ hc => hc.elim) fun _ _ ho => ho) fun _ _ _ _ _ _ _ _ => Or.inl trivial
    · rw [hempty] at hc
      exact hc
    · exact ⟨f c,by rw [hc]; rfl,hu c,fun _ => Or.inr rfl⟩
  | create id row hl =>
    refine h.turn (hfact.put_identity ⟨_,Pending.put_self _ _ _ _,row,rfl,rfl,hl⟩ (fun c hc => ?_)
      (fun _ hc => hc) fun _ _ ho => ho.elim) fun _ _ _ hc => hc.elim
    rw [hc] at hg
    cases hg
  | session id sessionId row =>
    obtain ⟨⟨wr,hp,hwritten⟩,hlt⟩ := hfact.holds
    refine h.turn (hfact.put_session ⟨wr,by rw [Pending.put_ne _ _ _ (by simp),hp],hwritten⟩ (fun s hs _ => ?_)
      hlt (fun _ hc => hc) fun _ _ ho => ho) fun _ _ _ hc => hc.elim
    obtain rfl := Option.some.inj hs
    exact ⟨id,rfl,rfl⟩
  | sweep id userId sessionId rest now =>
    obtain ⟨hwritten,hb⟩ := hfact.holds
    refine h.turn (hfact.put_session ⟨by rwa [Pending.put_ne _ _ _ (by simp)],hb⟩
      (fun s hs hw => (not_works_revoked hs hw).elim) (hfact.seen_below (not_none_of_any hg))
      (fun _ hc => hc) fun _ _ ho => ho) fun id' id' s hc _ _ _ hreach => ?_
    by_cases heq : id' = sessionId
    · subst heq
      right
      simp [Pending.put_self]
    · rw [Pending.put_ne _ _ _ (by simpa using heq)]
      rw [hph] at hreach
      exact (hreach hc).imp_left fun hr => (List.mem_cons.mp hr).resolve_left heq
  | mop sessionId g now =>
    exact h.turn (hfact.put_session trivial (fun s hs hw => (not_works_revoked hs hw).elim)
      (hfact.seen_below (not_none_of_any hg)) (fun _ hc => hc) fun _ _ ho => ho) fun _ _ _ hc => hc.elim
  | blind k g f => exact hfact.holds.elim

-- A login in the phase found has written nothing, and the identity it found is still there.
theorem SessionFact.found_row {p : Pending Row} {id userId : Id} (h : SessionFact t (.found id userId) p w) :
    ∃ c, p.view w.db (.externalIdentity id) = some c ∧ (c : ExternalIdentity).userId = userId := by
  obtain ⟨hempty,c,hc,huser⟩ := h.holds
  rw [hempty]
  exact ⟨c,hc,huser⟩

theorem shielded_flush {k : Key} {l n : Row k} (h : SessionsShielded t ph pd w)
    (hflush : SessionWrite (ph i) k l n y)
    (hfresh : confirmsLive false k l n ((pd i).view w.db k) = true) :
    SessionsShielded t (Function.update ph i y)
      (Function.update pd i ((pd i).put k l (Schema.merge k l n ((pd i).view w.db k)))) w := by
  have hfact := h.facts i
  generalize hph : ph i = x at hflush hfact
  cases hflush with
  | confirm id l now =>
    obtain ⟨c,hc,huser⟩ := hfact.found_row
    have hlive : c.live := by
      rw [hc] at hfresh
      simp only [confirmsLive,ExternalIdentity.recorded,ne_eq,not_true_eq_false,decide_false,Bool.false_or,
        Bool.and_eq_true,Bool.not_eq_true'] at hfresh
      exact hfresh.1
    refine h.turn (hfact.put_identity ⟨_,Pending.put_self _ _ _ _,l.flush (l.recorded .active now) c,?_,
      (flush_userId _).trans huser,flush_active_live.mpr hlive⟩ (carried_active _ id) (fun _ hc => hc)
      fun _ _ ho => ho.elim) fun _ _ _ hc => hc.elim
    rw [hc]
    rfl
  | again id l now =>
    obtain ⟨wr,hp,c,hc,huser,hlive⟩ := hfact.holds
    refine h.turn (hfact.put_identity ⟨_,Pending.put_self _ _ _ _,l.flush (l.recorded .active now) c,?_,
      (flush_userId _).trans huser,flush_active_live.mpr hlive⟩ (carried_active _ id) (fun _ hc => hc)
      fun _ _ ho => ho) fun _ _ _ hc => hc.elim
    rw [Pending.view_of_some hp,hc]
    rfl
  | deactivate id l s now hs =>
    exact h.turn (hfact.put_identity ⟨by rw [Pending.put_self]; simp,hfact.holds.2⟩ (carried_closed _ id s rfl)
      (fun _ hc => hc.elim) fun _ _ ho => ho) fun _ _ _ _ _ _ _ _ => Or.inl trivial

theorem shielded_skip {k : Key} {l : Row k} (h : SessionsShielded t ph pd w) (hskip : SessionSkip (ph i) k l y)
    (hfresh : pd i k = none → confirmsLive false k l l ((pd i).view w.db k) = true) :
    SessionsShielded t (Function.update ph i y) pd w := by
  have hfact := h.facts i
  generalize hph : ph i = x at hskip hfact
  cases hskip with
  | confirm id l now hl =>
    obtain ⟨c,hc,_⟩ := hfact.found_row
    have hnone : pd i (.externalIdentity id) = none := by rw [hfact.holds.1]; rfl
    have hf := hfresh hnone
    have hactive : l.lastConfirmedStatus = .active := by rw [← hl]; rfl
    rw [hc] at hf
    simp [confirmsLive,hactive] at hf
  | deactivate id l =>
    exact h.phase (hfact.move trivial (fun _ hc => hc) fun _ _ ho => ho) fun _ _ _ hc => hc.elim

theorem shielded_miss {k : Key} {g : Row k → Bool} (h : SessionsShielded t ph pd w)
    (hmiss : SessionMiss (ph i) k g y) (hg : g ((pd i).view w.db k) = false) :
    SessionsShielded t (Function.update ph i y) pd w := by
  have hfact := h.facts i
  generalize hph : ph i = x at hmiss hfact
  cases hmiss with
  | sweep id userId sessionId rest =>
    refine h.phase (hfact.move hfact.holds (fun _ hc => hc) fun _ _ ho => ho) fun id' id'' s hc hb hs hw hreach => ?_
    rw [hph] at hreach
    rcases hreach hc with hr | hr
    · rcases List.mem_cons.mp hr with rfl | hr
      · right
        intro hnone
        obtain rfl : id = id' := hc
        obtain ⟨j,hj,rfl⟩ := hfact.holds.2
        obtain ⟨j',hj',huser⟩ := hb
        obtain rfl := Option.some.inj (hj.symm.trans hj')
        rw [Pending.view_of_none hnone,hs] at hg
        simp [huser,hw.1] at hg
      · exact Or.inl hr
    · exact Or.inr hr

-- A transaction that may commit has come to all the sessions it revokes.
theorem SessionPhase.closable_reaches (hx : x.closable) {id sessionId : Id} (hc : x.closes id) :
    ¬ x.reaches sessionId := by
  cases x with
  | sweeping _ _ sessions =>
    cases sessions with
    | nil => exact List.not_mem_nil
    | cons _ _ => exact hx.elim
  | changed | revoking => exact hx.elim
  | _ => exact hc.elim

theorem SessionsShielded.commit (h : SessionsShielded t ph pd w) (ha : Apart pd) (hx : (ph i).closable) :
    SessionsShielded t (Function.update ph i .calm) (Function.update pd i Pending.empty)
      ⟨(pd i).view w.db,w.next⟩ where
  facts j := by
    by_cases hj : j = i
    · subst hj
      simpa using SessionFact.empty (h.facts j).drawn
    · rw [Function.update_of_ne hj,Function.update_of_ne hj]
      exact (h.facts j).commit (h.facts i) fun k hk => ha j i k hj hk
  unused := (h.facts i).drawn
  shielded id s hs hw := by
    have hi := h.facts i
    have hothers {identityId : Id} {j : ι} (hp : pd i (.externalIdentity identityId) ≠ none)
        (hc : (Function.update ph i .calm j).closes identityId) : False := by
      by_cases hj : j = i
      · subst hj
        rw [Function.update_self] at hc
        exact hc
      · rw [Function.update_of_ne hj] at hc
        exact SessionPhase.holds_closed (h.facts j).holds hc (ha i j _ (Ne.symm hj) hp)
    cases hp : pd i (.deviceSession id) with
    | some wr =>
      have hvalue : wr.value = some s := by
        rw [← hs]
        exact (Pending.view_of_some hp w.db).symm
      obtain ⟨identityId,ho⟩ := hi.sessions id wr s hp hvalue hw
      obtain ⟨wr',hp',c,hc,huser,hlive⟩ := SessionPhase.holds_opens hi.holds ho
      exact ⟨identityId,c,(Pending.view_of_some hp' w.db).trans hc,huser,hlive,
        fun j hj => (hothers (by simp [hp']) hj).elim⟩
    | none =>
      have hrow : w.db (.deviceSession id) = some s := by
        rw [← hs]
        exact (Pending.view_of_none hp w.db).symm
      obtain ⟨identityId,c,hc,huser,hlive,hcloses⟩ := h.shielded id s hrow hw
      obtain ⟨c',hc',huser',hlive'⟩ := hi.identities identityId c hc
      have hopen : c'.live := by
        rcases hlive' hlive with hlive' | hclosed
        · exact hlive'
        · rcases hcloses i hclosed with hr | hr
          · exact (SessionPhase.closable_reaches hx hclosed hr).elim
          · exact (hr hp).elim
      refine ⟨identityId,c',hc',huser'.trans huser,hopen,fun j hj => ?_⟩
      by_cases hq : pd i (.externalIdentity identityId) = none
      · by_cases hji : j = i
        · subst hji
          rw [Function.update_self] at hj
          exact hj.elim
        · rw [Function.update_of_ne hji] at hj ⊢
          rw [Function.update_of_ne hji]
          exact hcloses j hj
      · exact (hothers hq hj).elim

theorem shielded_annotated : Annotated (fun _ : ι => sessionCourse)
    (fun _ k l n c => confirmsLive false k l n c = true) fun _ ph pd w => SessionsShielded t ph pd w where
  bump h := h.bump
  learn h hlearn := shielded_learn h hlearn
  number h hnumber := shielded_number h hnumber
  update h _ _ hup hg := shielded_update h hup hg
  flush h _ _ hflush _ hfresh := shielded_flush h hflush hfresh
  commit h ha hcommit := by
    obtain ⟨hx,rfl⟩ := hcommit
    exact h.commit ha hx
  rollback h hroll := by
    obtain rfl := hroll
    exact h.drop
  stop _ h := ⟨_,h.drop⟩
  miss h hmiss hg := shielded_miss h hmiss hg
  skip h hskip hfresh := shielded_skip h hskip hfresh

end steps

section executions

variable {ι : Type} [DecidableEq ι] [Fintype ι] {ops : ι → IdentityOp} {t : Time} {w : World}
  {tr : List (Commit ι Row)} {g : Global ι Row Time Exn}

theorem confirmsLive_unlocked {k : Key} {l n c : Row k} {locked : Bool}
    (h : confirmsLive locked k l n c = true) (hl : l = n → locked = false) :
    confirmsLive false k l n c = true := by
  cases locked with
  | false => exact h
  | true =>
    have hne : l ≠ n := fun heq => by cases hl heq
    cases k with
    | deviceSession => rfl
    | externalIdentity id =>
      cases l <;> cases n <;> cases c <;> simp_all [confirmsLive]

theorem sessions_need_live_identity (hunused : ∀ id, w.next ≤ id → w.db (.deviceSession id) = none)
    (hw : SessionsNeedIdentity t w.db)
    (h : Execution (fun g i => confirmationsLive g i = true)
      (Global.init w fun i => (ops i).program) tr g) : SessionsNeedIdentity t g.world.db := by
  have hstart : SessionsShielded t (fun _ : ι => .calm) (fun _ => Pending.empty) w := {
    facts := fun _ => .empty hunused
    unused := hunused
    shielded := fun id s hs hworks => by
      by_contra hnone
      refine hw s.userId (fun identityId i hi huser => ?_) id s hs rfl hworks
      by_contra hlive
      exact hnone ⟨identityId,i,hi,huser,eq_false_of_ne_true hlive,fun _ hc => hc.elim⟩ }
  obtain ⟨ph,hstanding⟩ := h.standing shielded_annotated (fun g i key l n k hc hp hfree => by
      simp only [confirmationsLive,hp] at hc
      exact confirmsLive_unlocked hc fun heq => by rw [hfree heq]; rfl)
    (fun i => settles_program (ops i)) hstart
  intro userId hshut id s hs huser hworks
  obtain ⟨identityId,i,hi,howner,hlive,_⟩ := hstanding.inv.shielded id s hs hworks
  have hclosed := hshut identityId i hi (howner.trans huser)
  rw [hlive] at hclosed
  cases hclosed

end executions

def loginAndDisable : Bool → IdentityOp
  | false => .login (sampleCallback .active)
  | true => .synchronize 1 10 5 fun _ => .status .disabled

theorem sample_sessions (t : Time) : SessionsNeedIdentity t sampleWorld.db := by
  intro userId _ id s hs
  cases hs

def sessionOver (g : Global Bool Row Time Exn) (id : Id) : Option Status × Option SessionStatus :=
  ((g.world.db (.externalIdentity 2)).map fun i : ExternalIdentity => i.status,
    (g.world.db (.deviceSession id)).map fun s : DeviceSession => s.status)

theorem sessions_need_live_identity_disabled :
    ∃ tr g, Execution (fun g i => confirmationsLive g i = true)
        (Global.init sampleWorld fun i => (loginAndDisable i).program) tr g ∧
      sessionOver g 3 = (some .disabled,some .revoked) ∧ SessionsNeedIdentity 11 g.world.db := by
  have hplay : (((Global.init sampleWorld fun i => (loginAndDisable i).program).play confirmationsLive
      (List.replicate 6 (false,1) ++ List.replicate 20 (true,2))).map fun r => sessionOver r.2 3) =
      some (some .disabled,some .revoked) := by decide +kernel
  obtain ⟨⟨tr,g⟩,hp,heq⟩ := Option.map_eq_some_iff.mp hplay
  have hrun := (Global.play_run (.refl) _ hp).execution
  exact ⟨_,g,hrun,heq,sessions_need_live_identity (fun _ _ => rfl) (sample_sessions 11) hrun⟩

-- The identity is disabled and the sessions are revoked between the SELECT and the flush of the login.
def disableInside : List (Bool × Time) :=
  [(false,0)] ++ List.replicate 8 (true,1) ++ List.replicate 6 (false,1)

def leakedRun : List (Commit Bool Row) × Global Bool Row Time Exn :=
  ((Global.init sampleWorld fun i => (loginAndDisable i).program).play (fun _ _ => true) disableInside).get
    (by decide +kernel)

def leakedIdentity : ExternalIdentity := ⟨"issuer","subject",1,.disabled,.disabled,5,5,none,5⟩

theorem leaked_identity : ∀ id, leakedRun.2.world.db (.externalIdentity id) =
    if id = 2 then some leakedIdentity else none
  | 0 => rfl
  | 1 => rfl
  | 2 => rfl
  | _ + 3 => rfl

theorem leaked_shutOut : ShutOut leakedRun.2.world.db 1 := by
  intro id i hi _
  rw [leaked_identity] at hi
  split at hi
  · cases hi
    rfl
  · cases hi

theorem session_outlives_identity :
    ∃ tr g, Execution (fun _ _ => True) (Global.init sampleWorld fun i => (loginAndDisable i).program) tr g ∧
      (∀ i, g.pends i = Pending.empty ∧ (g.thread i).prog.finished = true) ∧
      SessionsNeedIdentity 11 sampleWorld.db ∧ ¬ SessionsNeedIdentity 11 g.world.db := by
  have hp : (Global.init sampleWorld fun i => (loginAndDisable i).program).play (fun _ _ => true)
      disableInside = some leakedRun := (Option.some_get _).symm
  have hrun := (Global.play_run (.refl) _ hp).execution
  refine ⟨_,leakedRun.2,hrun.weaken fun _ _ _ => trivial,fun i => ?_,sample_sessions 11,fun h => ?_⟩
  · cases i <;> exact ⟨rfl,rfl⟩
  · exact h 1 leaked_shutOut 4 ⟨1,.active,60000005,none⟩ rfl rfl ⟨rfl,by decide⟩

end AiScdc.Identity
