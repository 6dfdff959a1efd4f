import AiScdc.DeviceSessions.LogoutCourse

namespace AiScdc.DeviceSessions
open Transaction

namespace LogoutPhase

def lock : LogoutPhase → Option Id
  | .locked sessionId | .replacing sessionId _ | .numbered sessionId _ | .inserted sessionId _ => some sessionId
  | _ => none

-- The session of which a call has found the open continuations.
def cleared : LogoutPhase → Option Id
  | .replacing sessionId _ | .numbered sessionId _ | .inserted sessionId _ => some sessionId
  | _ => none

def Rest : LogoutPhase → Id → Prop
  | .replacing _ rest, id => id ∈ rest
  | .inserted _ id', id => id = id'
  | _, _ => False

def drawn : LogoutPhase → Option Id
  | .numbered _ id | .inserted _ id => some id
  | _ => none

def loaded : LogoutPhase → Option ProviderLogoutContinuation
  | .chosen _ c | .preparing _ c _ => some c
  | _ => none

def secret : LogoutPhase → Option Id
  | .preparing _ _ secret | .prepared _ secret | .left _ secret => some secret
  | _ => none

def issued : LogoutPhase → Option (Id × Id)
  | .left id secret => some (id,secret)
  | _ => none

def accepted : LogoutPhase → Option (Id × Id)
  | .continuing id secret | .consumed id secret => some (id,secret)
  | _ => none

def answered : LogoutPhase → Option (Id × Id)
  | .redirected id secret => some (id,secret)
  | _ => none

-- A call in such a phase has written no continuation.
def quiet : LogoutPhase → Prop
  | .replacing _ _ | .numbered _ _ | .inserted _ _ | .prepared _ _ | .abandoned _ | .consumed _ _ => False
  | _ => True

-- What remains of a call that stops where it stands.
def resting : LogoutPhase → LogoutPhase
  | .left id secret => .left id secret
  | .redirected id secret => .redirected id secret
  | _ => .outside

end LogoutPhase

structure ProviderLogoutContinuation.Lawful (c : ProviderLogoutContinuation) : Prop where
  unused : c.status = .available → c.Pristine
  closed : c.status = .consumed ∨ c.status = .superseded → c.sealedProviderHint = none

def HintRemoved {id : Id} (v : Row (.continuation id)) : Prop :=
  ∃ c : ProviderLogoutContinuation, v = some c ∧ c.sealedProviderHint = none

def Spent {id : Id} (v : Row (.continuation id)) : Prop :=
  ∃ c : ProviderLogoutContinuation, v = some c ∧ c.consumedAt ≠ none

section turns

variable [SecretHash] {now : Time} {x : LogoutPhase} {id : Id} {v u : Row (.continuation id)}

open ProviderLogoutContinuation

theorem turn_cases {c c' : ProviderLogoutContinuation} (h : x.turn now id c c') :
    (∃ sessionId, c.OpenOn sessionId ∧ c' = c.supersede now) ∨
      (∃ secret, x = .prepared id secret ∧ c.Prepared (hashSessionSecret secret) now c') ∨
      c.Abandoned c' ∨
      ∃ secret, x = .consumed id secret ∧ c.status = .prepared ∧
        c.browserSecretHash = some (hashSessionSecret secret) ∧ c.consumedAt = none ∧ c' = c.consume now := by
  cases x with
  | replacing | numbered | inserted => exact Or.inl ⟨_,h⟩
  | prepared id' secret =>
    obtain ⟨rfl,hp⟩ := h
    exact Or.inr (Or.inl ⟨secret,rfl,hp⟩)
  | abandoned id' => exact Or.inr (Or.inr (Or.inl h.2))
  | consumed id' secret =>
    obtain ⟨rfl,hc⟩ := h
    exact Or.inr (Or.inr (Or.inr ⟨secret,rfl,hc⟩))
  | _ => exact h.elim

theorem Turns.lawful (h : Turns now x id v u) :
    ∀ c, u = some c → c.Lawful := by
  rintro c' rfl
  cases h with
  | opens hx hsession hp =>
    have hclosed : ¬ (c'.status = .consumed ∨ c'.status = .superseded) := by simp [hp.status]
    exact ⟨fun _ => hp,fun hs => (hclosed hs).elim⟩
  | turn hturn =>
    rcases turn_cases hturn with ⟨_,_,rfl⟩ | ⟨_,_,hp⟩ | ha | ⟨_,_,_,_,_,rfl⟩
    · exact ⟨fun hs => (by cases hs),fun _ => rfl⟩
    · have hclosed : ¬ (c'.status = .consumed ∨ c'.status = .superseded) := by simp [hp.status]
      exact ⟨fun hs => (by cases hs.symm.trans hp.status),fun hs => (hclosed hs).elim⟩
    · exact ⟨fun hs => (by cases hs.symm.trans ha.status),fun _ => ha.hint⟩
    · exact ⟨fun hs => (by cases hs),fun _ => rfl⟩

theorem Turns.removed (h : Turns now x id v u) (hv : HintRemoved v) : HintRemoved u := by
  obtain ⟨c,rfl,hhint⟩ := hv
  cases h with
  | turn hturn =>
    refine ⟨_,rfl,?_⟩
    rcases turn_cases hturn with ⟨_,_,rfl⟩ | ⟨_,_,hp⟩ | ha | ⟨_,_,_,_,_,rfl⟩
    · rfl
    · exact hp.hint.trans hhint
    · exact ha.hint
    · rfl

theorem Turns.spent (h : Turns now x id v u) (hv : Spent v) : Spent u := by
  obtain ⟨c,rfl,hconsumed⟩ := hv
  cases h with
  | turn hturn =>
    refine ⟨_,rfl,?_⟩
    rcases turn_cases hturn with ⟨_,_,rfl⟩ | ⟨_,_,hp⟩ | ha | ⟨_,_,_,_,_,rfl⟩
    · exact hconsumed
    · rw [hp.consumed]
      exact hconsumed
    · exact ha.consumed
    · exact Option.some_ne_none _

theorem Turns.open_inserted {sessionId : Id} (h : Turns now x id v u)
    (hu : OpenAt sessionId (.continuation id) u) : x = .inserted sessionId id := by
  obtain ⟨c,rfl,hsession,hstatus⟩ := hu
  cases h with
  | opens hx hsame hp =>
    rw [hsession] at hsame
    exact hsame ▸ hx
  | turn hturn =>
    rcases turn_cases hturn with ⟨_,_,rfl⟩ | ⟨_,_,hp⟩ | ha | ⟨_,_,_,_,_,rfl⟩
    · cases hstatus
    · cases hstatus.symm.trans hp.status
    · cases hstatus.symm.trans ha.status
    · cases hstatus

theorem Turns.present (h : Turns now x id v u) (hu : u ≠ none) :
    v ≠ none ∨ ∃ sessionId, x = .inserted sessionId id := by
  cases h with
  | gone => exact (hu rfl).elim
  | turn => exact Or.inl (Option.some_ne_none _)
  | opens hx => exact Or.inr ⟨_,hx⟩

theorem quiet_turns (hx : x.quiet) : ¬ Turns now x id v u := by
  intro h
  cases h with
  | gone hflushes => cases x <;> first | exact hx | exact hflushes
  | turn hturn => cases x <;> first | exact hx | exact hturn
  | opens hinserted =>
    subst hinserted
    exact hx

theorem Turns.mono {y : LogoutPhase} (h : Turns now x id v u)
    (hturn : ∀ c c', x.turn now id c c' → y.turn now id c c') (hflushes : ¬ x.flushes id)
    (hinserted : ∀ sessionId, x ≠ .inserted sessionId id) : Turns now y id v u := by
  cases h with
  | gone hx => exact (hflushes hx).elim
  | turn h => exact .turn (hturn _ _ h)
  | opens hx => exact (hinserted _ hx).elim

-- A digest is as it was, with the time it expires, or it is that of the secret just prepared.
theorem Turns.hash (h : Turns now x id v u) {c' : ProviderLogoutContinuation} (hu : u = some c') {n : ℕ}
    (hn : c'.browserSecretHash = some n) :
    (∃ c : ProviderLogoutContinuation, v = some c ∧ c.browserSecretHash = some n ∧
        c.browserSecretExpiresAt = c'.browserSecretExpiresAt) ∨
      ∃ secret, x = .prepared id secret ∧ n = hashSessionSecret secret ∧
        c'.browserSecretExpiresAt = some (now + providerLogoutContinuation) := by
  subst hu
  cases h with
  | opens hx hsession hp => cases hn.symm.trans hp.hash
  | turn hturn =>
    rcases turn_cases hturn with ⟨_,_,rfl⟩ | ⟨secret,hx,hp⟩ | ha | ⟨_,_,_,_,_,rfl⟩
    · exact Or.inl ⟨_,rfl,hn,rfl⟩
    · exact Or.inr ⟨secret,hx,Option.some.inj (hn.symm.trans hp.hash),hp.expires⟩
    · exact Or.inl ⟨_,rfl,ha.hash.symm.trans hn,ha.expires.symm⟩
    · cases hn

end turns

section facts

variable [SecretHash]

structure LogoutFact (now : Time) (x : LogoutPhase) (p : Pending Row) (w : World) : Prop where
  rows : ∀ id wr, p (.continuation id) = some wr → Turns now x id (w.db (.continuation id)) wr.value
  lock : ∀ sessionId, x.lock = some sessionId → p (.deviceSession sessionId) ≠ none
  clear : ∀ sessionId id, x.cleared = some sessionId →
    OpenAt sessionId (.continuation id) (p.view w.db (.continuation id)) → x.Rest id
  drawn : ∀ id, x.drawn = some id → id < w.next
  loaded : ∀ c, x.loaded = some c → c.Pristine
  written : ∀ id secret, x = .consumed id secret → p (.continuation id) ≠ none

variable {now : Time} {x y : LogoutPhase} {p : Pending Row} {w : World}

theorem LogoutFact.view (h : LogoutFact now x p w) (id : Id) :
    p.view w.db (.continuation id) = w.db (.continuation id) ∨
      Turns now x id (w.db (.continuation id)) (p.view w.db (.continuation id)) := by
  cases hp : p (.continuation id) with
  | none => exact Or.inl (Pending.view_of_none hp w.db)
  | some wr =>
    rw [Pending.view_of_some hp]
    exact Or.inr (h.rows id wr hp)

theorem LogoutFact.unwritten (h : LogoutFact now x p w) {id : Id} (hx : ∀ v u, ¬ Turns now x id v u) :
    p (.continuation id) = none := by
  cases hp : p (.continuation id) with
  | none => rfl
  | some wr => exact (hx _ _ (h.rows id wr hp)).elim

theorem LogoutFact.empty {db : Db} {n : ℕ} (hlock : x.lock = none) (hcleared : x.cleared = none)
    (hdrawn : x.drawn = none) (hloaded : ∀ c, x.loaded = some c → c.Pristine)
    (hconsumed : ∀ id secret, x ≠ .consumed id secret) : LogoutFact now x Pending.empty ⟨db,n⟩ where
  rows _ _ hwr := by cases hwr
  lock _ hx := by cases hlock.symm.trans hx
  clear _ _ hx := by cases hcleared.symm.trans hx
  drawn _ hx := by cases hdrawn.symm.trans hx
  loaded := hloaded
  written id secret hx := (hconsumed id secret hx).elim

theorem LogoutFact.bump (h : LogoutFact now x p w) {n : ℕ} (hn : w.next ≤ n) :
    LogoutFact now x p ⟨w.db,n⟩ :=
  ⟨h.rows,h.lock,h.clear,fun id hid => lt_of_lt_of_le (h.drawn id hid) hn,h.loaded,h.written⟩

theorem LogoutFact.quiet_unwritten (h : LogoutFact now x p w) (hx : x.quiet) (id : Id) :
    p (.continuation id) = none := h.unwritten fun _ _ => quiet_turns hx

theorem LogoutFact.phase (h : LogoutFact now x p w) {n : ℕ} (hx : x.quiet)
    (hlock : ∀ sessionId, y.lock = some sessionId → x.lock = some sessionId)
    (hclear : ∀ sessionId id, y.cleared = some sessionId →
      OpenAt sessionId (.continuation id) (p.view w.db (.continuation id)) → y.Rest id)
    (hdrawn : y.drawn = none) (hloaded : ∀ c, y.loaded = some c → c.Pristine)
    (hconsumed : ∀ id secret, y ≠ .consumed id secret) : LogoutFact now y p ⟨w.db,n⟩ where
  rows id wr hwr := by
    rw [h.quiet_unwritten hx id] at hwr
    cases hwr
  lock sessionId hy := h.lock sessionId (hlock sessionId hy)
  clear := hclear
  drawn _ hy := by cases hdrawn.symm.trans hy
  loaded := hloaded
  written id secret hy := (hconsumed id secret hy).elim

-- A write of a device session.
theorem LogoutFact.put_session (h : LogoutFact now x p w) {sessionId : Id} {l v : Row (.deviceSession sessionId)}
    (hx : x.quiet) (hlock : y.lock = none ∨ y.lock = some sessionId) (hcleared : y.cleared = none)
    (hdrawn : y.drawn = none) (hloaded : ∀ c, y.loaded = some c → x.loaded = some c)
    (hconsumed : ∀ id secret, y ≠ .consumed id secret) :
    LogoutFact now y (p.put (.deviceSession sessionId) l v) w where
  rows id wr hwr := by
    rw [Pending.put_ne _ _ _ (by simp),h.quiet_unwritten hx id] at hwr
    cases hwr
  lock sessionId' hy := by
    rcases hlock with hnone | hsome
    · cases hnone.symm.trans hy
    · obtain rfl := Option.some.inj (hsome.symm.trans hy)
      rw [Pending.put_self]
      exact Option.some_ne_none _
  clear _ _ hy := by cases hcleared.symm.trans hy
  drawn _ hy := by cases hdrawn.symm.trans hy
  loaded c hc := h.loaded c (hloaded c hc)
  written id secret hy := (hconsumed id secret hy).elim

-- A first write of a continuation.
theorem LogoutFact.put_row (h : LogoutFact now x p w) {id : Id} {l u : Row (.continuation id)}
    (hfree : p (.continuation id) = none)
    (hturn : Turns now y id (p.view w.db (.continuation id)) u)
    (hsame : ∀ id' v u, id' ≠ id → Turns now x id' v u → Turns now y id' v u)
    (hlock : ∀ sessionId, y.lock = some sessionId → x.lock = some sessionId)
    (hcleared : ∀ sessionId, y.cleared = some sessionId → x.cleared = some sessionId)
    (hrest : ∀ id', id' ≠ id → x.Rest id' → y.Rest id')
    (hdrawn : ∀ id, y.drawn = some id → x.drawn = some id) (hloaded : y.loaded = none)
    (hconsumed : ∀ id' secret, y = .consumed id' secret → id' = id) :
    LogoutFact now y (p.put (.continuation id) l u) w where
  rows id' wr hwr := by
    by_cases hid : id' = id
    · subst hid
      rw [Pending.put_self] at hwr
      cases hwr
      rw [Pending.view_of_none hfree] at hturn
      exact hturn
    · rw [Pending.put_ne _ _ _ (by simpa using hid)] at hwr
      exact hsame id' _ _ hid (h.rows id' wr hwr)
  lock sessionId hy := by
    rw [Pending.put_ne _ _ _ (by simp)]
    exact h.lock sessionId (hlock sessionId hy)
  clear sessionId id' hy hopen := by
    by_cases hid : id' = id
    · subst hid
      rw [Pending.view_put_self] at hopen
      rw [hturn.open_inserted hopen]
      rfl
    · rw [Pending.view_put_ne _ _ _ _ (by simpa using hid)] at hopen
      exact hrest id' hid (h.clear sessionId id' (hcleared sessionId hy) hopen)
  drawn id' hy := h.drawn id' (hdrawn id' hy)
  loaded _ hy := by cases hloaded.symm.trans hy
  written id' secret hy := by
    obtain rfl := hconsumed id' secret hy
    rw [Pending.put_self]
    exact Option.some_ne_none _

-- A call that replaces continuations writes each row once.
theorem LogoutFact.untouched (h : LogoutFact now x p w) {id : Id} {u : Row (.continuation id)}
    (hinserted : ∀ sessionId id, x ≠ .inserted sessionId id) (hx : ¬ x.flushes id) (hy : ¬ y.flushes id)
    (hopen : ∀ c c', y.turn now id c c' → ∃ sessionId, c.OpenOn sessionId)
    (hturn : Turns now y id (p.view w.db (.continuation id)) u) : p (.continuation id) = none := by
  cases hp : p (.continuation id) with
  | none => rfl
  | some wr =>
    have hold := h.rows id wr hp
    rw [Pending.view_of_some hp] at hturn
    generalize wr.value = v at hold hturn
    generalize w.db (.continuation id) = stored at hold
    cases hturn with
    | gone hflushes => exact (hy hflushes).elim
    | turn hturn =>
      obtain ⟨sessionId,hc⟩ := hopen _ _ hturn
      exact (hinserted _ _ (hold.open_inserted ⟨_,rfl,hc⟩)).elim
    | opens =>
      cases hold with
      | gone hflushes => exact (hx hflushes).elim

-- A commit of another call that holds none of the same locks.
theorem LogoutFact.commit {now' : Time} {x' : LogoutPhase} {q : Pending Row} (h : LogoutFact now x p w)
    (h' : LogoutFact now' x' q w) (happart : ∀ k, p k ≠ none → q k = none) :
    LogoutFact now x p ⟨q.view w.db,w.next⟩ where
  rows id wr hwr := by
    have hfree : q (.continuation id) = none := happart _ (by simp [hwr])
    show Turns now x id (q.view w.db (.continuation id)) wr.value
    rw [Pending.view_of_none hfree]
    exact h.rows id wr hwr
  lock := h.lock
  clear sessionId id hx hopen := by
    cases hp : p (.continuation id) with
    | some wr =>
      rw [Pending.view_of_some hp] at hopen
      exact h.clear sessionId id hx (by rw [Pending.view_of_some hp]; exact hopen)
    | none =>
      rw [Pending.view_of_none hp] at hopen
      rcases h'.view id with heq | hturn
      · exact h.clear sessionId id hx (by rw [Pending.view_of_none hp]; exact heq ▸ hopen)
      · have hlock : x.lock = some sessionId := by
          cases x <;> first | exact hx | cases hx
        have hfree := happart _ (h.lock sessionId hlock)
        exact (h'.lock sessionId (by rw [hturn.open_inserted hopen]; rfl) hfree).elim
  drawn := h.drawn
  loaded := h.loaded
  written := h.written

end facts

end AiScdc.DeviceSessions
