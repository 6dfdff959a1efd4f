import AiScdc.AuditRetention.Sweeps

namespace AiScdc.AuditRetention
open Transaction

namespace SweepPhase

def token : SweepPhase → Option Id
  | .named τ | .claiming τ | .sweeping τ _ _ | .recording τ _ | .recorded τ _ | .completing τ _ => some τ
  | _ => none

-- The token of a call whose claim is committed.
def owned : SweepPhase → Option Id
  | .sweeping τ _ _ | .recording τ _ | .recorded τ _ | .completing τ _ => some τ
  | _ => none

def drawn : SweepPhase → Option Id
  | .recording _ id | .recorded _ id | .completing _ id | .failing id | .reporting id => some id
  | _ => none

def inserted : SweepPhase → Option Id
  | .recorded _ id | .completing _ id | .reporting id => some id
  | _ => none

def Begun : SweepPhase → Cleanup → Prop
  | .sweeping _ begun _, c => c ∈ begun
  | .recording _ _, _ | .recorded _ _, _ | .completing _ _, _ => True
  | _, _ => False

def Rest : SweepPhase → Cleanup → Id → Prop
  | .sweeping _ (c :: _) rest, c', id => c' = c ∧ id ∈ rest
  | _, _, _ => False

def WritesState : SweepPhase → Prop
  | .founding | .claiming _ | .completing _ _ => True
  | _ => False

def stateStep (now : Time) : SweepPhase → RowChange
  | .founding => Founds
  | .claiming τ => Claims τ now
  | .completing τ _ => Completes τ now
  | _ => fun _ _ _ => False

end SweepPhase

def AuditEvent.withoutDetails (e : AuditEvent) : AuditEvent :=
  { e with clientIpAddress := none, userAgent := none }

-- An old row deleted, or an old identity event left without details.
def Ages (now : Time) : RowChange
  | .event t _, v, u => ∃ e : AuditEvent, v = some e ∧
      (e.createdAt < now - auditCoreRetention ∧ u = none ∨
        t = .identity ∧ e.createdAt < now - identityDetailRetention ∧ u = some e.withoutDetails)
  | _, _, _ => False

section rows

variable {now now' : Time} {c c' : Cleanup} {k : Key} {v u u' : Row k}

theorem Clears.ages (h : Clears now c k v u) : Ages now k v u := by
  cases k with
  | state => exact h.elim
  | event t id =>
    obtain ⟨rfl,e,rfl,he,rfl⟩ := h
    cases c with
    | delete t => exact ⟨e,rfl,Or.inl ⟨of_decide_eq_true he,rfl⟩⟩
    | details => exact ⟨e,rfl,Or.inr ⟨rfl,of_decide_eq_true (Bool.and_eq_true_iff.mp he).1,rfl⟩⟩

theorem Ages.again (h : Ages now k v u) (h' : Ages now k u u') : Ages now k v u' := by
  cases k with
  | state => exact h.elim
  | event t id =>
    obtain ⟨e,rfl,⟨_,rfl⟩ | ⟨rfl,hold,rfl⟩⟩ := h
    · obtain ⟨_,hnone,_⟩ := h'
      cases hnone
    · obtain ⟨_,heq,hends⟩ := h'
      cases heq
      exact ⟨e,rfl,hends⟩

theorem Ages.present (h : Ages now k v u) : v ≠ none := by
  cases k with
  | state => exact h.elim
  | event t id =>
    obtain ⟨e,rfl,_⟩ := h
    exact Option.some_ne_none e

-- A row without details is no older than it was.
theorem Ages.due (h : Ages now k v u) (hdue : Due now' c k u) : Due now' c k v := by
  cases k with
  | state => exact hdue.elim
  | event t id =>
    obtain ⟨ht,e',rfl,happlies⟩ := hdue
    obtain ⟨e,rfl,⟨_,hnone⟩ | ⟨_,_,heq⟩⟩ := h
    · cases hnone
    · obtain rfl := Option.some.inj heq
      refine ⟨ht,e,rfl,?_⟩
      cases c with
      | delete t => exact happlies
      | details => simp [Cleanup.applies,AuditEvent.withoutDetails] at happlies

theorem Clears.cleared (h : Clears now c k v u) : ¬ Due now c k u := by
  intro hdue
  cases k with
  | state => exact h
  | event t id =>
    obtain ⟨_,e,rfl,_,rfl⟩ := h
    obtain ⟨_,e',heq,happlies⟩ := hdue
    cases c with
    | delete t => cases heq
    | details =>
      obtain rfl := Option.some.inj heq
      simp [Cleanup.applies] at happlies

theorem Records.young {id : Id} (h : Records now id k v u) : ¬ Due now c k u := by
  intro hdue
  cases k with
  | state => exact h
  | event t id =>
    obtain ⟨_,_,_,_,rfl⟩ := h
    obtain ⟨_,e,heq,happlies⟩ := hdue
    obtain rfl := Option.some.inj heq
    cases c with
    | delete t =>
      have hold : now < now - auditCoreRetention := of_decide_eq_true happlies
      have hpos : (0 : ℤ) ≤ auditCoreRetention := by decide
      exact absurd hold (not_lt.mpr (sub_le_self now hpos))
    | details => simp [Cleanup.applies] at happlies

end rows

structure Fact (now : Time) (x : SweepPhase) (p : Pending Row) (w : World) : Prop where
  state : ∀ wr, p .state = some wr → x.stateStep now .state (w.db .state) wr.value
  written : x.WritesState → p .state ≠ none
  events : ∀ t id wr, p (.event t id) = some wr →
    x.owned ≠ none ∧ Ages now (.event t id) (w.db (.event t id)) wr.value ∨
      x.inserted = some id ∧ Records now id (.event t id) (w.db (.event t id)) wr.value
  due : ∀ τ (s : AuditRetentionState), x.owned = some τ → w.db .state = some s →
    s.claimToken = some τ → s.cleanupDue now = true
  token : ∀ τ, x.token = some τ → τ < w.next
  drawn : ∀ id, x.drawn = some id → id < w.next
  unwritten : ∀ id, x.drawn = some id → x.inserted = none → ∀ t, p (.event t id) = none

section facts

variable {now : Time} {x y : SweepPhase} {p : Pending Row} {w : World} {db' : Db}

theorem Fact.state_view (h : Fact now x p w) :
    p.view w.db .state = w.db .state ∧ ¬ x.WritesState ∨
      x.stateStep now .state (w.db .state) (p.view w.db .state) := by
  cases hp : p .state with
  | none => exact Or.inl ⟨Pending.view_of_none hp w.db,fun hw => h.written hw hp⟩
  | some wr =>
    rw [Pending.view_of_some hp]
    exact Or.inr (h.state wr hp)

theorem Fact.event_view (h : Fact now x p w) (t : AuditTable) (id : Id) :
    p.view w.db (.event t id) = w.db (.event t id) ∨
      x.owned ≠ none ∧ Ages now (.event t id) (w.db (.event t id)) (p.view w.db (.event t id)) ∨
      x.inserted = some id ∧
        Records now id (.event t id) (w.db (.event t id)) (p.view w.db (.event t id)) := by
  cases hp : p (.event t id) with
  | none => exact Or.inl (Pending.view_of_none hp w.db)
  | some wr =>
    rw [Pending.view_of_some hp]
    exact Or.inr (h.events t id wr hp)

theorem Fact.state_none (h : Fact now x p w) (hx : ∀ v u, ¬ x.stateStep now .state v u) :
    p .state = none := by
  cases hp : p .state with
  | none => rfl
  | some wr => exact (hx _ _ (h.state wr hp)).elim

theorem Fact.commit (h : Fact now x p w) (hkept : ∀ k, p k ≠ none → db' k = w.db k)
    (hclaim : ∀ τ (s : AuditRetentionState), x.owned = some τ → db' .state = some s →
      s.claimToken = some τ → w.db .state = some s) : Fact now x p ⟨db',w.next⟩ where
  state wr hwr := by
    have hsame : db' .state = w.db .state := hkept .state (by simp [hwr])
    show x.stateStep now .state (db' .state) wr.value
    rw [hsame]
    exact h.state wr hwr
  written := h.written
  events t id wr hwr := by
    have hsame : db' (.event t id) = w.db (.event t id) := hkept _ (by simp [hwr])
    show x.owned ≠ none ∧ Ages now (.event t id) (db' (.event t id)) wr.value ∨
      x.inserted = some id ∧ Records now id (.event t id) (db' (.event t id)) wr.value
    rw [hsame]
    exact h.events t id wr hwr
  due τ s hτ hs hstored := h.due τ s hτ (hclaim τ s hτ hs hstored) hstored
  token := h.token
  drawn := h.drawn
  unwritten := h.unwritten

theorem Fact.empty {n : ℕ} (hwrites : ¬ x.WritesState)
    (hdue : ∀ τ (s : AuditRetentionState), x.owned = some τ → w.db .state = some s →
      s.claimToken = some τ → s.cleanupDue now = true)
    (htoken : ∀ τ, x.token = some τ → τ < n) (hdrawn : ∀ id, x.drawn = some id → id < n) :
    Fact now x Pending.empty ⟨w.db,n⟩ where
  state _ hwr := by cases hwr
  written hx := (hwrites hx).elim
  events _ _ _ hwr := by cases hwr
  due := hdue
  token := htoken
  drawn := hdrawn
  unwritten _ _ _ _ := rfl

-- The phase changes and nothing is written.
theorem Fact.phase (h : Fact now x p w) {n : ℕ} (hn : w.next ≤ n) (hnone : p .state = none)
    (hwrites : ¬ y.WritesState) (howned : y.owned = x.owned) (hinserted : y.inserted = x.inserted)
    (htoken : ∀ τ, y.token = some τ → x.token = some τ ∨ τ < n)
    (hdrawn : ∀ id, y.drawn = some id → id < n ∧ ∀ t, p (.event t id) = none) :
    Fact now y p ⟨w.db,n⟩ where
  state wr hwr := by
    rw [hnone] at hwr
    cases hwr
  written hy := (hwrites hy).elim
  events t id wr hwr := by
    rw [howned,hinserted]
    exact h.events t id wr hwr
  due := by
    rw [howned]
    exact h.due
  token τ hτ := by
    rcases htoken τ hτ with hx | hx
    · exact lt_of_lt_of_le (h.token τ hx) hn
    · exact hx
  drawn id hid := (hdrawn id hid).1
  unwritten id hid _ := (hdrawn id hid).2

theorem Fact.put_state (h : Fact now x p w) {l u : Row .state}
    (hstep : y.stateStep now .state (w.db .state) u) (howned : y.owned = x.owned)
    (hinserted : y.inserted = x.inserted) (htoken : y.token = none ∨ y.token = x.token)
    (hdrawn : y.drawn = x.drawn) : Fact now y (p.put .state l u) w where
  state wr hwr := by
    rw [Pending.put_self] at hwr
    cases hwr
    exact hstep
  written _ := by
    rw [Pending.put_self]
    exact Option.some_ne_none _
  events t id wr hwr := by
    rw [Pending.put_ne p l u (fun hk => by cases hk)] at hwr
    rw [howned,hinserted]
    exact h.events t id wr hwr
  due := by
    rw [howned]
    exact h.due
  token τ hτ := by
    rcases htoken with heq | heq
    · rw [heq] at hτ
      cases hτ
    · exact h.token τ (heq ▸ hτ)
  drawn := by
    rw [hdrawn]
    exact h.drawn
  unwritten id hid hy t := by
    rw [Pending.put_ne p l u (fun hk => by cases hk)]
    exact h.unwritten id (hdrawn ▸ hid) (hinserted ▸ hy) t

theorem Fact.put_event (h : Fact now x p w) {t : AuditTable} {id : Id} {l u : Row (.event t id)}
    (hwrite : y.owned ≠ none ∧ Ages now (.event t id) (w.db (.event t id)) u ∨
      y.inserted = some id ∧ Records now id (.event t id) (w.db (.event t id)) u)
    (hnone : p .state = none) (hwrites : ¬ y.WritesState) (howned : y.owned = x.owned)
    (hinserted : x.inserted = none) (htoken : y.token = x.token) (hdrawn : y.drawn = x.drawn)
    (hnew : y.drawn = none ∨ y.inserted ≠ none) : Fact now y (p.put (.event t id) l u) w where
  state wr hwr := by
    rw [Pending.put_ne p l u (fun hk => by cases hk),hnone] at hwr
    cases hwr
  written hy := (hwrites hy).elim
  events t' id' wr hwr := by
    by_cases hk : Key.event t' id' = .event t id
    · cases hk
      rw [Pending.put_self] at hwr
      cases hwr
      exact hwrite
    · rw [Pending.put_ne p l u hk] at hwr
      rcases h.events t' id' wr hwr with hages | ⟨hid,hrecords⟩
      · rw [howned]
        exact Or.inl hages
      · rw [hinserted] at hid
        cases hid
  due := by
    rw [howned]
    exact h.due
  token := by
    rw [htoken]
    exact h.token
  drawn := by
    rw [hdrawn]
    exact h.drawn
  unwritten id' hid hy := by
    rcases hnew with hx | hx
    · rw [hx] at hid
      cases hid
    · exact (hx hy).elim

end facts

-- What a claim released at a commit leaves as the time of the last completion.
def completedAt (v u : Row .state) : Option Time :=
  v.bind fun s : AuditRetentionState => u.bind fun s' : AuditRetentionState =>
    if s.claimToken.isSome && s'.claimToken.isNone then s'.lastCompletedAt else none

section completions

variable {now : Time} {τ : Id} {v u : Row .state} {x : SweepPhase} {p : Pending Row} {w : World}

theorem completedAt_self (v : Row .state) : completedAt v v = none := by
  cases v with
  | none => rfl
  | some s =>
    obtain ⟨last,token,claimed⟩ := s
    cases token <;> rfl

theorem Founds.completedAt (h : Founds .state v u) : completedAt v u = none := by
  obtain ⟨rfl,rfl⟩ := h
  rfl

theorem Claims.completedAt (h : Claims τ now .state v u) : completedAt v u = none := by
  obtain ⟨s,rfl,_,_,rfl⟩ := h
  simp [AuditRetention.completedAt,AuditRetentionState.claim]

theorem Completes.completedAt (h : Completes τ now .state v u) : completedAt v u = some now := by
  obtain ⟨s,rfl,hs,rfl⟩ := h
  simp [AuditRetention.completedAt,AuditRetentionState.complete,hs]

def KeepsLast (v u : Row .state) : Prop :=
  ∀ s : AuditRetentionState, v = some s →
    ∃ s' : AuditRetentionState, u = some s' ∧ s'.lastCompletedAt = s.lastCompletedAt

def SweepPhase.Completing : SweepPhase → Prop
  | .completing _ _ => True
  | _ => False

theorem Fact.completes (h : Fact now x p w) :
    ¬ x.Completing ∧ AuditRetention.completedAt (w.db .state) (p.view w.db .state) = none ∧
        KeepsLast (w.db .state) (p.view w.db .state) ∨
      ∃ τ id, x = .completing τ id ∧ Completes τ now .state (w.db .state) (p.view w.db .state) := by
  rcases h.state_view with ⟨heq,hwrites⟩ | hstep
  · refine Or.inl ⟨fun hx => ?_,?_,fun s hs => ⟨s,heq.trans hs,rfl⟩⟩
    · cases x with
      | completing => exact hwrites trivial
      | _ => exact hx
    · rw [heq]
      exact completedAt_self _
  · cases x with
    | founding =>
      refine Or.inl ⟨fun hx => hx,Founds.completedAt hstep,fun s hs => ?_⟩
      rw [hstep.1] at hs
      cases hs
    | claiming τ =>
      refine Or.inl ⟨fun hx => hx,Claims.completedAt hstep,fun s hs => ?_⟩
      obtain ⟨s',hs',_,_,hclaim⟩ := hstep
      obtain rfl := Option.some.inj (hs.symm.trans hs')
      exact ⟨_,hclaim,rfl⟩
    | completing τ id => exact Or.inr ⟨τ,id,rfl,hstep⟩
    | _ => exact hstep.elim

end completions

end AiScdc.AuditRetention
