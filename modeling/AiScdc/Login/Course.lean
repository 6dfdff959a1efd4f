import AiScdc.Login.Operations
import AiScdc.Transaction.Absorbing
import AiScdc.Transaction.Execution

namespace AiScdc.Login
open Transaction
open DeviceSessions (DeviceSession SecretHash hashSessionSecret recordAndReject resolveDeviceSession
  resolveFound resolveUserSessionCredential)

-- Where a callback stands. A holder has found its claim in place, one overtaken has found the
-- transaction rejected.
inductive CallbackPhase where
  | outside | claiming | claimed | holder | overtaken | rejecting
  | issuing (sessionId : Id) | completing (sessionId : Id) | finished | lost

abbrev RowChange := ∀ k : Key, Row k → Row k → Prop

def Claims : RowChange
  | .loginTransaction _, v, u => ∃ t : LoginTransaction, v = some t ∧ t.status = .pending ∧ u = some t.process
  | _, _, _ => False

-- At most a rejection, and no session left active.
def Rejects : RowChange
  | .loginTransaction _, v, u => ∀ t : LoginTransaction, v = some t → ∃ t' : LoginTransaction, u = some t' ∧
      t'.completedSessionId = t.completedSessionId ∧ (t'.status = t.status ∨ t'.status = .rejected)
  | .deviceSession _, _, u => ∀ s : DeviceSession, u = some s → s.status ≠ .active
  | .provider, _, _ => False

def Ends (completedSessionId : Option Id) (status : LoginStatus) : RowChange
  | .loginTransaction _, v, u => ∀ t : LoginTransaction, v = some t → ∃ t' : LoginTransaction, u = some t' ∧
      t'.completedSessionId = completedSessionId.or t.completedSessionId ∧ t'.status = status
  | _, _, _ => False

def Opens : RowChange
  | .deviceSession _, _, u => ∃ s : DeviceSession, u = some s ∧ s.status = .active
  | _, _, _ => False

-- A callback that has not claimed rejects what it loaded as pending, or answers a provider error.
def Loaded (providerError : Bool) : ∀ k : Key, Row k → Prop
  | .loginTransaction _, some (l : LoginTransaction) => l.status = .pending ∨ providerError = true
  | .loginTransaction _, none => False
  | _, _ => True

def Found (status : LoginStatus) (row : Option LoginTransaction) : Prop :=
  ∃ t, row = some t ∧ t.completedSessionId = none ∧ t.status = status

def loginCourse (id : Id) (providerError : Bool) : Course Row CallbackPhase where
  learn x db _ y := x = .claimed ∧
    (Found .processing (db (.loginTransaction id)) ∧ y = .holder ∨
      Found .rejected (db (.loginTransaction id)) ∧ y = .overtaken ∨
      ¬ Found .processing (db (.loginTransaction id)) ∧ ¬ Found .rejected (db (.loginTransaction id)) ∧
        y = .lost)
  number _ _ _ := False
  update x k g s y :=
    match x with
    | .outside => k = .loginTransaction id ∧ y = .claiming ∧ ∀ v, g v = true → Claims k v (s v)
    | .holder | .overtaken => k = .provider ∧ y = x ∨
        (∃ d, k = .deviceSession d) ∧ y = x ∧ (∀ v, Rejects k v (s v)) ∨
        ∃ d, k = .deviceSession d ∧ y = .issuing d ∧ ∀ v, g v = true → Opens k v (s v)
    | .lost => y = .lost
    | _ => False
  flush x k l n y :=
    match x with
    | .outside => y = x ∧ Loaded providerError k l ∧ ∀ v, Rejects k v (Schema.merge k l n v)
    | .holder => (∃ d, k = .deviceSession d) ∧ y = x ∧ (∀ v, Rejects k v (Schema.merge k l n v)) ∨
        k = .loginTransaction id ∧ y = .rejecting ∧ ∀ v, Ends none .rejected k v (Schema.merge k l n v)
    | .overtaken => (∃ d, k = .deviceSession d) ∧ y = x ∧ ∀ v, Rejects k v (Schema.merge k l n v)
    | .issuing d => k = .loginTransaction id ∧ y = .completing d ∧
        ∀ v, Ends (some d) .completed k v (Schema.merge k l n v)
    | .lost => y = .lost
    | _ => False
  commit x y :=
    match x with
    | .outside | .lost => y = x
    | .claiming => y = .claimed
    | .holder | .overtaken => y = x ∨ y = .claimed
    | .rejecting | .completing _ => y = .finished
    | _ => False
  rollback x y :=
    match x with
    | .outside | .lost => y = x
    | .holder | .overtaken | .issuing _ | .completing _ => y = .claimed
    | _ => False

def LoginCall.answersError : LoginCall → Bool
  | .complete _ => false
  | .providerError _ _ _ => true

section walks

variable {α β : Type} {id : Id} {providerError : Bool}

theorem lost_absorbing : Absorbing (loginCourse id providerError) .lost :=
  ⟨fun _ _ _ => rfl,fun _ _ _ => rfl,rfl,rfl⟩

def Walks (id : Id) (providerError : Bool) (x : CallbackPhase) (m : Op α) : Prop :=
  Writes (loginCourse id providerError) x m (fun _ _ => True) fun _ _ => True

theorem walks_lost (m : Op α) : Walks id providerError .lost m :=
  lost_absorbing.writes m (fun _ => trivial) fun _ => trivial

theorem walks_rejecting (response : Response) :
    Walks id providerError .rejecting (recordAndRespond response : Op α) := ⟨.finished,rfl,trivial⟩

theorem walks_completing (d : Id) (response : Response) :
    Walks id providerError (.completing d) (recordAndRespond response : Op α) := ⟨.finished,rfl,trivial⟩

theorem walks_overtaken (response : Response) :
    Walks id providerError .overtaken (recordAndRespond response : Op α) := ⟨.overtaken,Or.inl rfl,trivial⟩

theorem walks_outside (response : Response) :
    Walks id providerError .outside (recordAndRespond response : Op α) := ⟨.outside,rfl,trivial⟩

theorem walks_then {x y : CallbackPhase} {m : Op α} {f : α → Op β}
    (h : Writes (loginCourse id providerError) x m (fun _ z => z = y) fun _ _ => True)
    (hf : ∀ a, Walks id providerError y (f a)) : Walks id providerError x (m >>= f) :=
  Writes.bind (h.mono (fun a _ hz => hz ▸ hf a) fun _ _ _ => trivial)

theorem writes_flush {x y : CallbackPhase} {k : Key} {l n : k.Entity}
    (hskip : l = n → y = x)
    (h : (loginCourse id providerError).flush x k (some l) (some n) y) :
    Writes (loginCourse id providerError) x (Rows.flush k l n : Op Unit) (fun _ z => z = y)
      fun _ _ => True :=
  ⟨fun heq => ⟨x,Or.inl rfl,(hskip (Option.some.inj heq)).symm⟩,fun _ => ⟨y,h,rfl⟩⟩

theorem session_rejects {d : Id} {l n : DeviceSession} (hl : l.status = .active) (hn : n.status ≠ .active)
    (v : Row (.deviceSession d)) :
    Rejects (.deviceSession d) v (Schema.merge (Key.deviceSession d) (some l) (some n) v) := by
  intro s hs
  have hmerge : Schema.merge (V := Row) (Key.deviceSession d) (some l) (some n) v =
      v.map (DeviceSession.flush l n) := mergeRows_some _ _ _ _
  obtain ⟨c,_,rfl⟩ := Option.map_eq_some_iff.mp (hmerge.symm.trans hs)
  have hpick : pick l.status n.status c.status = n.status := by
    rw [pick,if_neg]
    rw [hl]
    exact hn
  show pick l.status n.status c.status ≠ .active
  rw [hpick]
  exact hn

-- The lookup of the session leaves the callback where it stands, or commits.
theorem resolve_writes [SecretHash] {x y : CallbackPhase}
    (hflush : ∀ d l n, (∀ v, Rejects (.deviceSession d) v (Schema.merge (Key.deviceSession d) l n v)) →
      (loginCourse id providerError).flush x (.deviceSession d) l n x)
    (hcommit : (loginCourse id providerError).commit x y) (cookie : Option (Id × Id)) (now : Time) :
    Writes (loginCourse id providerError) x (resolveUserSessionCredential sessionRows cookie now)
      (fun found z => z = match found with
        | .error rejected => if rejected.recorded then y else x
        | .ok _ => x) fun _ _ => True := by
  cases cookie with
  | none => exact rfl
  | some cookie =>
    obtain ⟨sessionId,secret⟩ := cookie
    refine fun db n => ⟨x,Or.inl rfl,?_⟩
    show Writes _ x (resolveFound sessionRows sessionId secret now (db (.deviceSession sessionId))) _ _
    cases db (.deviceSession sessionId) with
    | none => exact rfl
    | some s =>
      have hrecord (reasonCode : String) : Writes (loginCourse id providerError) x
          (recordAndReject sessionRows reasonCode) (fun found z => z = match found with
            | .error rejected => if rejected.recorded then y else x
            | .ok _ => x) fun _ _ => True := ⟨y,hcommit,rfl⟩
      rw [resolveFound]
      unfold resolveDeviceSession
      dsimp only
      split
      · split
        · exact rfl
        · exact hrecord _
      split
      · exact rfl
      rename_i hactive
      have hs : s.status = .active := not_not.mp hactive
      have hend {n : DeviceSession} (hn : n.status ≠ .active) (reasonCode : String) :
          Writes (loginCourse id providerError) x (do
            Rows.flush (.deviceSession sessionId) s n
            recordAndReject sessionRows reasonCode) (fun found z => z = match found with
              | .error rejected => if rejected.recorded then y else x
              | .ok _ => x) fun _ _ => True := by
        refine Writes.bind ((writes_flush (fun _ => rfl) (hflush _ _ _ (session_rejects hs hn))).mono ?_
          fun _ _ _ => trivial)
        rintro _ _ rfl
        exact hrecord _
      split
      · exact hend (fun h => by cases h) _
      split
      · exact hend (fun h => by cases h) _
      split
      · exact rfl
      · exact rfl

theorem transaction_merge (l n : LoginTransaction) (v : Row (.loginTransaction id)) :
    Schema.merge (V := Row) (Key.loginTransaction id) (some l) (some n) v =
      v.map (LoginTransaction.flush l n) := mergeRows_some _ _ _ _

theorem reject_rejects (l : LoginTransaction) (v : Row (.loginTransaction id)) :
    Rejects (.loginTransaction id) v
      (Schema.merge (Key.loginTransaction id) (some l) (some l.reject) v) := by
  rintro t rfl
  rw [transaction_merge]
  refine ⟨_,rfl,if_pos rfl,?_⟩
  show pick l.status .rejected t.status = t.status ∨ pick l.status .rejected t.status = .rejected
  rw [pick]
  split
  · exact Or.inl rfl
  · exact Or.inr rfl

theorem reject_ends {l : LoginTransaction} (hl : l.status ≠ .rejected) (v : Row (.loginTransaction id)) :
    Ends none .rejected (.loginTransaction id) v
      (Schema.merge (Key.loginTransaction id) (some l) (some l.reject) v) := by
  rintro t rfl
  rw [transaction_merge]
  exact ⟨_,rfl,if_pos rfl,if_neg hl.symm⟩

theorem complete_ends {l : LoginTransaction} {d : Id} {now : Time} (hl : l.completedSessionId = none)
    (hstatus : l.status ≠ .completed) (v : Row (.loginTransaction id)) :
    Ends (some d) .completed (.loginTransaction id) v
      (Schema.merge (Key.loginTransaction id) (some l) (some (l.complete d now)) v) := by
  rintro t rfl
  rw [transaction_merge]
  refine ⟨_,rfl,if_neg ?_,if_neg hstatus.symm⟩
  rw [hl]
  exact Option.some_ne_none d

-- What a callback that has claimed knows of the transaction it has loaded.
def Holds (t : LoginTransaction) : CallbackPhase → Prop
  | .holder => t.completedSessionId = none ∧ t.status = .processing
  | .overtaken => t.completedSessionId = none ∧ t.status = .rejected
  | _ => False

theorem walks_transaction {k : LoginTransaction → Op α}
    (hk : ∀ t y, Holds t y → Walks id providerError y (k t)) :
    Walks id providerError .claimed (withTransaction id k) := by
  intro db n
  have hrow {t : LoginTransaction} (ht : db (.loginTransaction id) = some t) :
      (match db (.loginTransaction id) with
        | none => respond .databaseError
        | some t => k t) = k t := by
    rw [ht]
  show ∃ y, _ ∧ Writes _ y (match db (.loginTransaction id) with
    | none => respond .databaseError
    | some t => k t) _ _
  by_cases hprocessing : Found .processing (db (.loginTransaction id))
  · refine ⟨.holder,Or.inr ⟨rfl,Or.inl ⟨hprocessing,rfl⟩⟩,?_⟩
    obtain ⟨t,ht,hheld⟩ := hprocessing
    rw [hrow ht]
    exact hk t .holder hheld
  by_cases hrejected : Found .rejected (db (.loginTransaction id))
  · refine ⟨.overtaken,Or.inr ⟨rfl,Or.inr (Or.inl ⟨hrejected,rfl⟩)⟩,?_⟩
    obtain ⟨t,ht,hheld⟩ := hrejected
    rw [hrow ht]
    exact hk t .overtaken hheld
  · exact ⟨.lost,Or.inr ⟨rfl,Or.inr (Or.inr ⟨hprocessing,hrejected,rfl⟩)⟩,walks_lost _⟩

variable {t : LoginTransaction} {x : CallbackPhase}

theorem walks_reject (h : Holds t x) (statusCode : ℕ) (reasonCode : String) :
    Walks id providerError x (rejectCallback id t statusCode reasonCode : Op α) := by
  cases x with
  | holder =>
    have hflush : terminalizeTransaction id t = Rows.flush (.loginTransaction id) t t.reject :=
      if_pos (Or.inr h.2)
    have hne : t.status ≠ .rejected := by
      rw [h.2]
      decide
    rw [rejectCallback,hflush]
    refine walks_then (y := .rejecting) (writes_flush (fun heq => ?_) ?_) fun _ =>
      walks_rejecting _
    · exact (hne (congrArg LoginTransaction.status heq)).elim
    · exact Or.inr ⟨rfl,rfl,reject_ends hne⟩
  | overtaken =>
    have hnone : terminalizeTransaction id t = pure () := if_neg (by simp [h.2])
    rw [rejectCallback,hnone]
    exact walks_overtaken _
  | _ => exact h.elim

theorem walks_rejectCurrent (statusCode : ℕ) (reasonCode : String) :
    Walks id providerError .claimed (rejectCurrent id statusCode reasonCode : Op α) :=
  walks_transaction fun _ _ h => walks_reject h statusCode reasonCode

theorem walks_link (c : Callback) (hc : c.transactionId = id) (h : Holds t x) :
    Walks id providerError x (commitAccountLinkRequired c t) := by
  rw [commitAccountLinkRequired,hc]
  cases x with
  | holder =>
    have hne : t.status ≠ .rejected := by
      rw [h.2]
      decide
    refine walks_then (y := .rejecting) (writes_flush (fun heq => ?_) ?_) fun _ =>
      walks_rejecting _
    · exact (hne (congrArg LoginTransaction.status heq)).elim
    · exact Or.inr ⟨rfl,rfl,reject_ends hne⟩
  | overtaken =>
    have hsame : t = t.reject := by
      rw [LoginTransaction.reject,← h.2]
    refine walks_then (y := .overtaken) ⟨fun _ => ⟨_,Or.inl rfl,rfl⟩,fun hne => ?_⟩ fun _ =>
      walks_overtaken _
    exact (hne (congrArg some hsame)).elim
  | _ => exact h.elim

theorem walks_onboardingFailure (c : Callback) (hc : c.transactionId = id)
    (hroll : (loginCourse id providerError).rollback x .claimed) :
    Walks id providerError x (rollbackPersonalOnboarding c) := by
  rw [rollbackPersonalOnboarding,hc]
  refine ⟨.claimed,hroll,walks_transaction fun t y h => ?_⟩
  cases y with
  | holder =>
    have hne : t.status ≠ .rejected := by
      rw [h.2]
      decide
    rw [if_pos h.2]
    refine walks_then (y := .rejecting) (writes_flush (fun heq => ?_) ?_) fun _ => walks_rejecting _
    · exact (hne (congrArg LoginTransaction.status heq)).elim
    · exact Or.inr ⟨rfl,rfl,reject_ends hne⟩
  | overtaken =>
    rw [if_neg (by simp [h.2])]
    exact walks_overtaken _
  | _ => exact h.elim

theorem Holds.completes (h : Holds t x) : t.completedSessionId = none ∧ t.status ≠ .completed := by
  cases x with
  | holder => exact ⟨h.1,by rw [h.2]; decide⟩
  | overtaken => exact ⟨h.1,by rw [h.2]; decide⟩
  | _ => exact h.elim

theorem writes_complete (h : Holds t x) (d : Id) (now : Time) :
    Writes (loginCourse id providerError) (.issuing d)
      (Rows.flush (.loginTransaction id) t (t.complete d now) : Op Unit) (fun _ z => z = .completing d)
      fun _ _ => True := by
  obtain ⟨hnone,hstatus⟩ := h.completes
  refine writes_flush (fun heq => ?_) ⟨rfl,rfl,complete_ends hnone hstatus⟩
  exact (hstatus (congrArg LoginTransaction.status heq)).elim

theorem writes_open {d : Id} (h : Holds t x) {g : Row (.deviceSession d) → Bool}
    {s : Row (.deviceSession d) → Row (.deviceSession d)}
    (hopen : ∀ v, g v = true → Opens (.deviceSession d) v (s v)) :
    (loginCourse id providerError).update x (.deviceSession d) g s (.issuing d) := by
  cases x with
  | holder | overtaken => exact Or.inr (Or.inr ⟨d,rfl,rfl,hopen⟩)
  | _ => exact h.elim

theorem Holds.revokes (h : Holds t x) {d : Id} {g : Row (.deviceSession d) → Bool}
    {s : Row (.deviceSession d) → Row (.deviceSession d)}
    (hdead : ∀ v, Rejects (.deviceSession d) v (s v)) :
    (loginCourse id providerError).update x (.deviceSession d) g s x := by
  cases x with
  | holder | overtaken => exact Or.inr (Or.inl ⟨⟨d,rfl⟩,rfl,hdead⟩)
  | _ => exact h.elim

theorem Holds.rollback (h : Holds t x) : (loginCourse id providerError).rollback x .claimed := by
  cases x with
  | holder | overtaken => exact rfl
  | _ => exact h.elim

section claimed

variable [SecretHash] (c : Callback) (hc : c.transactionId = id)

include hc

omit [SecretHash] in
theorem walks_finishRotation (h : Holds t x) (d secret : Id) :
    Walks id providerError (.issuing d) (finishRotation c t d secret) := by
  subst hc
  exact walks_then (writes_complete h d c.now) fun _ => walks_completing d _

theorem walks_rotate (h : Holds t x) (authenticatedAt : Time) (d : Id) (s : DeviceSession) :
    Walks id providerError x (rotateByReauthentication c t authenticatedAt d s) := by
  subst hc
  intro n
  refine ⟨x,Or.inl rfl,⟨.issuing d,writes_open h fun v hv => ?_,?_⟩,x,Or.inl rfl,?_⟩
  · obtain ⟨current,rfl,hcurrent⟩ := (Option.any_eq_true _ _).mp hv
    simp only [Bool.and_eq_true,decide_eq_true_eq] at hcurrent
    exact ⟨_,rfl,hcurrent.1⟩
  · exact walks_finishRotation c rfl h d n
  · exact ⟨.claimed,h.rollback,walks_rejectCurrent _ _⟩

theorem walks_recentAuthentication (h : Holds t x) (o : Outcome) :
    Walks id providerError x (completeRecentAuthentication c t o) := by
  rw [completeRecentAuthentication]
  subst hc
  split
  · exact walks_reject h _ _
  split
  · exact walks_reject h _ _
  have hresolve : Writes (loginCourse c.transactionId providerError) x
      (resolveUserSessionCredential sessionRows c.cookie c.now) (fun found z => z = match found with
        | .error rejected => if rejected.recorded then CallbackPhase.claimed else x
        | .ok _ => x) fun _ _ => True := by
    cases x with
    | holder =>
      exact resolve_writes (x := .holder) (fun d _ _ hk => Or.inl ⟨⟨d,rfl⟩,rfl,hk⟩) (Or.inr rfl) _ _
    | overtaken =>
      exact resolve_writes (x := .overtaken) (fun d _ _ hk => ⟨⟨d,rfl⟩,rfl,hk⟩) (Or.inr rfl) _ _
    | _ => exact h.elim
  refine Writes.bind (hresolve.mono (fun found z hz => ?_) fun _ _ _ => trivial)
  cases found with
  | error rejected =>
    dsimp only at hz ⊢
    split
    · rename_i hrecorded
      rw [if_pos hrecorded] at hz
      subst hz
      exact walks_rejectCurrent _ _
    · rename_i hrecorded
      rw [if_neg hrecorded] at hz
      subst hz
      exact walks_reject h _ _
  | ok resolved =>
    obtain rfl : z = x := hz
    dsimp only
    split
    · exact walks_reject h _ _
    split
    · exact walks_reject h _ _
    · exact walks_rotate c rfl h _ _ _

omit [SecretHash] in
theorem walks_finishSession (h : Holds t x) (o : Outcome) (d secret : Id) :
    Walks id providerError (.issuing d) (finishSession c t o d secret) := by
  subst hc
  refine walks_then (writes_complete h d c.now) fun _ => ?_
  split
  · exact walks_completing d _
  split
  · exact walks_onboardingFailure c rfl rfl
  · exact ⟨.claimed,rfl,trivial⟩

theorem walks_session (h : Holds t x) (o : Outcome) : Walks id providerError x (createSession c t o) := by
  subst hc
  intro secret
  refine ⟨x,Or.inl rfl,fun d => ⟨x,Or.inl rfl,⟨.issuing d,writes_open h fun v _ => ?_,?_⟩,
    x,Or.inl rfl,trivial⟩⟩
  · exact ⟨_,rfl,rfl⟩
  · exact walks_finishSession c rfl h o d secret

omit [SecretHash] in
theorem walks_accountLink (h : Holds t x) (link : AccountLink) :
    Walks id providerError x (requireExplicitAccountLink c t link) := by
  subst hc
  cases link with
  | recorded => exact walks_link c rfl h
  | conflict recoveryFound =>
    refine ⟨.claimed,h.rollback,walks_transaction fun t y h => ?_⟩
    split
    · exact walks_link c rfl h
    · exact walks_reject h _ _

omit [SecretHash] in
theorem walks_inactive (h : Holds t x) (userId : Id) :
    Walks id providerError x (rejectInactiveIdentity c t userId) := by
  subst hc
  have hdead (d : Id) (v : Row (.deviceSession d)) :
      Rejects (.deviceSession d) v (v.map fun s : DeviceSession => s.revoke c.now) := by
    rintro _ hs
    obtain ⟨s,_,rfl⟩ := Option.map_eq_some_iff.mp hs
    exact fun heq => by cases heq
  have hrevoke : Obeys (loginCourse c.transactionId providerError) (fun y => y = x)
      (revokeUserSessions userId c.now) := by
    refine (Rows.obeys_updateAll fun d y hy => ?_).bind fun _ => .pure _
    subst hy
    exact ⟨y,rfl,h.revokes (hdead d)⟩
  exact walks_then ((hrevoke x rfl).mono (fun _ _ hz => hz) fun _ _ _ => trivial) fun _ =>
    walks_reject h _ _

theorem walks_login (h : Holds t x) (o : Outcome) : Walks id providerError x (completeLogin c t o) := by
  rw [completeLogin]
  subst hc
  split
  · exact walks_reject h _ _
  split
  · exact walks_accountLink c rfl h _
  split
  · exact walks_onboardingFailure c rfl h.rollback
  split
  · exact walks_reject h _ _
  · exact walks_session c rfl h o

theorem walks_forPurpose (h : Holds t x) (o : Outcome) :
    Walks id providerError x (completeForPurpose c t o) := by
  rw [completeForPurpose]
  subst hc
  split
  · exact walks_inactive c rfl h _
  split
  · exact walks_reject h _ _
  split
  · exact walks_recentAuthentication c rfl h o
  · exact walks_reject h _ _
  · exact walks_login c rfl h o

theorem walks_claimed : Walks id providerError .claimed (completeClaimed c) := by
  subst hc
  refine walks_transaction fun t y h => ?_
  split
  · exact walks_reject h _ _
  · refine ⟨⟨y,?_,fun o => walks_forPurpose c rfl h o⟩,y,Or.inl rfl,fun o => walks_forPurpose c rfl h o⟩
    cases y with
    | holder | overtaken => exact Or.inl ⟨rfl,rfl⟩
    | _ => exact h.elim

end claimed

theorem outside_reject (h : t.status = .processing → providerError = true) (statusCode : ℕ)
    (reasonCode : String) : Walks id providerError .outside (rejectCallback id t statusCode reasonCode : Op α) := by
  have hterminal : Writes (loginCourse id providerError) .outside (terminalizeTransaction id t)
      (fun _ z => z = .outside) fun _ _ => True := by
    rw [terminalizeTransaction]
    split
    · rename_i hstatus
      exact writes_flush (fun _ => rfl) ⟨rfl,hstatus.imp (fun hs => hs) h,reject_rejects t⟩
    · exact rfl
  exact walks_then hterminal fun _ => walks_outside _

section outside

theorem outside_lookup {k : Key} {f : Row k → Op β} (h : ∀ row, Walks id providerError .outside (f row)) :
    Walks id providerError .outside (Rows.get (E := Key.Entity) k >>= f) :=
  fun db _ => ⟨.outside,Or.inl rfl,h (db k)⟩

variable [SecretHash] (c : Callback)

theorem outside_completed (t : LoginTransaction) : Writes (loginCourse id providerError) .outside
    (completedSessionResponse c t) (fun _ z => z = .outside) fun _ _ => True := by
  rw [completedSessionResponse]
  split
  · exact rfl
  · refine Writes.bind ((resolve_writes (x := .outside) (y := .outside) (fun d _ _ hk =>
      ⟨rfl,trivial,hk⟩) rfl c.cookie c.now).mono (fun found z hz => ?_) fun _ _ _ => trivial)
    cases found with
    | error rejected =>
      dsimp only at hz ⊢
      rw [ite_self] at hz
      exact hz
    | ok resolved => exact hz

variable (hc : c.transactionId = id)

include hc

theorem outside_replay (reasonCode : String) (ht : t.status = .completed) :
    Walks id providerError .outside (replayCompleted c t reasonCode) := by
  refine walks_then (outside_completed c t) fun response => ?_
  cases response with
  | none =>
    rw [hc]
    exact outside_reject (fun h => by rw [ht] at h; cases h) _ _
  | some response => exact trivial

omit hc in
theorem outside_unclaimed : Walks id providerError .outside (completeUnclaimed c) := by
  refine outside_lookup fun row => ?_
  cases row with
  | none => exact walks_outside _
  | some t =>
    dsimp only
    split
    · refine walks_then (outside_completed c t) fun response => ?_
      cases response with
      | none => exact walks_outside _
      | some response => exact trivial
    · exact walks_outside _

theorem outside_claim : Walks id providerError .outside (claimAndComplete c) := by
  have hclaim : ∀ v : Row (.loginTransaction id),
      (v.any fun t : LoginTransaction => t.status = .pending) = true →
        Claims (.loginTransaction id) v (v.map LoginTransaction.process) := by
    intro v hv
    obtain ⟨t,rfl,ht⟩ := (Option.any_eq_true _ _).mp hv
    exact ⟨t,rfl,of_decide_eq_true ht,rfl⟩
  subst hc
  exact ⟨⟨.claiming,⟨rfl,rfl,hclaim⟩,.claimed,rfl,walks_claimed c rfl⟩,.outside,Or.inl rfl,.outside,rfl,
    outside_unclaimed c⟩

omit [SecretHash] in
theorem outside_pending {m : Op Unit} (hm : Walks id providerError .outside m) (ht : t.status = .pending) :
    Walks id providerError .outside (checkPending c t m) := by
  have hreject (reasonCode : String) : Walks id providerError .outside
      (rejectCallback c.transactionId t 400 reasonCode : Op Unit) := by
    rw [hc]
    exact outside_reject (fun h => by rw [ht] at h; cases h) _ _
  rw [checkPending]
  split
  · exact hreject _
  split
  · exact hreject _
  · exact hm

theorem outside_complete : Walks id providerError .outside (completeLoginCallback c) := by
  refine outside_lookup fun row => ?_
  cases row with
  | none => exact walks_outside _
  | some t =>
    dsimp only
    split
    · rename_i ht
      exact outside_replay c hc _ ht
    · exact walks_outside _
    · rename_i ht
      rw [hc]
      exact outside_reject (fun h => by rw [ht] at h; cases h) _ _
    · rename_i ht
      exact outside_pending c hc (outside_claim c hc) ht

theorem outside_providerError (hproviderError : providerError = true) (statusCode : ℕ)
    (reasonCode : String) :
    Walks id providerError .outside (rejectProviderCallback c statusCode reasonCode) := by
  have hreject (t : LoginTransaction) (statusCode : ℕ) (reasonCode : String) :
      Walks id providerError .outside (rejectCallback c.transactionId t statusCode reasonCode : Op Unit) := by
    rw [hc]
    exact outside_reject (fun _ => hproviderError) _ _
  refine outside_lookup fun row => ?_
  cases row with
  | none => exact walks_outside _
  | some t =>
    dsimp only
    split
    · rename_i ht
      exact outside_replay c hc _ ht
    · rename_i ht
      exact outside_pending c hc (hreject _ _ _) ht
    · exact hreject _ _ _

end outside

theorem program_walks [SecretHash] (call : LoginCall) (h : call.transactionId = id) :
    Walks id call.answersError .outside call.program := by
  cases call with
  | complete c => exact outside_complete c h
  | providerError c statusCode reasonCode => exact outside_providerError c h rfl statusCode reasonCode

end walks

end AiScdc.Login
