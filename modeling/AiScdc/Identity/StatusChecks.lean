import AiScdc.Identity.Operations
import AiScdc.Transaction.Execution

namespace AiScdc.Identity
open Transaction

-- A synchronisation draws its token, claims the due checks with it in one transaction, and then
-- completes them in others.
inductive CheckPhase where
  | login | restoring | idle
  | claiming (token : Id)
  | checking (token : Id)

namespace CheckPhase

def token : CheckPhase → Option Id
  | .claiming token | .checking token => some token
  | _ => none

def early : CheckPhase → Prop
  | .idle | .claiming _ => True
  | _ => False

def belongs : CheckPhase → IdentityOp → Prop
  | .login, .login _ => True
  | .restoring, .restore _ => True
  | .idle, .synchronize _ _ _ _ => True
  | .claiming _, .synchronize _ _ _ _ => True
  | .checking _, .synchronize _ _ _ _ => True
  | _, _ => False

end CheckPhase

inductive CheckUpdate : CheckPhase → ∀ k : Key, (Row k → Bool) → (Row k → Row k) → Prop
  | session {x} (id : Id) (g : Row (.deviceSession id) → Bool)
      (s : Row (.deviceSession id) → Row (.deviceSession id)) : CheckUpdate x (.deviceSession id) g s
  | create (id : Id) (row : ExternalIdentity) (ht : row.statusCheckToken = none)
      (hs : row.status = .active) :
      CheckUpdate .login (.externalIdentity id) (fun row => row.isNone) fun _ => some row
  | claim (token id userId : Id) (dueBefore checkedAt : Time) :
      CheckUpdate (.claiming token) (.externalIdentity id)
        (fun row => row.any fun i : ExternalIdentity => dueForCheck userId dueBefore i)
        fun row => row.map fun i : ExternalIdentity => i.claimed token checkedAt
  | fail (token id : Id) :
      CheckUpdate (.checking token) (.externalIdentity id)
        (fun row => row.any fun i : ExternalIdentity => i.statusCheckToken = some token)
        fun row => row.map fun i : ExternalIdentity => i.checkFailed
  | apply (token id : Id) (localStatus confirmedStatus : Status) (confirmedAt : Time) :
      CheckUpdate (.checking token) (.externalIdentity id)
        (fun row => row.any fun i : ExternalIdentity => i.statusCheckToken = some token)
        fun row => row.map fun i : ExternalIdentity => i.checked localStatus confirmedStatus confirmedAt
  | restore (id : Id) (now : Time) :
      CheckUpdate .restoring (.externalIdentity id)
        (fun row => row.any fun i : ExternalIdentity => i.status.controlledRestoration)
        fun row => row.map fun i : ExternalIdentity => i.checked .active .active now

inductive CheckWrite : CheckPhase → ∀ k : Key, Row k → Row k → Prop
  | recorded (id : Id) (l : ExternalIdentity) (confirmedStatus : Status) (now : Time) :
      CheckWrite .login (.externalIdentity id) (some l) (some (l.recorded confirmedStatus now))

def checkCourse : Course Row CheckPhase where
  learn _ _ _ _ := False
  number x n y := x = .idle ∧ y = .claiming n
  update x k g s y := CheckUpdate x k g s ∧ y = x
  flush x k l n y := CheckWrite x k l n ∧ y = x
  commit x y := (∃ token, x = .claiming token ∧ y = .checking token) ∨ (¬ x.early ∧ y = x)
  rollback x y := y = x

section programs

variable {x : CheckPhase} {α : Type}

def Stays (x : CheckPhase) (m : Op α) : Prop := Obeys checkCourse (fun y => y = x) m

theorem updates {k : Key} {g : Row k → Bool} {s : Row k → Row k} (h : CheckUpdate x k g s) (y : CheckPhase)
    (hy : y = x) : ∃ z, z = x ∧ checkCourse.update y k g s z := by
  subst hy
  exact ⟨y,rfl,h,rfl⟩

theorem stays_updateAll {key : Id → Key} {guard : ∀ i, (key i).Entity → Bool}
    {values : ∀ i, (key i).Entity → (key i).Entity}
    (h : ∀ i, CheckUpdate x (key i) (fun row => row.any (guard i)) fun row => row.map (values i)) :
    Stays x (Rows.updateAll key guard values) :=
  Rows.obeys_updateAll fun i => updates (h i)

theorem stays_updateWhere {k : Key} {guard : k.Entity → Bool} {values : k.Entity → k.Entity}
    (h : CheckUpdate x k (fun row => row.any guard) fun row => row.map values) :
    Stays x (Rows.updateWhere k guard values) :=
  Rows.obeys_updateWhere (updates h)

theorem stays_commit (h : ¬ x.early) : Stays x commit := by
  refine .commit (fun y hy => ?_) (.pure ())
  subst hy
  exact ⟨y,rfl,Or.inr ⟨h,rfl⟩⟩

theorem stays_rollback : Stays x rollback := .rollback (fun _ hy => ⟨x,rfl,hy.symm⟩) (.pure ())

theorem stays_http (statusCode : ℕ) (detail : String) : Stays x (httpError statusCode detail : Op α) :=
  .raise _

theorem stays_reject (h : ¬ x.early) (statusCode : ℕ) (reasonCode : String) :
    Stays x (rejectCallback statusCode reasonCode : Op α) :=
  (stays_commit h).bind fun _ => stays_http _ _

theorem stays_fresh : Stays x freshId := .freshId fun _ => .pure _

theorem stays_now : Stays x utcNow := .utcNow fun _ => .pure _

theorem stays_find (issuer subject : String) : Stays x (findIdentity issuer subject) :=
  Rows.obeys_selectWhere.bind fun _ => .pure _

theorem stays_effects (userId : Id) (s : Status) (t : Time) :
    Stays x (recordConfirmedStatusEffects userId s t) := by
  unfold recordConfirmedStatusEffects
  split
  · exact .pure ()
  · exact (stays_updateAll fun i => .session i _ _).bind fun _ => .pure ()

theorem stays_completeClaims (token : Id) (now : Time) (provider : Id → ProviderReply)
    (claims : List Id) : Stays (.checking token) (completeClaims token now provider claims) := by
  have hlate : ¬ (CheckPhase.checking token).early := id
  have hfail (id : Id) : Stays (.checking token) (recordFailedClaim id token) := by
    refine (stays_updateWhere (.fail token id)).bind fun b => ?_
    cases b with
    | false => exact stays_rollback
    | true => exact stays_commit hlate
  have happly (id : Id) (s : Status) :
      Stays (.checking token) (applyConfirmedClaim id token s now) := by
    refine (stays_updateWhere (.apply token id _ _ _)).bind fun b => ?_
    cases b with
    | false => exact stays_rollback
    | true =>
      refine Obeys.bind (Rows.obeys_get _) fun row => ?_
      cases row with
      | none => exact stays_rollback
      | some identity => exact (stays_effects _ _ _).bind fun _ => stays_commit hlate
  induction claims with
  | nil => exact .pure ()
  | cons id rest ih =>
    unfold completeClaims
    cases provider id with
    | unavailable => exact (hfail id).bind fun _ => ih
    | status s =>
      dsimp only
      split
      · exact (happly id s).bind fun _ => ih
      · exact (hfail id).bind fun _ => ih

theorem stays_record (id : Id) (i : ExternalIdentity) (s : Status) (now : Time) :
    Stays .login (recordConfirmedIdentityStatus id i s now) := by
  refine Obeys.bind (Rows.obeys_flush fun y hy => ?_) fun _ => stays_effects _ _ _
  subst hy
  exact ⟨.login,rfl,.recorded id i s now,rfl⟩

theorem stays_createSession (c : LoginCallback) (id : Id) (i : ExternalIdentity) :
    Stays .login (createSession c id i) := by
  have hlate : ¬ CheckPhase.login.early := fun h => h
  refine (stays_record id i _ _).bind fun _ => Obeys.bind ?_ fun _ => stays_commit hlate
  refine stays_fresh.bind fun sessionId => ?_
  exact Rows.obeys_insert (updates (.session sessionId _ _))

theorem stays_onboarding (c : LoginCallback) : Stays .login (createPersonalOnboarding c) := by
  refine stays_fresh.bind fun _ => stays_fresh.bind fun id => stays_now.bind fun _ => ?_
  exact (Rows.obeys_insert (updates (.create id _ rfl rfl))).bind fun _ => .pure _

theorem stays_guard (h : ¬ x.early) {b : Prop} [Decidable b] {statusCode : ℕ} {reasonCode : String}
    {m : Op α} (hm : Stays x m) : Stays x (do
      if b then rejectCallback statusCode reasonCode
      m) := by
  by_cases hb : b
  · rw [if_pos hb]
    exact (stays_reject h _ _).bind fun _ => hm
  · rw [if_neg hb]
    exact hm

theorem stays_completeLogin (c : LoginCallback) (found : Option (Id × ExternalIdentity)) :
    Stays .login (completeLogin c found) := by
  have hlate : ¬ CheckPhase.login.early := id
  refine stays_guard hlate (stays_guard hlate ?_)
  cases found with
  | none => exact stays_guard hlate ((stays_onboarding c).bind fun _ => stays_createSession c _ _)
  | some entry => exact stays_guard hlate (stays_guard hlate (stays_createSession c _ _))

theorem stays_recentAuthentication (c : LoginCallback) (found : Option (Id × ExternalIdentity)) :
    Stays .login (completeRecentAuthentication c found) := by
  have hlate : ¬ CheckPhase.login.early := id
  have hconfirm (id : Id) (i : ExternalIdentity) : Stays .login (confirmRecentAuthentication c id i) := by
    refine stays_guard hlate ?_
    split
    · exact (stays_record id i _ _).bind fun _ => stays_commit hlate
    · exact stays_rollback.bind fun _ => stays_reject hlate _ _
  unfold completeRecentAuthentication
  split
  · exact stays_reject hlate _ _
  cases found with
  | some entry => exact hconfirm _ _
  | none =>
    refine (stays_find _ _).bind fun found => ?_
    cases found with
    | some entry => exact hconfirm _ _
    | none => exact stays_reject hlate _ _

theorem stays_login (c : LoginCallback) : Stays .login (completeLoginCallback c) := by
  have hlate : ¬ CheckPhase.login.early := id
  have hpurpose (found : Option (Id × ExternalIdentity)) : Stays .login (completeForPurpose c found) := by
    unfold completeForPurpose
    split
    · exact stays_recentAuthentication c found
    · exact stays_reject hlate _ _
    · exact stays_completeLogin c found
  refine (stays_find _ _).bind fun found => ?_
  cases found with
  | none => exact stays_guard hlate (hpurpose none)
  | some entry =>
    dsimp only
    split
    · exact (stays_record _ _ _ _).bind fun _ => stays_guard hlate (hpurpose (some entry))
    · exact stays_guard hlate (hpurpose (some entry))

theorem stays_restore (r : Restoration) : Stays .restoring (restoreExternalIdentity r) := by
  have hlate : ¬ CheckPhase.restoring.early := id
  have happly (id : Id) : Stays .restoring (applyRestoration id r.now) := by
    refine (stays_updateWhere (.restore id r.now)).bind fun b => ?_
    cases b with
    | false => exact stays_rollback.bind fun _ => stays_reject hlate _ _
    | true => exact stays_commit hlate
  unfold restoreExternalIdentity
  split
  · exact stays_reject hlate _ _
  · refine (stays_find _ _).bind fun found => ?_
    cases found with
    | none => exact stays_reject hlate _ _
    | some entry =>
      refine stays_guard hlate ((stays_commit hlate).bind fun _ => ?_)
      split
      · exact stays_reject hlate _ _
      · exact stays_guard hlate (happly entry.1)

def IdentityOp.start : IdentityOp → CheckPhase
  | .login _ => .login
  | .synchronize _ _ _ _ => .idle
  | .restore _ => .restoring

theorem writes_program (o : IdentityOp) :
    Writes checkCourse o.start o.program (fun _ _ => True) fun _ _ => True := by
  cases o with
  | login c => exact (stays_login c _ rfl).mono (fun _ _ _ => trivial) fun _ _ _ => trivial
  | restore r => exact (stays_restore r _ rfl).mono (fun _ _ _ => trivial) fun _ _ _ => trivial
  | synchronize userId now interval provider =>
    refine Writes.bind (Writes.bind fun token => ⟨.claiming token,Or.inr ⟨rfl,rfl⟩,?_⟩)
    have hclaim : Stays (.claiming token) (Rows.updateAll Key.externalIdentity
        (fun _ (i : ExternalIdentity) => dueForCheck userId (now - interval) i)
        fun _ (i : ExternalIdentity) => i.claimed token now) :=
      stays_updateAll fun id => .claim token id userId _ _
    refine hclaim.then rfl (fun claims y hy => ?_) fun _ _ _ => trivial
    refine ⟨.checking token,Or.inl ⟨token,hy,rfl⟩,?_⟩
    exact (stays_completeClaims token now provider claims _ rfl).mono (fun _ _ _ => trivial)
      fun _ _ _ => trivial

end programs

end AiScdc.Identity
