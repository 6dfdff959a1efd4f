import AiScdc.Onboarding.Operations
import AiScdc.Transaction.Execution

namespace AiScdc.Onboarding
open Transaction
open Login (LoginTransaction)
open DeviceSessions (DeviceSession SecretHash hashSessionSecret newDeviceSession)

-- The rows that the open transaction has written, of all tables but the login transactions.
abbrev Draft := ∀ k : Key, Option (Row k)

def noDraft : Draft := fun _ => none

def Draft.add (d : Draft) (k : Key) (row : k.Entity) : Draft := Function.update d k (some (some row))

def Tracked : Key → Prop
  | .loginTransaction _ => False
  | _ => True

-- What a call has read that its commit relies on, or that it has linked an identity.
inductive Known where
  | nothing
  | returning (s : ProviderSubject) (userId : Id)
  | holding (correlationId : String) (s : ProviderSubject) (r : AccountLinkRecovery)
  | matched (correlationId : String) (s : ProviderSubject) (r : AccountLinkRecovery) (userId : Id)
  | linked

structure AccountPhase where
  draft : Draft
  known : Known

structure Account where
  subject : ProviderSubject
  userId : Id
  organizationId : Id
  workspaceId : Id
  membershipId : Id
  sessionId : Id
  deriving DecidableEq, Repr

namespace Account

variable (a : Account)

def Has (k : Key) : Prop :=
  k = .user a.userId ∨ k = .organization a.organizationId ∨ k = .workspace a.workspaceId ∨
    k = .membership a.membershipId ∨ k = .externalIdentity a.subject ∨ k = .deviceSession a.sessionId

-- All six rows of an account, each belonging to the others.
structure Stands (has : ∀ k : Key, k.Entity → Prop) : Prop where
  user : ∃ u : User, has (.user a.userId) u
  organization : ∃ o : Organization, has (.organization a.organizationId) o ∧ o.accountKind = .personal ∧
    o.personalOwnerUserId = some a.userId
  workspace : ∃ w : Workspace, has (.workspace a.workspaceId) w ∧ w.organizationId = a.organizationId
  membership : ∃ m : OrganizationMember, has (.membership a.membershipId) m ∧ m.userId = a.userId ∧
    m.organizationId = a.organizationId ∧ m.workspaceId = a.workspaceId ∧ m.role = .owner
  identity : ∃ e : ExternalIdentity, has (.externalIdentity a.subject) e ∧ e.userId = a.userId ∧
    e.accountLinkCorrelationId = none
  session : ∃ s : DeviceSession, has (.deviceSession a.sessionId) s ∧ s.userId = a.userId

end Account

def Draft.Only (d : Draft) (p : Key → Prop) : Prop := ∀ k, d k ≠ none → p k

-- What a transaction may commit: nothing, an account, a session of an account that is there, a recovery,
-- or, for an operator, a link.
inductive Settles (d : Draft) : Bool → Known → Known → Prop
  | bare {operator x} (h : d = noDraft) : Settles d operator x x
  | onboards (a : Account) (h : a.Stands fun k e => d k = some (some e)) (ho : d.Only a.Has) :
      Settles d false .nothing .nothing
  | returns (s : ProviderSubject) (userId id : Id) (row : DeviceSession) (hu : row.userId = userId)
      (h : d = noDraft.add (.deviceSession id) row) :
      Settles d false (.returning s userId) (.returning s userId)
  | recovers (c : String) (s : ProviderSubject) (email : String)
      (h : d = (noDraft.add (.recoveryCorrelation c) s).add (.accountLinkRecovery s)
        (⟨email,c,.pending,none,none⟩ : AccountLinkRecovery)) : Settles d false .nothing .nothing
  | links (c : String) (s : ProviderSubject) (r : AccountLinkRecovery) (userId id : Id) (now : Time)
      (h : d = (noDraft.add (.externalIdentity s)
        (⟨id,userId,some r.verifiedEmail,.active,some c⟩ : ExternalIdentity)).add (.accountLinkRecovery s)
          (r.complete userId now)) : Settles d true (.matched c s r userId) .linked

-- The update that completes a recovery.
def CompletesRecovery (s : ProviderSubject) (r : AccountLinkRecovery) (userId : Id) (now : Time) :
    ∀ k : Key, Row k → Row k → Prop
  | .accountLinkRecovery s', l, n => s' = s ∧ l = some r ∧ n = some (r.complete userId now)
  | _, _, _ => False

def AccountCall.operator : AccountCall → Bool
  | .login _ _ => false
  | .link _ => true

section courses

variable [EmailText]

def Learns (x : Known) (db : Db) (y : Known) : Prop :=
  (x = .nothing ∧ ∃ s, ∃ e : ExternalIdentity, db (.externalIdentity s) = some e ∧
      y = .returning s e.userId) ∨
    (x = .nothing ∧ ∃ c s r, recoveryOf db c = some (s,r) ∧ r.status = .pending ∧ y = .holding c s r) ∨
    ∃ c s r userId, ∃ u : User, x = .holding c s r ∧ db (.user userId) = some u ∧
      normalizedEmail u.email = r.verifiedEmail ∧ y = .matched c s r userId

def accountCourse (operator : Bool) : Course Row AccountPhase where
  learn x db _ y := x.draft = noDraft ∧ y.draft = noDraft ∧ Learns x.known db y.known
  number _ _ _ := False
  update x k g s y := Tracked k ∧ ∃ row : k.Entity, (∀ v, g v = true → v = none ∧ s v = some row) ∧
    y = ⟨x.draft.add k row,x.known⟩
  flush x k l n y := ¬ Tracked k ∧ y = x ∨ ∃ c s r userId now, x.known = .matched c s r userId ∧
    x.draft (.externalIdentity s) ≠ none ∧ x.draft (.accountLinkRecovery s) = none ∧
      CompletesRecovery s r userId now k l n ∧ y = ⟨Function.update x.draft k (some n),x.known⟩
  commit x y := ∃ known, Settles x.draft operator x.known known ∧ y = ⟨noDraft,known⟩
  rollback x y := y = ⟨noDraft,x.known⟩

-- A call that is answered with an HTTP error has linked nothing.
def Answers (e : Response) (x : AccountPhase) : Prop :=
  ∀ statusCode detail, e = .http statusCode detail → x.known ≠ .linked

section walks

variable {α β : Type} {operator : Bool} {x : AccountPhase} {known : Known}

def Walks (operator : Bool) (x : AccountPhase) (m : Op α) : Prop :=
  Writes (accountCourse operator) x m (fun _ _ => True) Answers

theorem walks_then {y : AccountPhase} {m : Op α} {f : α → Op β}
    (h : Writes (accountCourse operator) x m (fun _ z => z = y) Answers) (hf : ∀ a, Walks operator y (f a)) :
    Walks operator x (m >>= f) := Writes.bind (h.mono (fun a _ hz => hz ▸ hf a) fun _ _ he => he)

section reads

variable {Q : β → AccountPhase → Prop} {R : Response → AccountPhase → Prop}

theorem writes_fresh {f : Id → Op β} (h : ∀ id, Writes (accountCourse operator) x (f id) Q R) :
    Writes (accountCourse operator) x (freshId >>= f) Q R := fun id => ⟨x,Or.inl rfl,h id⟩

theorem writes_get {k : Key} {f : Row k → Op β} (h : ∀ row, Writes (accountCourse operator) x (f row) Q R) :
    Writes (accountCourse operator) x (Rows.get k >>= f) Q R := fun db _ => ⟨x,Or.inl rfl,h (db k)⟩

theorem writes_membership {userId : Id} {f : Option OrganizationMember → Op β}
    (h : ∀ m, Writes (accountCourse operator) x (f m) Q R) :
    Writes (accountCourse operator) x (activeMembership userId >>= f) Q R := fun _ _ => ⟨x,Or.inl rfl,h _⟩

theorem writes_legacyMembership {userId : Id} {f : Bool → Op β}
    (h : ∀ b, Writes (accountCourse operator) x (f b) Q R) :
    Writes (accountCourse operator) x (hasLegacyMembership userId >>= f) Q R := fun _ _ => ⟨x,Or.inl rfl,h _⟩

end reads

theorem writes_insert {k : Key} (hk : Tracked k) (row : k.Entity) :
    Writes (accountCourse operator) x (Rows.insert k row .databaseError : Op Unit)
      (fun _ y => y = ⟨x.draft.add k row,x.known⟩) fun _ y => y.known = x.known :=
  ⟨⟨_,⟨hk,row,fun _ hv => ⟨Option.isNone_iff_eq_none.mp hv,rfl⟩,rfl⟩,rfl⟩,x,Or.inl rfl,rfl⟩

theorem writes_transaction (id : Id) (l n : LoginTransaction) {R : Response → AccountPhase → Prop} :
    Writes (accountCourse operator) x (Rows.flush (.loginTransaction id) l n : Op Unit) (fun _ y => y = x) R :=
  ⟨fun _ => ⟨x,Or.inl rfl,rfl⟩,fun _ => ⟨x,Or.inl ⟨fun h => h,rfl⟩,rfl⟩⟩

theorem walks_record (response : Response) (h : Answers response ⟨noDraft,known⟩) :
    Walks operator ⟨noDraft,known⟩ (recordAndRespond response : Op α) :=
  ⟨_,⟨known,.bare rfl,rfl⟩,h⟩

omit [EmailText] in
theorem failed_answers (statusCode : ℕ) (reasonCode : String) :
    Answers (.failed statusCode reasonCode) x := fun _ _ he => by cases he

theorem walks_reject (c : LoginCallback) (t : LoginTransaction) (statusCode : ℕ) (reasonCode : String) :
    Walks operator ⟨noDraft,known⟩ (rejectCallback c t statusCode reasonCode : Op α) := by
  unfold rejectCallback
  split
  · exact walks_then (writes_transaction _ _ _) fun _ => walks_record _ (failed_answers _ _)
  · exact walks_record _ (failed_answers _ _)

theorem walks_linkRequired (c : LoginCallback) (t : LoginTransaction) {d : Draft} {known' : Known}
    (hsettles : Settles d operator known known') : Walks operator ⟨d,known⟩ (commitAccountLinkRequired c t) :=
  walks_then (writes_transaction _ _ _) fun _ => ⟨_,⟨known',hsettles,rfl⟩,failed_answers _ _⟩

theorem walks_rollbackOnboarding (c : LoginCallback) :
    Walks operator x (rollbackPersonalOnboarding c : Op α) := by
  refine ⟨_,rfl,fun db n => ⟨_,Or.inl rfl,?_⟩⟩
  show Walks operator ⟨noDraft,x.known⟩ (match db (.loginTransaction c.transactionId) with
    | none => recordAndRespond (.failed 500 "persistence_failed")
    | some t => _ : Op α)
  cases db (.loginTransaction c.transactionId) with
  | none => exact walks_record _ (failed_answers _ _)
  | some t =>
    dsimp only
    split
    · exact walks_then (writes_transaction _ _ _) fun _ => walks_record _ (failed_answers _ _)
    · exact walks_record _ (failed_answers _ _)

theorem walks_existingRecovery (c : LoginCallback) :
    Walks operator ⟨noDraft,known⟩ (requireExistingRecovery c) := by
  intro db n
  refine ⟨_,Or.inl rfl,fun db' n' => ⟨_,Or.inl rfl,?_⟩⟩
  show Walks operator _ (match db' (.loginTransaction c.transactionId) with
    | none => recordAndRespond (.failed 500 "account_link_recovery_persistence_failed")
    | some t => _)
  cases db' (.loginTransaction c.transactionId) with
  | none => exact walks_record _ (failed_answers _ _)
  | some t =>
    dsimp only
    split
    · exact walks_reject c t _ _
    · exact walks_linkRequired c t (.bare rfl)

-- What a statement that may fail leaves: its draft, or what only a rollback may follow.
def Attempts (operator : Bool) (x y : AccountPhase) (m : Op Bool) : Prop :=
  Writes (accountCourse operator) x m (fun b z => (b = true → z = y) ∧ (b = false → z.known = x.known)) Answers

theorem attempts {y : AccountPhase} {m : Op Unit}
    (h : Writes (accountCourse operator) x m (fun _ z => z = y) fun _ z => z.known = x.known) :
    Attempts operator x y (tryCatch (do
      m
      pure true) fun _ => pure false) := by
  refine Writes.tryCatch (Writes.bind (h.mono ?_ ?_))
  · rintro _ _ rfl
    exact ⟨fun _ => rfl,fun hb => by cases hb⟩
  · exact fun _ _ hz => ⟨fun hb => (by cases hb),fun _ => hz⟩

theorem writes_recovery (c : LoginCallback) (correlationId : String) :
    Writes (accountCourse operator) ⟨noDraft,known⟩ (addRecovery c correlationId)
      (fun _ y => y = ⟨(noDraft.add (.recoveryCorrelation correlationId) c.subject).add
        (.accountLinkRecovery c.subject)
        (⟨normalizedEmail c.email,correlationId,.pending,none,none⟩ : AccountLinkRecovery),known⟩)
      fun _ y => y.known = known := by
  refine Writes.bind ((writes_insert (k := .recoveryCorrelation correlationId) trivial _).mono ?_
    fun _ _ hy => hy)
  rintro _ _ rfl
  exact writes_insert (k := .accountLinkRecovery c.subject) trivial _

theorem walks_accountLink (c : LoginCallback) (t : LoginTransaction) (correlationId : String) :
    Walks false ⟨noDraft,.nothing⟩ (requireExplicitAccountLink c t correlationId) := by
  refine fun db n => ⟨_,Or.inl rfl,?_⟩
  show Walks false _ (match db (.accountLinkRecovery c.subject) with
    | some _ => commitAccountLinkRequired c t
    | none => _)
  cases db (.accountLinkRecovery c.subject) with
  | some _ => exact walks_linkRequired c t (.bare rfl)
  | none =>
    dsimp only
    refine Writes.bind (Writes.tryCatch (Writes.bind ((writes_recovery c correlationId).mono ?_ ?_)))
    · rintro _ _ rfl
      exact walks_linkRequired c t (.recovers correlationId c.subject (normalizedEmail c.email) rfl)
    · intro _ y hy
      refine ⟨_,rfl,?_⟩
      rw [hy]
      exact walks_existingRecovery c

theorem writes_inject (c : LoginCallback) (step : OnboardingStep) :
    Writes (accountCourse operator) x (injectPersonalOnboardingFailure c step) (fun _ y => y = x)
      fun _ y => y.known = x.known := by
  unfold injectPersonalOnboardingFailure
  split
  · exact rfl
  · exact rfl

-- The rows of an account that its onboarding has created.
def accountDraft (c : LoginCallback) (a : PersonalAccount) : Draft :=
  ((((noDraft.add (.user a.userId) a.user).add (.organization a.organizationId) a.organization).add
    (.workspace a.workspaceId) a.workspace).add (.membership a.membershipId) a.membership).add
      (.externalIdentity c.subject) a.identity

structure Created (c : LoginCallback) (a : PersonalAccount) : Prop where
  user : a.user = newUser c
  organization : a.organization = newOrganization a.userId
  workspace : a.workspace = newWorkspace a.organizationId
  membership : a.membership = newMembership a.organizationId a.workspaceId a.userId
  identity : a.identity.userId = a.userId ∧ a.identity.accountLinkCorrelationId = none

theorem writes_created {d : Draft} {k : Key} {m : Op β} {Q : β → AccountPhase → Prop}
    (c : LoginCallback) (step : OnboardingStep) (hk : Tracked k) (row : k.Entity)
    (h : Writes (accountCourse operator) ⟨d.add k row,known⟩ m Q fun _ z => z.known = known) :
    Writes (accountCourse operator) ⟨d,known⟩ (do
      Rows.insert k row .databaseError
      injectPersonalOnboardingFailure c step
      m) Q fun _ z => z.known = known := by
  refine Writes.bind ((writes_insert hk row).mono ?_ fun _ _ hz => hz)
  rintro _ _ rfl
  refine Writes.bind ((writes_inject c step).mono ?_ fun _ _ hz => hz)
  rintro _ _ rfl
  exact h

theorem writes_onboarding (c : LoginCallback) :
    Writes (accountCourse operator) ⟨noDraft,known⟩ (createPersonalOnboarding c)
      (fun a y => Created c a ∧ y = ⟨accountDraft c a,known⟩) fun _ y => y.known = known := by
  refine writes_fresh fun userId => writes_created (k := .user userId) c .user trivial _ ?_
  refine writes_fresh fun organizationId =>
    writes_created (k := .organization organizationId) c .account trivial _ ?_
  refine writes_fresh fun workspaceId =>
    writes_created (k := .workspace workspaceId) c .workspace trivial _ ?_
  refine writes_fresh fun membershipId =>
    writes_created (k := .membership membershipId) c .membership trivial _ ?_
  refine writes_fresh fun identityId =>
    writes_created (k := .externalIdentity c.subject) c .externalIdentity trivial _ ?_
  exact ⟨⟨rfl,rfl,rfl,rfl,rfl,rfl⟩,rfl⟩

variable [SecretHash]

theorem writes_session (c : LoginCallback) (t : LoginTransaction) (userId sessionId secret : Id)
    (authenticatedAt : Time) (onboarding : Bool) {d : Draft}
    (hsettles : ∀ s : DeviceSession, s.userId = userId → Settles (d.add (.deviceSession sessionId) s) false known known) :
    Writes (accountCourse false) ⟨d,known⟩ (addSession c t userId sessionId secret authenticatedAt onboarding)
      (fun _ y => y = ⟨noDraft,known⟩) fun _ y => y.known = known := by
  unfold addSession
  refine Writes.bind ((writes_insert (k := .deviceSession sessionId) trivial _).mono ?_ fun _ _ hy => hy)
  rintro _ _ rfl
  have hrest : Writes (accountCourse false) ⟨d.add (.deviceSession sessionId)
      (newDeviceSession ⟨userId,authenticatedAt,none,c.now⟩ (hashSessionSecret secret)),known⟩ (do
        Rows.flush (.loginTransaction c.transactionId) t (t.complete sessionId c.now)
        if c.failureStep = some .completion then .throw .databaseError else commit)
      (fun _ y => y = ⟨noDraft,known⟩) fun _ y => y.known = known := by
    refine Writes.bind ((writes_transaction _ _ _).mono ?_ fun _ _ hy => hy)
    rintro _ _ rfl
    split
    · exact rfl
    · exact ⟨_,⟨known,hsettles _ rfl,rfl⟩,rfl⟩
  cases onboarding with
  | false => exact hrest
  | true =>
    refine Writes.bind ((writes_inject c .deviceSession).mono ?_ fun _ _ hy => hy)
    rintro _ _ rfl
    exact hrest

theorem walks_session (c : LoginCallback) (t : LoginTransaction) (userId : Id) (authenticatedAt : Time)
    (onboarding : Bool) {d : Draft}
    (hsettles : ∀ id, ∀ s : DeviceSession, s.userId = userId →
      Settles (d.add (.deviceSession id) s) false known known) :
    Walks false ⟨d,known⟩ (createSession c t userId authenticatedAt onboarding) := by
  refine writes_fresh fun secret => writes_fresh fun sessionId => ?_
  refine Writes.bind ((attempts (writes_session c t userId sessionId secret authenticatedAt onboarding
    (hsettles sessionId))).mono ?_ fun _ _ he => he)
  intro opened y hy
  cases opened with
  | true => exact fun _ _ he => (by cases he)
  | false =>
    cases onboarding with
    | true => exact walks_rollbackOnboarding c
    | false => exact ⟨_,rfl,fun _ _ he => by cases he⟩

omit [EmailText] [SecretHash] in
theorem account_settles {c : LoginCallback} {a : PersonalAccount} (h : Created c a) (id : Id)
    (s : DeviceSession) (hs : s.userId = a.userId) :
    Settles ((accountDraft c a).add (.deviceSession id) s) false .nothing .nothing := by
  obtain ⟨huser,horganization,hworkspace,hmembership,hidentity⟩ := h
  refine .onboards ⟨c.subject,a.userId,a.organizationId,a.workspaceId,a.membershipId,id⟩ ⟨⟨a.user,?_⟩,
    ⟨a.organization,?_,by rw [horganization]; rfl,by rw [horganization]; rfl⟩,
    ⟨a.workspace,?_,by rw [hworkspace]; rfl⟩,
    ⟨a.membership,?_,by rw [hmembership]; rfl,by rw [hmembership]; rfl,by rw [hmembership]; rfl,
      by rw [hmembership]; rfl⟩,⟨a.identity,?_,hidentity.1,hidentity.2⟩,⟨s,?_,hs⟩⟩ fun k hk => ?_
  · simp [accountDraft,Draft.add]
  · simp [accountDraft,Draft.add]
  · simp [accountDraft,Draft.add]
  · simp [accountDraft,Draft.add]
  · simp [accountDraft,Draft.add]
  · simp [accountDraft,Draft.add]
  · by_contra hno
    simp only [Account.Has,not_or] at hno
    obtain ⟨h₁,h₂,h₃,h₄,h₅,h₆⟩ := hno
    simp [accountDraft,Draft.add,noDraft,h₁,h₂,h₃,h₄,h₅,h₆] at hk

theorem walks_onboard (c : LoginCallback) (t : LoginTransaction) (authenticatedAt : Time) :
    Walks false ⟨noDraft,.nothing⟩ (onboard c t authenticatedAt) := by
  refine Writes.bind (Writes.tryCatch (Writes.bind ((writes_onboarding c).mono ?_ ?_)))
  · rintro a _ ⟨hcreated,rfl⟩
    have hactive : a.user.status = .active := by rw [hcreated.user]; rfl
    have hscope : scopeActive a.user a.workspace a.organization a.membership.organizationId = true := by
      rw [hcreated.user,hcreated.workspace,hcreated.organization,hcreated.membership]
      simp [scopeActive,newUser,newWorkspace,newOrganization,newMembership]
    show Walks false _ (completeOnboarding c t authenticatedAt a)
    rw [completeOnboarding,if_neg (by simp [hactive]),if_neg (by simp [hscope])]
    exact walks_session c t a.userId authenticatedAt true fun id s hs => account_settles hcreated id s hs
  · exact fun _ _ _ => walks_rollbackOnboarding c

theorem walks_linked (c : LoginCallback) (t : LoginTransaction) (authenticatedAt : Time)
    (identity : ExternalIdentity) :
    Walks false ⟨noDraft,.returning c.subject identity.userId⟩ (signInLinked c t authenticatedAt identity) := by
  unfold signInLinked
  split
  · exact walks_reject c t _ _
  refine writes_get fun user => writes_membership fun membership => ?_
  split
  · refine writes_get fun workspace => writes_get fun organization => ?_
    split
    · split
      · exact walks_session c t identity.userId authenticatedAt false fun id s hs =>
          .returns c.subject identity.userId id s hs rfl
      · exact walks_reject c t _ _
    · exact walks_reject c t _ _
  · exact walks_reject c t _ _

theorem walks_signIn (c : LoginCallback) (t : LoginTransaction) (correlationId : String)
    (authenticatedAt : Time) (legacy : Option Id) :
    Walks false ⟨noDraft,.nothing⟩ (signIn c t correlationId authenticatedAt none legacy) := by
  unfold signIn
  dsimp only
  split
  · exact walks_accountLink c t correlationId
  · exact walks_onboard c t authenticatedAt

theorem walks_found (c : LoginCallback) (t : LoginTransaction) (correlationId : String)
    (identity : Option ExternalIdentity)
    (hsign : ∀ authenticatedAt legacy,
      Walks false ⟨noDraft,known⟩ (signIn c t correlationId authenticatedAt identity legacy)) :
    Walks false ⟨noDraft,known⟩ (completeFound c t correlationId identity) := by
  unfold completeFound
  split
  · exact walks_reject c t _ _
  · rename_i authenticatedAt _
    have hnext (legacy : Option Id) : Walks false ⟨noDraft,known⟩ (
        if c.policy.admitsLogin c.email identity.isSome legacy.isSome then
          signIn c t correlationId authenticatedAt identity legacy
        else rejectCallback c t 403 "rollout_stage_not_eligible") := by
      split
      · exact hsign authenticatedAt legacy
      · exact walks_reject c t _ _
    split
    · unfold legacyUserMatchingEmail
      split
      · exact hnext none
      · exact fun _ _ => ⟨_,Or.inl rfl,hnext _⟩
    · exact hnext none

theorem walks_login (c : LoginCallback) (correlationId : String) :
    Walks false ⟨noDraft,.nothing⟩ (completeLoginCallback c correlationId) := by
  refine writes_get fun row => ?_
  cases row with
  | none => exact walks_record _ (failed_answers _ _)
  | some t =>
    intro db n
    have hfound : ∃ known, (known = .nothing ∨ Learns .nothing db known) ∧
        Walks false ⟨noDraft,known⟩ (completeFound c t correlationId (db (.externalIdentity c.subject))) := by
      cases hidentity : db (.externalIdentity c.subject) with
      | none =>
        exact ⟨.nothing,Or.inl rfl,walks_found c t correlationId none fun at' legacy =>
          walks_signIn c t correlationId at' legacy⟩
      | some e =>
        exact ⟨.returning c.subject e.userId,Or.inr (Or.inl ⟨rfl,c.subject,e,hidentity,rfl⟩),
          walks_found c t correlationId (some e) fun at' _ => walks_linked c t at' e⟩
    obtain ⟨known,hknown,hwalk⟩ := hfound
    refine ⟨⟨noDraft,known⟩,?_,hwalk⟩
    rcases hknown with rfl | hlearns
    · exact Or.inl rfl
    · exact Or.inr ⟨rfl,rfl,hlearns⟩

omit [SecretHash] in
theorem walks_refuse (statusCode : ℕ) (detail : String) (h : known ≠ .linked) :
    Walks operator ⟨noDraft,known⟩ (rejectAccountLink statusCode detail : Op α) :=
  walks_record _ fun _ _ _ => h

omit [SecretHash] in
theorem writes_link (d : AccountLinkCreate) {r : AccountLinkRecovery} (hr : r.status = .pending)
    (userId identityId : Id) :
    Writes (accountCourse true) ⟨noDraft,.matched d.correlationId d.subject r userId⟩ (addLink d r userId identityId)
      (fun _ y => y = ⟨noDraft,.linked⟩)
      fun _ y => y.known = .matched d.correlationId d.subject r userId := by
  refine Writes.bind ((writes_insert (k := .externalIdentity d.subject) trivial _).mono ?_ fun _ _ hy => hy)
  rintro _ _ rfl
  intro now
  have hidentity (row : ExternalIdentity) :
      noDraft.add (.externalIdentity d.subject) row (.externalIdentity d.subject) ≠ none := by
    simp [Draft.add]
  have hrecovery (row : ExternalIdentity) :
      noDraft.add (.externalIdentity d.subject) row (.accountLinkRecovery d.subject) = none := by
    simp [Draft.add,noDraft]
  refine ⟨fun heq => ?_,fun _ => ⟨_,Or.inr ⟨_,_,_,_,now,rfl,hidentity ⟨identityId,userId,some r.verifiedEmail,.active,some d.correlationId⟩,
    hrecovery ⟨identityId,userId,some r.verifiedEmail,.active,some d.correlationId⟩,⟨rfl,rfl,rfl⟩,rfl⟩,
    ⟨noDraft,.linked⟩,⟨.linked,.links _ _ _ _ identityId now rfl,rfl⟩,rfl⟩⟩
  have hstatus : r.status = .completed := congrArg AccountLinkRecovery.status (Option.some.inj heq)
  rw [hr] at hstatus
  cases hstatus

omit [SecretHash] in
theorem walks_linkIdentity (d : AccountLinkCreate) {r : AccountLinkRecovery} (hr : r.status = .pending)
    (userId : Id) : Walks true ⟨noDraft,.matched d.correlationId d.subject r userId⟩ (linkIdentity d r userId) := by
  refine writes_get fun existing => ?_
  cases existing with
  | some _ => exact walks_refuse _ _ fun h => by cases h
  | none =>
    refine writes_fresh fun identityId => ?_
    refine Writes.bind ((attempts (writes_link d hr userId identityId)).mono ?_ fun _ _ he => he)
    rintro linked y ⟨hdone,hfailed⟩
    cases linked with
    | true => exact fun _ _ he => (by cases he)
    | false =>
      refine ⟨_,rfl,?_⟩
      rw [hfailed rfl]
      exact walks_refuse _ _ fun h => by cases h

omit [SecretHash] in
theorem walks_linkUser (d : AccountLinkCreate) {r : AccountLinkRecovery} (hr : r.status = .pending)
    (userId : Id) : Walks true ⟨noDraft,.holding d.correlationId d.subject r⟩ (linkUser d r userId) := by
  intro db n
  show ∃ y, _ ∧ Walks true y (match db (.user userId) with
    | none => rejectAccountLink 404 "Target legacy User was not found"
    | some user => linkFound d r userId user)
  cases huser : db (.user userId) with
  | none => exact ⟨_,Or.inl rfl,walks_refuse _ _ fun h => by cases h⟩
  | some user =>
    by_cases hemail : normalizedEmail user.email = r.verifiedEmail
    · refine ⟨⟨noDraft,.matched d.correlationId d.subject r userId⟩,Or.inr ⟨rfl,rfl,Or.inr (Or.inr
        ⟨d.correlationId,d.subject,r,userId,user,rfl,huser,hemail,rfl⟩)⟩,?_⟩
      refine writes_legacyMembership fun member => ?_
      rw [if_pos hemail]
      split
      · exact walks_linkIdentity d hr userId
      · exact walks_refuse _ _ fun h => by cases h
    · refine ⟨_,Or.inl rfl,writes_legacyMembership fun member => ?_⟩
      rw [if_neg hemail]
      split
      · exact walks_refuse _ _ fun h => by cases h
      · exact walks_refuse _ _ fun h => by cases h

omit [SecretHash] in
theorem walks_link (d : AccountLinkCreate) : Walks true ⟨noDraft,.nothing⟩ (createAccountLink d) := by
  unfold createAccountLink
  split
  · exact walks_refuse _ _ fun h => by cases h
  split
  · exact walks_refuse _ _ fun h => by cases h
  rename_i userId _
  intro db n
  beta_reduce
  cases hfound : recoveryOf db d.correlationId with
  | none =>
    refine ⟨⟨noDraft,.nothing⟩,Or.inl rfl,?_⟩
    show Walks true _ (rejectAccountLink 404 "Account link recovery was not found")
    exact walks_refuse _ _ fun h => by cases h
  | some found =>
    obtain ⟨s,r⟩ := found
    show ∃ y, _ ∧ Walks true y (linkRecovery d userId s r)
    unfold linkRecovery
    by_cases hr : r.status = .pending
    · refine ⟨⟨noDraft,.holding d.correlationId s r⟩,Or.inr ⟨rfl,rfl,Or.inr (Or.inl
        ⟨rfl,d.correlationId,s,r,hfound,hr,rfl⟩)⟩,?_⟩
      rw [if_neg (not_not.mpr hr)]
      split
      · rename_i hs
        subst hs
        exact walks_linkUser d hr userId
      · exact walks_refuse _ _ fun h => by cases h
    · refine ⟨_,Or.inl rfl,?_⟩
      rw [if_pos hr]
      exact walks_refuse _ _ fun h => by cases h

theorem walks_call (c : AccountCall) : Walks c.operator ⟨noDraft,.nothing⟩ c.program := by
  cases c with
  | login c correlationId => exact walks_login c correlationId
  | link d => exact walks_link d

end walks

end courses

end AiScdc.Onboarding
