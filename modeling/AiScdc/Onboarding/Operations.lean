import AiScdc.Onboarding.Entities

namespace AiScdc.Onboarding
open Transaction
open Login (LoginTransaction)
open DeviceSessions (DeviceSession SecretHash hashSessionSecret newDeviceSession)

-- What the code and the database make of a text: strip and lower, LOWER, and strip and casefold.
class EmailText where
  stripLower : String → String
  sqlLower : String → String
  stripCasefold : String → String

export EmailText (stripLower sqlLower stripCasefold)

def commit : Op Unit := .commit (.pure ())

def rollback : Op Unit := .rollback (.pure ())

def freshId : Op Id := .freshId .pure

def respond {α : Type} (response : Response) : Op α := .throw response

def recordAndRespond {α : Type} (response : Response) : Op α := do
  commit
  respond response

inductive IdentityRolloutStage where
  | productionInternal | existingBeta | other
  deriving DecidableEq, Repr

structure IdentityRolloutPolicy where
  oidcLoginEnabled : Bool
  stage : IdentityRolloutStage
  internalEmailAllowlist : List String

inductive OnboardingStep where
  | user | account | workspace | membership | externalIdentity | deviceSession | completion
  deriving DecidableEq, Repr

-- A callback whose transaction is claimed and whose token is validated, and the step of its onboarding
-- that fails.
structure LoginCallback where
  transactionId : Id
  subject : ProviderSubject
  email : Option String
  policy : IdentityRolloutPolicy
  authenticatedAt : Option Time
  failureStep : Option OnboardingStep
  now : Time

structure AccountLinkCreate where
  correlationId : String
  subject : ProviderSubject
  userId : Option Id
  reason : String
  operatorAuthorized : Bool

section operations

variable [EmailText]

def normalizedEmail (email : Option String) : String := stripLower (email.getD "")

def IdentityRolloutPolicy.admitsLogin (p : IdentityRolloutPolicy) (email : Option String)
    (hasExternalIdentity hasLegacyAccount : Bool) : Bool :=
  if !p.oidcLoginEnabled then false
  else
    match p.stage with
    | .productionInternal => email.any fun e => p.internalEmailAllowlist.contains (stripCasefold e)
    | .existingBeta => hasExternalIdentity || hasLegacyAccount
    | .other => true

def isLegacyMembership (db : Db) (userId id : Id) : Bool :=
  (db (.membership id)).any fun m : OrganizationMember => m.userId = userId &&
    (db (.organization m.organizationId)).any fun o : Organization => o.accountKind = .legacy

def legacyUserMatchingEmail (email : Option String) : Op (Option Id) :=
  if normalizedEmail email = "" then pure none
  else
    .select fun db next => .pure ((List.range next).find? fun userId =>
      (db (.user userId)).any (fun u : User => u.email.map sqlLower = some (normalizedEmail email)) &&
        (List.range next).any (isLegacyMembership db userId))

section callbacks

variable (c : LoginCallback)

def rejectCallback {α : Type} (t : LoginTransaction) (statusCode : ℕ) (reasonCode : String) : Op α := do
  if t.status = .pending ∨ t.status = .processing then
    Rows.flush (.loginTransaction c.transactionId) t t.reject
    recordAndRespond (.failed statusCode reasonCode)
  else recordAndRespond (.failed statusCode reasonCode)

def commitAccountLinkRequired (t : LoginTransaction) : Op Unit := do
  Rows.flush (.loginTransaction c.transactionId) t t.reject
  recordAndRespond (.failed 409 "account_link_required")

-- A row and the entry of the unique index on its correlation id.
def addRecovery (correlationId : String) : Op Unit := do
  Rows.insert (.recoveryCorrelation correlationId) c.subject .databaseError
  Rows.insert (.accountLinkRecovery c.subject)
    (⟨normalizedEmail c.email,correlationId,.pending,none,none⟩ : AccountLinkRecovery) .databaseError

def requireExistingRecovery : Op Unit := do
  let recovery ← Rows.get (E := Key.Entity) (.accountLinkRecovery c.subject)
  match ← Rows.get (E := Key.Entity) (.loginTransaction c.transactionId) with
  | none => recordAndRespond (.failed 500 "account_link_recovery_persistence_failed")
  | some t =>
    if recovery.isNone then rejectCallback c t 500 "account_link_recovery_persistence_failed"
    else commitAccountLinkRequired c t

def requireExplicitAccountLink (t : LoginTransaction) (correlationId : String) : Op Unit := do
  match ← Rows.get (E := Key.Entity) (.accountLinkRecovery c.subject) with
  | some _ => commitAccountLinkRequired c t
  | none =>
    let added ← tryCatch (do
      addRecovery c correlationId
      pure true) fun _ => do
      rollback
      pure false
    if added then commitAccountLinkRequired c t else requireExistingRecovery c

def rollbackPersonalOnboarding {α : Type} : Op α := do
  rollback
  match ← Rows.get (E := Key.Entity) (.loginTransaction c.transactionId) with
  | none => recordAndRespond (.failed 500 "persistence_failed")
  | some t =>
    if t.status = .processing then
      Rows.flush (.loginTransaction c.transactionId) t t.reject
      recordAndRespond (.failed 500 "persistence_failed")
    else recordAndRespond (.failed 500 "persistence_failed")

def injectPersonalOnboardingFailure (completedStep : OnboardingStep) : Op Unit :=
  if c.failureStep = some completedStep then .throw .databaseError else pure ()

-- The rows that an onboarding creates, in memory with their keys.
structure PersonalAccount where
  userId : Id
  user : User
  organizationId : Id
  organization : Organization
  workspaceId : Id
  workspace : Workspace
  membershipId : Id
  membership : OrganizationMember
  identity : ExternalIdentity

def newUser : User :=
  ⟨c.email,if c.email.getD "" = "" then "AI-SCDC User" else c.email.getD "",.active⟩

def newOrganization (userId : Id) : Organization := ⟨"Personal Account",.personal,some userId,.active⟩

def newWorkspace (organizationId : Id) : Workspace := ⟨organizationId,"Default Workspace",.active⟩

def newMembership (organizationId workspaceId userId : Id) : OrganizationMember :=
  ⟨organizationId,workspaceId,userId,.owner,.active⟩

def createPersonalOnboarding : Op PersonalAccount := do
  let userId ← freshId
  Rows.insert (.user userId) (newUser c) .databaseError
  injectPersonalOnboardingFailure c .user
  let organizationId ← freshId
  Rows.insert (.organization organizationId) (newOrganization userId) .databaseError
  injectPersonalOnboardingFailure c .account
  let workspaceId ← freshId
  Rows.insert (.workspace workspaceId) (newWorkspace organizationId) .databaseError
  injectPersonalOnboardingFailure c .workspace
  let membershipId ← freshId
  Rows.insert (.membership membershipId) (newMembership organizationId workspaceId userId) .databaseError
  injectPersonalOnboardingFailure c .membership
  let identityId ← freshId
  Rows.insert (.externalIdentity c.subject)
    (⟨identityId,userId,c.email,.active,none⟩ : ExternalIdentity) .databaseError
  injectPersonalOnboardingFailure c .externalIdentity
  pure ⟨userId,newUser c,organizationId,newOrganization userId,workspaceId,newWorkspace organizationId,
    membershipId,newMembership organizationId workspaceId userId,⟨identityId,userId,c.email,.active,none⟩⟩

def scopeActive (user : User) (workspace : Workspace) (organization : Organization)
    (organizationId : Id) : Bool :=
  user.status = .active && workspace.status = .active && organization.status = .active &&
    workspace.organizationId = organizationId

variable [SecretHash]

def addSession (t : LoginTransaction) (userId sessionId secret : Id) (authenticatedAt : Time)
    (onboarding : Bool) : Op Unit := do
  Rows.insert (.deviceSession sessionId)
    (newDeviceSession ⟨userId,authenticatedAt,none,c.now⟩ (hashSessionSecret secret)) .databaseError
  if onboarding then injectPersonalOnboardingFailure c .deviceSession else pure ()
  Rows.flush (.loginTransaction c.transactionId) t (t.complete sessionId c.now)
  if c.failureStep = some .completion then .throw .databaseError else commit

def createSession (t : LoginTransaction) (userId : Id) (authenticatedAt : Time) (onboarding : Bool) :
    Op Unit := do
  let secret ← freshId
  let sessionId ← freshId
  let opened ← tryCatch (do
    addSession c t userId sessionId secret authenticatedAt onboarding
    pure true) fun _ => pure false
  if opened then respond (.signedIn sessionId secret)
  else if onboarding then rollbackPersonalOnboarding c
  else
    rollback
    respond .databaseError

def completeOnboarding (t : LoginTransaction) (authenticatedAt : Time) (a : PersonalAccount) : Op Unit :=
  if a.user.status ≠ .active then rejectCallback c t 400 "account_scope_not_active"
  else if !scopeActive a.user a.workspace a.organization a.membership.organizationId then
    rejectCallback c t 400 "account_scope_not_active"
  else createSession c t a.userId authenticatedAt true

def onboard (t : LoginTransaction) (authenticatedAt : Time) : Op Unit := do
  let created ← tryCatch (do
    let account ← createPersonalOnboarding c
    pure (some account)) fun _ => pure none
  match created with
  | none => rollbackPersonalOnboarding c
  | some account => completeOnboarding c t authenticatedAt account

def activeMembership (userId : Id) : Op (Option OrganizationMember) :=
  .select fun db next => .pure ((List.range next).findSome? fun id =>
    (db (.membership id)).bind fun m : OrganizationMember =>
      if m.userId = userId ∧ m.status = .active then some m else none)

def signInLinked (t : LoginTransaction) (authenticatedAt : Time) (identity : ExternalIdentity) : Op Unit :=
  if identity.status ≠ .active then rejectCallback c t 400 "external_identity_not_active"
  else do
    let user ← Rows.get (E := Key.Entity) (.user identity.userId)
    let membership ← activeMembership identity.userId
    match user, membership with
    | some user, some membership =>
      let workspace ← Rows.get (E := Key.Entity) (.workspace membership.workspaceId)
      let organization ← Rows.get (E := Key.Entity) (.organization membership.organizationId)
      match workspace, organization with
      | some workspace, some organization =>
        if scopeActive user workspace organization membership.organizationId then
          createSession c t identity.userId authenticatedAt false
        else rejectCallback c t 400 "account_scope_not_active"
      | _, _ => rejectCallback c t 400 "account_scope_not_active"
    | _, _ => rejectCallback c t 400 "account_scope_not_active"

def signIn (t : LoginTransaction) (correlationId : String) (authenticatedAt : Time)
    (identity : Option ExternalIdentity) (legacy : Option Id) : Op Unit :=
  match identity with
  | some identity => signInLinked c t authenticatedAt identity
  | none =>
    if legacy.isSome then requireExplicitAccountLink c t correlationId else onboard c t authenticatedAt

def completeFound (t : LoginTransaction) (correlationId : String) (identity : Option ExternalIdentity) :
    Op Unit :=
  match c.authenticatedAt with
  | none => rejectCallback c t 400 "authentication_method_not_satisfied"
  | some authenticatedAt => do
    let legacy ← if identity.isNone then legacyUserMatchingEmail c.email else pure none
    if c.policy.admitsLogin c.email identity.isSome legacy.isSome then
      signIn c t correlationId authenticatedAt identity legacy
    else rejectCallback c t 403 "rollout_stage_not_eligible"

-- From the lookup of the identity on, for a login whose provider status is active.
def completeLoginCallback (correlationId : String) : Op Unit := do
  match ← Rows.get (E := Key.Entity) (.loginTransaction c.transactionId) with
  | none => recordAndRespond (.failed 400 "state_not_found")
  | some t =>
    let identity ← Rows.get (E := Key.Entity) (.externalIdentity c.subject)
    completeFound c t correlationId identity

end callbacks

section links

def accountLinkReasons : List String := ["legacy_account_migration","verified_support_recovery"]

def rejectAccountLink {α : Type} (statusCode : ℕ) (detail : String) : Op α :=
  recordAndRespond (.http statusCode detail)

def AccountLinkCreate.normalizedRequest (d : AccountLinkCreate) : Option Id :=
  if d.correlationId = "" ∨ d.subject.issuer = "" ∨ d.subject.subject = "" ∨
      d.reason ∉ accountLinkReasons then none
  else d.userId

-- The recovery with a correlation id, found by the index.
def recoveryOf (db : Db) (correlationId : String) : Option (ProviderSubject × AccountLinkRecovery) :=
  (db (.recoveryCorrelation correlationId)).bind fun s : ProviderSubject =>
    (db (.accountLinkRecovery s)).map fun r : AccountLinkRecovery => (s,r)

def findRecovery (correlationId : String) : Op (Option (ProviderSubject × AccountLinkRecovery)) :=
  .select fun db _ => .pure (recoveryOf db correlationId)

def hasLegacyMembership (userId : Id) : Op Bool :=
  .select fun db next => .pure ((List.range next).any fun id =>
    (db (.membership id)).any fun m : OrganizationMember => m.userId = userId && m.status = .active &&
      (db (.organization m.organizationId)).any fun o : Organization =>
        o.status = .active && o.accountKind = .legacy)

variable (d : AccountLinkCreate)

def addLink (r : AccountLinkRecovery) (userId identityId : Id) : Op Unit := do
  Rows.insert (.externalIdentity d.subject)
    (⟨identityId,userId,some r.verifiedEmail,.active,some d.correlationId⟩ : ExternalIdentity) .databaseError
  let now ← (.utcNow .pure : Op Time)
  Rows.flush (.accountLinkRecovery d.subject) r (r.complete userId now)
  commit

def linkIdentity (r : AccountLinkRecovery) (userId : Id) : Op Unit := do
  match ← Rows.get (E := Key.Entity) (.externalIdentity d.subject) with
  | some _ => rejectAccountLink 409 "External Identity is already linked"
  | none =>
    let identityId ← freshId
    let linked ← tryCatch (do
      addLink d r userId identityId
      pure true) fun _ => pure false
    if linked then respond (.linked userId identityId)
    else
      rollback
      rejectAccountLink 409 "Account link recovery is no longer pending"

def linkFound (r : AccountLinkRecovery) (userId : Id) (user : User) : Op Unit := do
  let member ← hasLegacyMembership userId
  if user.status = .active && member then
    if normalizedEmail user.email = r.verifiedEmail then linkIdentity d r userId
    else rejectAccountLink 409 "Target User does not match the verified email"
  else rejectAccountLink 404 "Target legacy User was not found"

def linkUser (r : AccountLinkRecovery) (userId : Id) : Op Unit := do
  match ← Rows.get (E := Key.Entity) (.user userId) with
  | none => rejectAccountLink 404 "Target legacy User was not found"
  | some user => linkFound d r userId user

def linkRecovery (userId : Id) (s : ProviderSubject) (r : AccountLinkRecovery) : Op Unit :=
  if r.status ≠ .pending then rejectAccountLink 409 "Account link recovery is no longer pending"
  else if s = d.subject then linkUser d r userId
  else rejectAccountLink 409 "External Identity does not match the recovery"

def createAccountLink : Op Unit :=
  if !d.operatorAuthorized then rejectAccountLink 403 "Account link operation is not authorized"
  else
    match d.normalizedRequest with
    | none => rejectAccountLink 400 "Account link request is invalid"
    | some userId => do
      match ← findRecovery d.correlationId with
      | none => rejectAccountLink 404 "Account link recovery was not found"
      | some (s,r) => linkRecovery d userId s r

end links

-- A login with the correlation id of its transaction, or an operator's link.
inductive AccountCall where
  | login (c : LoginCallback) (correlationId : String)
  | link (d : AccountLinkCreate)

def AccountCall.program [SecretHash] : AccountCall → Op Unit
  | .login c correlationId => completeLoginCallback c correlationId
  | .link d => createAccountLink d

end operations

end AiScdc.Onboarding
