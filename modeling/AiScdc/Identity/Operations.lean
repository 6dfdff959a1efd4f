import AiScdc.Identity.Entities

namespace AiScdc.Identity
open Transaction

def commit : Op Unit := .commit (.pure ())

def rollback : Op Unit := .rollback (.pure ())

def freshId : Op Id := .freshId .pure

def utcNow : Op Time := .utcNow .pure

def httpError {α : Type} (statusCode : ℕ) (detail : String) : Op α := .throw (.http statusCode detail)

namespace ExternalIdentity

variable (i : ExternalIdentity)

def claimed (token : Id) (checkedAt : Time) : ExternalIdentity :=
  { i with lastStatusCheckedAt := checkedAt, statusCheckToken := some token, updatedAt := checkedAt }

def checkFailed : ExternalIdentity := { i with statusCheckToken := none }

def checked (localStatus confirmedStatus : Status) (confirmedAt : Time) : ExternalIdentity :=
  { i with
    status := localStatus
    lastConfirmedStatus := confirmedStatus
    lastConfirmedAt := confirmedAt
    lastStatusCheckedAt := confirmedAt
    statusCheckToken := none
    updatedAt := confirmedAt }

def recorded (confirmedStatus : Status) (confirmedAt : Time) : ExternalIdentity :=
  { i with
    lastConfirmedStatus := confirmedStatus
    lastConfirmedAt := confirmedAt
    lastStatusCheckedAt := confirmedAt
    statusCheckToken := none
    status := if confirmedStatus.controlledRestoration then confirmedStatus else i.status
    updatedAt := confirmedAt }

end ExternalIdentity

def DeviceSession.revoked (s : DeviceSession) (at' : Time) : DeviceSession :=
  { s with status := .revoked, revokedAt := some at' }

def revokeUserSessions (userId : Id) (revokedAt : Time) : Op Unit := do
  let _ ← Rows.updateAll Key.deviceSession
    (fun _ (s : DeviceSession) => s.userId = userId && s.status = .active)
    fun _ (s : DeviceSession) => s.revoked revokedAt
  pure ()

-- The audit rows and the members' API tokens are left out.
def recordConfirmedStatusEffects (userId : Id) (confirmedStatus : Status) (confirmedAt : Time) :
    Op Unit :=
  if confirmedStatus = .active then pure () else revokeUserSessions userId confirmedAt

def dueForCheck (userId : Id) (dueBefore : Time) (i : ExternalIdentity) : Bool :=
  i.userId = userId && i.status = .active && decide (i.lastStatusCheckedAt ≤ dueBefore)

def claimDueIdentityStatusChecks (userId : Id) (checkedAt : Time) (interval : ℤ) :
    Op (Id × List Id) := do
  let token ← freshId
  let claims ← Rows.updateAll Key.externalIdentity
    (fun _ (i : ExternalIdentity) => dueForCheck userId (checkedAt - interval) i)
    fun _ (i : ExternalIdentity) => i.claimed token checkedAt
  commit
  pure (token,claims)

def recordFailedClaim (id token : Id) : Op Unit := do
  if ← Rows.updateWhere (.externalIdentity id)
      (fun i : ExternalIdentity => i.statusCheckToken = some token)
      fun i : ExternalIdentity => i.checkFailed
  then commit
  else rollback

def applyConfirmedClaim (id token : Id) (confirmedStatus : Status) (confirmedAt : Time) : Op Unit := do
  let localStatus := if confirmedStatus.controlledRestoration then confirmedStatus else .active
  if ← Rows.updateWhere (.externalIdentity id)
      (fun i : ExternalIdentity => i.statusCheckToken = some token)
      fun i : ExternalIdentity => i.checked localStatus confirmedStatus confirmedAt
  then
    match ← Rows.get (E := Key.Entity) (.externalIdentity id) with
    | none => rollback
    | some identity => do
      recordConfirmedStatusEffects identity.userId confirmedStatus confirmedAt
      commit
  else rollback

inductive ProviderReply where
  | unavailable
  | status (s : Status)
  deriving DecidableEq, Repr

def completeClaims (token : Id) (now : Time) (provider : Id → ProviderReply) : List Id → Op Unit
  | [] => pure ()
  | id :: rest => do
    match provider id with
    | .unavailable => recordFailedClaim id token
    | .status s =>
      if s.confirmed then applyConfirmedClaim id token s now else recordFailedClaim id token
    completeClaims token now provider rest

def synchronizeDueIdentityStatus (userId : Id) (now : Time) (interval : ℤ)
    (provider : Id → ProviderReply) : Op Unit := do
  let (token,claims) ← claimDueIdentityStatusChecks userId now interval
  completeClaims token now provider claims

def findIdentity (issuer subject : String) : Op (Option (Id × ExternalIdentity)) := do
  let found ← Rows.selectWhere Key.externalIdentity fun id (i : ExternalIdentity) =>
    if i.issuer = issuer ∧ i.subject = subject then some (id,i) else none
  pure found.head?

def recordConfirmedIdentityStatus (id : Id) (identity : ExternalIdentity) (confirmedStatus : Status)
    (now : Time) : Op Unit := do
  Rows.flush (.externalIdentity id) identity (identity.recorded confirmedStatus now)
  recordConfirmedStatusEffects identity.userId confirmedStatus now

inductive Purpose where
  | login | recentAuthentication | other
  deriving DecidableEq, Repr

-- What a recent authentication finds of its session: the first refusal, the user, and whether the
-- session still holds the secret that is replaced. What it writes of the session is left out.
structure RecentAuthentication where
  refusal : Option String
  sessionUserId : Id
  sessionUserActive : Bool
  secretReplaced : Bool

-- A callback once its login transaction is claimed, with the provider's answers and those of the
-- checks on the account.
structure LoginCallback where
  issuer : String
  subject : String
  identityStatus : Status
  purpose : Purpose
  recentAuthentication : RecentAuthentication
  recentEmailAuthentication : Bool
  legacyUser : Bool
  admitsLogin : Bool → Bool → Bool
  accountScopeActive : Bool
  now : Time
  idleSeconds : ℕ

def rejectCallback {α : Type} (statusCode : ℕ) (reasonCode : String) : Op α := do
  commit
  httpError statusCode reasonCode

def createDeviceSession (userId : Id) (c : LoginCallback) : Op Unit := do
  let id ← freshId
  Rows.insert (.deviceSession id)
    (⟨userId,.active,c.now + c.idleSeconds * 1000000,none⟩ : DeviceSession) .integrityError

def createPersonalOnboarding (c : LoginCallback) : Op (Id × ExternalIdentity) := do
  let userId ← freshId
  let id ← freshId
  let createdAt ← utcNow
  let identity : ExternalIdentity :=
    ⟨c.issuer,c.subject,userId,.active,.active,createdAt,createdAt,none,createdAt⟩
  Rows.insert (.externalIdentity id) identity .integrityError
  pure (id,identity)

-- The flush that inserts the session writes the confirmed status of the identity first.
def createSession (c : LoginCallback) (id : Id) (identity : ExternalIdentity) : Op Unit := do
  recordConfirmedIdentityStatus id identity .active c.now
  createDeviceSession identity.userId c
  commit

def completeLogin (c : LoginCallback) (found : Option (Id × ExternalIdentity)) : Op Unit := do
  if !c.recentEmailAuthentication then rejectCallback 400 "authentication_method_not_satisfied"
  if !c.admitsLogin found.isSome (found.isNone && c.legacyUser) then
    rejectCallback 403 "rollout_stage_not_eligible"
  match found with
  | none =>
    if c.legacyUser then rejectCallback 409 "account_link_required"
    let (id,identity) ← createPersonalOnboarding c
    createSession c id identity
  | some (id,identity) =>
    if identity.status ≠ .active then rejectCallback 400 "external_identity_not_active"
    if !c.accountScopeActive then rejectCallback 400 "account_scope_not_active"
    createSession c id identity

def confirmRecentAuthentication (c : LoginCallback) (id : Id) (identity : ExternalIdentity) : Op Unit := do
  if identity.status ≠ .active ∨ identity.userId ≠ c.recentAuthentication.sessionUserId ∨
      c.recentAuthentication.sessionUserActive = false then
    rejectCallback 400 "external_identity_mismatch"
  if c.recentAuthentication.secretReplaced then
    recordConfirmedIdentityStatus id identity .active c.now
    commit
  else
    rollback
    rejectCallback 400 "device_session_changed"

-- The identity is selected again, and one that is loaded is not read anew.
def completeRecentAuthentication (c : LoginCallback) (found : Option (Id × ExternalIdentity)) : Op Unit :=
  match c.recentAuthentication.refusal with
  | some reasonCode => rejectCallback 400 reasonCode
  | none =>
    match found with
    | some (id,identity) => confirmRecentAuthentication c id identity
    | none => do
      match ← findIdentity c.issuer c.subject with
      | some (id,identity) => confirmRecentAuthentication c id identity
      | none => rejectCallback 400 "external_identity_mismatch"

def completeForPurpose (c : LoginCallback) (found : Option (Id × ExternalIdentity)) : Op Unit :=
  match c.purpose with
  | .recentAuthentication => completeRecentAuthentication c found
  | .other => rejectCallback 400 "transaction_purpose_invalid"
  | .login => completeLogin c found

def completeLoginCallback (c : LoginCallback) : Op Unit := do
  let found ← findIdentity c.issuer c.subject
  match found with
  | some (id,identity) =>
    if c.identityStatus.inactive then recordConfirmedIdentityStatus id identity c.identityStatus c.now
  | none => pure ()
  if c.identityStatus ≠ .active then rejectCallback 400 "identity_status_inactive"
  completeForPurpose c found

structure Restoration where
  issuer : String
  subject : String
  refused : Option (ℕ × String)
  provider : ProviderReply
  now : Time

def applyRestoration (id : Id) (now : Time) : Op Unit := do
  if ← Rows.updateWhere (.externalIdentity id)
      (fun i : ExternalIdentity => i.status.controlledRestoration)
      fun i : ExternalIdentity => i.checked .active .active now
  then commit
  else do
    rollback
    rejectCallback 409 "restoration_conflict"

-- The provider is asked between the two transactions.
def restoreIdentity (r : Restoration) (id : Id) (identity : ExternalIdentity) : Op Unit := do
  if !identity.status.controlledRestoration then rejectCallback 409 "restoration_not_required"
  commit
  match r.provider with
  | .unavailable => rejectCallback 503 "provider_unavailable"
  | .status s =>
    if s ≠ .active then rejectCallback 409 "provider_identity_not_active"
    applyRestoration id r.now

def restoreExternalIdentity (r : Restoration) : Op Unit :=
  match r.refused with
  | some (statusCode,reasonCode) => rejectCallback statusCode reasonCode
  | none => do
    match ← findIdentity r.issuer r.subject with
    | none => rejectCallback 409 "restoration_not_required"
    | some (id,identity) => restoreIdentity r id identity

inductive IdentityOp where
  | login (c : LoginCallback)
  | synchronize (userId : Id) (now : Time) (interval : ℤ) (provider : Id → ProviderReply)
  | restore (r : Restoration)

def IdentityOp.program : IdentityOp → Op Unit
  | .login c => completeLoginCallback c
  | .synchronize userId now interval provider => synchronizeDueIdentityStatus userId now interval provider
  | .restore r => restoreExternalIdentity r

end AiScdc.Identity
