import AiScdc.DeviceSessions.Credentials

namespace AiScdc.DeviceSessions
open Transaction

def commit : Op Unit := .commit (.pure ())

def rollback : Op Unit := .rollback (.pure ())

def freshId : Op Id := .freshId .pure

def respond {α : Type} (response : Response) : Op α := .throw response

abbrev sessionRows : SessionRows Op where
  get id := Rows.get (E := Key.Entity) (.deviceSession id)
  flush id loaded changed := Rows.flush (.deviceSession id) loaded changed
  commit := commit

section credentials

variable [SecretHash]

-- What was written, and the audit event, is committed before the answer.
def recordAndRespond {α : Type} (response : Response) : Op α := do
  commit
  respond response

def invalidUserSession {α : Type} : Op α := respond (.http 401 "User Session is not valid")

def recordAuthenticationFailure {α : Type} : Op α :=
  recordAndRespond (.http 401 "User Session is not valid")

def refreshDeviceSession (sessionId : Id) : Op DeviceSession := do
  match ← Rows.get (E := Key.Entity) (.deviceSession sessionId) with
  | none => invalidUserSession
  | some s => pure s

def recoverRotated (sessionId : Id) (presentedHash : ℕ) (now : Time) : Op DeviceSession := do
  rollback
  let current ← refreshDeviceSession sessionId
  if current.status = .active ∧ current.previousSecretHash = some presentedHash ∧
      current.previousSecretValidUntil.any fun validUntil => now ≤ validUntil then
    pure current
  else invalidUserSession

def rotateUserSessionCredential (sessionId : Id) (s : DeviceSession) (presentedHash : ℕ) (now : Time) :
    Op (DeviceSession × Option Id) := do
  let newSecret ← freshId
  let updated ← Rows.updateWhere (.deviceSession sessionId)
    (fun c : DeviceSession => c.status = .active && c.secretHash = presentedHash &&
      c.secretRotatedAt = s.secretRotatedAt)
    fun c : DeviceSession =>
      let rotated := c.rotate (hashSessionSecret newSecret) presentedHash now
      if s.renewalDue now then rotated.renew now else rotated
  if updated then
    commit
    let current ← refreshDeviceSession sessionId
    pure (current,some newSecret)
  else
    let current ← recoverRotated sessionId presentedHash now
    pure (current,none)

-- A request, with the answers of the checks on its user, workspace and identity. The identity check
-- finds nothing due, or finds the identity active, or not active.
structure Request where
  cookie : Option (Id × Id)
  now : Time
  userActive : Bool
  workspaceAccess : Bool
  selectionRecovery : Bool
  identityCheck : Option Bool
  checkedAt : Time

def revokeUserSessions (userId : Id) (now : Time) : Op Unit := do
  let _ ← Rows.updateAll Key.deviceSession
    (fun _ (s : DeviceSession) => s.userId = userId && s.status = .active)
    fun _ (s : DeviceSession) => s.revoke now
  pure ()

def synchronizeRequestIdentityStatus (r : Request) (sessionId : Id) (s : DeviceSession) :
    Op DeviceSession :=
  match r.identityCheck with
  | none => pure s
  | some true => do
    commit
    refreshDeviceSession sessionId
  | some false => do
    revokeUserSessions s.userId r.checkedAt
    commit
    invalidUserSession

def renewActivity (sessionId : Id) (s : DeviceSession) (now : Time) : Op DeviceSession :=
  if s.renewalDue now then do
    let renewed ← Rows.updateWhere (.deviceSession sessionId)
      (fun c : DeviceSession => c.status = .active && c.lastSeenAt = s.lastSeenAt)
      fun c : DeviceSession => c.renew now
    if renewed then commit else rollback
    refreshDeviceSession sessionId
  else pure s

def authorizeRequest (r : Request) (sessionId : Id) (s : DeviceSession) : Op DeviceSession := do
  if !r.userActive then recordAuthenticationFailure
  else if !r.workspaceAccess && !r.selectionRecovery then recordAndRespond (.http 409 "workspace_access_lost")
  else
    let synchronized ← synchronizeRequestIdentityStatus r sessionId s
    renewActivity sessionId synchronized r.now

structure Authenticated where
  sessionId : Id
  deviceSession : DeviceSession
  cookie : Option Id

def rotateWhenDue (resolved : Resolved) (now : Time) : Op (DeviceSession × Option Id) :=
  let s := resolved.deviceSession
  if resolved.usesCurrentSecret ∧ s.secretRotatedAt + userSessionRotation ≤ now then
    rotateUserSessionCredential resolved.sessionId s resolved.presentedSecretHash now
  else pure (s,none)

def admitRequest (r : Request) : Except Rejected Resolved → Op Authenticated
  | .error rejected => if rejected.recorded then invalidUserSession else recordAuthenticationFailure
  | .ok resolved => do
    let (current,cookie) ← rotateWhenDue resolved r.now
    let s ← authorizeRequest r resolved.sessionId current
    pure ⟨resolved.sessionId,s,cookie⟩

def userSessionAuthContext (r : Request) : Op Authenticated := do
  let resolved ← resolveUserSessionCredential sessionRows r.cookie r.now
  admitRequest r resolved

def authenticate (r : Request) : Op Unit := do
  let auth ← userSessionAuthContext r
  respond (.authenticated auth.sessionId auth.cookie)

end credentials

section continuations

namespace ProviderLogoutContinuation

variable (c : ProviderLogoutContinuation)

def supersede (now : Time) : ProviderLogoutContinuation :=
  { c with sealedProviderHint := none, status := .superseded, updatedAt := now }

def prepare (secretHash : ℕ) (now : Time) : ProviderLogoutContinuation :=
  { c with
    status := .prepared
    browserSecretHash := some secretHash
    browserSecretExpiresAt := some (now + providerLogoutContinuation)
    consumedAt := none
    updatedAt := now }

-- What a sign-out leaves where the provider gives no redirect.
def abandon (now : Time) : ProviderLogoutContinuation :=
  { c with
    sealedProviderHint := none
    status := .consumed
    browserSecretHash := none
    browserSecretExpiresAt := none
    consumedAt := some now
    updatedAt := now }

def consume (now : Time) : ProviderLogoutContinuation :=
  { c with
    sealedProviderHint := none
    status := .consumed
    browserSecretHash := none
    consumedAt := some now
    updatedAt := now }

end ProviderLogoutContinuation

def replaceProviderLogoutContinuation (sessionId : Id) (hint : Option String) (now : Time) : Op Unit := do
  let _ ← Rows.updateAll Key.continuation
    (fun _ (c : ProviderLogoutContinuation) => c.deviceSessionId = sessionId && c.status = .available)
    fun _ (c : ProviderLogoutContinuation) => c.supersede now
  match hint with
  | none => pure ()
  | some hint => do
    let id ← freshId
    Rows.insert (.continuation id)
      (⟨sessionId,some hint,.available,none,none,none,now,now⟩ : ProviderLogoutContinuation)
      .integrityError

-- The newest by creation, and then by id.
def newest (found : List (Id × ProviderLogoutContinuation)) : Option (Id × ProviderLogoutContinuation) :=
  found.foldl (fun best entry => match best with
    | none => some entry
    | some b => if b.2.createdAt ≤ entry.2.createdAt then some entry else some b) none

def latestProviderLogoutContinuation (sessionId : Id) : Op (Option (Id × ProviderLogoutContinuation)) := do
  let found ← Rows.selectWhere Key.continuation fun id (c : ProviderLogoutContinuation) =>
    if c.deviceSessionId = sessionId ∧ c.status = .available ∧ c.sealedProviderHint.isSome then
      some (id,c)
    else none
  pure (newest found)

variable [SecretHash]

def prepareContinuation (id : Id) (c : ProviderLogoutContinuation) (now : Time) : Op Unit := do
  let secret ← freshId
  Rows.flush (.continuation id) c (c.prepare (hashSessionSecret secret) now)
  recordAndRespond (.signedOut (some (id,secret)))

-- The provider is asked for a redirect after the first commit.
def signOutCurrentDevice (sessionId : Id) (s : DeviceSession) (now : Time) (providerRedirect : Bool) :
    Op Unit := do
  let continuation ← latestProviderLogoutContinuation sessionId
  Rows.flush (.deviceSession sessionId) s (s.revoke now)
  commit
  match continuation with
  | none => recordAndRespond (.signedOut none)
  | some (id,c) =>
    if providerRedirect then prepareContinuation id c now
    else
      Rows.flush (.continuation id) c (c.abandon now)
      recordAndRespond (.signedOut none)

def continuationAccepts (c : ProviderLogoutContinuation) (secret : Id) (now : Time) : Bool :=
  c.status = .prepared && c.sealedProviderHint.isSome && c.consumedAt.isNone &&
    c.browserSecretExpiresAt.any (fun expiresAt => now < expiresAt) &&
    c.browserSecretHash = some (hashSessionSecret secret)

def consumeContinuation (id : Id) (c : ProviderLogoutContinuation) (secret : Id) (now : Time)
    (providerRedirect : Bool) : Op Unit := do
  let consumed ← Rows.updateWhere (.continuation id)
    (fun current : ProviderLogoutContinuation => current.status = .prepared &&
      current.browserSecretHash = c.browserSecretHash && current.consumedAt.isNone)
    fun current : ProviderLogoutContinuation => current.consume now
  if consumed then
    recordAndRespond (if providerRedirect then .redirectedToProvider id secret else .redirectedHome)
  else
    rollback
    respond .redirectedHome

def continueProviderLogout (cookie : Option (Id × Id)) (now : Time) (providerRedirect : Bool) :
    Op Unit := do
  match cookie with
  | none => respond .redirectedHome
  | some (id,secret) =>
    match ← Rows.get (E := Key.Entity) (.continuation id) with
    | none => respond .redirectedHome
    | some c =>
      if continuationAccepts c secret now then consumeContinuation id c secret now providerRedirect
      else respond .redirectedHome

end continuations

section sessions

variable [SecretHash]

def rejectCallback {α : Type} (reasonCode : String) : Op α := recordAndRespond (.http 400 reasonCode)

-- A callback of a recent authentication once its login transaction is claimed, with the provider's
-- answers and whether the external identity is that of the session's user.
structure Reauthentication where
  cookie : Option (Id × Id)
  requestedSessionId : Option Id
  methodSatisfied : Bool
  freshlyAuthenticated : Bool
  identityMatches : Bool
  authenticatedAt : Time
  logoutHint : Option String
  now : Time

def rotateByReauthentication (r : Reauthentication) (sessionId : Id) (s : DeviceSession) : Op Unit := do
  let newSecret ← freshId
  let updated ← Rows.updateWhere (.deviceSession sessionId)
    (fun c : DeviceSession => c.status = .active && c.secretHash = s.secretHash)
    fun c : DeviceSession =>
      c.reauthenticate (hashSessionSecret newSecret) s.secretHash r.authenticatedAt r.now
  if updated then
    replaceProviderLogoutContinuation sessionId r.logoutHint r.now
    recordAndRespond (.signedIn sessionId newSecret)
  else
    rollback
    rejectCallback "device_session_changed"

def completeRecentAuthentication (r : Reauthentication) : Op Unit := do
  if !r.methodSatisfied then rejectCallback "authentication_method_not_satisfied"
  else if !r.freshlyAuthenticated then rejectCallback "authentication_not_fresh"
  else
    match ← resolveUserSessionCredential sessionRows r.cookie r.now with
    | .error _ => rejectCallback "device_session_not_valid"
    | .ok resolved =>
      if r.requestedSessionId ≠ some resolved.sessionId then rejectCallback "device_session_mismatch"
      else if !r.identityMatches then rejectCallback "external_identity_mismatch"
      else rotateByReauthentication r resolved.sessionId resolved.deviceSession

structure SessionCreation where
  userId : Id
  authenticatedAt : Time
  logoutHint : Option String
  now : Time

def newDeviceSession (c : SessionCreation) (secretHash : ℕ) : DeviceSession where
  userId := c.userId
  secretHash := secretHash
  previousSecretHash := none
  previousSecretValidUntil := none
  secretRotatedAt := c.now
  recentAuthenticatedAt := some c.authenticatedAt
  status := .active
  idleExpiresAt := c.now + userSessionIdle
  lastSeenAt := c.now
  updatedAt := c.now
  revokedAt := none

def createDeviceSession (c : SessionCreation) : Op Unit := do
  let secret ← freshId
  let sessionId ← freshId
  Rows.insert (.deviceSession sessionId) (newDeviceSession c (hashSessionSecret secret)) .integrityError
  replaceProviderLogoutContinuation sessionId c.logoutHint c.now
  recordAndRespond (.signedIn sessionId secret)

def revokeActiveDeviceSession (auth : Authenticated) (target : Id) (now : Time) : Op Unit := do
  if target = auth.sessionId then
    recordAndRespond (.http 409 "current_device_session_requires_sign_out")
  else
    let revoked ← Rows.updateWhere (.deviceSession target)
      (fun s : DeviceSession => s.userId = auth.deviceSession.userId && s.status = .active &&
        now < s.idleExpiresAt)
      fun s : DeviceSession => s.revoke now
    if revoked then recordAndRespond .noContent
    else
      rollback
      recordAndRespond (.http 404 "device_session_not_found")

def revokeOtherActiveDeviceSessions (auth : Authenticated) (recentlyAuthenticated fails : Bool)
    (now : Time) : Op Unit := do
  if !recentlyAuthenticated then recordAndRespond (.http 403 "recent_authentication_required")
  else
    commit
    let _ ← Rows.updateAll Key.deviceSession
      (fun id (s : DeviceSession) => s.userId = auth.deviceSession.userId && id ≠ auth.sessionId &&
        s.status = .active && now < s.idleExpiresAt)
      fun _ (s : DeviceSession) => s.revoke now
    if fails then
      rollback
      recordAndRespond (.http 503 "device_session_revocation_failed")
    else recordAndRespond .noContent

def confirmIdentityInactive (userId : Id) (now : Time) : Op Unit := do
  revokeUserSessions userId now
  commit

def revokeUserSessionsForSecurityRollback (now : Time) : Op Unit := do
  let _ ← Rows.updateAll Key.deviceSession (fun _ (s : DeviceSession) => s.status = .active)
    fun _ (s : DeviceSession) => s.revoke now
  commit

inductive SessionOp where
  | authenticate (r : Request)
  | reauthenticate (r : Reauthentication)
  | login (c : SessionCreation)
  | signOut (r : Request) (now : Time) (providerRedirect : Bool)
  | continueLogout (cookie : Option (Id × Id)) (now : Time) (providerRedirect : Bool)
  | revokeDevice (r : Request) (target : Id) (now : Time)
  | revokeOthers (r : Request) (recentlyAuthenticated fails : Bool) (now : Time)
  | confirmInactive (userId : Id) (now : Time)
  | securityRollback (now : Time)

def SessionOp.program : SessionOp → Op Unit
  | .authenticate r => DeviceSessions.authenticate r
  | .reauthenticate r => completeRecentAuthentication r
  | .login c => createDeviceSession c
  | .signOut r now providerRedirect => do
    let auth ← userSessionAuthContext r
    signOutCurrentDevice auth.sessionId auth.deviceSession now providerRedirect
  | .continueLogout cookie now providerRedirect => continueProviderLogout cookie now providerRedirect
  | .revokeDevice r target now => do
    let auth ← userSessionAuthContext r
    revokeActiveDeviceSession auth target now
  | .revokeOthers r recentlyAuthenticated fails now => do
    let auth ← userSessionAuthContext r
    revokeOtherActiveDeviceSessions auth recentlyAuthenticated fails now
  | .confirmInactive userId now => confirmIdentityInactive userId now
  | .securityRollback now => revokeUserSessionsForSecurityRollback now

end sessions

end AiScdc.DeviceSessions
