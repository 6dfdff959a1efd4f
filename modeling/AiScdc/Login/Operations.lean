import AiScdc.Login.Entities

namespace AiScdc.Login
open Transaction
open DeviceSessions (DeviceSession SecretHash SessionRows hashSessionSecret newDeviceSession
  resolveUserSessionCredential)

def commit : Op Unit := .commit (.pure ())

def rollback : Op Unit := .rollback (.pure ())

def freshId : Op Id := .freshId .pure

abbrev sessionRows : SessionRows Op where
  get id := Rows.get (E := Key.Entity) (.deviceSession id)
  flush id loaded changed := Rows.flush (.deviceSession id) loaded changed
  commit := commit

def respond {α : Type} (response : Response) : Op α := .throw response

def recordAndRespond {α : Type} (response : Response) : Op α := do
  commit
  respond response

def terminalizeTransaction (id : Id) (t : LoginTransaction) : Op Unit :=
  if t.status = .pending ∨ t.status = .processing then Rows.flush (.loginTransaction id) t t.reject
  else pure ()

def rejectCallback {α : Type} (id : Id) (t : LoginTransaction) (statusCode : ℕ) (reasonCode : String) :
    Op α := do
  terminalizeTransaction id t
  recordAndRespond (.failed statusCode reasonCode)

-- A rejection that leaves the transaction alone, or finds none.
def refuseCallback {α : Type} (statusCode : ℕ) (reasonCode : String) : Op α :=
  recordAndRespond (.failed statusCode reasonCode)

-- What a statement of this callback finds of its transaction after a commit or a rollback.
def withTransaction {α : Type} (id : Id) (k : LoginTransaction → Op α) : Op α := do
  match ← Rows.get (E := Key.Entity) (.loginTransaction id) with
  | none => respond .databaseError
  | some t => k t

def rejectCurrent {α : Type} (id : Id) (statusCode : ℕ) (reasonCode : String) : Op α :=
  withTransaction id fun current => rejectCallback id current statusCode reasonCode

section credentials

variable [SecretHash]

-- A callback: the transaction its state names, its session cookie, and whether it carries the browser
-- binding of the transaction.
structure Callback where
  transactionId : Id
  cookie : Option (Id × Id)
  browserBound : Bool
  oidcLoginEnabled : Bool
  now : Time

def completedSessionResponse (c : Callback) (t : LoginTransaction) : Op (Option Response) :=
  match t.completedSessionId with
  | none => pure none
  | some completed => do
    match ← resolveUserSessionCredential sessionRows c.cookie c.now with
    | .error rejected =>
      pure (if rejected.recorded then some (.failed 401 "login_callback_rejected") else none)
    | .ok resolved => pure (if resolved.sessionId = completed then some .confirmed else none)

def claimLoginTransaction (id : Id) : Op Bool := do
  let claimed ← Rows.updateWhere (.loginTransaction id)
    (fun t : LoginTransaction => t.status = .pending) fun t : LoginTransaction => t.process
  commit
  pure claimed

def exchangeCode : Op Outcome := .update .provider (fun _ => false) id fun _ => .utcNow .pure

def finishRotation (c : Callback) (t : LoginTransaction) (sessionId secret : Id) : Op Unit := do
  Rows.flush (.loginTransaction c.transactionId) t (t.complete sessionId c.now)
  recordAndRespond (.signedIn sessionId secret)

def rotateByReauthentication (c : Callback) (t : LoginTransaction) (authenticatedAt : Time)
    (sessionId : Id) (s : DeviceSession) : Op Unit := do
  let newSecret ← freshId
  let updated ← Rows.updateWhere (.deviceSession sessionId)
    (fun current : DeviceSession => current.status = .active && current.secretHash = s.secretHash)
    fun current : DeviceSession =>
      current.reauthenticate (hashSessionSecret newSecret) s.secretHash authenticatedAt c.now
  if updated then finishRotation c t sessionId newSecret
  else
    rollback
    rejectCurrent c.transactionId 400 "device_session_changed"

def completeRecentAuthentication (c : Callback) (t : LoginTransaction) (o : Outcome) : Op Unit :=
  if !o.methodSatisfied then
    rejectCallback c.transactionId t 400 "authentication_method_not_satisfied"
  else if !o.freshlyAuthenticated then rejectCallback c.transactionId t 400 "authentication_not_fresh"
  else do
    match ← resolveUserSessionCredential sessionRows c.cookie c.now with
    | .error rejected =>
      if rejected.recorded then rejectCurrent c.transactionId 400 "device_session_not_valid"
      else rejectCallback c.transactionId t 400 "device_session_not_valid"
    | .ok resolved =>
      if t.requestedSessionId ≠ some resolved.sessionId then
        rejectCallback c.transactionId t 400 "device_session_mismatch"
      else if !o.identityMatches then rejectCallback c.transactionId t 400 "external_identity_mismatch"
      else rotateByReauthentication c t o.authenticatedAt resolved.sessionId resolved.deviceSession

def commitAccountLinkRequired (c : Callback) (t : LoginTransaction) : Op Unit := do
  Rows.flush (.loginTransaction c.transactionId) t t.reject
  recordAndRespond (.failed 409 "account_link_required")

def requireExplicitAccountLink (c : Callback) (t : LoginTransaction) : AccountLink → Op Unit
  | .recorded => commitAccountLinkRequired c t
  | .conflict recoveryFound => do
    rollback
    withTransaction c.transactionId fun current =>
      if recoveryFound then commitAccountLinkRequired c current
      else rejectCallback c.transactionId current 500 "account_link_recovery_persistence_failed"

def rollbackPersonalOnboarding (c : Callback) : Op Unit := do
  rollback
  withTransaction c.transactionId fun current => do
    if current.status = .processing then
      Rows.flush (.loginTransaction c.transactionId) current current.reject
      recordAndRespond (.failed 500 "persistence_failed")
    else recordAndRespond (.failed 500 "persistence_failed")

def finishSession (c : Callback) (t : LoginTransaction) (o : Outcome) (sessionId secret : Id) :
    Op Unit := do
  Rows.flush (.loginTransaction c.transactionId) t (t.complete sessionId c.now)
  if !o.sessionFails then recordAndRespond (.signedIn sessionId secret)
  else if o.onboarding then rollbackPersonalOnboarding c
  else
    rollback
    respond .databaseError

def createSession (c : Callback) (t : LoginTransaction) (o : Outcome) : Op Unit := do
  let secret ← freshId
  let sessionId ← freshId
  Rows.insert (.deviceSession sessionId)
    (newDeviceSession ⟨o.userId,o.authenticatedAt,none,c.now⟩ (hashSessionSecret secret)) .databaseError
  finishSession c t o sessionId secret

def completeLogin (c : Callback) (t : LoginTransaction) (o : Outcome) : Op Unit :=
  match o.loginRefusal with
  | some (statusCode,reasonCode) => rejectCallback c.transactionId t statusCode reasonCode
  | none =>
    match o.accountLink with
    | some link => requireExplicitAccountLink c t link
    | none =>
      if o.onboarding && o.onboardingFails then rollbackPersonalOnboarding c
      else
        match o.accountRefusal with
        | some reasonCode => rejectCallback c.transactionId t 400 reasonCode
        | none => createSession c t o

def revokeUserSessions (userId : Id) (now : Time) : Op Unit := do
  let _ ← Rows.updateAll Key.deviceSession
    (fun _ (s : DeviceSession) => s.userId = userId && s.status = .active)
    fun _ (s : DeviceSession) => s.revoke now
  pure ()

-- An identity that the provider reports as not active loses its sessions with the rejection.
def rejectInactiveIdentity (c : Callback) (t : LoginTransaction) (userId : Id) : Op Unit := do
  revokeUserSessions userId c.now
  rejectCallback c.transactionId t 400 "identity_status_inactive"

def completeForPurpose (c : Callback) (t : LoginTransaction) (o : Outcome) : Op Unit :=
  match o.inactiveUserId with
  | some userId => rejectInactiveIdentity c t userId
  | none =>
    match o.failure with
    | some (statusCode,reasonCode) => rejectCallback c.transactionId t statusCode reasonCode
    | none =>
      match t.purpose with
      | .recentAuthentication => completeRecentAuthentication c t o
      | .other => rejectCallback c.transactionId t 400 "transaction_purpose_invalid"
      | .login => completeLogin c t o

-- The claimed transaction is read again before the provider is asked.
def completeClaimed (c : Callback) : Op Unit :=
  withTransaction c.transactionId fun t =>
    if !c.oidcLoginEnabled then rejectCallback c.transactionId t 503 "identity_rollout_disabled"
    else do
      let outcome ← exchangeCode
      completeForPurpose c t outcome

def completeUnclaimed (c : Callback) : Op Unit := do
  match ← Rows.get (E := Key.Entity) (.loginTransaction c.transactionId) with
  | none => refuseCallback 409 "callback_already_claimed"
  | some t =>
    if t.status = .completed then
      match ← completedSessionResponse c t with
      | some response => respond response
      | none => refuseCallback 400 "completed_transaction_replay"
    else refuseCallback 409 "callback_already_claimed"

def claimAndComplete (c : Callback) : Op Unit := do
  let claimed ← claimLoginTransaction c.transactionId
  if claimed then completeClaimed c else completeUnclaimed c

def replayCompleted (c : Callback) (t : LoginTransaction) (reasonCode : String) : Op Unit := do
  match ← completedSessionResponse c t with
  | some response => respond response
  | none => rejectCallback c.transactionId t 400 reasonCode

-- What both callbacks check of a transaction that is pending.
def checkPending (c : Callback) (t : LoginTransaction) (k : Op Unit) : Op Unit :=
  if t.expiresAt ≤ c.now then rejectCallback c.transactionId t 400 "transaction_expired"
  else if !c.browserBound then rejectCallback c.transactionId t 400 "browser_binding_mismatch"
  else k

def completeLoginCallback (c : Callback) : Op Unit := do
  match ← Rows.get (E := Key.Entity) (.loginTransaction c.transactionId) with
  | none => refuseCallback 400 "state_not_found"
  | some t =>
    match t.status with
    | .completed => replayCompleted c t "completed_transaction_replay"
    | .processing => refuseCallback 409 "callback_already_claimed"
    | .rejected => rejectCallback c.transactionId t 400 "transaction_not_pending"
    | .pending => checkPending c t (claimAndComplete c)

def rejectProviderCallback (c : Callback) (statusCode : ℕ) (reasonCode : String) : Op Unit := do
  match ← Rows.get (E := Key.Entity) (.loginTransaction c.transactionId) with
  | none => refuseCallback 400 "state_not_found"
  | some t =>
    match t.status with
    | .completed => replayCompleted c t "transaction_not_pending"
    | .pending => checkPending c t (rejectCallback c.transactionId t statusCode reasonCode)
    | _ => rejectCallback c.transactionId t 400 "transaction_not_pending"

inductive LoginCall where
  | complete (c : Callback)
  | providerError (c : Callback) (statusCode : ℕ) (reasonCode : String)

namespace LoginCall

def transactionId : LoginCall → Id
  | .complete c => c.transactionId
  | .providerError c _ _ => c.transactionId

def program : LoginCall → Op Unit
  | .complete c => completeLoginCallback c
  | .providerError c statusCode reasonCode => rejectProviderCallback c statusCode reasonCode

end LoginCall

end credentials

end AiScdc.Login
