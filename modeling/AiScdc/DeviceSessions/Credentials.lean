import AiScdc.DeviceSessions.Entities

namespace AiScdc.DeviceSessions

-- USER_SESSION_IDLE_SECONDS and the other intervals, in microseconds.
def userSessionIdle : Time := 30 * 24 * 60 * 60 * 1000000

def userSessionRotation : Time := 24 * 60 * 60 * 1000000

def previousSecretValidity : Time := 2 * 60 * 1000000

def activityCheckpoint : Time := 60 * 60 * 1000000

def providerLogoutContinuation : Time := 120 * 1000000

namespace DeviceSession

variable (s : DeviceSession)

def expire (now : Time) : DeviceSession := { s with status := .expired, updatedAt := now }

def revoke (now : Time) : DeviceSession :=
  { s with status := .revoked, revokedAt := some now, updatedAt := now }

def renewalDue (now : Time) : Bool := s.lastSeenAt + activityCheckpoint ≤ now

def renew (now : Time) : DeviceSession :=
  { s with lastSeenAt := now, idleExpiresAt := now + userSessionIdle, updatedAt := now }

def rotate (newHash presentedHash : ℕ) (now : Time) : DeviceSession :=
  { s with
    secretHash := newHash
    previousSecretHash := some presentedHash
    previousSecretValidUntil := some (now + previousSecretValidity)
    secretRotatedAt := now
    updatedAt := now }

def reauthenticate (newHash currentHash : ℕ) (authenticatedAt now : Time) : DeviceSession :=
  { s.rotate newHash currentHash now with recentAuthenticatedAt := some authenticatedAt }

def graceOver (now : Time) : Bool := s.previousSecretValidUntil.all fun validUntil => validUntil < now

end DeviceSession

-- The statements about device sessions in a database that has other rows too.
structure SessionRows (m : Type → Type) where
  get : Id → m (Option DeviceSession)
  flush : Id → DeviceSession → DeviceSession → m Unit
  commit : m Unit

section credentials

structure Resolved where
  sessionId : Id
  deviceSession : DeviceSession
  presentedSecretHash : ℕ
  usesCurrentSecret : Bool

-- A rejection, and whether its audit event is committed.
structure Rejected where
  reasonCode : String
  recorded : Bool

variable {m : Type → Type} [Monad m]

def rejectCredential (reasonCode : String) : m (Except Rejected Resolved) :=
  pure (.error ⟨reasonCode,false⟩)

variable (rows : SessionRows m)

def recordAndReject (reasonCode : String) : m (Except Rejected Resolved) := do
  rows.commit
  pure (.error ⟨reasonCode,true⟩)

variable [SecretHash]

def resolveDeviceSession (sessionId : Id) (s : DeviceSession) (secret : Id) (now : Time) :
    m (Except Rejected Resolved) :=
  let usesCurrentSecret : Bool := s.secretHash = hashSessionSecret secret
  let usesPreviousSecret : Bool := s.previousSecretHash = some (hashSessionSecret secret)
  if s.status = .revoked then
    if !usesCurrentSecret && !usesPreviousSecret then rejectCredential "invalid_session_credential"
    else recordAndReject rows "invalid_session_credential"
  else if s.status ≠ .active then rejectCredential "invalid_session_credential"
  else if s.idleExpiresAt ≤ now then do
    rows.flush sessionId s (s.expire now)
    recordAndReject rows "idle_timeout"
  else if usesPreviousSecret && s.graceOver now then do
    rows.flush sessionId s (s.revoke now)
    recordAndReject rows "suspected_replay"
  else if !usesCurrentSecret && !usesPreviousSecret then rejectCredential "invalid_session_credential"
  else pure (.ok ⟨sessionId,s,hashSessionSecret secret,usesCurrentSecret⟩)

def resolveFound (sessionId secret : Id) (now : Time) : Option DeviceSession → m (Except Rejected Resolved)
  | none => rejectCredential "invalid_session_credential"
  | some s => resolveDeviceSession rows sessionId s secret now

-- The cookie is a session and a secret, or none where it does not split.
def resolveUserSessionCredential (cookie : Option (Id × Id)) (now : Time) :
    m (Except Rejected Resolved) :=
  match cookie with
  | none => rejectCredential "invalid_session_credential"
  | some (sessionId,secret) => do
    let found ← rows.get sessionId
    resolveFound rows sessionId secret now found

end credentials

end AiScdc.DeviceSessions
