import AiScdc.Session
import AiScdc.Transaction.Rows

namespace AiScdc.DeviceSessions
open Transaction

inductive SessionStatus where
  | active | expired | revoked
  deriving DecidableEq, Repr

inductive ContinuationStatus where
  | available | prepared | consumed | superseded
  deriving DecidableEq, Repr

-- A generated secret is the number of its draw, and a digest is a number.
class SecretHash where
  hashSessionSecret : Id → ℕ
  injective : Function.Injective hashSessionSecret

export SecretHash (hashSessionSecret)

structure DeviceSession where
  userId : Id
  secretHash : ℕ
  previousSecretHash : Option ℕ
  previousSecretValidUntil : Option Time
  secretRotatedAt : Time
  recentAuthenticatedAt : Option Time
  status : SessionStatus
  idleExpiresAt : Time
  lastSeenAt : Time
  updatedAt : Time
  revokedAt : Option Time
  deriving DecidableEq, Repr

structure ProviderLogoutContinuation where
  deviceSessionId : Id
  sealedProviderHint : Option String
  status : ContinuationStatus
  browserSecretHash : Option ℕ
  browserSecretExpiresAt : Option Time
  consumedAt : Option Time
  createdAt : Time
  updatedAt : Time
  deriving DecidableEq, Repr

inductive Key where
  | deviceSession (id : Id)
  | continuation (id : Id)
  deriving DecidableEq, Repr

abbrev Key.Entity : Key → Type
  | .deviceSession _ => DeviceSession
  | .continuation _ => ProviderLogoutContinuation

instance entityEq : ∀ k : Key, DecidableEq k.Entity
  | .deviceSession _ => inferInstanceAs (DecidableEq DeviceSession)
  | .continuation _ => inferInstanceAs (DecidableEq ProviderLogoutContinuation)

abbrev Row := Rows Key.Entity

abbrev Db := Transaction.Db Row

abbrev World := Transaction.World Row

-- How a call ends: what it answers to the browser.
inductive Response where
  | authenticated (sessionId : Id) (cookie : Option Id)
  | signedIn (sessionId secret : Id)
  | signedOut (continuationCookie : Option (Id × Id))
  | redirectedToProvider (continuationId secret : Id)
  | redirectedHome
  | noContent
  | http (statusCode : ℕ) (detail : String)
  | integrityError
  deriving DecidableEq, Repr

abbrev Op (α : Type) := Prog Row Time Response α

def DeviceSession.flush (l n c : DeviceSession) : DeviceSession where
  userId := pick l.userId n.userId c.userId
  secretHash := pick l.secretHash n.secretHash c.secretHash
  previousSecretHash := pick l.previousSecretHash n.previousSecretHash c.previousSecretHash
  previousSecretValidUntil :=
    pick l.previousSecretValidUntil n.previousSecretValidUntil c.previousSecretValidUntil
  secretRotatedAt := pick l.secretRotatedAt n.secretRotatedAt c.secretRotatedAt
  recentAuthenticatedAt := pick l.recentAuthenticatedAt n.recentAuthenticatedAt c.recentAuthenticatedAt
  status := pick l.status n.status c.status
  idleExpiresAt := pick l.idleExpiresAt n.idleExpiresAt c.idleExpiresAt
  lastSeenAt := pick l.lastSeenAt n.lastSeenAt c.lastSeenAt
  updatedAt := pick l.updatedAt n.updatedAt c.updatedAt
  revokedAt := pick l.revokedAt n.revokedAt c.revokedAt

def ProviderLogoutContinuation.flush (l n c : ProviderLogoutContinuation) :
    ProviderLogoutContinuation where
  deviceSessionId := pick l.deviceSessionId n.deviceSessionId c.deviceSessionId
  sealedProviderHint := pick l.sealedProviderHint n.sealedProviderHint c.sealedProviderHint
  status := pick l.status n.status c.status
  browserSecretHash := pick l.browserSecretHash n.browserSecretHash c.browserSecretHash
  browserSecretExpiresAt :=
    pick l.browserSecretExpiresAt n.browserSecretExpiresAt c.browserSecretExpiresAt
  consumedAt := pick l.consumedAt n.consumedAt c.consumedAt
  createdAt := pick l.createdAt n.createdAt c.createdAt
  updatedAt := pick l.updatedAt n.updatedAt c.updatedAt

def mergeEntity : ∀ k : Key, k.Entity → k.Entity → k.Entity → k.Entity
  | .deviceSession _ => DeviceSession.flush
  | .continuation _ => ProviderLogoutContinuation.flush

theorem mergeEntity_loaded (k : Key) (l n : k.Entity) : mergeEntity k l n l = n := by
  cases k <;> simp [mergeEntity,DeviceSession.flush,ProviderLogoutContinuation.flush]

instance : Transaction.Schema Row where
  rowEq _ := inferInstance
  merge := mergeRows mergeEntity
  merge_loaded := mergeRows_loaded mergeEntity_loaded

end AiScdc.DeviceSessions
