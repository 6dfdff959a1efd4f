import AiScdc.Session
import AiScdc.Transaction.Rows

namespace AiScdc.Identity
open Transaction

inductive Status where
  | active | locked | disabled | missing
  | other (name : String)
  deriving DecidableEq, Repr

namespace Status

-- INACTIVE_IDENTITY_STATUSES.
def inactive : Status → Bool
  | .locked | .disabled | .missing => true
  | _ => false

-- CONTROLLED_RESTORATION_STATUSES.
def controlledRestoration : Status → Bool
  | .disabled | .missing => true
  | _ => false

-- CONFIRMED_IDENTITY_STATUSES.
def confirmed (s : Status) : Bool := s = .active || s.inactive

end Status

inductive SessionStatus where
  | active | expired | revoked
  deriving DecidableEq, Repr

structure ExternalIdentity where
  issuer : String
  subject : String
  userId : Id
  status : Status
  lastConfirmedStatus : Status
  lastConfirmedAt : Time
  lastStatusCheckedAt : Time
  statusCheckToken : Option Id
  updatedAt : Time
  deriving DecidableEq, Repr

structure DeviceSession where
  userId : Id
  status : SessionStatus
  idleExpiresAt : Time
  revokedAt : Option Time
  deriving DecidableEq, Repr

inductive Key where
  | externalIdentity (id : Id)
  | deviceSession (id : Id)
  deriving DecidableEq, Repr

abbrev Key.Entity : Key → Type
  | .externalIdentity _ => ExternalIdentity
  | .deviceSession _ => DeviceSession

instance entityEq : ∀ k : Key, DecidableEq k.Entity
  | .externalIdentity _ => inferInstanceAs (DecidableEq ExternalIdentity)
  | .deviceSession _ => inferInstanceAs (DecidableEq DeviceSession)

abbrev Row := Rows Key.Entity

abbrev Db := Transaction.Db Row

abbrev World := Transaction.World Row

abbrev Op (α : Type) := Prog Row Time Exn α

def ExternalIdentity.flush (l n c : ExternalIdentity) : ExternalIdentity where
  issuer := pick l.issuer n.issuer c.issuer
  subject := pick l.subject n.subject c.subject
  userId := pick l.userId n.userId c.userId
  status := pick l.status n.status c.status
  lastConfirmedStatus := pick l.lastConfirmedStatus n.lastConfirmedStatus c.lastConfirmedStatus
  lastConfirmedAt := pick l.lastConfirmedAt n.lastConfirmedAt c.lastConfirmedAt
  lastStatusCheckedAt := pick l.lastStatusCheckedAt n.lastStatusCheckedAt c.lastStatusCheckedAt
  statusCheckToken := pick l.statusCheckToken n.statusCheckToken c.statusCheckToken
  updatedAt := pick l.updatedAt n.updatedAt c.updatedAt

def DeviceSession.flush (l n c : DeviceSession) : DeviceSession where
  userId := pick l.userId n.userId c.userId
  status := pick l.status n.status c.status
  idleExpiresAt := pick l.idleExpiresAt n.idleExpiresAt c.idleExpiresAt
  revokedAt := pick l.revokedAt n.revokedAt c.revokedAt

def mergeEntity : ∀ k : Key, k.Entity → k.Entity → k.Entity → k.Entity
  | .externalIdentity _ => ExternalIdentity.flush
  | .deviceSession _ => DeviceSession.flush

theorem mergeEntity_loaded (k : Key) (l n : k.Entity) : mergeEntity k l n l = n := by
  cases k <;> simp [mergeEntity,ExternalIdentity.flush,DeviceSession.flush]

instance : Transaction.Schema Row where
  rowEq _ := inferInstance
  merge := mergeRows mergeEntity
  merge_loaded := mergeRows_loaded mergeEntity_loaded

end AiScdc.Identity
