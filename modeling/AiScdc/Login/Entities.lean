import AiScdc.DeviceSessions.Operations

namespace AiScdc.Login
open Transaction
open DeviceSessions (DeviceSession)

inductive LoginStatus where
  | pending | processing | completed | rejected
  deriving DecidableEq, Repr

inductive Purpose where
  | login | recentAuthentication | other
  deriving DecidableEq, Repr

structure LoginTransaction where
  purpose : Purpose
  requestedSessionId : Option Id
  status : LoginStatus
  completedSessionId : Option Id
  expiresAt : Time
  completedAt : Option Time
  deriving DecidableEq, Repr

namespace LoginTransaction

def flush (l n c : LoginTransaction) : LoginTransaction where
  purpose := pick l.purpose n.purpose c.purpose
  requestedSessionId := pick l.requestedSessionId n.requestedSessionId c.requestedSessionId
  status := pick l.status n.status c.status
  completedSessionId := pick l.completedSessionId n.completedSessionId c.completedSessionId
  expiresAt := pick l.expiresAt n.expiresAt c.expiresAt
  completedAt := pick l.completedAt n.completedAt c.completedAt

variable (t : LoginTransaction)

def process : LoginTransaction := { t with status := .processing }

def reject : LoginTransaction := { t with status := .rejected }

def complete (sessionId : Id) (now : Time) : LoginTransaction :=
  { t with status := .completed, completedSessionId := some sessionId, completedAt := some now }

end LoginTransaction

-- The provider has no row: a call to it is a statement that no row matches.
inductive Key where
  | loginTransaction (id : Id)
  | deviceSession (id : Id)
  | provider
  deriving DecidableEq, Repr

abbrev Key.Entity : Key → Type
  | .loginTransaction _ => LoginTransaction
  | .deviceSession _ => DeviceSession
  | .provider => Unit

instance entityEq : ∀ k : Key, DecidableEq k.Entity
  | .loginTransaction _ => inferInstanceAs (DecidableEq LoginTransaction)
  | .deviceSession _ => inferInstanceAs (DecidableEq DeviceSession)
  | .provider => inferInstanceAs (DecidableEq Unit)

abbrev Row := Rows Key.Entity

abbrev Db := Transaction.Db Row

abbrev World := Transaction.World Row

inductive Response where
  | confirmed
  | signedIn (sessionId secret : Id)
  | failed (statusCode : ℕ) (reasonCode : String)
  | databaseError
  deriving DecidableEq, Repr

-- Whether the recovery that is inserted with the rejection violates a constraint, and whether it is
-- there when it is looked up again.
inductive AccountLink where
  | recorded
  | conflict (recoveryFound : Bool)
  deriving DecidableEq, Repr

-- What the provider answers to a callback, and what the checks on the account find: the answer to the
-- first step that fails, for all callbacks and for each purpose, the user of an identity that is not
-- active, and the constraints that are violated.
structure Outcome where
  inactiveUserId : Option Id
  failure : Option (ℕ × String)
  methodSatisfied : Bool
  freshlyAuthenticated : Bool
  identityMatches : Bool
  authenticatedAt : Time
  loginRefusal : Option (ℕ × String)
  accountLink : Option AccountLink
  onboarding : Bool
  onboardingFails : Bool
  accountRefusal : Option String
  userId : Id
  sessionFails : Bool

abbrev Op (α : Type) := Prog Row Outcome Response α

def mergeEntity : ∀ k : Key, k.Entity → k.Entity → k.Entity → k.Entity
  | .loginTransaction _ => LoginTransaction.flush
  | .deviceSession _ => DeviceSession.flush
  | .provider => fun _ n _ => n

theorem mergeEntity_loaded (k : Key) (l n : k.Entity) : mergeEntity k l n l = n := by
  cases k <;> simp [mergeEntity,LoginTransaction.flush,DeviceSession.flush]

instance : Transaction.Schema Row where
  rowEq _ := inferInstance
  merge := mergeRows mergeEntity
  merge_loaded := mergeRows_loaded mergeEntity_loaded

end AiScdc.Login
