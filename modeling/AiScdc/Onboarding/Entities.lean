import AiScdc.Login.Entities

namespace AiScdc.Onboarding
open Transaction
open Login (LoginTransaction)
open DeviceSessions (DeviceSession)

inductive AccountStatus where
  | active | inactive
  deriving DecidableEq, Repr

inductive AccountKind where
  | legacy | personal
  deriving DecidableEq, Repr

inductive WorkspaceRole where
  | owner | admin | developer | reviewer | billingManager | viewer
  deriving DecidableEq, Repr

inductive RecoveryStatus where
  | pending | completed
  deriving DecidableEq, Repr

structure User where
  email : Option String
  displayName : String
  status : AccountStatus
  deriving DecidableEq, Repr

structure Organization where
  name : String
  accountKind : AccountKind
  personalOwnerUserId : Option Id
  status : AccountStatus
  deriving DecidableEq, Repr

structure Workspace where
  organizationId : Id
  name : String
  status : AccountStatus
  deriving DecidableEq, Repr

structure OrganizationMember where
  organizationId : Id
  workspaceId : Id
  userId : Id
  role : WorkspaceRole
  status : AccountStatus
  deriving DecidableEq, Repr

structure ProviderSubject where
  issuer : String
  subject : String
  deriving DecidableEq, Repr

structure ExternalIdentity where
  id : Id
  userId : Id
  email : Option String
  status : AccountStatus
  accountLinkCorrelationId : Option String
  deriving DecidableEq, Repr

structure AccountLinkRecovery where
  verifiedEmail : String
  correlationId : String
  status : RecoveryStatus
  targetUserId : Option Id
  completedAt : Option Time
  deriving DecidableEq, Repr

namespace AccountLinkRecovery

def flush (l n c : AccountLinkRecovery) : AccountLinkRecovery where
  verifiedEmail := pick l.verifiedEmail n.verifiedEmail c.verifiedEmail
  correlationId := pick l.correlationId n.correlationId c.correlationId
  status := pick l.status n.status c.status
  targetUserId := pick l.targetUserId n.targetUserId c.targetUserId
  completedAt := pick l.completedAt n.completedAt c.completedAt

def complete (r : AccountLinkRecovery) (userId : Id) (now : Time) : AccountLinkRecovery :=
  { r with status := .completed, targetUserId := some userId, completedAt := some now }

end AccountLinkRecovery

-- Identities and recoveries stand under what is unique about them, and a recovery's correlation id
-- has the entry of its unique index.
inductive Key where
  | user (id : Id)
  | organization (id : Id)
  | workspace (id : Id)
  | membership (id : Id)
  | externalIdentity (s : ProviderSubject)
  | accountLinkRecovery (s : ProviderSubject)
  | recoveryCorrelation (correlationId : String)
  | deviceSession (id : Id)
  | loginTransaction (id : Id)
  deriving DecidableEq, Repr

abbrev Key.Entity : Key → Type
  | .user _ => User
  | .organization _ => Organization
  | .workspace _ => Workspace
  | .membership _ => OrganizationMember
  | .externalIdentity _ => ExternalIdentity
  | .accountLinkRecovery _ => AccountLinkRecovery
  | .recoveryCorrelation _ => ProviderSubject
  | .deviceSession _ => DeviceSession
  | .loginTransaction _ => LoginTransaction

instance entityEq : ∀ k : Key, DecidableEq k.Entity
  | .user _ => inferInstanceAs (DecidableEq User)
  | .organization _ => inferInstanceAs (DecidableEq Organization)
  | .workspace _ => inferInstanceAs (DecidableEq Workspace)
  | .membership _ => inferInstanceAs (DecidableEq OrganizationMember)
  | .externalIdentity _ => inferInstanceAs (DecidableEq ExternalIdentity)
  | .accountLinkRecovery _ => inferInstanceAs (DecidableEq AccountLinkRecovery)
  | .recoveryCorrelation _ => inferInstanceAs (DecidableEq ProviderSubject)
  | .deviceSession _ => inferInstanceAs (DecidableEq DeviceSession)
  | .loginTransaction _ => inferInstanceAs (DecidableEq LoginTransaction)

abbrev Row := Rows Key.Entity

abbrev Db := Transaction.Db Row

abbrev World := Transaction.World Row

inductive Response where
  | signedIn (sessionId secret : Id)
  | linked (userId identityId : Id)
  | failed (statusCode : ℕ) (reasonCode : String)
  | http (statusCode : ℕ) (detail : String)
  | databaseError
  deriving DecidableEq, Repr

abbrev Op (α : Type) := Prog Row Time Response α

def mergeEntity : ∀ k : Key, k.Entity → k.Entity → k.Entity → k.Entity
  | .accountLinkRecovery _ => AccountLinkRecovery.flush
  | .loginTransaction _ => LoginTransaction.flush
  | _ => fun _ n _ => n

theorem mergeEntity_loaded (k : Key) (l n : k.Entity) : mergeEntity k l n l = n := by
  cases k <;> simp [mergeEntity,AccountLinkRecovery.flush,LoginTransaction.flush]

instance : Transaction.Schema Row where
  rowEq _ := inferInstance
  merge := mergeRows mergeEntity
  merge_loaded := mergeRows_loaded mergeEntity_loaded

end AiScdc.Onboarding
