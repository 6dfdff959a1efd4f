import AiScdc.Session
import AiScdc.Transaction.Rows

namespace AiScdc.AuditRetention
open Transaction

inductive AuditTable where
  | identity | workspace | secretAccess
  deriving DecidableEq, Repr

-- A row of any of the three tables. Only identity events have the details of a request.
structure AuditEvent where
  createdAt : Time
  clientIpAddress : Option String
  userAgent : Option String
  content : String
  deriving DecidableEq, Repr

structure AuditRetentionState where
  lastCompletedAt : Option Time
  claimToken : Option Id
  claimedAt : Option Time
  deriving DecidableEq, Repr

inductive Key where
  | state
  | event (table : AuditTable) (id : Id)
  deriving DecidableEq, Repr

abbrev Key.Entity : Key → Type
  | .state => AuditRetentionState
  | .event _ _ => AuditEvent

instance entityEq : ∀ k : Key, DecidableEq k.Entity
  | .state => inferInstanceAs (DecidableEq AuditRetentionState)
  | .event _ _ => inferInstanceAs (DecidableEq AuditEvent)

abbrev Row := Rows Key.Entity

abbrev Db := Transaction.Db Row

abbrev World := Transaction.World Row

inductive Exn where
  | integrityError | cleanupFailed
  deriving DecidableEq, Repr

abbrev Op (α : Type) := Prog Row Unit Exn α

-- Nothing here is written by way of a loaded row.
instance : Transaction.Schema Row where
  rowEq _ := inferInstance
  merge _ _ n _ := n
  merge_loaded _ _ _ := rfl

-- AUDIT_CORE_RETENTION and the other intervals, in microseconds.
def auditCoreRetention : Time := 365 * 24 * 60 * 60 * 1000000

def identityDetailRetention : Time := 90 * 24 * 60 * 60 * 1000000

def auditCleanupInterval : Time := 24 * 60 * 60 * 1000000

def auditCleanupClaimTimeout : Time := 60 * 60 * 1000000

def commit : Op Unit := .commit (.pure ())

def rollback : Op Unit := .rollback (.pure ())

def freshId : Op Id := .freshId .pure

def ensureRetentionState : Op Unit := do
  match ← Rows.get (E := Key.Entity) .state with
  | some _ => pure ()
  | none =>
    let inserted ← (.update .state (fun row => row.isNone)
      (fun _ => some (⟨none,none,none⟩ : AuditRetentionState)) .pure : Op Bool)
    if inserted then commit else rollback

namespace AuditRetentionState

def cleanupDue (s : AuditRetentionState) (cleanupAt : Time) : Bool :=
  s.lastCompletedAt.all fun completedAt => completedAt ≤ cleanupAt - auditCleanupInterval

def claimable (s : AuditRetentionState) (cleanupAt : Time) : Bool :=
  s.claimToken.isNone || s.claimedAt.any fun claimedAt => claimedAt ≤ cleanupAt - auditCleanupClaimTimeout

def claim (s : AuditRetentionState) (token : Id) (cleanupAt : Time) : AuditRetentionState :=
  { s with claimToken := some token, claimedAt := some cleanupAt }

def complete (_ : AuditRetentionState) (cleanupAt : Time) : AuditRetentionState :=
  ⟨some cleanupAt,none,none⟩

end AuditRetentionState

-- The statements of a cleanup: a DELETE on each table and the removal of details.
inductive Cleanup where
  | delete (table : AuditTable)
  | details
  deriving DecidableEq, Repr

namespace Cleanup

def table : Cleanup → AuditTable
  | .delete t => t
  | .details => .identity

def applies (cleanupAt : Time) (e : AuditEvent) : Cleanup → Bool
  | .delete _ => e.createdAt < cleanupAt - auditCoreRetention
  | .details => e.createdAt < cleanupAt - identityDetailRetention &&
      (e.clientIpAddress.isSome || e.userAgent.isSome)

def change (e : AuditEvent) : Cleanup → Option AuditEvent
  | .delete _ => none
  | .details => some { e with clientIpAddress := none, userAgent := none }

variable (cleanupAt : Time) (s : Cleanup)

def runRow (id : Id) : Op Bool :=
  .update (.event s.table id) (fun row => row.any fun e : AuditEvent => s.applies cleanupAt e)
    (fun row => row.bind fun e : AuditEvent => s.change e) .pure

-- Each row selected is locked, and the WHERE is evaluated on it again.
def runRows : List Id → Op Unit
  | [] => pure ()
  | id :: rest => do
    let _ ← runRow cleanupAt s id
    runRows rest

def selected (db : Db) (next : ℕ) : List Id :=
  (List.range next).filter fun id =>
    (db (.event s.table id)).any fun e : AuditEvent => s.applies cleanupAt e

def run : Op Unit := do
  let ids ← (.select fun db next => .pure (s.selected cleanupAt db next) : Op (List Id))
  s.runRows cleanupAt ids

def runAll : List Cleanup → Op Unit
  | [] => pure ()
  | s :: rest => do
    s.run cleanupAt
    runAll rest

end Cleanup

def recordIdentityAuditEvent (createdAt : Time) (content : String) : Op Unit := do
  let id ← freshId
  Rows.insert (.event .identity id) (⟨createdAt,none,none,content⟩ : AuditEvent) .integrityError

def cleanups : List Cleanup :=
  [.delete .identity,.delete .workspace,.delete .secretAccess,.details]

def runAuditRetentionCleanup (cleanupAt : Time) : Op Unit := do
  Cleanup.runAll cleanupAt cleanups
  recordIdentityAuditEvent cleanupAt "scheduled_daily_cleanup"

-- The failed session is closed, and the failure recorded in one of its own.
def recordScheduledCleanupFailure (occurredAt : Time) : Op Unit := do
  rollback
  recordIdentityAuditEvent occurredAt "scheduled_daily_cleanup_failed"
  commit
  .throw .cleanupFailed

def claimRetention (token : Id) (cleanupAt : Time) : Op Bool := do
  let claimed ← Rows.updateWhere .state
    (fun s : AuditRetentionState => s.cleanupDue cleanupAt && s.claimable cleanupAt)
    fun s : AuditRetentionState => s.claim token cleanupAt
  commit
  pure claimed

def completeCleanup (token : Id) (cleanupAt : Time) : Op Unit := do
  let completed ← Rows.updateWhere .state
    (fun s : AuditRetentionState => s.claimToken = some token)
    fun s : AuditRetentionState => s.complete cleanupAt
  if completed then commit else rollback

-- A call, its clock reading, and after how many of the cleanup's statements it raises: before all
-- of them where the failure step says so, and past the last where the completion or its commit does.
structure Sweep where
  now : Time
  raisesAfter : Option ℕ

def cleanAndComplete (s : Sweep) (token : Id) : Op Unit :=
  match s.raisesAfter with
  | none => do
    runAuditRetentionCleanup s.now
    completeCleanup token s.now
  | some n =>
    if n ≤ cleanups.length then do
      Cleanup.runAll s.now (cleanups.take n)
      recordScheduledCleanupFailure s.now
    else do
      runAuditRetentionCleanup s.now
      recordScheduledCleanupFailure s.now

def runScheduledAuditRetentionIfDue (s : Sweep) : Op Unit := do
  ensureRetentionState
  let token ← freshId
  let claimed ← claimRetention token s.now
  if claimed then cleanAndComplete s token else pure ()

end AiScdc.AuditRetention
