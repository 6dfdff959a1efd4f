import Mathlib.Data.List.Basic

namespace AiScdc.IdentitySchema

inductive IdentityTable where
  | organization | externalIdentity | accountLinkRecovery | deviceSession | loginTransaction
  | providerLogoutContinuation | identityAuditEvent | auditRetentionState | workspaceAuditLog
  | secretAccessAuditLog
  deriving DecidableEq, Repr

abbrev Value := Option String

-- A row answers for every column name; its id is never null.
@[ext]
structure Row where
  id : String
  values : String → Value

namespace IdentityTable

def baseColumns : IdentityTable → List String
  | organization => ["id","name","status","created_at","updated_at"]
  | externalIdentity => ["id","issuer","subject","user_id","email","status","last_confirmed_status",
      "created_at","updated_at"]
  | accountLinkRecovery => ["id","issuer","subject","verified_email","correlation_id","status",
      "target_user_id","created_at","completed_at"]
  | deviceSession => ["id","user_id","active_workspace_id","active_organization_id","secret_hash",
      "status","idle_expires_at","last_seen_at","created_at","updated_at","revoked_at"]
  | loginTransaction => ["id","state_hash","nonce_hash","pkce_verifier","return_to",
      "browser_binding_hash","redirect_uri","correlation_id","status","completed_session_id",
      "expires_at","created_at","completed_at"]
  | providerLogoutContinuation => ["id","device_session_id","sealed_provider_hint","status",
      "correlation_id","browser_secret_hash","browser_secret_expires_at","consumed_at","created_at",
      "updated_at"]
  | identityAuditEvent => ["id","event_type","outcome","reason_code","correlation_id","user_id",
      "external_identity_id","device_session_id","created_at"]
  | auditRetentionState => ["id","last_completed_at","claim_token","claimed_at"]
  | workspaceAuditLog => ["id","workspace_id","organization_id","user_id","auth_mode","operation",
      "resource_type","resource_id","access_level","success","status_code","error_code",
      "metadata_json","created_at"]
  | secretAccessAuditLog => ["id","workspace_id","organization_id","user_id","auth_mode",
      "secret_kind","secret_id","operation","access_reason","success","created_at"]

-- Each with the default that an added column gives to the rows already there.
def additiveColumns : IdentityTable → List (String × Value)
  | organization => [("account_kind",some "legacy"),("personal_owner_user_id",none)]
  | externalIdentity => [("account_link_correlation_id",none),("last_confirmed_at",none),
      ("last_status_checked_at",none),("status_check_token",none)]
  | deviceSession => [("previous_secret_hash",none),("previous_secret_valid_until",none),
      ("secret_rotated_at",none),("recent_authenticated_at",none),("device_description",none)]
  | loginTransaction => [("purpose",some "login"),("requested_session_id",none)]
  | identityAuditEvent => [("related_correlation_id",none),("actor_user_id",none),
      ("operator_reason",none),("request_id",none),("client_ip_address",none),("user_agent",none)]
  | workspaceAuditLog => [("request_id",none),("correlation_id",none)]
  | secretAccessAuditLog => [("request_id",none),("correlation_id",none)]
  | accountLinkRecovery | providerLogoutContinuation | auditRetentionState => []

end IdentityTable

structure IndexSpec where
  name : String
  columns : List String
  unique : Bool
  predicate : Row → Bool

def plainIndex (name column : String) : IndexSpec := ⟨name,[column],false,fun _ => true⟩

def IdentityTable.additiveIndexes : IdentityTable → List IndexSpec
  | organization => [plainIndex "ix_organization_account_kind" "account_kind",
      ⟨"uq_organization_personal_owner_user",["personal_owner_user_id"],true,
        fun row => row.values "personal_owner_user_id" ≠ none⟩]
  | externalIdentity => [
      plainIndex "ix_external_identity_account_link_correlation_id" "account_link_correlation_id",
      plainIndex "ix_external_identity_last_confirmed_at" "last_confirmed_at",
      plainIndex "ix_external_identity_last_status_checked_at" "last_status_checked_at",
      plainIndex "ix_external_identity_status_check_token" "status_check_token"]
  | deviceSession => [
      plainIndex "ix_device_session_previous_secret_valid_until" "previous_secret_valid_until",
      plainIndex "ix_device_session_secret_rotated_at" "secret_rotated_at",
      plainIndex "ix_device_session_recent_authenticated_at" "recent_authenticated_at"]
  | loginTransaction => [plainIndex "ix_login_transaction_purpose" "purpose",
      plainIndex "ix_login_transaction_requested_session_id" "requested_session_id"]
  | identityAuditEvent => [
      plainIndex "ix_identity_audit_event_related_correlation_id" "related_correlation_id",
      plainIndex "ix_identity_audit_event_actor_user_id" "actor_user_id",
      plainIndex "ix_identity_audit_event_request_id" "request_id",
      ⟨"uq_identity_security_rollback_correlation",["correlation_id"],true,
        fun row => row.values "event_type" = some "identity_security_rollback"⟩]
  | workspaceAuditLog => [plainIndex "ix_workspace_audit_log_request_id" "request_id",
      plainIndex "ix_workspace_audit_log_correlation_id" "correlation_id"]
  | secretAccessAuditLog => [plainIndex "ix_secret_access_audit_log_request_id" "request_id",
      plainIndex "ix_secret_access_audit_log_correlation_id" "correlation_id"]
  | accountLinkRecovery | providerLogoutContinuation | auditRetentionState => []

@[ext]
structure Table (t : IdentityTable) where
  columns : List String
  rows : List Row
  indexes : List String
  base : t.baseColumns ⊆ columns

abbrev Database := ∀ t : IdentityTable, Option (Table t)

def Database.has (db : Database) (t : IdentityTable) : Bool := (db t).isSome

section plan

def identitySchemaTables : List IdentityTable :=
  [.externalIdentity,.accountLinkRecovery,.deviceSession,.loginTransaction,
    .providerLogoutContinuation,.identityAuditEvent,.auditRetentionState]

def Table.lacksAdditive {t : IdentityTable} (table : Table t) : Bool :=
  !t.additiveColumns.all fun column => column.1 ∈ table.columns

def isMissing (value : Value) : Bool := value = none || value = some ""

def Table.correlationPending {t : IdentityTable} (table : Table t) : Bool :=
  table.lacksAdditive || table.rows.any fun row => isMissing (row.values "correlation_id")

def planIdentitySchemaMigration (db : Database) : List String :=
  (if (db .organization).any Table.lacksAdditive then ["add_account_classification"] else []) ++
  (if identitySchemaTables.all db.has then [] else ["create_identity_tables"]) ++
  (if (db .externalIdentity).any Table.lacksAdditive || (db .deviceSession).any Table.lacksAdditive ||
      (db .loginTransaction).any Table.lacksAdditive ||
      (db .identityAuditEvent).any Table.lacksAdditive then ["extend_identity_records"] else []) ++
  (if (db .workspaceAuditLog).any Table.correlationPending ||
      (db .secretAccessAuditLog).any Table.correlationPending then ["extend_audit_correlation"] else [])

end plan

section upgrade

def Row.set (row : Row) (column : String) (value : Value) : Row :=
  { row with values := fun c => if c = column then value else row.values c }

def Table.addColumn {t : IdentityTable} (table : Table t) (column : String × Value) : Table t :=
  if column.1 ∈ table.columns then table
  else
    { table with
      columns := table.columns ++ [column.1]
      rows := table.rows.map fun row => row.set column.1 column.2
      base := fun _ hc => List.mem_append_left _ (table.base hc) }

def Table.addColumns {t : IdentityTable} (table : Table t) : Table t :=
  t.additiveColumns.foldl Table.addColumn table

def Row.fill (row : Row) (column : String) (value : Value) (missing : Bool) : Row :=
  if missing then row.set column value else row

def isNull (value : Value) : Bool := value = none

-- The UPDATE statements of a table, in their order.
def IdentityTable.backfill : IdentityTable → Row → Row
  | organization, row => row.fill "account_kind" (some "legacy") (isMissing (row.values "account_kind"))
  | externalIdentity, row =>
    let confirmed := row.fill "last_confirmed_at" (row.values "updated_at")
      (isNull (row.values "last_confirmed_at"))
    confirmed.fill "last_status_checked_at" (confirmed.values "last_confirmed_at")
      (isNull (confirmed.values "last_status_checked_at"))
  | deviceSession, row =>
    let rotated := row.fill "secret_rotated_at" (row.values "created_at")
      (isNull (row.values "secret_rotated_at"))
    rotated.fill "device_description" (some "Unknown browser on Unknown device")
      (isMissing (rotated.values "device_description"))
  | workspaceAuditLog, row => row.fill "correlation_id" (some ("legacy_workspace_audit_" ++ row.id))
      (isMissing (row.values "correlation_id"))
  | secretAccessAuditLog, row =>
    row.fill "correlation_id" (some ("legacy_secret_access_audit_" ++ row.id))
      (isMissing (row.values "correlation_id"))
  | _, row => row

def Table.backfilled {t : IdentityTable} (table : Table t) : Table t :=
  { table with rows := table.rows.map t.backfill }

-- Two rows under the index agree on its columns, none of which is null.
def IndexSpec.refuses (spec : IndexSpec) (rows : List Row) : Bool :=
  let keys := (rows.filter fun row => spec.predicate row && spec.columns.all fun c => row.values c ≠ none).map
    fun row => spec.columns.map row.values
  spec.unique && !decide keys.Nodup

def Table.missingIndexes {t : IdentityTable} (table : Table t) : List IndexSpec :=
  t.additiveIndexes.filter fun spec =>
    !(spec.name ∈ table.indexes) && spec.columns.all fun c => c ∈ table.columns

def Table.refusedIndex {t : IdentityTable} (table : Table t) : Option IndexSpec :=
  table.missingIndexes.find? fun spec => spec.refuses table.rows

def Table.indexed {t : IdentityTable} (table : Table t) : Table t :=
  { table with indexes := table.indexes ++ table.missingIndexes.map IndexSpec.name }

def identityTables : List IdentityTable :=
  [.organization,.externalIdentity,.accountLinkRecovery,.deviceSession,.loginTransaction,
    .providerLogoutContinuation,.identityAuditEvent,.auditRetentionState,.workspaceAuditLog,
    .secretAccessAuditLog]

def Database.prepared (db : Database) : Database :=
  fun t => (db t).map fun table => table.addColumns.backfilled

-- One transaction: the first refused index ends it.
def upgradeIdentityAdditiveColumns (db : Database) : Except String Database :=
  match identityTables.findSome? fun t => (db.prepared t).bind Table.refusedIndex with
  | some spec => .error s!"could not create unique index {spec.name}"
  | none => .ok fun t => (db.prepared t).map Table.indexed

def Database.migrated (db : Database) : Database :=
  match upgradeIdentityAdditiveColumns db with
  | .ok db' => db'
  | .error _ => db

end upgrade

section createAll

def Table.created (t : IdentityTable) : Table t where
  columns := t.baseColumns ++ t.additiveColumns.map Prod.fst
  rows := []
  indexes := t.additiveIndexes.map IndexSpec.name
  base := List.subset_append_left _ _

def createAll (db : Database) : Database :=
  fun t => some ((db t).getD (Table.created t))

end createAll

end AiScdc.IdentitySchema
