import AiScdc.IdentitySchema.Agreement
import AiScdc.Listing.FirstOfGroup
import AiScdc.Sandbox

namespace AiScdc.StoreUpgrade
open IdentitySchema (Value)

abbrev UsageRow := IdentitySchema.Row

def usageTypes : List String :=
  ["model_tokens","cloud_run_runtime_seconds","worker_submissions","object_storage_bytes",
    "object_storage_reads","log_sync_calls","queue_messages","pr_publish_attempts"]

def currentColumns : List String :=
  ["id","workspace_id","organization_id","user_id","project_id","task_id","cloud_run_id",
    "planner_run_id","usage_type","provider_name","model_name","prompt_tokens","completion_tokens",
    "total_tokens","quantity","unit_name","unit_price_cents","amount_cents","raw_usage_json","created_at"]

def notNullColumns : List String :=
  ["workspace_id","organization_id","user_id","usage_type","provider_name","model_name","prompt_tokens",
    "completion_tokens","total_tokens","quantity","unit_name","unit_price_cents","amount_cents","created_at"]

inductive UsageColumn where
  | cloudRunId | quantity | unitName
  deriving DecidableEq, Repr

namespace UsageColumn

def all : List UsageColumn := [cloudRunId,quantity,unitName]

def name : UsageColumn → String
  | cloudRunId => "cloud_run_id"
  | quantity => "quantity"
  | unitName => "unit_name"

def type : UsageColumn → String
  | cloudRunId => "VARCHAR"
  | quantity => "INTEGER NOT NULL DEFAULT 0"
  | unitName => "VARCHAR DEFAULT ''"

def default : UsageColumn → Value
  | cloudRunId => none
  | quantity => some "0"
  | unitName => some ""

theorem name_current (column : UsageColumn) : column.name ∈ currentColumns := by
  cases column <;> decide

end UsageColumn

inductive IndexOrigin where
  | created | uniqueConstraint | primaryKey
  deriving DecidableEq, Repr

structure UsageIndex where
  name : String
  unique : Bool
  origin : IndexOrigin
  columns : List String
  deriving DecidableEq, Repr

-- The rows stand in the order of their rowids. A new column is written into the statement behind
-- `columnsSql`, where the constraints or the closing bracket begin.
@[ext]
structure UsageTable where
  columnsSql : Text
  constraintsSql : Text
  columns : List String
  indexes : List UsageIndex
  rows : List UsageRow
  separated : ∃ c rest, constraintsSql = c :: rest ∧ (c = ',' ∨ c = ')')
  base : ∀ column ∈ currentColumns, column ∈ columns ∨ column ∈ UsageColumn.all.map UsageColumn.name
  within : columns ⊆ currentColumns
  primaryKey : (rows.map IdentitySchema.Row.id).Nodup

theorem current_present : ∀ column ∈ currentColumns,
    column ∈ currentColumns ∨ column ∈ UsageColumn.all.map UsageColumn.name := fun _ h => Or.inl h

inductive SqliteError where
  | operational | integrity
  deriving DecidableEq, Repr

def cloudRun (row : UsageRow) : Value := row.values "cloud_run_id"

-- The key of the GROUP BY, where null is a value like any other.
def groupKey (row : UsageRow) : Option (String × Value) :=
  (cloudRun row).map fun run => (run,row.values "usage_type")

-- The key of the UNIQUE constraint, where null agrees with nothing.
def uniqueKey (row : UsageRow) : Option (String × String) :=
  (cloudRun row).bind fun run => (row.values "usage_type").map fun usageType => (run,usageType)

instance (rows : List UsageRow) : Decidable (Listing.Distinct uniqueKey rows) :=
  inferInstanceAs (Decidable (rows.Pairwise fun _ _ => _))

namespace UsageTable

def createSql (t : UsageTable) : Text := t.columnsSql ++ t.constraintsSql

def lower (text : Text) : Text := text.map Char.toLower

def needsRebuild (t : UsageTable) : Bool :=
  let normalizedSql := lower t.createSql
  if ¬ "check".toList <:+: normalizedSql ∨ ¬ "usage_type".toList <:+: normalizedSql then false
  else usageTypes.any fun usageType => ¬ usageType.toList <:+: normalizedSql

end UsageTable

def currentColumnsSql : Text :=
  ("CREATE TABLE usage_ledger_entry (id VARCHAR NOT NULL, workspace_id VARCHAR NOT NULL, " ++
    "organization_id VARCHAR NOT NULL, user_id VARCHAR NOT NULL, project_id VARCHAR, task_id VARCHAR, " ++
    "cloud_run_id VARCHAR, planner_run_id VARCHAR, usage_type VARCHAR(25) NOT NULL, " ++
    "provider_name VARCHAR NOT NULL, model_name VARCHAR NOT NULL, prompt_tokens INTEGER NOT NULL, " ++
    "completion_tokens INTEGER NOT NULL, total_tokens INTEGER NOT NULL, quantity INTEGER NOT NULL, " ++
    "unit_name VARCHAR NOT NULL, unit_price_cents INTEGER NOT NULL, amount_cents INTEGER NOT NULL, " ++
    "raw_usage_json JSON, created_at DATETIME NOT NULL").toList

def namedUsageTypes : Text :=
  ((usageTypes.map fun usageType => ("'" ++ usageType ++ "'").toList).intersperse ", ".toList).flatten

def currentConstraintsSql : Text :=
  ',' :: (" PRIMARY KEY (id), CONSTRAINT uq_usage_ledger_cloud_run_usage_type UNIQUE (cloud_run_id, usage_type), " ++
    "FOREIGN KEY(project_id) REFERENCES project (id), FOREIGN KEY(task_id) REFERENCES task (id), " ++
    "FOREIGN KEY(cloud_run_id) REFERENCES cloud_run (id), " ++
    "FOREIGN KEY(planner_run_id) REFERENCES planner_run (id), " ++
    "CONSTRAINT usage_type CHECK (usage_type IN (").toList ++ namedUsageTypes ++ ")))".toList

def plainUsageIndex (column : String) : UsageIndex :=
  ⟨"ix_usage_ledger_entry_" ++ column,false,.created,[column]⟩

def chargeColumns : List String := ["cloud_run_id","usage_type"]

def currentIndexes : List UsageIndex :=
  [⟨"sqlite_autoindex_usage_ledger_entry_1",true,.primaryKey,["id"]⟩,
    ⟨"sqlite_autoindex_usage_ledger_entry_2",true,.uniqueConstraint,chargeColumns⟩] ++
  ["workspace_id","organization_id","user_id","project_id","task_id","cloud_run_id","planner_run_id",
    "usage_type","quantity","created_at"].map plainUsageIndex

def rebuildDefaults : List (String × Value) :=
  [("cloud_run_id",none),("quantity",some "0"),("unit_name",some ""),("unit_price_cents",some "0"),
    ("amount_cents",some "0"),("prompt_tokens",some "0"),("completion_tokens",some "0"),
    ("total_tokens",some "0"),("raw_usage_json",some "{}"),("created_at",some "CURRENT_TIMESTAMP")]

-- The table as create_all and a rebuild make it.
def currentTable (rows : List UsageRow) (primaryKey : (rows.map IdentitySchema.Row.id).Nodup) : UsageTable where
  columnsSql := currentColumnsSql
  constraintsSql := currentConstraintsSql
  columns := currentColumns
  indexes := currentIndexes
  rows := rows
  separated := ⟨_,_,rfl,Or.inl rfl⟩
  base := current_present
  within := List.Subset.refl _
  primaryKey := primaryKey

namespace UsageTable

section rebuilding

variable (t : UsageTable)

theorem copied_nodup {copy : UsageRow → UsageRow} (h : ∀ row, (copy row).id = row.id) :
    ((t.rows.map copy).map IdentitySchema.Row.id).Nodup := by
  rw [List.map_map,show IdentitySchema.Row.id ∘ copy = IdentitySchema.Row.id from funext h]
  exact t.primaryKey

def copied (row : UsageRow) : UsageRow :=
  { row with
    values := fun column =>
      if column ∈ currentColumns ∧ column ∉ t.columns then
        ((rebuildDefaults.find? fun entry => entry.1 = column).map Prod.snd).getD none
      else row.values column }

-- What the constraints of today's table ask of the copied rows.
def admits (rows : List UsageRow) : Bool :=
  (rows.all fun row => (notNullColumns.all fun column => row.values column ≠ none) &&
    (row.values "usage_type").all fun usageType => usageType ∈ usageTypes) &&
  decide (Listing.Distinct uniqueKey rows)

-- No index of a constraint can be dropped.
def rebuild : Except SqliteError UsageTable :=
  if t.indexes.any fun index => index.origin = .uniqueConstraint then .error .operational
  else if !admits (t.rows.map t.copied) then .error .integrity
  else .ok (currentTable (t.rows.map t.copied) (t.copied_nodup fun _ => rfl))

def addColumn (column : UsageColumn) : UsageTable :=
  if column.name ∈ t.columns then t
  else
    { columnsSql := t.columnsSql ++ (", " ++ column.name ++ " " ++ column.type).toList
      constraintsSql := t.constraintsSql
      columns := t.columns ++ [column.name]
      indexes := t.indexes
      rows := t.rows.map fun row => row.set column.name column.default
      separated := t.separated
      base := fun c hc => (t.base c hc).imp_left (List.mem_append_left _)
      within := List.append_subset.mpr ⟨t.within,by simp [column.name_current]⟩
      primaryKey := t.copied_nodup fun _ => rfl }

def createIndex (index : UsageIndex) : UsageTable :=
  if t.indexes.any fun other => other.name = index.name then t
  else { t with indexes := t.indexes ++ [index] }

def hasUniqueIndex (columns : List String) : Bool :=
  t.indexes.any fun index => index.unique && index.columns = columns

def deleteDuplicates : UsageTable :=
  { t with
    rows := Listing.keepFirst groupKey t.rows
    primaryKey := ((Listing.keepFirst_sublist groupKey t.rows).map IdentitySchema.Row.id).nodup t.primaryKey }

end rebuilding

def addColumns (t : UsageTable) : UsageTable := UsageColumn.all.foldl addColumn t

end UsageTable

def upgradeUsageLedgerColumns (t : UsageTable) : Except SqliteError UsageTable := do
  let t ← if t.needsRebuild then t.rebuild else .ok t
  return (t.addColumns.createIndex (plainUsageIndex "cloud_run_id")).createIndex (plainUsageIndex "quantity")

def uniqueChargeIndex : UsageIndex := ⟨"uq_usage_ledger_cloud_run_usage_type",true,.created,chargeColumns⟩

def upgradeUsageLedgerUniqueCloudRunUsage (t : UsageTable) : Except SqliteError UsageTable :=
  let t := t.deleteDuplicates
  if t.hasUniqueIndex chargeColumns then .ok t
  else if decide (Listing.Distinct uniqueKey t.rows) then .ok (t.createIndex uniqueChargeIndex)
  else .error .integrity

def upgradeUsageLedger (t : UsageTable) : Except SqliteError UsageTable := do
  let t ← upgradeUsageLedgerColumns t
  upgradeUsageLedgerUniqueCloudRunUsage t

-- Each statement on the schema is committed as it runs: what a failed rebuild has renamed stays so,
-- with its rows.
structure LedgerStore where
  table : Option UsageTable
  renamed : List (List UsageRow)

def afterFailedRebuild : SqliteError → Option UsageTable
  | .operational => none
  | .integrity => some (currentTable [] List.nodup_nil)

-- What a start of the application does to the ledger; create_all comes after the upgrades.
def initLedger (store : LedgerStore) : Except SqliteError Unit × LedgerStore :=
  match store.table with
  | none => (.ok (),{ store with table := some (currentTable [] List.nodup_nil) })
  | some t =>
    match upgradeUsageLedger t with
    | .ok t' => (.ok (),{ store with table := some t' })
    | .error error => (.error error,⟨afterFailedRebuild error,store.renamed ++ [t.rows]⟩)

section words

variable {α : Type} {word before rest : List α} {c : α}

theorem prefix_before (hc : c ∉ word) (h : word <+: before ++ c :: rest) : word <+: before := by
  induction before generalizing word with
  | nil =>
    cases word with
    | nil => exact List.nil_prefix
    | cons x word => exact absurd (List.cons_prefix_cons.mp h).1.symm (List.ne_of_not_mem_cons hc)
  | cons y before ih =>
    cases word with
    | nil => exact List.nil_prefix
    | cons x word =>
      obtain ⟨hxy,h⟩ := List.cons_prefix_cons.mp h
      exact List.cons_prefix_cons.mpr ⟨hxy,ih (List.not_mem_of_not_mem_cons hc) h⟩

theorem infix_separated (hc : c ∉ word) :
    word <:+: before ++ c :: rest ↔ word <:+: before ∨ word <:+: rest := by
  constructor
  · intro h
    induction before with
    | nil =>
      rcases List.infix_cons_iff.mp h with hstart | hlater
      · exact Or.inl (prefix_before hc (show word <+: [] ++ c :: rest from hstart)).isInfix
      · exact Or.inr hlater
    | cons y before ih =>
      rcases List.infix_cons_iff.mp h with hstart | hlater
      · exact Or.inl (prefix_before hc (show word <+: (y :: before) ++ c :: rest from hstart)).isInfix
      · exact (ih hlater).imp_left List.infix_cons
  · rintro (h | h)
    · exact List.infix_append_of_infix_left h
    · exact List.infix_append_of_infix_right (List.infix_cons h)

end words

namespace UsageTable

section statements

variable {t : UsageTable} {column : UsageColumn} {word : Text}

theorem lower_append (a b : Text) : lower (a ++ b) = lower a ++ lower b := List.map_append

-- A word that is found in a statement stands before or behind its separator.
theorem word_addColumn (hmissing : column.name ∉ t.columns) (hcomma : ',' ∉ word) (hclose : ')' ∉ word) :
    word <:+: lower (t.addColumn column).createSql ↔
      word <:+: lower t.createSql ∨ word <:+: lower (" " ++ column.name ++ " " ++ column.type).toList := by
  obtain ⟨c,rest,hrest,hc⟩ := t.separated
  have hseparator : lower (c :: rest) = c :: lower rest ∧ c ∉ word := by
    rcases hc with rfl | rfl
    · exact ⟨rfl,hcomma⟩
    · exact ⟨rfl,hclose⟩
  have hadded : lower (", " ++ column.name ++ " " ++ column.type).toList =
      ',' :: lower (" " ++ column.name ++ " " ++ column.type).toList := by
    cases column <;> decide
  rw [addColumn,if_neg hmissing]
  simp only [createSql,lower_append,hrest,hseparator.1,hadded]
  rw [infix_separated hseparator.2,infix_separated hcomma,infix_separated hseparator.2]
  tauto

theorem needsRebuild_iff : t.needsRebuild = true ↔ "check".toList <:+: lower t.createSql ∧
    "usage_type".toList <:+: lower t.createSql ∧
      ∃ usageType ∈ usageTypes, ¬ usageType.toList <:+: lower t.createSql := by
  simp only [needsRebuild]
  split
  · next h =>
    constructor
    · intro hfalse
      exact absurd hfalse Bool.false_ne_true
    · rintro ⟨hcheck,htype,_⟩
      exact absurd htype (h.resolve_left (not_not_intro hcheck))
  · next h =>
    rw [not_or,not_not,not_not] at h
    simp only [List.any_eq_true,decide_eq_true_eq]
    exact ⟨fun hnamed => ⟨h.1,h.2,hnamed⟩,fun hall => hall.2.2⟩

theorem usageType_plain : ∀ usageType ∈ usageTypes, ',' ∉ usageType.toList ∧ ')' ∉ usageType.toList := by
  decide

theorem needsRebuild_addColumn (h : t.needsRebuild = false) : (t.addColumn column).needsRebuild = false := by
  by_cases hmissing : column.name ∈ t.columns
  · rw [addColumn,if_pos hmissing]
    exact h
  · rw [Bool.eq_false_iff,Ne,needsRebuild_iff] at h ⊢
    rintro ⟨hcheck,htype,usageType,husage,hunnamed⟩
    rw [word_addColumn hmissing (by decide) (by decide)] at hcheck htype
    apply h
    refine ⟨hcheck.resolve_right (by cases column <;> decide),
      htype.resolve_right (by cases column <;> decide),usageType,husage,?_⟩
    intro hnamed
    have hplain := usageType_plain usageType husage
    exact hunnamed ((word_addColumn hmissing hplain.1 hplain.2).mpr (Or.inl hnamed))

theorem needsRebuild_addColumns (h : t.needsRebuild = false) : t.addColumns.needsRebuild = false :=
  needsRebuild_addColumn (needsRebuild_addColumn (needsRebuild_addColumn h))

end statements

end UsageTable

end AiScdc.StoreUpgrade
