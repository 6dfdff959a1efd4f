import AiScdc.StoreUpgrade.UsageLedger

namespace AiScdc.StoreUpgrade
open IdentitySchema (Value)

namespace UsageTable

def withColumn (t : UsageTable) (row : UsageRow) (column : UsageColumn) : UsageRow :=
  if column.name ∈ t.columns then row else row.set column.name column.default

def asToday (t : UsageTable) (row : UsageRow) : UsageRow := UsageColumn.all.foldl t.withColumn row

section rows

variable {t : UsageTable} {row : UsageRow} {column : UsageColumn} {d : String}

theorem withColumn_id : (t.withColumn row column).id = row.id := by
  rw [withColumn]
  split <;> rfl

theorem withColumn_values : (t.withColumn row column).values d =
    if d = column.name ∧ d ∉ t.columns then column.default else row.values d := by
  rw [withColumn]
  by_cases hd : d = column.name
  · subst hd
    split <;> simp [*]
  · split <;> simp [hd]

theorem asToday_id (t : UsageTable) (row : UsageRow) : (t.asToday row).id = row.id := by
  simp only [asToday,UsageColumn.all,List.foldl,withColumn_id]

theorem asToday_values : (t.asToday row).values d =
    if d ∈ t.columns then row.values d
    else if d = "unit_name" then some ""
    else if d = "quantity" then some "0"
    else if d = "cloud_run_id" then none
    else row.values d := by
  simp only [asToday,UsageColumn.all,List.foldl,withColumn_values,UsageColumn.name,UsageColumn.default]
  by_cases hd : d ∈ t.columns <;> simp [hd]

theorem asToday_full (h : currentColumns ⊆ t.columns) : t.asToday row = row := by
  have hin : ∀ column : UsageColumn, column.name ∈ t.columns := fun column => h column.name_current
  simp only [asToday,UsageColumn.all,List.foldl,withColumn,hin,if_true]

theorem copied_eq_asToday (t : UsageTable) (row : UsageRow) : t.copied row = t.asToday row := by
  apply IdentitySchema.Row.ext
  · exact (asToday_id t row).symm
  · funext d
    rw [asToday_values,copied]
    by_cases hd : d ∈ t.columns
    · simp [hd]
    · by_cases hcurrent : d ∈ currentColumns
      · have hname := (t.base d hcurrent).resolve_left hd
        simp only [UsageColumn.all,List.map_cons,List.map_nil,List.mem_cons,List.not_mem_nil,or_false] at hname
        simp only [hcurrent,hd,not_false_eq_true,and_self,if_true,if_false]
        rcases hname with rfl | rfl | rfl <;> rfl
      · have hname : ∀ column : UsageColumn, d ≠ column.name :=
          fun column heq => hcurrent (heq ▸ column.name_current)
        have hunit := hname .unitName
        have hquantity := hname .quantity
        have hrun := hname .cloudRunId
        simp only [UsageColumn.name] at hunit hquantity hrun
        simp [hd,hcurrent,hunit,hquantity,hrun]

theorem addColumn_columns {other : String} :
    other ∈ (t.addColumn column).columns ↔ other ∈ t.columns ∨ other = column.name := by
  rw [addColumn]
  split
  · next hin =>
    constructor
    · exact Or.inl
    · rintro (h | rfl)
      · exact h
      · exact hin
  · simp

theorem addColumn_rows : (t.addColumn column).rows =
    t.rows.map fun row => t.withColumn row column := by
  rw [addColumn]
  split
  · next hin => simp [withColumn,hin]
  · next hmissing => simp [withColumn,hmissing]

theorem withColumn_addColumn {other : UsageColumn} (h : other ≠ column) :
    (t.addColumn column).withColumn row other = t.withColumn row other := by
  have hname : other.name ≠ column.name := by
    cases other <;> cases column <;> first | exact absurd rfl h | decide
  simp only [withColumn,addColumn_columns,hname,or_false]

theorem addColumns_rows (t : UsageTable) : t.addColumns.rows = t.rows.map t.asToday := by
  simp only [addColumns,UsageColumn.all,List.foldl,addColumn_rows,List.map_map]
  apply List.map_congr_left
  intro row _
  simp [asToday,UsageColumn.all,withColumn_addColumn]

theorem addColumns_columns (t : UsageTable) : currentColumns ⊆ t.addColumns.columns := by
  intro d hd
  simp only [addColumns,UsageColumn.all,List.foldl,addColumn_columns]
  have hbase := t.base d hd
  simp only [UsageColumn.all,List.map_cons,List.map_nil,List.mem_cons,List.not_mem_nil,or_false] at hbase
  tauto

theorem addColumns_full (h : currentColumns ⊆ t.columns) : t.addColumns = t := by
  have hin : ∀ column : UsageColumn, t.addColumn column = t := fun column => if_pos (h column.name_current)
  simp only [addColumns,UsageColumn.all,List.foldl,hin]

end rows

theorem createIndex_rows (t : UsageTable) (index : UsageIndex) : (t.createIndex index).rows = t.rows := by
  rw [createIndex]
  split <;> rfl

theorem createIndex_columns (t : UsageTable) (index : UsageIndex) : (t.createIndex index).columns = t.columns := by
  rw [createIndex]
  split <;> rfl

theorem createIndex_needsRebuild (t : UsageTable) (index : UsageIndex) :
    (t.createIndex index).needsRebuild = t.needsRebuild := by
  rw [createIndex]
  split <;> rfl

def hasIndex (t : UsageTable) (name : String) : Bool := t.indexes.any fun index => index.name = name

theorem createIndex_same {t : UsageTable} {index : UsageIndex} (h : t.hasIndex index.name = true) :
    t.createIndex index = t := if_pos h

theorem createIndex_has (t : UsageTable) (index : UsageIndex) :
    (t.createIndex index).hasIndex index.name = true := by
  rw [createIndex]
  split
  · next h => exact h
  · simp [hasIndex]

theorem createIndex_keeps {t : UsageTable} {name : String} (index : UsageIndex) (h : t.hasIndex name = true) :
    (t.createIndex index).hasIndex name = true := by
  rw [createIndex]
  split
  · exact h
  · rw [hasIndex,List.any_append]
    exact Bool.or_eq_true_iff.mpr (Or.inl h)

def widened (t : UsageTable) : UsageTable :=
  (t.addColumns.createIndex (plainUsageIndex "cloud_run_id")).createIndex (plainUsageIndex "quantity")

theorem widened_rows (t : UsageTable) : t.widened.rows = t.rows.map t.asToday := by
  rw [widened,createIndex_rows,createIndex_rows,addColumns_rows]

theorem widened_columns (t : UsageTable) : currentColumns ⊆ t.widened.columns := by
  rw [widened,createIndex_columns,createIndex_columns]
  exact addColumns_columns t

theorem widened_needsRebuild {t : UsageTable} (h : t.needsRebuild = false) : t.widened.needsRebuild = false := by
  rw [widened,createIndex_needsRebuild,createIndex_needsRebuild]
  exact needsRebuild_addColumns h

theorem widened_cloudRunIndex (t : UsageTable) :
    t.widened.hasIndex (plainUsageIndex "cloud_run_id").name = true := by
  rw [widened]
  exact createIndex_keeps _ (createIndex_has _ _)

theorem widened_quantityIndex (t : UsageTable) :
    t.widened.hasIndex (plainUsageIndex "quantity").name = true := by
  rw [widened]
  exact createIndex_has _ _

theorem deleteDuplicates_rows (t : UsageTable) :
    t.deleteDuplicates.rows = Listing.keepFirst groupKey t.rows := rfl

theorem deleteDuplicates_columns (t : UsageTable) : t.deleteDuplicates.columns = t.columns := rfl

theorem deleteDuplicates_needsRebuild (t : UsageTable) : t.deleteDuplicates.needsRebuild = t.needsRebuild := rfl

theorem deleteDuplicates_hasIndex (t : UsageTable) (name : String) :
    t.deleteDuplicates.hasIndex name = t.hasIndex name := rfl

-- A table that an upgrade leaves as it is.
structure Upgraded (t : UsageTable) : Prop where
  needsRebuild : t.needsRebuild = false
  columns : currentColumns ⊆ t.columns
  cloudRunIndex : t.hasIndex (plainUsageIndex "cloud_run_id").name = true
  quantityIndex : t.hasIndex (plainUsageIndex "quantity").name = true
  charges : Listing.Distinct groupKey t.rows
  unique : t.hasUniqueIndex chargeColumns = true ∨ t.hasIndex uniqueChargeIndex.name = true

end UsageTable

theorem uniqueKey_eq_some {row : UsageRow} {run usageType : String} : uniqueKey row = some (run,usageType) ↔
    cloudRun row = some run ∧ row.values "usage_type" = some usageType := by
  simp [uniqueKey,Option.bind_eq_some_iff]

theorem distinct_uniqueKey {rows : List UsageRow} (h : Listing.Distinct groupKey rows) :
    Listing.Distinct uniqueKey rows := by
  apply List.Pairwise.imp _ h
  intro a b hab
  cases ha : uniqueKey a with
  | none => exact Or.inl rfl
  | some key =>
    right
    intro hb
    obtain ⟨hrun,htype⟩ := uniqueKey_eq_some.mp ha
    obtain ⟨hrun',htype'⟩ := uniqueKey_eq_some.mp hb.symm
    rcases hab with hnone | hne
    · simp [groupKey,hrun] at hnone
    · exact hne (by rw [groupKey,groupKey,hrun,hrun',htype,htype'])

section runs

variable {t t' : UsageTable}

theorem upgrade_upgraded (h : t.Upgraded) : upgradeUsageLedger t = .ok t := by
  have hcolumns : upgradeUsageLedgerColumns t = .ok t := by
    rw [upgradeUsageLedgerColumns,h.needsRebuild]
    change Except.ok t.widened = _
    rw [UsageTable.widened,UsageTable.addColumns_full h.columns,UsageTable.createIndex_same h.cloudRunIndex,
      UsageTable.createIndex_same h.quantityIndex]
  have hdelete : t.deleteDuplicates = t := by
    apply UsageTable.ext
    · rfl
    · rfl
    · rfl
    · rfl
    · exact Listing.keepFirst_of_distinct h.charges
  rw [upgradeUsageLedger,hcolumns]
  change upgradeUsageLedgerUniqueCloudRunUsage t = _
  rw [upgradeUsageLedgerUniqueCloudRunUsage,hdelete]
  rcases h.unique with hunique | hindex
  · exact if_pos hunique
  · simp only [UsageTable.createIndex_same hindex,distinct_uniqueKey h.charges,decide_true,if_true,ite_self]

theorem deduplicated_upgraded (h : t.needsRebuild = false)
    (hunique : t.widened.deleteDuplicates.hasUniqueIndex chargeColumns = true ∨
      t.widened.deleteDuplicates.hasIndex uniqueChargeIndex.name = true) :
    t.widened.deleteDuplicates.Upgraded where
  needsRebuild := by
    rw [UsageTable.deleteDuplicates_needsRebuild]
    exact UsageTable.widened_needsRebuild h
  columns := by
    rw [UsageTable.deleteDuplicates_columns]
    exact t.widened_columns
  cloudRunIndex := by
    rw [UsageTable.deleteDuplicates_hasIndex]
    exact t.widened_cloudRunIndex
  quantityIndex := by
    rw [UsageTable.deleteDuplicates_hasIndex]
    exact t.widened_quantityIndex
  charges := by
    rw [UsageTable.deleteDuplicates_rows]
    exact Listing.distinct_keepFirst groupKey t.widened.rows
  unique := hunique

theorem indexed_upgraded (h : t.needsRebuild = false) :
    (t.widened.deleteDuplicates.createIndex uniqueChargeIndex).Upgraded where
  needsRebuild := by
    rw [UsageTable.createIndex_needsRebuild,UsageTable.deleteDuplicates_needsRebuild]
    exact UsageTable.widened_needsRebuild h
  columns := by
    rw [UsageTable.createIndex_columns,UsageTable.deleteDuplicates_columns]
    exact t.widened_columns
  cloudRunIndex := by
    apply UsageTable.createIndex_keeps
    rw [UsageTable.deleteDuplicates_hasIndex]
    exact t.widened_cloudRunIndex
  quantityIndex := by
    apply UsageTable.createIndex_keeps
    rw [UsageTable.deleteDuplicates_hasIndex]
    exact t.widened_quantityIndex
  charges := by
    rw [UsageTable.createIndex_rows,UsageTable.deleteDuplicates_rows]
    exact Listing.distinct_keepFirst groupKey t.widened.rows
  unique := Or.inr (UsageTable.createIndex_has _ _)

theorem upgrade_unchecked (h : t.needsRebuild = false) : ∃ t', upgradeUsageLedger t = .ok t' ∧ t'.Upgraded ∧
    t'.rows = Listing.keepFirst groupKey (t.rows.map t.asToday) := by
  have hcolumns : upgradeUsageLedgerColumns t = .ok t.widened := by
    rw [upgradeUsageLedgerColumns,h]
    rfl
  have hrows : t.widened.deleteDuplicates.rows = Listing.keepFirst groupKey (t.rows.map t.asToday) := by
    rw [UsageTable.deleteDuplicates_rows,UsageTable.widened_rows]
  have hcharges := distinct_uniqueKey (Listing.distinct_keepFirst groupKey t.widened.rows)
  rw [upgradeUsageLedger,hcolumns]
  change ∃ t', upgradeUsageLedgerUniqueCloudRunUsage t.widened = .ok t' ∧ _
  rw [upgradeUsageLedgerUniqueCloudRunUsage]
  by_cases hunique : t.widened.deleteDuplicates.hasUniqueIndex chargeColumns = true
  · exact ⟨t.widened.deleteDuplicates,if_pos hunique,deduplicated_upgraded h (Or.inl hunique),hrows⟩
  · refine ⟨t.widened.deleteDuplicates.createIndex uniqueChargeIndex,?_,indexed_upgraded h,?_⟩
    · simp only [hunique,Bool.false_eq_true,if_false]
      exact if_pos (decide_eq_true hcharges)
    · rw [UsageTable.createIndex_rows]
      exact hrows

end runs

section rebuilds

variable {t t' : UsageTable}

-- What the rebuilding of a table rests on.
structure Rebuildable (t : UsageTable) : Prop where
  droppable : ∀ index ∈ t.indexes, index.origin ≠ .uniqueConstraint
  filled : ∀ row ∈ t.rows, ∀ column ∈ notNullColumns, (t.asToday row).values column ≠ none
  known : ∀ row ∈ t.rows, ∀ usageType, (t.asToday row).values "usage_type" = some usageType →
    usageType ∈ usageTypes
  charges : Listing.Distinct uniqueKey (t.rows.map t.asToday)

theorem copied_rows (t : UsageTable) : t.rows.map t.copied = t.rows.map t.asToday :=
  List.map_congr_left fun row _ => UsageTable.copied_eq_asToday t row

theorem admits_iff : UsageTable.admits (t.rows.map t.copied) = true ↔
    (∀ row ∈ t.rows, ∀ column ∈ notNullColumns, (t.asToday row).values column ≠ none) ∧
    (∀ row ∈ t.rows, ∀ usageType, (t.asToday row).values "usage_type" = some usageType →
      usageType ∈ usageTypes) ∧
    Listing.Distinct uniqueKey (t.rows.map t.asToday) := by
  rw [copied_rows,UsageTable.admits,Bool.and_eq_true,decide_eq_true_eq]
  simp only [List.all_map,List.all_eq_true,Function.comp_apply,Bool.and_eq_true,decide_eq_true_eq,
    Option.all_eq_true]
  constructor
  · rintro ⟨hrows,hcharges⟩
    exact ⟨fun row hrow => (hrows row hrow).1,fun row hrow => (hrows row hrow).2,hcharges⟩
  · rintro ⟨hfilled,hknown,hcharges⟩
    exact ⟨fun row hrow => ⟨hfilled row hrow,hknown row hrow⟩,hcharges⟩

theorem rebuild_iff : (∃ t', t.rebuild = .ok t') ↔ Rebuildable t := by
  rw [UsageTable.rebuild]
  split
  · next hconstraint =>
    constructor
    · rintro ⟨t',h⟩
      exact absurd h (by simp)
    · intro h
      obtain ⟨index,hindex,horigin⟩ := List.any_eq_true.mp hconstraint
      exact absurd (of_decide_eq_true horigin) (h.droppable index hindex)
  · next hdroppable =>
    have hdrop : ∀ index ∈ t.indexes, index.origin ≠ .uniqueConstraint := by
      intro index hindex horigin
      exact hdroppable (List.any_eq_true.mpr ⟨index,hindex,decide_eq_true horigin⟩)
    split
    · next hrefused =>
      constructor
      · rintro ⟨t',h⟩
        exact absurd h (by simp)
      · intro h
        have hadmits := admits_iff.mpr ⟨h.filled,h.known,h.charges⟩
        rw [hadmits] at hrefused
        exact absurd hrefused (by decide)
    · next hadmitted =>
      rw [Bool.not_eq_true,Bool.not_eq_false'] at hadmitted
      obtain ⟨hfilled,hknown,hcharges⟩ := admits_iff.mp hadmitted
      exact ⟨fun _ => ⟨hdrop,hfilled,hknown,hcharges⟩,fun _ => ⟨_,rfl⟩⟩

theorem usageType_lower : ∀ usageType ∈ usageTypes, UsageTable.lower usageType.toList = usageType.toList := by
  decide

theorem mem_intersperse {α : Type} {sep a : α} {l : List α} (h : a ∈ l) : a ∈ l.intersperse sep := by
  induction l with
  | nil => exact h
  | cons b l ih =>
    cases l with
    | nil => exact h
    | cons c l =>
      rw [List.intersperse_cons_cons]
      rcases List.mem_cons.mp h with rfl | h
      · exact List.mem_cons_self
      · exact List.mem_cons_of_mem _ (List.mem_cons_of_mem _ (ih h))

theorem usageType_named {usageType : String} (h : usageType ∈ usageTypes) :
    usageType.toList <:+: UsageTable.lower currentConstraintsSql := by
  have hquoted : usageType.toList <:+: ("'" ++ usageType ++ "'").toList := by
    rw [String.toList_append,String.toList_append]
    exact List.infix_append _ _ _
  have hlisted : usageType.toList <:+: namedUsageTypes := by
    apply hquoted.trans
    apply List.infix_of_mem_flatten
    apply mem_intersperse
    exact List.mem_map_of_mem h
  rw [← usageType_lower usageType h]
  apply List.IsInfix.map
  exact List.infix_append_of_infix_left (List.infix_append_of_infix_right hlisted)

theorem currentTable_complete (rows : List UsageRow) (primaryKey : (rows.map IdentitySchema.Row.id).Nodup) :
    (currentTable rows primaryKey).needsRebuild = false := by
  rw [Bool.eq_false_iff,Ne,UsageTable.needsRebuild_iff]
  rintro ⟨_,_,usageType,husage,hunnamed⟩
  apply hunnamed
  rw [UsageTable.createSql,UsageTable.lower_append]
  exact List.infix_append_of_infix_right (usageType_named husage)

theorem rebuilt (h : t.rebuild = .ok t') : t'.rows = t.rows.map t.asToday ∧ t'.columns = currentColumns ∧
    t'.needsRebuild = false := by
  rw [UsageTable.rebuild] at h
  split at h
  · exact absurd h (by simp)
  · split at h
    · exact absurd h (by simp)
    · rw [← Except.ok.inj h]
      exact ⟨copied_rows t,rfl,currentTable_complete _ _⟩

theorem upgrade_rebuilt (hneeds : t.needsRebuild = true) (h : t.rebuild = .ok t') :
    upgradeUsageLedger t = upgradeUsageLedger t' := by
  rw [upgradeUsageLedger,upgradeUsageLedger,upgradeUsageLedgerColumns,upgradeUsageLedgerColumns,hneeds,
    (rebuilt h).2.2,if_pos rfl,h]
  rfl

theorem upgrade_refused {error : SqliteError} (hneeds : t.needsRebuild = true) (h : t.rebuild = .error error) :
    upgradeUsageLedger t = .error error := by
  rw [upgradeUsageLedger,upgradeUsageLedgerColumns,hneeds,if_pos rfl,h]
  rfl

end rebuilds

section kept

variable {t t' : UsageTable}

structure ChargesKept (t t' : UsageTable) : Prop where
  columns : currentColumns ⊆ t'.columns
  rows : t'.rows.Sublist (t.rows.map t.asToday)
  first : ∀ before row after, t.rows = before ++ row :: after →
    (t.asToday row ∈ t'.rows ↔ cloudRun (t.asToday row) = none ∨
      ∀ earlier ∈ before, groupKey (t.asToday earlier) ≠ groupKey (t.asToday row))

theorem asToday_nodup (t : UsageTable) : (t.rows.map t.asToday).Nodup := by
  apply List.Nodup.of_map IdentitySchema.Row.id
  rw [List.map_map]
  have hids : IdentitySchema.Row.id ∘ t.asToday = IdentitySchema.Row.id := funext (UsageTable.asToday_id t)
  rw [hids]
  exact t.primaryKey

theorem chargesKept (hcolumns : currentColumns ⊆ t'.columns)
    (h : t'.rows = Listing.keepFirst groupKey (t.rows.map t.asToday)) : ChargesKept t t' where
  columns := hcolumns
  rows := by
    rw [h]
    exact Listing.keepFirst_sublist _ _
  first before row after hsplit := by
    have hnodup := asToday_nodup t
    rw [hsplit,List.map_append,List.map_cons] at hnodup
    rw [h,hsplit,List.map_append,List.map_cons,Listing.mem_keepFirst_split hnodup]
    simp only [List.forall_mem_map,groupKey,Option.map_eq_none_iff]

theorem upgrade_rebuildable (h : t.needsRebuild = true → Rebuildable t) :
    ∃ t', upgradeUsageLedger t = .ok t' ∧ ChargesKept t t' ∧ upgradeUsageLedger t' = .ok t' := by
  cases hneeds : t.needsRebuild with
  | false =>
    obtain ⟨t',hrun,hupgraded,hrows⟩ := upgrade_unchecked hneeds
    exact ⟨t',hrun,chargesKept hupgraded.columns hrows,upgrade_upgraded hupgraded⟩
  | true =>
    obtain ⟨rebuilt',hrebuild⟩ := rebuild_iff.mpr (h hneeds)
    obtain ⟨hcopied,hcolumns,hcomplete⟩ := rebuilt hrebuild
    obtain ⟨t',hrun,hupgraded,hrows⟩ := upgrade_unchecked hcomplete
    have hsame : rebuilt'.rows.map rebuilt'.asToday = rebuilt'.rows := by
      apply List.map_id''
      intro row
      exact UsageTable.asToday_full (by rw [hcolumns]; exact List.Subset.refl _)
    rw [hsame,hcopied] at hrows
    rw [upgrade_rebuilt hneeds hrebuild]
    exact ⟨t',hrun,chargesKept hupgraded.columns hrows,upgrade_upgraded hupgraded⟩

theorem charges_kept_iff (t : UsageTable) :
    (∃ t', upgradeUsageLedger t = .ok t' ∧ ChargesKept t t' ∧ upgradeUsageLedger t' = .ok t') ↔
      (t.needsRebuild = true → Rebuildable t) := by
  constructor
  · rintro ⟨t',hrun,_⟩ hneeds
    rw [← rebuild_iff]
    cases hrebuild : t.rebuild with
    | ok rebuilt' => exact ⟨rebuilt',rfl⟩
    | error error =>
      rw [upgrade_refused hneeds hrebuild] at hrun
      exact absurd hrun (by simp)
  · exact upgrade_rebuildable

theorem initLedger_upgraded (renamed : List (List UsageRow)) (h : upgradeUsageLedger t = .ok t') :
    initLedger ⟨some t,renamed⟩ = (.ok (),⟨some t',renamed⟩) := by
  simp only [initLedger,h]

theorem initLedger_refused {error : SqliteError} (renamed : List (List UsageRow))
    (h : upgradeUsageLedger t = .error error) :
    initLedger ⟨some t,renamed⟩ = (.error error,⟨afterFailedRebuild error,renamed ++ [t.rows]⟩) := by
  simp only [initLedger,h]

-- A start that refuses the table leaves its charges where no later start finds them.
theorem refused_upgrade_hides_charges {error : SqliteError} (renamed : List (List UsageRow))
    (h : upgradeUsageLedger t = .error error) :
    (initLedger ⟨some t,renamed⟩).1 = .error error ∧
      ∃ t', initLedger (initLedger ⟨some t,renamed⟩).2 = (.ok (),⟨some t',renamed ++ [t.rows]⟩) ∧
        t'.rows = [] := by
  rw [initLedger_refused renamed h]
  refine ⟨rfl,?_⟩
  cases error with
  | operational => exact ⟨_,rfl,rfl⟩
  | integrity =>
    obtain ⟨t',hrun,_,hrows⟩ := upgrade_unchecked (currentTable_complete [] List.nodup_nil)
    exact ⟨t',initLedger_upgraded _ hrun,hrows⟩

end kept

def chargeRow (id : String) : UsageRow where
  id := id
  values column :=
    if column = "cloud_run_id" then some "run" else if column = "usage_type" then some "model_tokens" else some "0"

-- A table of an earlier release, whose check knows one usage type, with one charge entered twice.
def chargedTwice : UsageTable where
  columnsSql :=
    "CREATE TABLE usage_ledger_entry (".toList ++
      ((currentColumns.map String.toList).intersperse [',',' ']).flatten
  constraintsSql := ", PRIMARY KEY (id), CHECK (usage_type IN ('model_tokens')))".toList
  columns := currentColumns
  indexes := [⟨"sqlite_autoindex_usage_ledger_entry_1",true,.primaryKey,["id"]⟩]
  rows := [chargeRow "usage_1",chargeRow "usage_2"]
  separated := ⟨_,_,rfl,Or.inl rfl⟩
  base := current_present
  within := List.Subset.refl _
  primaryKey := by decide

theorem chargedTwice_needsRebuild : chargedTwice.needsRebuild = true := by
  decide +kernel

theorem chargedTwice_refused : ¬ ∃ t', upgradeUsageLedger chargedTwice = .ok t' ∧
    ChargesKept chargedTwice t' ∧ upgradeUsageLedger t' = .ok t' := by
  rintro ⟨t',hrun,_⟩
  have hrebuild : chargedTwice.rebuild = .error .integrity := by
    rw [UsageTable.rebuild,if_neg (by decide),if_pos]
    decide
  rw [upgrade_refused chargedTwice_needsRebuild hrebuild] at hrun
  exact absurd hrun (by simp)

end AiScdc.StoreUpgrade
