import AiScdc.IdentitySchema.Migration

namespace AiScdc.IdentitySchema

section rows

variable {row : Row} {c d : String} {v : Value} {m : Bool}

@[simp] theorem Row.set_id : (row.set c v).id = row.id := rfl

@[simp] theorem Row.set_values : (row.set c v).values d = if d = c then v else row.values d := rfl

theorem Row.set_self (h : row.values c = v) : row.set c v = row := by
  ext d
  · rfl
  · simp only [Row.set_values]
    split
    · next hd => rw [hd,h]
    · rfl

theorem Row.set_eq_self_iff : row.set c v = row ↔ row.values c = v := by
  constructor
  · intro h
    have hc : (row.set c v).values c = row.values c := by rw [h]
    simpa using hc.symm
  · exact Row.set_self

@[simp] theorem Row.fill_false : row.fill c v false = row := rfl

@[simp] theorem Row.fill_true : row.fill c v true = row.set c v := rfl

theorem Row.fill_other (h : d ≠ c) : (row.fill c v m).values d = row.values d := by
  cases m
  · rfl
  · exact if_neg h

theorem Row.fill_self : (row.fill c v m).values c = if m then v else row.values c := by
  cases m
  · rfl
  · exact if_pos rfl

theorem Row.fill_eq_self_iff : row.fill c v m = row ↔ (m = true → row.values c = v) := by
  cases m
  · simp
  · simp [Row.set_eq_self_iff]

theorem Row.fill_unchanged (h : (row.fill c v m).values c = row.values c) :
    row.fill c v m = row := by
  rw [Row.fill_eq_self_iff]
  intro hm
  rw [Row.fill_self,if_pos hm] at h
  exact h.symm

-- The second statement reads what the first has written; it cannot undo it.
theorem Row.fill_fill_eq_self_iff (hcd : c ≠ d) (w : Row → Value) (n : Row → Bool) :
    (row.fill c v m).fill d (w (row.fill c v m)) (n (row.fill c v m)) = row ↔
      row.fill c v m = row ∧ row.fill d (w row) (n row) = row := by
  constructor
  · intro h
    have hc := congrArg (fun r => r.values c) h
    have hfirst : row.fill c v m = row := Row.fill_unchanged ((Row.fill_other hcd).symm.trans hc)
    rw [hfirst] at h
    exact ⟨hfirst,h⟩
  · rintro ⟨hfirst,hsecond⟩
    rw [hfirst]
    exact hsecond

end rows

section settled

@[simp] theorem isNull_iff {v : Value} : isNull v = true ↔ v = none := by simp [isNull]

@[simp] theorem isMissing_iff {v : Value} : isMissing v = true ↔ v = none ∨ v = some "" := by
  simp [isMissing]

def IdentityTable.Settled : IdentityTable → Row → Prop
  | .organization, row => ¬ isMissing (row.values "account_kind")
  | .externalIdentity, row =>
    (row.values "last_confirmed_at" = none → row.values "updated_at" = none) ∧
      (row.values "last_status_checked_at" = none → row.values "last_confirmed_at" = none)
  | .deviceSession, row =>
    (row.values "secret_rotated_at" = none → row.values "created_at" = none) ∧
      ¬ isMissing (row.values "device_description")
  | .workspaceAuditLog, row => ¬ isMissing (row.values "correlation_id")
  | .secretAccessAuditLog, row => ¬ isMissing (row.values "correlation_id")
  | _, _ => True

theorem fill_missing_iff {row : Row} {c text : String} (h : text ≠ "") :
    row.fill c (some text) (isMissing (row.values c)) = row ↔ ¬ isMissing (row.values c) := by
  rw [Row.fill_eq_self_iff]
  constructor
  · intro hf hm
    have hv := hf hm
    rcases isMissing_iff.mp hm with hn | he
    · simp [hn] at hv
    · rw [he] at hv
      exact h (Option.some.inj hv).symm
  · intro hn hm
    exact absurd hm hn

theorem fill_null_iff {row : Row} {c : String} {v : Value} :
    row.fill c v (isNull (row.values c)) = row ↔ (row.values c = none → v = none) := by
  rw [Row.fill_eq_self_iff,isNull_iff]
  constructor
  · intro hf hn
    rw [← hf hn,hn]
  · intro hf hn
    rw [hn,hf hn]

theorem prefixed_ne_empty {p s : String} (h : p ≠ "") : p ++ s ≠ "" := by
  intro he
  exact h (String.append_eq_empty_iff.mp he).1

theorem backfill_eq_self_iff (t : IdentityTable) (row : Row) :
    t.backfill row = row ↔ t.Settled row := by
  cases t with
  | organization => exact fill_missing_iff (by decide)
  | workspaceAuditLog => exact fill_missing_iff (prefixed_ne_empty (by decide))
  | secretAccessAuditLog => exact fill_missing_iff (prefixed_ne_empty (by decide))
  | externalIdentity =>
    exact (Row.fill_fill_eq_self_iff (by decide) (fun r => r.values "last_confirmed_at")
      (fun r => isNull (r.values "last_status_checked_at"))).trans
        (and_congr fill_null_iff fill_null_iff)
  | deviceSession =>
    exact (Row.fill_fill_eq_self_iff (by decide) (fun _ => some "Unknown browser on Unknown device")
      (fun r => isMissing (r.values "device_description"))).trans
        (and_congr fill_null_iff (fill_missing_iff (by decide)))
  | _ => simp [IdentityTable.backfill,IdentityTable.Settled]

theorem filled_not_missing {row : Row} {c text : String} (h : text ≠ "") :
    ¬ isMissing ((row.fill c (some text) (isMissing (row.values c))).values c) := by
  rw [Row.fill_self]
  split
  · simpa [isMissing] using h
  · next hm => exact hm

theorem filled_null {row : Row} {c d : String} (hcd : d ≠ c)
    (h : (row.fill c (row.values d) (isNull (row.values c))).values c = none) :
    (row.fill c (row.values d) (isNull (row.values c))).values d = none := by
  rw [Row.fill_self] at h
  rw [Row.fill_other hcd]
  split at h
  · exact h
  · next hn => exact absurd (isNull_iff.mpr h) hn

theorem settled_backfill (t : IdentityTable) (row : Row) : t.Settled (t.backfill row) := by
  cases t with
  | organization => exact filled_not_missing (by decide)
  | workspaceAuditLog => exact filled_not_missing (prefixed_ne_empty (by decide))
  | secretAccessAuditLog => exact filled_not_missing (prefixed_ne_empty (by decide))
  | externalIdentity =>
    constructor
    · intro h
      rw [IdentityTable.backfill,Row.fill_other (by decide)] at h ⊢
      exact filled_null (by decide) h
    · exact filled_null (by decide)
  | deviceSession =>
    constructor
    · intro h
      rw [IdentityTable.backfill,Row.fill_other (by decide)] at h ⊢
      exact filled_null (by decide) h
    · exact filled_not_missing (by decide)
  | _ => trivial

end settled

section columns

variable {t : IdentityTable}

theorem subset_addColumn (table : Table t) (column : String × Value) :
    table.columns ⊆ (table.addColumn column).columns := by
  intro c hc
  rw [Table.addColumn]
  split
  · exact hc
  · exact List.mem_append_left _ hc

theorem mem_addColumn (table : Table t) (column : String × Value) :
    column.1 ∈ (table.addColumn column).columns := by
  rw [Table.addColumn]
  split
  · assumption
  · exact List.mem_append_right _ (List.mem_singleton_self _)

theorem subset_foldl_addColumn (columns : List (String × Value)) (table : Table t) :
    table.columns ⊆ (columns.foldl Table.addColumn table).columns := by
  induction columns generalizing table with
  | nil => exact List.Subset.refl _
  | cons column columns ih => exact List.Subset.trans (subset_addColumn table column) (ih _)

theorem mem_foldl_addColumn (columns : List (String × Value)) (table : Table t) :
    ∀ column ∈ columns, column.1 ∈ (columns.foldl Table.addColumn table).columns := by
  induction columns generalizing table with
  | nil => simp
  | cons head columns ih =>
    intro column hc
    rcases List.mem_cons.mp hc with rfl | hc
    · exact subset_foldl_addColumn columns _ (mem_addColumn table column)
    · exact ih _ column hc

def Table.Complete (table : Table t) : Prop :=
  ∀ column ∈ t.additiveColumns, column.1 ∈ table.columns

theorem lacksAdditive_false_iff (table : Table t) :
    table.lacksAdditive = false ↔ table.Complete := by
  simp [Table.lacksAdditive,Table.Complete]

theorem complete_addColumns (table : Table t) : table.addColumns.Complete :=
  mem_foldl_addColumn t.additiveColumns table

theorem foldl_addColumn_present (columns : List (String × Value)) (table : Table t)
    (h : ∀ column ∈ columns, column.1 ∈ table.columns) :
    columns.foldl Table.addColumn table = table := by
  induction columns with
  | nil => rfl
  | cons column columns ih =>
    have hstep : table.addColumn column = table :=
      if_pos (h column (List.mem_cons_self))
    rw [List.foldl_cons,hstep]
    exact ih (fun c hc => h c (List.mem_cons_of_mem _ hc))

theorem addColumns_complete {table : Table t} (h : table.Complete) : table.addColumns = table :=
  foldl_addColumn_present t.additiveColumns table h

theorem complete_created : (Table.created t).Complete := by
  intro column hc
  exact List.mem_append_right _ (List.mem_map_of_mem hc)

end columns

section indexes

variable {t : IdentityTable}

theorem missingIndexes_indexed {table : Table t} : table.indexed.missingIndexes = [] := by
  rw [Table.missingIndexes,List.filter_eq_nil_iff]
  intro spec hs hmissing
  simp only [Table.indexed,Bool.and_eq_true,Bool.not_eq_true',decide_eq_false_iff_not,
    List.mem_append,not_or] at hmissing
  obtain ⟨⟨hold,hnew⟩,hcolumns⟩ := hmissing
  apply hnew
  apply List.mem_map_of_mem
  apply List.mem_filter.mpr
  constructor
  · exact hs
  · rw [decide_eq_false hold,Bool.not_false,Bool.true_and]
    exact hcolumns

theorem indexed_of_none_missing {table : Table t} (h : table.missingIndexes = []) :
    table.indexed = table := by
  simp [Table.indexed,h]

theorem missingIndexes_created : (Table.created t).missingIndexes = [] := by
  rw [Table.missingIndexes,List.filter_eq_nil_iff]
  intro spec hs
  have hname : spec.name ∈ (Table.created t).indexes := List.mem_map_of_mem hs
  simp [hname]

theorem refuses_map (spec : IndexSpec) (f : Row → Row)
    (hp : ∀ row, spec.predicate (f row) = spec.predicate row)
    (hv : ∀ row, ∀ c ∈ spec.columns, (f row).values c = row.values c) (rows : List Row) :
    spec.refuses (rows.map f) = spec.refuses rows := by
  have hall (row : Row) : (spec.columns.all fun c => (f row).values c ≠ none) =
      spec.columns.all fun c => row.values c ≠ none := by
    rw [Bool.eq_iff_iff,List.all_eq_true,List.all_eq_true]
    constructor
    · intro h c hc
      rw [← hv row c hc]
      exact h c hc
    · intro h c hc
      rw [hv row c hc]
      exact h c hc
  have hkey (row : Row) : spec.columns.map (f row).values = spec.columns.map row.values :=
    List.map_congr_left (hv row)
  simp only [IndexSpec.refuses,List.filter_map,List.map_map,Function.comp_def,hp,hall,hkey]

-- No statement writes a column that a unique index reads.
theorem refuses_backfill {spec : IndexSpec} (h : spec ∈ t.additiveIndexes) (rows : List Row) :
    spec.refuses (rows.map t.backfill) = spec.refuses rows := by
  cases t with
  | organization =>
    rcases List.mem_cons.mp h with rfl | h
    · rfl
    · rw [List.mem_singleton.mp h]
      have hkept (row : Row) : (IdentityTable.organization.backfill row).values
          "personal_owner_user_id" = row.values "personal_owner_user_id" :=
        Row.fill_other (by decide)
      apply refuses_map
      · intro row
        simp only [hkept]
      · intro row c hc
        rw [List.mem_singleton.mp hc]
        exact hkept row
  | identityAuditEvent => rw [show rows.map IdentityTable.identityAuditEvent.backfill = rows from
      List.map_id' rows]
  | accountLinkRecovery => simp [IdentityTable.additiveIndexes] at h
  | providerLogoutContinuation => simp [IdentityTable.additiveIndexes] at h
  | auditRetentionState => simp [IdentityTable.additiveIndexes] at h
  | externalIdentity =>
    simp only [IdentityTable.additiveIndexes,List.mem_cons,List.not_mem_nil,or_false] at h
    rcases h with rfl | rfl | rfl | rfl <;> rfl
  | deviceSession =>
    simp only [IdentityTable.additiveIndexes,List.mem_cons,List.not_mem_nil,or_false] at h
    rcases h with rfl | rfl | rfl <;> rfl
  | loginTransaction =>
    simp only [IdentityTable.additiveIndexes,List.mem_cons,List.not_mem_nil,or_false] at h
    rcases h with rfl | rfl <;> rfl
  | workspaceAuditLog =>
    simp only [IdentityTable.additiveIndexes,List.mem_cons,List.not_mem_nil,or_false] at h
    rcases h with rfl | rfl <;> rfl
  | secretAccessAuditLog =>
    simp only [IdentityTable.additiveIndexes,List.mem_cons,List.not_mem_nil,or_false] at h
    rcases h with rfl | rfl <;> rfl

end indexes

section agreement

def SameContent (db db' : Database) : Prop :=
  ∀ t, (db t).map (fun table => (table.columns,table.rows)) =
    (db' t).map fun table => (table.columns,table.rows)

structure MigrationAgrees (db : Database) : Prop where
  planned : ∀ db', upgradeIdentityAdditiveColumns db = .ok db' →
    planIdentitySchemaMigration (createAll db') = []
  again : ∀ db', upgradeIdentityAdditiveColumns db = .ok db' →
    ∃ db'', upgradeIdentityAdditiveColumns (createAll db') = .ok db'' ∧
      SameContent (createAll db'') (createAll db')
  idle : planIdentitySchemaMigration db = [] → SameContent db.migrated db

def Database.Every (db : Database) (P : ∀ t, Table t → Prop) : Prop :=
  ∀ t table, db t = some table → P t table

def IdentityTable.audits (t : IdentityTable) : Bool :=
  t = .workspaceAuditLog || t = .secretAccessAuditLog

structure UpToDate (db : Database) : Prop where
  tables : ∀ t ∈ identitySchemaTables, db.has t
  columns : db.Every fun _ table => table.Complete
  correlated : db.Every fun t table => t.audits →
    ∀ row ∈ table.rows, ¬ isMissing (row.values "correlation_id")

def Indexable (db : Database) : Prop :=
  db.Every fun _ table => ∀ spec ∈ table.missingIndexes, ¬ spec.refuses table.rows

def Settled (db : Database) : Prop :=
  db.Every fun t table => ∀ row ∈ table.rows, t.Settled row

theorem any_lacksAdditive_iff {t : IdentityTable} {found : Option (Table t)} :
    found.any Table.lacksAdditive = false ↔ ∀ table, found = some table → table.Complete := by
  cases found with
  | none => simp
  | some table => simp [lacksAdditive_false_iff]

theorem correlationPending_false_iff {t : IdentityTable} {table : Table t} :
    table.correlationPending = false ↔ table.Complete ∧
      ∀ row ∈ table.rows, ¬ isMissing (row.values "correlation_id") := by
  rw [Table.correlationPending,Bool.or_eq_false_iff,lacksAdditive_false_iff,List.any_eq_false]

theorem any_correlationPending_iff {t : IdentityTable} {found : Option (Table t)} :
    found.any Table.correlationPending = false ↔ ∀ table, found = some table →
      table.Complete ∧ ∀ row ∈ table.rows, ¬ isMissing (row.values "correlation_id") := by
  cases found with
  | none => simp
  | some table =>
    rw [Option.any_some,correlationPending_false_iff]
    simp

theorem ite_action_eq_nil {c : Bool} {action : String} :
    (if c then [action] else []) = [] ↔ c = false := by
  cases c <;> simp

theorem ite_nil_action_iff {c : Bool} {action : String} :
    (if c then [] else [action]) = [] ↔ c = true := by
  cases c <;> simp

theorem plan_eq_nil_iff {db : Database} :
    planIdentitySchemaMigration db = [] ↔ UpToDate db := by
  constructor
  · intro h
    simp only [planIdentitySchemaMigration,List.append_eq_nil_iff,ite_action_eq_nil,
      ite_nil_action_iff,Bool.or_eq_false_iff,any_lacksAdditive_iff,any_correlationPending_iff] at h
    obtain ⟨⟨⟨horganization,htables⟩,⟨⟨hidentity,hsession⟩,hlogin⟩,haudit⟩,hworkspace,hsecret⟩ := h
    refine ⟨?_,?_,?_⟩
    · exact List.all_eq_true.mp htables
    · intro t table ht
      cases t with
      | organization => exact horganization table ht
      | externalIdentity => exact hidentity table ht
      | deviceSession => exact hsession table ht
      | loginTransaction => exact hlogin table ht
      | identityAuditEvent => exact haudit table ht
      | workspaceAuditLog => exact (hworkspace table ht).1
      | secretAccessAuditLog => exact (hsecret table ht).1
      | _ => intro column hc; simp [IdentityTable.additiveColumns] at hc
    · intro t table ht ha
      cases t with
      | workspaceAuditLog => exact (hworkspace table ht).2
      | secretAccessAuditLog => exact (hsecret table ht).2
      | _ => exact absurd ha (by decide)
  · intro h
    simp only [planIdentitySchemaMigration,List.append_eq_nil_iff,ite_action_eq_nil,
      ite_nil_action_iff,Bool.or_eq_false_iff,any_lacksAdditive_iff,any_correlationPending_iff]
    have hcolumns (t : IdentityTable) := h.columns t
    have haudit (t : IdentityTable) (ha : t.audits) (table : Table t) (ht : db t = some table) :=
      And.intro (h.columns t table ht) (h.correlated t table ht ha)
    exact ⟨⟨⟨hcolumns _,List.all_eq_true.mpr h.tables⟩,⟨⟨hcolumns _,hcolumns _⟩,hcolumns _⟩,
      hcolumns _⟩,haudit _ rfl,haudit _ rfl⟩

section upgrade

variable {db db' : Database}

theorem mem_identityTables (t : IdentityTable) : t ∈ identityTables := by
  cases t <;> decide

theorem bind_refusedIndex_eq_none_iff {t : IdentityTable} {found : Option (Table t)} :
    found.bind Table.refusedIndex = none ↔
      ∀ table, found = some table → ∀ spec ∈ table.missingIndexes, ¬ spec.refuses table.rows := by
  cases found with
  | none => simp
  | some table => simp [Table.refusedIndex,List.find?_eq_none]

theorem upgrade_eq_ok_iff : upgradeIdentityAdditiveColumns db = .ok db' ↔
    Indexable db.prepared ∧ db' = fun t => (db.prepared t).map Table.indexed := by
  have hnone : (identityTables.findSome? fun t => (db.prepared t).bind Table.refusedIndex) = none ↔
      Indexable db.prepared := by
    rw [List.findSome?_eq_none_iff]
    constructor
    · intro h t
      exact bind_refusedIndex_eq_none_iff.mp (h t (mem_identityTables t))
    · intro h t _
      exact bind_refusedIndex_eq_none_iff.mpr (h t)
  rw [← hnone,upgradeIdentityAdditiveColumns]
  split
  · next hs => simp [hs]
  · next hs => simp [hs,eq_comm]

-- What a finished upgrade leaves of a table.
structure Table.Upgraded {t : IdentityTable} (table : Table t) : Prop where
  complete : table.Complete
  settled : ∀ row ∈ table.rows, t.Settled row
  indexes : table.missingIndexes = []

theorem settled_backfilled {t : IdentityTable} (table : Table t) :
    ∀ row ∈ table.backfilled.rows, t.Settled row := by
  intro row hr
  obtain ⟨old,_,rfl⟩ := List.mem_map.mp hr
  exact settled_backfill t old

theorem upgraded_of_ok (h : upgradeIdentityAdditiveColumns db = .ok db') :
    db'.Every fun _ table => table.Upgraded := by
  obtain ⟨_,rfl⟩ := upgrade_eq_ok_iff.mp h
  intro t table ht
  obtain ⟨prepared,hp,rfl⟩ := Option.map_eq_some_iff.mp ht
  obtain ⟨stored,_,rfl⟩ := Option.map_eq_some_iff.mp hp
  exact ⟨complete_addColumns stored,settled_backfilled stored.addColumns,missingIndexes_indexed⟩

theorem upgraded_created (t : IdentityTable) : (Table.created t).Upgraded := by
  refine ⟨complete_created,?_,missingIndexes_created⟩
  intro row hr
  cases hr

theorem upgraded_createAll (h : db.Every fun _ table => table.Upgraded) :
    (createAll db).Every fun _ table => table.Upgraded := by
  intro t table ht
  have htable := Option.some.inj ht
  cases hfound : db t with
  | none =>
    rw [hfound] at htable
    exact htable ▸ upgraded_created t
  | some stored =>
    rw [hfound] at htable
    exact htable ▸ h t stored hfound

theorem backfilled_settled {t : IdentityTable} {table : Table t}
    (h : ∀ row ∈ table.rows, t.Settled row) : table.backfilled = table := by
  have hrows : table.rows.map t.backfill = table.rows.map id := by
    apply List.map_congr_left
    intro row hr
    exact (backfill_eq_self_iff t row).mpr (h row hr)
  rw [List.map_id] at hrows
  simp only [Table.backfilled,hrows]

theorem prepared_eq_self (hc : db.Every fun _ table => table.Complete) (hs : Settled db) :
    db.prepared = db := by
  funext t
  cases hfound : db t with
  | none => simp [Database.prepared,hfound]
  | some table =>
    simp only [Database.prepared,hfound,Option.map_some,addColumns_complete (hc t table hfound),
      backfilled_settled (hs t table hfound)]

theorem upgrade_upgraded (h : db.Every fun _ table => table.Upgraded) :
    upgradeIdentityAdditiveColumns db = .ok db := by
  have hprepared : db.prepared = db :=
    prepared_eq_self (fun t table ht => (h t table ht).complete)
      (fun t table ht => (h t table ht).settled)
  rw [upgrade_eq_ok_iff,hprepared]
  constructor
  · intro t table ht spec hs
    rw [(h t table ht).indexes] at hs
    cases hs
  · funext t
    cases hfound : db t with
    | none => rfl
    | some table =>
      simp only [Option.map_some,indexed_of_none_missing (h t table hfound).indexes]

theorem upToDate_createAll (h : db.Every fun _ table => table.Upgraded) :
    UpToDate (createAll db) := by
  have hall := upgraded_createAll h
  refine ⟨fun _ _ => rfl,fun t table ht => (hall t table ht).complete,?_⟩
  intro t table ht ha row hr
  have hsettled := (hall t table ht).settled row hr
  cases t with
  | workspaceAuditLog => exact hsettled
  | secretAccessAuditLog => exact hsettled
  | _ => exact absurd ha (by decide)

theorem indexable_backfilled_iff {t : IdentityTable} (table : Table t) :
    (∀ spec ∈ table.backfilled.missingIndexes, ¬ spec.refuses table.backfilled.rows) ↔
      ∀ spec ∈ table.missingIndexes, ¬ spec.refuses table.rows := by
  constructor
  · intro h spec hs
    rw [← refuses_backfill (List.mem_of_mem_filter hs)]
    exact h spec hs
  · intro h spec hs hr
    apply h spec hs
    rw [← refuses_backfill (List.mem_of_mem_filter hs)]
    exact hr

theorem indexable_prepared_iff (hc : db.Every fun _ table => table.Complete) :
    Indexable db.prepared ↔ Indexable db := by
  constructor
  · intro h t table ht
    have hprepared : db.prepared t = some table.backfilled := by
      simp only [Database.prepared,ht,Option.map_some,addColumns_complete (hc t table ht)]
    exact (indexable_backfilled_iff table).mp (h t _ hprepared)
  · intro h t prepared hp
    obtain ⟨table,ht,rfl⟩ := Option.map_eq_some_iff.mp hp
    simp only [addColumns_complete (hc t table ht)]
    exact (indexable_backfilled_iff table).mpr (h t table ht)

end upgrade

theorem migration_agrees_iff (db : Database) :
    MigrationAgrees db ↔ (UpToDate db → Indexable db → Settled db) := by
  constructor
  · intro h hu hi t table ht row hr
    have hok := upgrade_eq_ok_iff.mpr ⟨(indexable_prepared_iff hu.columns).mpr hi,rfl⟩
    have hsame := h.idle (plan_eq_nil_iff.mpr hu) t
    simp only [Database.migrated,hok,Database.prepared,ht,Option.map_some,Option.some.injEq,
      addColumns_complete (hu.columns t table ht)] at hsame
    have hrows : table.rows.map t.backfill = table.rows.map id :=
      (Prod.mk.inj hsame).2.trans (List.map_id _).symm
    exact (backfill_eq_self_iff t row).mp (List.map_inj_left.mp hrows row hr)
  · intro h
    refine ⟨?_,?_,?_⟩
    · intro db' hok
      exact plan_eq_nil_iff.mpr (upToDate_createAll (upgraded_of_ok hok))
    · intro db' hok
      have hagain := upgrade_upgraded (upgraded_createAll (upgraded_of_ok hok))
      exact ⟨_,hagain,fun _ => rfl⟩
    · intro hp
      have hu := plan_eq_nil_iff.mp hp
      rw [Database.migrated]
      split
      · next db' hok =>
        obtain ⟨hi,rfl⟩ := upgrade_eq_ok_iff.mp hok
        have hs := h hu ((indexable_prepared_iff hu.columns).mp hi)
        rw [prepared_eq_self hu.columns hs]
        intro t
        rw [Option.map_map]
        rfl
      · exact fun _ => rfl

-- An upgrade stopped after its last added column and before its first update leaves this row.
def interruptedSession : Row where
  id := "session_1"
  values := fun column =>
    if column ∈ IdentityTable.deviceSession.baseColumns then some "2026-07-01 09:00:00" else none

def interruptedUpgrade : Database :=
  fun t => some { Table.created t with
    rows := if t = .deviceSession then [interruptedSession] else [] }

theorem interrupted_upgrade_unplanned : ¬ MigrationAgrees interruptedUpgrade := by
  intro h
  have hplan : planIdentitySchemaMigration interruptedUpgrade = [] := by decide +kernel
  have hkept := h.idle hplan .deviceSession
  have hvalue := congrArg (fun found : Option (List String × List Row) =>
    found.map fun content => content.2.map fun row => row.values "secret_rotated_at") hkept
  revert hvalue
  decide +kernel

end agreement

end AiScdc.IdentitySchema
