import ReportDesk.Proofs.Database.Action
import ReportDesk.Proofs.Report.Compiled
import ReportDesk.Proofs.Text.Trimming
import ReportDesk.Database.Prepared
import ReportDesk.Report.Validation

/-! # Compiled reports and the catalog

    What a successful validation says about the query a report compiles to. Validation looks names
    up without the blanks around them and passes over references with a blank part, while a query
    names things as its report does. So a query fits the catalog up to blanks around its names, and
    as far as its references have no blank part; an exact statement would be false.
-/

namespace ReportDesk

namespace Sql

/-! ### The columns of a query -/

mutual

/-- The columns in an expression, each with the table before it. -/
def Expr.columns : Expr → List (TableName × String)
  | .column (some table) name => [(table, name)]
  | .column none _ => []
  | .star _ => []
  | .string _ => []
  | .verbatim _ => []
  | .binary left _ right => left.columns ++ right.columns
  | .call _ arguments => columnsOfEach arguments
  | .like subject pattern => subject.columns ++ pattern.columns
  | .oneOf subject values => subject.columns ++ columnsOfEach values
  | .between subject low high => subject.columns ++ low.columns ++ high.columns
  | .isNull subject _ => subject.columns

/-- The columns in each expression of a list. -/
def Expr.columnsOfEach : List Expr → List (TableName × String)
  | [] => []
  | expr :: rest => expr.columns ++ columnsOfEach rest

end

/-- All columns in a query, clause by clause. -/
def Query.columns (query : Query) : List (TableName × String) :=
  query.select.flatMap (fun item => item.expr.columns) ++
    query.joins.flatMap (fun join => join.condition.columns) ++
    (match query.condition with
      | some condition => condition.columns
      | none => []) ++
    query.grouping.flatMap Expr.columns ++
    query.ordering.flatMap fun item => item.expr.columns

/-! ### Names of tables -/

/-- A table's name is written as it was read. -/
theorem TableName.text_parse (text : String) : (TableName.parse text).text = text := by
  unfold parse
  split
  · next c schema d table hcut =>
    have hcs := (Text.cutAt_eq_some_iff.mp hcut).1
    rw [← String.toList_inj]
    simp [TableName.text, hcs]
  · rfl

end Sql

namespace Report

open Sql (Expr Query TableName)

/-! ### References -/

theorem eqFolded_iff {a b : String} :
    Text.eqFolded a b = true ↔ Text.foldAscii a = Text.foldAscii b := by
  simp [Text.eqFolded]

namespace Configuration

/-- Leaving out repeats loses nothing but what repeats something that stays. -/
theorem exists_mem_withoutRepeats {α : Type} (same : α → α → Bool) (hrefl : ∀ a, same a a = true)
    (seen as : List α) :
    ∀ a ∈ as, ∃ b, (b ∈ seen ∨ b ∈ withoutRepeats same seen as) ∧ same a b = true := by
  induction as generalizing seen with
  | nil => simp
  | cons first rest ih =>
    intro a ha
    simp only [withoutRepeats]
    split
    · next hseen =>
      rcases List.mem_cons.mp ha with rfl | ha
      · obtain ⟨b, hb, hsame⟩ := List.any_eq_true.mp hseen
        exact ⟨b, .inl hb, hsame⟩
      · exact ih seen a ha
    · rcases List.mem_cons.mp ha with rfl | ha
      · exact ⟨a, .inr (by simp), hrefl a⟩
      · obtain ⟨b, hb, hsame⟩ := ih (first :: seen) a ha
        refine ⟨b, ?_, hsame⟩
        rcases hb with hb | hb
        · rcases List.mem_cons.mp hb with rfl | hb
          · exact .inr (by simp)
          · exact .inl hb
        · exact .inr (by simp [hb])

theorem withoutRepeats_eq {α : Type} (same : α → α → Bool) (as : List α) :
    withoutRepeats same [] as = as.eraseDupsBy same := by
  have hloop : ∀ seen, List.eraseDupsBy.loop same as seen =
      seen.reverse ++ withoutRepeats same seen as := by
    induction as with
    | nil => simp [List.eraseDupsBy.loop, withoutRepeats]
    | cons a rest ih =>
      intro seen
      rw [List.eraseDupsBy.loop, withoutRepeats]
      cases hseen : seen.any (same a) with
      | true => simp [ih]
      | false => simp [ih]
  rw [List.eraseDupsBy, hloop]
  rfl

/-- The pairs that are looked up are those of the report without the blanks around them, as far as
    no part is blank, each once. -/
theorem referencedColumns_eq (config : Configuration) :
    config.referencedColumns =
      ((config.mentions.map fun pair => (Text.trim pair.1, Text.trim pair.2)).filter
        fun pair => pair.1 ≠ "" ∧ pair.2 ≠ "").eraseDups := by
  have hnamed : ∀ pair : String × String,
      (!pair.1.isEmpty && !pair.2.isEmpty) = decide (pair.1 ≠ "" ∧ pair.2 ≠ "") := by
    intro pair
    rw [Bool.eq_iff_iff]
    simp
  simp only [← hnamed]
  exact withoutRepeats_eq _ _

/-- The tables that are looked up are those of the report and then those of its pairs, as far as
    they are not blank, one of any that agree up to case. -/
theorem referencedTables_eq (config : Configuration) :
    config.referencedTables =
      ((config.tables.map Text.trim ++ config.referencedColumns.map (·.1)).filter
        (· ≠ "")).eraseDupsBy Text.eqFolded := by
  have hnamed : ∀ name : String, (!name.isEmpty) = decide (name ≠ "") := by
    intro name
    rw [Bool.eq_iff_iff]
    simp
  simp only [← hnamed]
  exact withoutRepeats_eq _ _

variable {config : Configuration}

/-- A mention without a blank part is looked up, without the blanks around it. -/
theorem mem_referencedColumns {table column : String} (h : (table, column) ∈ config.mentions)
    (htable : Text.trim table ≠ "") (hcolumn : Text.trim column ≠ "") :
    (Text.trim table, Text.trim column) ∈ config.referencedColumns := by
  rw [referencedColumns_eq, List.mem_eraseDups]
  exact List.mem_filter.mpr ⟨List.mem_map.mpr ⟨_, h, rfl⟩, by simp [htable, hcolumn]⟩

/-- A table that a report names is looked up by that name or one that differs only in case. -/
theorem exists_mem_referencedTables {name : String} (hne : name ≠ "")
    (h : name ∈ config.tables.map Text.trim ++ config.referencedColumns.map (·.1)) :
    ∃ other ∈ config.referencedTables, Text.eqFolded name other = true := by
  have hmem : name ∈ (config.tables.map Text.trim ++ config.referencedColumns.map (·.1)).filter
      fun name => !name.isEmpty := List.mem_filter.mpr ⟨h, by simp [hne]⟩
  obtain ⟨other, hother, hsame⟩ :=
    exists_mem_withoutRepeats Text.eqFolded (by simp [eqFolded_iff]) [] _ _ hmem
  exact ⟨other, by simpa [referencedTables] using hother, hsame⟩

end Configuration

/-! ### Entries of a catalog -/

/-- Whether a table name can stand for an entry of a catalog: it is the entry, or what follows the
    first dot of it, up to ASCII case. -/
def StandsFor (name entry : String) : Prop :=
  Text.eqFolded entry name = true ∨ namesPart name entry = true

/-- A name that differs only in case stands for the same entries. -/
theorem StandsFor.congr {name other entry : String} (h : StandsFor name entry)
    (hsame : Text.eqFolded name other = true) : StandsFor other entry := by
  rcases h with h | h
  · exact .inl (eqFolded_iff.mpr ((eqFolded_iff.mp h).trans (eqFolded_iff.mp hsame)))
  · refine .inr ?_
    unfold namesPart at h ⊢
    split at h
    · exact eqFolded_iff.mpr ((eqFolded_iff.mp h).trans (eqFolded_iff.mp hsame))
    · cases h

theorem resolve_eq_some {catalog : List String} {name entry : String}
    (h : resolve catalog name = some entry) : entry ∈ catalog ∧ StandsFor name entry := by
  unfold resolve at h
  split at h
  · next hfind =>
    cases h
    have hsame : Text.eqFolded entry name = true :=
      List.find?_some (p := fun entry => Text.eqFolded entry name) hfind
    exact ⟨List.mem_of_find?_eq_some hfind, .inl hsame⟩
  · exact ⟨List.mem_of_find?_eq_some h, .inr (List.find?_some h)⟩

/-- The entry that a table name stands for, if there is one. -/
def entryOf (names : List String) (name : String) : Except ValidationError String :=
  match resolve names name with
  | some entry => .ok entry
  | none => .error (.unknownTable name)

theorem resolveAll_eq_mapM (names tables : List String) :
    resolveAll names tables = tables.mapM (entryOf names) := by
  induction tables with
  | nil => rfl
  | cons table rest ih =>
    rw [List.mapM_cons, ← ih, resolveAll, entryOf]
    cases resolve names table with
    | none => rfl
    | some entry => cases resolveAll names rest <;> rfl

/-- All names are found, each with its entry. -/
theorem resolveAll_eq_ok {catalog names entries : List String}
    (h : resolveAll catalog names = .ok entries) :
    names.map (resolve catalog) = entries.map some := by
  rw [resolveAll_eq_mapM] at h
  refine (Outcome.map_eq_map_of_mapM (fun name entry hentry => ?_) h).symm
  unfold entryOf at hentry
  split at hentry
  · next found hfound =>
    cases hentry
    exact hfound.symm
  · cases hentry

/-- What an index says of a name comes from the entry that the name stands for. -/
theorem exists_of_mem_indexOf {catalog names entries : List String} {index : ColumnIndex}
    {columnsOf : String → Except DatabaseError (List Column)}
    (hentries : names.map (resolve catalog) = entries.map some)
    (hindex : indexOf names (entries.map columnsOf) = .ok index) :
    ∀ pair ∈ index, ∃ entry columns, resolve catalog pair.1 = some entry ∧
      columnsOf entry = .ok columns ∧ pair.2 = columns.map (·.name) := by
  induction names generalizing entries index with
  | nil =>
    cases hindex
    simp
  | cons name names ih =>
    cases entries with
    | nil => simp at hentries
    | cons entry entries =>
      obtain ⟨hentry, hentries⟩ : resolve catalog name = some entry ∧
          names.map (resolve catalog) = entries.map some := by simpa using hentries
      simp only [List.map_cons, indexOf] at hindex
      split at hindex
      · cases hindex
      · next columns hcolumns =>
        obtain ⟨others, hothers, rfl⟩ := Outcome.map_eq_ok hindex
        intro pair hpair
        rcases List.mem_cons.mp hpair with rfl | hpair
        · exact ⟨entry, columns, hentry, hcolumns, rfl⟩
        · exact ih hentries hothers pair hpair

/-- Looks up one column. -/
def ColumnIndex.check (index : ColumnIndex) (pair : String × String) :
    Except ValidationError Unit :=
  if index.has pair.1 pair.2 then .ok () else .error (.unknownColumn pair.1 pair.2)

theorem ColumnIndex.exists_check_eq_ok_iff {index : ColumnIndex} {pair : String × String} :
    (∃ found, index.check pair = .ok found) ↔ index.has pair.1 pair.2 = true := by
  rw [check]
  cases index.has pair.1 pair.2 <;> simp

theorem checkColumns_eq_mapM (index : ColumnIndex) (pairs : List (String × String)) :
    checkColumns index pairs = (pairs.mapM index.check).map fun _ => () := by
  induction pairs with
  | nil => rfl
  | cons pair rest ih =>
    rw [List.mapM_cons, checkColumns, ih, ColumnIndex.check]
    cases index.has pair.1 pair.2 with
    | false => rfl
    | true =>
      simp only [if_true]
      cases rest.mapM index.check <;> rfl

/-- All columns are found just when each of them is. -/
theorem checkColumns_eq_ok_iff {index : ColumnIndex} {pairs : List (String × String)} :
    checkColumns index pairs = .ok () ↔ ∀ pair ∈ pairs, index.has pair.1 pair.2 = true := by
  have hfound : (∃ found, pairs.mapM index.check = .ok found) ↔
      ∀ pair ∈ pairs, index.has pair.1 pair.2 = true := by
    simp only [Outcome.exists_mapM_eq_ok_iff, ColumnIndex.exists_check_eq_ok_iff]
  rw [checkColumns_eq_mapM, ← hfound]
  cases pairs.mapM index.check <;> simp [Except.map]

end Report

/-! ### Catalogs -/

namespace Prepared

variable (prepared : Prepared)

/-- A table name stands for a table that is listed. -/
def HasTable (table : String) : Prop :=
  ∃ catalog, prepared.tables = .ok catalog ∧ ∃ entry ∈ catalog, Report.StandsFor table entry

/-- A table name stands for a table that is listed and has a column of that name, up to ASCII
    case. -/
def HasColumn (table column : String) : Prop :=
  ∃ catalog, prepared.tables = .ok catalog ∧ ∃ entry ∈ catalog, Report.StandsFor table entry ∧
    ∃ columns, prepared.columnsOf entry = .ok columns ∧
      ∃ c ∈ columns, Text.eqFolded c.name column = true

variable {prepared}

theorem HasColumn.hasTable {table column : String} (h : prepared.HasColumn table column) :
    prepared.HasTable table := by
  obtain ⟨catalog, hcatalog, entry, hentry, hstands, -⟩ := h
  exact ⟨catalog, hcatalog, entry, hentry, hstands⟩

end Prepared

namespace Report

open Sql (Expr Query TableName)

namespace Configuration

/-- Validation is a matter of the answers of the database: its tables, and after that the columns
    of the entries that the tables of the report stand for. -/
theorem validate_fst {σ : Type} (config : Configuration) (db : Database σ) (session : Session σ) :
    (config.validate db session).1 =
      if config.referencedTables.isEmpty then .ok ()
      else (do
        let catalog ← (db.listTables session.state).1.mapError .catalog
        let entries ← resolveAll catalog config.referencedTables
        let index ← indexOf config.referencedTables
          (db.listColumns entries (db.listTables session.state).2).1
        checkColumns index config.referencedColumns) := by
  unfold validate
  split
  · rfl
  · have htables : db.tables session = ((db.listTables session.state).1,
        { state := (db.listTables session.state).2, calls := session.calls ++ [.listTables] }) :=
      rfl
    simp only [Action.bind_apply, Action.adapt_apply, htables, Action.liftExcept_apply,
      Action.liftState_apply]
    -- from here on both sides fail at the same step, or go on with the same answer
    cases (db.listTables session.state).1 with
    | error e => rfl
    | ok catalog =>
      simp only [Except.mapError, bind, Except.bind]
      cases resolveAll catalog config.referencedTables with
      | error e => rfl
      | ok entries =>
        simp only [Database.columnsOf]
        cases indexOf config.referencedTables
          (db.listColumns entries (db.listTables session.state).2).1 <;> rfl

variable {config : Configuration} {prepared : Prepared} {session : Session (List Run)}

/-- Against prepared answers, validation is a matter of the catalog and the columns of the entries
    in it. -/
theorem validate_eq (config : Configuration) (prepared : Prepared) (session : Session (List Run)) :
    (config.validate prepared.database session).1 =
      if config.referencedTables.isEmpty then .ok ()
      else (do
        let catalog ← prepared.tables.mapError .catalog
        let entries ← resolveAll catalog config.referencedTables
        let index ← indexOf config.referencedTables (entries.map prepared.columnsOf)
        checkColumns index config.referencedColumns) :=
  config.validate_fst prepared.database session

/-- What a validation that succeeds has found. -/
theorem of_validate_eq_ok (h : (config.validate prepared.database session).1 = .ok ())
    (hne : config.referencedTables ≠ []) :
    ∃ catalog entries index, prepared.tables = .ok catalog ∧
      resolveAll catalog config.referencedTables = .ok entries ∧
      indexOf config.referencedTables (entries.map prepared.columnsOf) = .ok index ∧
      checkColumns index config.referencedColumns = .ok () := by
  rw [validate_eq, if_neg (by simpa using hne)] at h
  obtain ⟨catalog, hcatalog, h⟩ := Outcome.bind_eq_ok h
  obtain ⟨entries, hentries, h⟩ := Outcome.bind_eq_ok h
  obtain ⟨index, hindex, hcheck⟩ := Outcome.bind_eq_ok h
  refine ⟨catalog, entries, index, ?_, hentries, hindex, hcheck⟩
  cases htables : prepared.tables with
  | error e => simp [htables, Except.mapError] at hcatalog
  | ok names => simpa [htables, Except.mapError] using hcatalog

/-- A table that is looked up is there. -/
theorem hasTable_of_mem (h : (config.validate prepared.database session).1 = .ok ())
    {table : String} (hmem : table ∈ config.referencedTables) : prepared.HasTable table := by
  obtain ⟨catalog, entries, -, hcatalog, hentries, -, -⟩ :=
    of_validate_eq_ok h (List.ne_nil_of_mem hmem)
  have hresolved : resolve catalog table ∈ entries.map some := by
    rw [← resolveAll_eq_ok hentries]
    exact List.mem_map_of_mem hmem
  obtain ⟨entry, -, hentry⟩ := List.mem_map.mp hresolved
  exact ⟨catalog, hcatalog, entry, resolve_eq_some hentry.symm⟩

/-- A column that is looked up is there. -/
theorem hasColumn_of_mem (h : (config.validate prepared.database session).1 = .ok ())
    {table column : String} (hmem : (table, column) ∈ config.referencedColumns)
    (htable : table ≠ "") : prepared.HasColumn table column := by
  have hnamed : table ∈ config.tables.map Text.trim ++ config.referencedColumns.map (·.1) :=
    List.mem_append_right _ (List.mem_map.mpr ⟨_, hmem, rfl⟩)
  obtain ⟨other, hother, -⟩ := exists_mem_referencedTables htable hnamed
  obtain ⟨catalog, entries, index, hcatalog, hentries, hindex, hcheck⟩ :=
    of_validate_eq_ok h (List.ne_nil_of_mem hother)
  have hhas : index.has table column = true := checkColumns_eq_ok_iff.mp hcheck _ hmem
  unfold ColumnIndex.has at hhas
  split at hhas
  · next name columns hfind =>
    obtain ⟨entry, listed, hentry, hlisted, hcolumns⟩ :=
      exists_of_mem_indexOf (resolveAll_eq_ok hentries) hindex _ (List.mem_of_find?_eq_some hfind)
    -- the index has the column under a name that may differ in case from the one in the report
    have hname : Text.eqFolded name table = true :=
      List.find?_some (p := fun pair : String × List String => Text.eqFolded pair.1 table) hfind
    obtain ⟨hin, hstands⟩ := resolve_eq_some hentry
    obtain rfl : columns = listed.map (·.name) := hcolumns
    obtain ⟨c, hc, hsame⟩ : ∃ c ∈ listed, Text.eqFolded c.name column = true := by
      simpa using hhas
    exact ⟨catalog, hcatalog, entry, hin, hstands.congr hname, listed, hlisted, c, hc, hsame⟩
  · cases hhas

/-! ### The query of a validated report -/

/-- A predicate has no column but its subject. -/
theorem columns_predicate {strict : Bool} {subject p : Expr} (h : IsPredicate strict subject p) :
    p.columns = subject.columns := by
  have hliteral : ∀ {e : Expr}, IsLiteral strict e → e.columns = [] := by
    intro e he
    cases he <;> rfl
  cases h with
  | compare hop hvalue => simp [Expr.columns, hliteral hvalue]
  | like pattern => simp [Expr.columns]
  | @oneOf values hne hvalues =>
    have hnone : Expr.columnsOfEach values = [] := by
      clear hne
      induction values with
      | nil => rfl
      | cons value rest ih =>
        simp [Expr.columnsOfEach, hliteral (hvalues value (by simp)),
          ih fun v hv => hvalues v (by simp [hv])]
    simp [Expr.columns, hnone]
  | between hlow hhigh => simp [Expr.columns, hliteral hlow, hliteral hhigh]
  | isNull negated => rfl

theorem columns_foldl_and (predicates : List Expr) (first : Expr) :
    (predicates.foldl Expr.and first).columns =
      first.columns ++ predicates.flatMap Expr.columns := by
  induction predicates generalizing first with
  | nil => simp
  | cons second rest ih => simp [ih, Expr.and, Expr.columns]

theorem mem_columns_columnOf {table column : String} {name : TableName × String}
    (h : name ∈ (columnOf table column).columns) : (name.1.text, name.2) = (table, column) := by
  obtain rfl : name = (TableName.parse table, column) := by simpa [columnOf, Expr.columns] using h
  simp [TableName.text_parse]

theorem exists_of_mem_columns_predicates {strict : Bool} {predicates : List Expr}
    (hpredicates : config.predicates strict = .ok predicates) {name : TableName × String}
    (h : name ∈ predicates.flatMap Expr.columns) :
    ∃ filter ∈ config.activeFilters, (name.1.text, name.2) = (filter.table, filter.column) := by
  obtain ⟨p, hp, hmem⟩ := List.mem_flatMap.mp h
  obtain ⟨filter, hfilter, hshape⟩ := exists_of_mem_predicates hpredicates p hp
  rw [columns_predicate hshape] at hmem
  exact ⟨filter, hfilter, mem_columns_columnOf hmem⟩

/-- Every column in a query is mentioned by its report, in the same words. -/
theorem mem_mentions {strict : Bool} {query : Query} (hquery : config.query strict = .ok query)
    {name : TableName × String} (hmem : name ∈ query.columns) :
    (name.1.text, name.2) ∈ config.mentions := by
  obtain ⟨primary, predicates, -, hpredicates, rfl⟩ := query_eq_ok_iff.mp hquery
  have hcondition : (match conjunction predicates with
      | some condition => condition.columns
      | none => []) = predicates.flatMap Expr.columns := by
    cases predicates with
    | nil => rfl
    | cons first rest => simp [conjunction, columns_foldl_and]
  simp only [Query.columns, compiled, List.mem_append] at hmem
  simp only [mentions, List.mem_append]
  -- a query has its clauses in the order in which a report mentions its columns
  rcases hmem with (((hselect | hjoins) | hwhere) | hgroup) | horder
  · refine .inl (.inl (.inl (.inl ?_)))
    obtain ⟨item, hitem, hmem⟩ := List.mem_flatMap.mp hselect
    obtain rfl | ⟨field, hfield, rfl⟩ := mem_selectList hitem
    · simp [Expr.columns] at hmem
    · have hcolumn : name ∈ (columnOf field.table field.column).columns := by
        cases haggregate : field.aggregate <;>
          simpa [Field.selectItem, haggregate, Expr.columns, Expr.columnsOfEach] using hmem
      rw [mem_columns_columnOf hcolumn]
      exact List.mem_map_of_mem hfield
  · refine .inl (.inl (.inl (.inr ?_)))
    obtain ⟨join, hjoin, hmem⟩ := List.mem_flatMap.mp hjoins
    obtain ⟨link, hlink, rfl⟩ := List.mem_map.mp hjoin
    refine List.mem_flatMap.mpr ⟨link, hlink, ?_⟩
    simp only [Link.join, Expr.columns, List.mem_append] at hmem
    rcases hmem with hleft | hright
    · simp [mem_columns_columnOf hleft]
    · simp [mem_columns_columnOf hright]
  · refine .inl (.inl (.inr ?_))
    rw [hcondition] at hwhere
    obtain ⟨filter, hfilter, hname⟩ := exists_of_mem_columns_predicates hpredicates hwhere
    rw [hname]
    exact List.mem_map_of_mem hfilter
  · refine .inl (.inr ?_)
    obtain ⟨expr, hexpr, hmem⟩ := List.mem_flatMap.mp hgroup
    obtain ⟨key, hkey, rfl⟩ := List.mem_map.mp hexpr
    rw [mem_columns_columnOf hmem]
    exact List.mem_map_of_mem hkey
  · refine .inr ?_
    obtain ⟨item, hitem, hmem⟩ := List.mem_flatMap.mp horder
    obtain ⟨key, hkey, rfl⟩ := List.mem_map.mp hitem
    rw [mem_columns_columnOf hmem]
    exact List.mem_map_of_mem hkey

/-- The first table of a validated report is in the catalog. -/
theorem hasTable_primary {primary : String}
    (hvalid : (config.validate prepared.database session).1 = .ok ())
    (hprimary : config.primaryTable? = some primary) : prepared.HasTable primary := by
  obtain ⟨first, rest, htables, hfirst, rfl⟩ := primaryTable?_eq_some_iff.mp hprimary
  have hnamed : Text.trim first ∈
      config.tables.map Text.trim ++ config.referencedColumns.map (·.1) := by simp [htables]
  obtain ⟨other, hother, hsame⟩ := exists_mem_referencedTables (Text.trim_ne_empty hfirst) hnamed
  obtain ⟨catalog, hcatalog, entry, hentry, hstands⟩ := hasTable_of_mem hvalid hother
  -- the table was looked up under a name that may differ in case
  have hback : Text.eqFolded other (Text.trim first) = true :=
    eqFolded_iff.mpr (eqFolded_iff.mp hsame).symm
  exact ⟨catalog, hcatalog, entry, hentry, hstands.congr hback⟩

end Configuration

/-- A query whose names are those of a catalog, as far as validation sees to it. -/
structure FitsCatalog (prepared : Prepared) (query : Query) : Prop where
  /-- The first table is listed under the name it is written with. -/
  source : ∃ table, query.source = some table ∧ prepared.HasTable table.text
  /-- A star stands for the columns of the first table. -/
  star : ∀ item ∈ query.select, ∀ table, item.expr = .star table → table = query.source
  /-- A column that has a name, in a table that has a name, is there; blanks around the names are
      not looked at. -/
  columns : ∀ name ∈ query.columns, Text.stripped name.1.text ≠ "" → Text.stripped name.2 ≠ "" →
    prepared.HasColumn (Text.stripped name.1.text) (Text.stripped name.2)
  /-- A joined table has the column on the right side of its own condition. If the two have names
      then the table is listed; blanks around the names are not looked at. -/
  joins : ∀ join ∈ query.joins, ∃ left column,
    join.condition = .binary left .eq (.column (some join.table) column) ∧
    (join.table, column) ∈ query.columns ∧
    (Text.stripped join.table.text ≠ "" → Text.stripped column ≠ "" →
      prepared.HasTable (Text.stripped join.table.text))

/-- A report that passes validation compiles to a query that fits the catalog. -/
theorem Configuration.fitsCatalog {config : Configuration} {prepared : Prepared}
    {session : Session (List Run)} {strict : Bool} {query : Query}
    (hvalid : (config.validate prepared.database session).1 = .ok ())
    (hquery : config.query strict = .ok query) : FitsCatalog prepared query where
  source := by
    obtain ⟨primary, predicates, hprimary, -, rfl⟩ := query_eq_ok_iff.mp hquery
    refine ⟨TableName.parse primary, rfl, ?_⟩
    rw [TableName.text_parse]
    exact hasTable_primary hvalid hprimary
  star := by
    obtain ⟨primary, predicates, -, -, rfl⟩ := query_eq_ok_iff.mp hquery
    intro item hitem table hstar
    obtain rfl | ⟨field, -, rfl⟩ := mem_selectList hitem
    · cases hstar
      rfl
    · cases haggregate : field.aggregate <;>
        simp [Field.selectItem, haggregate, columnOf] at hstar
  columns := by
    rw [← Text.trim_eq_stripped]
    intro name hname htable hcolumn
    have hmention := mem_mentions hquery hname
    exact hasColumn_of_mem hvalid (mem_referencedColumns hmention htable hcolumn) htable
  joins := by
    rw [← Text.trim_eq_stripped]
    intro join hjoin
    have hjoined := hjoin
    obtain ⟨primary, predicates, -, -, hcompiled⟩ := query_eq_ok_iff.mp hquery
    rw [hcompiled] at hjoined
    obtain ⟨link, -, rfl⟩ := List.mem_map.mp hjoined
    have hcolumn : (TableName.parse link.rightTable, link.rightColumn) ∈ query.columns := by
      have hall : (TableName.parse link.rightTable, link.rightColumn) ∈
          query.joins.flatMap fun join => join.condition.columns :=
        List.mem_flatMap.mpr ⟨link.join, hjoin, by simp [Link.join, columnOf, Expr.columns]⟩
      simp only [Query.columns, List.mem_append]
      exact .inl (.inl (.inl (.inr hall)))
    refine ⟨_, link.rightColumn, rfl, hcolumn, fun htable hname => ?_⟩
    have hmention := mem_mentions hquery hcolumn
    exact (hasColumn_of_mem hvalid (mem_referencedColumns hmention htable hname) htable).hasTable

/-- A report with a blank before one name and nothing for another, and with a joined table whose
    column is blank. -/
def untidy : Configuration where
  tables := ["T"]
  fields := [{ table := " T", column := "x" }, { table := "T", column := "" }]
  joins :=
    [{ kind := .inner, leftTable := "T", leftColumn := "x", rightTable := "Nope"
       rightColumn := " " }]

/-- A catalog with one table that has one column. -/
def narrow : Prepared where
  tables := .ok ["T"]
  columns := [("T", .ok [{ name := "X", type := "varchar", nullable := true }])]

theorem hasTable_narrow_iff {table : String} : narrow.HasTable table ↔ StandsFor table "T" := by
  constructor
  · rintro ⟨catalog, hcatalog, entry, hentry, hstands⟩
    cases hcatalog
    rwa [List.mem_singleton.mp hentry] at hstands
  · exact fun hstands => ⟨["T"], rfl, "T", List.mem_singleton_self _, hstands⟩

theorem validate_untidy : (untidy.validate narrow.database { state := [] }).1 = .ok () := by
  have hcolumns : untidy.referencedColumns = [("T", "x")] := by cbv
  have htables : untidy.referencedTables = ["T"] := by
    rw [Configuration.referencedTables, hcolumns]
    cbv
  rw [Configuration.validate_eq, htables, hcolumns]
  cbv

theorem query_untidy : untidy.query false = .ok (untidy.compiled { table := "T" } []) :=
  Configuration.query_eq_ok_iff.mpr ⟨"T", [], rfl, rfl, rfl⟩

theorem fitsCatalog_untidy : FitsCatalog narrow (untidy.compiled { table := "T" } []) :=
  Configuration.fitsCatalog validate_untidy query_untidy

/-- Names with blanks around them, columns without a name, and a joined table with such a column
    pass validation and stand in the query as they are, though the catalog has none of them. -/
theorem not_exact_untidy :
    (untidy.validate narrow.database { state := [] }).1 = .ok () ∧
    ∃ query, untidy.query false = .ok query ∧
      ({ table := " T" }, "x") ∈ query.columns ∧ ¬ narrow.HasTable " T" ∧
      ({ table := "T" }, "") ∈ query.columns ∧ ¬ narrow.HasColumn "T" "" ∧
      ∃ join ∈ query.joins, join.table = { table := "Nope" } ∧ ¬ narrow.HasTable "Nope" := by
  refine ⟨validate_untidy, _, query_untidy, by decide, ?_, by decide, ?_, _,
    List.mem_singleton_self _, rfl, ?_⟩
  · have hequal : Text.eqFolded "T" " T" = false := by cbv
    have hpart : namesPart " T" "T" = false := by cbv
    simp [hasTable_narrow_iff, StandsFor, hequal, hpart]
  · rintro ⟨catalog, hcatalog, entry, hentry, -, columns, hcolumns, c, hc, hsame⟩
    cases hcatalog
    obtain rfl : entry = "T" := by simpa using hentry
    obtain rfl : [{ name := "X", type := "varchar", nullable := true }] = columns := by
      simpa [Prepared.columnsOf, narrow] using hcolumns
    obtain rfl : c = { name := "X", type := "varchar", nullable := true } := by simpa using hc
    have hequal : Text.eqFolded "X" "" = false := by cbv
    simp [hequal] at hsame
  · have hequal : Text.eqFolded "T" "Nope" = false := by cbv
    have hpart : namesPart "Nope" "T" = false := by cbv
    simp [hasTable_narrow_iff, StandsFor, hequal, hpart]

end Report

end ReportDesk
