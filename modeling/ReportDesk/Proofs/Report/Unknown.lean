import ReportDesk.Proofs.Report.Catalog
import ReportDesk.Proofs.Report.Filters

/-! # The first name that is not there

    What the validation of a report comes to when the database answers every question. A table name
    means one entry of the catalog, or none; the first table that means none is reported, and when
    there is no such table, the first column that the entry of its table does not have.

    The columns are kept under the names that the report gives its tables, one of any that agree up
    to case. A column is looked up under the name that its own mention gives the table, and finds
    the columns of just the entry which that name means: names that agree up to case mean the same
    entry, and one of them has been kept.
-/

namespace ReportDesk.Report

/-! ### Catalogs -/

/-- What a database tells of its tables when it answers every question. -/
structure Catalog where
  /-- The names of the tables, in the order in which they are listed. -/
  tables : List String
  /-- The columns of a table, by its name. -/
  columnsOf : String → List Column

/-- A database answers as a catalog says, when it is first asked in a certain state. -/
structure Catalog.IsGivenBy {σ : Type} (catalog : Catalog) (db : Database σ) (state : σ) :
    Prop where
  /-- The tables are listed. -/
  tables : (db.listTables state).1 = .ok catalog.tables
  /-- After that, the columns of any of them are. -/
  columns : ∀ entries, (∀ entry ∈ entries, entry ∈ catalog.tables) →
    (db.listColumns entries (db.listTables state).2).1 =
      entries.map fun entry => .ok (catalog.columnsOf entry)

/-- Whether a name is what stands after the first dot of an entry, up to ASCII case. -/
def IsTableOf (name entry : String) : Prop :=
  ∃ schema table, entry = schema ++ "." ++ table ∧ '.' ∉ schema.toList ∧
    Text.eqFolded table name = true

/-- The entry of a catalog that a table name means. A whole name goes before a part of one, and an
    earlier entry before a later one. -/
inductive Means (names : List String) (name : String) : String → Prop
  /-- The first entry that is the name. -/
  | whole {before after : List String} {entry : String} (hnames : names = before ++ entry :: after)
      (hentry : Text.eqFolded entry name = true)
      (hbefore : ∀ other ∈ before, ¬ Text.eqFolded other name = true) : Means names name entry
  /-- The first entry that ends in the name, when none is the name. -/
  | part {before after : List String} {entry : String} (hnames : names = before ++ entry :: after)
      (hentry : IsTableOf name entry) (hbefore : ∀ other ∈ before, ¬ IsTableOf name other)
      (hnone : ∀ other ∈ names, ¬ Text.eqFolded other name = true) : Means names name entry

/-- Whether a table name is an entry of a catalog or what stands after the first dot of one, up to
    ASCII case. -/
def Catalog.Knows (catalog : Catalog) (table : String) : Prop :=
  ∃ entry ∈ catalog.tables, Text.eqFolded entry table = true ∨ IsTableOf table entry

/-- Whether the entry that a table name means has a column, up to ASCII case. -/
def Catalog.Has (catalog : Catalog) (table column : String) : Prop :=
  ∃ entry, Means catalog.tables table entry ∧
    ∃ c ∈ catalog.columnsOf entry, Text.eqFolded c.name column = true

/-- What the names in a report come to in a catalog, as the outcome of a validation. -/
inductive Finding (catalog : Catalog) (config : Configuration) :
    Except ValidationError Unit → Prop
  /-- The first table that is not known. -/
  | unknownTable {before after : List String} {table : String}
      (htables : config.referencedTables = before ++ table :: after)
      (hbefore : ∀ other ∈ before, catalog.Knows other) (hunknown : ¬ catalog.Knows table) :
      Finding catalog config (.error (.unknownTable table))
  /-- All tables are known; the first column that the entry of its table does not have. -/
  | unknownColumn {before after : List (String × String)} {table column : String}
      (hknown : ∀ table ∈ config.referencedTables, catalog.Knows table)
      (hcolumns : config.referencedColumns = before ++ (table, column) :: after)
      (hbefore : ∀ pair ∈ before, catalog.Has pair.1 pair.2)
      (hunknown : ¬ catalog.Has table column) :
      Finding catalog config (.error (.unknownColumn table column))
  /-- All tables are known and have all columns. -/
  | fits (hknown : ∀ table ∈ config.referencedTables, catalog.Knows table)
      (hcolumns : ∀ pair ∈ config.referencedColumns, catalog.Has pair.1 pair.2) :
      Finding catalog config (.ok ())

/-! ### Catalogs that are written down -/

/-- The catalog of tables with their columns, one after another. -/
def Catalog.ofTables (tables : List (String × List Column)) : Catalog where
  tables := tables.map (·.1)
  columnsOf name := (tables.lookup name).getD []

/-- A database that is prepared to list tables with their columns. -/
def Catalog.prepare (tables : List (String × List Column)) : Prepared where
  tables := .ok (tables.map (·.1))
  columns := tables.map fun table => (table.1, .ok table.2)

theorem Catalog.isGivenBy_prepare (tables : List (String × List Column)) (runs : List Run) :
    (ofTables tables).IsGivenBy (prepare tables).database runs where
  tables := rfl
  columns := by
    intro entries hentries
    refine List.map_congr_left fun entry hentry => ?_
    have hmem : entry ∈ tables.map (·.1) := hentries entry hentry
    have hlookup : ((prepare tables).columns.lookup entry) =
        some (.ok ((tables.lookup entry).getD [])) := by
      clear hentries
      simp only [prepare]
      induction tables with
      | nil => simp at hmem
      | cons table rest ih =>
        rw [List.map_cons, List.lookup_cons, List.lookup_cons]
        by_cases hsame : entry = table.1
        · simp [hsame]
        · have hne : (entry == table.1) = false := by simpa using hsame
          have hrest : entry ∈ rest.map (·.1) := by simpa [hsame] using hmem
          rw [hne]
          exact ih hrest
    simp only [Prepared.columnsOf, hlookup, Option.getD_some, ofTables]

/-! ### Entries -/

theorem eqFolded_iff_map {a b : String} :
    Text.eqFolded a b = true ↔ a.toList.map Char.toLower = b.toList.map Char.toLower := by
  rw [eqFolded_iff, Text.foldAscii, Text.foldAscii, ← String.toList_inj, String.toList_map,
    String.toList_map]

theorem namesPart_iff {name entry : String} :
    namesPart name entry = true ↔ IsTableOf name entry := by
  unfold namesPart IsTableOf
  constructor
  · intro h
    split at h
    · next schema table hcut =>
      obtain ⟨hentry, hdot⟩ := Text.cutAt_eq_some_iff.mp hcut
      refine ⟨String.ofList schema, String.ofList table, ?_, by simpa using hdot, h⟩
      rw [← String.toList_inj, hentry]
      simp
    · cases h
  · rintro ⟨schema, table, rfl, hdot, hsame⟩
    have hcut : Text.cutAt '.' (schema ++ "." ++ table).toList =
        some (schema.toList, table.toList) :=
      Text.cutAt_eq_some_iff.mpr ⟨by simp, hdot⟩
    rw [hcut]
    simpa using hsame

/-- A name that differs only in case has the same entry. -/
theorem resolve_congr {catalog : List String} {name other : String}
    (h : Text.eqFolded name other = true) : resolve catalog name = resolve catalog other := by
  have hfold : Text.foldAscii name = Text.foldAscii other := eqFolded_iff.mp h
  have hwhole :
      (fun entry => Text.eqFolded entry name) = fun entry => Text.eqFolded entry other := by
    funext entry
    simp [Text.eqFolded, hfold]
  have hpart : namesPart name = namesPart other := by
    funext entry
    simp [namesPart, Text.eqFolded, hfold]
  simp only [resolve, hwhole, hpart]

/-- The lookup of a name gives the entry that the name means. -/
theorem resolve_eq_some_iff {catalog : List String} {name entry : String} :
    resolve catalog name = some entry ↔ Means catalog name entry := by
  unfold resolve
  constructor
  · intro h
    split at h
    · next found hfind =>
      obtain rfl : found = entry := by simpa using h
      obtain ⟨hsame, before, after, hnames, hbefore⟩ := List.find?_eq_some_iff_append.mp hfind
      exact .whole hnames hsame fun other hother => by simpa using hbefore other hother
    · next hnone =>
      obtain ⟨hpart, before, after, hnames, hbefore⟩ := List.find?_eq_some_iff_append.mp h
      refine .part hnames (namesPart_iff.mp hpart) ?_ (List.find?_eq_none.mp hnone)
      intro other hother
      rw [← namesPart_iff]
      simpa using hbefore other hother
  · rintro (⟨hnames, hsame, hbefore⟩ | ⟨hnames, hpart, hbefore, hnone⟩)
    · have hfind : catalog.find? (fun entry => Text.eqFolded entry name) = some entry :=
        List.find?_eq_some_iff_append.mpr ⟨hsame, _, _, hnames, fun other hother => by
          simpa using hbefore other hother⟩
      rw [hfind]
    · rw [List.find?_eq_none.mpr hnone]
      refine List.find?_eq_some_iff_append.mpr
        ⟨namesPart_iff.mpr hpart, _, _, hnames, fun other hother => ?_⟩
      have hother' := hbefore other hother
      rw [← namesPart_iff] at hother'
      simpa using hother'

theorem Means.unique {names : List String} {name entry other : String} (h : Means names name entry)
    (h' : Means names name other) : entry = other := by
  rw [← resolve_eq_some_iff] at h h'
  exact Option.some.inj (h.symm.trans h')

/-- A table name is known just when it means an entry. -/
theorem Catalog.knows_iff {catalog : Catalog} {table : String} :
    catalog.Knows table ↔ ∃ entry, resolve catalog.tables table = some entry := by
  constructor
  · rintro ⟨entry, hentry, hstands⟩
    rw [← Option.isSome_iff_exists]
    by_contra hnone
    rw [Bool.not_eq_true, Option.isSome_eq_false_iff, Option.isNone_iff_eq_none] at hnone
    unfold resolve at hnone
    split at hnone
    · cases hnone
    · next hwhole =>
      rcases hstands with hsame | hpart
      · exact List.find?_eq_none.mp hwhole entry hentry hsame
      · exact List.find?_eq_none.mp hnone entry hentry (namesPart_iff.mpr hpart)
  · rintro ⟨entry, hentry⟩
    obtain ⟨hmem, hsame | hpart⟩ := resolve_eq_some hentry
    · exact ⟨entry, hmem, .inl hsame⟩
    · exact ⟨entry, hmem, .inr (namesPart_iff.mp hpart)⟩

/-! ### Tables that are not there -/

namespace Catalog

variable (catalog : Catalog)

theorem exists_entryOf_eq_ok_iff {table : String} :
    (∃ entry, entryOf catalog.tables table = .ok entry) ↔ catalog.Knows table := by
  rw [knows_iff, entryOf]
  cases resolve catalog.tables table <;> simp

theorem entryOf_eq_error_iff {table : String} {error : ValidationError} :
    entryOf catalog.tables table = .error error ↔
      ¬ catalog.Knows table ∧ error = .unknownTable table := by
  rw [knows_iff, entryOf]
  cases resolve catalog.tables table <;> simp [eq_comm]

/-- All tables have entries just when all are known. -/
theorem exists_resolveAll_eq_ok_iff {tables : List String} :
    (∃ entries, resolveAll catalog.tables tables = .ok entries) ↔
      ∀ table ∈ tables, catalog.Knows table := by
  simp only [resolveAll_eq_mapM, Outcome.exists_mapM_eq_ok_iff, exists_entryOf_eq_ok_iff]

/-- The first table that is not known is reported. -/
theorem resolveAll_eq_error_iff {tables : List String} {error : ValidationError} :
    resolveAll catalog.tables tables = .error error ↔
      ∃ before table after, tables = before ++ table :: after ∧
        (∀ other ∈ before, catalog.Knows other) ∧ ¬ catalog.Knows table ∧
        error = .unknownTable table := by
  simp only [resolveAll_eq_mapM, Outcome.mapM_eq_error_iff, exists_entryOf_eq_ok_iff,
    entryOf_eq_error_iff]

end Catalog

/-! ### Columns that are not there -/

theorem checkColumns_eq_error_iff {index : ColumnIndex} {pairs : List (String × String)}
    {error : ValidationError} :
    checkColumns index pairs = .error error ↔
      ∃ before table column after, pairs = before ++ (table, column) :: after ∧
        (∀ pair ∈ before, index.has pair.1 pair.2 = true) ∧ ¬ index.has table column = true ∧
        error = .unknownColumn table column := by
  have herror : ∀ pair, index.check pair = .error error ↔
      ¬ index.has pair.1 pair.2 = true ∧ error = .unknownColumn pair.1 pair.2 := by
    intro pair
    rw [ColumnIndex.check]
    cases index.has pair.1 pair.2 <;> simp [eq_comm]
  simp only [checkColumns_eq_mapM, Outcome.map_eq_error_iff, Outcome.mapM_eq_error_iff,
    ColumnIndex.exists_check_eq_ok_iff, herror, Prod.exists]

/-! ### The index of columns -/

namespace Catalog

variable (catalog : Catalog)

/-- The names of the columns of a table. -/
def namesOf (entry : String) : List String :=
  (catalog.columnsOf entry).map (·.name)

/-- When all answers are there, each name goes with the columns of its entry. -/
theorem indexOf_eq (tables entries : List String) :
    indexOf tables (entries.map fun entry => .ok (catalog.columnsOf entry)) =
      .ok (tables.zip (entries.map catalog.namesOf)) := by
  induction tables generalizing entries with
  | nil => cases entries <;> rfl
  | cons table rest ih =>
    cases entries with
    | nil => rfl
    | cons entry others =>
      rw [List.map_cons, indexOf, ih]
      rfl

/-- A name that is indexed, possibly in other case, is found with the columns of the entry that it
    means. -/
theorem exists_find?_zip {tables entries : List String} {name : String}
    (hentries : tables.map (resolve catalog.tables) = entries.map some)
    (hname : ∃ table ∈ tables, Text.eqFolded table name = true) :
    ∃ table entry, Means catalog.tables name entry ∧
      (tables.zip (entries.map catalog.namesOf)).find? (fun pair => Text.eqFolded pair.1 name) =
        some (table, catalog.namesOf entry) := by
  induction tables generalizing entries with
  | nil => simp at hname
  | cons table rest ih =>
    cases entries with
    | nil => simp at hentries
    | cons entry others =>
      obtain ⟨hentry, hothers⟩ : resolve catalog.tables table = some entry ∧
          rest.map (resolve catalog.tables) = others.map some := by simpa using hentries
      rw [List.map_cons, List.zip_cons_cons]
      by_cases hsame : Text.eqFolded table name = true
      · -- the name that is found means the same entry, since it agrees up to case
        refine ⟨table, entry, ?_, List.find?_cons_of_pos hsame⟩
        rw [← resolve_eq_some_iff, ← resolve_congr hsame]
        exact hentry
      · obtain ⟨other, hother, hfolded⟩ := hname
        rcases List.mem_cons.mp hother with rfl | hother
        · exact absurd hfolded hsame
        · obtain ⟨found, entry', hmeans, hfind⟩ := ih hothers ⟨other, hother, hfolded⟩
          refine ⟨found, entry', hmeans, ?_⟩
          rw [List.find?_cons_of_neg (by simpa using hsame), hfind]

/-- A column is found in the index just when the entry that its table means has it. -/
theorem has_zip_iff {tables entries : List String} {table column : String}
    (hentries : tables.map (resolve catalog.tables) = entries.map some)
    (htable : ∃ other ∈ tables, Text.eqFolded other table = true) :
    ColumnIndex.has (tables.zip (entries.map catalog.namesOf)) table column = true ↔
      catalog.Has table column := by
  obtain ⟨found, entry, hmeans, hfind⟩ := catalog.exists_find?_zip hentries htable
  have hany : ColumnIndex.has (tables.zip (entries.map catalog.namesOf)) table column = true ↔
      ∃ c ∈ catalog.columnsOf entry, Text.eqFolded c.name column = true := by
    simp [ColumnIndex.has, hfind, namesOf]
  rw [hany]
  constructor
  · rintro ⟨c, hc, hsame⟩
    exact ⟨entry, hmeans, c, hc, hsame⟩
  · rintro ⟨entry', hmeans', c, hc, hsame⟩
    obtain rfl := hmeans.unique hmeans'
    exact ⟨c, hc, hsame⟩

section

variable {tables entries : List String} {pairs : List (String × String)}

/-- All columns are found just when the entries of their tables have them. -/
theorem checkColumns_zip_eq_ok_iff
    (hentries : tables.map (resolve catalog.tables) = entries.map some)
    (htables : ∀ pair ∈ pairs, ∃ table ∈ tables, Text.eqFolded table pair.1 = true) :
    checkColumns (tables.zip (entries.map catalog.namesOf)) pairs = .ok () ↔
      ∀ pair ∈ pairs, catalog.Has pair.1 pair.2 := by
  rw [checkColumns_eq_ok_iff]
  exact forall₂_congr fun pair hpair => catalog.has_zip_iff hentries (htables pair hpair)

/-- The first column that the entry of its table does not have is reported. -/
theorem checkColumns_zip_eq_error_iff
    (hentries : tables.map (resolve catalog.tables) = entries.map some)
    (htables : ∀ pair ∈ pairs, ∃ table ∈ tables, Text.eqFolded table pair.1 = true)
    {error : ValidationError} :
    checkColumns (tables.zip (entries.map catalog.namesOf)) pairs = .error error ↔
      ∃ before table column after, pairs = before ++ (table, column) :: after ∧
        (∀ pair ∈ before, catalog.Has pair.1 pair.2) ∧ ¬ catalog.Has table column ∧
        error = .unknownColumn table column := by
  rw [checkColumns_eq_error_iff]
  refine exists_congr fun before => exists_congr fun table => exists_congr fun column =>
    exists_congr fun after => and_congr_right fun hpairs => ?_
  -- only the pairs of the list itself are known to have their table in the index
  have hhas : ∀ pair ∈ pairs,
      ColumnIndex.has (tables.zip (entries.map catalog.namesOf)) pair.1 pair.2 = true ↔
        catalog.Has pair.1 pair.2 := fun pair hpair =>
    catalog.has_zip_iff hentries (htables pair hpair)
  rw [forall₂_congr fun pair (hpair : pair ∈ before) => hhas pair (by simp [hpairs, hpair]),
    hhas (table, column) (by simp [hpairs])]

end

end Catalog

/-! ### Reports -/

namespace Configuration

variable {config : Configuration}

/-- The pairs that are looked up have no blank part. -/
theorem ne_empty_of_mem_referencedColumns {pair : String × String}
    (h : pair ∈ config.referencedColumns) : pair.1 ≠ "" ∧ pair.2 ≠ "" := by
  rw [referencedColumns_eq] at h
  have hmem := List.mem_eraseDups.mp h
  simpa using (List.mem_filter.mp hmem).2

/-- The table of a pair that is looked up is looked up itself, possibly in other case. -/
theorem exists_table_of_mem {pair : String × String} (h : pair ∈ config.referencedColumns) :
    ∃ table ∈ config.referencedTables, Text.eqFolded table pair.1 = true := by
  have hnamed : pair.1 ∈ config.tables.map Text.trim ++ config.referencedColumns.map (·.1) :=
    List.mem_append_right _ (List.mem_map_of_mem h)
  obtain ⟨table, htable, hsame⟩ :=
    exists_mem_referencedTables (ne_empty_of_mem_referencedColumns h).1 hnamed
  exact ⟨table, htable, eqFolded_iff.mpr (eqFolded_iff.mp hsame).symm⟩

variable {σ : Type} {db : Database σ} {session : Session σ} {catalog : Catalog}

/-- A report that refers to no table is not looked up at all. -/
theorem validate_of_no_table (h : config.referencedTables = []) :
    config.validate db session = (.ok (), session) := by
  unfold validate
  simp only [h, List.isEmpty_nil, if_true]
  rfl

/-- With all answers there, validation is a matter of the catalog. -/
theorem validate_of_isGivenBy (hcatalog : catalog.IsGivenBy db session.state) :
    (config.validate db session).1 = (do
      let entries ← resolveAll catalog.tables config.referencedTables
      checkColumns (config.referencedTables.zip (entries.map catalog.namesOf))
        config.referencedColumns) := by
  by_cases hnone : config.referencedTables = []
  · -- without tables there are no columns either
    have hcolumns : config.referencedColumns = [] := by
      rw [List.eq_nil_iff_forall_not_mem]
      intro pair hpair
      obtain ⟨table, htable, -⟩ := exists_table_of_mem hpair
      simp [hnone] at htable
    rw [validate_of_no_table hnone, hnone, hcolumns]
    rfl
  · rw [validate_fst, if_neg (by simpa using hnone), hcatalog.tables]
    simp only [Except.mapError, bind, Except.bind]
    cases hentries : resolveAll catalog.tables config.referencedTables with
    | error error => rfl
    | ok entries =>
      -- only entries of the catalog are asked for
      have hlisted : ∀ entry ∈ entries, entry ∈ catalog.tables := by
        intro entry hentry
        have hmem : some entry ∈ config.referencedTables.map (resolve catalog.tables) := by
          rw [resolveAll_eq_ok hentries]
          exact List.mem_map_of_mem hentry
        obtain ⟨table, -, hresolve⟩ := List.mem_map.mp hmem
        exact (resolve_eq_some hresolve).1
      simp only [hcatalog.columns entries hlisted, Catalog.indexOf_eq]

/-- The outcome of a validation is what the names of the report come to. -/
theorem validate_eq_iff_finding (hcatalog : catalog.IsGivenBy db session.state)
    (outcome : Except ValidationError Unit) :
    (config.validate db session).1 = outcome ↔ Finding catalog config outcome := by
  rw [validate_of_isGivenBy hcatalog]
  have hknown : (∃ entries, resolveAll catalog.tables config.referencedTables = .ok entries) ↔
      ∀ table ∈ config.referencedTables, catalog.Knows table := catalog.exists_resolveAll_eq_ok_iff
  have htables : ∀ pair ∈ config.referencedColumns, ∃ table ∈ config.referencedTables,
      Text.eqFolded table pair.1 = true := fun _ => exists_table_of_mem
  constructor
  · rintro rfl
    cases hentries : resolveAll catalog.tables config.referencedTables with
    | error error =>
      obtain ⟨before, table, after, hsplit, hbefore, hunknown, rfl⟩ :=
        catalog.resolveAll_eq_error_iff.mp hentries
      exact .unknownTable hsplit hbefore hunknown
    | ok entries =>
      have hall := hknown.mp ⟨entries, hentries⟩
      have hnamed := resolveAll_eq_ok hentries
      simp only [bind, Except.bind]
      cases hcheck : checkColumns (config.referencedTables.zip (entries.map catalog.namesOf))
          config.referencedColumns with
      | error error =>
        obtain ⟨before, table, column, after, hsplit, hbefore, hunknown, rfl⟩ :=
          (catalog.checkColumns_zip_eq_error_iff hnamed htables).mp hcheck
        exact .unknownColumn hall hsplit hbefore hunknown
      | ok u => exact .fits hall ((catalog.checkColumns_zip_eq_ok_iff hnamed htables).mp hcheck)
  · intro h
    cases h with
    | unknownTable hsplit hbefore hunknown =>
      rw [catalog.resolveAll_eq_error_iff.mpr ⟨_, _, _, hsplit, hbefore, hunknown, rfl⟩]
      rfl
    | unknownColumn hall hsplit hbefore hunknown =>
      obtain ⟨entries, hentries⟩ := hknown.mpr hall
      rw [hentries]
      exact (catalog.checkColumns_zip_eq_error_iff (resolveAll_eq_ok hentries) htables).mpr
        ⟨_, _, _, _, hsplit, hbefore, hunknown, rfl⟩
    | fits hall hcolumns =>
      obtain ⟨entries, hentries⟩ := hknown.mpr hall
      rw [hentries]
      exact (catalog.checkColumns_zip_eq_ok_iff (resolveAll_eq_ok hentries) htables).mpr hcolumns

/-- A report looks up the pairs of a table and a column in its fields, the sides of its joins, the
    filters that count, and its grouping and sort keys, in this order, without blanks around the
    names, without pairs that have a blank part and without repeats. The tables it looks up are its
    own and then those of the pairs, one of any that agree up to ASCII case. Without a table nothing
    is asked.

    When the database answers every question, the outcome is what the names come to in its catalog:
    the first table that is not known, or else the first column that the entry of its table does not
    have, or else success. The table of a pair always has its columns in the index, under a name
    that it agrees with up to case, and they are the columns of the entry that it means. -/
theorem validate_finds_first (config : Configuration) {σ : Type} (db : Database σ)
    (session : Session σ) :
    config.referencedColumns =
      (((config.fields.map (fun f => (f.table, f.column)) ++
          config.joins.flatMap (fun j =>
            [(j.leftTable, j.leftColumn), (j.rightTable, j.rightColumn)]) ++
          config.counting.map (fun f => (f.table, f.column)) ++
          config.groupBy.map (fun k => (k.table, k.column)) ++
          config.sortBy.map (fun k => (k.table, k.column))).map
        (fun pair => (Text.stripped pair.1, Text.stripped pair.2))).filter
        (fun pair => pair.1 ≠ "" ∧ pair.2 ≠ "")).eraseDups ∧
    config.referencedTables =
      ((config.tables.map Text.stripped ++ config.referencedColumns.map (·.1)).filter
        (· ≠ "")).eraseDupsBy Text.eqFolded ∧
    (config.referencedTables = [] → config.validate db session = (.ok (), session)) ∧
    ∀ catalog : Catalog, catalog.IsGivenBy db session.state →
      (∀ outcome, (config.validate db session).1 = outcome ↔ Finding catalog config outcome) ∧
      ∀ entries, resolveAll catalog.tables config.referencedTables = .ok entries →
        ∃ index, indexOf config.referencedTables
            (entries.map fun entry => .ok (catalog.columnsOf entry)) = .ok index ∧
          ∀ pair ∈ config.referencedColumns, ∃ table entry, Means catalog.tables pair.1 entry ∧
            index.find? (fun indexed => Text.eqFolded indexed.1 pair.1) =
              some (table, (catalog.columnsOf entry).map (·.name)) := by
  rw [← Text.trim_eq_stripped, ← config.activeFilters_eq]
  refine ⟨config.referencedColumns_eq, config.referencedTables_eq, validate_of_no_table, ?_⟩
  intro catalog hcatalog
  refine ⟨validate_eq_iff_finding hcatalog, fun entries hentries => ?_⟩
  refine ⟨_, catalog.indexOf_eq _ _, fun pair hpair => ?_⟩
  exact catalog.exists_find?_zip (resolveAll_eq_ok hentries) (exists_table_of_mem hpair)

end Configuration

/-- Rooms, once with a schema and once without. -/
def roomTables : List (String × List Column) :=
  [("dbo.Rooms", [{ name := "Floor", type := "int", nullable := true }]),
   ("rooms", [{ name := "Id", type := "int", nullable := false }])]

/-- A report with blanks around names, a pair without a table, a repeat, and a table in several
    cases. -/
def carelessReport : Configuration where
  tables := [" ROOMS "]
  fields := [{ table := "Rooms ", column := "Id" }, { table := "", column := "x" },
    { table := "Rooms", column := "Id" }, { table := "rooms", column := "Floor" }]

/-- The whole name goes before the name behind a schema, so that `rooms` has no floor, though the
    other entry stands first and has one. -/
theorem validate_finds_first_careless :
    (Catalog.ofTables roomTables).IsGivenBy (Catalog.prepare roomTables).database [] ∧
      (carelessReport.validate (Catalog.prepare roomTables).database { state := [] }).1 =
        .error (.unknownColumn "rooms" "Floor") ∧
      resolveAll ["dbo.Rooms", "rooms"] carelessReport.referencedTables = .ok ["rooms"] ∧
      (∃ index table, indexOf carelessReport.referencedTables
          [.ok ((Catalog.ofTables roomTables).columnsOf "rooms")] = .ok index ∧
        index.find? (fun indexed => Text.eqFolded indexed.1 "Rooms") = some (table, ["Id"])) ∧
      ({} : Configuration).referencedTables = [] ∧
      ({} : Configuration).validate (Catalog.prepare roomTables).database { state := [] } =
        (.ok (), { state := [] }) := by
  have hgiven := Catalog.isGivenBy_prepare roomTables []
  have hcolumns : carelessReport.referencedColumns = [("Rooms", "Id"), ("rooms", "Floor")] := by
    have hmentions : carelessReport.mentions =
        [("Rooms ", "Id"), ("", "x"), ("Rooms", "Id"), ("rooms", "Floor")] := rfl
    have htrim : Text.trim "Rooms " = "Rooms" ∧ Text.trim "Rooms" = "Rooms" ∧
        Text.trim "rooms" = "rooms" ∧ Text.trim "" = "" ∧ Text.trim "x" = "x" ∧
        Text.trim "Id" = "Id" ∧ Text.trim "Floor" = "Floor" := by decide
    simp [Configuration.referencedColumns, hmentions, htrim, Configuration.withoutRepeats]
  have hsame : Text.eqFolded "rooms" "ROOMS" = true ∧ Text.eqFolded "Rooms" "ROOMS" = true ∧
      Text.eqFolded "rooms" "Rooms" = true ∧ Text.eqFolded "rooms" "rooms" = true := by
    simp only [eqFolded_iff_map]
    decide
  have htables : carelessReport.referencedTables = ["ROOMS"] := by
    have htrim : Text.trim " ROOMS " = "ROOMS" := by decide
    rw [Configuration.referencedTables, hcolumns]
    simp [carelessReport, htrim, hsame, Configuration.withoutRepeats]
  have hnone : ({} : Configuration).referencedTables = [] := rfl
  -- every spelling means the entry without a schema
  have hmeans : ∀ name ∈ ["ROOMS", "Rooms", "rooms"],
      Means ["dbo.Rooms", "rooms"] name "rooms" := by
    have hnames : ["dbo.Rooms", "rooms"] = ["dbo.Rooms"] ++ "rooms" :: [] := rfl
    intro name hname
    refine .whole hnames ?_ ?_
    · have hall : ∀ name ∈ ["ROOMS", "Rooms", "rooms"], Text.eqFolded "rooms" name = true := by
        simp [hsame]
      exact hall name hname
    · simp only [eqFolded_iff_map]
      revert name
      decide
  have hentries : resolveAll ["dbo.Rooms", "rooms"] carelessReport.referencedTables =
      .ok ["rooms"] := by
    rw [htables, resolveAll, resolve_eq_some_iff.mpr (hmeans "ROOMS" (by simp))]
    rfl
  obtain ⟨-, -, -, hall⟩ := carelessReport.validate_finds_first
    (Catalog.prepare roomTables).database { state := [] }
  obtain ⟨houtcome, hindex⟩ := hall _ hgiven
  obtain ⟨-, -, hempty, -⟩ := ({} : Configuration).validate_finds_first
    (Catalog.prepare roomTables).database { state := [] }
  refine ⟨hgiven, (houtcome _).mpr ?_, hentries, ?_, hnone, hempty hnone⟩
  · have hsplit : carelessReport.referencedColumns = [("Rooms", "Id")] ++ [("rooms", "Floor")] :=
      hcolumns
    have hlisted : (Catalog.ofTables roomTables).columnsOf "rooms" =
        [{ name := "Id", type := "int", nullable := false }] := rfl
    refine .unknownColumn ?_ hsplit ?_ ?_
    · rw [htables]
      exact List.forall_mem_singleton.mpr ⟨"rooms", by simp [Catalog.ofTables, roomTables],
        .inl hsame.1⟩
    · refine List.forall_mem_singleton.mpr ⟨"rooms", hmeans "Rooms" (by simp), ?_⟩
      rw [hlisted]
      exact ⟨_, List.mem_singleton.mpr rfl, eqFolded_iff.mpr rfl⟩
    · rintro ⟨entry, hentry, c, hc, hfolded⟩
      obtain rfl := (hmeans "rooms" (by simp)).unique hentry
      rw [hlisted, List.mem_singleton] at hc
      rw [hc, eqFolded_iff_map] at hfolded
      exact absurd hfolded (by decide)
  · obtain ⟨index, hok, hfound⟩ := hindex ["rooms"] hentries
    obtain ⟨table, entry, hentry, hfind⟩ := hfound ("Rooms", "Id") (by simp [hcolumns])
    obtain rfl := (hmeans "Rooms" (by simp)).unique hentry
    exact ⟨index, table, hok, hfind⟩

end ReportDesk.Report
