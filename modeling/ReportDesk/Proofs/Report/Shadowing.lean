import ReportDesk.Proofs.Report.Unknown

/-! # Tables that differ only in case

    A catalog may list several tables whose names agree up to ASCII case. A report that names one of
    them exactly is looked up in the first of them, which may be another one: an exact match does
    not go before an earlier one that differs in case. So a validated report is known to fit the
    table that it names only as far as the first of its kind is no wider than that table.
-/

namespace ReportDesk

namespace Report

/-- Whether a name is as it is looked up: not empty, and without blanks around it. -/
structure IsTidy (name : String) : Prop where
  /-- There are no blanks to be taken away. -/
  stripped_eq : Text.stripped name = name
  /-- Something is left. -/
  ne_empty : name ≠ ""

/-- Whether the table of just this name has a column, up to ASCII case. -/
def Catalog.Lists (catalog : Catalog) (table column : String) : Prop :=
  ∃ c ∈ catalog.columnsOf table, Text.eqFolded c.name column = true

/-- The first of the entries that agree with a name up to ASCII case. -/
def IsFirstLike (names : List String) (name entry : String) : Prop :=
  ∃ before after, names = before ++ entry :: after ∧ Text.eqFolded entry name = true ∧
    ∀ other ∈ before, ¬ Text.eqFolded other name = true

theorem Means.isFirstLike {names : List String} {name entry : String}
    (h : Means names name entry) (hmem : name ∈ names) : IsFirstLike names name entry := by
  cases h with
  | whole hnames hentry hbefore => exact ⟨_, _, hnames, hentry, hbefore⟩
  | part hnames hentry hbefore hnone =>
    exact absurd (eqFolded_iff.mpr rfl) (hnone name hmem)

theorem IsFirstLike.means {names : List String} {name entry : String}
    (h : IsFirstLike names name entry) : Means names name entry := by
  obtain ⟨before, after, hnames, hentry, hbefore⟩ := h
  exact .whole hnames hentry hbefore

/-- A report with one column. -/
def oneColumn (table column : String) : Configuration where
  tables := [table]
  fields := [{ table := table, column := column }]

section

variable {table column : String}

theorem referencedColumns_oneColumn (htable : IsTidy table) (hcolumn : IsTidy column) :
    (oneColumn table column).referencedColumns = [(table, column)] := by
  have hmentions : (oneColumn table column).mentions = [(table, column)] := rfl
  simp [Configuration.referencedColumns, hmentions, Text.trim_eq_stripped, htable.stripped_eq,
    hcolumn.stripped_eq, htable.ne_empty, hcolumn.ne_empty, Configuration.withoutRepeats]

theorem referencedTables_oneColumn (htable : IsTidy table) (hcolumn : IsTidy column) :
    (oneColumn table column).referencedTables = [table] := by
  have htables : (oneColumn table column).tables = [table] := rfl
  have hself : Text.eqFolded table table = true := eqFolded_iff.mpr rfl
  simp [Configuration.referencedTables, referencedColumns_oneColumn htable hcolumn, htables,
    Text.trim_eq_stripped, htable.stripped_eq, htable.ne_empty, Configuration.withoutRepeats, hself]

end

/-! ### What a validated report is known to fit -/

section

variable {σ : Type} {db : Database σ} {session : Session σ} {catalog : Catalog} {table : String}

/-- The columns of a validated report are columns of the entries that its tables mean. -/
theorem has_of_validate_eq_ok (hcatalog : catalog.IsGivenBy db session.state)
    {config : Configuration} (hvalid : (config.validate db session).1 = .ok ()) {column : String}
    (hpair : (table, column) ∈ config.referencedColumns) : catalog.Has table column := by
  cases (Configuration.validate_eq_iff_finding hcatalog _).mp hvalid with
  | fits hknown hcolumns => exact hcolumns _ hpair

/-- A report with one column is valid when the entry that its table means has that column. -/
theorem validate_oneColumn (hcatalog : catalog.IsGivenBy db session.state) (htable : IsTidy table)
    {column : String} (hcolumn : IsTidy column) (hknown : catalog.Knows table)
    (hhas : catalog.Has table column) :
    ((oneColumn table column).validate db session).1 = .ok () := by
  refine (Configuration.validate_eq_iff_finding hcatalog _).mpr (.fits ?_ ?_)
  · rw [referencedTables_oneColumn htable hcolumn]
    exact List.forall_mem_singleton.mpr hknown
  · rw [referencedColumns_oneColumn htable hcolumn]
    exact List.forall_mem_singleton.mpr hhas

theorem isTidy_of_mem {config : Configuration} {pair : String × String}
    (h : pair ∈ config.referencedColumns) : IsTidy pair.1 ∧ IsTidy pair.2 := by
  have hne := Configuration.ne_empty_of_mem_referencedColumns h
  have hagain : ∀ name, Text.stripped (Text.stripped name) = Text.stripped name := by
    rw [← Text.trim_eq_stripped]
    exact Text.trim_trim
  rw [Configuration.referencedColumns_eq, Text.trim_eq_stripped] at h
  obtain ⟨mention, -, rfl⟩ := List.mem_map.mp (List.mem_of_mem_filter (List.mem_eraseDups.mp h))
  exact ⟨⟨hagain _, hne.1⟩, ⟨hagain _, hne.2⟩⟩

/-- Of a table that a catalog lists by just this name, a validated report has only columns of the
    first entry that agrees with the name up to case. They are sure to be columns of the table
    itself exactly when it has all columns of that entry, which it has when it is that entry; a name
    with blanks around it is never looked up. -/
theorem exact_table_checked (hcatalog : catalog.IsGivenBy db session.state)
    (hmem : table ∈ catalog.tables) :
    (∀ config : Configuration, (config.validate db session).1 = .ok () →
        ∀ column, (table, column) ∈ config.referencedColumns →
          ∃ entry, IsFirstLike catalog.tables table entry ∧ catalog.Lists entry column) ∧
      ((∀ config : Configuration, (config.validate db session).1 = .ok () →
          ∀ column, (table, column) ∈ config.referencedColumns → catalog.Lists table column) ↔
        ∀ entry, IsFirstLike catalog.tables table entry →
          ∀ column, IsTidy table → IsTidy column → catalog.Lists entry column →
            catalog.Lists table column) := by
  have hfirst : ∀ config : Configuration, (config.validate db session).1 = .ok () →
      ∀ column, (table, column) ∈ config.referencedColumns →
        ∃ entry, IsFirstLike catalog.tables table entry ∧ catalog.Lists entry column := by
    intro config hvalid column hpair
    obtain ⟨entry, hmeans, hlists⟩ := has_of_validate_eq_ok hcatalog hvalid hpair
    exact ⟨entry, hmeans.isFirstLike hmem, hlists⟩
  refine ⟨hfirst, ?_, ?_⟩
  · intro hall entry hentry column htable hcolumn hlists
    -- a report with just this column is valid
    have hknown : catalog.Knows table := ⟨table, hmem, .inl (eqFolded_iff.mpr rfl)⟩
    have hvalid : ((oneColumn table column).validate db session).1 = .ok () :=
      validate_oneColumn hcatalog htable hcolumn hknown ⟨entry, hentry.means, hlists⟩
    refine hall _ hvalid column ?_
    rw [referencedColumns_oneColumn htable hcolumn]
    exact List.mem_singleton.mpr rfl
  · intro hwider config hvalid column hpair
    obtain ⟨entry, hentry, hlists⟩ := hfirst config hvalid column hpair
    obtain ⟨htable, hcolumn⟩ := isTidy_of_mem hpair
    exact hwider entry hentry column htable hcolumn hlists

end

/-- Two tables whose names differ only in case, with different columns. -/
def twins : List (String × List Column) :=
  [("t", [{ name := "y", type := "int", nullable := true }]),
   ("T", [{ name := "x", type := "int", nullable := true }])]

theorem isTidy_twins : IsTidy "T" ∧ IsTidy "y" :=
  ⟨⟨by decide, by decide⟩, by decide, by decide⟩

/-- The first of two tables that differ in case is looked up when it is named. -/
theorem exact_table_checked_first :
    (Catalog.ofTables twins).IsGivenBy (Catalog.prepare twins).database [] ∧
      "t" ∈ (Catalog.ofTables twins).tables ∧
      ∀ config : Configuration,
        (config.validate (Catalog.prepare twins).database { state := [] }).1 = .ok () →
          ∀ column, ("t", column) ∈ config.referencedColumns →
            (Catalog.ofTables twins).Lists "t" column := by
  let session : Session (List Run) := { state := [] }
  have hgiven : (Catalog.ofTables twins).IsGivenBy (Catalog.prepare twins).database session.state :=
    Catalog.isGivenBy_prepare twins []
  have hmem : "t" ∈ (Catalog.ofTables twins).tables := by simp [Catalog.ofTables, twins]
  have hself : IsFirstLike (Catalog.ofTables twins).tables "t" "t" :=
    ⟨[], ["T"], rfl, eqFolded_iff.mpr rfl, by simp⟩
  obtain ⟨-, hiff⟩ := exact_table_checked hgiven hmem
  refine ⟨hgiven, hmem, hiff.mpr fun entry hentry column _ _ hlists => ?_⟩
  obtain rfl := hentry.means.unique hself.means
  exact hlists

/-- The second of two tables that differ in case is not looked up when it is named: a report with a
    column that only the first one has is valid. -/
theorem not_checked_when_shadowed :
    (twins.map (·.1)).Nodup ∧ "T" ∈ twins.map (·.1) ∧
      ((oneColumn "T" "y").validate (Catalog.prepare twins).database { state := [] }).1 = .ok () ∧
      ("T", "y") ∈ (oneColumn "T" "y").referencedColumns ∧
      ¬ (Catalog.ofTables twins).Lists "T" "y" := by
  obtain ⟨htable, hcolumn⟩ := isTidy_twins
  have hsame : Text.eqFolded "t" "T" = true := by
    rw [eqFolded_iff_map]
    decide
  have hmeans : Means (Catalog.ofTables twins).tables "T" "t" :=
    IsFirstLike.means ⟨[], ["T"], rfl, hsame, by simp⟩
  refine ⟨by decide, by decide, ?_, ?_, ?_⟩
  · refine validate_oneColumn (Catalog.isGivenBy_prepare twins []) htable hcolumn
      ⟨"t", by simp [Catalog.ofTables, twins], .inl hsame⟩ ⟨"t", hmeans, ?_⟩
    exact ⟨{ name := "y", type := "int", nullable := true }, List.mem_singleton.mpr rfl,
      eqFolded_iff.mpr rfl⟩
  · rw [referencedColumns_oneColumn htable hcolumn]
    exact List.mem_singleton.mpr rfl
  · rintro ⟨c, hc, hfolded⟩
    have hlisted : (Catalog.ofTables twins).columnsOf "T" =
        [{ name := "x", type := "int", nullable := true }] := rfl
    rw [hlisted, List.mem_singleton] at hc
    rw [hc, eqFolded_iff_map] at hfolded
    exact absurd hfolded (by decide)

end Report

end ReportDesk
