import ReportDesk.Proofs.Report.Denylist
import ReportDesk.Proofs.Sql.Brackets

/-! # Names in the statements of reports

    The names among the lexemes of a report's query are those that its author gave, in order:
    schemas, tables, columns and aliases.

    SQLite reads them back just when none of them has a closing bracket. A statement with such a
    name is written as for a server that undoes doubled brackets, and SQLite cannot read it.
-/

namespace ReportDesk

open Outcome (map_eq_ok)

namespace Sql

/-! ### Names among lexemes -/

namespace Lexeme

@[simp]
theorem names_nil : names [] = [] :=
  rfl

@[simp]
theorem names_append (front back : List Lexeme) :
    names (front ++ back) = names front ++ names back :=
  List.filterMap_append

@[simp]
theorem names_cons (lexeme : Lexeme) (rest : List Lexeme) :
    names (lexeme :: rest) = (name? lexeme).toList ++ names rest := by
  cases h : name? lexeme <;> simp [names, h]

/-- A list has the names of its parts. -/
theorem names_listed {α : Type} (lexemes : α → List Lexeme) (as : List α) :
    names (listed (as.map lexemes)) = as.flatMap fun a => names (lexemes a) := by
  induction as with
  | nil => rfl
  | cons a rest ih =>
    -- a comma needs a second part behind it, and is no name
    cases rest with
    | nil => simp [listed]
    | cons b rest =>
      have hcomma : listed ((a :: b :: rest).map lexemes) =
          lexemes a ++ .mark .comma :: listed ((b :: rest).map lexemes) := by
        simp [listed, List.intercalate]
      rw [hcomma, names_append, names_cons, ih]
      simp [name?]

end Lexeme

open Lexeme (names names_append names_cons names_listed)

@[simp]
theorem Keyword.names_lexemes (k : Keyword) : names k.lexemes = [] := by
  cases k <;> rfl

@[simp]
theorem BinaryOp.name?_lexeme (op : BinaryOp) : Lexeme.name? op.lexeme = none := by
  cases op <;> rfl

@[simp]
theorem TableName.names_lexemes (table : TableName) :
    names table.lexemes = table.schema.toList ++ [table.table] := by
  obtain ⟨schema, table⟩ := table
  cases schema <;> rfl

theorem Query.names_listClause {α : Type} (k : Keyword) (lexemes : α → List Lexeme)
    (as : List α) :
    names (listClause k (as.map lexemes)) = as.flatMap fun a => names (lexemes a) := by
  cases as with
  | nil => rfl
  | cons a rest =>
    have hclause : listClause k ((a :: rest).map lexemes) =
        k.lexemes ++ Lexeme.listed ((a :: rest).map lexemes) := rfl
    rw [hclause, names_append, k.names_lexemes, names_listed, List.nil_append]

theorem Expr.names_binary (left : Expr) (op : BinaryOp) (right : Expr) :
    names (Expr.binary left op right).lexemes = names left.lexemes ++ names right.lexemes := by
  simp [lexemes]

theorem Expr.names_foldl_and (first : Expr) (rest : List Expr) :
    names (rest.foldl Expr.and first).lexemes =
      names first.lexemes ++ rest.flatMap fun expr => names expr.lexemes := by
  induction rest generalizing first with
  | nil => simp
  | cons next rest ih =>
    rw [List.foldl_cons, ih, Expr.and, names_binary, List.flatMap_cons, List.append_assoc]

end Sql

namespace Report

open Sql (Expr Lexeme Query TableName)
open Sql.Lexeme (names names_append names_cons names_listed)

/-! ### Names of the query -/

theorem names_columnOf (table column : String) :
    names (columnOf table column).lexemes = columnTexts table column := by
  simp [columnOf, Expr.lexemes, Expr.qualifierLexemes, columnTexts, tableTexts, Lexeme.name?]

theorem Field.names_lexemes (field : Field) :
    names field.selectItem.lexemes = field.texts := by
  have hexpr : names field.selectItem.expr.lexemes = columnTexts field.table field.column := by
    unfold selectItem
    cases field.aggregate with
    | none => exact names_columnOf _ _
    | some aggregate =>
      rw [← names_columnOf]
      simp [Expr.lexemes, Expr.lexemesOfEach, Lexeme.listed, Lexeme.name?]
  have halias : ∀ name, names (Sql.SelectItem.aliasLexemes name) = name.toList := by
    intro name
    cases name <;> rfl
  rw [Sql.SelectItem.lexemes, names_append, hexpr, halias, texts]
  rfl

theorem Link.names_lexemes (link : Link) : names link.join.lexemes = link.texts := by
  have hcondition : names link.join.condition.lexemes =
      columnTexts link.leftTable link.leftColumn ++
        columnTexts link.rightTable link.rightColumn := by
    rw [join, Expr.names_binary, names_columnOf, names_columnOf]
  have htable : names link.join.table.lexemes = tableTexts link.rightTable :=
    TableName.names_lexemes _
  rw [Sql.Join.lexemes, names_append, names_append, names_cons, names_cons, htable, hcondition]
  simp [Lexeme.name?, texts]

theorem SortKey.names_lexemes (key : SortKey) :
    names key.sortItem.lexemes = columnTexts key.table key.column := by
  rw [Sql.SortItem.lexemes, names_append, Sql.Keyword.names_lexemes, List.append_nil]
  exact names_columnOf _ _

theorem IsLiteral.names_lexemes {strict : Bool} {literal : Expr} (h : IsLiteral strict literal) :
    names literal.lexemes = [] := by
  cases h <;> rfl

/-- A predicate names only the column it is on. -/
theorem IsPredicate.names_lexemes {strict : Bool} {subject predicate : Expr}
    (h : IsPredicate strict subject predicate) :
    names predicate.lexemes = names subject.lexemes := by
  cases h with
  | compare hop hvalue => rw [Expr.names_binary, hvalue.names_lexemes, List.append_nil]
  | like pattern => simp [Expr.lexemes, Lexeme.name?]
  | @oneOf values hne hvalues =>
    have hlist : names (Lexeme.listed (values.map Expr.lexemes)) = [] := by
      rw [names_listed, List.flatMap_eq_nil_iff]
      exact fun value hvalue => (hvalues value hvalue).names_lexemes
    simp [Expr.lexemes, Expr.lexemesOfEach_eq_map, hlist, Lexeme.name?]
  | between hlow hhigh =>
    simp [Expr.lexemes, hlow.names_lexemes, hhigh.names_lexemes, Lexeme.name?]
  | isNull negated => cases negated <;> simp [Expr.lexemes, Lexeme.name?]

/-! ### Statements for SQLite -/

namespace Configuration

/-- The names that stand in the statement of a report, in order: schemas, tables, columns and
    aliases. -/
def names (config : Configuration) : List String :=
  (if config.fields = [] then config.primaryTexts else config.fields.flatMap Field.texts) ++
    config.primaryTexts ++ config.joins.flatMap Link.texts ++
    config.counting.flatMap (fun filter => columnTexts filter.table filter.column) ++
    config.groupBy.flatMap (fun key => columnTexts key.table key.column) ++
    config.sortBy.flatMap fun key => columnTexts key.table key.column

variable {config : Configuration} {strict : Bool}

theorem names_selectList {primary : String} (h : config.primaryTable? = some primary) :
    Lexeme.names (Lexeme.listed ((config.selectList (TableName.parse primary)).map
      Sql.SelectItem.lexemes)) =
      if config.fields = [] then config.primaryTexts else config.fields.flatMap Field.texts := by
  rw [names_listed, selectList]
  by_cases hfields : config.fields = []
  · have hstar : Lexeme.names (Sql.SelectItem.lexemes
        { expr := .star (some (TableName.parse primary)) }) = tableTexts primary := by
      simp [Sql.SelectItem.lexemes, Sql.SelectItem.aliasLexemes, Expr.lexemes,
        Expr.qualifierLexemes, tableTexts, Lexeme.name?]
    simp [hfields, hstar, primaryTexts, h]
  · simp only [hfields, List.isEmpty_iff, if_false, List.flatMap_map]
    exact List.flatMap_congr fun field _ => field.names_lexemes

theorem names_predicates {predicates : List Expr} (h : config.predicates strict = .ok predicates) :
    Lexeme.names (Query.conditionLexemes (conjunction predicates)) =
      config.counting.flatMap fun filter => columnTexts filter.table filter.column := by
  have hmap : predicates.map (fun predicate => Lexeme.names predicate.lexemes) =
      config.counting.map fun filter => columnTexts filter.table filter.column := by
    rw [← activeFilters_eq]
    refine Outcome.map_eq_map_of_mapM (fun filter predicate hpredicate => ?_) h
    rw [(Filter.isPredicate_of_ok hpredicate).names_lexemes]
    exact names_columnOf _ _
  have hall : Lexeme.names (Query.conditionLexemes (conjunction predicates)) =
      predicates.flatMap fun predicate => Lexeme.names predicate.lexemes := by
    cases predicates with
    | nil => rfl
    | cons first rest =>
      rw [conjunction, Query.conditionLexemes, names_cons, Expr.names_foldl_and,
        List.flatMap_cons]
      rfl
  rw [hall, List.flatMap_def, hmap, List.flatMap_def]

/-- The names among the lexemes of a report's query are the names of the report, in order. -/
theorem names_bodyLexemes {query : Query} (h : config.query strict = .ok query) :
    Lexeme.names query.bodyLexemes = config.names := by
  obtain ⟨primary, predicates, hprimary, hpredicates, rfl⟩ := query_eq_ok_iff.mp h
  have hsource : Lexeme.names (Query.sourceLexemes (some (TableName.parse primary))) =
      config.primaryTexts := by
    simp [Query.sourceLexemes, primaryTexts, hprimary, tableTexts, Lexeme.name?]
  have hjoins : Lexeme.names ((config.joins.map Link.join).flatMap Sql.Join.lexemes) =
      config.joins.flatMap Link.texts := by
    rw [Lexeme.names, List.filterMap_flatMap, List.flatMap_map]
    exact List.flatMap_congr fun link _ => link.names_lexemes
  have hgrouping : Lexeme.names (Query.listClause .GROUP_BY ((config.groupBy.map fun key =>
      columnOf key.table key.column).map Expr.lexemes)) =
      config.groupBy.flatMap fun key => columnTexts key.table key.column := by
    rw [Query.names_listClause, List.flatMap_map]
    exact List.flatMap_congr fun key _ => names_columnOf _ _
  have hordering : Lexeme.names (Query.listClause .ORDER_BY ((config.sortBy.map
      SortKey.sortItem).map Sql.SortItem.lexemes)) =
      config.sortBy.flatMap fun key => columnTexts key.table key.column := by
    rw [Query.names_listClause, List.flatMap_map]
    exact List.flatMap_congr fun key _ => key.names_lexemes
  -- clause by clause, in the order of the statement
  simp only [Query.bodyLexemes, Query.clauseLexemes, compiled, names_append,
    names_selectList hprimary, hsource, hjoins, names_predicates hpredicates, hgrouping,
    hordering, names, List.append_assoc]

/-- The statement of a strict report for SQLite, cut as SQLite cuts a text. If no name of the report
    has a closing bracket then it is cut into the lexemes of the report's query, in order, with the
    row limit at the end if there is one, and the names among these are the names of the report.
    Else it is not cut into lexemes at all. -/
theorem sqlite_ofText?_statement {query : Query} {text : String}
    (hquery : config.query true = .ok query) (htext : config.statement .sqlite true = .ok text) :
    Lexeme.names query.bodyLexemes = config.names ∧
      Lexeme.Sqlite.ofText? text =
        if ∀ name ∈ config.names, Lexeme.IsUnbracketed name then
          some (.word "SELECT" :: query.bodyLexemes ++
            if config.limit = 0 then []
            else [.word "LIMIT", .number (toString config.limit.toNat)])
        else none := by
  have hplain := isPlain_of_mem_tokens hquery (.inl rfl)
  obtain rfl : query.text .sqlite = text := by
    simpa [statement, hquery, Except.map] using htext
  have hlexemes : query.lexemes .sqlite = .word "SELECT" :: query.bodyLexemes ++
      if config.limit = 0 then []
      else [.word "LIMIT", .number (toString config.limit.toNat)] := by
    obtain ⟨primary, predicates, -, -, rfl⟩ := query_eq_ok_iff.mp hquery
    by_cases hlimit : config.limit = 0
    · simp [Query.lexemes, compiled, hlimit]
    · have hnat : config.limit.toNat ≠ 0 := by
        intro h
        exact hlimit (UInt64.toNat_inj.mp h)
      simp [Query.lexemes, compiled, hlimit, hnat]
  have hnames : Lexeme.names (query.lexemes .sqlite) = config.names := by
    rw [hlexemes, names_append, names_cons, names_bodyLexemes hquery]
    split <;> simp [Lexeme.name?]
  have hcut := Lexeme.Sqlite.scan?_of_scan? (query.ofText?_text .sqlite hplain)
  rw [hnames, hlexemes] at hcut
  exact ⟨names_bodyLexemes hquery, hcut⟩

end Configuration

/-- A report with opening brackets and quotes in its names, and a closing bracket in a value. -/
def quoted : Configuration where
  tables := ["a[b.'c"]
  fields := [{ table := "T", column := "x', y", asName := some "[" }]
  filters :=
    [{ table := "T", column := "z", declaredType := "varchar", operator := "="
       value := some "]'" }]
  limit := 3

theorem query_quoted : quoted.query true =
    .ok (quoted.compiled { schema := some "a[b", table := "'c" }
      [.binary (.column (some { table := "T" }) "z") .eq (.string "]'")]) := by
  have hpredicate : Filter.predicate
      { table := "T", column := "z", declaredType := "varchar", operator := "="
        value := some "]'" } true =
      .ok (.binary (.column (some { table := "T" }) "z") .eq (.string "]'")) := by cbv
  have hactive : quoted.activeFilters = quoted.filters := by cbv
  refine Configuration.query_eq_ok_iff.mpr ⟨"a[b.'c", _, rfl, ?_, rfl⟩
  rw [Configuration.predicates, hactive]
  simp only [quoted, List.mapM_cons, hpredicate]
  rfl

theorem sqlite_ofText?_statement_quoted : ∃ text,
    quoted.statement .sqlite true = .ok text ∧
    Lexeme.Sqlite.ofText? text =
      some [.word "SELECT", .name "T", .mark .dot, .name "x', y", .word "AS", .name "[",
        .word "FROM", .name "a[b", .mark .dot, .name "'c", .word "WHERE", .name "T", .mark .dot,
        .name "z", .mark .eq, .string "]'", .word "LIMIT", .number "3"] := by
  have htext := congrArg (Except.map fun query => Query.text query .sqlite) query_quoted
  have hnames : ∀ name ∈ quoted.names, Lexeme.IsUnbracketed name := by decide +kernel
  refine ⟨_, htext, ?_⟩
  rw [(Configuration.sqlite_ofText?_statement query_quoted htext).2, if_pos hnames]
  rfl

/-- A report on a column with a closing bracket in its name. -/
def bracketed : Configuration where
  tables := ["T"]
  fields := [{ table := "T", column := "a]b" }]

/-- The statement of `bracketed` is not cut into the lexemes of its query, nor into any others. -/
theorem sqlite_not_read_bracketed : ∃ query,
    bracketed.query true = .ok query ∧
    query.lexemes .sqlite =
      [.word "SELECT", .name "T", .mark .dot, .name "a]b", .word "FROM", .name "T"] ∧
    bracketed.statement .sqlite true = .ok "SELECT [T].[a]]b] FROM [T]" ∧
    Lexeme.Sqlite.ofText? "SELECT [T].[a]]b] FROM [T]" = none := by
  have hquery : bracketed.query true = .ok (bracketed.compiled { table := "T" } []) :=
    Configuration.query_eq_ok_iff.mpr ⟨"T", [], rfl, rfl, rfl⟩
  have htext : Query.text (bracketed.compiled { table := "T" } []) .sqlite =
      "SELECT [T].[a]]b] FROM [T]" := by cbv
  have hcut : Lexeme.Sqlite.ofText? "SELECT [T].[a]]b] FROM [T]" = none := by cbv
  refine ⟨_, hquery, rfl, ?_, hcut⟩
  rw [Configuration.statement, hquery]
  exact congrArg Except.ok htext

end Report

end ReportDesk
