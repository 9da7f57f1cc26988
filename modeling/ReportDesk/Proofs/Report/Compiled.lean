import ReportDesk.Proofs.Outcome
import ReportDesk.Proofs.Report.Filters
import ReportDesk.Report.Compile

/-! # What a report compiles to

    A configuration has a query just when it has a first table and each filter that counts has a
    predicate; the query is then made from these part by part (`query_eq_ok_iff`). The predicate
    of a filter has one of six shapes around the filtered column, and its literals are strings or
    texts that a strict report requires to be numbers (`isPredicate_of_ok`).
-/

namespace ReportDesk.Report

open Outcome (map_eq_ok bind_eq_ok exists_of_mem_mapM)
open Sql (Expr Query SelectItem TableName BinaryOp)

/-! ### Shapes of predicates -/

/-- A literal of a filter: a string, or a text that is written as it is and is a number if the
    report is strict. -/
inductive IsLiteral (strict : Bool) : Expr → Prop where
  | string (text : String) : IsLiteral strict (.string text)
  | verbatim (text : String) (h : strict = true → isNumeral text.toList = true) :
      IsLiteral strict (.verbatim text)

/-- A predicate on `subject`. -/
inductive IsPredicate (strict : Bool) (subject : Expr) : Expr → Prop where
  | compare {op : BinaryOp} {value : Expr} (hop : op ≠ .and) (h : IsLiteral strict value) :
      IsPredicate strict subject (.binary subject op value)
  | like (pattern : String) : IsPredicate strict subject (.like subject (.string pattern))
  | oneOf {values : List Expr} (hne : values ≠ []) (h : ∀ v ∈ values, IsLiteral strict v) :
      IsPredicate strict subject (.oneOf subject values)
  | between {low high : Expr} (hlow : IsLiteral strict low) (hhigh : IsLiteral strict high) :
      IsPredicate strict subject (.between subject low high)
  | isNull (negated : Bool) : IsPredicate strict subject (.isNull subject negated)

/-- A column with its table. -/
inductive IsColumn : Expr → Prop where
  | mk (table : TableName) (name : String) : IsColumn (.column (some table) name)

theorem isColumn_columnOf (table column : String) : IsColumn (columnOf table column) :=
  .mk _ _

theorem tokens_columnOf (table column : String) :
    (columnOf table column).tokens =
      [(TableName.parse table).token, .mark .dot, .name column] := by
  simp [columnOf, Expr.tokens, Expr.qualifier]

theorem tokens_call (aggregate : Aggregate) (column : Expr) :
    (Expr.call aggregate.name [column]).tokens =
      .function aggregate.name :: .mark .opening :: (column.tokens ++ [.mark .closing]) := by
  simp [Expr.tokens, Expr.tokensOfEach, Sql.Token.listed]

/-- What a report selects: a column, an aggregate of one, or all columns of a table. -/
inductive IsSelected : Expr → Prop where
  | column {expr : Expr} (h : IsColumn expr) : IsSelected expr
  | aggregate (a : Aggregate) {column : Expr} (h : IsColumn column) :
      IsSelected (.call a.name [column])
  | star (table : TableName) : IsSelected (.star (some table))

theorem Field.isSelected (field : Field) : IsSelected field.selectItem.expr := by
  cases haggregate : field.aggregate with
  | none =>
    simp only [selectItem, haggregate]
    exact .column (isColumn_columnOf _ _)
  | some a =>
    simp only [selectItem, haggregate]
    exact .aggregate a (isColumn_columnOf _ _)

namespace Filter

variable {filter : Filter} {strict : Bool}

theorem isLiteral_of_verbatim {value : String} {expr : Expr}
    (h : filter.verbatim strict value = .ok expr) : IsLiteral strict expr := by
  unfold verbatim at h
  split at h
  · cases h
  · next hnumeral =>
    obtain rfl : Expr.verbatim value = expr := by simpa using h
    refine .verbatim value fun hstrict => ?_
    simpa [hstrict] using hnumeral

theorem isLiteral_of_literal {value : String} {expr : Expr}
    (h : filter.literal strict value = .ok expr) : IsLiteral strict expr := by
  unfold literal at h
  split at h
  · obtain rfl : Expr.string value = expr := by simpa using h
    exact .string value
  · exact isLiteral_of_verbatim h

/-- Several values give as many literals. -/
theorem isLiteral_of_literals {values : List String} {exprs : List Expr}
    (h : filter.literals strict values = .ok exprs) :
    exprs.length = values.length ∧ ∀ expr ∈ exprs, IsLiteral strict expr := by
  rw [literals_eq_mapM] at h
  refine ⟨Outcome.length_of_mapM h, ?_⟩
  intro expr hexpr
  obtain ⟨value, -, hvalue⟩ := exists_of_mem_mapM h expr hexpr
  exact isLiteral_of_literal hvalue

/-- A predicate that a filter gives is a predicate on the filtered column. -/
theorem isPredicate_of_compare {value : String} {op : Operator} {expr : Expr}
    (h : filter.compare strict value op = .ok expr) :
    IsPredicate strict filter.subject expr := by
  cases op with
  | equals | notEquals =>
    obtain ⟨literal, hliteral, rfl⟩ := map_eq_ok h
    exact .compare (by decide) (isLiteral_of_literal hliteral)
  | greaterThan | greaterThanOrEqual | lessThan | lessThanOrEqual =>
    obtain ⟨literal, hliteral, rfl⟩ := map_eq_ok h
    exact .compare (by decide) (isLiteral_of_verbatim hliteral)
  | contains | startsWith | endsWith =>
    cases h
    exact .like _
  | isNull | isNotNull =>
    cases h
    exact .isNull _
  | oneOf =>
    obtain ⟨exprs, hexprs, rfl⟩ := map_eq_ok h
    obtain ⟨hlen, hliterals⟩ := isLiteral_of_literals hexprs
    refine .oneOf ?_ hliterals
    intro hnil
    -- even an empty value has one piece
    have hpieces : (trimmedPieces ',' value).length = 0 := by rw [← hlen, hnil]; rfl
    exact Text.pieces_ne_nil ',' value.toList (by simpa [trimmedPieces] using hpieces)
  | between =>
    simp only [compare] at h
    split at h
    · next low high _ =>
      obtain ⟨first, hfirst, h⟩ := bind_eq_ok h
      obtain ⟨second, hsecond, h⟩ := bind_eq_ok h
      cases h
      exact .between (isLiteral_of_literal hfirst) (isLiteral_of_literal hsecond)
    · cases h

theorem isPredicate_of_ok {expr : Expr} (h : filter.predicate strict = .ok expr) :
    IsPredicate strict filter.subject expr := by
  simp only [predicate] at h
  split at h
  · cases h
  · split at h
    · cases h
    · exact isPredicate_of_compare h

end Filter

/-! ### The query of a configuration -/

/-- The conjunction of predicates, if there are any. -/
def conjunction : List Expr → Option Expr
  | [] => none
  | first :: rest => some (rest.foldl Expr.and first)

/-- Restricting a query by several predicates changes its condition alone. -/
theorem foldl_restrict_of_some (predicates : List Expr) (query : Query) (earlier : Expr)
    (h : query.condition = some earlier) :
    predicates.foldl Query.restrict query =
      { query with condition := some (predicates.foldl Expr.and earlier) } := by
  induction predicates generalizing query earlier with
  | nil =>
    cases query
    simp_all
  | cons predicate rest ih =>
    -- the next predicate is joined to the condition so far, which stays in front
    have hstep : (query.restrict predicate).condition = some (earlier.and predicate) := by
      simp [Query.restrict, h]
    simp only [List.foldl_cons]
    rw [ih _ _ hstep]
    simp [Query.restrict]

theorem foldl_restrict (predicates : List Expr) (query : Query) (h : query.condition = none) :
    predicates.foldl Query.restrict query =
      { query with condition := conjunction predicates } := by
  cases predicates with
  | nil =>
    cases query
    simp_all [conjunction]
  | cons first rest =>
    have hstep : (query.restrict first).condition = some first := by
      simp [Query.restrict, h]
    simp only [List.foldl_cons, conjunction]
    rw [foldl_restrict_of_some _ _ _ hstep]
    simp [Query.restrict]

/-- Filters are added to a query all at once, or the first that has no predicate is the error. -/
theorem addFilters_eq (strict : Bool) (filters : List Filter) (query : Query) :
    addFilters strict query filters =
      ((filters.mapM fun f : Filter => f.predicate strict).mapError CompileError.filter).map
        fun predicates => predicates.foldl Query.restrict query := by
  induction filters generalizing query with
  | nil => rfl
  | cons filter rest ih =>
    rw [List.mapM_cons]
    cases hfirst : filter.predicate strict with
    | error e => simp [addFilters, hfirst, bind, Except.bind, Except.mapError, Except.map]
    | ok predicate =>
      simp only [addFilters, hfirst, ih]
      cases rest.mapM (fun f => f.predicate strict) with
      | error e => rfl
      | ok predicates => rfl

namespace Configuration

variable (config : Configuration)

/-- The predicates of the filters that count, in order, or the error of the first that has none. -/
def predicates (strict : Bool) : Except FilterError (List Expr) :=
  config.activeFilters.mapM fun filter => filter.predicate strict

/-- The query with a given first table and given predicates. -/
def compiled (source : TableName) (predicates : List Expr) : Query where
  select := config.selectList source
  source := some source
  joins := config.joins.map Link.join
  condition := conjunction predicates
  grouping := config.groupBy.map fun key => columnOf key.table key.column
  ordering := config.sortBy.map SortKey.sortItem
  limit := if config.limit.toNat = 0 then none else some config.limit.toNat

variable {config} {strict : Bool}

/-- The first table is the first one of the report, if it has a name. -/
theorem primaryTable?_eq_some_iff {primary : String} :
    config.primaryTable? = some primary ↔
      ∃ first others, config.tables = first :: others ∧ Text.isBlankText first = false ∧
        Text.trim first = primary := by
  unfold primaryTable?
  cases config.tables with
  | nil => simp
  | cons first others => by_cases h : Text.isBlankText first = true <;> simp [h]

/-- The query of a configuration is put together from its parts, unless there is no first table
    or a filter has no predicate. -/
theorem query_eq (config : Configuration) (strict : Bool) :
    config.query strict =
      match config.primaryTable? with
      | none => .error .noTables
      | some primary =>
        ((config.predicates strict).mapError CompileError.filter).map
          (config.compiled (TableName.parse primary)) := by
  unfold Configuration.query
  cases config.primaryTable? with
  | none => rfl
  | some primary =>
    simp only [addFilters_eq, predicates]
    cases config.activeFilters.mapM (fun f => f.predicate strict) with
    | error e => rfl
    | ok predicates =>
      simp only [Except.mapError, Except.map, bind, Except.bind, pure, Except.pure]
      rw [foldl_restrict]
      · rfl
      · rfl

/-- A configuration has a query just when it has a first table and predicates for its filters. -/
theorem query_eq_ok_iff {query : Query} :
    config.query strict = .ok query ↔
      ∃ primary predicates, config.primaryTable? = some primary ∧
        config.predicates strict = .ok predicates ∧
        query = config.compiled (TableName.parse primary) predicates := by
  rw [query_eq]
  cases config.primaryTable? with
  | none => simp
  | some primary =>
    cases config.predicates strict with
    | error e => simp [Except.mapError, Except.map]
    | ok predicates => simp [Except.mapError, Except.map, eq_comm]

/-- An item of the select list is the star, or stands for a field. -/
theorem mem_selectList {source : TableName} {item : SelectItem}
    (h : item ∈ config.selectList source) :
    item = { expr := .star (some source) } ∨ ∃ field ∈ config.fields, item = field.selectItem := by
  unfold selectList at h
  split at h
  · exact .inl (by simpa using h)
  · obtain ⟨field, hfield, rfl⟩ := List.mem_map.mp h
    exact .inr ⟨field, hfield, rfl⟩

/-- Each predicate of a report is one on the column of a filter that counts. -/
theorem exists_of_mem_predicates {predicates : List Expr}
    (h : config.predicates strict = .ok predicates) :
    ∀ p ∈ predicates, ∃ filter ∈ config.activeFilters, IsPredicate strict filter.subject p := by
  intro p hp
  obtain ⟨filter, hmem, hfilter⟩ := exists_of_mem_mapM h p hp
  exact ⟨filter, hmem, Filter.isPredicate_of_ok hfilter⟩

end Configuration

/-- What is known of the parts of a query that a report compiles to, its condition being that of
    all of `predicates`. -/
structure IsCompiled (strict : Bool) (query : Query) (predicates : List Expr) : Prop where
  /-- Something is selected. -/
  select_ne_nil : query.select ≠ []
  /-- The select list has columns, aggregates of them, or a star. -/
  select : ∀ item ∈ query.select, IsSelected item.expr
  /-- There is a first table. -/
  source : ∃ table, query.source = some table
  /-- Joins are made where two columns are equal. -/
  joins : ∀ join ∈ query.joins, ∃ left right, IsColumn left ∧ IsColumn right ∧
    join.condition = .binary left .eq right
  /-- All predicates are met. -/
  condition : query.condition = conjunction predicates
  /-- Each predicate is on a column. -/
  predicates : ∀ p ∈ predicates, ∃ subject, IsColumn subject ∧ IsPredicate strict subject p
  /-- Grouping keys are columns. -/
  grouping : ∀ key ∈ query.grouping, IsColumn key
  /-- Sort keys are columns. -/
  ordering : ∀ item ∈ query.ordering, IsColumn item.expr

theorem Configuration.isCompiled {config : Configuration} {strict : Bool} {predicates : List Expr}
    (source : TableName) (h : config.predicates strict = .ok predicates) :
    IsCompiled strict (config.compiled source predicates) predicates where
  select_ne_nil := by
    simp only [compiled, selectList]
    split
    · simp
    · next hfields => simpa using hfields
  select := by
    intro item hitem
    obtain rfl | ⟨field, -, rfl⟩ := mem_selectList hitem
    · exact .star source
    · exact field.isSelected
  source := ⟨source, rfl⟩
  joins := by
    intro join hjoin
    obtain ⟨link, -, rfl⟩ := List.mem_map.mp hjoin
    exact ⟨_, _, isColumn_columnOf _ _, isColumn_columnOf _ _, rfl⟩
  condition := rfl
  predicates := by
    intro p hp
    obtain ⟨filter, -, hshape⟩ := exists_of_mem_predicates h p hp
    exact ⟨filter.subject, .mk _ _, hshape⟩
  grouping := by
    intro key hkey
    obtain ⟨key, -, rfl⟩ := List.mem_map.mp hkey
    exact isColumn_columnOf _ _
  ordering := by
    intro item hitem
    obtain ⟨key, -, rfl⟩ := List.mem_map.mp hitem
    exact isColumn_columnOf _ _

/-- The query of a configuration is a compiled one. -/
theorem Configuration.exists_isCompiled {config : Configuration} {strict : Bool} {query : Query}
    (h : config.query strict = .ok query) :
    ∃ predicates, config.predicates strict = .ok predicates ∧
      IsCompiled strict query predicates := by
  obtain ⟨primary, predicates, -, hpredicates, rfl⟩ := query_eq_ok_iff.mp h
  exact ⟨predicates, hpredicates, isCompiled _ hpredicates⟩

end ReportDesk.Report
