import ReportDesk.Proofs.Guard.Words
import ReportDesk.Proofs.Report.Filters
import ReportDesk.Proofs.Report.Quoting
import ReportDesk.Proofs.Sql.Wording

/-! # Which reports pass the guard

    The statement of a report passes the guard just when none of the texts that its author gave
    mentions a forbidden word. These are the names, the aliases and the values of filters, as they
    stand in the statement. The fixed words of statements, the marks between them and the doubling
    of closing marks play no part.
-/

namespace ReportDesk

open Outcome (map_eq_ok bind_eq_ok)

namespace Report

open Sql (Dialect Expr IsForeign Query TableName Token)
open Text (Mentions)

/-! ### The texts of a report -/

/-- The schema in a table name, if there is one, and the table's own name. -/
def tableTexts (table : String) : List String :=
  (TableName.parse table).schema.toList ++ [(TableName.parse table).table]

/-- The names of a column and its table. -/
def columnTexts (table column : String) : List String :=
  tableTexts table ++ [column]

/-- The names of a column of the report, and its alias if that has characters. -/
def Field.texts (field : Field) : List String :=
  columnTexts field.table field.column ++ (field.asName.filter fun name => !name.isEmpty).toList

/-- The names of a joined table and of the two columns. -/
def Link.texts (link : Link) : List String :=
  tableTexts link.rightTable ++ columnTexts link.leftTable link.leftColumn ++
    columnTexts link.rightTable link.rightColumn

/-- The literals that an operator makes of a value, without their quotes. -/
def Operator.literalTexts (value : String) : Operator → List String
  | .isNull | .isNotNull => []
  | .contains => ["%" ++ value ++ "%"]
  | .startsWith => [value ++ "%"]
  | .endsWith => ["%" ++ value]
  | .oneOf => Filter.partsAt ',' value
  | .between => Filter.partsAt '|' value
  | _ => [value]

/-- The literals of a filter, without their quotes. -/
def Filter.literalTexts (filter : Filter) : List String :=
  match Operator.parse? filter.operator with
  | none => []
  | some op => op.literalTexts filter.given

/-- The names of the filtered column and the literals. -/
def Filter.texts (filter : Filter) : List String :=
  columnTexts filter.table filter.column ++ filter.literalTexts

namespace Configuration

/-- The names of the first table. -/
def primaryTexts (config : Configuration) : List String :=
  config.primaryTable?.toList.flatMap tableTexts

/-- The texts that stand in the statement of a report, in order. -/
def texts (config : Configuration) : List String :=
  (if config.fields = [] then config.primaryTexts else config.fields.flatMap Field.texts) ++
    config.primaryTexts ++ config.joins.flatMap Link.texts ++
    config.counting.flatMap Filter.texts ++
    config.groupBy.flatMap (fun key => columnTexts key.table key.column) ++
    config.sortBy.flatMap fun key => columnTexts key.table key.column

end Configuration

/-! ### Texts of the query -/

theorem texts_columnOf (table column : String) :
    (columnOf table column).texts = columnTexts table column := by
  rw [Expr.texts, tokens_columnOf]
  rfl

theorem texts_call (aggregate : Aggregate) (column : Expr) :
    (Expr.call aggregate.name [column]).texts = column.texts := by
  simp [Expr.texts, tokens_call, Token.texts]

theorem Field.texts_tokens (field : Field) :
    field.selectItem.tokens.flatMap Token.texts = field.texts := by
  have hexpr : field.selectItem.expr.texts = columnTexts field.table field.column := by
    unfold selectItem
    cases field.aggregate with
    | none => exact texts_columnOf _ _
    | some aggregate => exact (texts_call aggregate _).trans (texts_columnOf _ _)
  rw [Sql.SelectItem.tokens, List.flatMap_append, ← Expr.texts, hexpr, texts]
  congr 1
  have hname : field.selectItem.asName = field.asName.filter fun name => !name.isEmpty := rfl
  rw [hname]
  cases field.asName.filter fun name => !name.isEmpty with
  | none => rfl
  | some name => rfl

theorem Link.texts_tokens (link : Link) :
    link.join.tokens.flatMap Token.texts = link.texts := by
  have hcondition : link.join.condition.texts = columnTexts link.leftTable link.leftColumn ++
      columnTexts link.rightTable link.rightColumn := by
    rw [join, Expr.texts_binary, texts_columnOf, texts_columnOf]
  have htable : [Token.word link.join.kind.keyword, .mark .blank, .word .JOIN, .mark .blank,
      link.join.table.token].flatMap Token.texts = tableTexts link.rightTable :=
    List.append_nil _
  rw [Sql.Join.tokens, List.flatMap_append, Token.texts_clause, ← Expr.texts, hcondition, htable,
    texts, List.append_assoc]

theorem SortKey.texts_tokens (key : SortKey) :
    key.sortItem.tokens.flatMap Token.texts = columnTexts key.table key.column := by
  rw [Sql.SortItem.tokens, List.flatMap_append, ← Expr.texts, sortItem, texts_columnOf]
  simp [Token.texts]

namespace Filter

variable {filter : Filter} {strict : Bool}

theorem texts_subject (filter : Filter) :
    filter.subject.texts = columnTexts filter.table filter.column :=
  texts_columnOf _ _

theorem texts_of_verbatim {value : String} {expr : Expr}
    (h : filter.verbatim strict value = .ok expr) : expr.texts = [value] := by
  unfold verbatim at h
  split at h
  · cases h
  · cases h
    rfl

theorem texts_of_literal {value : String} {expr : Expr}
    (h : filter.literal strict value = .ok expr) : expr.texts = [value] := by
  unfold literal at h
  split at h
  · cases h
    rfl
  · exact texts_of_verbatim h

theorem texts_of_literals {values : List String} {exprs : List Expr}
    (h : filter.literals strict values = .ok exprs) : exprs.flatMap Expr.texts = values := by
  rw [literals_eq_mapM] at h
  have hmap := Outcome.map_eq_map_of_mapM (fun _ _ => texts_of_literal) h
  calc exprs.flatMap Expr.texts
    _ = values.flatMap fun value => [value] := by
      rw [List.flatMap_def, hmap, ← List.flatMap_def]
    _ = values := List.flatMap_singleton' values

/-- A comparison with one literal has the texts of the column and the value. -/
theorem texts_of_map_binary {outcome : Except FilterError Expr} {value : String}
    (houtcome : ∀ literal, outcome = .ok literal → literal.texts = [value]) {op : Sql.BinaryOp}
    {expr : Expr} (h : outcome.map (.binary filter.subject op) = .ok expr) :
    expr.texts = filter.subject.texts ++ [value] := by
  obtain ⟨literal, hliteral, rfl⟩ := map_eq_ok h
  rw [Expr.texts_binary, houtcome literal hliteral]

/-- A predicate has the texts of the column and those of its literals. -/
theorem texts_of_compare {value : String} {op : Operator} {expr : Expr}
    (h : filter.compare strict value op = .ok expr) :
    expr.texts = columnTexts filter.table filter.column ++ op.literalTexts value := by
  rw [← texts_subject]
  cases op with
  | equals | notEquals => exact texts_of_map_binary (fun _ => texts_of_literal) h
  | greaterThan | greaterThanOrEqual | lessThan | lessThanOrEqual =>
    exact texts_of_map_binary (fun _ => texts_of_verbatim) h
  | contains | startsWith | endsWith =>
    cases h
    exact Expr.texts_like _ _
  | isNull | isNotNull =>
    cases h
    simp [Expr.texts_isNull, Operator.literalTexts]
  | oneOf =>
    obtain ⟨exprs, hexprs, rfl⟩ := map_eq_ok h
    rw [Expr.texts_oneOf, texts_of_literals hexprs, Operator.literalTexts,
      trimmedPieces_eq]
  | between =>
    simp only [compare] at h
    split at h
    · next low high hpieces =>
      obtain ⟨first, hfirst, h⟩ := bind_eq_ok h
      obtain ⟨second, hsecond, h⟩ := bind_eq_ok h
      cases h
      rw [Expr.texts_between, texts_of_literal hfirst, texts_of_literal hsecond,
        Operator.literalTexts, ← trimmedPieces_eq, hpieces]
      simp
    · cases h

theorem texts_of_predicate {expr : Expr} (h : filter.predicate strict = .ok expr) :
    expr.texts = filter.texts := by
  simp only [predicate] at h
  split at h
  · cases h
  · next op hop =>
    split at h
    · cases h
    · rw [texts_of_compare h, texts, literalTexts, hop]
      rfl

end Filter

theorem texts_foldl_and (first : Expr) (rest : List Expr) :
    (rest.foldl Expr.and first).texts = first.texts ++ rest.flatMap Expr.texts := by
  induction rest generalizing first with
  | nil => simp
  | cons next rest ih =>
    rw [List.foldl_cons, ih, Expr.and, Expr.texts_binary, List.flatMap_cons, List.append_assoc]

theorem texts_conditionClause (predicates : List Expr) :
    (Query.conditionClause (conjunction predicates)).flatMap Token.texts =
      predicates.flatMap Expr.texts := by
  cases predicates with
  | nil => rfl
  | cons first rest =>
    rw [conjunction, Query.conditionClause, Token.texts_clause, ← Expr.texts, texts_foldl_and,
      List.flatMap_cons]

namespace Configuration

variable {config : Configuration} {strict : Bool}

theorem texts_selectList {primary : String} (h : config.primaryTable? = some primary) :
    (Token.listed ((config.selectList (TableName.parse primary)).map
      Sql.SelectItem.tokens)).flatMap Token.texts =
      if config.fields = [] then config.primaryTexts else config.fields.flatMap Field.texts := by
  rw [Token.texts_listed, selectList]
  by_cases hfields : config.fields = []
  · have hstar : (Sql.SelectItem.tokens
        { expr := .star (some (TableName.parse primary)) }).flatMap Token.texts =
        tableTexts primary := List.append_nil _
    simp [hfields, hstar, primaryTexts, h]
  · simp only [hfields, List.isEmpty_iff, if_false, List.flatMap_map]
    exact List.flatMap_congr fun field _ => field.texts_tokens

theorem texts_source {primary : String} (h : config.primaryTable? = some primary) :
    (Query.sourceClause (some (TableName.parse primary))).flatMap Token.texts =
      config.primaryTexts := by
  have hprimary : config.primaryTexts = tableTexts primary := by simp [primaryTexts, h]
  rw [Query.sourceClause, Token.texts_clause, hprimary]
  exact List.append_nil _

theorem texts_predicates {predicates : List Expr} (h : config.predicates strict = .ok predicates) :
    predicates.flatMap Expr.texts = config.counting.flatMap Filter.texts := by
  rw [← activeFilters_eq]
  have hmap := Outcome.map_eq_map_of_mapM (fun _ _ => Filter.texts_of_predicate) h
  rw [List.flatMap_def, hmap, List.flatMap_def]

/-- The tokens of the query of a report carry the texts of the report. -/
theorem texts_body {query : Query} (h : config.query strict = .ok query) :
    query.body.flatMap Token.texts = config.texts := by
  obtain ⟨primary, predicates, hprimary, hpredicates, rfl⟩ := query_eq_ok_iff.mp h
  have hjoins : ((config.joins.map Link.join).flatMap fun join =>
      Token.mark .blank :: join.tokens).flatMap Token.texts = config.joins.flatMap Link.texts := by
    rw [List.flatMap_assoc, List.flatMap_map]
    exact List.flatMap_congr fun link _ => link.texts_tokens
  have hgrouping : (Query.optionalClause .GROUP_BY ((config.groupBy.map fun key =>
      columnOf key.table key.column).map Expr.tokens)).flatMap Token.texts =
      config.groupBy.flatMap fun key => columnTexts key.table key.column := by
    rw [Query.texts_optionalClause, List.flatMap_map]
    exact List.flatMap_congr fun key _ => texts_columnOf _ _
  have hordering : (Query.optionalClause .ORDER_BY ((config.sortBy.map SortKey.sortItem).map
      Sql.SortItem.tokens)).flatMap Token.texts =
      config.sortBy.flatMap fun key => columnTexts key.table key.column := by
    rw [Query.texts_optionalClause, List.flatMap_map]
    exact List.flatMap_congr fun key _ => key.texts_tokens
  -- clause by clause, in the order of the statement
  simp only [Query.body, Query.clauses, compiled, List.flatMap_append, texts_selectList hprimary,
    texts_source hprimary, hjoins, texts_conditionClause, texts_predicates hpredicates, hgrouping,
    hordering, texts, List.append_assoc]

end Configuration

/-! ### Forbidden words -/

/-- Neither keywords nor the word of the row limit mention a forbidden word. -/
theorem isForeign_of_mem {word : String} (h : word ∈ Guard.forbiddenWords) :
    IsForeign word.toList where
  isCapital := Guard.isCapital_of_mem h
  keyword := by
    have hall : ∀ k : Sql.Keyword, ∀ word ∈ Guard.forbiddenWords,
        ¬ Mentions word.toList k.text.toList := by
      intro k
      cases k <;> decide +kernel
    exact fun k => hall k word h
  top := by
    have hall : ∀ word ∈ Guard.forbiddenWords, ¬ Mentions word.toList "TOP".toList := by
      decide +kernel
    exact hall word h

theorem Aggregate.not_mentions {word : String} (h : word ∈ Guard.forbiddenWords)
    (aggregate : Aggregate) :
    ¬ Mentions word.toList (Token.function aggregate.name).text.toList := by
  have hall : ∀ word ∈ Guard.forbiddenWords,
      ¬ Mentions word.toList (Token.function aggregate.name).text.toList := by
    cases aggregate <;> decide +kernel
  exact hall word h

namespace Configuration

variable {config : Configuration} {strict : Bool}

/-- The functions in a report are aggregates, so they mention no forbidden word. -/
theorem not_mentions_function {query : Query} (hquery : config.query strict = .ok query)
    {word : String} (hword : word ∈ Guard.forbiddenWords) :
    ∀ t ∈ query.body, ∀ f, t = .function f → ¬ Mentions word.toList t.text.toList := by
  obtain ⟨predicates, -, hcompiled⟩ := exists_isCompiled hquery
  have hall : ∀ t ∈ query.tokens, ∀ f, t = .function f → ¬ Mentions word.toList t.text.toList := by
    refine hcompiled.forall_tokens ?_ ?_ ?_
    · rintro t ht f rfl
      exact absurd ht (by simp [Token.IsFixed])
    · intro aggregate _ _
      exact aggregate.not_mentions hword
    · rintro v - f hf
      cases hf
  intro t ht
  exact hall t (by simp [Query.tokens_eq_body, ht])

/-- The statement of a report passes the guard just when none of the texts that stand in it has,
    in upper case, a forbidden word in it. -/
theorem check_statement_iff {dialect : Dialect} {sql : String}
    (h : config.statement dialect strict = .ok sql) (parse : Guard.Parser) :
    Guard.checkBy parse sql .denylist = .ok () ↔
      ∀ text ∈ config.texts, ∀ word ∈ Guard.forbiddenWords,
        ¬ word.toList <:+: Text.upper text.toList := by
  obtain ⟨query, hquery, rfl⟩ := map_eq_ok h
  have hwords : ∀ word ∈ Guard.forbiddenWords,
      (Mentions word.toList (query.text dialect).toList ↔
        ∃ text ∈ config.texts, Mentions word.toList text.toList) := by
    intro word hword
    rw [← texts_body hquery]
    exact query.mentions_iff_texts (isForeign_of_mem hword) dialect
      (not_mentions_function hquery hword)
  have hcheck : Guard.checkBy parse (query.text dialect) .denylist = .ok () ↔
      ∀ word ∈ Guard.forbiddenWords, ¬ Mentions word.toList (query.text dialect).toList :=
    Guard.checkWords_select_iff (query.toList_text dialect)
  rw [hcheck]
  constructor
  · intro hsql text htext word hword hmentions
    exact hsql word hword ((hwords word hword).mpr ⟨text, htext, hmentions⟩)
  · intro htexts word hword hmentions
    obtain ⟨text, htext, hmentions⟩ := (hwords word hword).mp hmentions
    exact htexts text htext word hword hmentions

end Configuration

/-- The names and values of `awkward` mention no forbidden word, and its statement passes. -/
theorem check_statement_awkward : ∃ sql,
    awkward.statement .tsql false = .ok sql ∧
      Guard.checkBy Guard.Grammar.parse sql .denylist = .ok () := by
  have htext := congrArg (Except.map fun query => Query.text query .tsql) query_awkward
  refine ⟨_, htext, (Configuration.check_statement_iff htext _).mpr ?_⟩
  decide +kernel

/-- A word is found in a name whatever is doubled before it, and in letters that become capital. -/
example : Guard.checkWords "SELECT [a].[]]inſert] FROM [a]" = .error (.forbidden "INSERT") := by
  rfl

end Report

end ReportDesk
