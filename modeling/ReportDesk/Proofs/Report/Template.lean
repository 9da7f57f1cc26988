import ReportDesk.Proofs.Report.Validity
import ReportDesk.Proofs.Sql.Spelling

/-! # The text of reports

    What a report compiles to, told without queries and tokens: a text with a place for each part
    of the configuration. The clauses stand in a fixed order with one blank between, those without
    content are left out, and the row limit stands where the dialect has it. All words and marks are
    written out here, from the brackets around a name to the predicates of filters.

    The text is followed through the three stages that make it. Tokens are put together clause by
    clause; the parts of a query have the texts of the parts of the configuration they come from;
    and the row limit, which one of the dialects writes into the finished text, finds its place
    there because every statement begins with `SELECT` and a blank.
-/

namespace ReportDesk

namespace Sql

/-! ### Texts of tokens -/

theorem Token.text_mark (m : Mark) : (Token.mark m).text = m.text :=
  rfl

theorem Token.text_word (k : Keyword) : (Token.word k).text = k.text :=
  rfl

theorem Token.join_append (front back : List Token) :
    join (front ++ back) = join front ++ join back := by
  simp [join, String.join_append]

@[simp]
theorem Token.join_nil : join [] = "" :=
  rfl

theorem Token.join_cons (t : Token) (rest : List Token) :
    join (t :: rest) = t.text ++ join rest := by
  simp [join]

theorem Token.join_singleton (t : Token) : join [t] = t.text := by
  simp [join]

theorem Token.join_clause (k : Keyword) (content : List Token) :
    join (clause k content) = " " ++ k.text ++ " " ++ join content := by
  simp [clause, join_cons, Token.text, Mark.text, String.append_assoc]

theorem Token.join_listed (parts : List (List Token)) :
    join (listed parts) = ", ".intercalate (parts.map join) := by
  induction parts with
  | nil => rfl
  | cons part rest ih =>
    -- a comma and a blank are two tokens, but one text between the parts
    cases rest with
    | nil => simp [listed]
    | cons next rest =>
      have hcomma : (Token.mark .comma).text ++ (Token.mark .blank).text = ", " := rfl
      rw [listed_cons_cons, join_append, join_cons, join_cons, ih, ← hcomma]
      simp [String.append_assoc]

theorem Expr.join_tokens (expr : Expr) : Token.join expr.tokens = expr.text :=
  rfl

theorem Expr.text_binary (left : Expr) (op : BinaryOp) (right : Expr) :
    (Expr.binary left op right).text =
      left.text ++ (" " ++ op.token.text ++ " ") ++ right.text := by
  rw [text, tokens, Token.join_append, Token.join_cons, Token.join_cons, Token.join_cons]
  simp [join_tokens, Token.text_mark, Mark.text, String.append_assoc]

theorem Expr.text_like (subject pattern : Expr) :
    (Expr.like subject pattern).text = subject.text ++ " LIKE " ++ pattern.text := by
  have hword : " LIKE " = " " ++ Keyword.LIKE.text ++ " " := rfl
  rw [text, tokens, Token.join_append, Token.join_clause, hword]
  simp [join_tokens, String.append_assoc]

theorem Expr.text_oneOf (subject : Expr) (values : List Expr) :
    (Expr.oneOf subject values).text =
      subject.text ++ " IN (" ++ ", ".intercalate (values.map Expr.text) ++ ")" := by
  have hword : " IN (" = " " ++ Keyword.IN.text ++ " " ++ Mark.opening.text := rfl
  have hclosing : ")" = Mark.closing.text := rfl
  have htexts : (values.map Expr.tokens).map Token.join = values.map Expr.text := by
    rw [List.map_map]
    rfl
  rw [text, tokens, tokensOfEach_eq_map, Token.join_append, Token.join_clause, hword,
    hclosing]
  simp only [List.cons_append, Token.join_cons, Token.join_append, Token.join_listed, htexts,
    Token.join_nil, Token.text_mark, join_tokens, String.append_assoc, String.append_empty]

theorem Expr.text_between (subject low high : Expr) :
    (Expr.between subject low high).text =
      subject.text ++ " BETWEEN " ++ low.text ++ " AND " ++ high.text := by
  have hbetween : " BETWEEN " = " " ++ Keyword.BETWEEN.text ++ " " := rfl
  have hand : " AND " = " " ++ Keyword.AND.text ++ " " := rfl
  rw [text, tokens, Token.join_append, Token.join_append, Token.join_clause, Token.join_clause,
    hbetween, hand]
  simp [join_tokens, String.append_assoc]

theorem Expr.text_isNull (subject : Expr) (negated : Bool) :
    (Expr.isNull subject negated).text =
      subject.text ++ if negated then " IS NOT NULL" else " IS NULL" := by
  rw [text, tokens, Token.join_append, Token.join_cons, Token.join_singleton]
  cases negated <;> rfl

/-! ### Texts of clauses -/

/-- Texts one after another, each with a blank before it. -/
def spaced (texts : List String) : String :=
  String.join (texts.map (" " ++ ·))

theorem spaced_append (front back : List String) :
    spaced (front ++ back) = spaced front ++ spaced back := by
  simp [spaced, String.join_append]

theorem spaced_singleton (text : String) : spaced [text] = " " ++ text := by
  simp [spaced]

/-- Texts with blanks between are the first one and, each after a blank, the others. -/
theorem intercalate_blank (first : String) (rest : List String) :
    " ".intercalate (first :: rest) = first ++ spaced rest := by
  induction rest generalizing first with
  | nil => simp [spaced]
  | cons next rest ih => simp [ih, spaced, String.append_assoc]

/-- A clause that lists its content is one text, or none when there is no content. -/
theorem Query.join_optionalClause (k : Keyword) {α : Type} {tokens : α → List Token}
    {written : α → String} (h : ∀ a, Token.join (tokens a) = written a) (as : List α) :
    Token.join (optionalClause k (as.map tokens)) =
      spaced (if as = [] then [] else [k.text ++ " " ++ ", ".intercalate (as.map written)]) := by
  cases as with
  | nil => rfl
  | cons a rest =>
    have htexts : ((a :: rest).map tokens).map Token.join = (a :: rest).map written := by
      rw [List.map_map]
      exact List.map_congr_left fun b _ => h b
    have hclause : optionalClause k ((a :: rest).map tokens) =
        Token.clause k (Token.listed ((a :: rest).map tokens)) := rfl
    rw [hclause, Token.join_clause, Token.join_listed, htexts, if_neg (by simp), spaced_singleton]
    simp [String.append_assoc]

/-- Joins are one text each. -/
theorem Query.join_joins {α : Type} {join : α → Join} {written : α → String}
    (h : ∀ a, Token.join (join a).tokens = written a) (as : List α) :
    Token.join ((as.map join).flatMap fun join => .mark .blank :: join.tokens) =
      spaced (as.map written) := by
  induction as with
  | nil => rfl
  | cons a rest ih =>
    rw [List.map_cons, List.flatMap_cons, Token.join_append, ih, Token.join_cons, h]
    simp [spaced, Token.text_mark, Mark.text]

/-- The text of a query is put together from its body and the places a row limit can have. -/
theorem Query.text_eq (query : Query) (dialect : Dialect) :
    query.text dialect =
      "SELECT " ++ String.ofList (query.topChars dialect) ++ Token.join query.body ++
        Token.join (query.limitClause dialect) := by
  rw [← String.toList_inj, toList_text]
  simp [Token.toList_join, Token.chars]

end Sql

namespace Report

open Outcome (map_eq_ok)
open Sql (Dialect Expr Query TableName Token)

/-! ### Names and literals -/

/-- A text with one of its characters written twice wherever it stands. -/
def doubled (mark : Char) (text : String) : String :=
  String.ofList (text.toList.flatMap fun c => if c = mark then [mark, mark] else [c])

/-- A name between brackets, each closing bracket in it written twice. -/
def inBrackets (name : String) : String :=
  "[" ++ doubled ']' name ++ "]"

/-- A text between single quotes, each of them in it written twice. -/
def inQuotes (text : String) : String :=
  "'" ++ doubled '\'' text ++ "'"

theorem ofList_doubling (mark : Char) (text : String) :
    String.ofList (Sql.doubling mark text.toList) = doubled mark text := by
  refine congrArg String.ofList (List.flatMap_congr fun c _ => ?_)
  by_cases hc : c = mark <;> simp [hc]

theorem quoteName_eq (name : String) : Sql.quoteName name = inBrackets name := by
  rw [Sql.quoteName, ofList_doubling, inBrackets]

theorem quoteString_eq (text : String) : Sql.quoteString text = inQuotes text := by
  rw [Sql.quoteString, Sql.escapeString, ofList_doubling, inQuotes]

/-- A table between brackets, cut at its first dot into a schema and its own name if there is
    something on both sides. -/
def tableText (name : String) : String :=
  let front := name.toList.takeWhile (· ≠ '.')
  let back := (name.toList.dropWhile (· ≠ '.')).tail
  if front = [] ∨ back = [] then inBrackets name
  else inBrackets (String.ofList front) ++ "." ++ inBrackets (String.ofList back)

/-- A column with its table. -/
def columnText (table column : String) : String :=
  tableText table ++ "." ++ inBrackets column

/-! ### The template -/

/-- The function that is applied to a column. -/
def Aggregate.functionText : Aggregate → String
  | .sum => "SUM"
  | .count => "COUNT"
  | .avg => "AVG"
  | .min => "MIN"
  | .max => "MAX"

/-- A column of the report, in the function applied to it if there is one. -/
def Field.valueText (field : Field) : String :=
  match field.aggregate with
  | some aggregate => aggregate.functionText ++ "(" ++ columnText field.table field.column ++ ")"
  | none => columnText field.table field.column

/-- The alias of a column; one without characters is none. -/
def Field.aliasText (field : Field) : String :=
  match field.asName with
  | some name => if name = "" then "" else " AS " ++ inBrackets name
  | none => ""

/-- An item of the select list. -/
def Field.template (field : Field) : String :=
  field.valueText ++ field.aliasText

/-- The word for a kind of join. -/
def kindText : Sql.JoinKind → String
  | .inner => "INNER"
  | .left => "LEFT"
  | .right => "RIGHT"
  | .full => "FULL"

/-- A joined table and the equality of two columns. -/
def Link.template (link : Link) : String :=
  kindText link.kind ++ " JOIN " ++ tableText link.rightTable ++ " ON " ++
    columnText link.leftTable link.leftColumn ++ " = " ++
    columnText link.rightTable link.rightColumn

/-- The word for a direction. -/
def directionText : Sql.Direction → String
  | .asc => "ASC"
  | .desc => "DESC"

/-- A sort key with its direction. -/
def SortKey.template (key : SortKey) : String :=
  columnText key.table key.column ++ " " ++ directionText key.direction

namespace Filter

/-- A value as the type of the column wants it: quoted for strings, else as it is. -/
def literalText (filter : Filter) (value : String) : String :=
  if IsStringType filter.declaredType then inQuotes value else value

/-- What stands behind the column of a filter with an operator. -/
def conditionText (filter : Filter) : Operator → String
  | .equals => " = " ++ filter.literalText filter.given
  | .notEquals => " <> " ++ filter.literalText filter.given
  | .contains => " LIKE " ++ inQuotes ("%" ++ filter.given ++ "%")
  | .startsWith => " LIKE " ++ inQuotes (filter.given ++ "%")
  | .endsWith => " LIKE " ++ inQuotes ("%" ++ filter.given)
  | .greaterThan => " > " ++ filter.given
  | .greaterThanOrEqual => " >= " ++ filter.given
  | .lessThan => " < " ++ filter.given
  | .lessThanOrEqual => " <= " ++ filter.given
  | .isNull => " IS NULL"
  | .isNotNull => " IS NOT NULL"
  | .oneOf =>
    " IN (" ++ ", ".intercalate ((partsAt ',' filter.given).map filter.literalText) ++ ")"
  | .between =>
    " BETWEEN " ++ " AND ".intercalate ((partsAt '|' filter.given).map filter.literalText)

/-- Whether a text is what is written for a filter: it has an operator that accepts its value. -/
def IsWritten (filter : Filter) (strict : Bool) (text : String) : Prop :=
  ∃ op : Operator, op.IsNamedBy filter.operator ∧ filter.Accepts strict op ∧
    text = columnText filter.table filter.column ++ filter.conditionText op

end Filter

namespace Configuration

/-- What is selected: the columns, or all of the first table when there are none. -/
def itemsText (config : Configuration) (primary : String) : String :=
  if config.fields = [] then tableText primary ++ ".*"
  else ", ".intercalate (config.fields.map Field.template)

/-- The row limit of T-SQL, directly after `SELECT` and a blank. -/
def topText (config : Configuration) : Dialect → String
  | .tsql => if config.limit = 0 then "" else "TOP " ++ toString config.limit.toNat ++ " "
  | .sqlite => ""

/-- The row limit of SQLite, a clause of its own. -/
def limitTexts (config : Configuration) : Dialect → List String
  | .tsql => []
  | .sqlite => if config.limit = 0 then [] else ["LIMIT " ++ toString config.limit.toNat]

/-- The clauses after the select list but the row limit. -/
def clauseTexts (config : Configuration) (primary : String) (fragments : List String) :
    List String :=
  ("FROM " ++ tableText primary) :: config.joins.map Link.template ++
    (if config.counting = [] then [] else ["WHERE " ++ " AND ".intercalate fragments]) ++
    (if config.groupBy = [] then []
      else ["GROUP BY " ++ ", ".intercalate
        (config.groupBy.map fun key => columnText key.table key.column)]) ++
    (if config.sortBy = [] then []
      else ["ORDER BY " ++ ", ".intercalate (config.sortBy.map SortKey.template)])

/-- The text of a report with the given first table and the given fragments of its filters. -/
def template (config : Configuration) (dialect : Dialect) (primary : String)
    (fragments : List String) : String :=
  " ".intercalate
    (("SELECT " ++ config.topText dialect ++ config.itemsText primary) ::
      config.clauseTexts primary fragments ++ config.limitTexts dialect)

end Configuration

/-! ### Parts of a query -/

theorem text_token_parse (name : String) : (TableName.parse name).token.text = tableText name := by
  unfold TableName.parse tableText
  rw [Text.cutAt_eq]
  cases hback : name.toList.dropWhile (· ≠ '.') with
  | nil => simp [TableName.token, Token.text, quoteName_eq]
  | cons dot back =>
    -- an empty side of the dot leaves the name in one piece
    cases hfront : name.toList.takeWhile (· ≠ '.') <;> cases back <;>
      simp [TableName.token, Token.text, quoteName_eq]

theorem text_columnOf (table column : String) :
    (columnOf table column).text = columnText table column := by
  rw [Expr.text, tokens_columnOf, Token.join_cons, Token.join_cons, Token.join_singleton,
    text_token_parse]
  simp [columnText, Token.text, Sql.Mark.text, quoteName_eq, String.append_assoc]

theorem Aggregate.text_function (aggregate : Aggregate) :
    (Token.function aggregate.name).text = aggregate.functionText := by
  cases aggregate <;> rfl

/-- A function of a column has the column between brackets. -/
theorem text_call (aggregate : Aggregate) (column : Expr) :
    (Expr.call aggregate.name [column]).text =
      aggregate.functionText ++ "(" ++ column.text ++ ")" := by
  rw [Expr.text, tokens_call, Token.join_cons, Token.join_cons, Token.join_append,
    Token.join_singleton, aggregate.text_function]
  simp [Expr.text, Token.text, Sql.Mark.text, String.append_assoc]

theorem Field.text_expr (field : Field) : field.selectItem.expr.text = field.valueText := by
  unfold selectItem valueText
  cases field.aggregate with
  | none => exact text_columnOf _ _
  | some aggregate =>
    rw [← text_columnOf]
    exact text_call aggregate _

theorem Field.join_tokens (field : Field) :
    Token.join field.selectItem.tokens = field.template := by
  rw [Sql.SelectItem.tokens, Token.join_append, Expr.join_tokens, field.text_expr, template]
  congr 1
  unfold selectItem aliasText
  cases field.asName with
  | none => rfl
  | some name =>
    -- an alias without characters is dropped, and its clause with it
    by_cases hname : name = ""
    · simp [Option.filter, hname, Token.join]
    · simp [Option.filter, hname, Token.join_clause, Token.join_singleton, Token.text,
        quoteName_eq]
      rfl

theorem Link.text_condition (link : Link) :
    link.join.condition.text =
      columnText link.leftTable link.leftColumn ++ " = " ++
        columnText link.rightTable link.rightColumn := by
  rw [join, Expr.text_binary, text_columnOf, text_columnOf]
  rfl

theorem Link.join_tokens (link : Link) : Token.join link.join.tokens = link.template := by
  have hon : " " ++ Sql.Keyword.ON.text ++ " " = " ON " := rfl
  have hjoin : " " ++ (Sql.Keyword.JOIN.text ++ " ") = " JOIN " := rfl
  have hkind : link.kind.keyword.text = kindText link.kind := by cases link.kind <;> rfl
  rw [Sql.Join.tokens, Token.join_append, Token.join_clause, Expr.join_tokens, link.text_condition,
    hon]
  simp only [Token.join_cons, Token.join_nil, Token.text_mark, Token.text_word, join,
    text_token_parse, template]
  rw [← hjoin, ← hkind]
  simp [Sql.Mark.text, String.append_assoc]

theorem SortKey.join_tokens (key : SortKey) :
    Token.join key.sortItem.tokens = key.template := by
  have hdirection : key.direction.keyword.text = directionText key.direction := by
    cases key.direction <;> rfl
  rw [Sql.SortItem.tokens, Token.join_append, Expr.join_tokens, sortItem, text_columnOf, template,
    ← hdirection]
  simp [Token.join_cons, Token.text_mark, Token.text_word, Sql.Mark.text, String.append_assoc]

/-- The text of a conjunction has `AND` between those of its parts. -/
theorem text_foldl_and (first : Expr) (rest : List Expr) :
    (rest.foldl Expr.and first).text = " AND ".intercalate ((first :: rest).map Expr.text) := by
  -- the conjunction so far is the left side of the next one, so it plays the part of `first`
  induction rest generalizing first with
  | nil => simp
  | cons next rest ih =>
    have hand : " " ++ Sql.BinaryOp.and.token.text ++ " " = " AND " := rfl
    rw [List.foldl_cons, ih, List.map_cons, Expr.and, Expr.text_binary, hand,
      String.intercalate_cons_append]
    simp

theorem join_conditionClause (predicates : List Expr) :
    Token.join (Query.conditionClause (conjunction predicates)) =
      Sql.spaced (if predicates = [] then []
        else ["WHERE " ++ " AND ".intercalate (predicates.map Expr.text)]) := by
  cases predicates with
  | nil => rfl
  | cons first rest =>
    have hwhere : Sql.Keyword.WHERE.text ++ " " = "WHERE " := rfl
    simp only [conjunction, Query.conditionClause, Token.join_clause, Expr.join_tokens,
      text_foldl_and, reduceCtorEq, if_false, Sql.spaced_singleton, ← hwhere]
    simp [String.append_assoc]

/-! ### Predicates -/

namespace Filter

variable {filter : Filter} {strict : Bool} {value : String} {expr : Expr}

theorem text_string (text : String) : (Expr.string text).text = inQuotes text := by
  rw [Expr.text, Expr.tokens, Token.join_singleton, Token.text, quoteString_eq]

theorem text_subject (filter : Filter) :
    filter.subject.text = columnText filter.table filter.column :=
  text_columnOf _ _

theorem text_verbatim (h : filter.verbatim strict value = .ok expr) : expr.text = value := by
  unfold verbatim at h
  split at h
  · cases h
  · cases h
    rw [Expr.text, Expr.tokens, Token.join_singleton, Token.text]

theorem text_literal (h : filter.literal strict value = .ok expr) :
    expr.text = filter.literalText value := by
  unfold literal at h
  simp only [isStringType_eq, decide_eq_true_eq] at h
  unfold literalText
  split at h
  · next hstring =>
    cases h
    rw [if_pos hstring, text_string]
  · next hstring => rw [if_neg hstring, text_verbatim h]

theorem text_literals {values : List String} {exprs : List Expr}
    (h : filter.literals strict values = .ok exprs) :
    exprs.map Expr.text = values.map filter.literalText := by
  rw [literals_eq_mapM] at h
  exact Outcome.map_eq_map_of_mapM (fun _ _ => text_literal) h

/-- A comparison of the column with something. -/
theorem text_compared {op : Sql.BinaryOp} {sign written : String}
    {outcome : Except FilterError Expr}
    (h : outcome.map (.binary filter.subject op) = .ok expr)
    (hsign : " " ++ op.token.text ++ " " = sign)
    (hwritten : ∀ literal, outcome = .ok literal → literal.text = written) :
    expr.text = columnText filter.table filter.column ++ (sign ++ written) := by
  obtain ⟨literal, hliteral, rfl⟩ := map_eq_ok h
  rw [Expr.text_binary, text_subject, hsign, hwritten literal hliteral, String.append_assoc]

/-- A comparison of the column with a pattern. -/
theorem text_matched (filter : Filter) (pattern : String) :
    (Expr.like filter.subject (.string pattern)).text =
      columnText filter.table filter.column ++ (" LIKE " ++ inQuotes pattern) := by
  rw [Expr.text_like, text_string, text_subject, String.append_assoc]

theorem text_compare {op : Operator} (h : filter.compare strict filter.given op = .ok expr) :
    expr.text = columnText filter.table filter.column ++ filter.conditionText op := by
  cases op with
  | equals | notEquals => exact text_compared h rfl fun _ => text_literal
  | greaterThan | greaterThanOrEqual | lessThan | lessThanOrEqual =>
    exact text_compared h rfl fun _ => text_verbatim
  | contains | startsWith | endsWith =>
    cases h
    exact filter.text_matched _
  | isNull | isNotNull =>
    cases h
    rw [Expr.text_isNull, text_subject]
    rfl
  | oneOf =>
    obtain ⟨exprs, hexprs, rfl⟩ := map_eq_ok h
    rw [trimmedPieces_eq] at hexprs
    rw [Expr.text_oneOf, text_subject, text_literals hexprs, conditionText]
    simp [String.append_assoc]
  | between =>
    simp only [compare, trimmedPieces_eq] at h
    split at h
    · next low high hparts =>
      obtain ⟨first, hfirst, h⟩ := Outcome.bind_eq_ok h
      obtain ⟨second, hsecond, h⟩ := Outcome.bind_eq_ok h
      cases h
      rw [Expr.text_between, text_subject, text_literal hfirst, text_literal hsecond,
        conditionText, hparts]
      simp [String.append_assoc]
    · cases h

/-- A filter has a predicate with a text just when the text is what is written for it. -/
theorem text_predicate_iff {text : String} :
    (filter.predicate strict).map Expr.text = .ok text ↔ filter.IsWritten strict text := by
  constructor
  · intro h
    obtain ⟨predicate, hpredicate, rfl⟩ := map_eq_ok h
    obtain ⟨op, hop, haccepts⟩ := exists_predicate_eq_ok_iff.mp ⟨predicate, hpredicate⟩
    rw [predicate_of_given hop haccepts.given_ne] at hpredicate
    exact ⟨op, hop, haccepts, text_compare hpredicate⟩
  · rintro ⟨op, hop, haccepts, rfl⟩
    obtain ⟨predicate, hpredicate⟩ := exists_predicate_eq_ok_iff.mpr ⟨op, hop, haccepts⟩
    have hcompare := hpredicate
    rw [predicate_of_given hop haccepts.given_ne] at hcompare
    rw [hpredicate, ← text_compare hcompare]
    rfl

end Filter

namespace Configuration

variable {config : Configuration} {strict : Bool}

/-- The predicates of a report have some texts just when these are written for its filters. -/
theorem text_predicates_iff {texts : List String} :
    (config.predicates strict).map (List.map Expr.text) = .ok texts ↔
      List.Forall₂ (fun filter text => filter.IsWritten strict text) config.counting texts := by
  rw [predicates, ← Outcome.mapM_map, Outcome.mapM_eq_ok_iff, activeFilters_eq]
  simp only [Filter.text_predicate_iff]

theorem join_selectList (config : Configuration) (primary : String) :
    Token.join (Token.listed
      ((config.selectList (TableName.parse primary)).map Sql.SelectItem.tokens)) =
      config.itemsText primary := by
  unfold selectList itemsText
  rw [Token.join_listed, List.map_map]
  by_cases hfields : config.fields = []
  · have hstar : Token.join (Expr.star (some (TableName.parse primary))).tokens =
        tableText primary ++ ".*" := by
      simp only [Expr.tokens, Expr.qualifier, Token.join_append, Token.join_cons, Token.join_nil,
        text_token_parse, Token.text_mark]
      simp [Sql.Mark.text, String.append_assoc]
    simp [hfields, Sql.SelectItem.tokens, hstar]
  · have hitems : ∀ field ∈ config.fields,
        Token.join field.selectItem.tokens = field.template := fun field _ => field.join_tokens
    simp [hfields, List.map_congr_left hitems, Function.comp_def]

theorem join_clauses {predicates : List Expr} (primary : String)
    (h : config.predicates strict = .ok predicates) :
    Token.join (config.compiled (TableName.parse primary) predicates).clauses =
      Sql.spaced (config.clauseTexts primary (predicates.map Expr.text)) := by
  have hfrom : Token.join (Query.sourceClause (some (TableName.parse primary))) =
      Sql.spaced ["FROM " ++ tableText primary] := by
    have hword : Sql.Keyword.FROM.text ++ " " = "FROM " := rfl
    rw [Query.sourceClause, Token.join_clause, Token.join_singleton, text_token_parse,
      Sql.spaced_singleton, ← hword]
    simp [String.append_assoc]
  have hjoins := Query.join_joins Link.join_tokens config.joins
  -- there is a condition just when some filter counts
  have hnil : predicates = [] ↔ config.counting = [] := by
    have hlength := Outcome.length_of_mapM h
    rw [activeFilters_eq] at hlength
    rw [← List.length_eq_zero_iff, hlength, List.length_eq_zero_iff]
  have hwhere := join_conditionClause predicates
  have hgrouping := Query.join_optionalClause .GROUP_BY
    (fun key : GroupKey => text_columnOf key.table key.column) config.groupBy
  have hordering := Query.join_optionalClause .ORDER_BY SortKey.join_tokens config.sortBy
  have hgroup : Sql.Keyword.GROUP_BY.text ++ " " = "GROUP BY " := rfl
  have horder : Sql.Keyword.ORDER_BY.text ++ " " = "ORDER BY " := rfl
  have hcons : ("FROM " ++ tableText primary) :: config.joins.map Link.template =
      ["FROM " ++ tableText primary] ++ config.joins.map Link.template := rfl
  simp only [Query.clauses, compiled, Token.join_append, List.map_map, Function.comp_def, hfrom,
    hjoins, hwhere, hgrouping, hordering, hnil, hgroup, horder, clauseTexts, hcons,
    Sql.spaced_append]

theorem limit_eq_zero_iff (config : Configuration) : config.limit = 0 ↔ config.limit.toNat = 0 := by
  rw [← UInt64.toNat_inj]
  rfl

theorem ofList_topChars (config : Configuration) (source : TableName) (predicates : List Expr)
    (dialect : Dialect) :
    String.ofList ((config.compiled source predicates).topChars dialect) =
      config.topText dialect := by
  cases dialect with
  | sqlite => rfl
  | tsql =>
    -- a limit of zero is none, both in the query and here
    rw [← String.toList_inj, String.toList_ofList]
    by_cases hlimit : config.limit.toNat = 0
    · simp [Query.topChars, compiled, topText, limit_eq_zero_iff, hlimit]
    · simp [Query.topChars, compiled, topText, limit_eq_zero_iff, hlimit]

theorem join_limitClause (config : Configuration) (source : TableName) (predicates : List Expr)
    (dialect : Dialect) :
    Token.join ((config.compiled source predicates).limitClause dialect) =
      Sql.spaced (config.limitTexts dialect) := by
  cases dialect with
  | tsql => rfl
  | sqlite =>
    by_cases hlimit : config.limit.toNat = 0
    · simp [Query.limitClause, compiled, limitTexts, limit_eq_zero_iff, hlimit, Sql.spaced]
    · have hword : Sql.Keyword.LIMIT.text ++ " " = "LIMIT " := rfl
      have hcount : (Token.count config.limit.toNat).text = toString config.limit.toNat := rfl
      simp only [Query.limitClause, compiled, limitTexts, limit_eq_zero_iff, hlimit, if_false,
        Token.join_clause, Token.join_singleton, Sql.spaced_singleton, hcount, ← hword,
        String.append_assoc]

theorem text_compiled {predicates : List Expr} (primary : String)
    (h : config.predicates strict = .ok predicates) (dialect : Dialect) :
    (config.compiled (TableName.parse primary) predicates).text dialect =
      config.template dialect primary (predicates.map Expr.text) := by
  have hbody : Token.join (config.compiled (TableName.parse primary) predicates).body =
      config.itemsText primary ++
        Sql.spaced (config.clauseTexts primary (predicates.map Expr.text)) := by
    rw [Query.body, Token.join_append, join_clauses primary h]
    exact congrArg (· ++ _) (config.join_selectList primary)
  rw [Query.text_eq, hbody, ofList_topChars, join_limitClause, template, List.cons_append,
    Sql.intercalate_blank, Sql.spaced_append]
  simp only [String.append_assoc]

/-- A configuration has a statement just when its first table is not blank and each filter that
    counts can be written; the statement is then the template with what is written for them. -/
theorem statement_eq_ok_iff (config : Configuration) (dialect : Dialect) (strict : Bool)
    (text : String) :
    config.statement dialect strict = .ok text ↔
      ∃ first others fragments, config.tables = first :: others ∧ Text.HasInk first ∧
        List.Forall₂ (fun filter fragment => filter.IsWritten strict fragment) config.counting
          fragments ∧
        text = config.template dialect (Text.stripped first) fragments := by
  simp only [statement, ← text_predicates_iff, ← Text.trim_eq_stripped]
  constructor
  · intro h
    obtain ⟨query, hquery, rfl⟩ := map_eq_ok h
    obtain ⟨primary, predicates, hprimary, hpredicates, rfl⟩ := query_eq_ok_iff.mp hquery
    obtain ⟨first, others, htables, hfirst, rfl⟩ := primaryTable?_eq_some_iff.mp hprimary
    rw [Text.isBlankText_eq_false_iff] at hfirst
    refine ⟨first, others, _, htables, hfirst, ?_, text_compiled _ hpredicates dialect⟩
    rw [hpredicates]
    rfl
  · rintro ⟨first, others, fragments, htables, hfirst, hfragments, rfl⟩
    rw [← Text.isBlankText_eq_false_iff] at hfirst
    obtain ⟨predicates, hpredicates, rfl⟩ := map_eq_ok hfragments
    have hprimary := primaryTable?_eq_some_iff.mpr ⟨first, others, htables, hfirst, rfl⟩
    have hquery := query_eq_ok_iff.mpr ⟨_, predicates, hprimary, hpredicates, rfl⟩
    rw [hquery, ← text_compiled _ hpredicates dialect]
    rfl

end Configuration

/-- A range of numbers. -/
def within : Filter :=
  { table := "S", column := "r", declaredType := "int", operator := "between"
    value := some "2 |3" }

/-- A beginning of a text. -/
def beginning : Filter :=
  { table := "S", column := "o'", declaredType := "varchar", operator := " STARTS_WITH "
    value := some "d'" }

/-- A report with something in every clause, with a closing bracket in one name and dots in others,
    and with a filter that does not count. -/
def summed : Configuration where
  tables := [" d.S "]
  fields := [{ table := ".x", column := "y]", asName := some "n", aggregate := some .sum },
    { table := "S", column := "r", asName := some "" }]
  joins :=
    [{ kind := .left, leftTable := "d.S", leftColumn := "r", rightTable := ".x"
       rightColumn := "r" }]
  filters := [within, { table := " ", column := "r", operator := "?" }, beginning]
  groupBy := [{ table := "S", column := "r" }]
  sortBy := [{ table := "S", column := "r", direction := .desc }, { table := ".x", column := "k" }]
  limit := 5

/-- The statement of `summed` with a strict report, in both dialects. -/
theorem statement_eq_ok_iff_summed :
    let clauses := " FROM [d].[S] LEFT JOIN [.x] ON [d].[S].[r] = [.x].[r] " ++
      "WHERE [S].[r] BETWEEN 2 AND 3 AND [S].[o'] LIKE 'd''%' GROUP BY [S].[r] " ++
      "ORDER BY [S].[r] DESC, [.x].[k] ASC"
    summed.statement .tsql true =
      .ok ("SELECT TOP 5 SUM([.x].[y]]]) AS [n], [S].[r]" ++ clauses) ∧
    summed.statement .sqlite true =
      .ok ("SELECT SUM([.x].[y]]]) AS [n], [S].[r]" ++ clauses ++ " LIMIT 5") := by
  intro clauses
  have hwithin : within.IsWritten true "[S].[r] BETWEEN 2 AND 3" := by
    have hpieces : within.openPieces .between = ["2", "3"] := by decide +kernel
    refine ⟨.between, by decide +kernel, ⟨fun _ => by decide, fun _ => by decide, fun _ => ?_⟩,
      by decide +kernel⟩
    rw [hpieces]
    simpa using ⟨isNumeral_iff.mp (by decide : isNumeral "2".toList = true),
      isNumeral_iff.mp (by decide : isNumeral "3".toList = true)⟩
  have hbeginning : beginning.IsWritten true "[S].[o'] LIKE 'd''%'" := by
    have hpieces : beginning.openPieces .startsWith = [] := by decide +kernel
    refine ⟨.startsWith, by decide +kernel, ⟨fun _ => by decide, nofun, fun _ => ?_⟩,
      by decide +kernel⟩
    simp [hpieces]
  have hcounting : summed.counting = [within, beginning] := by
    rw [← Configuration.activeFilters_eq]
    decide +kernel
  have hfragments : List.Forall₂ (fun filter fragment => filter.IsWritten true fragment)
      summed.counting ["[S].[r] BETWEEN 2 AND 3", "[S].[o'] LIKE 'd''%'"] := by
    rw [hcounting]
    exact .cons hwithin (.cons hbeginning .nil)
  constructor
  · refine (summed.statement_eq_ok_iff .tsql true _).mpr
      ⟨" d.S ", [], _, rfl, by decide, hfragments, ?_⟩
    decide +kernel
  · refine (summed.statement_eq_ok_iff .sqlite true _).mpr
      ⟨" d.S ", [], _, rfl, by decide, hfragments, ?_⟩
    decide +kernel

end Report

end ReportDesk
