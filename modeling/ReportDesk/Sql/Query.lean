import ReportDesk.Sql.Dialect
import ReportDesk.Sql.Expr

/-! # Queries

    A report statement as data, and its text. The clauses stand in a fixed order on one line with
    one blank between; their tokens do not depend on the dialect. The row limit is attached last: as
    the last clause, or by rewriting the start of the finished text.
-/

namespace ReportDesk.Sql

/-! ### The parts of a query -/

/-- An item of the select list. -/
structure SelectItem where
  /-- What is selected. -/
  expr : Expr
  /-- The name the column gets. -/
  asName : Option String := none
  deriving Repr

/-- Which rows without a partner a join keeps. -/
inductive JoinKind where
  | inner | left | right | full
  deriving DecidableEq, Repr

/-- The word a kind of join is written with. -/
def JoinKind.keyword : JoinKind → Keyword
  | .inner => .INNER
  | .left => .LEFT
  | .right => .RIGHT
  | .full => .FULL

/-- A joined table. -/
structure Join where
  /-- The kind of join. -/
  kind : JoinKind
  /-- The table that is joined. -/
  table : TableName
  /-- The condition that partners meet. -/
  condition : Expr
  deriving Repr

/-- The direction of a sort key. -/
inductive Direction where
  | asc | desc
  deriving DecidableEq, Repr

/-- The word a direction is written with. -/
def Direction.keyword : Direction → Keyword
  | .asc => .ASC
  | .desc => .DESC

/-- A sort key. -/
structure SortItem where
  /-- What is compared. -/
  expr : Expr
  /-- Which end comes first. -/
  direction : Direction := .asc
  deriving Repr

/-- A SELECT statement. -/
structure Query where
  /-- The select list. -/
  select : List SelectItem := []
  /-- The first table. -/
  source : Option TableName := none
  /-- The joined tables, in order. -/
  joins : List Join := []
  /-- The condition rows meet. -/
  condition : Option Expr := none
  /-- The grouping keys. -/
  grouping : List Expr := []
  /-- The sort keys. -/
  ordering : List SortItem := []
  /-- How many rows are returned at most. -/
  limit : Option Nat := none
  deriving Repr

namespace Query

/-! ### Building -/

/-- Adds a condition to those a query has. -/
def restrict (query : Query) (condition : Expr) : Query :=
  { query with
    condition := some (match query.condition with
      | some earlier => earlier.and condition
      | none => condition) }

/-- Sets the row limit; zero takes it away. -/
def limitTo (query : Query) (n : Nat) : Query :=
  { query with limit := if n = 0 then none else some n }

/-! ### Writing -/

end Query

/-- A select item as tokens. -/
def SelectItem.tokens (item : SelectItem) : List Token :=
  item.expr.tokens ++
    match item.asName with
    | some name => Token.clause .AS [.name name]
    | none => []

/-- A join as tokens. -/
def Join.tokens (join : Join) : List Token :=
  [.word join.kind.keyword, .mark .blank, .word .JOIN, .mark .blank, join.table.token] ++
    Token.clause .ON join.condition.tokens

/-- A sort key as tokens; the direction is always written. -/
def SortItem.tokens (item : SortItem) : List Token :=
  item.expr.tokens ++ [.mark .blank, .word item.direction.keyword]

namespace Query

/-- A clause that lists its content, absent when there is none. -/
def optionalClause (keyword : Keyword) (parts : List (List Token)) : List Token :=
  if parts.isEmpty then [] else Token.clause keyword (Token.listed parts)

/-- All clauses of a query but the row limit, as tokens. -/
def tokens (query : Query) : List Token :=
  .word .SELECT :: .mark .blank :: Token.listed (query.select.map SelectItem.tokens) ++
    (match query.source with
      | some table => Token.clause .FROM [table.token]
      | none => []) ++
    query.joins.flatMap (fun join => .mark .blank :: join.tokens) ++
    (match query.condition with
      | some condition => Token.clause .WHERE condition.tokens
      | none => []) ++
    optionalClause .GROUP_BY (query.grouping.map Expr.tokens) ++
    optionalClause .ORDER_BY (query.ordering.map SortItem.tokens)

/-- The row limit as a last clause. -/
def trailingLimit (n : Nat) : List Token :=
  [.word .LIMIT, .mark .blank, .count n]

/-- A finished text with `TOP n` after its opening `SELECT `; a text that opens otherwise stays as
    it is. -/
def insertTop (text : String) (n : Nat) : String :=
  match Text.after? "SELECT ".toList text.toList with
  | some rest => "SELECT TOP " ++ toString n ++ " " ++ String.ofList rest
  | none => text

/-- All clauses of a query in a dialect, as tokens. A limit that is put in by rewriting the text
    is not among them. -/
def tokensIn (query : Query) (dialect : Dialect) : List Token :=
  query.tokens ++
    match query.limit, dialect.limitStyle with
    | some n, .trailing => .mark .blank :: trailingLimit n
    | _, _ => []

/-- The text of a query in a dialect. -/
def text (query : Query) (dialect : Dialect) : String :=
  let written := Token.joinIn dialect (query.tokensIn dialect)
  match query.limit, dialect.limitStyle with
  | some n, .topRewrite => insertTop written n
  | _, _ => written

section

variable {query : Query}

theorem text_of_limit_eq_none (h : query.limit = none) (dialect : Dialect) :
    query.text dialect = Token.join query.tokens := by
  simp [text, tokensIn, h]

theorem text_sqlite_of_limit_eq_some {n : Nat} (h : query.limit = some n) :
    query.text .sqlite = Token.join (query.tokens ++ .mark .blank :: trailingLimit n) := by
  simp [text, tokensIn, h, Dialect.limitStyle]

theorem text_tsql_of_limit_eq_some {n : Nat} (h : query.limit = some n) :
    query.text .tsql = insertTop (Token.join query.tokens) n := by
  simp [text, tokensIn, h, Dialect.limitStyle]

end

end Query

end ReportDesk.Sql
