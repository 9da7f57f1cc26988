import ReportDesk.Sql.TableName

/-! # Expressions

    What can stand in the clauses of a report statement: columns, literals, aggregate calls and
    the shapes of a filter. Each has one written form, as tokens, which is the same in all dialects
    since `Expr.tokens` takes none. No brackets are added, so the written form of a conjunction
    under a comparison is that of its flat reading.
-/

namespace ReportDesk.Sql

/-- A sign or word between two expressions. -/
inductive BinaryOp where
  | eq | ne | lt | gt | le | ge | and
  deriving DecidableEq, Repr

/-- A binary operator as a token. -/
def BinaryOp.token : BinaryOp → Token
  | .eq => .mark .eq
  | .ne => .mark .ne
  | .lt => .mark .lt
  | .gt => .mark .gt
  | .le => .mark .le
  | .ge => .mark .ge
  | .and => .word .AND

/-- An expression. -/
inductive Expr where
  /-- A column, with its table if that is given. -/
  | column (table : Option TableName) (name : String)
  /-- All columns, of one table if that is given. -/
  | star (table : Option TableName)
  /-- A string literal. -/
  | string (text : String)
  /-- A literal that is written as it is. -/
  | verbatim (text : String)
  /-- Two expressions with an operator between. -/
  | binary (left : Expr) (op : BinaryOp) (right : Expr)
  /-- A call of a function. -/
  | call (function : String) (arguments : List Expr)
  /-- Whether a text matches a pattern. -/
  | like (subject pattern : Expr)
  /-- Whether a value is one of those listed. -/
  | oneOf (subject : Expr) (values : List Expr)
  /-- Whether a value lies between two others. -/
  | between (subject low high : Expr)
  /-- Whether a value is NULL, or is not when `negated`. -/
  | isNull (subject : Expr) (negated : Bool)
  deriving Repr, Inhabited

namespace Expr

/-- The conjunction of two expressions. -/
def and (left right : Expr) : Expr :=
  .binary left .and right

/-- A table and a dot in front of a column or a star. -/
def qualifier : Option TableName → List Token
  | some table => [table.token, .mark .dot]
  | none => []

mutual

/-- An expression as tokens. -/
def tokens : Expr → List Token
  | .column table name => qualifier table ++ [.name name]
  | .star table => qualifier table ++ [.mark .star]
  | .string text => [.string text]
  | .verbatim text => [.verbatim text]
  | .binary left op right =>
    left.tokens ++ .mark .blank :: op.token :: .mark .blank :: right.tokens
  | .call function arguments =>
    .function function :: .mark .opening :: Token.listed (tokensOfEach arguments) ++
      [.mark .closing]
  | .like subject pattern => subject.tokens ++ Token.clause .LIKE pattern.tokens
  | .oneOf subject values =>
    subject.tokens ++
      Token.clause .IN (.mark .opening :: Token.listed (tokensOfEach values) ++ [.mark .closing])
  | .between subject low high =>
    subject.tokens ++ Token.clause .BETWEEN low.tokens ++ Token.clause .AND high.tokens
  | .isNull subject negated =>
    subject.tokens ++ [.mark .blank, .word (if negated then .IS_NOT_NULL else .IS_NULL)]

/-- Each expression of a list as tokens. -/
def tokensOfEach : List Expr → List (List Token)
  | [] => []
  | expr :: rest => expr.tokens :: tokensOfEach rest

end

/-- An expression as it is written, the same in every dialect. -/
def text (expr : Expr) : String :=
  Token.join expr.tokens

end Expr

end ReportDesk.Sql
