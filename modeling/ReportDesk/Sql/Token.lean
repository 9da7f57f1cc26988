import ReportDesk.Sql.Dialect
import ReportDesk.Text.Case

/-! # Tokens

    The pieces a statement is written from: keywords, marks, and pieces that carry a text. A list of
    tokens is written by putting their texts one after another; blanks are tokens too.

    The dialect comes in when tokens are written and when the rows are limited, and nowhere before.
    What makes tokens of an expression or of a query is not even given one, since none of its cases
    would look at it. So it holds by typing, and is not proved, that the tokens of a query are the
    same in all dialects; how they are written is proved for each dialect.
-/

namespace ReportDesk.Sql

/-- The keywords of a report statement. -/
inductive Keyword where
  | SELECT | FROM | WHERE | AND | AS | ON | JOIN | INNER | LEFT | RIGHT | FULL
  | GROUP_BY | ORDER_BY | ASC | DESC | LIMIT | IN | BETWEEN | LIKE | IS_NULL | IS_NOT_NULL
  deriving DecidableEq, Repr

/-- A keyword as it is written. -/
def Keyword.text : Keyword → String
  | .SELECT => "SELECT"
  | .FROM => "FROM"
  | .WHERE => "WHERE"
  | .AND => "AND"
  | .AS => "AS"
  | .ON => "ON"
  | .JOIN => "JOIN"
  | .INNER => "INNER"
  | .LEFT => "LEFT"
  | .RIGHT => "RIGHT"
  | .FULL => "FULL"
  | .GROUP_BY => "GROUP BY"
  | .ORDER_BY => "ORDER BY"
  | .ASC => "ASC"
  | .DESC => "DESC"
  | .LIMIT => "LIMIT"
  | .IN => "IN"
  | .BETWEEN => "BETWEEN"
  | .LIKE => "LIKE"
  | .IS_NULL => "IS NULL"
  | .IS_NOT_NULL => "IS NOT NULL"

/-- Punctuation, comparison signs and the blank between pieces. -/
inductive Mark where
  | comma | dot | star | opening | closing
  | eq | ne | lt | gt | le | ge
  | blank
  deriving DecidableEq, Repr

/-- A mark as it is written. -/
def Mark.text : Mark → String
  | .comma => ","
  | .dot => "."
  | .star => "*"
  | .opening => "("
  | .closing => ")"
  | .eq => "="
  | .ne => "<>"
  | .lt => "<"
  | .gt => ">"
  | .le => "<="
  | .ge => ">="
  | .blank => " "

/-- A piece of a statement. -/
inductive Token where
  /-- A keyword. -/
  | word (keyword : Keyword)
  /-- Punctuation, a sign or a blank. -/
  | mark (mark : Mark)
  /-- A name in brackets, such as a column or an alias. -/
  | name (text : String)
  /-- A table, with the schema before it if there is one. -/
  | table (schema : Option String) (name : String)
  /-- A row count. -/
  | count (value : Nat)
  /-- A string literal. -/
  | string (text : String)
  /-- The name of a function, written in upper case. -/
  | function (name : String)
  /-- A text that is written as it is. Filter values of other than string columns come this way,
      so they are checked before if a report demands it. -/
  | verbatim (text : String)
  deriving DecidableEq, Repr

/-- A token as a dialect writes it. -/
def Token.textIn (dialect : Dialect) : Token → String
  | .word k => k.text
  | .mark m => m.text
  | .name t => dialect.quoteName t
  | .table none t => dialect.quoteName t
  | .table (some s) t => dialect.quoteName s ++ "." ++ dialect.quoteName t
  | .count n => toString n
  | .string t => dialect.quoteString t
  | .function f => String.ofList (Text.upper f.toList)
  | .verbatim t => t

/-- The text of a list of tokens in a dialect. -/
def Token.joinIn (dialect : Dialect) (tokens : List Token) : String :=
  String.join (tokens.map (Token.textIn dialect))

/-- A token as it is written, the same in every dialect. -/
def Token.text : Token → String
  | .word k => k.text
  | .mark m => m.text
  | .name t => quoteName t
  | .table none t => quoteName t
  | .table (some s) t => quoteName s ++ "." ++ quoteName t
  | .count n => toString n
  | .string t => quoteString t
  | .function f => String.ofList (Text.upper f.toList)
  | .verbatim t => t

/-- The text of a list of tokens. -/
def Token.join (tokens : List Token) : String :=
  String.join (tokens.map Token.text)

/-- No token is written differently in another dialect. -/
theorem Token.textIn_eq (dialect : Dialect) : Token.textIn dialect = Token.text := by
  funext token
  cases token with
  | name t => cases dialect <;> rfl
  | table schema t => cases schema <;> cases dialect <;> rfl
  | string t => cases dialect <;> rfl
  | word k => rfl
  | mark m => rfl
  | count n => rfl
  | function f => rfl
  | verbatim t => rfl

@[simp] theorem Token.joinIn_eq (dialect : Dialect) (tokens : List Token) :
    Token.joinIn dialect tokens = Token.join tokens := by
  rw [joinIn, join, textIn_eq]

/-- Lists of tokens one after another, with a comma and a blank between. -/
def Token.listed (parts : List (List Token)) : List Token :=
  [Token.mark .comma, .mark .blank].intercalate parts

/-- A clause: its keyword after a blank, a blank, and what it holds. -/
def Token.clause (keyword : Keyword) (content : List Token) : List Token :=
  .mark .blank :: .word keyword :: .mark .blank :: content

end ReportDesk.Sql
