import ReportDesk.Sql.Quoted

/-! # Dialects

    The two families of SQL a report is written for. A dialect says how names and strings are
    quoted, and where the row limit stands; keywords and marks are the same in all of them.
-/

namespace ReportDesk.Sql

/-- A family of SQL. -/
inductive Dialect where
  /-- Transact-SQL: the limit stands after SELECT, as `TOP n`. -/
  | tsql
  /-- SQLite: the limit is the last clause, `LIMIT n`. -/
  | sqlite
  deriving DecidableEq, Repr

/-- Where the row limit of a query stands. -/
inductive LimitStyle where
  /-- As the last clause. -/
  | trailing
  /-- Behind the opening word of the finished text. -/
  | topRewrite
  deriving DecidableEq, Repr

namespace Dialect

/-- The name a dialect goes by in requests and answers. -/
def name : Dialect → String
  | .tsql => "tsql"
  | .sqlite => "sqlite"

/-- A name as it is quoted. SQLite accepts the brackets of T-SQL. -/
def quoteName : Dialect → String → String
  | .tsql => Sql.quoteName
  | .sqlite => Sql.quoteName

/-- A text as a string literal. -/
def quoteString : Dialect → String → String
  | .tsql => Sql.quoteString
  | .sqlite => Sql.quoteString

/-- Where the row limit stands. -/
def limitStyle : Dialect → LimitStyle
  | .tsql => .topRewrite
  | .sqlite => .trailing

end Dialect

end ReportDesk.Sql
