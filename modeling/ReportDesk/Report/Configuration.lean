import ReportDesk.Sql.Query
import ReportDesk.Text.Blank

/-! # Report configurations

    The declarative description of one report: which tables and columns, joined and filtered how,
    grouped and sorted by what, and how many rows. It names things as its author wrote them; blanks
    around a name are ignored only where a rule says so.
-/

namespace ReportDesk.Report

/-- An aggregate function around a column. -/
inductive Aggregate where
  | sum | count | avg | min | max
  deriving DecidableEq, Repr

/-- The function's name in SQL and in JSON. -/
def Aggregate.name : Aggregate → String
  | .sum => "SUM"
  | .count => "COUNT"
  | .avg => "AVG"
  | .min => "MIN"
  | .max => "MAX"

/-- A column of the report. -/
structure Field where
  /-- The table it comes from. -/
  table : String
  /-- The column's name there. -/
  column : String
  /-- Its name in the report. -/
  asName : Option String := none
  /-- The function applied to it. -/
  aggregate : Option Aggregate := none
  deriving DecidableEq, Repr

/-- A table joined to an earlier one where two columns are equal. -/
structure Link where
  /-- The kind of join. -/
  kind : Sql.JoinKind
  /-- The earlier table. -/
  leftTable : String
  /-- Its column. -/
  leftColumn : String
  /-- The table that is joined. -/
  rightTable : String
  /-- Its column. -/
  rightColumn : String
  deriving DecidableEq, Repr

/-- A condition on a column. -/
structure Filter where
  /-- The column's table. -/
  table : String := ""
  /-- The column. -/
  column : String := ""
  /-- The name of the column's type, which decides whether values are quoted. -/
  declaredType : String := ""
  /-- The name or sign of the operator, as its author wrote it. -/
  operator : String := ""
  /-- What the column is compared with. -/
  value : Option String := none
  deriving DecidableEq, Repr

/-- A column rows are grouped by. -/
structure GroupKey where
  /-- The column's table. -/
  table : String
  /-- The column. -/
  column : String
  deriving DecidableEq, Repr

/-- A column rows are sorted by. -/
structure SortKey where
  /-- The column's table. -/
  table : String
  /-- The column. -/
  column : String
  /-- Which end comes first. -/
  direction : Sql.Direction := .asc
  deriving DecidableEq, Repr

/-- The description of a report. -/
structure Configuration where
  /-- The selected tables, the first of which the others are joined to. -/
  tables : List String := []
  /-- The columns; all of the first table when there are none. -/
  fields : List Field := []
  /-- The joins, in order. -/
  joins : List Link := []
  /-- The conditions, all of which a row meets. -/
  filters : List Filter := []
  /-- The grouping keys. -/
  groupBy : List GroupKey := []
  /-- The sort keys. -/
  sortBy : List SortKey := []
  /-- How many rows at most; zero for all. -/
  limit : UInt64 := 0
  deriving DecidableEq, Repr

/-- Whether a filter names a table and a column. One that does not is left out of the report. -/
def Filter.isActive (filter : Filter) : Bool :=
  !Text.isBlankText filter.table && !Text.isBlankText filter.column

namespace Configuration

/-- The table of the FROM clause: the first one without blanks around it, unless nothing is left. -/
def primaryTable? (config : Configuration) : Option String :=
  match config.tables with
  | [] => none
  | first :: _ => if Text.isBlankText first then none else some (Text.trim first)

/-- The filters that count, in order. -/
def activeFilters (config : Configuration) : List Filter :=
  config.filters.filter Filter.isActive

end Configuration

end ReportDesk.Report
