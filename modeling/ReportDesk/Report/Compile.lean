import ReportDesk.Report.Filter

/-! # Reports as statements

    From a configuration to the query it describes, and to the text of that query. Names are used
    as the configuration gives them; only the first table is freed of blanks around it.
-/

namespace ReportDesk.Report

open Sql (Dialect Expr Query SelectItem TableName)

/-- Why a configuration describes no statement. -/
inductive CompileError where
  /-- There is no first table. -/
  | noTables
  /-- A filter has no predicate. -/
  | filter (error : FilterError)
  deriving DecidableEq, Repr

/-- An error in words. -/
def CompileError.message : CompileError → String
  | .noTables => "report configuration must select at least one table"
  | .filter error => error.message

/-- A column of a table, both named in texts. -/
def columnOf (table column : String) : Expr :=
  .column (some (TableName.parse table)) column

/-- The select item of a column of the report. An empty alias is none. -/
def Field.selectItem (field : Field) : SelectItem :=
  let column := columnOf field.table field.column
  { expr := match field.aggregate with
      | some aggregate => .call aggregate.name [column]
      | none => column
    asName := field.asName.filter fun name => !name.isEmpty }

/-- The joined table of a link. -/
def Link.join (link : Link) : Sql.Join :=
  { kind := link.kind
    table := TableName.parse link.rightTable
    condition :=
      .binary (columnOf link.leftTable link.leftColumn) .eq
        (columnOf link.rightTable link.rightColumn) }

/-- The sort item of a sort key. -/
def SortKey.sortItem (key : SortKey) : Sql.SortItem :=
  { expr := columnOf key.table key.column, direction := key.direction }

/-- Adds the predicates of filters to a query, in order, up to the first that has none. -/
def addFilters (strict : Bool) (query : Query) : List Filter → Except CompileError Query
  | [] => .ok query
  | filter :: rest =>
    match filter.predicate strict with
    | .error error => .error (.filter error)
    | .ok predicate => addFilters strict (query.restrict predicate) rest

namespace Configuration

/-- The select list: one item for each field, or all columns of the first table. -/
def selectList (config : Configuration) (source : TableName) : List SelectItem :=
  if config.fields.isEmpty then [{ expr := .star (some source) }]
  else config.fields.map Field.selectItem

/-- The query a configuration describes. -/
def query (config : Configuration) (strict : Bool) : Except CompileError Query :=
  match config.primaryTable? with
  | none => .error .noTables
  | some primary => do
    let source := TableName.parse primary
    let base : Query :=
      { select := config.selectList source, source := source, joins := config.joins.map Link.join }
    let filtered ← addFilters strict base config.activeFilters
    return { filtered with
      grouping := config.groupBy.map fun key => columnOf key.table key.column
      ordering := config.sortBy.map SortKey.sortItem : Query }.limitTo config.limit.toNat

/-- The statement of a configuration in a dialect. -/
def statement (config : Configuration) (dialect : Dialect) (strict : Bool) :
    Except CompileError String :=
  (config.query strict).map fun query => query.text dialect

end Configuration

end ReportDesk.Report
