import ReportDesk.Sql.Token
import ReportDesk.Text.Pieces

/-! # Table names

    A table is named by its own name and possibly that of its schema. One text holds both, with a
    dot between.
-/

namespace ReportDesk.Sql

/-- The name of a table. -/
structure TableName where
  /-- The schema, when one is given. -/
  schema : Option String := none
  /-- The table's own name. -/
  table : String
  deriving DecidableEq, Repr

namespace TableName

/-- Reads `schema.table` at its first dot. A text without a dot, or with nothing on one side of
    the first one, is a table's own name as it stands. -/
def parse (text : String) : TableName :=
  match Text.cutAt '.' text.toList with
  | some (c :: schema, d :: table) =>
    { schema := some (String.ofList (c :: schema)), table := String.ofList (d :: table) }
  | _ => { table := text }

/-- The one text for a table: its own name, after the schema and a dot if there is a schema. -/
def text (name : TableName) : String :=
  match name.schema with
  | some schema => schema ++ "." ++ name.table
  | none => name.table

/-- A table name as a token. -/
def token (name : TableName) : Token :=
  .table name.schema name.table

end TableName

end ReportDesk.Sql
