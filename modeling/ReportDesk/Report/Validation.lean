import ReportDesk.Database.Basic
import ReportDesk.Report.References

/-! # Reports against a catalog

    The names a report refers to are looked up in the database: first all its tables, then all its
    columns. A table name stands for the first table of that name, or else for the first one that
    has that name after the first dot of its own. ASCII case makes no difference.
-/

namespace ReportDesk.Report

/-- Why a report does not fit a database. -/
inductive ValidationError where
  /-- A table that is not there. -/
  | unknownTable (table : String)
  /-- A column that is not there. -/
  | unknownColumn (table column : String)
  /-- The database could not be asked. -/
  | catalog (error : DatabaseError)
  deriving DecidableEq, Repr

/-- An error in words. -/
def ValidationError.message : ValidationError → String
  | .unknownTable table => "unknown table: " ++ table
  | .unknownColumn table column => "unknown column: " ++ table ++ "." ++ column
  | .catalog error => "catalog lookup failed: " ++ error.message

/-! ### Tables -/

/-- Whether a name is what stands after the first dot of an entry. -/
def namesPart (name entry : String) : Bool :=
  match Text.cutAt '.' entry.toList with
  | some (_, part) => Text.eqFolded (String.ofList part) name
  | none => false

/-- The entry of a catalog that a table name stands for. -/
def resolve (catalog : List String) (name : String) : Option String :=
  match catalog.find? fun entry => Text.eqFolded entry name with
  | some entry => some entry
  | none => catalog.find? (namesPart name)

/-- The entries that table names stand for, in order, or the first name that stands for none. -/
def resolveAll (catalog : List String) : List String → Except ValidationError (List String)
  | [] => .ok []
  | name :: rest =>
    match resolve catalog name with
    | none => .error (.unknownTable name)
    | some entry => (resolveAll catalog rest).map (entry :: ·)

/-! ### Columns -/

/-- The columns of each table, by the name that the report gives the table. -/
abbrev ColumnIndex := List (String × List String)

/-- The answers for tables, by name, or the first error among them. -/
def indexOf : List String → List (Except DatabaseError (List Column)) →
    Except ValidationError ColumnIndex
  | name :: names, answer :: answers =>
    match answer with
    | .error error => .error (.catalog error)
    | .ok columns => (indexOf names answers).map ((name, columns.map (·.name)) :: ·)
  | _, _ => .ok []

/-- Whether a table has a column, as far as an index tells. -/
def ColumnIndex.has (index : ColumnIndex) (table column : String) : Bool :=
  match index.find? fun entry => Text.eqFolded entry.1 table with
  | some (_, columns) => columns.any (Text.eqFolded · column)
  | none => false

/-- Looks up columns in an index, up to the first that is not there. -/
def checkColumns (index : ColumnIndex) : List (String × String) → Except ValidationError Unit
  | [] => .ok ()
  | (table, column) :: rest =>
    if index.has table column then checkColumns index rest
    else .error (.unknownColumn table column)

/-! ### Validation -/

variable {σ : Type}

/-- Looks up all names that a report refers to. Nothing is asked if it refers to no table. -/
def Configuration.validate (config : Configuration) (db : Database σ) :
    Action σ ValidationError Unit := do
  let tables := config.referencedTables
  if tables.isEmpty then return ()
  let catalog ← db.tables.adapt ValidationError.catalog
  let entries ← (resolveAll catalog tables : Except ValidationError (List String))
  let answers ← db.columnsOf entries
  let index ← (indexOf tables answers : Except ValidationError ColumnIndex)
  (checkColumns index config.referencedColumns : Except ValidationError Unit)

end ReportDesk.Report
