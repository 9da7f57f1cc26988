import ReportDesk.Database.Basic
import ReportDesk.Embedded.Change
import ReportDesk.Embedded.Grammar
import ReportDesk.Embedded.Selection

/-! # The embedded database

    A database in a file, open for reading only. Where there is no file, or one of another kind,
    every call fails.
-/

namespace ReportDesk.Embedded

/-- The labels and rows that a statement gives, `openValues` of its values not being given. -/
def Statement.outcome (store : Store) (openValues : Nat) :
    Statement → Except Fault (List String × List (List Value))
  | .empty => .error .nothing
  | .endless => .ok ([], [])
  | .create => .error .readOnly
  | .make name ifMissing => do
    makingOutcome store name ifMissing
    return ([], [])
  | .change target required deed => do
    deed.outcome store target required
    return ([], [])
  | .select selection => do
    let resolved ← selection.resolve store
    if openValues > 0 then .error (.placeholders openValues)
    return (resolved.outputs.map (·.label), ← resolved.rows)

/-- The table of labels and rows. -/
def tableOf (labels : List String) (rows : List (List Value)) : Except DatabaseError Table :=
  ((Table.ofLabels labels).pushAll (rows.map fun row => row.map Value.toCell)).mapError .result

/-- How a statement runs. One whose rows do not end is broken off when its time is over. -/
def run (store : Store) (sql : String) (millis : Nat) : Run :=
  match Grammar.read sql with
  | .error fault => .inTime (.error (.sqlite fault.message))
  | .ok (.endless, _) => .late (some (.error (.timeout (millis / 1000))))
  | .ok (statement, openValues) =>
    match statement.outcome store openValues with
    | .error fault => .inTime (.error (.sqlite fault.message))
    | .ok (labels, rows) => .inTime (tableOf labels rows)

/-- The columns of a table or view. A view's columns can all be null, and one that is declared
    without a type is told to hold bytes. -/
def Relation.described (relation : Relation) : List Column :=
  relation.columns.map fun column =>
    let type := column.toldType
    { name := column.name
      type := if relation.isView && type.isEmpty then "BLOB" else type
      nullable := relation.isView || column.nullable }

/-! ### Opening -/

/-- What is found at the path of a database. -/
inductive Found where
  /-- There is no file. -/
  | nothing
  /-- A database. -/
  | store (store : Store)
  /-- A file of another kind, that may be empty. -/
  | other (isEmpty : Bool)

/-- What every call to a database says whose file is not there. -/
def unopened (path : String) : DatabaseError :=
  .sqlite ("unable to open database file: " ++ path)

/-- What every call says when the file holds no database. -/
def foreign : DatabaseError := .sqlite "file is not a database"

/-- The store at a path. No path, and the one that stands for memory, give a new store with nothing
    in it; so does an empty file. -/
def openAt (path : String) (found : Found) : Except DatabaseError Store :=
  if path.isEmpty || path == ":memory:" then .ok {}
  else
    match found with
    | .nothing => .error (unopened path)
    | .store store => .ok store
    | .other isEmpty => if isEmpty then .ok {} else .error foreign

/-- The database of a store, or one that fails at every call because it did not open. -/
def database (opened : Except DatabaseError Store) : Database Unit where
  dialect := .sqlite
  listTables _ := (opened.map Store.names, ())
  listColumns names _ :=
    let answer (name : String) : Except DatabaseError (List Column) := do
      match (← opened).find? name with
      | some relation => return relation.described
      | none => throw (.tableNotFound name)
    (names.map answer, ())
  run sql millis _ :=
    match opened with
    | .error error => (.inTime (.error error), ())
    | .ok store => (Embedded.run store sql millis, ())

/-- The database at a path, where something is found. -/
def databaseAt (path : String) (found : Found) : Database Unit :=
  database (openAt path found)

end ReportDesk.Embedded
