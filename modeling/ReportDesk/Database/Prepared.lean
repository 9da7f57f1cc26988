import ReportDesk.Database.Basic

/-! # Databases with prepared answers

    A database that holds no data: it gives the answers it was prepared with. Its tables and columns
    stay the same; each statement takes the next of the prepared runs, whatever it says.
-/

namespace ReportDesk

/-- The answers of a database. -/
structure Prepared where
  /-- The dialect of its statements. -/
  dialect : Sql.Dialect := .tsql
  /-- The names of its tables. -/
  tables : Except DatabaseError (List String) := .ok []
  /-- The columns of tables, by name. There are no other tables. -/
  columns : List (String × Except DatabaseError (List Column)) := []

namespace Prepared

/-- The prepared columns of a table. -/
def columnsOf (prepared : Prepared) (name : String) : Except DatabaseError (List Column) :=
  (prepared.columns.lookup name).getD (.error (.tableNotFound name))

/-- The run of a statement and the runs that are left. When none is left it gives an empty table. -/
def next : List Run → Run × List Run
  | [] => (.inTime (.ok default), [])
  | run :: rest => (run, rest)

/-- The database with prepared answers. Its state is the runs that are left. -/
def database (prepared : Prepared) : Database (List Run) where
  dialect := prepared.dialect
  listTables runs := (prepared.tables, runs)
  listColumns names runs := (names.map prepared.columnsOf, runs)
  run _ _ runs := next runs

end Prepared

end ReportDesk
