import ReportDesk.Sql.Dialect
import ReportDesk.Text.Case

/-! # Drivers

    The kinds of databases a report can be run on, by the names that settings give them.
-/

namespace ReportDesk

/-- A kind of database. -/
inductive Driver where
  | sqlite | mssql
  deriving DecidableEq, Repr

namespace Driver

/-- The name a driver goes by. -/
def name : Driver → String
  | .sqlite => "sqlite"
  | .mssql => "mssql"

/-- The dialect of a driver's database. -/
def dialect : Driver → Sql.Dialect
  | .sqlite => .sqlite
  | .mssql => .tsql

/-- The names of the drivers. -/
def names : List (String × Driver) :=
  [("sqlite", .sqlite), ("sqlite3", .sqlite), ("mssql", .mssql), ("sqlserver", .mssql),
   ("sql_server", .mssql)]

/-- Reads the name of a driver in any case. -/
def parse? (name : String) : Option Driver :=
  names.lookup (Text.lower name)

/-- What is said of a name that no driver has. -/
def unsupported (name : String) : String :=
  "Unsupported driver: " ++ Text.lower name ++ ". Supported: sqlite, mssql"

end Driver

end ReportDesk
