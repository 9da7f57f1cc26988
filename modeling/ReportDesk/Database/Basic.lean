import ReportDesk.Sql.Dialect
import ReportDesk.Table.Basic
import ReportDesk.Worker.Message

/-! # Databases

    What the rest of the program knows of a database: it lists its tables, describes their columns
    and runs statements. Each of these is a call. A session keeps the calls that were made, in
    order, beside the state of the database.
-/

namespace ReportDesk

/-- A column of a table in a database. -/
structure Column where
  /-- Its name. -/
  name : String
  /-- Its type, as the database calls it. -/
  type : String
  /-- Whether it can be null. -/
  nullable : Bool
  deriving DecidableEq, Repr

/-- A column as JSON. -/
def Column.toJson (column : Column) : Json :=
  .object
    [("name", .string column.name), ("type", .string column.type),
     ("nullable", .bool column.nullable)]

/-! ### Errors -/

/-- Why a call gave no answer. -/
inductive DatabaseError where
  /-- The database file or the statement is at fault. -/
  | sqlite (message : String)
  /-- The worker failed. -/
  | worker (error : Worker.Error)
  /-- A statement took too long. -/
  | timeout (secs : Nat)
  /-- There is no table of a name. -/
  | tableNotFound (name : String)
  /-- The rows do not make a table. -/
  | result (error : TableError)
  /-- The call itself broke down. -/
  | task (message : String)
  deriving DecidableEq, Repr

/-- An error in words. -/
def DatabaseError.message : DatabaseError → String
  | .sqlite message => "sqlite: " ++ message
  | .worker error => error.message
  | .timeout secs => "statement exceeded the " ++ toString secs ++ " second timeout"
  | .tableNotFound name => "table not found: " ++ name
  | .result error => "malformed result set: " ++ error.message
  | .task message => "database task failed: " ++ message

/-! ### Databases -/

/-- How a statement ran. -/
inductive Run where
  /-- It was over in time. -/
  | inTime (outcome : Except DatabaseError Table)
  /-- It was not over in time. Left alone it ends like this, or never. -/
  | late (outcome : Option (Except DatabaseError Table))

/-- A database whose state is `σ`. -/
structure Database (σ : Type) where
  /-- The dialect of its statements. -/
  dialect : Sql.Dialect
  /-- The names of its tables. -/
  listTables : σ → Except DatabaseError (List String) × σ
  /-- The columns of several tables, asked for at the same time. -/
  listColumns : List String → σ → List (Except DatabaseError (List Column)) × σ
  /-- Runs a statement, with a limit in milliseconds. -/
  run : String → Nat → σ → Run × σ

/-! ### Sessions -/

/-- A call to a database. -/
inductive Call where
  | listTables
  | listColumns (table : String)
  /-- A statement and its limit in milliseconds. -/
  | run (sql : String) (millis : Nat)
  deriving DecidableEq, Repr

/-- A database in use. -/
structure Session (σ : Type) where
  /-- The state of the database. -/
  state : σ
  /-- The calls that were made, in order. -/
  calls : List Call := []

/-- What talks to a database, and can fail with an `ε`. -/
abbrev Action (σ ε α : Type) := ExceptT ε (StateM (Session σ)) α

namespace Database

variable {σ : Type}

/-- Asks for the names of the tables. -/
def tables (db : Database σ) : Action σ DatabaseError (List String) := fun session =>
  let (answer, state) := db.listTables session.state
  (answer, { state := state, calls := session.calls ++ [.listTables] })

/-- Asks for the columns of several tables at the same time. -/
def columnsOf (db : Database σ) (names : List String) :
    StateM (Session σ) (List (Except DatabaseError (List Column))) := fun session =>
  let (answers, state) := db.listColumns names session.state
  (answers, { state := state, calls := session.calls ++ names.map .listColumns })

/-- Asks for the columns of a table. -/
def columns (db : Database σ) (name : String) : Action σ DatabaseError (List Column) :=
  fun session =>
    match db.columnsOf [name] session with
    | (answer :: _, after) => (answer, after)
    | ([], after) => (.error (.tableNotFound name), after)

/-- Runs a statement. -/
def execute (db : Database σ) (sql : String) (millis : Nat) : StateM (Session σ) Run :=
  fun session =>
    let (run, state) := db.run sql millis session.state
    (run, { state := state, calls := session.calls ++ [.run sql millis] })

/-- A database whose state is a part of a larger state. -/
def onPart {τ : Type} (db : Database σ) (part : τ → σ) (replace : σ → τ → τ) : Database τ where
  dialect := db.dialect
  listTables state :=
    let (answer, after) := db.listTables (part state)
    (answer, replace after state)
  listColumns names state :=
    let (answers, after) := db.listColumns names (part state)
    (answers, replace after state)
  run sql millis state :=
    let (run, after) := db.run sql millis (part state)
    (run, replace after state)

end Database

end ReportDesk
