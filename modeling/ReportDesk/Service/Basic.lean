import ReportDesk.Export.Document
import ReportDesk.Guard.Execution
import ReportDesk.Report.Compile
import ReportDesk.Report.Validation
import ReportDesk.Settings.Connection
import ReportDesk.Table.Wire
import ReportDesk.Worker.Message

/-! # The report service

    What is done with reports on a database: list what is there, compile a report, run a statement,
    do both, and turn a table into a document. Whatever goes wrong is of one of four kinds.
-/

namespace ReportDesk

/-! ### Errors -/

/-- The kind of an error, as a caller sees it. -/
inductive ErrorKind where
  /-- The request is at fault. -/
  | configuration
  /-- The statement was not run. -/
  | rejectedStatement
  /-- The database failed. -/
  | execution
  /-- A table or a document is at fault. -/
  | serialization
  deriving DecidableEq, Repr

/-- The name of a kind. -/
def ErrorKind.name : ErrorKind → String
  | .configuration => "configuration"
  | .rejectedStatement => "rejected_statement"
  | .execution => "execution"
  | .serialization => "serialization"

/-- The status with which a kind of error is answered over HTTP. -/
def ErrorKind.status : ErrorKind → Nat
  | .configuration => 400
  | .rejectedStatement => 403
  | .execution => 502
  | .serialization => 422

/-- Why the service did not do what it was asked for. -/
inductive ServiceError where
  | compile (error : Report.CompileError)
  | validation (error : Report.ValidationError)
  | guard (failure : Guard.Failure)
  | database (error : DatabaseError)
  | export (error : Export.Error)
  | settings (error : SettingsError)
  /-- The input of a document is malformed. -/
  | malformedInput (cause : Json.Cause)
  /-- A request is malformed. -/
  | invalid (message : String)

namespace ServiceError

/-- An error in words. -/
def message : ServiceError → String
  | compile error => error.message
  | validation error => error.message
  | guard failure => failure.message
  | database error => error.message
  | .export error => error.message
  | settings error => error.message
  | malformedInput (.fault .malformed) => "malformed export input"
  | malformedInput cause => "malformed export input: " ++ cause.message
  | invalid message => message

/-- The kind of an error. -/
def kind : ServiceError → ErrorKind
  | compile _ => .configuration
  | validation (.catalog _) => .execution
  | validation _ => .configuration
  | guard (.rejected _) => .rejectedStatement
  | guard _ => .execution
  | database (.tableNotFound _) => .configuration
  | database _ => .execution
  | .export (.unknownFormat _) => .configuration
  | .export _ => .serialization
  | settings _ => .configuration
  | malformedInput _ => .serialization
  | invalid _ => .configuration

end ServiceError

/-! ### The service -/

/-- A compiled report and the table it gave. -/
structure ReportRun where
  /-- The statement. -/
  sql : String
  /-- The table. -/
  result : Table

/-- A compiled report and its table as JSON. -/
def ReportRun.toJson (run : ReportRun) : Json :=
  .object [("sql", .string run.sql), ("result", run.result.toJson)]

/-- A service for the reports on a database. -/
structure Service (σ : Type) where
  /-- The database. -/
  db : Database σ
  /-- The settings. -/
  settings : Settings
  /-- What finds the structure of a statement. -/
  parse : Guard.Parser := Guard.Grammar.parse

namespace Service

variable {σ : Type} (service : Service σ)

/-- How long a statement may take, and how closely it is looked at. -/
def limits : Guard.Limits :=
  { millis := service.settings.execution.timeoutSecs.toNat * 1000
    mode := service.settings.execution.guard
    parse := service.parse }

/-- The names of the tables. -/
def listTables : Action σ ServiceError (List String) :=
  service.db.tables.adapt .database

/-- The columns of a table. -/
def listColumns (table : String) : Action σ ServiceError (List Column) :=
  (service.db.columns table).adapt .database

/-- The statement of a report, whose names are looked up first if the settings say so. -/
def generateSql (config : Report.Configuration) : Action σ ServiceError String := do
  let execution := service.settings.execution
  if execution.validateColumns then
    (config.validate service.db).adapt ServiceError.validation
  match config.statement service.db.dialect execution.strictNumericLiterals with
  | .ok sql => return sql
  | .error error => throw (.compile error)

/-- Runs a statement. -/
def execute (sql : String) : Action σ ServiceError Table :=
  (Guard.execute service.db service.limits sql).adapt .guard

/-- Compiles a report and runs it. -/
def runReport (config : Report.Configuration) : Action σ ServiceError ReportRun := do
  let sql ← service.generateSql config
  let result ← service.execute sql
  return { sql := sql, result := result }

/-- A table as a document. A title that is not given is taken from the settings. -/
def «export» (format : Export.Format) (title fileName : Option String) (table : Table)
    (stamp : String) : Except ServiceError Export.Document :=
  let options := service.settings.export
  (Export.document format (title <|> options.defaultTitle) table fileName options.setup
    stamp).mapError .export

end Service

/-! ### Connecting -/

/-- What connecting finds outside of the program. -/
structure Host (σ : Type) where
  /-- The variables of the environment. -/
  env : Environment
  /-- Whether there is a file. -/
  isThere : String → Bool
  /-- The database in a file. -/
  openFile : String → Database σ
  /-- Starts a worker's program, for a database behind it; or says why it does not start. -/
  startWorker : String → Connection → Settings → Except String (Database σ)

variable {σ : Type}

/-- The database of a connection. -/
def Host.connect (host : Host σ) (settings : Settings) (connection : Connection) :
    Except DatabaseError (Database σ) :=
  match connection.driver with
  | .sqlite => .ok (host.openFile connection.connectionString)
  | .mssql =>
    match settings.workerPath host.env host.isThere with
    | .error error => .error (.worker (.notFound error.message))
    | .ok path =>
      (host.startWorker path connection settings).mapError fun detail =>
        .worker (.spawnFailed detail)

/-- The service for the named connection, or for the one to use when none is named. -/
def Service.connect (host : Host σ) (settings : Settings) (name : Option String) :
    Except ServiceError (Service σ) := do
  let connection ← (settings.resolve host.env name).mapError .settings
  let db ← (host.connect settings connection).mapError .database
  return { db := db, settings := settings }

end ReportDesk
