import ReportDesk.CommandLine.Arguments
import ReportDesk.Files.Fault
import ReportDesk.Files.Path
import ReportDesk.Json.Printer
import ReportDesk.Report.Format
import ReportDesk.Service.Basic

/-! # Doing what the command line asks for

    Settings are loaded first. A report is compiled without a database if that is asked for; all
    other commands connect and then do their work. What goes wrong ends the run.
-/

namespace ReportDesk.CommandLine

/-! ### What is outside -/

/-- What a run finds outside of the program. -/
structure Surroundings (σ : Type) where
  /-- The environment and the databases. -/
  host : Host σ
  /-- The text of the file at a path. -/
  read : String → Except Files.Fault String
  /-- Whether a file can be written at a path. -/
  accept : String → Except Files.Fault Unit
  /-- The time in the name of a file that is given none. -/
  stamp : String
  /-- The number of bytes of a document, in digits. -/
  size : Export.Document → String

/-! ### Errors -/

/-- Why a run fails. -/
inductive RunError where
  /-- The settings cannot be used. -/
  | settings (error : SettingsError)
  /-- There is no connection to the database. -/
  | connecting (error : ServiceError)
  /-- The report's file cannot be read. -/
  | unreadReport (path : String) (fault : Files.Fault)
  /-- The report's file holds no report. -/
  | malformedReport (cause : Json.Cause)
  /-- The service fails. -/
  | service (error : ServiceError)
  /-- The document's file cannot be written. -/
  | unwritten (path : String) (fault : Files.Fault)

/-- An error in words. -/
def RunError.message : RunError → String
  | .settings error => "Error loading configuration: " ++ error.message
  | .connecting error => "Error connecting: " ++ error.message
  | .unreadReport path fault => "Error: Error reading file '" ++ path ++ "': " ++ fault.message
  | .malformedReport cause => "Error: Error parsing report configuration: " ++ cause.message
  | .service error => "Error: " ++ error.message
  | .unwritten path fault => "Error: writing '" ++ path ++ "': " ++ fault.message

/-! ### Results -/

/-- A document in a file. -/
structure Written where
  /-- The path of the file. -/
  path : String
  /-- The document. -/
  document : Export.Document
  /-- How many rows its table has. -/
  rows : Nat

/-- What a run that does not fail leaves. -/
inductive Result where
  /-- Lines to show. -/
  | lines (lines : List String)
  /-- A document to write. -/
  | written (written : Written)
  /-- A server to run at an address and a port. -/
  | serving (host : String) (port : Nat)

/-- A text with blanks behind it, at least `width` characters long. -/
def padded (width : Nat) (text : String) : String :=
  text ++ "".pushn ' ' (width - text.length)

/-- A column on a line: its name, its type, and whether it can be null. -/
def columnLine (column : Column) : String :=
  padded 32 column.name ++ " " ++ padded 20 column.type ++ " " ++
    if column.nullable then "NULL" else "NOT NULL"

/-- JSON to show. -/
def shown (json : Json) : Result := .lines [json.indented]

/-! ### Commands -/

variable {σ : Type} (outside : Surroundings σ)

/-- The report in a file. -/
def readReport (path : String) : Except RunError Report.Configuration := do
  let text ← (outside.read path).mapError (.unreadReport path)
  (Json.decodeText Report.Configuration.decoder text).mapError fun failure =>
    .malformedReport failure.cause

/-- Makes the document that is ordered of a table. Its file is named by the last part of the
    path, and lies in the directory that the path names. -/
def makeDocument (service : Service σ) (order : DocumentOrder) (table : Table) :
    Except RunError Written := do
  let format ← (Export.Format.parse order.format).mapError fun error => .service (.export error)
  let name := order.path.bind Files.fileName?
  let document ← (service.export format order.title name table outside.stamp).mapError .service
  let directory := (order.path.bind Files.parent?).getD ""
  let path := Files.join directory document.fileName
  (outside.accept path).mapError (.unwritten path)
  return { path := path, document := document, rows := table.rows.length }

/-- Does a command with a service. -/
def perform (service : Service σ) : Command → Action σ RunError Result
  | .tables => return .lines (← service.listTables.adapt .service)
  | .columns table => do
    return .lines ((← (service.listColumns table).adapt RunError.service).map columnLine)
  | .sql file _ => do
    let config ← readReport outside file
    return .lines [← (service.generateSql config).adapt .service]
  | .run file order => do
    let config ← readReport outside file
    let run ← (service.runReport config).adapt RunError.service
    match order with
    | none => return shown run.toJson
    | some order => return .written (← makeDocument outside service order run.result)
  | .query sql => do
    let table ← (service.execute sql).adapt RunError.service
    return shown table.toJson
  | .serve port =>
    let server := service.settings.server
    return .serving server.host (port.getD server.port)

/-- Compiles the report in a file without a database. -/
def compileOffline (settings : Settings) (file : String) (dialect : Sql.Dialect) :
    Except RunError Result := do
  let config ← readReport outside file
  match config.statement dialect settings.execution.strictNumericLiterals with
  | .ok sql => return .lines [sql]
  | .error error => throw (.service (.compile error))

/-- The settings of an order. -/
def settingsOf (order : Order) : Except RunError Settings :=
  let settings := match order.config with
    | some path => Settings.ofFile path (outside.read path)
    | none => Settings.load outside.host.env outside.read
  settings.mapError .settings

/-- Does what is ordered. The databases start in state `start`. -/
def run (start : σ) (order : Order) : Except RunError Result := do
  let settings ← settingsOf outside order
  match order.command with
  | .sql file (some dialect) => compileOffline outside settings file dialect
  | command =>
    let service ← (Service.connect outside.host settings order.connection).mapError .connecting
    (perform outside service command { state := start }).1

/-! ### Outcomes -/

/-- What a run shows that does not fail. -/
structure Showing where
  /-- What is printed. -/
  output : String := ""
  /-- What is reported beside that. -/
  report : String := ""
  /-- The document to write. -/
  written : Option Written := none

/-- How a run of the program ends. -/
inductive Outcome where
  /-- The command line cannot be read. -/
  | misused (error : UsageError)
  /-- The run fails. -/
  | failed (error : RunError)
  /-- All is done. -/
  | done (showing : Showing)

/-- The exit status. -/
def Outcome.status : Outcome → Nat
  | .misused _ => 2
  | .failed _ => 1
  | .done _ => 0

/-- What is printed. -/
def Outcome.output : Outcome → String
  | .done showing => showing.output
  | _ => ""

/-- What is reported beside that. -/
def Outcome.report : Outcome → String
  | .misused error => "error: " ++ error.message ++ "\n"
  | .failed error => error.message ++ "\n"
  | .done showing => showing.report

/-- What is said of a document that is written. -/
def writtenLine (written : Written) : String :=
  "Wrote " ++ written.path ++ " (" ++ toString written.rows ++ " rows, " ++
    outside.size written.document ++ " bytes)"

/-- What is shown of a result. -/
def showingOf : Result → Showing
  | .lines lines => { output := String.join (lines.map (· ++ "\n")) }
  | .written written =>
    { report := writtenLine outside written ++ "\n", written := some written }
  | .serving _ _ => {}

/-- The version of the program. -/
def versionText : String := "tabula 0.1.0\n"

/-- What is shown to one who asks for help. -/
def helpText : String :=
  "Usage: tabula [--config PATH] [--connection NAME] COMMAND\n\n" ++
  "Commands:\n" ++
  "  tables          List tables in the connected database\n" ++
  "  columns TABLE   List the columns of one table\n" ++
  "  sql FILE        Compile a report configuration to SQL\n" ++
  "  run FILE        Compile and execute a report\n" ++
  "  query SQL       Execute a SELECT statement\n" ++
  "  serve           Start the HTTP server\n" ++
  "  help            Print this message\n"

/-- How a run of the program ends that has these words on its command line. -/
def outcome (start : σ) (words : List String) : Outcome :=
  match Request.parse words with
  | .error error => .misused error
  | .ok .help => .done { output := helpText }
  | .ok .version => .done { output := versionText }
  | .ok (.order order) =>
    match run outside start order with
    | .ok result => .done (showingOf outside result)
    | .error error => .failed error

end ReportDesk.CommandLine
