import ReportDesk.Export.Format
import ReportDesk.Files.Fault
import ReportDesk.Guard.Mode
import ReportDesk.Json.Decode
import ReportDesk.Settings.Driver
import ReportDesk.Settings.Environment
import ReportDesk.Settings.Toml

/-! # Settings

    What a user configures: databases to connect to, the worker process, how statements are run, how
    documents look, and where to listen. Everything has a default. Settings come from a file, and
    texts in them may refer to environment variables.
-/

namespace ReportDesk

open Json (Decoder)

/-! ### The settings -/

/-- A database as it is configured. -/
structure ConnectionSettings where
  /-- The name of its driver. -/
  driver : String
  /-- Where it is, with references to the environment. -/
  connectionString : String
  deriving DecidableEq, Repr

/-- The worker process. -/
structure WorkerSettings where
  /-- Its program. -/
  path : Option String := none
  /-- How many seconds a request to it may take. -/
  requestTimeoutSecs : UInt64 := 30
  deriving DecidableEq, Repr

/-- How statements are run. -/
structure ExecutionSettings where
  /-- How many seconds a statement may take. -/
  timeoutSecs : UInt64 := 300
  /-- How a statement is checked. -/
  guard : Guard.Mode := .denylist
  /-- Whether a report's names are looked up before it is compiled. -/
  validateColumns : Bool := true
  /-- Whether values that are written as they are have to be numbers. -/
  strictNumericLiterals : Bool := false
  deriving DecidableEq, Repr

/-- How documents look. -/
structure ExportSettings where
  /-- The title of a document that is given none. -/
  defaultTitle : Option String := none
  /-- The pages. -/
  setup : Export.PageSetup := {}
  deriving DecidableEq, Repr

/-- Where the server listens. -/
structure ServerSettings where
  /-- The address. -/
  host : String := "127.0.0.1"
  /-- The port. -/
  port : Nat := 8080
  deriving DecidableEq, Repr

/-- All settings. -/
structure Settings where
  /-- The databases, by name. -/
  connections : List (String × ConnectionSettings) := []
  /-- The worker process. -/
  worker : WorkerSettings := {}
  /-- How statements are run. -/
  execution : ExecutionSettings := {}
  /-- How documents look. -/
  «export» : ExportSettings := {}
  /-- Where the server listens. -/
  server : ServerSettings := {}
  deriving DecidableEq, Repr

/-- Why settings cannot be used. -/
inductive SettingsError where
  /-- There is no file of this name. -/
  | fileNotFound (path : String)
  /-- The file is there and cannot be read. -/
  | unreadFile (fault : Files.Fault)
  /-- The file is not in the format, or has a value of a wrong type. -/
  | malformed
  /-- A text refers to a variable that is not set. -/
  | missingVariable (name : String)
  /-- No database has this name. -/
  | connectionNotFound (name : String)
  /-- No driver has this name. -/
  | unsupportedDriver (name : String)
  /-- The worker's program is not known. -/
  | workerNotFound
  deriving DecidableEq, Repr

/-- An error in words. -/
def SettingsError.message : SettingsError → String
  | .fileNotFound path => "Config file not found: " ++ path
  | .unreadFile fault => "Failed to read config file: " ++ fault.message
  | .malformed => "Failed to parse config file: not the settings that are known"
  | .missingVariable name => "Missing environment variable: " ++ name
  | .connectionNotFound name => "Connection not found: " ++ name
  | .unsupportedDriver name => "Unsupported driver: " ++ name
  | .workerNotFound => "Worker binary not found. Set worker.path in tabula.toml"

/-! ### Reading -/

/-- The names of the guard modes. -/
def Guard.Mode.decoder : Decoder Guard.Mode :=
  .variant [("denylist", .denylist), ("parsed", .parsed)]

/-- The names of the page sizes. -/
def Export.PageSize.decoder : Decoder Export.PageSize :=
  .variant [("a4", .a4), ("letter", .letter)]

/-- The names of the orientations. -/
def Export.Orientation.decoder : Decoder Export.Orientation :=
  .variant [("landscape", .landscape), ("portrait", .portrait)]

/-- A database. -/
def ConnectionSettings.decoder : Decoder ConnectionSettings :=
  .record "ConnectionSettings" 2 fun r =>
    ConnectionSettings.mk <$> r.required 0 ["driver"] .string
      <*> r.required 1 ["connection_string"] .string

/-- The worker process. -/
def WorkerSettings.decoder : Decoder WorkerSettings :=
  .record "WorkerSettings" 2 fun r =>
    WorkerSettings.mk <$> r.optional 0 ["path"] .string
      <*> r.orElse 1 ["request_timeout_secs"] .word64 30

/-- How statements are run. -/
def ExecutionSettings.decoder : Decoder ExecutionSettings :=
  .record "ExecutionSettings" 4 fun r =>
    ExecutionSettings.mk <$> r.orElse 0 ["timeout_secs"] .word64 300
      <*> r.orElse 1 ["guard"] Guard.Mode.decoder .denylist
      <*> r.orElse 2 ["validate_columns"] .boolean true
      <*> r.orElse 3 ["strict_numeric_literals"] .boolean false

/-- How documents look. -/
def ExportSettings.decoder : Decoder ExportSettings :=
  .record "ExportSettings" 3 fun r =>
    (fun title size orientation => ExportSettings.mk title ⟨size, orientation⟩)
      <$> r.optional 0 ["default_title"] .string
      <*> r.orElse 1 ["page_size"] Export.PageSize.decoder .a4
      <*> r.orElse 2 ["orientation"] Export.Orientation.decoder .landscape

/-- Where the server listens. -/
def ServerSettings.decoder : Decoder ServerSettings :=
  .record "ServerSettings" 2 fun r =>
    ServerSettings.mk <$> r.orElse 0 ["host"] .string "127.0.0.1"
      <*> r.orElse 1 ["port"] (fun scope json =>
        (Decoder.integer 0 65536 "u16" scope json).map Int.toNat) 8080

/-- All settings. -/
def Settings.decoder : Decoder Settings :=
  .record "Settings" 5 fun r =>
    Settings.mk <$> r.orElse 0 ["connections"] (.members ConnectionSettings.decoder) []
      <*> r.orElse 1 ["worker"] WorkerSettings.decoder {}
      <*> r.orElse 2 ["execution"] ExecutionSettings.decoder {}
      <*> r.orElse 3 ["export"] ExportSettings.decoder {}
      <*> r.orElse 4 ["server"] ServerSettings.decoder {}

namespace Settings

/-- The settings that a file's text gives. -/
def ofToml (text : String) : Except SettingsError Settings :=
  match Toml.parse? text with
  | none => .error .malformed
  | some json =>
    match decoder { origin := .value } json with
    | .ok settings => .ok settings
    | .error _ => .error .malformed

/-- The settings in the file of a path, where `content` is its text or why there is none. -/
def ofFile (path : String) (content : Except Files.Fault String) : Except SettingsError Settings :=
  match content with
  | .ok text => ofToml text
  | .error fault => .error (if fault.isAbsence then .fileNotFound path else .unreadFile fault)

/-- The directory of a user's own settings. -/
def userDirectory? (env : Environment) : Option String :=
  match (env.get? "XDG_CONFIG_HOME").filter (·.startsWith "/") with
  | some directory => some directory
  | none => (env.get? "HOME").map (· ++ "/.config")

/-- Where settings are looked for when the environment does not say. -/
def usualFiles (env : Environment) : List String :=
  "tabula.toml" :: ((userDirectory? env).map (· ++ "/tabula/config.toml")).toList

/-- The settings in effect, where `read` gives the text of a file: those of the file that the
    environment names, else those of the first of the usual files that is there, else the
    defaults. -/
def load (env : Environment) (read : String → Except Files.Fault String) :
    Except SettingsError Settings :=
  let isThere (path : String) : Bool :=
    match read path with
    | .ok _ => true
    | .error fault => !fault.isAbsence
  match (env.get? "TABULA_CONFIG") <|> (usualFiles env).find? isThere with
  | some path => ofFile path (read path)
  | none => .ok {}

end Settings

/-! ### Writing -/

/-- A page size by name. -/
def Export.PageSize.name : Export.PageSize → String
  | .a4 => "a4"
  | .letter => "letter"

/-- An orientation by name. -/
def Export.Orientation.name : Export.Orientation → String
  | .landscape => "landscape"
  | .portrait => "portrait"

/-- A database as JSON. -/
def ConnectionSettings.toJson (c : ConnectionSettings) : Json :=
  .object [("driver", .string c.driver), ("connection_string", .string c.connectionString)]

/-- All settings as JSON. -/
def Settings.toJson (settings : Settings) : Json :=
  let execution := settings.execution
  .object
    [("connections", .object (settings.connections.map fun (name, c) => (name, c.toJson))),
     ("worker", .object
       [("path", .ofString? settings.worker.path),
        ("request_timeout_secs", .integer settings.worker.requestTimeoutSecs.toNat)]),
     ("execution", .object
       [("timeout_secs", .integer execution.timeoutSecs.toNat),
        ("guard", .string execution.guard.name),
        ("validate_columns", .bool execution.validateColumns),
        ("strict_numeric_literals", .bool execution.strictNumericLiterals)]),
     ("export", .object
       [("default_title", .ofString? settings.export.defaultTitle),
        ("page_size", .string settings.export.setup.size.name),
        ("orientation", .string settings.export.setup.orientation.name)]),
     ("server", .object
       [("host", .string settings.server.host), ("port", .integer settings.server.port)])]

end ReportDesk
