import ReportDesk.Settings.Basic

/-! # Connections

    Which database a name in the settings stands for. Without any configured database the
    environment can name one.
-/

namespace ReportDesk

/-- A database to connect to. -/
structure Connection where
  /-- The kind of database. -/
  driver : Driver
  /-- Where it is. -/
  connectionString : String
  deriving DecidableEq, Repr

/-- A text with its references to the environment replaced. -/
def expandSetting (env : Environment) (text : String) : Except SettingsError String :=
  (env.expand text).mapError .missingVariable

/-- The database that is configured. The driver is looked at first. -/
def ConnectionSettings.resolve (c : ConnectionSettings) (env : Environment) :
    Except SettingsError Connection := do
  let some driver := Driver.parse? c.driver | .error (.unsupportedDriver c.driver)
  return { driver := driver, connectionString := ← expandSetting env c.connectionString }

/-- The database that the environment names. -/
def Connection.ofEnvironment? (env : Environment) : Option Connection := do
  let driver ← Driver.parse? (← env.get? "TABULA_DB_DRIVER")
  return { driver := driver, connectionString := ← env.get? "TABULA_DB_CONNECTION" }

namespace Settings

/-- The database configured under a name. -/
def connection (settings : Settings) (name : String) :
    Except SettingsError ConnectionSettings :=
  match settings.connections.lookup name with
  | some c => .ok c
  | none => .error (.connectionNotFound name)

/-- The database to use when none is named: the one called `default`, else the first. -/
def defaultConnection? (settings : Settings) : Option (String × ConnectionSettings) :=
  match settings.connections.lookup "default" with
  | some c => some ("default", c)
  | none => settings.connections.head?

/-- The database to connect to under a name, or when none is given. -/
def resolve (settings : Settings) (env : Environment) (name : Option String) :
    Except SettingsError Connection :=
  match name with
  | some name => do (← settings.connection name).resolve env
  | none =>
    match settings.defaultConnection? with
    | some (_, c) => c.resolve env
    | none =>
      match Connection.ofEnvironment? env with
      | some c => .ok c
      | none => .error (.connectionNotFound "default")

/-- Where the worker's program is looked for when the settings do not say. -/
def workerCandidates : List String :=
  ["./tabula-worker", "./worker/tabula-worker"]

/-- The worker's program, where `isThere` tells which files there are. -/
def workerPath (settings : Settings) (env : Environment) (isThere : String → Bool) :
    Except SettingsError String :=
  match settings.worker.path with
  | some path => expandSetting env path
  | none =>
    match workerCandidates.find? isThere with
    | some path => .ok path
    | none => .error .workerNotFound

end Settings

end ReportDesk
