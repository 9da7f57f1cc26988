import ReportDesk.Database.Basic
import ReportDesk.Settings.Connection
import ReportDesk.Sql.TableName
import ReportDesk.Worker.Link

/-! # Databases behind a worker

    A database that is reached through the worker: its calls become questions, and replies become
    answers. A table name in a call is split at its dot into schema and table.
-/

namespace ReportDesk.Worker

/-- What the worker is told of a database with each question. -/
structure Target where
  /-- The name of the driver. -/
  driver : String
  /-- Where the database is. -/
  connectionString : String
  /-- How many milliseconds a response may take, statements apart. -/
  patience : Nat

/-- The target of a connection under settings. -/
def Target.ofConnection (connection : Connection) (settings : Settings) : Target :=
  { driver := connection.driver.name
    connectionString := connection.connectionString
    patience := settings.worker.requestTimeoutSecs.toNat * 1000 }

/-! ### Questions -/

/-- The schema of a table that is named without one. -/
def defaultSchema : String := "dbo"

/-- The details of a question. -/
def Target.params (target : Target) (details : List (String × Json)) : Json :=
  .object
    ([("driver", .string target.driver), ("connection_string", .string target.connectionString)]
      ++ details)

/-- The question for a call. -/
def Target.question (target : Target) : Call → Question
  | .listTables => { method := .listTables, params := target.params [] }
  | .listColumns table =>
    let name := Sql.TableName.parse table
    { method := .getColumns
      params := target.params
        [("schema", .string (name.schema.getD defaultSchema)), ("table", .string name.table)] }
  | .run sql millis =>
    { method := .executeQuery
      params := target.params
        [("sql", .string sql), ("timeout_secs", .integer (max (millis / 1000) 1 : Nat))] }

/-! ### Answers -/

/-- The names of the tables that a reply lists. -/
def Target.tablesIn (target : Target) (reply : Reply) : Except DatabaseError (List String) :=
  match reply.outcome tablesDecoder target.patience with
  | .ok entries => .ok (entries.map TableEntry.published)
  | .error error => .error (.worker error)

/-- The columns of a table that a reply describes, in the order of their positions. -/
def Target.columnsIn (target : Target) (table : String) (reply : Reply) :
    Except DatabaseError (List Column) :=
  match reply.outcome columnsDecoder target.patience with
  | .error error => .error (.worker error)
  | .ok [] => .error (.tableNotFound table)
  | .ok entries =>
    .ok ((entries.mergeSort fun a b => a.position ≤ b.position).map fun entry =>
      { name := entry.name, type := entry.type, nullable := entry.nullable })

/-- The table that rows make under labels that may repeat. -/
def QueryResult.toTable (result : QueryResult) : Except TableError Table :=
  (Table.ofLabels result.labels).pushAll (result.rows.map fun row => row.map Cell.ofJson)

/-- How long a response to a statement is awaited: its limit and five seconds more. -/
def statementPatience (millis : Nat) : Nat :=
  millis + 5000

/-- How a statement ran that a reply is for. -/
def runIn (millis : Nat) (reply : Reply) : Run :=
  let table (reply : Reply) : Except DatabaseError Table :=
    match reply.outcome QueryResult.decoder (statementPatience millis) with
    | .error error => .error (.worker error)
    | .ok result => result.toTable.mapError .result
  match reply with
  | .silence => .late (some (table reply))
  | _ => .inTime (table reply)

/-! ### The database -/

/-- The database behind a worker's process. -/
def database {τ : Type} (process : Process τ) (target : Target) : Database (Link τ) where
  dialect := .tsql
  listTables link :=
    match link.ask process [target.question .listTables] with
    | (reply :: _, link) => (target.tablesIn reply, link)
    | ([], link) => (target.tablesIn .silence, link)
  listColumns names link :=
    let (replies, link) := link.ask process (names.map fun name => target.question (.listColumns name))
    (List.zipWith target.columnsIn names replies, link)
  run sql millis link :=
    match link.ask process [target.question (.run sql millis)] with
    | (reply :: _, link) => (runIn millis reply, link)
    | ([], link) => (runIn millis .silence, link)

end ReportDesk.Worker
