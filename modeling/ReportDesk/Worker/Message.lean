import ReportDesk.Decimal.Words
import ReportDesk.Json.Decode

/-! # Messages to and from the worker

    The worker reaches databases that need a driver of their own. Each request and each response is
    a JSON object on a line. A response carries the id of its request, and either a result, whose
    shape depends on what was asked, or an error.
-/

namespace ReportDesk.Worker

open Json (Decoder)

/-! ### Requests -/

/-- What the worker can be asked for. -/
inductive Method where
  | listTables | getColumns | executeQuery
  deriving DecidableEq, Repr

/-- The name of a method. -/
def Method.name : Method → String
  | .listTables => "metadata.list_tables"
  | .getColumns => "metadata.get_columns"
  | .executeQuery => "query.execute"

/-- A request. -/
structure Request where
  /-- Its id, which no other request has. -/
  id : String
  /-- What is asked for. -/
  method : Method
  /-- The details. -/
  params : Json

/-- A request as JSON. -/
def Request.toJson (request : Request) : Json :=
  .object
    [("id", .string request.id), ("method", .string request.method.name),
     ("params", request.params)]

/-! ### Responses -/

/-- An error that the worker reports. -/
structure Report where
  /-- Its kind. -/
  code : String
  /-- What happened, usually in the words of the database. -/
  message : String
  deriving DecidableEq, Repr

/-- A response. -/
structure Response where
  /-- The id of the request that it answers. -/
  id : String
  /-- Whether there is a result. -/
  success : Bool
  /-- The result. -/
  result : Option Json := none
  /-- The error. -/
  error : Option Report := none

/-- An error. -/
def Report.decoder : Decoder Report :=
  .record "ErrorInfo" 2 fun r =>
    Report.mk <$> r.required 0 ["code"] .string <*> r.required 1 ["message"] .string

/-- A response. -/
def Response.decoder : Decoder Response :=
  .record "ResponseEnvelope" 4 fun r =>
    Response.mk <$> r.required 0 ["id"] .string <*> r.required 1 ["success"] .boolean
      <*> r.optional 2 ["result"] .untyped <*> r.optional 3 ["error"] Report.decoder

/-- The response on a line, if there is one. -/
def Response.ofLine? (line : String) : Option Response :=
  (Json.decodeText Response.decoder line).toOption

/-- The response that stands in for those that an ended worker did not give. -/
def Response.exited (id : String) : Response :=
  { id := id
    success := false
    error := some
      { code := "WORKER_EXITED", message := "Worker process exited unexpectedly" } }

/-! ### Results -/

/-- A table that the worker lists. -/
structure TableEntry where
  /-- Its schema, or nothing. -/
  schema : String
  /-- Its name. -/
  name : String
  deriving DecidableEq, Repr

/-- The name that a listed table is published under: its schema, a dot and its own name. -/
def TableEntry.published (entry : TableEntry) : String :=
  if entry.schema.isEmpty then entry.name else entry.schema ++ "." ++ entry.name

/-- A column that the worker describes. -/
structure ColumnEntry where
  /-- Its name. -/
  name : String
  /-- Its place among the columns. -/
  position : Int
  /-- The type that the database gives it. -/
  type : String
  /-- Whether it can be null. -/
  nullable : Bool
  deriving DecidableEq, Repr

/-- The rows of a query. -/
structure QueryResult where
  /-- The labels of the columns. -/
  labels : List String
  /-- The values, row by row. -/
  rows : List (List Json)

/-- A listed table. -/
def TableEntry.decoder : Decoder TableEntry :=
  .record "TableInfo" 3 fun r =>
    (fun schema name _ => { schema := schema, name := name })
      <$> r.required 0 ["schema"] .string <*> r.required 1 ["name"] .string
      <*> r.orElse 2 ["type"] .string ""

/-- The tables that are listed. -/
def tablesDecoder : Decoder (List TableEntry) :=
  .record "ListTablesResponse" 1 fun r => r.required 0 ["tables"] (.list TableEntry.decoder)

/-- A described column. -/
def ColumnEntry.decoder : Decoder ColumnEntry :=
  .record "ColumnInfo" 4 fun r =>
    ColumnEntry.mk <$> r.required 0 ["name"] .string
      <*> r.orElse 1 ["position"] (.integer (-2147483648) 2147483648 "i32") 0
      <*> r.required 2 ["data_type"] .string <*> r.required 3 ["is_nullable"] .boolean

/-- The columns that are described. -/
def columnsDecoder : Decoder (List ColumnEntry) :=
  .record "GetColumnsResponse" 1 fun r => r.required 0 ["columns"] (.list ColumnEntry.decoder)

/-- The label of a result's column. -/
def labelDecoder : Decoder String :=
  .record "QueryResultColumn" 2 fun r =>
    (fun name _ => name) <$> r.required 0 ["name"] .string <*> r.orElse 1 ["data_type"] .string ""

/-- The rows of a query. -/
def QueryResult.decoder : Decoder QueryResult :=
  .record "ExecuteQueryResponse" 3 fun r =>
    (fun labels rows _ => { labels := labels, rows := rows })
      <$> r.required 0 ["columns"] (.list labelDecoder)
      <*> r.required 1 ["rows"] (.list (.list .untyped))
      <*> r.orElse 2 ["row_count"] (.integer (-Decimal.signedLimit) Decimal.signedLimit "i64") 0

/-! ### Errors -/

/-- Why the worker gave no result. -/
inductive Error where
  /-- Its program could not be started. -/
  | spawnFailed (detail : String)
  /-- Its program is not known. -/
  | notFound (detail : String)
  /-- A request could not be written. -/
  | writeFailed (detail : String)
  /-- A result has another shape than it should. -/
  | deserializeFailed (detail : String)
  /-- No response came in time. -/
  | timeout (secs : Nat)
  /-- It could not connect to the database. -/
  | connectionFailed (detail : String)
  /-- The database refused the statement. -/
  | queryFailed (detail : String)
  /-- It does not know the method. -/
  | methodNotFound (detail : String)
  /-- Any other error that it reports. -/
  | remote (report : Report)
  deriving DecidableEq, Repr

/-- An error in words. -/
def Error.message : Error → String
  | .spawnFailed detail => "failed to spawn worker process: " ++ detail
  | .notFound detail => "worker binary not found: " ++ detail
  | .writeFailed detail => "failed to write to worker: " ++ detail
  | .deserializeFailed detail => "failed to deserialize response: " ++ detail
  | .timeout secs => "request timed out after " ++ toString secs ++ " seconds"
  | .connectionFailed detail => "database connection failed: " ++ detail
  | .queryFailed detail => "query failed: " ++ detail
  | .methodNotFound detail => "method not found: " ++ detail
  | .remote report => report.message ++ " (code: " ++ report.code ++ ")"

/-- The error for what the worker reports, if it reports anything. -/
def Error.ofReport : Option Report → Error
  | none => .remote { code := "UNKNOWN", message := "Unknown error" }
  | some report =>
    match report.code with
    | "CONNECTION_FAILED" => .connectionFailed report.message
    | "QUERY_FAILED" => .queryFailed report.message
    | "METHOD_NOT_FOUND" => .methodNotFound report.message
    | _ => .remote report

/-- What a response says, its result being decoded. -/
def Response.outcome {α : Type} (decoder : Decoder α) (response : Response) : Except Error α :=
  if response.success then
    (Json.decodeValue decoder (response.result.getD .null)).mapError fun failure =>
      .deserializeFailed failure.cause.message
  else .error (.ofReport response.error)

end ReportDesk.Worker
