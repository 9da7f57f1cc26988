import ReportDesk.Http.MediaType
import ReportDesk.Http.Message
import ReportDesk.Http.Path
import ReportDesk.Report.Format

/-! # The service over HTTP

    Each path that is served takes one method. Bodies are JSON and have to say so, except those of
    documents to export. Whatever goes wrong in the service is answered with its kind and message;
    a body that is too long is answered so only where it has to say that it is JSON.
-/

namespace ReportDesk.Http

open Json (Decoder)

/-! ### Routes -/

/-- What can be asked for. A segment that is open stands as it was written. -/
inductive Route where
  /-- The tables. -/
  | tables
  /-- The columns of a table. -/
  | columns (table : String)
  /-- The statement of a report. -/
  | sql
  /-- The result of a statement. -/
  | execute
  /-- The statement and the result of a report. -/
  | run
  /-- A result as a document. -/
  | export (format : String)
  deriving DecidableEq, Repr

/-- The route of a path, if there is one. -/
def Route.ofPath? (path : String) : Option Route :=
  match segments path with
  | ["", "api", "catalog", "tables"] => some .tables
  | ["", "api", "catalog", "tables", table, "columns"] =>
    if table.isEmpty then none else some (.columns table)
  | ["", "api", "reports", "sql"] => some .sql
  | ["", "api", "reports", "execute"] => some .execute
  | ["", "api", "reports", "run"] => some .run
  | ["", "api", "reports", "export", format] =>
    if format.isEmpty then none else some (.export format)
  | _ => none

/-- Whether a route takes a method. -/
def Route.takes (route : Route) (method : String) : Bool :=
  match route with
  | .tables | .columns _ => method == "GET" || method == "HEAD"
  | _ => method == "POST"

/-! ### Bodies -/

/-- The body of a request to run a statement. -/
def statementDecoder : Decoder String :=
  .record "ExecuteRequest" 1 fun r => r.required 0 ["sql"] .string

/-- A request for a document. -/
structure ExportRequest where
  /-- The title. -/
  title : Option String
  /-- The name of the file. -/
  fileName : Option String
  /-- The table. -/
  result : Json

/-- The body of a request for a document. -/
def ExportRequest.decoder : Decoder ExportRequest :=
  .record "ExportRequest" 3 fun r =>
    ExportRequest.mk <$> r.optional 0 ["title"] .string <*> r.optional 1 ["fileName"] .string
      <*> r.orElse 2 ["result"] .untyped .null

/-- A body that is not JSON, or not the JSON that is expected. -/
def rejectedBody (failure : Json.Failure) : ServiceError :=
  match failure.cause with
  | .fault _ => .invalid "Failed to parse the request body as JSON"
  | _ => .invalid ("Failed to deserialize the JSON body into the target type: " ++ failure.located)

/-- The body of a request that has to be JSON. -/
def Request.decode {α : Type} (request : Request) (decoder : Decoder α) : Except ServiceError α :=
  if (request.contentType.bind MediaType.parse?).any MediaType.isJson then
    if request.body.isTooLong then .error (.invalid Payload.tooLongText)
    else (Json.decodeText decoder request.body.text).mapError rejectedBody
  else .error (.invalid "Expected request with \x60Content-Type: application/json\x60")

/-- A request for a document and the table in it. -/
def Request.exportInput (request : Request) : Except ServiceError (ExportRequest × Table) := do
  let malformed (failure : Json.Failure) : ServiceError := .malformedInput failure.cause
  let input ← (Json.decodeText ExportRequest.decoder request.body.text).mapError malformed
  let table ← (Json.decodeValue Table.decoder input.result).mapError malformed
  return (input, table)

/-! ### Answers -/

/-- The response to a segment that is no text. -/
def unreadableSegment (name : String) : Response :=
  .plain 400 ("Invalid URL: Invalid UTF-8 in \x60" ++ name ++ "\x60")

/-- The response to a body that is too long, where it need not be JSON. -/
def tooLongBody : Response :=
  .plain 413 Payload.tooLongText

section

variable {σ : Type} (service : Service σ)

/-- The response that an action leads to. -/
def respond (action : Action σ ServiceError Response) : StateM (Session σ) Response := do
  match ← action.run with
  | .ok response => return response
  | .error error => return .ofError error

/-- The response to a request on a route that takes its method. `stamp` names a document that is
    given no name. -/
def Route.answer (request : Request) (stamp : String) : Route → StateM (Session σ) Response
  | .tables => respond do
    return .json 200 (.array ((← service.listTables).map .string))
  | .columns segment =>
    match decodeSegment? segment with
    | none => return unreadableSegment "table"
    | some table => respond do
      return .json 200 (.array ((← service.listColumns table).map Column.toJson))
  | .sql => respond do
    let config ← (request.decode Report.Configuration.decoder : Except ServiceError _)
    return .json 200 (.object [("sql", .string (← service.generateSql config))])
  | .execute => respond do
    let sql ← (request.decode statementDecoder : Except ServiceError _)
    return .json 200 (← service.execute sql).toJson
  | .run => respond do
    let config ← (request.decode Report.Configuration.decoder : Except ServiceError _)
    return .json 200 (← service.runReport config).toJson
  | .export segment =>
    match decodeSegment? segment with
    | none => return unreadableSegment "format"
    | some name =>
      if request.body.isTooLong then return tooLongBody
      else respond do
        let format ← ((Export.Format.parse name).mapError .export : Except ServiceError _)
        let (input, table) ← (request.exportInput : Except ServiceError _)
        let document ← (service.export format input.title input.fileName table stamp :
          Except ServiceError _)
        return .ofDocument document

/-- The response to a request. -/
def answer (stamp : String) (request : Request) : StateM (Session σ) Response := do
  if request.method == "OPTIONS" then return .bare 200
  match Route.ofPath? request.path with
  | none => return .bare 404
  | some route =>
    if route.takes request.method then
      let response ← route.answer service request stamp
      return if request.method == "HEAD" then response.withoutBody else response
    else return .bare 405

end

end ReportDesk.Http
