import ReportDesk.Export.Document
import ReportDesk.Http.Payload
import ReportDesk.Service.Basic

/-! # Requests and responses

    What the server is asked and what it answers. A body is JSON, a plain text or a document that
    was exported.
-/

namespace ReportDesk.Http

/-- A request. -/
structure Request where
  /-- Its method. -/
  method : String
  /-- Its path, with a query perhaps. -/
  path : String
  /-- The media type of its body, if it is told. -/
  contentType : Option String := none
  /-- Its body. -/
  body : Payload := ""

/-- The body of a response. -/
inductive Body where
  | json (json : Json)
  | text (text : String)
  | document (document : Export.Document)

/-- A response. -/
structure Response where
  /-- Its status. -/
  status : Nat
  /-- The media type of its body, if it is told. -/
  contentType : Option String := none
  /-- How the body is to be kept, if it is told. -/
  disposition : Option String := none
  /-- Its body. -/
  body : Body := .text ""

namespace Response

/-- A response with nothing but a status. -/
def bare (status : Nat) : Response :=
  { status := status }

/-- A response with JSON. -/
def json (status : Nat) (json : Json) : Response :=
  { status := status, contentType := some "application/json", body := .json json }

/-- A response with a text. -/
def plain (status : Nat) (text : String) : Response :=
  { status := status, contentType := some "text/plain; charset=utf-8", body := .text text }

/-- The response to an error. -/
def ofError (error : ServiceError) : Response :=
  json error.kind.status
    (.object [("kind", .string error.kind.name), ("message", .string error.message)])

/-- A file name as it stands between double quotes. -/
def quotedName (name : String) : String :=
  name.map fun c => if c == '"' || c == '\\' then '_' else c

/-- Whether a header can have a character. -/
def isHeaderChar (c : Char) : Bool :=
  c == '\t' || (c.toNat ≥ 32 && c.toNat != 127)

/-- What stands before the name of a file. -/
def dispositionFront : String :=
  "attachment; filename=\""

/-- How a document is to be kept: under the name of its file. -/
def dispositionOf (document : Export.Document) : String :=
  dispositionFront ++ quotedName document.fileName ++ "\""

/-- A response with a document. -/
def delivery (document : Export.Document) : Response :=
  { status := 200
    contentType := some document.format.mimeType
    disposition := some (dispositionOf document)
    body := .document document }

/-- A response with a document to be kept under its name. Without a name that a header can have
    there is none. -/
def ofDocument (document : Export.Document) : Response :=
  if (dispositionOf document).toList.all isHeaderChar then delivery document
  else plain 500 "failed to parse header value"

/-- A response without its body. -/
def withoutBody (response : Response) : Response :=
  { response with body := .text "" }

end Response

end ReportDesk.Http
