import ReportDesk.Text.Pieces
import ReportDesk.Worker.Link

/-! # Workers that follow a script

    A worker's process that does not look at what it is asked: the script says what it writes on its
    first request, on its second, and so on. A written response can answer the request at hand or
    an earlier one.
-/

namespace ReportDesk.Worker

/-- The id that a scripted response carries. -/
inductive ScriptedId where
  /-- That of the request at hand. -/
  | own
  /-- That of a request, counted from 0. -/
  | ofRequest (k : Nat)
  /-- A value of its own. -/
  | given (id : Json)

/-- One thing that a scripted worker does. -/
inductive ScriptedAct where
  /-- It writes a text. -/
  | write (text : String)
  /-- It writes a response, made of an id and other members. -/
  | respond (id : ScriptedId) (members : List (String × Json))
  /-- It exits. -/
  | exit

/-- A scripted worker. -/
structure Script where
  /-- What it does on each request that is to come. -/
  acts : List (List ScriptedAct)
  /-- The requests that it received, in order. -/
  received : List Request := []

namespace Script

/-- The value of a scripted id, `received` being the requests up to the one at hand. -/
def idOf (received : List Request) : ScriptedId → Json
  | .own => .ofString? (received.getLast?.map (·.id))
  | .ofRequest k => .ofString? (received[k]?.map (·.id))
  | .given id => id

/-- What a worker writes until it exits or has nothing more to do. -/
def perform (received : List Request) : List ScriptedAct → Reaction
  | [] => { lines := [] }
  | .exit :: _ => { lines := [], exits := true }
  | .write text :: rest =>
    let after := perform received rest
    { after with lines := (Text.pieces '\n' text.toList).map String.ofList ++ after.lines }
  | .respond id members :: rest =>
    let after := perform received rest
    let response : Json := .object (("id", idOf received id) :: members)
    { after with lines := response.compact :: after.lines }

/-- The process that follows a script. -/
def process : Process Script where
  react request script :=
    let received := script.received ++ [request]
    (perform received (script.acts.headD []), { acts := script.acts.tail, received := received })

end Script

end ReportDesk.Worker
