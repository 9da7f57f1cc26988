import ReportDesk.Worker.Client

/-! # Talking to a worker

    A link is a client together with the worker's process. Some requests are sent at the same time;
    the process answers each with lines, of which there may be none, or exits. When nothing more
    comes, each request takes its response, or its time runs out.
-/

namespace ReportDesk.Worker

/-- What a process does on a request: the lines that it writes, and whether it then exits. -/
structure Reaction where
  /-- The lines, each without its end. -/
  lines : List String
  /-- Whether the process exits. -/
  exits : Bool := false

/-- A worker's process, whose state is `τ`. -/
structure Process (τ : Type) where
  /-- What it does on a request. -/
  react : Request → τ → Reaction × τ

/-- A client and its process. -/
structure Link (τ : Type) where
  /-- The client. -/
  client : Client := {}
  /-- The state of the process. -/
  process : τ
  /-- Whether the process has not exited. -/
  alive : Bool := true

/-- What is asked of a worker: a method and the details. -/
structure Question where
  /-- The method. -/
  method : Method
  /-- The details. -/
  params : Json

/-- What became of a question. -/
inductive Reply where
  /-- There is a response. -/
  | response (response : Response)
  /-- The question could not be written. -/
  | unwritten (detail : String)
  /-- No response came. -/
  | silence

/-- The id of the request that comes after `n` others: a unique identifier that ends in `n`. -/
def requestId (n : Nat) : String :=
  let digits := toString n
  "00000000-0000-4000-8000-" ++ String.ofList (List.replicate (12 - digits.length) '0') ++ digits

/-- Why nothing can be written to a process that has exited. -/
def brokenPipe : String :=
  "Broken pipe (os error 32)"

/-- The requests of some questions, `n` being how many were made before. -/
def requestsOf (n : Nat) : List Question → List Request
  | [] => []
  | q :: rest => { id := requestId n, method := q.method, params := q.params } :: requestsOf (n + 1) rest

namespace Link

variable {τ : Type}

/-- Registers a request and writes its line. -/
def send (link : Link τ) (request : Request) : Link τ :=
  let client := link.client.step (.register request.id)
  if link.alive then { link with client := client.step (.written request.id) }
  else { link with client := client.step (.writeFails request.id brokenPipe) }

/-- Lets the process react to a request, and reads what it writes. -/
def react (process : Process τ) (link : Link τ) (request : Request) : Link τ :=
  if link.alive then
    let (reaction, state) := process.react request link.process
    let read := link.client.run (reaction.lines.map fun line => .line line.toUTF8)
    if reaction.exits then
      { client := read.run [.linesEnd, .drain], process := state, alive := false }
    else { link with client := read, process := state }
  else link

/-- Ends a request: with the response that was handed to it, or else because its time is over. -/
def settle (link : Link τ) (request : Request) : Link τ :=
  { link with
    client := link.client.run [.take request.id, .timeOut request.id, .withdraw request.id] }

/-- What became of a request. -/
def reply (link : Link τ) (request : Request) : Reply :=
  match link.client.ending? request.id with
  | some (.answered response) => .response response
  | some (.unwritten detail) => .unwritten detail
  | _ => .silence

/-- Asks several questions at the same time. -/
def ask (process : Process τ) (link : Link τ) (questions : List Question) :
    List Reply × Link τ :=
  let requests := requestsOf link.client.tickets.length questions
  let sent := requests.foldl send link
  let reacted := requests.foldl (react process) sent
  let settled := requests.foldl settle reacted
  (requests.map settled.reply, settled)

end Link

/-- The value that a reply gives, silence being a time-out after so many milliseconds. -/
def Reply.outcome {α : Type} (decoder : Json.Decoder α) (millis : Nat) :
    Reply → Except Error α
  | .response given => given.outcome decoder
  | .unwritten detail => .error (.writeFailed detail)
  | .silence => .error (.timeout (millis / 1000))

end ReportDesk.Worker
