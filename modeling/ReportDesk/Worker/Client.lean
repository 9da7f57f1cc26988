import ReportDesk.Worker.Message

/-! # The worker's client

    Requests to one worker run side by side. Each registers its id, writes its line and waits; a
    reader takes the worker's lines one at a time and hands a response to the request whose id is
    registered. When the lines end, or one cannot be read, the reader stops: it tells all requests
    that are registered then, and takes their ids away. A request can be abandoned at any moment by
    whoever made it. When its time is over it takes no response any more, and then it withdraws its
    id. All of this is a state and the events that change it, in any order in which they happen.

    The ids that are awaited are shared by the reader and all requests. An event looks at them or
    changes them once at most, so what a task does between two of its own events can be anything
    that others do.
-/

namespace ReportDesk.Worker

/-! ### Requests -/

/-- How a request ended. -/
inductive Ending where
  /-- A response was taken. -/
  | answered (response : Response)
  /-- Its line could not be written. -/
  | unwritten (detail : String)
  /-- No response came in time. -/
  | timedOut
  /-- It was abandoned. -/
  | abandoned

/-- How far a request has come. -/
inductive Phase where
  /-- Its id is registered, its line not yet written. -/
  | registered
  /-- Its line is written. -/
  | waiting
  /-- Its time is over, and its id not yet withdrawn. -/
  | late
  /-- It is over. -/
  | ended (ending : Ending)

/-- A request as the client knows it. -/
structure Ticket where
  /-- Its id. -/
  id : String
  /-- How far it has come. -/
  phase : Phase := .registered
  /-- The response that was handed to it. -/
  mail : Option Response := none

namespace Ticket

/-- Whether a request is still under way: it has not returned, and nobody has abandoned it. -/
def inProgress (ticket : Ticket) : Bool :=
  match ticket.phase with
  | .ended _ => false
  | _ => true

/-- Whether a response can be handed to a request. -/
def listens (ticket : Ticket) : Bool :=
  match ticket.phase with
  | .registered | .waiting => true
  | .late | .ended _ => false

/-- A response is handed to a request. It is lost on one that does not listen. -/
def hand (response : Response) (ticket : Ticket) : Ticket :=
  if ticket.listens then { ticket with mail := some response } else ticket

/-- The line of a request is written. -/
def write (ticket : Ticket) : Ticket :=
  match ticket.phase with
  | .registered => { ticket with phase := .waiting }
  | _ => ticket

/-- The line of a request cannot be written. -/
def failWrite (detail : String) (ticket : Ticket) : Ticket :=
  match ticket.phase with
  | .registered => { ticket with phase := .ended (.unwritten detail) }
  | _ => ticket

/-- A request takes the response that was handed to it. -/
def take (ticket : Ticket) : Ticket :=
  match ticket.phase, ticket.mail with
  | .waiting, some response => { ticket with phase := .ended (.answered response) }
  | _, _ => ticket

/-- The time of a request is over. A response that was handed to it before goes first. -/
def timeOut (ticket : Ticket) : Ticket :=
  match ticket.phase, ticket.mail with
  | .waiting, none => { ticket with phase := .late }
  | _, _ => ticket

/-- A request whose time is over returns. -/
def withdraw (ticket : Ticket) : Ticket :=
  match ticket.phase with
  | .late => { ticket with phase := .ended .timedOut }
  | _ => ticket

/-- A request is abandoned. -/
def abandon (ticket : Ticket) : Ticket :=
  if ticket.inProgress then { ticket with phase := .ended .abandoned } else ticket

end Ticket

/-! ### Clients -/

/-- How far the reader of the worker's lines has come. -/
inductive Reader where
  /-- It reads. -/
  | reading
  /-- It reads no more, and has not yet told those who wait. -/
  | stopping
  /-- It is over. -/
  | ended
  deriving DecidableEq, Repr

/-- The state of a client. -/
structure Client where
  /-- All requests that were made, in order. -/
  tickets : List Ticket := []
  /-- The ids that a response is awaited for. -/
  pending : List String := []
  /-- The reader. -/
  reader : Reader := .reading

/-- What can happen to a client. -/
inductive Event where
  /-- A request registers its id. -/
  | register (id : String)
  /-- A request's line is written. -/
  | written (id : String)
  /-- A request's line cannot be written. -/
  | writeFails (id detail : String)
  /-- The reader takes a line of the worker, of any bytes. -/
  | line (bytes : ByteArray)
  /-- The worker's lines end, or cannot be read for a reason that is not in them. -/
  | linesEnd
  /-- The reader, which has stopped, tells those who wait and is over. -/
  | drain
  /-- A request takes the response that was handed to it. -/
  | take (id : String)
  /-- A request's time is over before a response was handed to it. -/
  | timeOut (id : String)
  /-- A request whose time is over withdraws its id. -/
  | withdraw (id : String)
  /-- A request is abandoned. -/
  | abandon (id : String)

namespace Client

/-- The request of an id. -/
def ticket? (client : Client) (id : String) : Option Ticket :=
  client.tickets.find? (·.id = id)

/-- Changes the request of an id. -/
def update (client : Client) (id : String) (change : Ticket → Ticket) : Client :=
  { client with
    tickets := client.tickets.map fun ticket => if ticket.id = id then change ticket else ticket }

/-- Takes an id away from those that are awaited. -/
def forget (client : Client) (id : String) : Client :=
  { client with pending := client.pending.filter (· ≠ id) }

/-- Hands a response to the request that it answers, if that is awaited. -/
def deliver (client : Client) (response : Response) : Client :=
  if client.pending.contains response.id then
    (client.update response.id (Ticket.hand response)).forget response.id
  else client

/-- Tells all requests that are awaited that the worker has exited. -/
def drain (client : Client) : Client where
  tickets := client.tickets.map fun ticket =>
    if client.pending.contains ticket.id then ticket.hand (.exited ticket.id) else ticket
  pending := []
  reader := .ended

/-- A line is read: a response is handed on, any other text is left alone, and bytes that are no
    text stop the reader. -/
def read (client : Client) (bytes : ByteArray) : Client :=
  match String.fromUTF8? bytes with
  | none => { client with reader := .stopping }
  | some text =>
    match Response.ofLine? text with
    | some response => client.deliver response
    | none => client

/-- A client after an event. An event that cannot happen in its state changes nothing. -/
def step (client : Client) : Event → Client
  | .register id =>
    if client.tickets.any (·.id = id) then client
    else
      { client with
        tickets := client.tickets ++ [{ id := id }]
        pending := client.pending ++ [id] }
  | .written id => client.update id Ticket.write
  | .writeFails id detail => client.update id (Ticket.failWrite detail)
  | .line bytes => if client.reader = .reading then client.read bytes else client
  | .linesEnd => if client.reader = .reading then { client with reader := .stopping } else client
  | .drain => if client.reader = .stopping then client.drain else client
  | .take id => client.update id Ticket.take
  | .timeOut id => client.update id Ticket.timeOut
  | .withdraw id =>
    match client.ticket? id with
    | some { phase := .late, .. } => (client.update id Ticket.withdraw).forget id
    | _ => client
  | .abandon id => client.update id Ticket.abandon

/-- A client after events in order. -/
def run (client : Client) (events : List Event) : Client :=
  events.foldl step client

/-- How the request of an id ended, if it did. -/
def ending? (client : Client) (id : String) : Option Ending :=
  match client.ticket? id with
  | some { phase := .ended ending, .. } => some ending
  | _ => none

end Client

end ReportDesk.Worker
