import StreamLoad.Server

/-! # Subscriptions

A subscription is the client's side of a request for a stream. It waits for the head of the
answer; a status of success opens the stream, any other is a failure. Then it reads the body.
`Subscription.seekWelcome` reads up to the greeting and no further, and
`Subscription.seekEvents` reads all events that have arrived.
-/

set_option autoImplicit false

namespace StreamLoad

/-- The client's side of a request for a stream. -/
inductive Subscription where
  /-- The request is sent and the answer has not begun. -/
  | asked
  /-- The stream is open. -/
  | reading (reader : Reader)
deriving DecidableEq, Repr

namespace Subscription

/-- What an arrival makes of a subscription, or why it fails. An answer without a body opens a
stream that is closed already. -/
def receive (request : Request) : Subscription → Arrival → Except Failure Subscription
  | asked, .head status =>
      if isSuccess status then
        .ok (reading { inbox := if status = noContent then [.close] else [] })
      else .error (.unexpectedStatus status)
  | asked, .lost => .error (.request request.lost)
  | reading reader, .body item => .ok (reading (reader.receive item))
  | subscription, _ => .ok subscription

/-! ## Reading up to the greeting

An attempt is over with the greeting, so the search stops there and does not even look at what
stands behind it in the same chunk. -/

/-- How the search for the greeting stands. -/
inductive Search where
  /-- More of the answer has to arrive. -/
  | goesOn (subscription : Subscription)
  | found
  | failed (failure : Failure)
deriving DecidableEq, Repr

/-- Reads on in search of the greeting, after an arrival. -/
def seekWelcome (request : Request) (subscription : Subscription) (arrival : Arrival) : Search :=
  match subscription.receive request arrival with
  | .error failure => .failed failure
  | .ok asked => .goesOn asked
  | .ok (reading reader) =>
      match reader.awaitWelcome with
      | (next, none) => .goesOn (reading next)
      | (_, some (.ok ())) => .found
      | (_, some (.error failure)) => .failed failure

/-! ## Reading all events

A member goes on to read for as long as its stream is open. What has arrived is read to its end at
once, as far as it goes, and the fault comes last. -/

/-- Reads all pieces: the events in them, and the fault that they end with, if any. -/
def readAll (scanner : Scanner) : List BodyItem → Reader × List Event × Option Failure
  | [] => ({ scanner := scanner }, [], none)
  | .close :: rest => ({ scanner := scanner, inbox := .close :: rest }, [], some .streamClosed)
  | .cut :: _ => ({ scanner := scanner, inbox := [.close] }, [], some (.request .bodyCut))
  | .chunk bytes :: rest =>
      let (next, events) := scanner.feed bytes
      let (reader, later, failure) := readAll next rest
      (reader, events ++ later, failure)

/-- What reading all that has arrived leads to. -/
structure Harvest where
  subscription : Subscription
  events : List Event := []
  failure : Option Failure := none

/-- Reads all events that have arrived, after an arrival. -/
def seekEvents (request : Request) (subscription : Subscription) (arrival : Arrival) : Harvest :=
  match subscription.receive request arrival with
  | .error failure => { subscription := subscription, failure := some failure }
  | .ok asked => { subscription := asked }
  | .ok (reading reader) =>
      let (next, later, failure) := readAll reader.scanner reader.inbox
      { subscription := reading next, events := reader.ready ++ later, failure := failure }

end Subscription

/-! ## One subscription at a server -/

/-- A subscription together with the server it was made at. -/
structure Dialogue where
  server : Server
  /-- The number of the exchange and its request, if the request was sent. -/
  exchange : Option (Nat × Request) := none
  /-- The subscription, or why there is none. -/
  outcome : Except Failure Subscription

namespace Dialogue

/-- Asks a server for a stream. -/
def start (server : Server) (client : Client) (method : Method) : Dialogue :=
  match client.subscribe method with
  | .error fault => { server := server, outcome := .error (.request fault) }
  | .ok request =>
      match server.receive request with
      | (server, none) => { server := server, outcome := .error (.request request.lost) }
      | (server, some number) =>
          { server := server, exchange := some (number, request), outcome := .ok .asked }

/-- Lets the server act on the request. -/
def command (d : Dialogue) (command : Command) : Dialogue :=
  match d.outcome, d.exchange with
  | .ok subscription, some (number, request) =>
      match d.server.act number command with
      | (server, none) => { d with server := server }
      | (server, some arrival) =>
          { d with server := server, outcome := subscription.receive request arrival }
  | _, _ => d

/-- The client closes the connection. -/
def hangUp (d : Dialogue) : Dialogue :=
  match d.exchange with
  | some (number, _) => { d with server := d.server.hangUp number }
  | none => d

end Dialogue

/-- Asks a server to publish a payload: the server after it, and how the request ended; nothing
if it waits for a command. -/
def Client.publishAt (client : Client) (server : Server) (payload : String) :
    Server × Option (Except Failure Unit) :=
  match client.publish payload with
  | .error fault => (server, some (.error (.request fault)))
  | .ok request =>
      match server.receive request with
      | (server, none) => (server, some (.error (.request request.lost)))
      | (server, some number) =>
          match server.promptCommands request with
          | .head status :: rest =>
              let answered := (Command.head status :: rest).foldl
                (fun s c => (s.act number c).1) server
              (answered, some (if isSuccess status then .ok () else
                .error (.unexpectedStatus status)))
          | _ => (server, none)

end StreamLoad
