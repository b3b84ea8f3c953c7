import StreamLoad.Event.Reader
import StreamLoad.Net.Request

/-! # The server's side

A `Server` is the server under test as a script plays it. It numbers the requests that reach
it and acts on each as commanded: it sends the head of an answer, pieces of its body and the
end of it, or closes the connection. A command that does not fit the state of its exchange is
passed over. What a command makes the client see is an `Arrival`. A server may also answer
some requests at once, without a command.
-/

set_option autoImplicit false

namespace StreamLoad

/-- Where an exchange of a request and its answer stands. -/
inductive ExchangeState where
  /-- The answer has not begun. -/
  | waiting
  /-- The head is sent and the body is open. -/
  | streaming
  /-- The answer is complete, or the server has closed the connection. -/
  | finished
  /-- The client has closed the connection. -/
  | hungUp
deriving DecidableEq, Repr

/-- Whether an exchange is still under way. -/
def ExchangeState.isOpen : ExchangeState → Bool
  | .waiting | .streaming => true
  | .finished | .hungUp => false

/-- One request and how far its answer has come. -/
structure Exchange where
  request : Request
  state : ExchangeState := .waiting
deriving DecidableEq, Repr

/-- What the server is told to do with an exchange. -/
inductive Command where
  /-- Send the final head of the answer. The heads before it that only announce it are none of
  these commands. -/
  | head (status : Nat)
  /-- Send a piece of the body. -/
  | send (bytes : List UInt8)
  /-- End the body. -/
  | close
  /-- Close the connection. -/
  | drop
deriving DecidableEq, Repr

/-- What reaches the client. -/
inductive Arrival where
  | head (status : Nat)
  | body (item : BodyItem)
  /-- The connection closed before the answer began. -/
  | lost
deriving DecidableEq, Repr

/-- Which requests are answered at once. -/
inductive Prompt where
  | never
  /-- Requests to publish are answered with a status. -/
  | broadcasts (status : Nat)
  /-- All requests are answered with a status. -/
  | all (status : Nat)
deriving DecidableEq, Repr

namespace ExchangeState

/-- What a command does to an exchange, and what it makes the client see. -/
def act : ExchangeState → Command → ExchangeState × Option Arrival
  | waiting, .head status =>
      (if isSuccess status && status ≠ noContent then streaming else finished,
        some (.head status))
  | waiting, .drop => (finished, some .lost)
  | streaming, .send [] => (streaming, none)
  | streaming, .send bytes => (streaming, some (.body (.chunk bytes)))
  | streaming, .close => (finished, some (.body .close))
  | streaming, .drop => (finished, some (.body .cut))
  | state, _ => (state, none)

/-- The state after the client closes the connection. -/
def hangUp (state : ExchangeState) : ExchangeState := if state.isOpen then hungUp else state

end ExchangeState

/-- Whether a path is one that payloads are published under. -/
def isBroadcastPath (path : String) : Bool := "/broadcast/".toList.isPrefixOf path.toList

/-- Whether an exchange is one of publishing. -/
def Exchange.isBroadcast (e : Exchange) : Bool := isBroadcastPath e.request.url.requestPath

/-- The server under test. -/
structure Server where
  /-- Whether new connections are accepted. -/
  accepting : Bool := true
  prompt : Prompt := .never
  /-- The exchanges so far, by number. -/
  exchanges : List Exchange := []
deriving DecidableEq, Repr

namespace Server

/-- A server that accepts no connection. -/
def unreachable : Server := { accepting := false }

/-- Takes a request; answers its number, or nothing if the connection is refused. -/
def receive (s : Server) (request : Request) : Server × Option Nat :=
  if s.accepting then
    ({ s with exchanges := s.exchanges ++ [{ request := request }] }, some s.exchanges.length)
  else (s, none)

/-- Puts an exchange into another state. -/
def setState (s : Server) (number : Nat) (state : ExchangeState) : Server :=
  { s with exchanges := s.exchanges.modify number fun e => { e with state := state } }

/-- Acts on an exchange; answers what the client sees of it. -/
def act (s : Server) (number : Nat) (command : Command) : Server × Option Arrival :=
  match s.exchanges[number]? with
  | none => (s, none)
  | some e =>
      let (state, arrival) := e.state.act command
      (s.setState number state, arrival)

/-- The client closes the connection of an exchange. -/
def hangUp (s : Server) (number : Nat) : Server :=
  match s.exchanges[number]? with
  | none => s
  | some e => s.setState number e.state.hangUp

/-- Accepts no more connections. -/
def shutDown (s : Server) : Server := { s with accepting := false }

/-- The commands that a server carries out of itself for a request. -/
def promptCommands (s : Server) (request : Request) : List Command :=
  let answer (status : Nat) : List Command :=
    [.head status, .send (Text.utf8 "ok"), .close]
  match s.prompt with
  | .never => []
  | .broadcasts status =>
      if isBroadcastPath request.url.requestPath then answer status else []
  | .all status => answer status

/-! ## What can be seen of a server

A script asks for the requests that have come and for the connections that the client has closed
since it last asked, and some steps act on all exchanges under way. Exchanges are known by their
numbers, so what is answered are lists of numbers, or of what the requests say. -/

/-- The numbers of the exchanges that have a property. -/
def numbersWhere (s : Server) (p : Exchange → Bool) : List Nat :=
  (s.exchanges.zipIdx.filter fun e => p e.1).map (·.2)

/-- The numbers of the exchanges under way that are not of publishing. -/
def openNumbers (s : Server) : List Nat :=
  s.numbersWhere fun e => e.state.isOpen && !e.isBroadcast

/-- The numbers of the exchanges that the client has closed. -/
def hungUpNumbers (s : Server) : List Nat := s.numbersWhere (·.state = .hungUp)

/-- What the requests say that came since an earlier state of the server. -/
def linesSince (s earlier : Server) : List String :=
  (s.exchanges.drop earlier.exchanges.length).map (·.request.line)

/-- The numbers of the exchanges that the client has closed since an earlier state. -/
def hungUpSince (s earlier : Server) : List Nat :=
  s.hungUpNumbers.filter fun n => !earlier.hungUpNumbers.contains n

end Server

end StreamLoad
