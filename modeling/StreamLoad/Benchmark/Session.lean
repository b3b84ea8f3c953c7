import StreamLoad.Alarm
import StreamLoad.Benchmark.Ledger
import StreamLoad.Subscription
import StreamLoad.Ticker

/-! # Benchmark sessions

A session runs a benchmark against a server, in a time that only moves when it is told to. Each
member of the pool asks for a stream and reads all that arrives on it, for as long as it lasts.
A tick may publish the payload of the next cycle, with a request of its own whose outcome is
noted only if it is a failure.

A session is taken from step to step by `Session.step`. Each step ends with all that can happen
while the clock stands still (`settle`).
-/

set_option autoImplicit false

namespace StreamLoad.Benchmark

/-- A member whose stream is asked for or open. -/
structure Member where
  id : Nat
  exchange : Nat
  request : Request
  subscription : Subscription := .asked
deriving DecidableEq, Repr

/-- A request to publish that waits for its answer. -/
structure Publication where
  payload : String
  exchange : Nat
  request : Request
deriving DecidableEq, Repr

/-- A task that is started and does not run yet. -/
inductive Task where
  | subscribe (id : Nat)
  | publish (payload : String)
deriving DecidableEq, Repr

/-- A loop of ticks. -/
structure TickLoop where
  id : Nat
  ticker : Ticker
  /-- The order of the alarm that it waits with. -/
  order : Nat := 0

/-- A benchmark session. -/
structure Session where
  settings : BenchmarkSettings
  client : Client
  server : Server
  ledger : BenchmarkLedger
  now : Nat := 0
  /-- Whether the subscribers have been started. -/
  started : Bool := false
  /-- The number of alarms set so far. -/
  alarms : Nat := 0
  /-- The tasks that do not run yet. -/
  tasks : List Task := []
  members : List Member := []
  publications : List Publication := []
  loops : List TickLoop := []
  /-- The number of loops started so far. -/
  loopsStarted : Nat := 0
  /-- The loop to stop, if any. -/
  stoppable : Option Nat := none
  /-- What was noted, the latest first. -/
  notices : List BenchmarkNotice := []

namespace Session

/-- A session before its first step. -/
def start (settings : BenchmarkSettings) (client : Client) (server : Server) : Session :=
  { settings := settings
    client := client
    server := server
    ledger := .empty settings.message settings.poolSize }

/-- Adds notices. -/
def note (s : Session) (notices : List BenchmarkNotice) : Session :=
  { s with notices := notices.reverse ++ s.notices }

/-! ## Members

A member asks for its stream once and reads it until it ends. It does not ask again, whatever has
become of the stream. -/

/-- A member could not open its stream. -/
def refuseMember (s : Session) (id : Nat) (failure : Failure) : Session :=
  let (ledger, notices) := s.ledger.refuse id failure
  note { s with ledger := ledger, members := s.members.filter (·.id ≠ id) } notices

/-- The stream of a member ends. -/
def loseMember (s : Session) (id : Nat) (failure : Failure) : Session :=
  let (ledger, notices) := s.ledger.lose id failure
  note { s with ledger := ledger, members := s.members.filter (·.id ≠ id) } notices

/-- A member asks for its stream. -/
def subscribe (s : Session) (id : Nat) : Session :=
  match s.client.subscribe .get with
  | .error fault => s.refuseMember id (.request fault)
  | .ok request =>
      match s.server.receive request with
      | (_, none) => s.refuseMember id (.request request.lost)
      | (server, some number) =>
          let member : Member := { id := id, exchange := number, request := request }
          { s with server := server, members := s.members ++ [member] }

/-- Something of its answer reaches a member. -/
def memberArrival (s : Session) (member : Member) (arrival : Arrival) : Session :=
  let harvest := member.subscription.seekEvents member.request arrival
  let members := s.members.map fun m =>
    if m.id = member.id then { m with subscription := harvest.subscription } else m
  let ledger := harvest.events.foldl (fun l event => l.receive member.id event) s.ledger
  let read := { s with members := members, ledger := ledger }
  match harvest.failure with
  | none => read
  | some failure =>
      match harvest.subscription with
      | .asked => read.refuseMember member.id failure
      | .reading _ => read.loseMember member.id failure

/-! ## Publishing -/

/-- Something of its answer reaches a request to publish. The body of the answer is read over,
however it ends. -/
def publicationArrival (s : Session) (p : Publication) (arrival : Arrival) : Session :=
  let answered := { s with publications := s.publications.filter (·.exchange ≠ p.exchange) }
  match arrival with
  | .head status =>
      if isSuccess status then answered
      else answered.note [.publishFailed p.payload (.unexpectedStatus status)]
  | .lost => answered.note [.publishFailed p.payload (.request p.request.lost)]
  | .body _ => s

/-- The server acts on an exchange, and the client sees it. -/
def command (s : Session) (number : Nat) (command : Command) : Session :=
  match s.server.act number command with
  | (server, none) => { s with server := server }
  | (server, some arrival) =>
      let acted := { s with server := server }
      match s.members.find? (·.exchange = number) with
      | some member => acted.memberArrival member arrival
      | none =>
          match s.publications.find? (·.exchange = number) with
          | some p => acted.publicationArrival p arrival
          | none => acted

/-- A payload is published. The server may answer at once. -/
def publish (s : Session) (payload : String) : Session :=
  match s.client.publish payload with
  | .error fault => s.note [.publishFailed payload (.request fault)]
  | .ok request =>
      match s.server.receive request with
      | (_, none) => s.note [.publishFailed payload (.request request.lost)]
      | (server, some number) =>
          let p : Publication := { payload := payload, exchange := number, request := request }
          let asked := { s with server := server, publications := s.publications ++ [p] }
          (server.promptCommands request).foldl (fun s c => s.command number c) asked

/-! ## Tasks and ticks

A tick does not wait for what it starts. It leaves a task behind, and the tasks run when all alarms
of the instant have rung. -/

/-- A task runs. -/
def runTask (s : Session) : Task → Session
  | .subscribe id => s.subscribe id
  | .publish payload => s.publish payload

/-- All tasks run that do not run yet. -/
def launchAll (s : Session) : Session := s.tasks.foldl runTask { s with tasks := [] }

/-- One tick; answers the cycle to publish, if one is due. -/
def tick (s : Session) : Session × Option Nat :=
  let (ledger, cycle, notices) := s.ledger.tick s.now
  let tasks := match cycle with
    | some n => s.tasks ++ [.publish (Cycle.payload s.settings.message n)]
    | none => s.tasks
  (note { s with ledger := ledger, tasks := tasks } notices, cycle)

/-- Some ticks one right after another. -/
def ticks : Nat → Session → Session
  | 0, s => s
  | count + 1, s => ticks count s.tick.1

/-- Starts the subscribers, all of them at once and only once. -/
def startSubscribers (s : Session) : Session :=
  if s.started then s
  else
    note
      { s with
        started := true
        ledger := s.ledger.start s.now
        tasks := s.tasks ++ (List.range s.ledger.pool.size).map .subscribe }
      [.opening s.settings.poolSize s.client.base]

/-- Lets a loop take the ticks that are due. -/
def resumeLoop (s : Session) (id : Nat) : Session :=
  match s.loops.find? (·.id = id) with
  | none => s
  | some loop =>
      let (count, ticker) := loop.ticker.takeDue s.now
      let waiting := { loop with ticker := ticker, order := s.alarms }
      let loops := s.loops.map fun l => if l.id = id then waiting else l
      ticks count { s with loops := loops, alarms := s.alarms + 1 }

/-- Starts the subscribers and a loop of ticks. -/
def startLoop (s : Session) : Session :=
  let ready := s.startSubscribers
  let loop : TickLoop := { id := s.loopsStarted, ticker := .create s.settings.interval s.now }
  let started :=
    { ready with
      loops := ready.loops ++ [loop]
      loopsStarted := ready.loopsStarted + 1
      stoppable := some loop.id }
  match loop.ticker with
  | .immediate => started
  | .every _ _ _ => started.resumeLoop loop.id

/-- Stops the loop started last. The subscribers go on. -/
def stop (s : Session) : Session :=
  { s with loops := s.loops.filter (fun l => some l.id ≠ s.stoppable), stoppable := none }

/-- The alarms that the loops wait with. -/
def waiting (s : Session) : List (Alarm × Nat) :=
  s.loops.filterMap fun l =>
    l.ticker.deadline?.map fun due => ({ due := due, order := l.order }, l.id)

/-- All alarms ring that have come due. -/
def ringAll (s : Session) : Session := (Alarm.ringing s.now s.waiting).foldl resumeLoop s

/-- Ticks without a pause, at most some times, as long as they change the phase machine. -/
def spin : Nat → Session → Session
  | 0, s => s
  | count + 1, s =>
      let next := s.tick.1
      if next.ledger.machine = s.ledger.machine then s else spin count next.launchAll

/-- How often a loop without a period ticks at most while the clock stands still. Three ticks
lead a pool that has members to rest: the last cycle ends, the next one is published, and then
it is waited for. A pool without members never comes to rest. -/
def spinLimit : Nat := 16

/-- Lets the loops without a period tick as often as the limit allows. -/
def spinLoops (s : Session) : Session :=
  let spinning := s.loops.filter fun l => l.ticker.deadline?.isNone
  spinning.foldl (fun s _ => spin spinLimit s) s

/-- All that can happen while the clock stands still. -/
def settle (s : Session) : Session := s.ringAll.launchAll.spinLoops

/-! ## Steps -/

/-- The server acts in the same way on all exchanges that are under way, one after another. -/
def commandAll (s : Session) (c : Command) : Session :=
  s.server.openNumbers.foldl (fun s number => (s.command number c).settle) s

/-- What a session is told to do. -/
inductive Step where
  /-- Start the subscribers. -/
  | start
  /-- One tick. -/
  | tick
  /-- Start the subscribers and tick again and again. -/
  | run
  /-- Stop ticking. -/
  | stop
  /-- The clock jumps ahead. -/
  | advance (time : Nat)
  /-- The server acts on one exchange. -/
  | command (number : Nat) (command : Command)
  /-- The server acts on all exchanges under way. -/
  | commandAll (command : Command)
  /-- The server accepts no more connections. -/
  | shutDown
deriving Repr

/-- Takes a session one step on, up to where it stands still; answers the cycle that a tick
publishes. -/
def step (s : Session) : Step → Session × Option Nat
  | .start => (s.startSubscribers.settle, none)
  | .tick =>
      let (next, cycle) := s.tick
      (next.settle, cycle)
  | .run => (s.startLoop.settle, none)
  | .stop => (s.stop.settle, none)
  | .advance time => (settle { s with now := s.now + time }, none)
  | .command number command => ((s.command number command).settle, none)
  | .commandAll command => ((s.commandAll command).settle, none)
  | .shutDown => (settle { s with server := s.server.shutDown }, none)

end Session

end StreamLoad.Benchmark
