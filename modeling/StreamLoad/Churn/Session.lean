import StreamLoad.Alarm
import StreamLoad.Churn.Ledger
import StreamLoad.Subscription
import StreamLoad.Ticker

/-! # Churn sessions

A session runs the churn driver and the liveness probe against a server, in a time that only
moves when it is told to. An attempt is opened by a tick (`tick`) and starts to run after the
driver has paused (`launch`): it asks the server for a stream and reads up to the greeting. It
ends when the greeting, a failure or its alarm comes, whichever is first (`endLink`), and then
its connection is closed. A probe asks for `/` and takes any head of an answer as a sign of
life.

A session is taken from step to step by `Session.step`. Each step ends with all that can happen
while the clock stands still (`settle`).
-/

set_option autoImplicit false

namespace StreamLoad.Churn

/-- An attempt under way: its request, and how far the answer is read. -/
structure Link where
  attempt : Nat
  exchange : Nat
  request : Request
  subscription : Subscription := .asked
  alarm : Alarm
deriving DecidableEq, Repr

/-- A probe under way. -/
structure ProbeRun where
  exchange : Nat
  request : Request
  alarm : Alarm
  /-- The loop that the probe belongs to, if it is not a single one. -/
  loop : Option Nat
deriving DecidableEq, Repr

/-- A loop that waits for the ticks of a ticker. -/
structure TickLoop where
  id : Nat
  ticker : Ticker
  /-- The order of the alarm that it waits with. -/
  order : Nat := 0
  /-- Whether it waits for something else, and not for a tick. -/
  busy : Bool := false

/-- A churn session. -/
structure Session where
  settings : ChurnSettings
  probing : ProbeSettings
  client : Client
  server : Server
  ledger : ChurnLedger
  now : Nat := 0
  /-- The number of alarms set so far. -/
  alarms : Nat := 0
  /-- The number of loops started so far. -/
  loops : Nat := 0
  /-- The attempts opened that do not run yet. -/
  opened : List Nat := []
  /-- The attempts that run. -/
  links : List Link := []
  /-- The probes that run. -/
  probes : List ProbeRun := []
  drivers : List TickLoop := []
  probers : List TickLoop := []
  /-- The driver loop and the probe loop to stop, if any. -/
  stoppable : Option Nat × Option Nat := (none, none)
  /-- What was noted, the latest first. -/
  notices : List ChurnNotice := []
  /-- The verdicts of single probes, the latest first. -/
  verdicts : List Verdict := []

namespace Session

/-- A session before its first step. The goal counted towards may differ from the setting. -/
def start (settings : ChurnSettings) (probing : ProbeSettings) (goal : Nat) (client : Client)
    (server : Server) : Session :=
  { settings := settings
    probing := probing
    client := client
    server := server
    ledger := .empty goal settings.maxInFlight }

/-- Adds notices. -/
def note (s : Session) (notices : List ChurnNotice) : Session :=
  { s with notices := notices.reverse ++ s.notices }

/-- An alarm that rings after some time. -/
def alarmIn (s : Session) (time : Nat) : Alarm := { due := s.now + time, order := s.alarms }

/-! ## Attempts

An attempt is opened by a tick, and it starts to run when all alarms of the instant have rung. From
then on it has a link, which holds what it has read and the alarm that ends it. -/

/-- One tick of the driver. -/
def tick (s : Session) : Session × TickOutcome :=
  let (ledger, outcome, notices) := s.ledger.tick s.now
  let opened := match outcome with
    | .issued id => s.opened ++ [id]
    | .goalReached | .saturated => s.opened
  (note { s with ledger := ledger, opened := opened } notices, outcome)

/-- Enters the end of an attempt into the ledger. -/
def finish (s : Session) (id : Nat) (ending : Ending) : Session :=
  let (ledger, notices) := s.ledger.finish id s.now s.settings.attemptTimeout ending
  note { s with ledger := ledger } notices

/-- Ends an attempt that runs, and closes its connection. -/
def endLink (s : Session) (link : Link) (ending : Ending) : Session :=
  finish
    { s with
      server := s.server.hangUp link.exchange
      links := s.links.filter (·.attempt ≠ link.attempt) }
    link.attempt ending

/-- Starts to run an attempt: it sends its request. -/
def launch (s : Session) (id : Nat) : Session :=
  match s.client.subscribe s.settings.method with
  | .error fault => s.finish id (.failed (.request fault))
  | .ok request =>
      match s.server.receive request with
      | (_, none) => s.finish id (.failed (.request request.lost))
      | (server, some number) =>
          let link : Link :=
            { attempt := id
              exchange := number
              request := request
              alarm := s.alarmIn s.settings.attemptTimeout }
          { s with server := server, links := s.links ++ [link], alarms := s.alarms + 1 }

/-- Starts to run all attempts that do not run yet. -/
def launchAll (s : Session) : Session := s.opened.foldl launch { s with opened := [] }

/-- Replaces what an attempt has read so far. -/
def updateLink (s : Session) (link : Link) (subscription : Subscription) : Session :=
  let replaced := s.links.map fun l =>
    if l.attempt = link.attempt then { l with subscription := subscription } else l
  { s with links := replaced }

/-- Something of its answer reaches an attempt. -/
def linkArrival (s : Session) (link : Link) (arrival : Arrival) : Session :=
  match link.subscription.seekWelcome link.request arrival with
  | .goesOn subscription => s.updateLink link subscription
  | .found => s.endLink link .greeted
  | .failed failure => s.endLink link (.failed failure)

/-! ## Probes

A single probe is asked for by a step, and its verdict is kept for the answer. A loop of probes
waits for its probe before it takes another tick, so a slow server is probed less often than its
period says. -/

/-- Enters the verdict of a probe. -/
def completeProbe (s : Session) (loop : Option Nat) (verdict : Verdict)
    (fault : List ChurnNotice) : Session :=
  let (ledger, notices) := s.ledger.probed verdict
  let verdicts := if loop.isNone then verdict :: s.verdicts else s.verdicts
  note { s with ledger := ledger, verdicts := verdicts } (fault ++ notices)

/-- Starts a probe; answers whether it has ended at once. -/
def startProbe (s : Session) (loop : Option Nat) : Session × Bool :=
  match s.client.probe with
  | .error fault => (s.completeProbe loop .refused [.probeFailed fault], true)
  | .ok request =>
      match s.server.receive request with
      | (_, none) => (s.completeProbe loop .refused [.probeFailed request.lost], true)
      | (server, some number) =>
          let run : ProbeRun :=
            { exchange := number
              request := request
              alarm := s.alarmIn s.probing.timeout
              loop := loop }
          ({ s with server := server, probes := s.probes ++ [run], alarms := s.alarms + 1 },
            false)

/-- Replaces a probe loop. -/
def updateProber (s : Session) (loop : TickLoop) : Session :=
  { s with probers := s.probers.map fun l => if l.id = loop.id then loop else l }

/-- Lets a probe loop go on for at most some ticks: it takes a tick that is due and probes, and
goes on if the probe has ended at once. Otherwise it waits. -/
def runProber (id : Nat) : Nat → Session → Session
  | 0, s => s
  | ticks + 1, s =>
      match s.probers.find? (·.id = id) with
      | none => s
      | some loop =>
          match loop.ticker.tick? s.now with
          | none =>
              updateProber { s with alarms := s.alarms + 1 }
                { loop with order := s.alarms, busy := false }
          | some ticker =>
              let waiting := s.updateProber { loop with ticker := ticker, busy := true }
              match waiting.startProbe (some id) with
              | (next, true) => runProber id ticks next
              | (next, false) => next

/-- Lets a probe loop go on as far as it gets while the clock stands still. -/
def resumeProber (s : Session) (id : Nat) : Session :=
  match s.probers.find? (·.id = id) with
  | none => s
  | some loop => runProber id ((loop.ticker.takeDue s.now).1 + 1) s

/-- Ends a probe that runs, closes its connection, and lets its loop go on. -/
def endProbe (s : Session) (run : ProbeRun) (verdict : Verdict)
    (fault : List ChurnNotice) : Session :=
  let closed :=
    { s with
      server := s.server.hangUp run.exchange
      probes := s.probes.filter (·.exchange ≠ run.exchange) }
  let completed := closed.completeProbe run.loop verdict fault
  match run.loop with
  | none => completed
  | some id => completed.resumeProber id

/-- Something of its answer reaches a probe. -/
def probeArrival (s : Session) (run : ProbeRun) : Arrival → Session
  | .head _ => s.endProbe run .responded []
  | .lost => s.endProbe run .refused [.probeFailed run.request.lost]
  | .body _ => s

/-! ## The driver -/

/-- Some ticks one right after another. -/
def ticks : Nat → Session → Session
  | 0, s => s
  | count + 1, s => ticks count s.tick.1

/-- Lets a driver loop take the ticks that are due. -/
def resumeDriver (s : Session) (id : Nat) : Session :=
  match s.drivers.find? (·.id = id) with
  | none => s
  | some loop =>
      let (count, ticker) := loop.ticker.takeDue s.now
      let waiting := { loop with ticker := ticker, order := s.alarms }
      let drivers := s.drivers.map fun l => if l.id = id then waiting else l
      ticks count { s with drivers := drivers, alarms := s.alarms + 1 }

/-- Ticks without a pause, at most some times, as long as attempts are opened. -/
def spin : Nat → Session → Session
  | 0, s => s
  | count + 1, s =>
      match s.tick with
      | (next, .issued _) => spin count next.launchAll
      | (next, _) => next

/-- Lets the drivers without a period tick as often as the limit on attempts allows. -/
def spinDrivers (s : Session) : Session :=
  let spinning := s.drivers.filter fun l => l.ticker.deadline?.isNone
  spinning.foldl (fun s _ => spin (s.ledger.maxInFlight + 1) s) s

/-! ## Alarms

Everything that waits for a time has an alarm: attempts, probes and loops. Those that are due at the
same time ring in the order in which they were set. -/

/-- What an alarm was set for. -/
inductive Waiter where
  | link (attempt : Nat)
  | probe (exchange : Nat)
  | driver (id : Nat)
  | prober (id : Nat)
deriving DecidableEq, Repr

/-- The alarm that a loop waits with. -/
def loopAlarm (loop : TickLoop) : Option Alarm :=
  if loop.busy then none
  else loop.ticker.deadline?.map fun due => { due := due, order := loop.order }

/-- All alarms, and what they were set for. -/
def waiting (s : Session) : List (Alarm × Waiter) :=
  s.links.map (fun l => (l.alarm, .link l.attempt))
    ++ s.probes.map (fun p => (p.alarm, .probe p.exchange))
    ++ s.drivers.filterMap (fun l => (loopAlarm l).map fun a => (a, .driver l.id))
    ++ s.probers.filterMap (fun l => (loopAlarm l).map fun a => (a, .prober l.id))

/-- An alarm rings. -/
def ring (s : Session) : Waiter → Session
  | .link attempt =>
      match s.links.find? (·.attempt = attempt) with
      | some link => s.endLink link .timedOut
      | none => s
  | .probe exchange =>
      match s.probes.find? (·.exchange = exchange) with
      | some run => s.endProbe run .timedOut []
      | none => s
  | .driver id => s.resumeDriver id
  | .prober id => s.resumeProber id

/-- All alarms ring that have come due. -/
def ringAll (s : Session) : Session := (Alarm.ringing s.now s.waiting).foldl ring s

/-- All that can happen while the clock stands still. -/
def settle (s : Session) : Session := s.ringAll.launchAll.spinDrivers

/-! ## Steps -/

/-- The server acts on an exchange, and the client sees it. -/
def command (s : Session) (number : Nat) (command : Command) : Session :=
  match s.server.act number command with
  | (server, none) => { s with server := server }
  | (server, some arrival) =>
      let acted := { s with server := server }
      match s.links.find? (·.exchange = number) with
      | some link => acted.linkArrival link arrival
      | none =>
          match s.probes.find? (·.exchange = number) with
          | some run => acted.probeArrival run arrival
          | none => acted

/-- The server acts in the same way on all exchanges that are under way, one after another. -/
def commandAll (s : Session) (c : Command) : Session :=
  s.server.openNumbers.foldl (fun s number => (s.command number c).settle) s

/-- Starts a driver loop. -/
def startDriver (s : Session) : Session :=
  let loop : TickLoop := { id := s.loops, ticker := .create s.settings.interval s.now }
  let started :=
    note
      { s with
        loops := s.loops + 1
        drivers := s.drivers ++ [loop]
        stoppable := (some loop.id, s.stoppable.2) }
      [.started s.client.base s.settings.method s.settings.dropGoal]
  match loop.ticker with
  | .immediate => started
  | .every _ _ _ => started.resumeDriver loop.id

/-- Starts a probe loop. -/
def startProber (s : Session) : Session :=
  let loop : TickLoop := { id := s.loops, ticker := .create s.probing.interval s.now }
  resumeProber
    { s with
      loops := s.loops + 1
      probers := s.probers ++ [loop]
      stoppable := (s.stoppable.1, some loop.id) }
    loop.id

/-- Stops the driver loop and the probe loop started last, with the probe of that loop. The
attempts go on. -/
def stop (s : Session) : Session :=
  let (driver, prober) := s.stoppable
  let cancelled := s.probes.filter fun run => prober.isSome ∧ run.loop = prober
  { s with
    server := cancelled.foldl (fun server run => server.hangUp run.exchange) s.server
    probes := s.probes.filter fun run => ¬(prober.isSome ∧ run.loop = prober)
    drivers := s.drivers.filter fun l => some l.id ≠ driver
    probers := s.probers.filter fun l => some l.id ≠ prober
    stoppable := (none, none) }

/-- What a session is told to do. -/
inductive Step where
  /-- One tick of the driver. -/
  | tick
  /-- One probe. -/
  | probe
  /-- Start the driver. -/
  | run
  /-- Start to probe again and again. -/
  | probeRun
  /-- Stop the driver and the probing. -/
  | stop
  /-- The clock jumps ahead. -/
  | advance (time : Nat)
  /-- The server acts on one exchange. -/
  | command (number : Nat) (command : Command)
  /-- The server acts on all exchanges under way. -/
  | commandAll (command : Command)
  /-- The server accepts no more connections. -/
  | shutDown
deriving Repr

/-- Takes a session one step on, up to where it stands still; answers what a tick did. -/
def step (s : Session) : Step → Session × Option TickOutcome
  | .tick =>
      let (next, outcome) := s.tick
      (next.settle, some outcome)
  | .probe => ((s.startProbe none).1.settle, none)
  | .run => (s.startDriver.settle, none)
  | .probeRun => (s.startProber.settle, none)
  | .stop => (s.stop.settle, none)
  | .advance time => (settle { s with now := s.now + time }, none)
  | .command number command => ((s.command number command).settle, none)
  | .commandAll command => ((s.commandAll command).settle, none)
  | .shutDown => (settle { s with server := s.server.shutDown }, none)

end Session

end StreamLoad.Churn
