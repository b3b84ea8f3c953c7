import StreamLoad.Proofs.Churn.Moves
import StreamLoad.Proofs.Histories

/-! # The turns of the loops

The driver and the liveness probe wait for a tick, run their body once, and wait again. `turns`
tells which loops run their bodies in the steps of a session, in the order in which they do. It
follows the session: a loop runs when its alarm rings, when it is started, or, if it probes, when
the probe that it waits for has ended.
-/

set_option autoImplicit false

namespace StreamLoad.Churn.Session

/-! ## The end of a probe

When a probe ends, its verdict is entered and its connection closed, and then its loop goes on, if
it has one. `conclude` is the first half, which is all that happens where loops are held back. -/

/-- A probe that runs ends, and its connection with it. Its loop does not go on yet. -/
def conclude (s : Session) (run : ProbeRun) (verdict : Verdict) (fault : List ChurnNotice) :
    Session :=
  completeProbe
    { s with
      server := s.server.hangUp run.exchange
      probes := s.probes.filter (·.exchange ≠ run.exchange) }
    run.loop verdict fault

theorem endProbe_of_single {s : Session} {run : ProbeRun} (single : run.loop = none)
    (verdict : Verdict) (fault : List ChurnNotice) :
    s.endProbe run verdict fault = s.conclude run verdict fault := by
  simp [endProbe, conclude, single]

theorem endProbe_of_loop {s : Session} {run : ProbeRun} {id : Nat} (loop : run.loop = some id)
    (verdict : Verdict) (fault : List ChurnNotice) :
    s.endProbe run verdict fault = (s.conclude run verdict fault).resumeProber id := by
  simp [endProbe, conclude, loop]

/-! ## The loops that run

Each function here goes along with one function of the session and distinguishes the same cases.
Where the session lets a loop go on, the loop is listed once for each time that it runs its body. -/

/-- How often a loop of probes probes when it goes on for at most some ticks. -/
def probings (id : Nat) : Nat → Session → Nat
  | 0, _ => 0
  | ticks + 1, s =>
      match s.probers.find? (·.id = id) with
      | none => 0
      | some loop =>
          match loop.ticker.tick? s.now with
          | none => 0
          | some ticker =>
              let waiting := s.updateProber { loop with ticker := ticker, busy := true }
              match waiting.startProbe (some id) with
              | (next, true) => probings id ticks next + 1
              | (_, false) => 1

/-- The loop of probes that goes on, once for each time it probes. -/
def turnsOfProber (s : Session) (id : Nat) : List Waiter :=
  match s.probers.find? (·.id = id) with
  | none => []
  | some loop => List.replicate (probings id ((loop.ticker.takeDue s.now).1 + 1) s) (.prober id)

/-- The loop of drivers that goes on, once for each tick that it takes. -/
def turnsOfDriver (s : Session) (id : Nat) : List Waiter :=
  match s.drivers.find? (·.id = id) with
  | none => []
  | some loop => List.replicate (loop.ticker.takeDue s.now).1 (.driver id)

/-- The loops that run when a probe ends. -/
def turnsOfEnd (s : Session) (run : ProbeRun) (verdict : Verdict) (fault : List ChurnNotice) :
    List Waiter :=
  match run.loop with
  | none => []
  | some id => (s.conclude run verdict fault).turnsOfProber id

/-- The loops that run when something of its answer reaches a probe. -/
def turnsOfArrival (s : Session) (run : ProbeRun) : Arrival → List Waiter
  | .head _ => s.turnsOfEnd run .responded []
  | .lost => s.turnsOfEnd run .refused [.probeFailed run.request.lost]
  | .body _ => []

/-- The loops that run when an alarm rings. -/
def turnsOfRing (s : Session) : Waiter → List Waiter
  | .link _ => []
  | .probe exchange =>
      match s.probes.find? (·.exchange = exchange) with
      | some run => s.turnsOfEnd run .timedOut []
      | none => []
  | .driver id => s.turnsOfDriver id
  | .prober id => s.turnsOfProber id

/-- The loops that run when alarms ring one after another. -/
def turnsOfRings (s : Session) (waiters : List Waiter) : List Waiter :=
  answers ring turnsOfRing s waiters

/-- The loops that run while the clock stands still. -/
def turnsOfSettle (s : Session) : List Waiter := s.turnsOfRings (Alarm.ringing s.now s.waiting)

/-- The loops that run when the server acts on an exchange. -/
def turnsOfCommand (s : Session) (number : Nat) (command : Command) : List Waiter :=
  match s.server.act number command with
  | (_, none) => []
  | (server, some arrival) =>
      match s.links.find? (·.exchange = number) with
      | some _ => []
      | none =>
          match s.probes.find? (·.exchange = number) with
          | some run => turnsOfArrival { s with server := server } run arrival
          | none => []

/-- The loops that run when the server acts on some exchanges, one after another. -/
def turnsOfCommands (s : Session) (c : Command) (numbers : List Nat) : List Waiter :=
  answers (fun s number => (s.command number c).settle)
    (fun s number => s.turnsOfCommand number c ++ (s.command number c).turnsOfSettle) s numbers

/-- A driver loop has been started and does not tick yet. -/
def withDriver (s : Session) : Session :=
  note
    { s with
      loops := s.loops + 1
      drivers := s.drivers ++ [{ id := s.loops, ticker := .create s.settings.interval s.now }]
      stoppable := (some s.loops, s.stoppable.2) }
    [.started s.client.base s.settings.method s.settings.dropGoal]

/-- A loop of probes has been started and does not probe yet. -/
def withProber (s : Session) : Session :=
  { s with
    loops := s.loops + 1
    probers := s.probers ++ [{ id := s.loops, ticker := .create s.probing.interval s.now }]
    stoppable := (s.stoppable.1, some s.loops) }

/-- The driver loop that starts, once for each tick that it takes at once. -/
def turnsOfStartDriver (s : Session) : List Waiter :=
  match Ticker.create s.settings.interval s.now with
  | .immediate => []
  | .every _ _ _ => s.withDriver.turnsOfDriver s.loops

/-- The loops with a period that run in a step, each once for each time it runs its body. -/
def turnsOfStep (s : Session) : Step → List Waiter
  | .tick => s.tick.1.turnsOfSettle
  | .probe => (s.startProbe none).1.turnsOfSettle
  | .run => s.turnsOfStartDriver ++ s.startDriver.turnsOfSettle
  | .probeRun => s.withProber.turnsOfProber s.loops ++ s.startProber.turnsOfSettle
  | .stop => s.stop.turnsOfSettle
  | .advance time => turnsOfSettle { s with now := s.now + time }
  | .command number c => s.turnsOfCommand number c ++ (s.command number c).turnsOfSettle
  | .commandAll c => s.turnsOfCommands c s.server.openNumbers ++ (s.commandAll c).turnsOfSettle
  | .shutDown => turnsOfSettle { s with server := s.server.shutDown }

/-- The loops that run in some steps. -/
def turns (s : Session) (steps : List Step) : List Waiter :=
  answers (fun s step => (s.step step).1) turnsOfStep s steps

theorem startDriver_eq (s : Session) :
    s.startDriver = match Ticker.create s.settings.interval s.now with
      | .immediate => s.withDriver
      | .every _ _ _ => s.withDriver.resumeDriver s.loops :=
  rfl

end StreamLoad.Churn.Session
