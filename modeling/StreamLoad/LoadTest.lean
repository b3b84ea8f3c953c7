import StreamLoad.Benchmark.Session
import StreamLoad.Churn.Session

/-! # Load tests

A load test is a session of one of the two modes, run as a whole: churning goes together with
the liveness probe, and a benchmark starts its subscribers and ticks. What both have in common
is what those who watch a run need: the clock goes on, the server does something, and there is a
status line, a log, and a last word.
-/

set_option autoImplicit false

namespace StreamLoad

/-- A load test under way. -/
inductive LoadTest where
  | churn (session : Churn.Session)
  | benchmark (session : Benchmark.Session)

namespace LoadTest

/-- Starts to churn and to probe. -/
def startChurn (settings : Settings) (server : Server) : LoadTest :=
  let session := Churn.Session.start settings.churn settings.probe settings.churn.dropGoal
    (Client.ofSettings settings) server
  .churn ((session.step .run).1.step .probeRun).1

/-- Starts the subscribers and the benchmark. -/
def startBenchmark (settings : Settings) (server : Server) : LoadTest :=
  let session := Benchmark.Session.start settings.benchmark (Client.ofSettings settings) server
  .benchmark (session.step .run).1

/-- The clock goes on. -/
def advance (t : LoadTest) (time : Nat) : LoadTest :=
  match t with
  | .churn s => .churn (s.step (.advance time)).1
  | .benchmark s => .benchmark (s.step (.advance time)).1

/-- The server does something with an exchange. -/
def command (t : LoadTest) (number : Nat) (c : Command) : LoadTest :=
  match t with
  | .churn s => .churn (s.step (.command number c)).1
  | .benchmark s => .benchmark (s.step (.command number c)).1

/-- The time since the start. -/
def now : LoadTest → Nat
  | .churn s => s.now
  | .benchmark s => s.now

/-- The server, with all exchanges so far. -/
def server : LoadTest → Server
  | .churn s => s.server
  | .benchmark s => s.server

/-- The instant at which something happens next if the server does nothing, if there is one. -/
def nextAlarm? (t : LoadTest) : Option Nat :=
  let due : List Nat := match t with
    | .churn s => s.waiting.map fun w => w.1.due
    | .benchmark s => s.waiting.map fun w => w.1.due
  due.min?

/-- Takes the entries out of the log, in order. -/
def takeLog : LoadTest → LoadTest × List LogEntry
  | .churn s => (.churn { s with notices := [] }, s.notices.reverse.map (·.entry))
  | .benchmark s => (.benchmark { s with notices := [] }, s.notices.reverse.map (·.entry))

/-- The metrics. -/
def metrics : LoadTest → MetricList
  | .churn s => s.ledger.metrics.list
  | .benchmark s => s.ledger.metrics.list

/-- The text of the status line. -/
def statusLine : LoadTest → String
  | .churn s => s.ledger.snapshot.statusLine
  | .benchmark s => s.ledger.snapshot.statusLine

/-- The last entry of the log: what was reached. -/
def lastEntry : LoadTest → LogEntry
  | .churn s => ⟨.info, "Churn stopped: " ++ s.ledger.snapshot.json⟩
  | .benchmark s => ⟨.info, "Benchmark stopped: " ++ s.ledger.snapshot.json⟩

end LoadTest

end StreamLoad
