import StreamLoad.Churn.Notice
import StreamLoad.Churn.Snapshot
import StreamLoad.Metrics

/-! # The ledger of a churn session

The ledger is all that a churn session counts: the counters, the registry of attempts and the
metrics. Four things change it. A tick may open an attempt, an attempt ends, a probe ends, and
nothing else does. Of the metrics `attempts`, `dropped` and the three kinds of failures count
along with the registry and the counters; `inFlight` and `accepting` are set to what these
hold.
-/

set_option autoImplicit false

namespace StreamLoad

/-- How an attempt ended. -/
inductive Ending where
  /-- It saw the greeting and was given up at once. -/
  | greeted
  | failed (failure : Failure)
  | timedOut
deriving DecidableEq, Repr

/-- The kinds that failed attempts are counted by. -/
inductive FailureKind where
  | connection
  | response
  | timeout
deriving DecidableEq, Repr

/-- The kind of a failure that is not a timeout. -/
def FailureKind.ofFailure (f : Failure) : FailureKind :=
  if f.isConnectionLevel then .connection else .response

/-- The metrics of a churn session. -/
structure ChurnMetrics where
  attempts : Nat := 0
  dropped : Nat := 0
  connectionFailures : Nat := 0
  responseFailures : Nat := 0
  timeouts : Nat := 0
  inFlight : Option Nat := none
  accepting : Option Bool := none
deriving DecidableEq, Repr

namespace ChurnMetrics

/-- Counts a failed attempt by its kind. -/
def countFailure (m : ChurnMetrics) : FailureKind → ChurnMetrics
  | .connection => { m with connectionFailures := m.connectionFailures + 1 }
  | .response => { m with responseFailures := m.responseFailures + 1 }
  | .timeout => { m with timeouts := m.timeouts + 1 }

/-- The failed attempts of all kinds. -/
def failures (m : ChurnMetrics) : Nat := m.connectionFailures + m.responseFailures + m.timeouts

/-- The name of the counter of failures of a kind. -/
def failuresName (kind : String) : String :=
  "sseload_churn_failures_total\x7bkind=\x22" ++ kind ++ "\x22\x7d"

/-- The metrics by name. -/
def list (m : ChurnMetrics) : MetricList :=
  MetricList.counter "sseload_churn_attempts_total" m.attempts
    ++ MetricList.counter "sseload_churn_dropped_total" m.dropped
    ++ MetricList.counter (failuresName "connection") m.connectionFailures
    ++ MetricList.counter (failuresName "response") m.responseFailures
    ++ MetricList.counter (failuresName "timeout") m.timeouts
    ++ MetricList.gauge "sseload_churn_in_flight" m.inFlight
    ++ MetricList.gauge "sseload_probe_accepting"
        (m.accepting.map fun accepting => if accepting then 1 else 0)

end ChurnMetrics

/-- What a tick of the churn driver did. -/
inductive TickOutcome where
  /-- An attempt was opened. -/
  | issued (id : Nat)
  /-- The goal is reached; no attempt will be opened any more. -/
  | goalReached
  /-- Too many attempts are under way. -/
  | saturated
deriving DecidableEq, Repr

/-- All that a churn session counts. -/
structure ChurnLedger where
  /-- The number of attempts under way at which a tick opens no more. -/
  maxInFlight : Nat
  counters : Counters
  registry : Registry := {}
  metrics : ChurnMetrics := {}
  /-- Whether it is noted that the goal is reached. -/
  goalNoted : Bool := false
deriving DecidableEq, Repr

namespace ChurnLedger

/-- The empty ledger with a goal. -/
def empty (goal maxInFlight : Nat) : ChurnLedger :=
  { maxInFlight := maxInFlight, counters := { goal := goal } }

/-- Sets the gauge of attempts under way. -/
def gaugeInFlight (l : ChurnLedger) : ChurnLedger :=
  { l with metrics := { l.metrics with inFlight := some l.registry.inFlight } }

/-- Opens an attempt, unless the goal is reached or too many are under way. -/
def tick (l : ChurnLedger) (now : Nat) : ChurnLedger × TickOutcome × List ChurnNotice :=
  if l.counters.goalReached then
    ({ l with goalNoted := true }, .goalReached,
      if l.goalNoted then [] else [.goalReached l.counters.dropped])
  else if l.registry.inFlight ≥ l.maxInFlight then (l, .saturated, [])
  else
    let (registry, id) := l.registry.openNew now
    let metrics := { l.metrics with attempts := l.metrics.attempts + 1 }
    (gaugeInFlight { l with registry := registry, metrics := metrics }, .issued id, [])

/-- Counts the drop of an attempt that has seen the greeting for the first time. -/
def countDrop (l : ChurnLedger) (id : Nat) : ChurnLedger :=
  match l.registry.markConnected id with
  | (registry, false) => { l with registry := registry }
  | (registry, true) =>
      match l.counters.recordDrop with
      | (counters, false) => { l with registry := registry, counters := counters }
      | (counters, true) =>
          { l with
            registry := registry
            counters := counters
            metrics := { l.metrics with dropped := l.metrics.dropped + 1 } }

/-- Takes an attempt out of the registry; answers it as it ended. -/
def release (l : ChurnLedger) (id : Nat) (outcome : AttemptState) :
    ChurnLedger × Option Attempt :=
  let (registry, released) := l.registry.release id outcome
  ({ l with registry := registry }, released)

/-- Counts a failed attempt and takes it out of the registry. -/
def fail (l : ChurnLedger) (id : Nat) (kind : FailureKind) : ChurnLedger :=
  let counted :=
    { l with counters := l.counters.recordFailure, metrics := l.metrics.countFailure kind }
  (counted.release id .failed).1

/-- Ends an attempt. `timeout` is the time that it was allowed. -/
def finish (l : ChurnLedger) (id now timeout : Nat) (ending : Ending) :
    ChurnLedger × List ChurnNotice :=
  match ending with
  | .greeted =>
      match (l.countDrop id).release id .aborted with
      | (ledger, some a) => (ledger.gaugeInFlight, [.attemptDropped id (a.elapsed now)])
      | (ledger, none) => (ledger.gaugeInFlight, [])
  | .failed failure =>
      ((l.fail id (.ofFailure failure)).gaugeInFlight, [.attemptFailed id failure])
  | .timedOut => ((l.fail id .timeout).gaugeInFlight, [.attemptTimedOut id timeout])

/-- Stores the verdict of a probe, and notes it if it differs from the one before. -/
def probed (l : ChurnLedger) (verdict : Verdict) : ChurnLedger × List ChurnNotice :=
  let (counters, before) := l.counters.setAccepting verdict.isAccepting
  ({ l with
      counters := counters
      metrics := { l.metrics with accepting := some verdict.isAccepting } },
    if before = some verdict.isAccepting then [] else [.acceptingChanged verdict])

/-- What the ledger shows. -/
def snapshot (l : ChurnLedger) : ChurnSnapshot := .ofCounts l.counters l.registry

end ChurnLedger

end StreamLoad
