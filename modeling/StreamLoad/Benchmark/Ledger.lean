import StreamLoad.Attempt.Pool
import StreamLoad.Benchmark.Snapshot
import StreamLoad.Cycle
import StreamLoad.Event
import StreamLoad.Failure
import StreamLoad.Metrics

/-! # The ledger of a benchmark

The ledger is all that a benchmark counts: the pool of members, the phase machine, the cycle
that each member was last counted for, and the metrics. A member counts at most once per
cycle: an event with the payload of a cycle is a delivery only if the cycle is later than the
one its member was last counted for, and the one waited for.
-/

set_option autoImplicit false

namespace StreamLoad

/-- What a benchmark notes. -/
inductive BenchmarkNotice where
  | opening (size : Nat) (target : String)
  | phase (notice : PhaseNotice)
  | poolReady (size : Nat) (time : Option Nat)
  | couldNotConnect (id : Nat) (failure : Failure)
  | lostStream (id : Nat) (failure : Failure)
  | closedEarly (id : Nat) (failure : Failure)
  | publishFailed (payload : String) (failure : Failure)
deriving DecidableEq, Repr

/-- The log entry of a notice. -/
def BenchmarkNotice.entry : BenchmarkNotice → LogEntry
  | opening size target =>
      LogEntry.mk .info ("Opening " ++ Decimal.text size ++ " subscribers to " ++ target)
  | phase notice => notice.entry
  | poolReady size time =>
      LogEntry.mk .info ("All " ++ Decimal.text size ++ " subscribers connected after "
        ++ Duration.textOfOption time)
  | couldNotConnect id failure =>
      LogEntry.mk .debug ("Subscriber " ++ Decimal.text id ++ " could not connect: "
        ++ failure.message)
  | lostStream id failure =>
      LogEntry.mk .warn ("Subscriber " ++ Decimal.text id ++ " lost its stream: " ++ failure.message)
  | closedEarly id failure =>
      LogEntry.mk .debug ("Subscriber " ++ Decimal.text id ++ " closed before welcome: "
        ++ failure.message)
  | publishFailed payload failure =>
      LogEntry.mk .warn ("Publish of " ++ payload ++ " failed: " ++ failure.message)

/-- The log line of a notice. -/
def BenchmarkNotice.line (n : BenchmarkNotice) : String := n.entry.line

/-- The metrics of a benchmark. -/
structure BenchmarkMetrics where
  cycles : Nat := 0
  connected : Option Nat := none
  connectionTime : Option Nat := none
  broadcastTime : Option Nat := none
deriving DecidableEq, Repr

/-- The metrics by name. -/
def BenchmarkMetrics.list (m : BenchmarkMetrics) : MetricList :=
  MetricList.counter "sseload_bench_cycles_total" m.cycles
    ++ MetricList.gauge "sseload_bench_connected" m.connected
    ++ MetricList.timeGauge "sseload_bench_connection_ms" m.connectionTime
    ++ MetricList.timeGauge "sseload_bench_broadcast_ms" m.broadcastTime

/-- All that a benchmark counts. -/
structure BenchmarkLedger where
  message : String
  pool : Pool
  machine : PhaseMachine
  /-- The cycle that each member was last counted for; zero before the first. -/
  lastCounted : List Nat
  metrics : BenchmarkMetrics := {}
deriving DecidableEq, Repr

namespace BenchmarkLedger

/-- The ledger of a pool of which nothing has been heard yet. -/
def empty (message : String) (size : Nat) : BenchmarkLedger :=
  { message := message
    pool := Pool.ofSize size
    machine := { poolSize := size }
    lastCounted := List.replicate size 0 }

/-- Starts the timing of the connecting. -/
def start (l : BenchmarkLedger) (now : Nat) : BenchmarkLedger :=
  { l with machine := l.machine.start now }

/-- A member sees its greeting; only the first one counts. -/
def welcome (l : BenchmarkLedger) (id : Nat) : BenchmarkLedger :=
  match l.pool.markConnected id with
  | (_, false) => l
  | (pool, true) =>
      let machine := l.machine.recordConnected
      { l with
        pool := pool
        machine := machine
        metrics := { l.metrics with connected := some machine.connected } }

/-- A member receives the payload of a cycle. -/
def deliver (l : BenchmarkLedger) (id cycle : Nat) : BenchmarkLedger :=
  if l.lastCounted.getD id 0 < cycle then
    match l.machine.recordDelivery cycle with
    | (_, false) => l
    | (machine, true) =>
        { l with machine := machine, lastCounted := l.lastCounted.set id cycle }
  else l

/-- A member receives an event. -/
def receive (l : BenchmarkLedger) (id : Nat) : Event → BenchmarkLedger
  | .welcome => l.welcome id
  | .ping => l
  | .data payload =>
      match Cycle.ofPayload? l.message payload with
      | some cycle => l.deliver id cycle
      | none => l

/-- A member could not open its stream. -/
def refuse (l : BenchmarkLedger) (id : Nat) (failure : Failure) :
    BenchmarkLedger × List BenchmarkNotice :=
  ({ l with pool := (l.pool.markFailed id).1 }, [.couldNotConnect id failure])

/-- The stream of a member ends. A member that was connected stays so. -/
def lose (l : BenchmarkLedger) (id : Nat) (failure : Failure) :
    BenchmarkLedger × List BenchmarkNotice :=
  if l.pool.state? id = some .connected then (l, [.lostStream id failure])
  else ({ l with pool := (l.pool.markFailed id).1 }, [.closedEarly id failure])

/-- The metrics after a tick that led from one state of the phase machine to another. -/
def metricsAfter (m : BenchmarkMetrics) (before after : PhaseMachine)
    (publish : Option Nat) : BenchmarkMetrics :=
  let delivered :=
    if after.cyclesCompleted > before.cyclesCompleted then
      { m with
        cycles := m.cycles + 1
        broadcastTime := after.broadcastTime.or m.broadcastTime }
    else m
  if publish = some 1 then
    { delivered with connectionTime := after.connectionTime.or m.connectionTime }
  else delivered

/-- One tick; answers the cycle to publish, if one is due. -/
def tick (l : BenchmarkLedger) (now : Nat) :
    BenchmarkLedger × Option Nat × List BenchmarkNotice :=
  let result := l.machine.tick now
  let ready :=
    if result.publish = some 1 then
      [BenchmarkNotice.poolReady l.pool.size result.machine.connectionTime]
    else []
  ({ l with
      machine := result.machine
      metrics := metricsAfter l.metrics l.machine result.machine result.publish },
    result.publish, result.notices.map .phase ++ ready)

/-- What the ledger shows. -/
def snapshot (l : BenchmarkLedger) : BenchmarkSnapshot :=
  .ofMachine l.machine (l.pool.count .failed)

end BenchmarkLedger

end StreamLoad
