import StreamLoad.Benchmark.Phase
import StreamLoad.Text.Json

/-! # Snapshots of a benchmark

A snapshot is what a benchmark shows of itself at one instant. `json` writes it as an object
with the fields in the order of the structure; `statusLine` writes the part that the status
line shows, with a hyphen for a time not yet measured.
-/

set_option autoImplicit false

namespace StreamLoad

/-- What a benchmark shows of itself. -/
structure BenchmarkSnapshot where
  phase : Phase
  poolSize : Nat
  connected : Nat
  failed : Nat
  messages : Nat
  cycle : Nat
  cyclesCompleted : Nat
  connectionMillis : Option Nat
  broadcastMillis : Option Nat
deriving DecidableEq, Repr

namespace BenchmarkSnapshot

/-- The snapshot of a phase machine, with the number of members that have failed. -/
def ofMachine (m : PhaseMachine) (failed : Nat) : BenchmarkSnapshot :=
  { phase := m.phase
    poolSize := m.poolSize
    connected := m.connected
    failed := failed
    messages := m.messages
    cycle := m.cycle
    cyclesCompleted := m.cyclesCompleted
    connectionMillis := m.connectionTime.map Duration.millis64
    broadcastMillis := m.broadcastTime.map Duration.millis64 }

/-- The compact JSON text of a snapshot. -/
def json (s : BenchmarkSnapshot) : String :=
  Json.object
    [("phase", Json.word s.phase.word),
      ("pool_size", Json.number s.poolSize),
      ("connected", Json.number s.connected),
      ("failed", Json.number s.failed),
      ("messages", Json.number s.messages),
      ("cycle", Json.number s.cycle),
      ("cycles_completed", Json.number s.cyclesCompleted),
      ("connection_time_ms", Json.nullable Json.number s.connectionMillis),
      ("broadcast_time_ms", Json.nullable Json.number s.broadcastMillis)]

/-- A measured time, or a hyphen. -/
def measured : Option Nat → String
  | some ms => Decimal.text ms
  | none => "-"

/-- The status line of a benchmark. -/
def statusLine (s : BenchmarkSnapshot) : String :=
  "Connected: " ++ Decimal.text s.connected ++ ", connection time: "
    ++ measured s.connectionMillis ++ " ms, total broadcast time: "
    ++ measured s.broadcastMillis ++ " ms"

end BenchmarkSnapshot

end StreamLoad
