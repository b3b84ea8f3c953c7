import StreamLoad.Attempt.Registry
import StreamLoad.Churn.Counters
import StreamLoad.Text.Json

/-! # Snapshots of a churn session

A snapshot is what a churn session shows of itself at one instant: its counters and the numbers
of attempts under way and ever opened. `json` writes it as an object with the fields in the
order of the structure; `statusLine` writes the part that the status line shows.
-/

set_option autoImplicit false

namespace StreamLoad

/-- What a churn session shows of itself. -/
structure ChurnSnapshot where
  dropped : Nat
  dropGoal : Nat
  failed : Nat
  inFlight : Nat
  attempts : Nat
  accepting : Option Bool
deriving DecidableEq, Repr

namespace ChurnSnapshot

/-- The snapshot of counters and a registry. -/
def ofCounts (counters : Counters) (registry : Registry) : ChurnSnapshot :=
  { dropped := counters.dropped
    dropGoal := counters.goal
    failed := counters.failed
    inFlight := registry.inFlight
    attempts := registry.opened
    accepting := counters.accepting }

/-- The compact JSON text of a snapshot. -/
def json (s : ChurnSnapshot) : String :=
  Json.object
    [("dropped", Json.number s.dropped),
      ("drop_goal", Json.number s.dropGoal),
      ("failed", Json.number s.failed),
      ("in_flight", Json.number s.inFlight),
      ("attempts", Json.number s.attempts),
      ("accepting_connections", Json.nullable Json.truth s.accepting)]

/-- Whether the server accepts connections, in a word. -/
def acceptingWord : Option Bool → String
  | some true => "true"
  | some false => "false"
  | none => "unknown"

/-- The status line of a churn session. -/
def statusLine (s : ChurnSnapshot) : String :=
  "Connections dropped: " ++ Decimal.text s.dropped ++ ", accepting connections: "
    ++ acceptingWord s.accepting ++ ", failed: " ++ Decimal.text s.failed ++ ", in flight: "
    ++ Decimal.text s.inFlight

end ChurnSnapshot

end StreamLoad
