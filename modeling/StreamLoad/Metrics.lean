import StreamLoad.Time

/-! # Metrics

A metric has a name and a reading. Counters count up and are listed from their first count on;
gauges are listed once they are set. A reading is a whole number or a length of time.
-/

set_option autoImplicit false

namespace StreamLoad

/-- The value of a metric. -/
inductive Reading where
  | count (n : Nat)
  | time (length : Nat)
deriving DecidableEq, Repr

/-- The metrics of a name, listed only if there is something to list. -/
abbrev MetricList := List (String × Reading)

namespace MetricList

/-- A counter, listed from its first count on. -/
def counter (name : String) (n : Nat) : MetricList := if n = 0 then [] else [(name, .count n)]

/-- A gauge of a whole number, listed once it is set. -/
def gauge (name : String) : Option Nat → MetricList
  | some n => [(name, .count n)]
  | none => []

/-- A gauge of a length of time, listed once it is set. -/
def timeGauge (name : String) : Option Nat → MetricList
  | some length => [(name, .time length)]
  | none => []

end MetricList

end StreamLoad
