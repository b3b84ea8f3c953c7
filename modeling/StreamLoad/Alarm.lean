/-! # Alarms

An alarm is set for an instant. When the clock jumps, the alarms that have come due ring in the
order of their instants, and those of one instant in the order they were set.
-/

set_option autoImplicit false

namespace StreamLoad

/-- An alarm: the instant it is set for, and how many were set before it. -/
structure Alarm where
  due : Nat
  order : Nat
deriving DecidableEq, Repr

namespace Alarm

/-- Whether an alarm rings no later than another one. -/
def notAfter (a b : Alarm) : Bool := a.due < b.due || (a.due = b.due && a.order ≤ b.order)

/-- What waits for alarms that have come due, in the order they ring. -/
def ringing {α : Type} (now : Nat) (waiting : List (Alarm × α)) : List α :=
  ((waiting.filter fun w => w.1.due ≤ now).mergeSort fun v w => v.1.notAfter w.1).map (·.2)

end Alarm

end StreamLoad
