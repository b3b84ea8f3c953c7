/-! # Counters of a churn session

The counters are shared by the churn driver, which counts dropped and failed attempts, and the
liveness probe, which stores whether its last request was answered. Drops are counted up to the
goal and not beyond.
-/

set_option autoImplicit false

namespace StreamLoad

/-- The counts of a churn session. -/
structure Counters where
  /-- The number of drops at which churning stops. -/
  goal : Nat
  /-- The drops counted. -/
  dropped : Nat := 0
  /-- The attempts that failed. -/
  failed : Nat := 0
  /-- Whether the last completed probe was answered; `none` before the first. -/
  accepting : Option Bool := none
deriving DecidableEq, Repr

namespace Counters

/-- Whether the goal is reached. -/
def goalReached (c : Counters) : Bool := c.dropped ≥ c.goal

/-- Counts a drop, unless the goal is reached; answers whether it was counted. -/
def recordDrop (c : Counters) : Counters × Bool :=
  if c.dropped < c.goal then ({ c with dropped := c.dropped + 1 }, true) else (c, false)

/-- Counts a failed attempt. -/
def recordFailure (c : Counters) : Counters := { c with failed := c.failed + 1 }

/-- Stores the verdict of a probe; answers the one before it. -/
def setAccepting (c : Counters) (accepting : Bool) : Counters × Option Bool :=
  ({ c with accepting := some accepting }, c.accepting)

end Counters

end StreamLoad
