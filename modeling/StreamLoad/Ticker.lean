import StreamLoad.Time

/-! # Ticker

A ticker completes a tick once per period, starting with the instant of its creation. A tick
may be taken late. Up to a tolerance the next one is still due a period after the missed
deadline; beyond it the ticks missed are skipped, and the next one is due at the next instant
of the grid that the creation and the period span. A ticker of period zero is always due.
-/

set_option autoImplicit false

namespace StreamLoad

/-- A source of ticks. -/
inductive Ticker where
  /-- A tick is due whenever it is asked for. -/
  | immediate
  /-- A tick is due every `period`, the next one at `deadline`. -/
  | every (period : Nat) (positive : 0 < period) (deadline : Nat)
deriving Repr

namespace Ticker

/-- How late a tick may be taken without skipping any. -/
def tolerance : Nat := Duration.ofMillis 5

/-- A ticker created at an instant. -/
def create (period : Nat) (now : Nat) : Ticker :=
  if positive : 0 < period then .every period positive now else .immediate

/-- The deadline after a tick that was due at `deadline` and is taken at `now`. -/
def nextDeadline (period : Nat) (deadline now : Nat) : Nat :=
  if now > deadline + tolerance then now + period - (now - deadline) % period
  else deadline + period

/-- The ticker after the tick that is due at `now`; `none` if no tick is due. -/
def tick? (t : Ticker) (now : Nat) : Option Ticker :=
  match t with
  | .immediate => some .immediate
  | .every period positive deadline =>
      if deadline ≤ now then some (.every period positive (nextDeadline period deadline now))
      else none

/-- The next deadline of a ticker with a period. -/
def deadline? : Ticker → Option Nat
  | .immediate => none
  | .every _ _ deadline => some deadline

/-- A tick moves the deadline ahead. -/
theorem lt_nextDeadline {period : Nat} (positive : 0 < period) {deadline now : Nat}
    (due : deadline ≤ now) : deadline < nextDeadline period deadline now := by
  unfold nextDeadline
  have := Nat.mod_lt (now - deadline) positive
  split <;> omega

/-! ## All ticks of one instant

A loop that is let go on takes all ticks that are due before it waits again. There may be several
within the tolerance, and they are counted in one step. -/

/-- How many ticks are due at one instant, when they are taken one right after another. A tick
that is more than the tolerance late is the only one. -/
def dueCount (period deadline now : Nat) : Nat :=
  if now < deadline then 0
  else if now > deadline + tolerance then 1
  else (now - deadline) / period + 1

/-- Takes all ticks that are due at one instant: how many they are, and the ticker after them.
Without a period one of them is taken. -/
def takeDue (t : Ticker) (now : Nat) : Nat × Ticker :=
  match t with
  | .immediate => (1, .immediate)
  | .every period positive deadline =>
      let count := dueCount period deadline now
      let next :=
        if count = 1 then nextDeadline period deadline now else deadline + count * period
      (count, .every period positive next)

/-- No tick is due before the deadline. -/
theorem takeDue_of_early {period : Nat} {positive : 0 < period} {deadline now : Nat}
    (early : now < deadline) :
    (Ticker.every period positive deadline).takeDue now = (0, .every period positive deadline) := by
  simp [takeDue, dueCount, early]

end Ticker

end StreamLoad
