import StreamLoad.Ticker

/-! # The status line

One line of a terminal is drawn again and again. `redraw` goes back to its start, erases it and
writes the new text; `finish` leaves the last text standing. A `Report` redraws the line at
every tick of a ticker. It counts its renderings, whether or not they can still be written:
an output that is closed takes no further text and does not stop the report.
-/

set_option autoImplicit false

namespace StreamLoad.Status

/-- Goes to the start of the line and erases it. -/
def clearLine : String := "\r\x1b[K"

/-- Replaces the line. -/
def redraw (line : String) : String := clearLine ++ line

/-- Leaves the line and goes to a fresh one. -/
def finish : String := "\n"

/-- A status line that is redrawn at the ticks of a ticker. -/
structure Report where
  /-- The time between ticks. -/
  interval : Nat
  /-- The ticker, once the report has begun to run. -/
  ticker : Option Ticker := none
  /-- The renderings so far. -/
  renders : Nat := 0
  /-- After how many redraws the output closes, if it does. -/
  closesAfter : Option Nat := none

namespace Report

/-- What the rendering of an ordinal writes. -/
def written (r : Report) (render : Nat → String) (ordinal : Nat) : String :=
  match r.closesAfter with
  | some limit => if ordinal ≤ limit then redraw (render ordinal) else ""
  | none => redraw (render ordinal)

/-- Takes the ticks that are due and answers what they write. The first time it begins to run,
so that the first tick is due then. -/
def settle (r : Report) (render : Nat → String) (now : Nat) : Report × String :=
  let (count, ticker) := (r.ticker.getD (Ticker.create r.interval now)).takeDue now
  let texts := (List.range count).map fun i => r.written render (r.renders + i + 1)
  ({ r with ticker := some ticker, renders := r.renders + count }, String.join texts)

end Report

end StreamLoad.Status
