import StreamLoad.Time

/-! # Stopwatch

A stopwatch times one interval after another and keeps the last one. Starting it again while
it runs moves the start; stopping it while it does not run changes nothing. An interval that
would end before its start has length zero.
-/

set_option autoImplicit false

namespace StreamLoad

/-- A timer of one interval at a time. -/
structure Stopwatch where
  /-- The start of the interval under way. -/
  startedAt : Option Nat := none
  /-- The length of the last interval. -/
  last : Option Nat := none
  /-- The number of intervals completed. -/
  completed : Nat := 0
deriving DecidableEq, Repr

namespace Stopwatch

/-- Starts an interval, or moves the start of the one under way. -/
def start (w : Stopwatch) (now : Nat) : Stopwatch := { w with startedAt := some now }

/-- Completes the interval under way, if there is one. -/
def stop (w : Stopwatch) (now : Nat) : Stopwatch × Option Nat :=
  match w.startedAt with
  | none => (w, none)
  | some started =>
      let elapsed := now - started
      ({ startedAt := none, last := some elapsed, completed := w.completed + 1 }, some elapsed)

/-- Whether an interval is under way. -/
def isRunning (w : Stopwatch) : Bool := w.startedAt.isSome

@[simp] theorem isRunning_start (w : Stopwatch) (now : Nat) : (w.start now).isRunning = true := rfl

@[simp] theorem completed_start (w : Stopwatch) (now : Nat) :
    (w.start now).completed = w.completed := rfl

@[simp] theorem last_start (w : Stopwatch) (now : Nat) : (w.start now).last = w.last := rfl

@[simp] theorem isRunning_stop (w : Stopwatch) (now : Nat) : (w.stop now).1.isRunning = false := by
  cases h : w.startedAt <;> simp [stop, isRunning, h]

/-- Stopping counts one more interval exactly if one is under way. -/
theorem completed_stop (w : Stopwatch) (now : Nat) :
    (w.stop now).1.completed = w.completed + if w.isRunning then 1 else 0 := by
  cases h : w.startedAt <;> simp [stop, isRunning, h]

/-- The interval under way, if there is one, is the last one from then on. -/
theorem last_stop_eq (w : Stopwatch) (now : Nat) :
    (w.stop now).1.last = (w.startedAt.map fun started => now - started).or w.last := by
  cases h : w.startedAt <;> simp [stop, h]

end Stopwatch

end StreamLoad
