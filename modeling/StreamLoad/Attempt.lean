import StreamLoad.Time

/-! # Attempts to subscribe

An attempt is one request for a stream. It waits for the greeting (`pending`), may see it
(`connected`), and ends by being given up (`aborted`) or by failing (`failed`). A state is
never left backwards, and an attempt that has ended stays as it ended.
-/

set_option autoImplicit false

namespace StreamLoad

/-- How far an attempt has come. -/
inductive AttemptState where
  | pending
  | connected
  | aborted
  | failed
deriving DecidableEq, Repr

namespace AttemptState

/-- Whether an attempt may go from one state to another. -/
def canBecome : AttemptState → AttemptState → Bool
  | pending, connected | pending, failed | connected, aborted | connected, failed => true
  | _, _ => false

/-- Whether an attempt in this state has ended. -/
def isTerminal : AttemptState → Bool
  | aborted | failed => true
  | pending | connected => false

/-- The state after a step to `next`, if that step is allowed. -/
def advance? (state next : AttemptState) : Option AttemptState :=
  if state.canBecome next then some next else none

theorem advance?_eq_none_of_isTerminal {state : AttemptState} (next : AttemptState)
    (h : state.isTerminal = true) : state.advance? next = none := by
  cases state <;> cases next <;> first | rfl | cases h

end AttemptState

/-- One request for a stream. -/
structure Attempt where
  /-- The ordinal of the attempt. -/
  id : Nat
  state : AttemptState
  openedAt : Nat
deriving DecidableEq, Repr

namespace Attempt

/-- An attempt opened at an instant. -/
def opening (id : Nat) (now : Nat) : Attempt :=
  { id := id, state := .pending, openedAt := now }

/-- The time since the attempt was opened. -/
def elapsed (a : Attempt) (now : Nat) : Nat := now - a.openedAt

/-- The attempt after a step to `next`, if that step is allowed. -/
def advance? (a : Attempt) (next : AttemptState) : Option Attempt :=
  (a.state.advance? next).map fun state => { a with state := state }

end Attempt

end StreamLoad
