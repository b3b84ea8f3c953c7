import StreamLoad.Attempt

/-! # The registry of attempts under way

The registry issues ordinals `0, 1, 2, …` and holds the attempts that have been opened and not
yet released. An attempt counts as connected once at most, and only a connected attempt can be
released as aborted: any other release is a failure.
-/

set_option autoImplicit false

namespace StreamLoad

/-- The attempts under way, and how many were ever opened. -/
structure Registry where
  /-- The number of attempts ever opened, which is also the next ordinal. -/
  opened : Nat := 0
  /-- The attempts opened and not yet released, the latest first. -/
  attempts : List Attempt := []
deriving DecidableEq, Repr

namespace Registry

/-- The attempt of an ordinal, while it is under way. -/
def get? (r : Registry) (id : Nat) : Option Attempt := r.attempts.find? (·.id = id)

/-- The number of attempts under way. -/
def inFlight (r : Registry) : Nat := r.attempts.length

/-- Opens an attempt; its ordinal is the number of those opened before. -/
def openNew (r : Registry) (now : Nat) : Registry × Nat :=
  ({ opened := r.opened + 1, attempts := Attempt.opening r.opened now :: r.attempts }, r.opened)

/-- Puts an attempt in the place of the one with its ordinal. -/
def replace (r : Registry) (a : Attempt) : Registry :=
  { r with attempts := r.attempts.map fun b => if b.id = a.id then a else b }

/-- Takes an attempt out. -/
def erase (r : Registry) (id : Nat) : Registry :=
  { r with attempts := r.attempts.filter (·.id ≠ id) }

/-- Notes that an attempt has seen the greeting; answers whether it was waiting for it. -/
def markConnected (r : Registry) (id : Nat) : Registry × Bool :=
  match (r.get? id).bind (·.advance? .connected) with
  | some connected => (r.replace connected, true)
  | none => (r, false)

/-- The attempt as it ends when `outcome` is asked for: a step that is not allowed is a
failure. -/
def ended (a : Attempt) (outcome : AttemptState) : Attempt :=
  (a.advance? outcome).getD { a with state := .failed }

/-- Takes an attempt out and answers how it ended. -/
def release (r : Registry) (id : Nat) (outcome : AttemptState) : Registry × Option Attempt :=
  match r.get? id with
  | some a => (r.erase id, some (ended a outcome))
  | none => (r, none)

end Registry

end StreamLoad
