import StreamLoad.Attempt

/-! # The pool of subscribers

A benchmark has a fixed number of members, numbered from zero. Each is connected once at most,
and one that has failed stays failed. Ordinals beyond the pool are no members.
-/

set_option autoImplicit false

namespace StreamLoad

/-- The states of the members, by ordinal. -/
structure Pool where
  states : List AttemptState
deriving DecidableEq, Repr

namespace Pool

/-- A pool of members that all wait for their greeting. -/
def ofSize (size : Nat) : Pool := { states := List.replicate size .pending }

/-- The number of members. -/
def size (p : Pool) : Nat := p.states.length

/-- Whether there are no members. -/
def isEmpty (p : Pool) : Bool := p.states.isEmpty

/-- The state of a member. -/
def state? (p : Pool) (id : Nat) : Option AttemptState := p.states[id]?

/-- Moves a member on, if it is one and the step is allowed; answers whether it moved. -/
def advance (p : Pool) (id : Nat) (next : AttemptState) : Pool × Bool :=
  match (p.state? id).bind (·.advance? next) with
  | some state => ({ states := p.states.set id state }, true)
  | none => (p, false)

/-- Notes that a member has seen its greeting; answers whether it is the first time. -/
def markConnected (p : Pool) (id : Nat) : Pool × Bool := p.advance id .connected

/-- Notes that a member has failed; answers whether it is the first time. -/
def markFailed (p : Pool) (id : Nat) : Pool × Bool := p.advance id .failed

/-- The number of members in a state. -/
def count (p : Pool) (state : AttemptState) : Nat := p.states.countP (· = state)

/-- The size of a pool stays as it is. -/
theorem size_advance (p : Pool) (id : Nat) (next : AttemptState) :
    (p.advance id next).1.size = p.size := by
  unfold advance
  split <;> simp [size]

end Pool

end StreamLoad
