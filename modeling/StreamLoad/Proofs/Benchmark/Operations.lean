import StreamLoad.Benchmark.Ledger
import Mathlib.Data.Fintype.Fin
import Mathlib.Data.Vector.Basic

/-! # Runs of the ledger of a benchmark

The tasks of a benchmark act on its ledger one at a time: the subscribers are started, a tick is
taken, a member reads an event, or the stream of a member ends. An `Operation` is what one task
does between two of its pauses, and a run is a list of operations in the order they happen to
come in. `receivers` reads off a run which members have been brought the payload of a cycle, and
`Counted` is what every run keeps of the counts.
-/

set_option autoImplicit false

namespace StreamLoad.BenchmarkLedger

/-- What happens to the ledger of a benchmark between two pauses of its tasks. -/
inductive Operation (size : Nat) where
  /-- The subscribers are started. -/
  | start (now : Nat)
  | tick (now : Nat)
  /-- A member reads an event of its stream. -/
  | receive (id : Fin size) (event : Event)
  /-- A member cannot open its stream. -/
  | refuse (id : Fin size) (failure : Failure)
  /-- The stream of a member ends. -/
  | lose (id : Fin size) (failure : Failure)

variable {size : Nat}

/-- The ledger after an operation. -/
def apply (l : BenchmarkLedger) : Operation size → BenchmarkLedger
  | .start now => l.start now
  | .tick now => (l.tick now).1
  | .receive id event => l.receive id event
  | .refuse id failure => (l.refuse id failure).1
  | .lose id failure => (l.lose id failure).1

/-- The ledger after some operations, one after another. -/
def run (l : BenchmarkLedger) (ops : List (Operation size)) : BenchmarkLedger := ops.foldl apply l

@[simp] theorem run_nil (l : BenchmarkLedger) : l.run ([] : List (Operation size)) = l := rfl

@[simp] theorem run_cons (l : BenchmarkLedger) (op : Operation size) (ops : List (Operation size)) :
    l.run (op :: ops) = (l.apply op).run ops := rfl

theorem run_append (l : BenchmarkLedger) (ops later : List (Operation size)) :
    l.run (ops ++ later) = (l.run ops).run later := List.foldl_append

/-! ## Who has received a cycle

A member may be brought the same payload several times, so those who have received a cycle are a set
and not a count. It is read off the operations alone, without the ledger. -/

/-- Whether an operation brings a member the payload of a cycle. -/
def Operation.brings (message : String) (cycle : Nat) (id : Fin size) : Operation size → Bool
  | .receive reader (.data payload) =>
      decide (reader = id ∧ Cycle.ofPayload? message payload = some cycle)
  | _ => false

theorem Operation.brings_iff {message : String} {cycle : Nat} {id : Fin size}
    {op : Operation size} :
    op.brings message cycle id = true ↔
      ∃ payload, op = .receive id (.data payload)
        ∧ Cycle.ofPayload? message payload = some cycle := by
  constructor
  · intro brought
    match op, brought with
    | .receive reader (.data payload), brought =>
        obtain ⟨rfl, read⟩ := of_decide_eq_true brought
        exact ⟨payload, rfl, read⟩
  · rintro ⟨payload, rfl, read⟩
    exact decide_eq_true ⟨rfl, read⟩

/-- The members that some operations have brought the payload of a cycle. -/
def receivers (message : String) (cycle : Nat) (ops : List (Operation size)) : Finset (Fin size) :=
  Finset.univ.filter fun id => ops.any (·.brings message cycle id)

theorem mem_receivers_singleton {message : String} {cycle : Nat} {op : Operation size}
    {id : Fin size} : id ∈ receivers message cycle [op] ↔ op.brings message cycle id = true := by
  simp [receivers]

theorem receivers_append (message : String) (cycle : Nat) (ops later : List (Operation size)) :
    receivers message cycle (ops ++ later)
      = receivers message cycle ops ∪ receivers message cycle later := by
  ext id
  simp [receivers]

/-- The split of a run at the tick that published a cycle: `after` is what came since. -/
def Published (l : BenchmarkLedger) (ops : List (Operation size)) (cycle : Nat)
    (after : List (Operation size)) : Prop :=
  ∃ before now, ops = before ++ .tick now :: after ∧ ((l.run before).tick now).2.1 = some cycle

end StreamLoad.BenchmarkLedger
