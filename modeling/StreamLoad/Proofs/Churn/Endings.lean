import StreamLoad.Proofs.Churn.Operations
import StreamLoad.Proofs.Lists

/-! # Endings in any order

Attempts end in whatever order their answers come. Two that end one after the other leave the same
ledger as in the other order (`finish_comm`), also when only one of them still counts as a drop: it
does not matter which. Probes have no part in what is counted of the attempts (`unprobed`). So two
runs in which each attempt ends in the same way come to the same (`unprobed_run_eq`).
-/

set_option autoImplicit false

namespace StreamLoad

namespace Registry

theorem erase_comm (r : Registry) (id other : Nat) :
    (r.erase id).erase other = (r.erase other).erase id := by
  simp only [erase, List.filter_filter, Bool.and_comm]

/-- Whether an attempt waits for its greeting does not depend on the others. -/
theorem markConnected_erase (r : Registry) {id other : Nat} (apart : id ≠ other) :
    ((r.erase other).markConnected id).2 = (r.markConnected id).2 := by
  have same : (r.erase other).get? id = r.get? id := by
    simp only [get?, erase, List.find?_filter]
    congr 1
    funext a
    by_cases ha : a.id = id <;> simp [ha, apart]
  unfold markConnected
  rw [same]
  split <;> rfl

end Registry

namespace ChurnLedger

/-- An attempt that fails and one that ends in any way, in either order. -/
theorem finish_comm_of_kind (l : ChurnLedger) {id other : Nat} (apart : id ≠ other)
    (now now' timeout timeout' : Nat) {ending : Ending} {kind : FailureKind}
    (fails : ending.kind? = some kind) (ending' : Ending) :
    ((l.finish id now timeout ending).1.finish other now' timeout' ending').1
      = ((l.finish other now' timeout' ending').1.finish id now timeout ending).1 := by
  have erased := l.registry.erase_comm id other
  cases fails' : ending'.kind? with
  | some kind' =>
      simp only [finish_of_kind fails, finish_of_kind fails', erased]
      cases kind <;> cases kind' <;> rfl
  | none =>
      obtain rfl := Ending.eq_greeted fails'
      have mark := l.registry.markConnected_erase apart.symm
      simp only [finish_of_kind fails, finish_greeted, erased, mark, Counters.recordFailure]
      split <;> cases kind <;> rfl

/-- Two attempts end one after the other, in either order. If only one of them still counts as a
drop, it does not matter which. -/
theorem finish_comm (l : ChurnLedger) {id other : Nat} (apart : id ≠ other)
    (now now' timeout timeout' : Nat) (ending ending' : Ending) :
    ((l.finish id now timeout ending).1.finish other now' timeout' ending').1
      = ((l.finish other now' timeout' ending').1.finish id now timeout ending).1 := by
  cases fails : ending.kind? with
  | some kind => exact l.finish_comm_of_kind apart now now' timeout timeout' fails ending'
  | none =>
      cases fails' : ending'.kind? with
      | some kind' =>
          exact (l.finish_comm_of_kind apart.symm now' now timeout' timeout fails' ending).symm
      | none =>
          obtain rfl := Ending.eq_greeted fails
          obtain rfl := Ending.eq_greeted fails'
          have erased := l.registry.erase_comm id other
          have mark := l.registry.markConnected_erase apart
          have mark' := l.registry.markConnected_erase apart.symm
          simp only [finish_greeted]
          by_cases waits : (l.registry.markConnected id).2 = true <;>
            by_cases waits' : (l.registry.markConnected other).2 = true <;>
            by_cases short : l.counters.dropped < l.counters.goal <;>
            by_cases last : l.counters.dropped + 1 < l.counters.goal <;>
            simp [mark, mark', waits, waits', short, last, erased]

/-! ## Runs without ticks

Probes may end between the attempts, and at other places in another run, so ledgers are compared
less what probes leave in them (`unprobed`). What is left of a run without ticks are the ends of
attempts. Those of different attempts commute (`applyEnd_comm`), so only the order of those on one
attempt matters. -/

/-- The ledger less what probes leave in it. -/
def unprobed (l : ChurnLedger) : ChurnLedger :=
  { l with
    counters := { l.counters with accepting := none }
    metrics := { l.metrics with accepting := none } }

/-- The ends of attempts do not depend on probes. -/
theorem unprobed_finish (l : ChurnLedger) (id now timeout : Nat) (ending : Ending) :
    (l.finish id now timeout ending).1.unprobed = (l.unprobed.finish id now timeout ending).1 := by
  cases fails : ending.kind? with
  | some kind =>
      simp only [finish_of_kind fails]
      cases kind <;> rfl
  | none =>
      obtain rfl := Ending.eq_greeted fails
      simp only [finish_greeted]
      by_cases counts : (l.registry.markConnected id).2 = true ∧ l.counters.dropped < l.counters.goal
      · rw [if_pos counts, if_pos (by exact counts)]
        rfl
      · rw [if_neg counts, if_neg (by exact counts)]
        rfl

/-- The ledger after the end of an attempt. Other operations are passed over. -/
def applyEnd (l : ChurnLedger) : Operation → ChurnLedger
  | .finish id now timeout ending => (l.finish id now timeout ending).1
  | .tick _ | .probed _ => l

theorem applyEnd_comm (l : ChurnLedger) (op op' : Operation) (apart : op.attempt? ≠ op'.attempt?) :
    (l.applyEnd op).applyEnd op' = (l.applyEnd op').applyEnd op := by
  cases op with
  | finish id now timeout ending =>
      cases op' with
      | finish other now' timeout' ending' =>
          have different : id ≠ other := fun same => apart (congrArg some same)
          exact l.finish_comm different now now' timeout timeout' ending ending'
      | tick now' => rfl
      | probed verdict => rfl
  | tick now => rfl
  | probed verdict => rfl

/-- Of a run without ticks only the ends of attempts count. -/
theorem unprobed_run (l : ChurnLedger) {ops : List Operation}
    (still : ∀ op ∈ ops, ∀ now, op ≠ .tick now) :
    (l.run ops).unprobed = (ops.filter (·.attempt?.isSome)).foldl applyEnd l.unprobed := by
  induction ops generalizing l with
  | nil => rfl
  | cons op ops ih =>
      have rest := ih (l.apply op) fun later hop => still later (List.mem_cons_of_mem op hop)
      cases op with
      | tick now => exact absurd rfl (still _ List.mem_cons_self now)
      | finish id now timeout ending =>
          rw [run_cons, rest, List.filter_cons_of_pos rfl, List.foldl_cons]
          exact congrArg (List.foldl applyEnd · _) (l.unprobed_finish id now timeout ending)
      | probed verdict =>
          rw [run_cons, rest, List.filter_cons_of_neg (by simp [Operation.attempt?])]
          rfl

/-- **Order of the ends.** Two runs without ticks in which each attempt ends in the same way come
to the same, but for what the probes say. -/
theorem unprobed_run_eq (l : ChurnLedger) {ops ops' : List Operation}
    (still : ∀ op ∈ ops, ∀ now, op ≠ .tick now) (still' : ∀ op ∈ ops', ∀ now, op ≠ .tick now)
    (same : ∀ id, ops.filter (·.attempt? = some id) = ops'.filter (·.attempt? = some id)) :
    (l.run ops).unprobed = (l.run ops').unprobed := by
  rw [l.unprobed_run still, l.unprobed_run still']
  refine foldl_eq_of_filter_eq applyEnd_comm (fun key => ?_) l.unprobed
  have restrict (list : List Operation) :
      (list.filter (·.attempt?.isSome)).filter (·.attempt? = key)
        = if key.isSome then list.filter (·.attempt? = key) else [] := by
    rw [List.filter_filter]
    cases key with
    | none => simp
    | some id =>
        refine List.filter_congr fun op _ => ?_
        by_cases own : op.attempt? = some id <;> simp [own]
  rw [restrict, restrict]
  cases key with
  | none => rfl
  | some id => exact same id

end ChurnLedger

end StreamLoad
