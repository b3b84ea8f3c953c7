import StreamLoad.Churn.Ledger
import StreamLoad.Proofs.Attempt.Registry

/-! # Runs of the ledger of a churn session

The driver, the attempts and the probes act on the ledger of a churn session one at a time: a
tick is taken, an attempt ends, or a probe ends. A run is a list of such operations in the order
they happen to come in; it is legal if only attempts under way end (`Legal`). `ended` lists the
attempts that a run ends, each as it leaves the registry.
-/

set_option autoImplicit false

namespace StreamLoad

namespace Ending

/-- The state that an attempt under way ends in. -/
def state : Ending → AttemptState
  | .greeted => .aborted
  | .failed _ | .timedOut => .failed

/-- The kind of failure that an ending is counted by. -/
def kind? : Ending → Option FailureKind
  | .greeted => none
  | .failed failure => some (.ofFailure failure)
  | .timedOut => some .timeout

/-- An attempt that does not fail is greeted. -/
theorem eq_greeted {ending : Ending} (fails : ending.kind? = none) : ending = .greeted := by
  cases ending with
  | greeted => rfl
  | failed failure => cases fails
  | timedOut => cases fails

/-- What an ending adds to the counters. -/
def count (c : Counters) : Ending → Counters
  | .greeted => c.recordDrop.1
  | .failed _ | .timedOut => c.recordFailure

end Ending

namespace Counters

theorem goal_recordDrop (c : Counters) : c.recordDrop.1.goal = c.goal := by
  unfold recordDrop
  split <;> rfl

theorem failed_recordDrop (c : Counters) : c.recordDrop.1.failed = c.failed := by
  unfold recordDrop
  split <;> rfl

/-- A drop counts unless the goal is reached. -/
theorem dropped_recordDrop (c : Counters) :
    c.recordDrop.1.dropped = if c.dropped < c.goal then c.dropped + 1 else c.dropped := by
  unfold recordDrop
  split <;> rfl

end Counters

namespace ChurnLedger

/-- What happens to the ledger of a churn session between two pauses of its tasks. -/
inductive Operation where
  | tick (now : Nat)
  /-- An attempt ends; `timeout` is the time that it was allowed. -/
  | finish (id now timeout : Nat) (ending : Ending)
  | probed (verdict : Verdict)
deriving DecidableEq, Repr

/-- The attempt that an operation ends. -/
def Operation.attempt? : Operation → Option Nat
  | .finish id _ _ _ => some id
  | .tick _ | .probed _ => none

/-- The ledger after an operation. -/
def apply (l : ChurnLedger) : Operation → ChurnLedger
  | .tick now => (l.tick now).1
  | .finish id now timeout ending => (l.finish id now timeout ending).1
  | .probed verdict => (l.probed verdict).1

/-- The ledger after some operations, one after another. -/
def run (l : ChurnLedger) (ops : List Operation) : ChurnLedger := ops.foldl apply l

/-- An operation ends no attempt but one that is under way. -/
def Operation.Possible (l : ChurnLedger) (op : Operation) : Prop :=
  ∀ id ∈ op.attempt?, id ∈ l.registry.ids

instance (l : ChurnLedger) (op : Operation) : Decidable (op.Possible l) :=
  inferInstanceAs (Decidable (∀ id ∈ op.attempt?, id ∈ l.registry.ids))

/-- Each operation is possible when its turn comes. -/
def Legal (l : ChurnLedger) : List Operation → Prop
  | [] => True
  | op :: ops => op.Possible l ∧ (l.apply op).Legal ops

instance decidableLegal (l : ChurnLedger) : (ops : List Operation) → Decidable (l.Legal ops)
  | [] => .isTrue trivial
  | op :: ops =>
      have := decidableLegal (l.apply op) ops
      inferInstanceAs (Decidable (op.Possible l ∧ (l.apply op).Legal ops))

/-- The attempt that an operation takes out of the registry, as it ends. -/
def leaver? (l : ChurnLedger) : Operation → Option Attempt
  | .finish id _ _ .greeted => ((l.countDrop id).release id .aborted).2
  | .finish id _ _ (.failed _) | .finish id _ _ .timedOut => (l.release id .failed).2
  | .tick _ | .probed _ => none

/-- The attempts that some operations take out of the registry, in order. -/
def ended (l : ChurnLedger) : List Operation → List Attempt
  | [] => []
  | op :: ops => (l.leaver? op).toList ++ (l.apply op).ended ops

@[simp] theorem run_nil (l : ChurnLedger) : l.run [] = l := rfl

@[simp] theorem run_cons (l : ChurnLedger) (op : Operation) (ops : List Operation) :
    l.run (op :: ops) = (l.apply op).run ops := rfl

theorem run_append (l : ChurnLedger) (ops later : List Operation) :
    l.run (ops ++ later) = (l.run ops).run later := List.foldl_append

theorem legal_append {l : ChurnLedger} {ops later : List Operation} :
    l.Legal (ops ++ later) ↔ l.Legal ops ∧ (l.run ops).Legal later := by
  induction ops generalizing l with
  | nil => simp [Legal]
  | cons op ops ih => simp [Legal, ih, and_assoc]

/-! ## What an operation does

Everything later is read off these lemmas: what a tick does by its three cases, and what the end of
an attempt does by facts that hold of every ending. `finish_underWay` puts the latter together, so
that no proof about a run has to unfold the endings of attempts. -/

/-- A tick finds the goal reached, or too many attempts under way, or opens the next attempt. -/
theorem tick_cases (l : ChurnLedger) (now : Nat) :
    (l.counters.goal ≤ l.counters.dropped ∧ (l.tick now).1 = { l with goalNoted := true }
        ∧ (l.tick now).2.1 = .goalReached)
    ∨ (l.counters.dropped < l.counters.goal ∧ l.maxInFlight ≤ l.registry.inFlight
        ∧ (l.tick now).1 = l ∧ (l.tick now).2.1 = .saturated)
    ∨ (l.counters.dropped < l.counters.goal ∧ l.registry.inFlight < l.maxInFlight
        ∧ (l.tick now).1.registry = (l.registry.openNew now).1
        ∧ (l.tick now).1.counters = l.counters
        ∧ (l.tick now).1.maxInFlight = l.maxInFlight
        ∧ (l.tick now).2.1 = .issued l.registry.opened) := by
  by_cases reached : l.counters.goal ≤ l.counters.dropped
  · exact Or.inl ⟨reached, by simp [tick, Counters.goalReached, reached]⟩
  · have short : l.counters.dropped < l.counters.goal := by omega
    by_cases full : l.maxInFlight ≤ l.registry.inFlight
    · refine Or.inr (Or.inl ⟨short, full, ?_⟩)
      simp [tick, Counters.goalReached, reached, full]
    · refine Or.inr (Or.inr ⟨short, by omega, ?_⟩)
      simp [tick, Counters.goalReached, reached, full, gaugeInFlight, Registry.openNew]

/-- A tick opens an attempt if the goal is not reached and few enough attempts are under way. -/
theorem tick_of_open {l : ChurnLedger} (short : l.counters.dropped < l.counters.goal)
    (room : l.registry.inFlight < l.maxInFlight) (now : Nat) :
    (l.tick now).1 =
      { l with
        registry := (l.registry.openNew now).1
        metrics :=
          { l.metrics with
            attempts := l.metrics.attempts + 1
            inFlight := some (l.registry.inFlight + 1) } } := by
  have below : ¬ l.counters.goal ≤ l.counters.dropped := Nat.not_le.mpr short
  have free : ¬ l.maxInFlight ≤ l.registry.inFlight := Nat.not_le.mpr room
  simp [tick, Counters.goalReached, below, free, gaugeInFlight, Registry.openNew]
  rfl

theorem registry_countDrop (l : ChurnLedger) (id : Nat) :
    (l.countDrop id).registry = (l.registry.markConnected id).1 := by
  unfold countDrop
  split
  · rename_i marked
    rw [marked]
  · rename_i marked
    split <;> rw [marked]

theorem maxInFlight_countDrop (l : ChurnLedger) (id : Nat) :
    (l.countDrop id).maxInFlight = l.maxInFlight := by
  unfold countDrop
  split
  · rfl
  · split <;> rfl

/-- An attempt that is marked connected counts as a drop. -/
theorem counters_countDrop {l : ChurnLedger} {id : Nat}
    (marked : (l.registry.markConnected id).2 = true) :
    (l.countDrop id).counters = l.counters.recordDrop.1 := by
  unfold countDrop
  split
  · rename_i unmarked
    rw [unmarked] at marked
    cases marked
  · split
    · rename_i counted
      rw [counted]
    · rename_i counted
      rw [counted]

/-- However an attempt ends, it leaves the registry. -/
theorem registry_finish (l : ChurnLedger) (id now timeout : Nat) (ending : Ending) :
    (l.finish id now timeout ending).1.registry = l.registry.erase id := by
  cases ending with
  | greeted =>
      -- The mark of the greeting is lost with the attempt.
      have erased : ((l.countDrop id).release id .aborted).1.registry = l.registry.erase id := by
        simp only [release, registry_countDrop]
        exact l.registry.markConnected_release_fst id .aborted
      simp only [finish]
      split <;> rename_i left <;> rw [left] at erased <;> exact erased
  | failed failure => exact l.registry.release_fst id .failed
  | timedOut => exact l.registry.release_fst id .failed

theorem maxInFlight_finish (l : ChurnLedger) (id now timeout : Nat) (ending : Ending) :
    (l.finish id now timeout ending).1.maxInFlight = l.maxInFlight := by
  cases ending with
  | greeted =>
      have same := maxInFlight_countDrop l id
      simp only [finish]
      split <;> rename_i left <;> rw [← same] <;>
        exact congrArg (fun p => p.1.maxInFlight) left.symm
  | failed failure => rfl
  | timedOut => rfl

/-- An attempt that fails is counted by its kind. -/
theorem finish_of_kind {ending : Ending} {kind : FailureKind} (fails : ending.kind? = some kind)
    (l : ChurnLedger) (id now timeout : Nat) :
    (l.finish id now timeout ending).1 =
      { l with
        counters := l.counters.recordFailure
        registry := l.registry.erase id
        metrics :=
          { l.metrics.countFailure kind with inFlight := some (l.registry.erase id).inFlight } } := by
  have erased := l.registry.release_fst id .failed
  cases ending with
  | greeted => cases fails
  | failed failure =>
      cases fails
      simp [finish, fail, release, gaugeInFlight, erased]
  | timedOut =>
      cases fails
      simp [finish, fail, release, gaugeInFlight, erased]

/-- An attempt that is greeted is counted as a drop if it waited for the greeting and the goal is
not reached. -/
theorem finish_greeted (l : ChurnLedger) (id now timeout : Nat) :
    (l.finish id now timeout .greeted).1 =
      if (l.registry.markConnected id).2 = true ∧ l.counters.dropped < l.counters.goal then
        { l with
          counters := { l.counters with dropped := l.counters.dropped + 1 }
          registry := l.registry.erase id
          metrics :=
            { l.metrics with
              dropped := l.metrics.dropped + 1
              inFlight := some (l.registry.erase id).inFlight } }
      else
        { l with
          registry := l.registry.erase id
          metrics := { l.metrics with inFlight := some (l.registry.erase id).inFlight } } := by
  have erased := l.registry.markConnected_release_fst id .aborted
  -- The ledger afterwards does not depend on what is noted.
  have ledger : (l.finish id now timeout .greeted).1
      = ((l.countDrop id).release id .aborted).1.gaugeInFlight := by
    simp only [finish]
    split <;> rename_i left <;> rw [left]
  rw [ledger]
  rcases marks : l.registry.markConnected id with ⟨registry, _ | _⟩ <;> rw [marks] at erased
  · simp [countDrop, release, gaugeInFlight, marks, erased]
  · by_cases short : l.counters.dropped < l.counters.goal <;>
      simp [countDrop, release, gaugeInFlight, marks, erased, Counters.recordDrop, short]

/-- An attempt under way ends in the state of its ending and is counted by it. -/
theorem finish_underWay {l : ChurnLedger} (orderly : l.registry.Orderly) {id : Nat}
    (underWay : id ∈ l.registry.ids) (now timeout : Nat) (ending : Ending) :
    (∃ a ∈ l.registry.attempts, a.id = id
      ∧ l.leaver? (.finish id now timeout ending) = some { a with state := ending.state })
    ∧ (l.finish id now timeout ending).1.counters = ending.count l.counters := by
  obtain ⟨a, found⟩ := Registry.exists_get? underWay
  obtain ⟨ha, same⟩ := Registry.mem_of_get? found
  obtain ⟨marked, aborts, fails⟩ := Registry.markConnected_release found (orderly.pending a ha)
  cases ending with
  | greeted =>
      refine ⟨⟨a, ha, same, ?_⟩, ?_⟩
      · simp only [leaver?, release, registry_countDrop, aborts, Ending.state]
      · rw [Ending.count, ← counters_countDrop marked]
        simp only [finish]
        split <;> rename_i left <;> exact congrArg (fun p => p.1.counters) left.symm
  | failed failure =>
      exact ⟨⟨a, ha, same, by simp only [leaver?, release, fails, Ending.state]⟩, rfl⟩
  | timedOut =>
      exact ⟨⟨a, ha, same, by simp only [leaver?, release, fails, Ending.state]⟩, rfl⟩

/-- An operation takes attempts out of the registry or puts the next one in. -/
theorem attempts_apply (l : ChurnLedger) (op : Operation) :
    l.registry.opened ≤ (l.apply op).registry.opened
    ∧ ∀ a ∈ (l.apply op).registry.attempts, a.id < l.registry.opened →
      a ∈ l.registry.attempts := by
  cases op with
  | tick now =>
      rcases l.tick_cases now with ⟨-, same, -⟩ | ⟨-, -, same, -⟩ | ⟨-, -, registry, -, -, -⟩
      · rw [apply, same]
        exact ⟨Nat.le_refl _, fun a ha _ => ha⟩
      · rw [apply, same]
        exact ⟨Nat.le_refl _, fun a ha _ => ha⟩
      · rw [apply, registry]
        refine ⟨Nat.le_succ _, fun a ha old => ?_⟩
        rcases List.mem_cons.mp ha with rfl | older
        · exact absurd old (Nat.lt_irrefl _)
        · exact older
  | finish id now timeout ending =>
      rw [apply, registry_finish]
      exact ⟨Nat.le_refl _, fun a ha _ => (Registry.mem_erase.mp ha).1⟩
  | probed verdict => exact ⟨Nat.le_refl _, fun a ha _ => ha⟩

/-- The attempts under way after a run are old ones, or were opened in its course. -/
theorem attempts_run (l : ChurnLedger) (ops : List Operation) {a : Attempt}
    (ha : a ∈ (l.run ops).registry.attempts) (old : a.id < l.registry.opened) :
    a ∈ l.registry.attempts := by
  induction ops generalizing l with
  | nil => exact ha
  | cons op ops ih =>
      obtain ⟨grows, keeps⟩ := l.attempts_apply op
      exact keeps a (ih (l.apply op) ha (Nat.lt_of_lt_of_le old grows)) old

end ChurnLedger

end StreamLoad
