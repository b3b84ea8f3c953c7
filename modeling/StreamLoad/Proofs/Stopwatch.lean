import StreamLoad.Stopwatch
import StreamLoad.Proofs.Histories
import Mathlib.Data.List.DropRight

/-! # What a stopwatch has timed

A stopwatch in terms of what was done with it: it may be started and stopped in any order and at
any instants, also at ones that go back. A stop records an interval if there has been a start since
the last interval was recorded (`opened`), and measures from the latest such start. `follows_run`
says that a stopwatch holds the latest of these starts, the last of the intervals recorded, and
their number. So an interval is recorded for each start that is directly followed by a stop
(`recorded_eq`), and `intervals_recorded` puts this together.
-/

set_option autoImplicit false

namespace StreamLoad.Stopwatch

/-! ## Runs -/

/-- What is done with a stopwatch, at an instant. -/
inductive Operation where
  | start (now : Nat)
  | stop (now : Nat)
deriving DecidableEq, Repr

/-- The instant of a start. -/
def Operation.startedAt? : Operation → Option Nat
  | start now => some now
  | stop _ => none

/-- Carries out an operation; a stop answers the interval that it records. -/
def step (w : Stopwatch) : Operation → Stopwatch × Option Nat
  | .start now => (w.start now, none)
  | .stop now => w.stop now

/-- A new stopwatch after some operations, one after another. -/
def run (ops : List Operation) : Stopwatch := carryOut step {} ops

/-- The operations on a new stopwatch, each with its answer. -/
def history (ops : List Operation) : List (Operation × Option Nat) := answered step {} ops

/-- The intervals that the stops of a run have recorded. -/
def recorded (ops : List Operation) : List Nat := (history ops).filterMap fun entry => entry.2

/-- The instants of the starts of a run since the last stop that has recorded an interval, or since
the beginning if none has. -/
def opened (ops : List Operation) : List Nat :=
  ((history ops).rtakeWhile fun entry => entry.2.isNone).filterMap fun entry =>
    entry.1.startedAt?

theorem run_concat (ops : List Operation) (op : Operation) :
    run (ops ++ [op]) = ((run ops).step op).1 := carryOut_concat step {} ops op

theorem history_concat (ops : List Operation) (op : Operation) :
    history (ops ++ [op]) = history ops ++ [(op, ((run ops).step op).2)] :=
  answered_concat step {} ops op

section Answers

variable {ops : List Operation} {op : Operation}

theorem recorded_of_recording {interval : Nat}
    (records : ((run ops).step op).2 = some interval) :
    recorded (ops ++ [op]) = recorded ops ++ [interval] := by
  rw [recorded, history_concat, List.filterMap_append, records]
  rfl

/-- An operation that answers an interval closes all starts before it. -/
theorem opened_of_recording {interval : Nat}
    (records : ((run ops).step op).2 = some interval) : opened (ops ++ [op]) = [] := by
  rw [opened, history_concat, List.rtakeWhile_concat_neg _ _ _ (by simp [records])]
  rfl

theorem recorded_of_idle (idle : ((run ops).step op).2 = none) :
    recorded (ops ++ [op]) = recorded ops := by
  rw [recorded, history_concat, List.filterMap_append, idle]
  exact List.append_nil _

/-- An operation that answers nothing is one more since the last recording. -/
theorem opened_of_idle (idle : ((run ops).step op).2 = none) :
    opened (ops ++ [op]) = opened ops ++ op.startedAt?.toList := by
  rw [opened, history_concat, List.rtakeWhile_concat_pos _ _ _ (by simp [idle]),
    List.filterMap_append]
  cases started : op.startedAt? <;> simp [opened, started]

end Answers

/-! ## One operation -/

/-- An interval is recorded by a stop while one is under way. -/
theorem stop_snd (w : Stopwatch) (now : Nat) :
    (w.stop now).2 = w.startedAt.map fun started => now - started := by
  cases h : w.startedAt <;> simp [stop, h]

/-- A stop that records nothing changes nothing. -/
theorem stop_of_none {w : Stopwatch} {now : Nat} (idle : (w.stop now).2 = none) :
    (w.stop now).1 = w := by
  rw [stop_snd, Option.map_eq_none_iff] at idle
  simp [stop, idle]

/-- An interval is under way after a start, and after no stop. -/
theorem startedAt_step (w : Stopwatch) (op : Operation) :
    (w.step op).1.startedAt = op.startedAt? := by
  cases op with
  | start now => rfl
  | stop now => cases h : w.startedAt <;> simp [step, stop, Operation.startedAt?, h]

/-! ## What a stopwatch holds

A start always begins a new interval, and a stop ends the one under way if there is one. So of all
starts since the last recording the latest alone is remembered, and `opened` needs to be looked at
only for its last entry. -/

/-- What a stopwatch holds after a run. -/
structure Follows (ops : List Operation) (w : Stopwatch) : Prop where
  startedAt : w.startedAt = (opened ops).getLast?
  last : w.last = (recorded ops).getLast?
  completed : w.completed = (recorded ops).length

namespace Follows

variable {ops : List Operation}

theorem start (h : Follows ops (run ops)) (now : Nat) :
    Follows (ops ++ [.start now]) ((run ops).start now) := by
  have idle : ((run ops).step (.start now)).2 = none := rfl
  have same := recorded_of_idle idle
  refine ⟨?_, ?_, ?_⟩
  · -- Whether it is the first one or a restart, this start is now the latest.
    rw [opened_of_idle idle]
    exact List.getLast?_concat.symm
  · rw [same]
    exact h.last
  · rw [same]
    exact h.completed

theorem stop (h : Follows ops (run ops)) (now : Nat) :
    Follows (ops ++ [.stop now]) ((run ops).stop now).1 := by
  have answer : ((run ops).step (.stop now)).2 = ((run ops).stop now).2 := rfl
  cases records : ((run ops).stop now).2 with
  | none =>
      have idle := answer.trans records
      have same : opened (ops ++ [.stop now]) = opened ops := by
        rw [opened_of_idle idle]
        exact List.append_nil _
      rw [stop_of_none records]
      exact ⟨same ▸ h.startedAt, recorded_of_idle idle ▸ h.last,
        recorded_of_idle idle ▸ h.completed⟩
  | some interval =>
      have more := recorded_of_recording (answer.trans records)
      have measured := (stop_snd (run ops) now).symm.trans records
      have running : (run ops).isRunning = true := by
        obtain ⟨started, is, -⟩ := Option.map_eq_some_iff.mp measured
        rw [isRunning, is]
        rfl
      refine ⟨?_, ?_, ?_⟩
      · rw [opened_of_recording (answer.trans records)]
        exact startedAt_step (run ops) (.stop now)
      · rw [last_stop_eq, measured, more, List.getLast?_concat, Option.some_or]
      · rw [completed_stop, running, more, List.length_append, h.completed]
        rfl

end Follows

theorem follows_run (ops : List Operation) : Follows ops (run ops) := by
  induction ops using List.reverseRecOn with
  | nil => exact ⟨rfl, rfl, rfl⟩
  | append_singleton ops op ih =>
      rw [run_concat]
      cases op with
      | start now => exact ih.start now
      | stop now => exact ih.stop now

/-! ## Starts followed by stops

The history can be read a second time, without any state: an interval is recorded at a stop just if
the operation before it was a start. So the intervals of a run come from pairs of neighbours. -/

/-- The interval between a start and a stop. -/
def between? : Operation × Operation → Option Nat
  | (.start started, .stop now) => some (now - started)
  | _ => none

/-- What an operation answers depends on nothing but the one before it. -/
theorem step_step_snd (w : Stopwatch) (op next : Operation) :
    ((w.step op).1.step next).2 = between? (op, next) := by
  cases next with
  | start now => cases op <;> rfl
  | stop now =>
      show ((w.step op).1.stop now).2 = _
      rw [stop_snd, startedAt_step]
      cases op <;> rfl

theorem filterMap_answered (w : Stopwatch) (op : Operation) (ops : List Operation) :
    (answered step (w.step op).1 ops).filterMap (fun entry => entry.2)
      = ((op :: ops).zip ops).filterMap between? := by
  induction ops generalizing w op with
  | nil => rfl
  | cons next ops ih =>
      rw [answered, List.zip_cons_cons, List.filterMap_cons, List.filterMap_cons, ih,
        step_step_snd]

/-- The intervals recorded are those between each start and the stop right after it. -/
theorem recorded_eq (ops : List Operation) :
    recorded ops = (ops.zip ops.tail).filterMap between? := by
  cases ops with
  | nil => rfl
  | cons op ops =>
      -- The first operation answers nothing, since nothing comes before it.
      have first : (step {} op).2 = none := by cases op <;> rfl
      rw [recorded, history, answered, List.filterMap_cons, first]
      exact filterMap_answered {} op ops

/-! ## The whole run -/

/-- What holds of a stopwatch after a run. -/
structure Timed (ops : List Operation) : Prop where
  /-- The next stop records an interval exactly if there was a start since the last recording. -/
  records_iff : ∀ now, ((run ops).stop now).2 ≠ none ↔ opened ops ≠ []
  /-- The interval is the time since the latest such start, and zero at least. -/
  interval_eq : ∀ now, ((run ops).stop now).2
    = (opened ops).getLast?.map fun started => now - started
  /-- A stop that records nothing changes nothing. -/
  unchanged : ∀ now, ((run ops).stop now).2 = none → ((run ops).stop now).1 = run ops
  /-- The last interval is the one recorded last. -/
  last_eq : (run ops).last = (recorded ops).getLast?
  /-- As many are completed as were recorded. -/
  completed_eq : (run ops).completed = (recorded ops).length
  /-- An interval is under way exactly if there was a start since the last recording. -/
  isRunning_iff : (run ops).isRunning = true ↔ opened ops ≠ []
  /-- The intervals recorded are those between each start and the stop right after it. -/
  recorded_eq : recorded ops = (ops.zip ops.tail).filterMap between?

/-- **Intervals are recorded once.** However often a stopwatch is started and stopped, and at
whatever instants: a stop records the time since the latest start that no stop has closed, and
nothing if there is none; the last of these times and their number are what the stopwatch shows. -/
theorem intervals_recorded (ops : List Operation) : Timed ops := by
  have follows := follows_run ops
  have interval (now : Nat) : ((run ops).stop now).2
      = (opened ops).getLast?.map fun started => now - started := by
    rw [stop_snd, follows.startedAt]
  refine ⟨fun now => ?_, interval, fun now => stop_of_none, follows.last, follows.completed, ?_,
    recorded_eq ops⟩
  · rw [interval, ne_eq, Option.map_eq_none_iff, List.getLast?_eq_none_iff]
  · rw [isRunning, follows.startedAt, Option.isSome_iff_ne_none, ne_eq,
      List.getLast?_eq_none_iff]

/-- A start moves the one before it, time may go back, and a second stop records nothing. -/
example :
    recorded [.start 10, .start 30, .stop 50, .stop 70, .start 90, .stop 80] = [20, 0] := by
  decide

end StreamLoad.Stopwatch
