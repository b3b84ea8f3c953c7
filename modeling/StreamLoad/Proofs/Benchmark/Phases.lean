import StreamLoad.Benchmark.Phase
import StreamLoad.Proofs.Histories
import StreamLoad.Proofs.Lists
import Mathlib.Data.List.Induction
import Mathlib.Tactic.ByContra

/-! # Phases in order

What holds of a phase machine whatever is done to it, in any order and at any instants: that the
timing is started more than once or not at all, that more members connect than there are, that
deliveries come in any phase. `Operation` is what can be done, a run is a list of operations, and
what the operations of a run answer are the cycles that it publishes (`publications`) and those that
it counts deliveries of (`acceptances`). Each invariant is shown for one operation first, from what
a tick can do (`PhaseMachine.tick_cases`), and then for a run. `phases_in_order` puts them together.
-/

set_option autoImplicit false

namespace StreamLoad.PhaseMachine

/-! ## Runs -/

/-- What is done to a phase machine. -/
inductive Operation where
  /-- The timing of the connecting is started. -/
  | start (now : Nat)
  /-- A member has connected. -/
  | connect
  /-- A member has received the payload of a cycle. -/
  | deliver (cycle : Nat)
  | tick (now : Nat)
deriving DecidableEq, Repr

/-- Whether an operation is a tick. -/
def Operation.isTick : Operation → Bool
  | .tick _ => true
  | _ => false

/-- The machine of a pool before anything has been done to it. -/
def fresh (size : Nat) : PhaseMachine := { poolSize := size }

/-- The machine after an operation. -/
def apply (m : PhaseMachine) : Operation → PhaseMachine
  | .start now => m.start now
  | .connect => m.recordConnected
  | .deliver cycle => (m.recordDelivery cycle).1
  | .tick now => (m.tick now).machine

/-- The machine after some operations, one after another. -/
def run (m : PhaseMachine) (ops : List Operation) : PhaseMachine := ops.foldl apply m

@[simp] theorem run_nil (m : PhaseMachine) : m.run [] = m := rfl

@[simp] theorem run_cons (m : PhaseMachine) (op : Operation) (ops : List Operation) :
    m.run (op :: ops) = (m.apply op).run ops := rfl

theorem run_append (m : PhaseMachine) (ops later : List Operation) :
    m.run (ops ++ later) = (m.run ops).run later := List.foldl_append

theorem run_concat (m : PhaseMachine) (ops : List Operation) (op : Operation) :
    m.run (ops ++ [op]) = (m.run ops).apply op := run_append m ops [op]

/-! ## What a run answers

A tick may publish a cycle and a delivery may be counted; nothing else answers anything. Two lists
are read off a run that way, and neither keeps a record of its own in the machine: they are the
answers that the machine has given. -/

/-- The cycle that an operation publishes. -/
def publication? (m : PhaseMachine) : Operation → Option Nat
  | .tick now => (m.tick now).publish
  | _ => none

/-- The cycle that an operation counts a delivery of. -/
def acceptance? (m : PhaseMachine) : Operation → Option Nat
  | .deliver cycle => if (m.recordDelivery cycle).2 then some cycle else none
  | _ => none

/-- The cycles that a run publishes. -/
def publications (m : PhaseMachine) (ops : List Operation) : List Nat :=
  answers apply (fun m op => (m.publication? op).toList) m ops

/-- The cycles that a run counts deliveries of, one entry for each delivery. -/
def acceptances (m : PhaseMachine) (ops : List Operation) : List Nat :=
  answers apply (fun m op => (m.acceptance? op).toList) m ops

theorem publications_concat (m : PhaseMachine) (ops : List Operation) (op : Operation) :
    m.publications (ops ++ [op])
      = m.publications ops ++ ((m.run ops).publication? op).toList :=
  answers_concat ..

theorem acceptances_concat (m : PhaseMachine) (ops : List Operation) (op : Operation) :
    m.acceptances (ops ++ [op]) = m.acceptances ops ++ ((m.run ops).acceptance? op).toList :=
  answers_concat ..

/-! ## What one operation does -/

/-- A delivery counts exactly if its cycle is waited for. -/
theorem acceptance?_deliver (m : PhaseMachine) (cycle : Nat) :
    m.acceptance? (.deliver cycle)
      = if m.phase = .waiting ∧ cycle = m.cycle then some cycle else none := by
  by_cases h : m.phase = .waiting ∧ cycle = m.cycle <;> simp [acceptance?, recordDelivery, h]

/-- The machine after a publish. Only in a pool without members does the cycle end at once. -/
theorem tick_of_isDue {m : PhaseMachine} (due : m.IsDue) (now : Nat) :
    (m.tick now).machine
        = (if m.poolSize ≤ m.messages then (m.published now).delivered now else m.published now)
      ∧ (m.tick now).publish = some (m.cycle + 1) := by
  rcases m.tick_cases now with ⟨still, -, -⟩ | ⟨⟨waits, -⟩, -, -⟩ | ⟨-, next, some⟩
  · rcases still with ⟨hp, few⟩ | ⟨hp, -⟩
    · rcases due with ⟨-, all⟩ | hm
      · omega
      · rw [hp] at hm
        cases hm
    · exact absurd hp due.ne_waiting
  · exact absurd waits due.ne_waiting
  · exact ⟨next.trans (finishCycle_of_waiting rfl now), some⟩

/-- A tick publishes exactly if the next cycle is due. -/
theorem publish_tick_iff (m : PhaseMachine) (now : Nat) :
    (m.tick now).publish ≠ none ↔ m.IsDue := by
  constructor
  · intro published
    rcases m.tick_cases now with ⟨-, -, none⟩ | ⟨-, -, none⟩ | ⟨due, -, -⟩
    · exact absurd none published
    · exact absurd none published
    · exact due
  · intro due
    rw [(tick_of_isDue due now).2]
    exact Option.some_ne_none _

/-- The cycle goes up by one with each publish, and only then. -/
theorem cycle_apply (m : PhaseMachine) (op : Operation) :
    (m.publication? op = none ∧ (m.apply op).cycle = m.cycle)
      ∨ (m.publication? op = some (m.cycle + 1) ∧ (m.apply op).cycle = m.cycle + 1) := by
  cases op with
  | start now =>
      refine Or.inl ⟨rfl, ?_⟩
      simp only [apply, start]
      split <;> rfl
  | connect => exact Or.inl ⟨rfl, rfl⟩
  | deliver cycle =>
      refine Or.inl ⟨rfl, ?_⟩
      simp only [apply, recordDelivery]
      split <;> rfl
  | tick now =>
      rcases m.tick_cases now with ⟨-, same, none⟩ | ⟨-, done, none⟩ | ⟨due, -, -⟩
      · exact Or.inl ⟨none, congrArg PhaseMachine.cycle same⟩
      · refine Or.inl ⟨none, ?_⟩
        show (m.tick now).machine.cycle = m.cycle
        rw [done]
        rfl
      · obtain ⟨next, some⟩ := tick_of_isDue due now
        refine Or.inr ⟨some, ?_⟩
        show (m.tick now).machine.cycle = m.cycle + 1
        rw [next]
        split <;> rfl

theorem connected_tick (m : PhaseMachine) (now : Nat) :
    (m.tick now).machine.connected = m.connected := by
  rcases m.tick_cases now with ⟨-, same, -⟩ | ⟨-, done, -⟩ | ⟨due, -, -⟩
  · rw [same]
  · rw [done]
    rfl
  · rw [(tick_of_isDue due now).1]
    split <;> rfl

theorem poolSize_apply (m : PhaseMachine) (op : Operation) :
    (m.apply op).poolSize = m.poolSize := by
  cases op with
  | start now =>
      simp only [apply, start]
      split <;> rfl
  | connect => rfl
  | deliver cycle =>
      simp only [apply, recordDelivery]
      split <;> rfl
  | tick now =>
      show (m.tick now).machine.poolSize = m.poolSize
      rcases m.tick_cases now with ⟨-, same, -⟩ | ⟨-, done, -⟩ | ⟨due, -, -⟩
      · rw [same]
      · rw [done]
        rfl
      · rw [(tick_of_isDue due now).1]
        split <;> rfl

theorem poolSize_run (m : PhaseMachine) (ops : List Operation) :
    (m.run ops).poolSize = m.poolSize := by
  induction ops generalizing m with
  | nil => rfl
  | cons op ops ih => exact (ih (m.apply op)).trans (m.poolSize_apply op)

/-! ## Phase, counts and stopwatches -/

/-- The phase, the cycle, the count of messages and the stopwatches agree with each other. -/
structure Consistent (m : PhaseMachine) : Prop where
  /-- While members connect, nothing is published, delivered or recorded. -/
  connecting : m.phase = .connecting →
    m.cycle = 0 ∧ m.cyclesCompleted = 0 ∧ m.messages = 0 ∧ m.connectionRecordings = 0
      ∧ m.broadcastTime = none
  /-- Between two cycles, all of those published are completed. -/
  messaging : m.phase = .messaging →
    m.cyclesCompleted = m.cycle ∧ 1 ≤ m.cycle ∧ m.messages = 0
  /-- While a cycle is waited for, it is the only one not completed, and it is timed. -/
  waiting : m.phase = .waiting →
    m.cycle = m.cyclesCompleted + 1 ∧ m.broadcast.isRunning = true

theorem consistent_fresh (size : Nat) : Consistent (fresh size) where
  connecting _ := ⟨rfl, rfl, rfl, rfl, rfl⟩
  messaging h := by cases h
  waiting h := by cases h

namespace Consistent

variable {m : PhaseMachine}

/-- Unless a cycle is waited for, no messages are counted. -/
theorem messages_eq_zero (h : m.Consistent) (idle : m.phase ≠ .waiting) : m.messages = 0 := by
  cases hp : m.phase with
  | connecting => exact (h.connecting hp).2.2.1
  | messaging => exact (h.messaging hp).2.2
  | waiting => exact absurd hp idle

/-- When a cycle is due, all of those before it are completed. -/
theorem cyclesCompleted_of_isDue (h : m.Consistent) (due : m.IsDue) :
    m.cyclesCompleted = m.cycle := by
  rcases due with ⟨hp, -⟩ | hp
  · obtain ⟨cycle, completed, -⟩ := h.connecting hp
    rw [cycle, completed]
  · exact (h.messaging hp).1

theorem publish (h : m.Consistent) (due : m.IsDue) (now : Nat) : (m.published now).Consistent where
  connecting hp := by cases hp
  messaging hp := by cases hp
  waiting _ := ⟨congrArg (· + 1) (h.cyclesCompleted_of_isDue due).symm, rfl⟩

theorem deliver (h : m.Consistent) (waits : m.phase = .waiting) (now : Nat) :
    (m.delivered now).Consistent where
  connecting hp := by cases hp
  messaging _ := by
    obtain ⟨cycle, running⟩ := h.waiting waits
    have completed : (m.delivered now).cyclesCompleted = m.cyclesCompleted + 1 := by
      show (m.broadcast.stop now).1.completed = _
      rw [Stopwatch.completed_stop, running]
      rfl
    refine ⟨completed.trans cycle.symm, ?_, rfl⟩
    show 1 ≤ m.cycle
    omega
  waiting hp := by cases hp

theorem tick (h : m.Consistent) (now : Nat) : (m.tick now).machine.Consistent := by
  rcases m.tick_cases now with ⟨-, same, -⟩ | ⟨⟨waits, -⟩, done, -⟩ | ⟨due, -, -⟩
  · rw [same]
    exact h
  · rw [done]
    exact h.deliver waits now
  · rw [(tick_of_isDue due now).1]
    split
    · exact (h.publish due now).deliver rfl now
    · exact h.publish due now

theorem apply (h : m.Consistent) (op : Operation) : (m.apply op).Consistent := by
  cases op with
  | start now =>
      simp only [PhaseMachine.apply, PhaseMachine.start]
      split
      · exact ⟨h.connecting, h.messaging, h.waiting⟩
      · exact h
  | connect => exact ⟨h.connecting, h.messaging, h.waiting⟩
  | deliver cycle =>
      simp only [PhaseMachine.apply, recordDelivery]
      split
      · -- Only a cycle that is waited for is counted, and its messages are not bounded.
        rename_i counts
        have waits : m.phase = .waiting := counts.1
        refine ⟨fun hp => ?_, fun hp => ?_, fun _ => h.waiting waits⟩
        · rw [waits] at hp
          cases hp
        · rw [waits] at hp
          cases hp
      · exact h
  | tick now => exact h.tick now

theorem run (h : m.Consistent) (ops : List Operation) : (m.run ops).Consistent := by
  induction ops generalizing m with
  | nil => exact h
  | cons op ops ih => exact ih (h.apply op)

end Consistent

/-! ## The connecting is left once

Connecting is the one phase that is not entered again, so its stopwatch is stopped at most once and
what it shows then stays. Until then the timing may be started any number of times, or never, and in
the latter case there is nothing to show. -/

/-- An operation after the connecting neither returns to it nor touches its stopwatch. -/
theorem connection_apply {m : PhaseMachine} (left : m.phase ≠ .connecting) (op : Operation) :
    (m.apply op).phase ≠ .connecting ∧ (m.apply op).connection = m.connection := by
  cases op with
  | start now => simp [apply, start, left]
  | connect => exact ⟨left, rfl⟩
  | deliver cycle =>
      simp only [apply, recordDelivery]
      split
      · exact ⟨left, rfl⟩
      · exact ⟨left, rfl⟩
  | tick now =>
      show (m.tick now).machine.phase ≠ .connecting ∧ (m.tick now).machine.connection = m.connection
      rcases m.tick_cases now with ⟨-, same, -⟩ | ⟨-, done, -⟩ | ⟨due, -, -⟩
      · rw [same]
        exact ⟨left, rfl⟩
      · rw [done]
        exact ⟨by simp [delivered], rfl⟩
      · rw [(tick_of_isDue due now).1]
        split <;> simp [delivered, published, left]

theorem connection_run {m : PhaseMachine} (left : m.phase ≠ .connecting) (ops : List Operation) :
    (m.run ops).phase ≠ .connecting ∧ (m.run ops).connection = m.connection := by
  induction ops generalizing m with
  | nil => exact ⟨left, rfl⟩
  | cons op ops ih =>
      obtain ⟨stays, same⟩ := connection_apply left op
      obtain ⟨later, last⟩ := ih stays
      exact ⟨later, last.trans same⟩

/-- Some operation of a run has started the timing while members still connected. -/
def Started (m : PhaseMachine) (ops : List Operation) : Prop :=
  ∃ before now after, ops = before ++ .start now :: after ∧ (m.run before).phase = .connecting

theorem started_concat (m : PhaseMachine) (ops : List Operation) (op : Operation) :
    m.Started (ops ++ [op])
      ↔ m.Started ops ∨ ((∃ now, op = .start now) ∧ (m.run ops).phase = .connecting) := by
  constructor
  · rintro ⟨before, now, after, split, connecting⟩
    rcases concat_eq_append_cons.mp split with ⟨same, rfl, rfl⟩ | ⟨front, rfl, rfl⟩
    · exact Or.inr ⟨⟨now, same⟩, connecting⟩
    · exact Or.inl ⟨before, now, front, rfl, connecting⟩
  · rintro (⟨before, now, after, rfl, connecting⟩ | ⟨⟨now, rfl⟩, connecting⟩)
    · exact ⟨before, now, after ++ [op], by simp, connecting⟩
    · exact ⟨ops, now, [], rfl, connecting⟩

/-- How the stopwatch of the connecting stands: it has recorded nothing while members connect, and
once they have connected it has recorded one time if it was started. -/
structure Timed (started : Prop) (m : PhaseMachine) : Prop where
  running_iff : m.phase = .connecting → (m.connection.isRunning = true ↔ started)
  before : m.phase = .connecting → m.connectionRecordings = 0
  recordings_le : m.connectionRecordings ≤ 1
  after : m.phase ≠ .connecting → (m.connectionRecordings = 1 ↔ started)

theorem timed_run (size : Nat) (ops : List Operation) :
    Timed ((fresh size).Started ops) ((fresh size).run ops) := by
  -- From the last operation backwards, as the run before it tells whether the timing was started.
  induction ops using List.reverseRecOn with
  | nil =>
      have never : ¬ (fresh size).Started [] := by
        rintro ⟨before, now, after, split, -⟩
        simp at split
      refine ⟨fun _ => ⟨fun running => ?_, fun started => absurd started never⟩, fun _ => rfl,
        Nat.zero_le _, fun left => absurd rfl left⟩
      cases running
  | append_singleton ops op ih =>
      rw [run_concat, started_concat]
      generalize (fresh size).run ops = m at ih
      by_cases connecting : m.phase = .connecting
      · cases op with
        | start now =>
            have next : m.apply (.start now) = { m with connection := m.connection.start now } := by
              simp [apply, start, connecting]
            rw [next]
            refine ⟨fun _ => ?_, ih.before, ih.recordings_le, fun left => absurd connecting left⟩
            simp [connecting]
        | connect =>
            have next : Timed ((fresh size).Started ops) (m.apply .connect) :=
              ⟨ih.running_iff, ih.before, ih.recordings_le, ih.after⟩
            simpa using next
        | deliver cycle =>
            have next : m.apply (.deliver cycle) = m := by
              simp [apply, recordDelivery, connecting]
            rw [next]
            simpa using ih
        | tick now =>
            rcases m.tick_cases now with ⟨-, same, -⟩ | ⟨⟨waits, -⟩, -, -⟩ | ⟨due, -, -⟩
            · rw [show m.apply (.tick now) = m from same]
              simpa using ih
            · rw [waits] at connecting
              cases connecting
            · have next : (m.apply (.tick now)).phase ≠ .connecting
                  ∧ (m.apply (.tick now)).connection = (m.connection.stop now).1 := by
                show (m.tick now).machine.phase ≠ .connecting
                  ∧ (m.tick now).machine.connection = (m.connection.stop now).1
                rw [(tick_of_isDue due now).1]
                split <;> simp [delivered, published, connecting]
              have none : m.connection.completed = 0 := ih.before connecting
              have running := ih.running_iff connecting
              have recorded : (m.apply (.tick now)).connectionRecordings
                  = if m.connection.isRunning then 1 else 0 := by
                simp [connectionRecordings, next.2, Stopwatch.completed_stop, none]
              refine ⟨fun hp => absurd hp next.1, fun hp => absurd hp next.1, ?_, fun _ => ?_⟩
              · rw [recorded]
                split <;> simp
              · rw [recorded, ← running]
                cases m.connection.isRunning <;> simp
      · obtain ⟨left, same⟩ := connection_apply connecting op
        have recorded : (m.apply op).connectionRecordings = m.connectionRecordings :=
          congrArg Stopwatch.completed same
        refine ⟨fun hp => absurd hp left, fun hp => absurd hp left, ?_, fun _ => ?_⟩
        · rw [recorded]
          exact ih.recordings_le
        · rw [recorded, ih.after connecting]
          simp [connecting]

/-! ## Cycles are published in order, each once

The cycle goes up by one with each publish and in no other way, so the cycles published so far are
the numbers from one to the current cycle. -/

theorem publications_run (size : Nat) (ops : List Operation) :
    (fresh size).publications ops = List.range' 1 ((fresh size).run ops).cycle := by
  induction ops using List.reverseRecOn with
  | nil => rfl
  | append_singleton ops op ih =>
      rw [publications_concat, run_concat, ih]
      rcases cycle_apply ((fresh size).run ops) op with ⟨quiet, same⟩ | ⟨published, next⟩
      · rw [quiet, same]
        simp
      · rw [published, next, List.range'_concat]
        simp [Nat.add_comm]

/-! ## Each cycle is delivered before the next

`Heard` compares the deliveries counted so far, as they are read off the run, with what the machine
has of them, which is a single count for the cycle waited for. The count starts again with each
cycle; what was counted before is known from the cycle being over. -/

/-- How the deliveries counted so far stand to the messages. -/
structure Heard (accepted : List Nat) (m : PhaseMachine) : Prop where
  /-- No delivery is counted of a cycle that is not published yet. -/
  past : ∀ cycle ∈ accepted, cycle ≤ m.cycle
  /-- The messages are the deliveries counted of the cycle waited for. -/
  waiting : m.phase = .waiting → accepted.count m.cycle = m.messages
  /-- A cycle is over only with enough deliveries. -/
  messaging : m.phase = .messaging → m.poolSize ≤ accepted.count m.cycle

namespace Heard

variable {m : PhaseMachine} {accepted : List Nat}

theorem count_next (h : Heard accepted m) : accepted.count (m.cycle + 1) = 0 :=
  List.count_eq_zero.mpr fun early => absurd (h.past _ early) (by omega)

theorem tick (h : Heard accepted m) (consistent : m.Consistent) (now : Nat) :
    Heard accepted (m.tick now).machine := by
  rcases m.tick_cases now with ⟨-, same, -⟩ | ⟨⟨waits, all⟩, done, -⟩ | ⟨due, -, -⟩
  · rw [same]
    exact h
  · rw [done]
    refine ⟨h.past, fun hp => (by cases hp), fun _ => ?_⟩
    show m.poolSize ≤ accepted.count m.cycle
    rw [h.waiting waits]
    exact all
  · -- Nothing has been delivered of the new cycle, and the messages of the last are gone.
    have messages := consistent.messages_eq_zero due.ne_waiting
    have past : ∀ cycle ∈ accepted, cycle ≤ m.cycle + 1 := fun cycle early =>
      Nat.le_succ_of_le (h.past cycle early)
    rw [(tick_of_isDue due now).1]
    split
    · rename_i empty
      refine ⟨past, fun hp => (by cases hp), fun _ => ?_⟩
      show m.poolSize ≤ accepted.count (m.cycle + 1)
      omega
    · refine ⟨past, fun _ => ?_, fun hp => by cases hp⟩
      show accepted.count (m.cycle + 1) = m.messages
      rw [h.count_next, messages]

theorem apply (h : Heard accepted m) (consistent : m.Consistent) (op : Operation) :
    Heard (accepted ++ (m.acceptance? op).toList) (m.apply op) := by
  cases op with
  | start now =>
      simp only [acceptance?, Option.toList_none, List.append_nil, PhaseMachine.apply,
        PhaseMachine.start]
      split
      · exact ⟨h.past, h.waiting, h.messaging⟩
      · exact h
  | connect =>
      simp only [acceptance?, Option.toList_none, List.append_nil, PhaseMachine.apply]
      exact ⟨h.past, h.waiting, h.messaging⟩
  | deliver cycle =>
      rw [acceptance?_deliver]
      simp only [PhaseMachine.apply, recordDelivery]
      split
      · rename_i counts
        obtain ⟨waits, rfl⟩ := counts
        refine ⟨fun cycle hc => ?_, fun _ => ?_, fun hp => ?_⟩
        · rcases List.mem_append.mp hc with old | new
          · exact h.past cycle old
          · exact Nat.le_of_eq (by simpa using new)
        · simp [h.waiting waits]
        · rw [waits] at hp
          cases hp
      · simpa using h
  | tick now =>
      simp only [acceptance?, Option.toList_none, List.append_nil, PhaseMachine.apply]
      exact h.tick consistent now

end Heard

theorem heard_run (size : Nat) (ops : List Operation) :
    Heard ((fresh size).acceptances ops) ((fresh size).run ops) := by
  induction ops using List.reverseRecOn with
  | nil =>
      refine ⟨fun cycle early => ?_, fun hp => (by cases hp), fun hp => by cases hp⟩
      cases early
  | append_singleton ops op ih =>
      rw [acceptances_concat, run_concat]
      exact ih.apply ((consistent_fresh size).run ops) op

/-! ## Ticks that publish are apart -/

/-- What is left as it is by all operations but ticks. -/
theorem apply_of_not_tick (m : PhaseMachine) {op : Operation} (still : op.isTick = false) :
    (m.apply op).phase = m.phase ∧ (m.apply op).cycle = m.cycle
      ∧ (m.apply op).broadcast = m.broadcast ∧ (m.apply op).connectionTime = m.connectionTime := by
  cases op with
  | start now =>
      simp only [apply, start]
      split <;> exact ⟨rfl, rfl, rfl, rfl⟩
  | connect => exact ⟨rfl, rfl, rfl, rfl⟩
  | deliver cycle =>
      simp only [apply, recordDelivery]
      split <;> exact ⟨rfl, rfl, rfl, rfl⟩
  | tick now => cases still

/-- A machine that waits goes on to wait until the next tick. -/
theorem waiting_run {m : PhaseMachine} (waits : m.phase = .waiting) {ops : List Operation}
    (still : ∀ op ∈ ops, op.isTick = false) : (m.run ops).phase = .waiting := by
  induction ops generalizing m with
  | nil => exact waits
  | cons op ops ih =>
      refine ih ?_ fun op' hop' => still op' (by simp [hop'])
      exact (m.apply_of_not_tick (still op (by simp))).1.trans waits

/-- In a pool with members, the tick after one that publishes does not publish. -/
theorem publish_apart {m : PhaseMachine} (consistent : m.Consistent) (members : 1 ≤ m.poolSize)
    {now : Nat} (published : (m.tick now).publish ≠ none) {between : List Operation}
    (still : ∀ op ∈ between, op.isTick = false) (later : Nat) :
    (((m.tick now).machine.run between).tick later).publish = none := by
  have due := (m.publish_tick_iff now).mp published
  have messages := consistent.messages_eq_zero due.ne_waiting
  have few : ¬ m.poolSize ≤ m.messages := by omega
  have waits : (m.tick now).machine.phase = .waiting := by
    rw [(tick_of_isDue due now).1, if_neg few]
    rfl
  by_contra again
  exact absurd (waiting_run waits still) ((publish_tick_iff _ later).mp again).ne_waiting

/-! ## Counts are bounded by the run -/

/-- No count of the machine exceeds a number. -/
structure CountsLe (n : Nat) (m : PhaseMachine) : Prop where
  connected : m.connected ≤ n
  messages : m.messages ≤ n
  cycle : m.cycle ≤ n

theorem CountsLe.succ {n : Nat} {m : PhaseMachine} (h : CountsLe n m) : CountsLe (n + 1) m :=
  ⟨Nat.le_succ_of_le h.connected, Nat.le_succ_of_le h.messages, Nat.le_succ_of_le h.cycle⟩

/-- An operation adds one to a count at most. -/
theorem CountsLe.apply {n : Nat} {m : PhaseMachine} (h : CountsLe n m) (op : Operation) :
    CountsLe (n + 1) (m.apply op) := by
  have next := h.succ
  cases op with
  | start now =>
      simp only [PhaseMachine.apply, start]
      split
      · exact ⟨next.connected, next.messages, next.cycle⟩
      · exact next
  | connect => exact ⟨Nat.succ_le_succ h.connected, next.messages, next.cycle⟩
  | deliver cycle =>
      simp only [PhaseMachine.apply, recordDelivery]
      split
      · exact ⟨next.connected, Nat.succ_le_succ h.messages, next.cycle⟩
      · exact next
  | tick now =>
      show CountsLe (n + 1) (m.tick now).machine
      rcases m.tick_cases now with ⟨-, same, -⟩ | ⟨-, done, -⟩ | ⟨due, -, -⟩
      · rw [same]
        exact next
      · rw [done]
        exact ⟨next.connected, Nat.zero_le _, next.cycle⟩
      · rw [(tick_of_isDue due now).1]
        split
        · exact ⟨next.connected, Nat.zero_le _, Nat.succ_le_succ h.cycle⟩
        · exact ⟨next.connected, next.messages, Nat.succ_le_succ h.cycle⟩

theorem countsLe_run (size : Nat) (ops : List Operation) :
    CountsLe ops.length ((fresh size).run ops) := by
  induction ops using List.reverseRecOn with
  | nil => exact ⟨Nat.le_refl _, Nat.le_refl _, Nat.le_refl _⟩
  | append_singleton ops op ih =>
      rw [run_concat, List.length_append]
      exact ih.apply op

/-! ## The whole run -/

/-- What holds of a machine after the operations of a run. -/
structure InOrder (size : Nat) (ops : List Operation) (m : PhaseMachine) : Prop where
  /-- Phase, counts and stopwatches agree. -/
  consistent : m.Consistent
  /-- The connecting is left once, and its time stays as it is. -/
  left : m.phase ≠ .connecting → ∀ later,
    (m.run later).phase ≠ .connecting ∧ (m.run later).connectionTime = m.connectionTime
  /-- The time of the connecting is recorded once at most. -/
  recordings_le : m.connectionRecordings ≤ 1
  /-- It is recorded exactly if the timing was started before the connecting was left. -/
  recorded_iff : m.phase ≠ .connecting →
    (m.connectionRecordings = 1 ↔ (fresh size).Started ops)
  /-- The cycles published are the first, the second and so on, up to the current one. -/
  publications_eq : (fresh size).publications ops = List.range' 1 m.cycle
  /-- No two ticks that follow each other both publish. -/
  apart : 1 ≤ size → ∀ now later between, (∀ op ∈ between, op.isTick = false) →
    (m.tick now).publish ≠ none → (((m.tick now).machine.run between).tick later).publish = none
  /-- A cycle is published only after as many deliveries of the last one as there are members. -/
  earned : ∀ now cycle, 1 ≤ cycle → (m.tick now).publish = some (cycle + 1) →
    size ≤ ((fresh size).acceptances ops).count cycle
  /-- No count exceeds the number of operations, so that sixty-four bits hold them all in a run of
  fewer operations than that. -/
  counts_le : CountsLe ops.length m

/-- **Phases are kept in order.** Whatever is done to the machine of a pool, in any order and at
any instants: its phase, counts and stopwatches agree, the connecting is left once and timed once
at most, the cycles are published one after another, and each of them only once the one before it
was delivered to as many members as the pool has. -/
theorem phases_in_order (size : Nat) (ops : List Operation) :
    InOrder size ops ((fresh size).run ops) := by
  have consistent := (consistent_fresh size).run ops
  have timed := timed_run size ops
  have pool : ((fresh size).run ops).poolSize = size := poolSize_run (fresh size) ops
  refine ⟨consistent, fun left later => ?_, timed.recordings_le, timed.after,
    publications_run size ops, fun members now later between still published => ?_, ?_,
    countsLe_run size ops⟩
  · obtain ⟨stays, same⟩ := connection_run left later
    exact ⟨stays, congrArg Stopwatch.last same⟩
  · exact publish_apart consistent (by omega) published still later
  · intro now cycle first published
    have due := (publish_tick_iff _ now).mp (by rw [published]; exact Option.some_ne_none _)
    have current : ((fresh size).run ops).cycle = cycle := by
      have next := (tick_of_isDue due now).2.symm.trans published
      simpa using next
    -- The first cycle is the only one that is due while members connect.
    rcases due with ⟨hp, -⟩ | hp
    · have zero := (consistent.connecting hp).1
      omega
    · calc size = ((fresh size).run ops).poolSize := pool.symm
        _ ≤ ((fresh size).acceptances ops).count ((fresh size).run ops).cycle :=
          (heard_run size ops).messaging hp
        _ = ((fresh size).acceptances ops).count cycle := by rw [current]

end StreamLoad.PhaseMachine
