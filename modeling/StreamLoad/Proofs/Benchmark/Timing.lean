import StreamLoad.Proofs.Benchmark.Phases

/-! # Times of the phases

What the two stopwatches of a phase machine show, in terms of the run alone: at which of its ticks
the connecting is left, a cycle is published and a cycle is completed, and when the timing of the
connecting was started last. `firstTick?` finds the first tick of a run with a property of what came
before it. The instants are arbitrary and may go back, so that a time is a difference that is zero
at least. `phases_in_time` puts the two together.
-/

set_option autoImplicit false

namespace StreamLoad.PhaseMachine

/-! ## The ticks of a run

A tick is remembered with all that was done before it, so that whether something holds of it can be
asked of the run and not of the machine. The first tick of a kind is stable when the run goes on
(`firstTick?_of_some`), which makes it a point in time to measure from. -/

/-- A tick of a run. -/
structure PastTick where
  /-- What was done before it. -/
  before : List Operation
  now : Nat
deriving DecidableEq, Repr

/-- The tick that an operation is, after others. -/
def tickAt? (before : List Operation) : Operation → Option PastTick
  | .tick now => some { before := before, now := now }
  | _ => none

/-- The ticks of some operations, which come after others. -/
def ticksAfter (before : List Operation) : List Operation → List PastTick
  | [] => []
  | op :: ops => (tickAt? before op).toList ++ ticksAfter (before ++ [op]) ops

/-- The first tick of a run for which something holds. -/
def firstTick? (holds : PastTick → Bool) (ops : List Operation) : Option PastTick :=
  (ticksAfter [] ops).find? holds

theorem ticksAfter_concat (before ops : List Operation) (op : Operation) :
    ticksAfter before (ops ++ [op])
      = ticksAfter before ops ++ (tickAt? (before ++ ops) op).toList := by
  induction ops generalizing before with
  | nil => simp [ticksAfter]
  | cons first ops ih => simp [ticksAfter, ih]

/-- The last operation is the first such tick only if there was none before. -/
theorem firstTick?_concat (holds : PastTick → Bool) (ops : List Operation) (op : Operation) :
    firstTick? holds (ops ++ [op])
      = (firstTick? holds ops).or ((tickAt? ops op).filter holds) := by
  have last : ((tickAt? ops op).toList).find? holds = (tickAt? ops op).filter holds := by
    cases tickAt? ops op with
    | none => rfl
    | some tick =>
        rw [Option.filter_some]
        by_cases h : holds tick = true <;> simp [h]
  rw [firstTick?, ticksAfter_concat, List.nil_append, List.find?_append, last]
  rfl

/-- The first tick stays the first. -/
theorem firstTick?_of_some {holds : PastTick → Bool} {ops : List Operation} {tick : PastTick}
    (found : firstTick? holds ops = some tick) (op : Operation) :
    firstTick? holds (ops ++ [op]) = some tick := by
  rw [firstTick?_concat, found, Option.some_or]

/-- Only a tick makes a difference. -/
theorem firstTick?_of_not_tick (holds : PastTick → Bool) (ops : List Operation) {op : Operation}
    (still : op.isTick = false) : firstTick? holds (ops ++ [op]) = firstTick? holds ops := by
  have none : tickAt? ops op = none := by
    cases op with
    | tick now => cases still
    | _ => rfl
  rw [firstTick?_concat, none, Option.filter_none, Option.or_none]

theorem firstTick?_tick (holds : PastTick → Bool) (ops : List Operation) (now : Nat) :
    firstTick? holds (ops ++ [.tick now])
      = (firstTick? holds ops).or
          (if holds { before := ops, now := now } then some { before := ops, now := now }
            else none) := by
  rw [firstTick?_concat, tickAt?, Option.filter_some]

/-! ## The ticks that end something -/

/-- The tick that leaves the connecting: the first that comes when as many members have connected as
the pool has. -/
def leaving? (size : Nat) (ops : List Operation) : Option PastTick :=
  firstTick? (fun tick => size ≤ tick.before.count .connect) ops

/-- The tick that publishes a cycle. -/
def publishing? (size cycle : Nat) (ops : List Operation) : Option PastTick :=
  firstTick? (fun tick => (((fresh size).run tick.before).tick tick.now).publish = some cycle) ops

/-- The tick that completes a cycle: the first that comes when as many deliveries of it have been
counted as the pool has members. -/
def completing? (size cycle : Nat) (ops : List Operation) : Option PastTick :=
  firstTick? (fun tick => size ≤ ((fresh size).acceptances tick.before).count cycle) ops

/-- The instant of an operation that starts the timing of the connecting. -/
def Operation.startedAt? : Operation → Option Nat
  | .start now => some now
  | _ => none

/-- The instant at which the timing of the connecting was started last. -/
def lastStart? (ops : List Operation) : Option Nat :=
  (ops.filterMap Operation.startedAt?).getLast?

theorem lastStart?_concat (ops : List Operation) (op : Operation) :
    lastStart? (ops ++ [op]) = op.startedAt?.or (lastStart? ops) := by
  cases op <;> simp [lastStart?, Operation.startedAt?]

/-! ## What the other operations do -/

theorem connected_apply (m : PhaseMachine) (op : Operation) :
    (m.apply op).connected = m.connected + if op = .connect then 1 else 0 := by
  cases op with
  | start now =>
      simp only [apply, start]
      split <;> rfl
  | connect => rfl
  | deliver cycle =>
      simp only [apply, recordDelivery]
      split <;> rfl
  | tick now => exact m.connected_tick now

/-- While members connect, starting the timing moves its start. -/
theorem startedAt_apply {m : PhaseMachine} (connecting : m.phase = .connecting) {op : Operation}
    (still : op.isTick = false) :
    (m.apply op).connection.startedAt = op.startedAt?.or m.connection.startedAt := by
  cases op with
  | start now => simp [apply, start, connecting, Stopwatch.start, Operation.startedAt?]
  | connect => rfl
  | deliver cycle => simp [apply, recordDelivery, connecting, Operation.startedAt?]
  | tick now => cases still

/-! ## The machine of a run

Whether a tick ends something depends on counts, and the counts of the machine are those of the run:
members connected, cycles published, deliveries of the cycle waited for (`Follows`). Without members
a tick would publish a cycle and complete it at once, so the pool has one at least from here on. -/

/-- The members connected are counted one by one. -/
theorem connected_run (size : Nat) (ops : List Operation) :
    ((fresh size).run ops).connected = ops.count .connect := by
  induction ops using List.reverseRecOn with
  | nil => rfl
  | append_singleton ops op ih =>
      rw [run_concat, connected_apply, ih, List.count_append, List.count_singleton]
      congr 1
      by_cases h : op = .connect <;> simp [h]

/-- What the counts of a machine say of its run, in a pool with members. -/
structure Follows (size : Nat) (ops : List Operation) (m : PhaseMachine) : Prop where
  members : 1 ≤ m.poolSize
  pool : m.poolSize = size
  consistent : m.Consistent
  connected : m.connected = ops.count .connect
  heard : Heard ((fresh size).acceptances ops) m

theorem follows_run {size : Nat} (members : 1 ≤ size) (ops : List Operation) :
    Follows size ops ((fresh size).run ops) where
  members := by
    rw [poolSize_run]
    exact members
  pool := poolSize_run (fresh size) ops
  consistent := (consistent_fresh size).run ops
  connected := connected_run size ops
  heard := heard_run size ops

namespace Follows

variable {size : Nat} {ops : List Operation} {m : PhaseMachine}

/-- In a pool with members, a tick that publishes a cycle does not complete it. -/
theorem tick_cases (h : Follows size ops m) (now : Nat) :
    (m.IsStill ∧ (m.tick now).machine = m ∧ (m.tick now).publish = none)
    ∨ ((m.phase = .waiting ∧ m.poolSize ≤ m.messages)
        ∧ (m.tick now).machine = m.delivered now ∧ (m.tick now).publish = none)
    ∨ (m.IsDue ∧ (m.tick now).machine = m.published now
        ∧ (m.tick now).publish = some (m.cycle + 1)) := by
  rcases m.tick_cases now with still | done | ⟨due, -, some⟩
  · exact Or.inl still
  · exact Or.inr (Or.inl done)
  · have messages := h.consistent.messages_eq_zero due.ne_waiting
    have members := h.members
    have few : ¬ m.poolSize ≤ m.messages := by omega
    refine Or.inr (Or.inr ⟨due, ?_, some⟩)
    rw [(tick_of_isDue due now).1, if_neg few]

/-- The deliveries counted are enough for one more cycle just if it is waited for and its messages
are. -/
theorem enough_iff (h : Follows size ops m) {cycle : Nat} (later : m.cyclesCompleted < cycle) :
    size ≤ ((fresh size).acceptances ops).count cycle
      ↔ (m.phase = .waiting ∧ m.poolSize ≤ m.messages) ∧ cycle = m.cycle := by
  have members := h.members
  have pool := h.pool
  constructor
  · intro enough
    have past : cycle ≤ m.cycle := h.heard.past cycle (List.count_pos_iff.mp (by omega))
    cases hp : m.phase with
    | connecting =>
        obtain ⟨zero, -⟩ := h.consistent.connecting hp
        omega
    | messaging =>
        obtain ⟨all, -⟩ := h.consistent.messaging hp
        omega
    | waiting =>
        obtain ⟨next, -⟩ := h.consistent.waiting hp
        obtain rfl : cycle = m.cycle := by omega
        rw [h.heard.waiting hp, ← pool] at enough
        exact ⟨⟨rfl, enough⟩, rfl⟩
  · rintro ⟨⟨waits, all⟩, rfl⟩
    rw [h.heard.waiting waits, ← pool]
    exact all

end Follows

/-! ## The time of the connecting -/

/-- How the connecting and its stopwatch stand to the run. -/
structure Joins (size : Nat) (ops : List Operation) (m : PhaseMachine) : Prop where
  /-- While members connect, the stopwatch runs from the last start. -/
  connecting : m.phase = .connecting →
    leaving? size ops = none ∧ m.connection.startedAt = lastStart? ops ∧ m.connectionTime = none
  /-- Once they have connected, it shows the time from the last start to the tick that found them
  so, if there was a start. -/
  left : m.phase ≠ .connecting → ∃ tick, leaving? size ops = some tick
    ∧ m.connectionTime = (lastStart? tick.before).map fun start => tick.now - start

namespace Joins

variable {size : Nat} {ops : List Operation} {m : PhaseMachine}

/-- The tick that left the connecting stays the first of its kind. -/
theorem apply_of_left (h : Joins size ops m) (left : m.phase ≠ .connecting) (op : Operation) :
    Joins size (ops ++ [op]) (m.apply op) := by
  obtain ⟨stays, same⟩ := connection_apply left op
  obtain ⟨tick, found, time⟩ := h.left left
  refine ⟨fun hp => absurd hp stays, fun _ => ⟨tick, firstTick?_of_some found op, ?_⟩⟩
  exact (congrArg Stopwatch.last same).trans time

theorem apply_of_not_tick (h : Joins size ops m) (connecting : m.phase = .connecting)
    {op : Operation} (still : op.isTick = false) : Joins size (ops ++ [op]) (m.apply op) := by
  obtain ⟨none, started, untimed⟩ := h.connecting connecting
  obtain ⟨phase, -, -, time⟩ := m.apply_of_not_tick still
  refine ⟨fun _ => ⟨?_, ?_, ?_⟩, fun left => absurd (phase.trans connecting) left⟩
  · exact (firstTick?_of_not_tick _ ops still).trans none
  · rw [startedAt_apply connecting still, started, lastStart?_concat]
  · exact time.trans untimed

theorem tick (h : Joins size ops m) (follows : Follows size ops m)
    (connecting : m.phase = .connecting) (now : Nat) :
    Joins size (ops ++ [.tick now]) (m.tick now).machine := by
  obtain ⟨none, started, untimed⟩ := h.connecting connecting
  have first : leaving? size (ops ++ [.tick now])
      = if size ≤ ops.count .connect then some { before := ops, now := now } else Option.none := by
    rw [leaving?, firstTick?_tick, show firstTick? _ ops = Option.none from none, Option.none_or]
    simp
  have pool := follows.pool
  have connected := follows.connected
  rcases follows.tick_cases now with ⟨still, same, -⟩ | ⟨⟨waits, -⟩, -, -⟩ | ⟨due, next, -⟩
  · -- Nothing happens, so members are missing.
    have few : ¬ size ≤ ops.count .connect := by
      rcases still with ⟨-, few⟩ | ⟨waits, -⟩
      · omega
      · rw [waits] at connecting
        cases connecting
    rw [same]
    refine ⟨fun _ => ⟨?_, ?_, untimed⟩, fun left => absurd connecting left⟩
    · rw [first, if_neg few]
    · rw [lastStart?_concat]
      exact started
  · rw [waits] at connecting
    cases connecting
  · -- The pool is complete: this is the tick that leaves the joining phase.
    have all : size ≤ ops.count .connect := by
      rcases due with ⟨-, all⟩ | idle
      · omega
      · rw [idle] at connecting
        cases connecting
    rw [next]
    refine ⟨fun hp => (by cases hp), fun _ => ⟨{ before := ops, now := now }, ?_, ?_⟩⟩
    · rw [first, if_pos all]
    · show (m.published now).connection.last = _
      rw [published, if_pos connecting, Stopwatch.last_stop_eq, started,
        show m.connection.last = Option.none from untimed, Option.or_none]

end Joins

theorem joins_run {size : Nat} (members : 1 ≤ size) (ops : List Operation) :
    Joins size ops ((fresh size).run ops) := by
  induction ops using List.reverseRecOn with
  | nil => exact ⟨fun _ => ⟨rfl, rfl, rfl⟩, fun left => absurd rfl left⟩
  | append_singleton ops op ih =>
      rw [run_concat]
      by_cases connecting : ((fresh size).run ops).phase = .connecting
      · cases op with
        | tick now => exact ih.tick (follows_run members ops) connecting now
        | _ => exact ih.apply_of_not_tick connecting rfl
      · exact ih.apply_of_left connecting op

/-! ## The times of the cycles

A stopwatch runs from the tick that publishes a cycle to the one that completes it. The three lemmas
on a tick follow what it can do: nothing, complete the cycle waited for, or publish the next. In a
pool with members it never does both of the latter. -/

/-- No tick has published a cycle that is still to come. -/
theorem publishing?_eq_none {size cycle : Nat} {ops : List Operation}
    (later : ((fresh size).run ops).cycle < cycle) : publishing? size cycle ops = none := by
  induction ops using List.reverseRecOn with
  | nil => rfl
  | append_singleton ops op ih =>
      rw [run_concat] at later
      -- The operation publishes the cycle that the machine is at from then on, or none.
      have other : ((fresh size).run ops).cycle < cycle
          ∧ ((fresh size).run ops).publication? op ≠ some cycle := by
        rcases cycle_apply ((fresh size).run ops) op with ⟨quiet, same⟩ | ⟨published, next⟩
        · exact ⟨by omega, by simp [quiet]⟩
        · exact ⟨by omega, by simp [published]; omega⟩
      rw [publishing?, firstTick?_concat,
        show firstTick? _ ops = Option.none from ih other.1, Option.none_or]
      cases op with
      | tick now => exact Option.filter_some_neg (by simpa [publication?] using other.2)
      | _ => rfl

theorem completing?_tick (size cycle : Nat) (ops : List Operation) (now : Nat) :
    completing? size cycle (ops ++ [.tick now])
      = (completing? size cycle ops).or
          (if size ≤ ((fresh size).acceptances ops).count cycle then
            some { before := ops, now := now }
          else none) := by
  rw [completing?, completing?, firstTick?_tick]
  simp only [decide_eq_true_eq]

/-- How the cycles and their stopwatch stand to the run. -/
structure Cycles (size : Nat) (ops : List Operation) (m : PhaseMachine) : Prop where
  /-- A cycle is completed once there is the tick that completes it. -/
  completed_iff : ∀ cycle, 1 ≤ cycle →
    (cycle ≤ m.cyclesCompleted ↔ (completing? size cycle ops).isSome)
  /-- Before the first is completed, the stopwatch shows nothing. -/
  untimed : m.cyclesCompleted = 0 → m.broadcastTime = none
  /-- From then on it shows the time of the cycle completed last, from the tick that published it to
  the tick that completed it. -/
  timed : 1 ≤ m.cyclesCompleted → ∃ published completed,
    publishing? size m.cyclesCompleted ops = some published
    ∧ completing? size m.cyclesCompleted ops = some completed
    ∧ m.broadcastTime = some (completed.now - published.now)
  /-- While a cycle is waited for, the stopwatch runs from the tick that published it. -/
  waiting : m.phase = .waiting → ∃ published,
    publishing? size m.cycle ops = some published
    ∧ m.broadcast.startedAt = some published.now

namespace Cycles

variable {size : Nat} {ops : List Operation} {m : PhaseMachine}

theorem apply_of_not_tick (h : Cycles size ops m) {op : Operation} (still : op.isTick = false) :
    Cycles size (ops ++ [op]) (m.apply op) := by
  obtain ⟨phase, cycle, broadcast, -⟩ := m.apply_of_not_tick still
  have same (holds : PastTick → Bool) := firstTick?_of_not_tick holds ops still
  have completed : (m.apply op).cyclesCompleted = m.cyclesCompleted :=
    congrArg Stopwatch.completed broadcast
  have time : (m.apply op).broadcastTime = m.broadcastTime := congrArg Stopwatch.last broadcast
  refine ⟨fun k first => ?_, fun none => ?_, fun some => ?_, fun waits => ?_⟩
  · rw [completed, completing?, same]
    exact h.completed_iff k first
  · rw [time]
    exact h.untimed (completed ▸ none)
  · rw [completed, completing?, publishing?, same, same, time]
    exact h.timed (completed ▸ some)
  · rw [cycle, broadcast, publishing?, same]
    exact h.waiting (phase ▸ waits)

/-- The time shown stays as it is unless a cycle is completed. -/
theorem timed_tick (h : Cycles size ops m) (now : Nat) (given : 1 ≤ m.cyclesCompleted) :
    ∃ published completed,
      publishing? size m.cyclesCompleted (ops ++ [.tick now]) = some published
      ∧ completing? size m.cyclesCompleted (ops ++ [.tick now]) = some completed
      ∧ m.broadcastTime = some (completed.now - published.now) := by
  obtain ⟨published, completed, start, finish, time⟩ := h.timed given
  exact ⟨published, completed, firstTick?_of_some start _, firstTick?_of_some finish _, time⟩

/-- What is completed after a tick. -/
theorem completing?_tick_iff (h : Cycles size ops m) (follows : Follows size ops m) (now : Nat)
    {cycle : Nat} (first : 1 ≤ cycle) :
    (completing? size cycle (ops ++ [.tick now])).isSome
      ↔ cycle ≤ m.cyclesCompleted
        ∨ (m.phase = .waiting ∧ m.poolSize ≤ m.messages) ∧ cycle = m.cycle := by
  have before := h.completed_iff cycle first
  rw [completing?_tick, Option.isSome_or, Bool.or_eq_true, ← before]
  by_cases early : cycle ≤ m.cyclesCompleted
  · simp [early]
  · rw [← follows.enough_iff (Nat.lt_of_not_le early)]
    by_cases all : size ≤ ((fresh size).acceptances ops).count cycle <;> simp [all]

/-- A tick that finds nothing to do. -/
theorem still (h : Cycles size ops m) (follows : Follows size ops m) (idle : m.IsStill)
    (now : Nat) : Cycles size (ops ++ [.tick now]) m := by
  refine ⟨fun cycle first => ?_, h.untimed, h.timed_tick now, fun waits => ?_⟩
  · have nothing : ¬ ((m.phase = .waiting ∧ m.poolSize ≤ m.messages) ∧ cycle = m.cycle) := by
      rintro ⟨⟨waits, all⟩, -⟩
      rcases idle with ⟨connecting, -⟩ | ⟨-, few⟩
      · rw [waits] at connecting
        cases connecting
      · omega
    rw [h.completing?_tick_iff follows now first, or_iff_left nothing]
  · obtain ⟨published, start, running⟩ := h.waiting waits
    exact ⟨published, firstTick?_of_some start _, running⟩

/-- A tick that completes the cycle waited for. -/
theorem deliver (h : Cycles size ops m) (follows : Follows size ops m)
    (waits : m.phase = .waiting) (all : m.poolSize ≤ m.messages) (now : Nat) :
    Cycles size (ops ++ [.tick now]) (m.delivered now) := by
  obtain ⟨published, start, running⟩ := h.waiting waits
  obtain ⟨current, timing⟩ := follows.consistent.waiting waits
  have completed : (m.delivered now).cyclesCompleted = m.cycle := by
    show (m.broadcast.stop now).1.completed = m.cycle
    rw [Stopwatch.completed_stop, timing, current]
    rfl
  -- No earlier tick completed this cycle, so the first one to do so is this.
  have finish : completing? size m.cycle (ops ++ [.tick now])
      = some { before := ops, now := now } := by
    have before : completing? size m.cycle ops = none := by
      rw [← Option.not_isSome_iff_eq_none, ← h.completed_iff m.cycle (by omega)]
      omega
    have enough : size ≤ ((fresh size).acceptances ops).count m.cycle :=
      (follows.enough_iff (by omega)).mpr ⟨⟨waits, all⟩, rfl⟩
    rw [completing?_tick, before, Option.none_or, if_pos enough]
  refine ⟨fun cycle first => ?_, fun none => by omega, fun _ => ?_, fun hp => by cases hp⟩
  · rw [h.completing?_tick_iff follows now first, completed]
    constructor
    · intro reached
      by_cases last : cycle = m.cycle
      · exact Or.inr ⟨⟨waits, all⟩, last⟩
      · exact Or.inl (by omega)
    · rintro (early | ⟨-, rfl⟩)
      · omega
      · exact Nat.le_refl _
  · rw [completed]
    refine ⟨published, _, firstTick?_of_some start _, finish, ?_⟩
    show (m.broadcast.stop now).1.last = _
    rw [Stopwatch.last_stop_eq, running, Option.map_some, Option.some_or]

/-- A tick that publishes the next cycle. -/
theorem publish (h : Cycles size ops m) (follows : Follows size ops m) (due : m.IsDue) {now : Nat}
    (publishes : publishing? size (m.cycle + 1) (ops ++ [.tick now])
      = some { before := ops, now := now }) :
    Cycles size (ops ++ [.tick now]) (m.published now) := by
  refine ⟨fun cycle first => ?_, h.untimed, h.timed_tick now, fun _ => ⟨_, publishes, rfl⟩⟩
  have nothing : ¬ ((m.phase = .waiting ∧ m.poolSize ≤ m.messages) ∧ cycle = m.cycle) :=
    fun reached => due.ne_waiting reached.1.1
  rw [h.completing?_tick_iff follows now first, or_iff_left nothing]
  rfl

end Cycles

theorem cycles_run {size : Nat} (members : 1 ≤ size) (ops : List Operation) :
    Cycles size ops ((fresh size).run ops) := by
  induction ops using List.reverseRecOn with
  | nil =>
      refine ⟨fun cycle first => ?_, fun _ => rfl, fun some => ?_, fun hp => by cases hp⟩
      · exact iff_of_false (Nat.not_le_of_lt first) (by simp [completing?, firstTick?, ticksAfter])
      · cases some
  | append_singleton ops op ih =>
      have follows := follows_run members ops
      rw [run_concat]
      cases op with
      | tick now =>
          rcases follows.tick_cases now with
            ⟨idle, same, -⟩ | ⟨⟨waits, all⟩, done, -⟩ | ⟨due, next, publishes⟩
          · rw [apply, same]
            exact ih.still follows idle now
          · rw [apply, done]
            exact ih.deliver follows waits all now
          · -- The tick that publishes the next cycle is the first to do so.
            rw [apply, next]
            refine ih.publish follows due ?_
            have none := publishing?_eq_none (Nat.lt_succ_self ((fresh size).run ops).cycle)
            rw [publishing?, firstTick?_tick, show firstTick? _ ops = Option.none from none,
              Option.none_or, if_pos (by simpa using publishes)]
      | _ => exact ih.apply_of_not_tick rfl

/-! ## The whole run -/

/-- What the stopwatches show after the operations of a run. -/
structure InTime (size : Nat) (ops : List Operation) (m : PhaseMachine) : Prop where
  /-- The connecting is left by the first tick that finds the pool connected. -/
  connecting_iff : m.phase = .connecting ↔ leaving? size ops = none
  /-- Until then, no time of the connecting is shown. -/
  connecting : leaving? size ops = none → m.connectionTime = none
  /-- From then on, it is the time from the last start before that tick, if there is one. -/
  left : ∀ tick, leaving? size ops = some tick →
    m.connectionTime = (lastStart? tick.before).map fun start => tick.now - start
  /-- The cycles, and the time of the one completed last. -/
  cycles : Cycles size ops m
  /-- While a cycle is waited for, the one completed last is the one before it. -/
  waiting : m.phase = .waiting → m.cycle = m.cyclesCompleted + 1

/-- **Phases are timed.** Whatever is done to the machine of a pool with members, in any order and
at any instants: the connecting is left by the first tick with the pool connected, and its time is
that from the last start before this tick, if there is one. A cycle is completed by the first tick
after as many deliveries of it were counted as there are members, and from then on until the next is
completed the time of the broadcast is that from the tick that published it to the tick that
completed it. -/
theorem phases_in_time {size : Nat} (members : 1 ≤ size) (ops : List Operation) :
    InTime size ops ((fresh size).run ops) := by
  have joins := joins_run members ops
  have consistent := (consistent_fresh size).run ops
  have connecting_iff : ((fresh size).run ops).phase = .connecting ↔ leaving? size ops = none := by
    constructor
    · intro connecting
      exact (joins.connecting connecting).1
    · intro none
      by_contra left
      obtain ⟨tick, found, -⟩ := joins.left left
      rw [none] at found
      cases found
  refine ⟨connecting_iff, fun none => ?_, fun tick found => ?_, cycles_run members ops,
    fun waits => (consistent.waiting waits).1⟩
  · exact (joins.connecting (connecting_iff.mpr none)).2.2
  · have left : ((fresh size).run ops).phase ≠ .connecting := by
      rw [ne_eq, connecting_iff, found]
      exact Option.some_ne_none tick
    obtain ⟨again, same, time⟩ := joins.left left
    obtain rfl : tick = again := Option.some_inj.mp (found.symm.trans same)
    exact time

/-- A run in a pool of one, in which the timing is started twice and the clock is set back before
the first cycle is completed. -/
def restarted : List Operation :=
  [.start 5, .start 7, .connect, .tick 10, .deliver 1, .tick 8, .tick 20, .deliver 1, .deliver 2,
    .tick 33]

/-- The connecting took from the second start to the first tick, and the second cycle from the third
tick to the last. -/
theorem phases_in_time_restarted :
    InTime 1 restarted ((fresh 1).run restarted)
    ∧ ((fresh 1).run restarted).connectionTime = some (10 - 7)
    ∧ ((fresh 1).run restarted).broadcastTime = some (33 - 20) := by
  have timed := phases_in_time (Nat.le_refl 1) restarted
  have left : leaving? 1 restarted
      = some { before := [.start 5, .start 7, .connect], now := 10 } := by decide
  have second : ((fresh 1).run restarted).cyclesCompleted = 2 := by decide
  refine ⟨timed, timed.left _ left, ?_⟩
  obtain ⟨published, completed, start, finish, time⟩ := timed.cycles.timed (by omega)
  rw [second] at start finish
  have starts : (publishing? 1 2 restarted).map PastTick.now = some 20 := by decide
  have finishes : (completing? 1 2 restarted).map PastTick.now = some 33 := by decide
  rw [start, Option.map_some, Option.some_inj] at starts
  rw [finish, Option.map_some, Option.some_inj] at finishes
  rw [time, starts, finishes]

end StreamLoad.PhaseMachine
