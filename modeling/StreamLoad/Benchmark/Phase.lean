import StreamLoad.Notice
import StreamLoad.Stopwatch

/-! # Phases of the benchmark

    connecting ──(all connected)──▶ messaging ──(publish)──▶ waiting
                                        ▲                        │
                                        └────(all delivered)─────┘

`PhaseMachine` holds the phase, the counts it depends on and the two stopwatches: one times
the connecting, from `start` to the tick that finds the pool connected, and one times each
cycle, from the tick that publishes to the tick that finds it delivered. A tick looks at the
phases in this order, so that it publishes once at most.
-/

set_option autoImplicit false

namespace StreamLoad

/-- The phase of a benchmark. -/
inductive Phase where
  /-- The members of the pool connect. -/
  | connecting
  /-- The next cycle is to be published. -/
  | messaging
  /-- A cycle is published and not yet delivered to all members. -/
  | waiting
deriving DecidableEq, Repr

/-- The word for a phase. -/
def Phase.word : Phase → String
  | .connecting => "connecting"
  | .messaging => "messaging"
  | .waiting => "waiting"

/-- What a change of phase is noted as. -/
inductive PhaseNotice where
  /-- The pool is connected, in the time measured if connecting was timed. -/
  | poolConnected (size : Nat) (time : Option Nat)
  /-- A cycle is delivered to all members, in the time measured. -/
  | cycleDelivered (cycle : Nat) (time : Option Nat)
deriving DecidableEq, Repr

/-- The log entry of a change of phase. -/
def PhaseNotice.entry : PhaseNotice → LogEntry
  | .poolConnected size time =>
      LogEntry.mk .debug ("All " ++ Decimal.text size ++ " subscribers connected in "
        ++ Duration.textOfOption time)
  | .cycleDelivered cycle time =>
      LogEntry.mk .debug ("Cycle " ++ Decimal.text cycle ++ " delivered to all subscribers in "
        ++ Duration.textOfOption time)

/-- The log line of a change of phase. -/
def PhaseNotice.line (n : PhaseNotice) : String := n.entry.line

/-- The phase of a benchmark with its counts and stopwatches. -/
structure PhaseMachine where
  /-- The number of members that have to connect, and to receive each cycle. -/
  poolSize : Nat
  phase : Phase := .connecting
  /-- The number of members that have seen their greeting. -/
  connected : Nat := 0
  /-- The deliveries counted of the cycle waited for. -/
  messages : Nat := 0
  /-- The cycle published last; zero before the first. -/
  cycle : Nat := 0
  connection : Stopwatch := {}
  broadcast : Stopwatch := {}
deriving DecidableEq, Repr

namespace PhaseMachine

/-- Starts the timing of the connecting. It has no effect later on. -/
def start (m : PhaseMachine) (now : Nat) : PhaseMachine :=
  if m.phase = .connecting then { m with connection := m.connection.start now } else m

/-- Counts one more member as connected. -/
def recordConnected (m : PhaseMachine) : PhaseMachine := { m with connected := m.connected + 1 }

/-- Counts a delivery of the cycle waited for; answers whether it is one. -/
def recordDelivery (m : PhaseMachine) (cycle : Nat) : PhaseMachine × Bool :=
  if m.phase = .waiting ∧ cycle = m.cycle then ({ m with messages := m.messages + 1 }, true)
  else (m, false)

/-- Ends the connecting once the pool is connected. -/
def finishConnecting (m : PhaseMachine) (now : Nat) : PhaseMachine × List PhaseNotice :=
  if m.phase = .connecting ∧ m.connected ≥ m.poolSize then
    let connection := (m.connection.stop now).1
    ({ m with phase := .messaging, connection := connection },
      [.poolConnected m.poolSize connection.last])
  else (m, [])

/-- Publishes the next cycle; answers which one. -/
def publishNext (m : PhaseMachine) (now : Nat) : PhaseMachine × Option Nat :=
  if m.phase = .messaging then
    ({ m with phase := .waiting, cycle := m.cycle + 1, broadcast := m.broadcast.start now },
      some (m.cycle + 1))
  else (m, none)

/-- Ends the cycle waited for once it is delivered to all members. -/
def finishCycle (m : PhaseMachine) (now : Nat) : PhaseMachine × List PhaseNotice :=
  if m.phase = .waiting ∧ m.messages ≥ m.poolSize then
    let broadcast := (m.broadcast.stop now).1
    ({ m with phase := .messaging, messages := 0, broadcast := broadcast },
      [.cycleDelivered m.cycle broadcast.last])
  else (m, [])

/-- What one tick leads to. -/
structure TickResult where
  machine : PhaseMachine
  /-- The cycle to publish, if one is due. -/
  publish : Option Nat
  notices : List PhaseNotice

/-- Goes on to the next phases as far as the counts allow. -/
def tick (m : PhaseMachine) (now : Nat) : TickResult :=
  let (connected, connectedNotes) := m.finishConnecting now
  let (published, cycle) := connected.publishNext now
  let (finished, finishedNotes) := published.finishCycle now
  { machine := finished, publish := cycle, notices := connectedNotes ++ finishedNotes }

/-- The time that connecting took, once it is over and if it was timed. -/
def connectionTime (m : PhaseMachine) : Option Nat := m.connection.last

/-- The time that the last delivered cycle took. -/
def broadcastTime (m : PhaseMachine) : Option Nat := m.broadcast.last

/-- How often a connecting time was recorded. -/
def connectionRecordings (m : PhaseMachine) : Nat := m.connection.completed

/-- The number of cycles delivered to all members. -/
def cyclesCompleted (m : PhaseMachine) : Nat := m.broadcast.completed

/-! ## What a tick leads to

A tick is defined as the three stages that it goes through, of which the later ones see what the
earlier ones have done. These lemmas give the result in one piece instead, by cases on what was
there before. -/

/-- Whether a tick finds nothing to do. -/
def IsStill (m : PhaseMachine) : Prop :=
  (m.phase = .connecting ∧ m.connected < m.poolSize)
    ∨ (m.phase = .waiting ∧ m.messages < m.poolSize)

/-- Whether a tick publishes the next cycle. -/
def IsDue (m : PhaseMachine) : Prop :=
  (m.phase = .connecting ∧ m.poolSize ≤ m.connected) ∨ m.phase = .messaging

theorem IsDue.ne_waiting {m : PhaseMachine} (h : m.IsDue) : m.phase ≠ .waiting := by
  rcases h with ⟨hp, -⟩ | hp <;> simp [hp]

/-- The machine once it has published the next cycle. -/
def published (m : PhaseMachine) (now : Nat) : PhaseMachine :=
  { m with
    phase := .waiting
    cycle := m.cycle + 1
    connection := if m.phase = .connecting then (m.connection.stop now).1 else m.connection
    broadcast := m.broadcast.start now }

/-- The machine once it has ended the cycle waited for. -/
def delivered (m : PhaseMachine) (now : Nat) : PhaseMachine :=
  { m with phase := .messaging, messages := 0, broadcast := (m.broadcast.stop now).1 }

theorem finishCycle_of_waiting {m : PhaseMachine} (h : m.phase = .waiting) (now : Nat) :
    (m.finishCycle now).1 = if m.poolSize ≤ m.messages then m.delivered now else m := by
  by_cases all : m.poolSize ≤ m.messages <;> simp [finishCycle, delivered, h, all]

/-- A tick finds nothing to do, or ends the cycle waited for, or publishes the next one. Only in
a pool without members does the tick that publishes a cycle end it as well. -/
theorem tick_cases (m : PhaseMachine) (now : Nat) :
    (m.IsStill ∧ (m.tick now).machine = m ∧ (m.tick now).publish = none)
    ∨ ((m.phase = .waiting ∧ m.poolSize ≤ m.messages)
        ∧ (m.tick now).machine = m.delivered now ∧ (m.tick now).publish = none)
    ∨ (m.IsDue ∧ (m.tick now).machine = ((m.published now).finishCycle now).1
        ∧ (m.tick now).publish = some (m.cycle + 1)) := by
  cases hp : m.phase with
  | connecting =>
      by_cases few : m.connected < m.poolSize
      · have waits : ¬ m.poolSize ≤ m.connected := by omega
        refine Or.inl ⟨Or.inl ⟨hp, few⟩, ?_⟩
        simp [tick, finishConnecting, publishNext, finishCycle, hp, waits]
      · have ready : m.poolSize ≤ m.connected := by omega
        refine Or.inr (Or.inr ⟨Or.inl ⟨hp, ready⟩, ?_⟩)
        simp [tick, finishConnecting, publishNext, published, hp, ready]
  | messaging =>
      refine Or.inr (Or.inr ⟨Or.inr hp, ?_⟩)
      simp [tick, finishConnecting, publishNext, published, hp]
  | waiting =>
      by_cases few : m.messages < m.poolSize
      · have waits : ¬ m.poolSize ≤ m.messages := by omega
        refine Or.inl ⟨Or.inr ⟨hp, few⟩, ?_⟩
        simp [tick, finishConnecting, publishNext, finishCycle, hp, waits]
      · have all : m.poolSize ≤ m.messages := by omega
        refine Or.inr (Or.inl ⟨⟨rfl, all⟩, ?_⟩)
        simp [tick, finishConnecting, publishNext, finishCycle, delivered, hp, all]

end PhaseMachine

end StreamLoad
