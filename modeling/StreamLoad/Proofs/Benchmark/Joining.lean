import StreamLoad.Proofs.Attempt.Pool
import StreamLoad.Proofs.Benchmark.Delivery
import StreamLoad.Proofs.Benchmark.Phases
import StreamLoad.Proofs.Benchmark.Publishing
import StreamLoad.Proofs.Benchmark.Turns
import StreamLoad.Proofs.Benchmark.Wiring

/-! # The pool and the phase machine

The pool and the phase machine are kept apart, and each task of a member updates both. They agree
all the same (`Agreed`): the machine has counted the members that the pool has as connected, and it
has left the connecting only if these are all of them. For a member moves in the pool only while it
is pending, and once at most; a request is given up only by a member that still waits for its
answer, so that nobody who has connected can fail.

So a pool in which one member has failed stays as it is: it is never complete, and nothing is ever
published (`pool_agrees`).
-/

set_option autoImplicit false

namespace StreamLoad

namespace BenchmarkLedger

variable {l : BenchmarkLedger} {id : Nat}

/-! ## What moves a member

Events and the end of a stream move a member in the pool only while it is pending, so the lemmas
have one case in which it was and one in which nothing moves. A request that is given up would move
a connected member, too; that no connected member gives up its request is left to the invariants
below. -/

/-- Only a member that is pending can be refused. -/
theorem refuse_of_pending (waits : l.pool.state? id = some .pending) (failure : Failure) :
    (l.refuse id failure).1 = { l with pool := l.pool.set id .failed } := by
  simp [refuse, Pool.markFailed, Pool.advance, waits, AttemptState.advance?,
    AttemptState.canBecome, Pool.set]

/-- A member whose stream ends has failed only if it was not connected. -/
theorem lose_eq (l : BenchmarkLedger) (id : Nat) (failure : Failure) :
    (l.lose id failure).1 =
      if l.pool.state? id = some .pending then { l with pool := l.pool.set id .failed } else l := by
  cases state : l.pool.state? id with
  | none => simp [lose, Pool.markFailed, Pool.advance, state]
  | some attempt =>
      cases attempt <;>
        simp [lose, Pool.markFailed, Pool.advance, state, AttemptState.advance?,
          AttemptState.canBecome, Pool.set]

/-- An event leaves the pool as it is, or its member is connected by it. -/
theorem receive_cases (l : BenchmarkLedger) (id : Nat) (event : Event) :
    ((l.receive id event).pool = l.pool
        ∧ (l.receive id event).machine.connected = l.machine.connected)
      ∨ (l.pool.state? id = some .pending
        ∧ (l.receive id event).pool = l.pool.set id .connected
        ∧ (l.receive id event).machine.connected = l.machine.connected + 1) := by
  cases event with
  | ping => exact Or.inl ⟨rfl, rfl⟩
  | welcome =>
      simp only [receive, welcome_eq]
      split
      · exact Or.inr ⟨‹_›, rfl, rfl⟩
      · exact Or.inl ⟨rfl, rfl⟩
  | data payload =>
      refine Or.inl ?_
      simp only [receive]
      split
      · rw [deliver_eq]
        split <;> exact ⟨rfl, rfl⟩
      · exact ⟨rfl, rfl⟩

/-- What an event leaves alone in the phase machine. -/
theorem machine_receive (l : BenchmarkLedger) (id : Nat) (event : Event) :
    (l.receive id event).machine.poolSize = l.machine.poolSize
      ∧ (l.receive id event).machine.phase = l.machine.phase
      ∧ (l.receive id event).machine.cycle = l.machine.cycle
      ∧ (l.receive id event).machine.connection = l.machine.connection
      ∧ (l.receive id event).machine.broadcast = l.machine.broadcast := by
  cases event with
  | ping => exact ⟨rfl, rfl, rfl, rfl, rfl⟩
  | welcome =>
      simp only [receive, welcome_eq]
      split <;> exact ⟨rfl, rfl, rfl, rfl, rfl⟩
  | data payload =>
      simp only [receive]
      split
      · rw [deliver_eq]
        split <;> exact ⟨rfl, rfl, rfl, rfl, rfl⟩
      · exact ⟨rfl, rfl, rfl, rfl, rfl⟩

theorem message_receive (l : BenchmarkLedger) (id : Nat) (event : Event) :
    (l.receive id event).message = l.message := by
  cases event with
  | ping => rfl
  | welcome => exact congrArg Tally.message (tally_welcome l id)
  | data payload =>
      simp only [receive]
      split
      · rw [deliver_eq]
        split <;> rfl
      · rfl

theorem moves_receive (l : BenchmarkLedger) (id : Nat) (event : Event) :
    l.pool.Moves id (l.receive id event).pool := by
  rcases l.receive_cases id event with ⟨same, -⟩ | ⟨waits, next, -⟩
  · exact same ▸ .refl id l.pool
  · exact next ▸ Pool.moves_set waits .connected

theorem moves_foldl_receive (l : BenchmarkLedger) (id : Nat) (events : List Event) :
    l.pool.Moves id (events.foldl (fun l event => l.receive id event) l).pool := by
  induction events generalizing l with
  | nil => exact .refl id l.pool
  | cons event events ih => exact (l.moves_receive id event).trans (ih (l.receive id event))

/-- No event makes a member fail. -/
theorem not_failed_foldl_receive (unfailed : l.pool.state? id ≠ some .failed)
    (events : List Event) :
    (events.foldl (fun l event => l.receive id event) l).pool.state? id ≠ some .failed := by
  induction events generalizing l with
  | nil => exact unfailed
  | cons event events ih =>
      refine ih ?_
      rcases l.receive_cases id event with ⟨same, -⟩ | ⟨waits, next, -⟩
      · exact same ▸ unfailed
      · rw [next, Pool.state?_set_self waits]
        simp

theorem moves_lose (l : BenchmarkLedger) (id : Nat) (failure : Failure) :
    l.pool.Moves id (l.lose id failure).1.pool := by
  rw [lose_eq]
  split
  · exact Pool.moves_set ‹_› .failed
  · exact .refl id l.pool

/-! ## Pool and phase machine agree -/

/-- The pool and the phase machine agree. -/
structure Agreed (l : BenchmarkLedger) : Prop where
  poolSize_eq : l.machine.poolSize = l.pool.size
  connected_eq : l.machine.connected = l.pool.count .connected
  unaborted : ∀ id, l.pool.state? id ≠ some .aborted
  /-- While members connect, nothing is published or completed, and the connecting is not timed to
  its end. -/
  connecting : l.machine.phase = .connecting →
    l.machine.cycle = 0 ∧ l.machine.cyclesCompleted = 0 ∧ l.machine.connectionTime = none
  /-- The connecting is left only by a pool that is complete. -/
  complete : l.machine.phase ≠ .connecting → l.pool.count .connected = l.pool.size

theorem agreed_empty (message : String) (size : Nat) : (empty message size).Agreed where
  poolSize_eq := by simp [empty, Pool.ofSize, Pool.size]
  connected_eq := by simp [empty, Pool.ofSize, Pool.count, List.countP_replicate]
  unaborted id := by
    intro aborted
    have hm := List.mem_of_getElem? aborted
    cases List.eq_of_mem_replicate hm
  connecting _ := ⟨rfl, rfl, rfl⟩
  complete left := absurd rfl left

namespace Agreed

/-- A pool that is complete has nobody who is pending. -/
theorem ne_pending (h : l.Agreed) (left : l.machine.phase ≠ .connecting) (id : Nat) :
    l.pool.state? id ≠ some .pending := by
  intro waits
  have bound : id < l.pool.size := (List.getElem?_eq_some_iff.mp waits).1
  have connected := (l.pool.count_eq_size_iff .connected).mp (h.complete left) id bound
  rw [waits] at connected
  cases connected

theorem start (h : l.Agreed) (now : Nat) : (l.start now).Agreed := by
  by_cases connecting : l.machine.phase = .connecting
  · have next : l.start now
        = { l with
            machine := { l.machine with connection := l.machine.connection.start now } } := by
      simp [BenchmarkLedger.start, PhaseMachine.start, connecting]
    rw [next]
    exact ⟨h.poolSize_eq, h.connected_eq, h.unaborted, h.connecting, h.complete⟩
  · have same : l.start now = l := by
      simp [BenchmarkLedger.start, PhaseMachine.start, connecting]
    rw [same]
    exact h

/-- A member that is pending fails. -/
theorem fail (h : l.Agreed) (waits : l.pool.state? id = some .pending) :
    Agreed { l with pool := l.pool.set id .failed } where
  poolSize_eq := by
    rw [Pool.size_set]
    exact h.poolSize_eq
  connected_eq := by
    rw [Pool.count_set waits .failed (by simp)]
    exact h.connected_eq
  unaborted other := by
    by_cases mine : other = id
    · rw [mine, Pool.state?_set_self waits]
      simp
    · rw [Pool.state?_set_of_ne l.pool mine]
      exact h.unaborted other
  connecting := h.connecting
  complete left := absurd waits (h.ne_pending left id)

theorem receive (h : l.Agreed) (id : Nat) (event : Event) : (l.receive id event).Agreed := by
  obtain ⟨poolSize, phase, cycle, connection, broadcast⟩ := l.machine_receive id event
  have connecting : (l.receive id event).machine.phase = .connecting →
      (l.receive id event).machine.cycle = 0
        ∧ (l.receive id event).machine.cyclesCompleted = 0
        ∧ (l.receive id event).machine.connectionTime = none := by
    rw [phase, cycle, PhaseMachine.connectionTime, connection, PhaseMachine.cyclesCompleted,
      broadcast]
    exact h.connecting
  rcases l.receive_cases id event with ⟨same, connected⟩ | ⟨waits, next, connected⟩
  · refine ⟨?_, ?_, ?_, connecting, ?_⟩
    · rw [poolSize, same]
      exact h.poolSize_eq
    · rw [connected, same]
      exact h.connected_eq
    · rw [same]
      exact h.unaborted
    · rw [phase, same]
      exact h.complete
  · refine ⟨?_, ?_, fun other => ?_, connecting, fun left => ?_⟩
    · rw [poolSize, next, Pool.size_set]
      exact h.poolSize_eq
    · rw [connected, next, Pool.count_set waits .connected (by simp), h.connected_eq]
      rfl
    · by_cases mine : other = id
      · rw [mine, next, Pool.state?_set_self waits]
        simp
      · rw [next, Pool.state?_set_of_ne l.pool mine]
        exact h.unaborted other
    · rw [phase] at left
      exact absurd waits (h.ne_pending left id)

theorem foldl_receive (h : l.Agreed) (id : Nat) (events : List Event) :
    (events.foldl (fun l event => l.receive id event) l).Agreed := by
  induction events generalizing l with
  | nil => exact h
  | cons event events ih => exact ih (h.receive id event)

theorem lose (h : l.Agreed) (id : Nat) (failure : Failure) : (l.lose id failure).1.Agreed := by
  rw [lose_eq]
  split
  · exact h.fail ‹_›
  · exact h

theorem tick (h : l.Agreed) (now : Nat) : (l.tick now).1.Agreed := by
  have pool : (l.tick now).1.pool = l.pool := rfl
  have machine : (l.tick now).1.machine = (l.machine.tick now).machine := rfl
  rcases l.machine.tick_cases now with ⟨-, same, -⟩ | ⟨⟨waits, -⟩, done, -⟩ | ⟨due, -, -⟩
  · rw [same] at machine
    exact ⟨machine ▸ h.poolSize_eq, machine ▸ h.connected_eq, h.unaborted,
      machine ▸ h.connecting, machine ▸ h.complete⟩
  · have full := h.complete (by simp [waits])
    rw [done] at machine
    refine ⟨?_, ?_, h.unaborted, ?_, fun _ => full⟩
    · rw [machine]
      exact h.poolSize_eq
    · rw [machine]
      exact h.connected_eq
    · rw [machine]
      intro connecting
      cases connecting
  · -- The cycle is due because the pool is complete, since this tick or since an earlier one.
    have full : l.pool.count .connected = l.pool.size := by
      rcases due with ⟨connecting, all⟩ | messaging
      · have within : l.pool.count .connected ≤ l.pool.size := List.countP_le_length
        have connected := h.connected_eq
        have size := h.poolSize_eq
        omega
      · exact h.complete (by simp [messaging])
    have next := (PhaseMachine.tick_of_isDue due now).1
    have left : (l.machine.tick now).machine.phase ≠ .connecting := by
      rw [next]
      split <;> simp [PhaseMachine.published, PhaseMachine.delivered]
    have counts : (l.machine.tick now).machine.poolSize = l.machine.poolSize
        ∧ (l.machine.tick now).machine.connected = l.machine.connected := by
      rw [next]
      split <;> exact ⟨rfl, rfl⟩
    refine ⟨?_, ?_, h.unaborted, ?_, fun _ => full⟩
    · rw [machine, counts.1]
      exact h.poolSize_eq
    · rw [machine, counts.2]
      exact h.connected_eq
    · rw [machine]
      exact fun connecting => absurd connecting left

end Agreed

end BenchmarkLedger

namespace Benchmark

namespace Crowd

/-- The members and the ledger agree on who is still pending. -/
structure Joined (c : Crowd) : Prop where
  agreed : c.ledger.Agreed
  unstarted : c.started = false → ∀ id state, c.ledger.pool.state? id = some state →
    state = .pending
  awaited : ∀ id ∈ c.awaited, c.ledger.pool.state? id = some .pending
  asked : ∀ m ∈ c.members, m.subscription = .asked → c.ledger.pool.state? m.id = some .pending
  unfailed : ∀ m ∈ c.members, c.ledger.pool.state? m.id ≠ some .failed

namespace Joined

variable {size : Nat} {c c' : Crowd}

theorem tick (h : Joined c) (now : Nat) : Joined { c with ledger := (c.ledger.tick now).1 } :=
  ⟨h.agreed.tick now, h.unstarted, h.awaited, h.asked, h.unfailed⟩

/-- The part of one member goes on in the ledger, and the member may leave. -/
theorem moves (h : Joined c) {id : Nat} {ledger : BenchmarkLedger} (agreed : ledger.Agreed)
    (moves : c.ledger.pool.Moves id ledger.pool) {awaited : List Nat} {members : List Member}
    (started : c.started = true) (waiting : ∀ other ∈ awaited, other ∈ c.awaited ∧ other ≠ id)
    (running : ∀ m ∈ members, m.id ≠ id → m ∈ c.members)
    (mine : ∀ m ∈ members, m.id = id →
      (m.subscription ≠ .asked) ∧ ledger.pool.state? id ≠ some .failed) :
    Joined { c with awaited := awaited, members := members, ledger := ledger } where
  agreed := agreed
  unstarted no := by
    rw [started] at no
    cases no
  awaited other waits := by
    obtain ⟨before, apart⟩ := waiting other waits
    show ledger.pool.state? other = _
    rw [moves.others other apart]
    exact h.awaited other before
  asked m runs asked := by
    by_cases same : m.id = id
    · exact absurd asked (mine m runs same).1
    · show ledger.pool.state? m.id = _
      rw [moves.others m.id same]
      exact h.asked m (running m runs same) asked
  unfailed m runs := by
    by_cases same : m.id = id
    · show ledger.pool.state? m.id ≠ _
      rw [same]
      exact (mine m runs same).2
    · show ledger.pool.state? m.id ≠ _
      rw [moves.others m.id same]
      exact h.unfailed m (running m runs same)

/-- What an action does to members and ledger keeps them in agreement. -/
theorem change (h : Joined c) (sound : c.Sound size) {heard : Option (Nat × List UInt8)}
    (changed : Change c heard c') : Joined c' := by
  cases changed with
  | still => exact h
  | start now unstarted =>
      obtain ⟨none, nobody⟩ := sound.unstarted unstarted
      refine ⟨h.agreed.start now, nofun, fun id waits => ?_, fun m runs => ?_, fun m runs => ?_⟩
      · -- Nobody has moved yet.
        have bound : id < c.ledger.pool.size := by simpa [none] using waits
        have known := List.getElem?_eq_getElem bound
        show c.ledger.pool.state? id = _
        rw [Pool.state?, known]
        exact congrArg some (h.unstarted unstarted id _ known)
      · simp [nobody] at runs
      · simp [nobody] at runs
  | @refused id failure waits =>
      have pending := h.awaited id waits
      rw [BenchmarkLedger.refuse_of_pending pending]
      have once : c.awaited.Nodup := List.Nodup.of_append_left sound.nodup
      refine h.moves (h.agreed.fail pending) (Pool.moves_set pending .failed)
        (sound.started_of_awaited waits) (fun other hother => ?_) (fun m runs _ => runs)
        (fun m runs same => absurd same (sound.ne_of_awaited waits runs))
      have both := (once.mem_erase_iff).mp hother
      exact ⟨both.2, both.1⟩
  | @asked id exchange request waits =>
      refine ⟨h.agreed, h.unstarted, fun other hother => h.awaited other (List.erase_subset hother),
        fun m runs asked => ?_, fun m runs => ?_⟩
      · rcases List.mem_append.mp runs with old | new
        · exact h.asked m old asked
        · rw [List.mem_singleton.mp new]
          exact h.awaited id waits
      · rcases List.mem_append.mp runs with old | new
        · exact h.unfailed m old
        · rw [List.mem_singleton.mp new]
          show c.ledger.pool.state? id ≠ _
          rw [h.awaited id waits]
          simp
  | @opens m runs asked =>
      refine ⟨h.agreed, h.unstarted, h.awaited, fun x hx waits => ?_, fun x hx => ?_⟩
      · rcases mem_setSubscription hx with ⟨old, -⟩ | ⟨old, hold, same, rfl⟩
        · exact h.asked x old waits
        · cases waits
      · rcases mem_setSubscription hx with ⟨old, -⟩ | ⟨old, hold, same, rfl⟩
        · exact h.unfailed x old
        · exact h.unfailed old hold
  | @reads m scanner bytes runs reading =>
      refine h.moves (h.agreed.foldl_receive m.id _) (c.ledger.moves_foldl_receive m.id _)
        (sound.started_of_member runs)
        (fun other waits => ⟨waits, (sound.ne_of_awaited waits runs).symm⟩)
        (fun x hx apart => ?_) (fun x hx same => ?_)
      · rcases mem_setSubscription hx with ⟨old, -⟩ | ⟨old, hold, same, rfl⟩
        · exact old
        · exact absurd same apart
      · rcases mem_setSubscription hx with ⟨old, other⟩ | ⟨old, hold, mine, rfl⟩
        · exact absurd same other
        · exact ⟨by simp, BenchmarkLedger.not_failed_foldl_receive (h.unfailed m runs) _⟩
  | @refuses m failure runs asked =>
      have pending := h.asked m runs asked
      rw [BenchmarkLedger.refuse_of_pending pending]
      refine h.moves (h.agreed.fail pending) (Pool.moves_set pending .failed)
        (sound.started_of_member runs)
        (fun other waits => ⟨waits, (sound.ne_of_awaited waits runs).symm⟩)
        (fun x hx _ => (List.mem_filter.mp hx).1) (fun x hx same => ?_)
      simp [same] at hx
  | @loses m failure runs =>
      refine h.moves (h.agreed.lose m.id failure) (c.ledger.moves_lose m.id failure)
        (sound.started_of_member runs)
        (fun other waits => ⟨waits, (sound.ne_of_awaited waits runs).symm⟩)
        (fun x hx _ => (List.mem_filter.mp hx).1) (fun x hx same => ?_)
      simp [same] at hx

/-- No action moves a member on that is no longer pending. -/
theorem lasts (h : Joined c) {heard : Option (Nat × List UInt8)} (changed : Change c heard c') :
    c.ledger.pool.Lasts c'.ledger.pool := by
  cases changed with
  | still => exact .refl _
  | start now unstarted => exact .refl _
  | @refused id failure waits =>
      have pending := h.awaited id waits
      rw [BenchmarkLedger.refuse_of_pending pending]
      exact (Pool.moves_set pending .failed).lasts
  | asked exchange request waits => exact .refl _
  | opens runs asked => exact .refl _
  | @reads m scanner bytes runs reading => exact (c.ledger.moves_foldl_receive m.id _).lasts
  | @refuses m failure runs asked =>
      have pending := h.asked m runs asked
      rw [BenchmarkLedger.refuse_of_pending pending]
      exact (Pool.moves_set pending .failed).lasts
  | @loses m failure runs => exact (c.ledger.moves_lose m.id failure).lasts

end Joined

/-! ## Between two ticks

Between ticks the phase machine counts members and deliveries, and all else of it stays: cycle,
phase, message, size. `Between` collects this, and one case for each constructor of `Change` shows
it. -/

/-- What stays as it is between two ticks. -/
structure Between (c c' : Crowd) : Prop where
  settings : c'.settings = c.settings
  message : c'.ledger.message = c.ledger.message
  phase : c'.ledger.machine.phase = c.ledger.machine.phase
  cycle : c'.ledger.machine.cycle = c.ledger.machine.cycle
  broadcast : c'.ledger.machine.broadcast = c.ledger.machine.broadcast

namespace Between

variable {c c' c'' : Crowd}

theorem refl (c : Crowd) : Between c c := ⟨rfl, rfl, rfl, rfl, rfl⟩

theorem trans (first : Between c c') (second : Between c' c'') : Between c c'' :=
  ⟨second.settings.trans first.settings, second.message.trans first.message,
    second.phase.trans first.phase, second.cycle.trans first.cycle,
    second.broadcast.trans first.broadcast⟩

theorem foldl_receive (c : Crowd) (id : Nat) (events : List Event) {members : List Member} :
    Between c
      { c with
        members := members
        ledger := events.foldl (fun l event => l.receive id event) c.ledger } := by
  have kept (l : BenchmarkLedger) :
      (events.foldl (fun l event => l.receive id event) l).message = l.message
        ∧ (events.foldl (fun l event => l.receive id event) l).machine.phase = l.machine.phase
        ∧ (events.foldl (fun l event => l.receive id event) l).machine.cycle = l.machine.cycle
        ∧ (events.foldl (fun l event => l.receive id event) l).machine.broadcast
          = l.machine.broadcast := by
    induction events generalizing l with
    | nil => exact ⟨rfl, rfl, rfl, rfl⟩
    | cons event events ih =>
        obtain ⟨-, phase, cycle, -, broadcast⟩ := l.machine_receive id event
        obtain ⟨message', phase', cycle', broadcast'⟩ := ih (l.receive id event)
        exact ⟨message'.trans (l.message_receive id event), phase'.trans phase,
          cycle'.trans cycle, broadcast'.trans broadcast⟩
  obtain ⟨message, phase, cycle, broadcast⟩ := kept c.ledger
  exact ⟨rfl, message, phase, cycle, broadcast⟩

end Between

theorem Change.between {c c' : Crowd} {heard : Option (Nat × List UInt8)}
    (changed : Change c heard c') : Between c c' := by
  cases changed with
  | still => exact .refl c
  | start now unstarted =>
      refine ⟨rfl, rfl, ?_, ?_, ?_⟩ <;>
        simp only [BenchmarkLedger.start, PhaseMachine.start] <;> split <;> rfl
  | refused failure waits => exact ⟨rfl, rfl, rfl, rfl, rfl⟩
  | asked exchange request waits => exact ⟨rfl, rfl, rfl, rfl, rfl⟩
  | opens runs asked => exact ⟨rfl, rfl, rfl, rfl, rfl⟩
  | reads bytes runs reading => exact .foldl_receive c _ _
  | refuses failure runs asked => exact ⟨rfl, rfl, rfl, rfl, rfl⟩
  | @loses m failure runs =>
      refine ⟨rfl, ?_, ?_, ?_, ?_⟩ <;>
        simp only [BenchmarkLedger.lose] <;> split <;> rfl

end Crowd

namespace Session

open Crowd (Joined)

variable {size : Nat} {s : Session}

theorem joined_start (settings : BenchmarkSettings) (client : Client) (server : Server) :
    Joined (start settings client server).crowd where
  agreed := BenchmarkLedger.agreed_empty settings.message settings.poolSize
  unstarted _ id state known := by
    exact List.eq_of_mem_replicate (List.mem_of_getElem? known)
  awaited := by simp [crowd, start]
  asked := by simp [crowd, start]
  unfailed := by simp [crowd, start]

/-- An action keeps members and ledger in agreement, and nobody moves who is no longer pending. -/
theorem joined_perform (wired : Wired size s) (joined : Joined s.crowd) (action : Action) :
    Joined (s.perform action).crowd ∧ s.ledger.pool.Lasts (s.perform action).ledger.pool := by
  by_cases ticks : action = .tick
  · subst ticks
    refine ⟨?_, .refl _⟩
    show Joined s.tick.1.crowd
    rw [crowd_tick]
    exact joined.tick s.now
  · obtain ⟨changed, -⟩ := change_perform wired ticks
    exact ⟨joined.change wired.sound changed, joined.lasts changed⟩

theorem joined_performAll (wired : Wired size s) (joined : Joined s.crowd)
    (actions : List Action) :
    Joined (s.performAll actions).crowd
      ∧ s.ledger.pool.Lasts (s.performAll actions).ledger.pool := by
  induction actions generalizing s with
  | nil => exact ⟨joined, .refl _⟩
  | cons action actions ih =>
      obtain ⟨next, first⟩ := joined_perform wired joined action
      obtain ⟨last, later⟩ := ih (wired.perform action) next
      exact ⟨last, first.trans later⟩

/-! ## What is published -/

/-- A tick starts the task of a payload exactly as it goes on to the next cycle. -/
theorem cycle_tick (s : Session) :
    (s.queued .tick = [] ∧ s.tick.1.ledger.machine.cycle = s.ledger.machine.cycle)
      ∨ (s.queued .tick = [Cycle.payload s.settings.message (s.ledger.machine.cycle + 1)]
        ∧ s.tick.1.ledger.machine.cycle = s.ledger.machine.cycle + 1) := by
  have asked : s.queued .tick
      = ((s.ledger.machine.publication? (.tick s.now)).map
        (Cycle.payload s.settings.message)).toList := s.queued_tick
  rw [asked]
  rcases s.ledger.machine.cycle_apply (.tick s.now) with ⟨quiet, same⟩ | ⟨published, next⟩
  · exact Or.inl ⟨by rw [quiet]; rfl, same⟩
  · exact Or.inr ⟨by rw [published]; rfl, next⟩

/-- A run publishes the payloads of the cycles from the first to the current one, in order. -/
theorem published_eq (settings : BenchmarkSettings) (client : Client) (server : Server)
    (actions : List Action) :
    ((start settings client server).performAll actions).settings = settings
      ∧ (start settings client server).published actions
        = (List.range' 1
            ((start settings client server).performAll actions).ledger.machine.cycle).map
          (Cycle.payload settings.message) := by
  induction actions using List.reverseRecOn with
  | nil => exact ⟨rfl, rfl⟩
  | append_singleton actions action ih =>
      have wired := (wired_start settings client server).performAll actions
      rw [published_concat, performAll_concat]
      generalize (start settings client server).performAll actions = s at ih wired
      obtain ⟨same, before⟩ := ih
      rw [before]
      by_cases ticks : action = .tick
      · subst ticks
        refine ⟨same, ?_⟩
        show _ = (List.range' 1 s.tick.1.ledger.machine.cycle).map _
        rcases s.cycle_tick with ⟨quiet, cycle⟩ | ⟨published, cycle⟩
        · rw [quiet, cycle]
          simp
        · rw [published, cycle, same, List.range'_concat, List.map_append]
          simp [Nat.add_comm]
      · have between := (change_perform wired ticks).1.between
        have kept : (s.perform action).settings = s.settings := between.settings
        have cycle : (s.perform action).ledger.machine.cycle = s.ledger.machine.cycle :=
          between.cycle
        rw [queued_of_ne_tick ticks, cycle]
        exact ⟨kept.trans same, by simp⟩

/-! ## A pool that is not complete

A member that has failed stays so, hence the members counted never are all of them, and the
connecting is not left. Everything else that is said of such a pool follows from the phase. -/

/-- The pool and the phase machine of a session agree. -/
structure Agreement (settings : BenchmarkSettings) (s : Session) : Prop where
  /-- The machine has counted the members that the pool has as connected. -/
  connected_eq : s.ledger.machine.connected = s.ledger.pool.count .connected
  resolved_le : s.ledger.pool.count .connected + s.ledger.pool.count .failed ≤ settings.poolSize
  unaborted : s.ledger.pool.count .aborted = 0
  /-- The connecting is left only when every member is connected. -/
  complete : s.ledger.machine.phase ≠ .connecting →
    ∀ id, id < settings.poolSize → s.ledger.pool.state? id = some .connected

/-- The connecting goes on, is not timed to its end, and nothing was ever published: no task to
publish was started, none waits and none has begun to run. -/
structure Stalled (settings : BenchmarkSettings) (client : Client) (server : Server)
    (actions : List Action) : Prop where
  phase : ((start settings client server).performAll actions).ledger.machine.phase = .connecting
  connectionTime :
    ((start settings client server).performAll actions).ledger.machine.connectionTime = none
  published : (start settings client server).published actions = []
  unpublished : ((start settings client server).performAll actions).unpublished = []
  begun : (start settings client server).begun actions = []

theorem agreement_performAll (settings : BenchmarkSettings) (client : Client) (server : Server)
    (actions : List Action) :
    Agreement settings ((start settings client server).performAll actions) := by
  have initial := wired_start settings client server
  have agreed := (joined_performAll initial (joined_start settings client server) actions).1.agreed
  have pool := (initial.performAll actions).sound.pool
  generalize (start settings client server).performAll actions = s at agreed pool
  have size : s.ledger.pool.size = settings.poolSize := pool
  refine ⟨agreed.connected_eq, ?_, ?_, fun left => ?_⟩
  · rw [← size]
    exact s.ledger.pool.count_add_count_le (by simp)
  · exact (s.ledger.pool.count_eq_zero_iff .aborted).mpr agreed.unaborted
  · rw [← size]
    exact (s.ledger.pool.count_eq_size_iff .connected).mp (agreed.complete left)

/-- A pool with a member that has failed is never complete. -/
theorem stalled_performAll (settings : BenchmarkSettings) (client : Client) (server : Server)
    (actions : List Action) {id : Nat}
    (failed : ((start settings client server).performAll actions).ledger.pool.state? id
      = some .failed) : Stalled settings client server actions := by
  have initial := wired_start settings client server
  have agreed := (joined_performAll initial (joined_start settings client server) actions).1.agreed
  have published := (published_eq settings client server actions).2
  have connecting :
      ((start settings client server).performAll actions).ledger.machine.phase = .connecting := by
    by_contra left
    have pool := (initial.performAll actions).sound.pool
    have bound : id < settings.poolSize := by
      rw [← pool]
      exact (List.getElem?_eq_some_iff.mp failed).1
    have connected := (agreement_performAll settings client server actions).complete left id bound
    rw [failed] at connected
    cases connected
  obtain ⟨none, -, unset⟩ := agreed.connecting connecting
  have cycle : ((start settings client server).performAll actions).ledger.machine.cycle = 0 := none
  have quiet : (start settings client server).published actions = [] := by
    rw [published, cycle]
    rfl
  have carried := (issued (s := start settings client server) rfl actions).carried
  rw [quiet] at carried
  obtain ⟨unbegun, idle⟩ := List.append_eq_nil_iff.mp carried.eq_nil
  exact ⟨connecting, unset, quiet, idle, unbegun⟩

/-- **Pool and phase machine agree, and a partial pool stalls.** In whatever order the tasks of a
benchmark run: the machine has counted the members that are connected, a member that has connected
stays so, and the connecting is left only when every member has connected. Once a member has failed,
the connecting goes on for good and nothing is published, before or after. The steps of a session
are runs of this kind. -/
theorem pool_agrees (settings : BenchmarkSettings) (client : Client) (server : Server) :
    (∀ actions, Agreement settings ((start settings client server).performAll actions))
    ∧ (∀ actions later id,
        ((start settings client server).performAll actions).ledger.pool.state? id
          = some .connected →
        ((start settings client server).performAll (actions ++ later)).ledger.pool.state? id
          = some .connected)
    ∧ (∀ actions later id,
        ((start settings client server).performAll actions).ledger.pool.state? id = some .failed →
        Stalled settings client server (actions ++ later))
    ∧ ∀ steps, ∃ actions,
        (start settings client server).run steps
          = (start settings client server).performAll actions := by
  have initial := wired_start settings client server
  have joined := joined_start settings client server
  -- Whoever is no longer pending stays as it is, whatever comes later.
  have lasts (actions later : List Action) :
      ((start settings client server).performAll actions).ledger.pool.Lasts
        ((start settings client server).performAll (actions ++ later)).ledger.pool := by
    rw [performAll_append]
    exact (joined_performAll (initial.performAll actions)
      (joined_performAll initial joined actions).1 later).2
  refine ⟨agreement_performAll settings client server, fun actions later id connected => ?_,
    fun actions later id failed => ?_, fun steps => ?_⟩
  · exact lasts actions later id .connected connected (by simp)
  · exact stalled_performAll settings client server (actions ++ later)
      (lasts actions later id .failed failed (by simp))
  · obtain ⟨actions, same⟩ := exists_performAll_eq_run settings client server steps
    exact ⟨actions, same.symm⟩

/-- One of two members is greeted. The request of the other is made when the server accepts no
more connections. -/
def oneGreeted : List Action :=
  [.start, .launch 0, .command 0 (.head 200), .command 0 (.send (Text.utf8 "data: connected\n")),
    .shutDown, .launch 0]

theorem pool_agrees_oneGreeted :
    ((start { poolSize := 2 } { base := "http://a" } {}).performAll oneGreeted).ledger.pool.state? 1
        = some .failed
      ∧ ∀ later,
        ((start { poolSize := 2 } { base := "http://a" } {}).performAll
          (oneGreeted ++ later)).ledger.pool.state? 0 = some .connected
        ∧ Stalled { poolSize := 2 } { base := "http://a" } {} (oneGreeted ++ later) := by
  obtain ⟨-, lasts, stalls, -⟩ := pool_agrees { poolSize := 2 } { base := "http://a" } {}
  have connected : ((start { poolSize := 2 } { base := "http://a" } {}).performAll
      oneGreeted).ledger.pool.state? 0 = some .connected := by decide +kernel
  have failed : ((start { poolSize := 2 } { base := "http://a" } {}).performAll
      oneGreeted).ledger.pool.state? 1 = some .failed := by decide +kernel
  exact ⟨failed, fun later =>
    ⟨lasts oneGreeted later 0 connected, stalls oneGreeted later 1 failed⟩⟩

end Session

end Benchmark

end StreamLoad
