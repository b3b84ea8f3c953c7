import StreamLoad.Proofs.Benchmark.Joining
import StreamLoad.Proofs.Benchmark.Streams

/-! # Lines that members have been sent

What a member has been sent shows in the ledger as soon as the line is complete, as long as its
stream is short: a member is connected exactly if its stream holds a greeting
(`connected_of_completed`, `completed_of_connected`), and while a cycle is waited for, a member that
has been sent the line of its payload is counted for it (`counted_of_completed`). Neither depends on
how the bytes were cut, on other lines of the stream or on what other members do.

A line that a run completes is completed by one of its actions (`exists_heard_of_completed`), and
the events of the lines that an action completes are what the ledger receives (`ledger_of_heard`).
What is left is that nothing later takes back what they lead to.
-/

set_option autoImplicit false

namespace StreamLoad

namespace BenchmarkLedger

variable {size : Nat} {message : String} {l : BenchmarkLedger}

/-! ## The cycle that a member is counted for

Once a member is counted for the cycle waited for, later events of any member leave it so until the
next tick. So it does not matter whether a payload is the first of its cycle: after it the member is
counted in any case. -/

/-- A member that is counted for the cycle waited for stays so, whatever members receive. -/
theorem lastCounted_receive_of_eq {id : Nat}
    (counted : l.lastCounted[id]? = some l.machine.cycle) (reader : Nat) (event : Event) :
    (l.receive reader event).lastCounted[id]? = some l.machine.cycle := by
  cases event with
  | ping => exact counted
  | welcome =>
      have same : (l.welcome reader).lastCounted = l.lastCounted :=
        congrArg Tally.lastCounted (tally_welcome l reader)
      show (l.welcome reader).lastCounted[id]? = _
      rw [same]
      exact counted
  | data payload =>
      simp only [receive]
      split
      · rename_i cycle _
        rw [deliver_eq]
        split
        · rename_i due
          obtain ⟨-, -, rfl⟩ := due
          -- It counts again at most for the cycle for which it is counted already.
          by_cases mine : reader = id
          · rw [mine]
            exact List.getElem?_set_self (List.getElem?_eq_some_iff.mp counted).1
          · show (l.lastCounted.set reader l.machine.cycle)[id]? = _
            rw [List.getElem?_set_ne mine]
            exact counted
        · exact counted
      · exact counted

theorem lastCounted_foldl_of_eq {id : Nat} (counted : l.lastCounted[id]? = some l.machine.cycle)
    (reader : Nat) (events : List Event) :
    (events.foldl (fun l event => l.receive reader event) l).lastCounted[id]?
      = some l.machine.cycle := by
  induction events generalizing l with
  | nil => exact counted
  | cons event events ih =>
      have next := lastCounted_receive_of_eq counted reader event
      have same := (l.machine_receive reader event).2.2.1
      rw [← same] at next ⊢
      exact ih next

/-- A member that receives the payload of the cycle waited for is counted for it, now or before. -/
theorem lastCounted_receive_payload (h : Counted message size l.tally)
    (waits : l.machine.phase = .waiting) (id : Fin size) {payload : String}
    (read : Cycle.ofPayload? message payload = some l.machine.cycle) :
    (l.receive id (.data payload)).lastCounted[(id : Nat)]? = some l.machine.cycle := by
  have within : (id : Nat) < l.lastCounted.length := by
    have : l.lastCounted.length = size := h.length_eq
    omega
  show (l.apply (.receive id (.data payload))).lastCounted[(id : Nat)]? = _
  by_cases counts : l.Counts (.receive id (.data payload))
  · rw [apply_of_counts counts]
    exact List.getElem?_set_self within
  · have same := congrArg Tally.lastCounted (tally_apply_of_not_counts (by simp) counts)
    show (l.apply (.receive id (.data payload))).tally.lastCounted[(id : Nat)]? = _
    rw [same]
    by_contra apart
    exact counts ((h.counts_iff waits id payload).mpr ⟨read, apart⟩)

theorem lastCounted_foldl_payload (h : Counted message size l.tally)
    (waits : l.machine.phase = .waiting) (id : Fin size) {payload : String}
    (read : Cycle.ofPayload? message payload = some l.machine.cycle) {events : List Event}
    (received : .data payload ∈ events) :
    (events.foldl (fun l event => l.receive id event) l).lastCounted[(id : Nat)]?
      = some l.machine.cycle := by
  induction events generalizing l with
  | nil => cases received
  | cons event events ih =>
      obtain ⟨-, phase, cycle, -⟩ := l.machine_receive id event
      rcases List.mem_cons.mp received with rfl | later
      · have now := lastCounted_receive_payload h waits id read
        rw [← cycle] at now ⊢
        exact lastCounted_foldl_of_eq now id events
      · rw [← cycle] at read ⊢
        exact ih (h.apply (.receive id event)) (phase.trans waits) read later

/-- All members are counted for the cycle waited for, so that enough deliveries are counted. -/
theorem messages_eq_size (h : Counted message size l.tally) (waits : l.machine.phase = .waiting)
    (all : ∀ id, id < size → l.lastCounted[id]? = some l.machine.cycle) :
    l.machine.messages = size := by
  have length : l.lastCounted.length = size := h.length_eq
  have each : ∀ c ∈ l.lastCounted, l.machine.cycle = c := by
    intro c hc
    obtain ⟨id, bound, rfl⟩ := List.getElem_of_mem hc
    have counted := all id (length ▸ bound)
    rw [List.getElem?_eq_getElem bound] at counted
    exact (Option.some.inj counted).symm
  calc l.machine.messages = l.lastCounted.count l.machine.cycle := h.waiting waits
    _ = l.lastCounted.length := List.count_eq_length.mpr each
    _ = size := length

/-! ## Greetings -/

/-- A member that has not failed is connected by a greeting. -/
theorem connected_foldl_receive {id : Nat}
    (known : l.pool.state? id = some .pending ∨ l.pool.state? id = some .connected)
    {events : List Event} (greeted : .welcome ∈ events) :
    (events.foldl (fun l event => l.receive id event) l).pool.state? id = some .connected := by
  induction events generalizing l with
  | nil => cases greeted
  | cons event events ih =>
      -- Once connected, a member stays so; until then the first event leaves it known.
      have stays (connected : (l.receive id event).pool.state? id = some .connected) :
          (events.foldl (fun l event => l.receive id event) (l.receive id event)).pool.state? id
            = some .connected :=
        ((l.receive id event).moves_foldl_receive id events).lasts id .connected connected (by simp)
      rcases List.mem_cons.mp greeted with rfl | later
      · refine stays ?_
        show (l.welcome id).pool.state? id = _
        rw [welcome_eq]
        rcases known with pending | connected
        · rw [if_pos pending]
          exact Pool.state?_set_self pending .connected
        · rw [if_neg (by simp [connected])]
          exact connected
      · rcases l.receive_cases id event with ⟨same, -⟩ | ⟨pending, next, -⟩
        · exact ih (same ▸ known) later
        · exact stays (by rw [next]; exact Pool.state?_set_self pending .connected)

/-- Only a greeting connects a member. -/
theorem greeted_of_connected {id : Nat} {events : List Event}
    (connected : (events.foldl (fun l event => l.receive id event) l).pool.state? id
      = some .connected) : l.pool.state? id = some .connected ∨ .welcome ∈ events := by
  induction events generalizing l with
  | nil => exact Or.inl connected
  | cons event events ih =>
      rcases ih connected with now | later
      · cases event with
        | welcome => exact Or.inr List.mem_cons_self
        | ping => exact Or.inl now
        | data payload =>
            rcases l.receive_cases id (.data payload) with ⟨same, -⟩ | ⟨-, -, more⟩
            · exact Or.inl (same ▸ now)
            · -- A payload adds nobody to the members connected.
              have none : (l.receive id (.data payload)).machine.connected
                  = l.machine.connected := by
                simp only [receive]
                split
                · rw [deliver_eq]
                  split <;> rfl
                · rfl
              omega
      · exact Or.inr (List.mem_cons_of_mem event later)

end BenchmarkLedger

namespace Benchmark

/-- A stream holds a line that greets its reader. -/
def Greeted (bytes : List UInt8) : Prop :=
  ∃ line ∈ completed [] bytes, Event.ofLine? line = some .welcome

instance (bytes : List UInt8) : Decidable (Greeted bytes) :=
  inferInstanceAs (Decidable (∃ line ∈ completed [] bytes, Event.ofLine? line = some .welcome))

namespace Crowd

variable {size : Nat} {c c' : Crowd} {heard : Option (Nat × List UInt8)}

/-- What an action does to the ledger, a run of operations does. -/
theorem Change.exists_run (sound : c.Sound size) (changed : Change c heard c') :
    ∃ ops : List (BenchmarkLedger.Operation size), c'.ledger = c.ledger.run ops := by
  cases changed with
  | still => exact ⟨[], rfl⟩
  | start now unstarted => exact ⟨[.start now], rfl⟩
  | @refused id failure waits => exact ⟨[.refuse ⟨id, sound.lt_of_awaited waits⟩ failure], rfl⟩
  | asked exchange request waits => exact ⟨[], rfl⟩
  | opens runs asked => exact ⟨[], rfl⟩
  | @reads m scanner bytes runs reading =>
      exact ⟨_, Session.foldl_receive c.ledger ⟨m.id, sound.lt_of_member runs⟩ _⟩
  | @refuses m failure runs asked =>
      exact ⟨[.refuse ⟨m.id, sound.lt_of_member runs⟩ failure], rfl⟩
  | @loses m failure runs => exact ⟨[.lose ⟨m.id, sound.lt_of_member runs⟩ failure], rfl⟩

/-- The bytes that an action brings a member, the member reads. -/
theorem Change.of_heard {id : Nat} {bytes : List UInt8}
    (changed : Change c (some (id, bytes)) c') :
    ∃ m ∈ c.members, ∃ scanner : Scanner, m.id = id
      ∧ m.subscription = .reading { scanner := scanner }
      ∧ c'.ledger = (scanner.feed bytes).2.foldl (fun l event => l.receive id event) c.ledger := by
  cases changed with
  | reads bytes runs reading => exact ⟨_, runs, _, rfl, reading, rfl⟩

/-- A member that is counted for the cycle waited for stays so up to the next tick. -/
theorem Change.counted (changed : Change c heard c') {id : Nat}
    (counted : c.ledger.lastCounted[id]? = some c.ledger.machine.cycle) :
    c'.ledger.lastCounted[id]? = some c.ledger.machine.cycle := by
  cases changed with
  | still => exact counted
  | start now unstarted => exact counted
  | refused failure waits => exact counted
  | asked exchange request waits => exact counted
  | opens runs asked => exact counted
  | @reads m scanner bytes runs reading =>
      exact BenchmarkLedger.lastCounted_foldl_of_eq counted m.id _
  | refuses failure runs asked => exact counted
  | @loses m failure runs =>
      have same := congrArg BenchmarkLedger.Tally.lastCounted
        (c.ledger.tally_lose m.id failure)
      show (c.ledger.lose m.id failure).1.tally.lastCounted[id]? = _
      rw [same]
      exact counted

/-- A member is connected only by what it hears. -/
theorem Joined.connected_before (joined : Joined c) (changed : Change c heard c') {id : Nat}
    (unheard : ∀ bytes, heard ≠ some (id, bytes))
    (connected : c'.ledger.pool.state? id = some .connected) :
    c.ledger.pool.state? id = some .connected := by
  -- Nobody is connected by failing, the member itself as little as another.
  have failing {other : Nat} (pending : c.ledger.pool.state? other = some .pending)
      (after : (c.ledger.pool.set other .failed).state? id = some .connected) :
      c.ledger.pool.state? id = some .connected := by
    by_cases mine : id = other
    · rw [mine, Pool.state?_set_self pending] at after
      cases after
    · rwa [Pool.state?_set_of_ne c.ledger.pool mine] at after
  cases changed with
  | still => exact connected
  | start now unstarted => exact connected
  | @refused other failure waits =>
      have pending := joined.awaited other waits
      rw [BenchmarkLedger.refuse_of_pending pending] at connected
      exact failing pending connected
  | asked exchange request waits => exact connected
  | opens runs asked => exact connected
  | @reads m scanner bytes runs reading =>
      have apart : id ≠ m.id := fun mine => unheard bytes (by rw [mine])
      rwa [(c.ledger.moves_foldl_receive m.id _).others id apart] at connected
  | @refuses m failure runs asked =>
      have pending := joined.asked m runs asked
      rw [BenchmarkLedger.refuse_of_pending pending] at connected
      exact failing pending connected
  | @loses m failure runs =>
      rw [BenchmarkLedger.lose_eq] at connected
      split at connected
      · exact failing ‹_› connected
      · exact connected

end Crowd

namespace Session

open BenchmarkLedger (Counted)
open Crowd (Followed Joined)

/-! ## Lines that a run completes -/

/-- Bytes come to a member by an action that it hears. -/
theorem heard_of_completed {s : Session} {past : List UInt8} {action : Action} {id : Nat}
    {line : List UInt8}
    (sent : line ∈ completed past (bytesTo id (s.hearing? action).toList)) :
    ∃ bytes, s.hearing? action = some (id, bytes) ∧ line ∈ completed past bytes := by
  cases heard : s.hearing? action with
  | none => simp [heard, completed_nil] at sent
  | some x =>
      obtain ⟨reader, bytes⟩ := x
      by_cases mine : reader = id
      · subst mine
        refine ⟨bytes, rfl, ?_⟩
        simpa [heard, bytesTo_cons] using sent
      · simp [heard, bytesTo_cons, mine, completed_nil] at sent

/-- A line that a run completes is completed by one of its actions, which brings the member its last
bytes. -/
theorem exists_heard_of_completed {s : Session} {past : List UInt8} {actions : List Action}
    {id : Nat} {line : List UInt8} (short : IsShort (past ++ s.stream id actions))
    (sent : line ∈ completed past (s.stream id actions)) :
    ∃ before action after bytes, actions = before ++ action :: after
      ∧ (s.performAll before).hearing? action = some (id, bytes)
      ∧ IsShort (past ++ s.stream id before ++ bytes)
      ∧ line ∈ completed (past ++ s.stream id before) bytes := by
  induction actions generalizing s past with
  | nil => simp [completed_nil] at sent
  | cons action actions ih =>
      rw [stream_cons] at sent short
      rw [completed_append] at sent
      rw [← List.append_assoc] at short
      rcases List.mem_append.mp sent with now | later
      · obtain ⟨bytes, heard, complete⟩ := heard_of_completed now
        have within : IsShort (past ++ bytes) := by
          simpa [heard, bytesTo_cons] using short.of_append
        exact ⟨[], action, actions, bytes, rfl, heard, by simpa using within,
          by simpa using complete⟩
      · obtain ⟨before, last, after, bytes, split, heard, within, complete⟩ := ih short later
        rw [List.append_assoc past, ← stream_cons] at within complete
        exact ⟨action :: before, last, after, bytes, congrArg (action :: ·) split, heard, within,
          complete⟩

/-! ## Sessions under way

`Underway` puts together what the modules before have as invariants of actions, each for its own
part of a session: members and server, members and bytes, pool and machine, and the counts. None of
them needs another one to be kept, but from here on they are used together. -/

/-- What holds of a session whose members have heard some bytes so far. -/
structure Underway (settings : BenchmarkSettings) (history : Nat → List UInt8) (s : Session) :
    Prop where
  wired : Wired settings.poolSize s
  followed : Followed history s.crowd
  joined : Joined s.crowd
  counted : Counted settings.message settings.poolSize s.ledger.tally

theorem underway_start (settings : BenchmarkSettings) (client : Client) (server : Server) :
    Underway settings (fun _ => []) (start settings client server) :=
  ⟨wired_start settings client server, followed_start settings client server,
    joined_start settings client server, BenchmarkLedger.counted_empty _ _⟩

namespace Underway

variable {settings : BenchmarkSettings} {history : Nat → List UInt8} {s : Session}

theorem perform (h : Underway settings history s) (action : Action) :
    Underway settings (fun id => history id ++ bytesTo id (s.hearing? action).toList)
      (s.perform action) := by
  refine ⟨h.wired.perform action, followed_perform h.wired h.followed action,
    (joined_perform h.wired h.joined action).1, ?_⟩
  by_cases ticks : action = .tick
  · subst ticks
    exact h.counted.tick s.now
  · obtain ⟨ops, same⟩ := (change_perform h.wired ticks).1.exists_run h.wired.sound
    have next : (s.perform action).ledger = s.ledger.run ops := same
    rw [next]
    exact h.counted.run ops

theorem performAll (h : Underway settings history s) (actions : List Action) :
    Underway settings (fun id => history id ++ s.stream id actions) (s.performAll actions) := by
  induction actions generalizing s history with
  | nil => simpa using h
  | cons action actions ih =>
      have rest := ih (h.perform action)
      simp only [List.append_assoc] at rest
      simp only [stream_cons]
      exact rest

/-- The members that are still to answer for the pool. -/
theorem known (h : Underway settings history s) {m : Member} (runs : m ∈ s.members) :
    s.ledger.pool.state? m.id = some .pending ∨ s.ledger.pool.state? m.id = some .connected := by
  have bound : m.id < s.ledger.pool.size := by
    have pool : s.ledger.pool.size = settings.poolSize := h.wired.sound.pool
    rw [pool]
    exact h.wired.sound.lt_of_member runs
  have unaborted : s.ledger.pool.state? m.id ≠ some .aborted := h.joined.agreed.unaborted m.id
  have unfailed : s.ledger.pool.state? m.id ≠ some .failed := h.joined.unfailed m runs
  rw [Pool.state?, List.getElem?_eq_getElem bound] at unaborted unfailed ⊢
  cases state : s.ledger.pool.states[m.id] with
  | pending => exact Or.inl rfl
  | connected => exact Or.inr rfl
  | aborted => simp [state] at unaborted
  | failed => simp [state] at unfailed

/-- The ledger receives the events of the lines that are completed. -/
theorem ledger_of_heard (h : Underway settings history s) {action : Action} {id : Nat}
    {bytes : List UInt8} (heard : s.hearing? action = some (id, bytes))
    (short : IsShort (history id ++ bytes)) :
    (∃ m ∈ s.members, m.id = id)
      ∧ (s.perform action).ledger
        = ((completed (history id) bytes).filterMap Event.ofLine?).foldl
          (fun l event => l.receive id event) s.ledger := by
  have ticks : action ≠ .tick := by
    rintro rfl
    cases heard
  have changed := (change_perform h.wired ticks).1
  rw [heard] at changed
  obtain ⟨m, runs, scanner, rfl, reading, next⟩ := changed.of_heard
  have held := h.followed.reading m runs scanner reading short.of_append
  rw [held, Scanner.feed_after short] at next
  exact ⟨⟨m, runs, rfl⟩, next⟩

/-! ## Greetings -/

/-- A member that is sent a greeting is connected. -/
theorem connected_of_completed (h : Underway settings history s) {actions : List Action} {id : Nat}
    (short : IsShort (history id ++ s.stream id actions)) {line : List UInt8}
    (greets : Event.ofLine? line = some .welcome)
    (sent : line ∈ completed (history id) (s.stream id actions)) :
    (s.performAll actions).ledger.pool.state? id = some .connected := by
  obtain ⟨before, action, after, bytes, rfl, heard, within, complete⟩ :=
    exists_heard_of_completed short sent
  have there := h.performAll before
  obtain ⟨⟨m, runs, rfl⟩, next⟩ := there.ledger_of_heard heard within
  have connected := BenchmarkLedger.connected_foldl_receive (there.known runs)
    (List.mem_filterMap.mpr ⟨line, complete, greets⟩)
  rw [← next] at connected
  -- Whoever is connected stays so in what comes after.
  have rest := there.perform action
  rw [performAll_append, performAll_cons]
  exact (joined_performAll rest.wired rest.joined after).2 m.id .connected connected (by simp)

/-- A member is connected only if it was, or if it is sent a greeting. -/
theorem completed_of_connected (h : Underway settings history s) {actions : List Action} {id : Nat}
    (short : IsShort (history id ++ s.stream id actions))
    (connected : (s.performAll actions).ledger.pool.state? id = some .connected) :
    s.ledger.pool.state? id = some .connected
      ∨ ∃ line ∈ completed (history id) (s.stream id actions),
          Event.ofLine? line = some .welcome := by
  induction actions generalizing s history with
  | nil => exact Or.inl connected
  | cons action actions ih =>
      rw [stream_cons] at short ⊢
      rw [completed_append]
      rw [← List.append_assoc] at short
      rcases ih (h.perform action) short connected with now | ⟨line, sent, greets⟩
      · -- It was connected by what it heard with the first action, or it was connected before.
        by_cases heard : ∃ bytes, s.hearing? action = some (id, bytes)
        · obtain ⟨bytes, heard⟩ := heard
          have mine : bytesTo id (s.hearing? action).toList = bytes := by
            simp [heard, bytesTo_cons]
          have within : IsShort (history id ++ bytes) := mine ▸ short.of_append
          obtain ⟨-, next⟩ := h.ledger_of_heard heard within
          rw [next] at now
          rcases BenchmarkLedger.greeted_of_connected now with before | greeted
          · exact Or.inl before
          · obtain ⟨line, complete, greets⟩ := List.mem_filterMap.mp greeted
            exact Or.inr ⟨line, List.mem_append_left _ (mine.symm ▸ complete), greets⟩
        · refine Or.inl ?_
          by_cases ticks : action = .tick
          · subst ticks
            exact now
          · exact h.joined.connected_before (change_perform h.wired ticks).1
              (fun bytes some => heard ⟨bytes, some⟩) now
      · exact Or.inr ⟨line, List.mem_append_right _ sent, greets⟩

/-! ## Payloads

The line of a payload may begin before the tick that publishes its cycle and end after it. What
counts is when it is completed, so the lemma speaks of the lines that the actions since the tick
complete, and the bytes before belong to the history. -/

/-- What stays as it is between two ticks of a run. -/
theorem between (h : Underway settings history s) {actions : List Action}
    (tickless : ∀ action ∈ actions, action ≠ .tick) :
    Crowd.Between s.crowd (s.performAll actions).crowd := by
  induction actions generalizing s history with
  | nil => exact .refl _
  | cons action actions ih =>
      have first := (change_perform h.wired (tickless action List.mem_cons_self)).1.between
      exact first.trans (ih (h.perform action) fun other hother =>
        tickless other (List.mem_cons_of_mem action hother))

/-- Between two ticks, a member that is counted for the current cycle stays so. -/
theorem counted_stays (h : Underway settings history s) {actions : List Action}
    (tickless : ∀ action ∈ actions, action ≠ .tick) {id : Nat}
    (counted : s.ledger.lastCounted[id]? = some s.ledger.machine.cycle) :
    (s.performAll actions).ledger.lastCounted[id]? = some s.ledger.machine.cycle := by
  induction actions generalizing s history with
  | nil => exact counted
  | cons action actions ih =>
      have changed := (change_perform h.wired (tickless action List.mem_cons_self)).1
      have next : (s.perform action).ledger.lastCounted[id]? = some s.ledger.machine.cycle :=
        changed.counted counted
      have same : (s.perform action).ledger.machine.cycle = s.ledger.machine.cycle :=
        changed.between.cycle
      rw [← same] at next ⊢
      exact ih (h.perform action) (fun other hother =>
        tickless other (List.mem_cons_of_mem action hother)) next

/-- **A line that is sent is counted.** While a cycle is waited for, a member is sent the line of a
payload of that cycle; then the member is counted for the cycle, however the line is cut and
whatever else is sent. -/
theorem counted_of_completed (h : Underway settings history s)
    (waits : s.ledger.machine.phase = .waiting) {actions : List Action}
    (tickless : ∀ action ∈ actions, action ≠ .tick) {id : Nat} (bound : id < settings.poolSize)
    (short : IsShort (history id ++ s.stream id actions)) {line : List UInt8} {payload : String}
    (holds : Event.ofLine? line = some (.data payload))
    (read : Cycle.ofPayload? settings.message payload = some s.ledger.machine.cycle)
    (sent : line ∈ completed (history id) (s.stream id actions)) :
    (s.performAll actions).ledger.lastCounted[id]? = some s.ledger.machine.cycle := by
  obtain ⟨before, action, after, bytes, rfl, heard, within, complete⟩ :=
    exists_heard_of_completed short sent
  obtain ⟨earlier, ticks, later⟩ : (∀ other ∈ before, other ≠ .tick) ∧ action ≠ .tick
      ∧ ∀ other ∈ after, other ≠ .tick := by
    simpa [or_imp, forall_and] using tickless
  -- The cycle is waited for up to that action, which counts the member.
  have there := h.performAll before
  have phase : (s.performAll before).ledger.machine.phase = s.ledger.machine.phase :=
    (h.between earlier).phase
  have cycle : (s.performAll before).ledger.machine.cycle = s.ledger.machine.cycle :=
    (h.between earlier).cycle
  rw [← cycle] at read ⊢
  obtain ⟨-, next⟩ := there.ledger_of_heard heard within
  have counted := BenchmarkLedger.lastCounted_foldl_payload there.counted (phase.trans waits)
    ⟨id, bound⟩ read (List.mem_filterMap.mpr ⟨line, complete, holds⟩)
  have same : ((s.performAll before).perform action).ledger.machine.cycle
      = (s.performAll before).ledger.machine.cycle :=
    (change_perform there.wired ticks).1.between.cycle
  dsimp only at counted
  rw [← next, ← same] at counted
  rw [performAll_append, performAll_cons, ← same]
  exact (there.perform action).counted_stays later counted

end Underway

end Session

end Benchmark

end StreamLoad
