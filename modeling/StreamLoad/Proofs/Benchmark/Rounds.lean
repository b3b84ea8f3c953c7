import StreamLoad.Proofs.Benchmark.Heard
import StreamLoad.Proofs.Event.Written

/-! # Rounds of a benchmark

A faithful server sends each member a greeting and, for each cycle that is published, the line of
its payload before the next tick. In a `Round` one tick publishes a cycle, the server sends its
payload, and the next tick finds the cycle delivered. `faithful_run_completes` says that every round
completes its cycle, whatever else is sent, in whatever order and chunks, and whatever becomes of
the requests to publish.

The proof goes from round to round: `Rested` is what holds between two of them, and `Rested.round`
is one round.
-/

set_option autoImplicit false

namespace StreamLoad

/-! ## The line of a payload -/

/-- The payload of a cycle is neither a greeting nor a ping, and its line reads back. -/
theorem Event.ofLine?_written_payload (message : String) (cycle : Nat) :
    ofLine? (written (Cycle.payload message cycle))
      = some (.data (Cycle.payload message cycle)) := by
  have chars : (Cycle.payload message cycle).toList
      = message.toList ++ '-' :: Decimal.digits cycle := by
    simp [Cycle.payload, Decimal.text]
  have last : (Cycle.payload message cycle).toList.getLast? ≠ some '\r' := by
    intro ends
    have digits := List.getLast?_eq_some_getLast (Decimal.digits_ne_nil cycle)
    rw [chars, List.getLast?_append, List.getLast?_cons, digits, Option.some_or] at ends
    have digit : (Decimal.digits cycle).getLast (Decimal.digits_ne_nil cycle) = '\r' := by
      simpa using ends
    have isDigit := Decimal.digits_isDigit (List.getLast_mem (Decimal.digits_ne_nil cycle))
    rw [digit] at isDigit
    exact absurd isDigit (by decide)
  have hyphen : '-' ∈ (Cycle.payload message cycle).toList := by simp [chars]
  have apart {word : String} (plain : '-' ∉ word.toList) : Cycle.payload message cycle ≠ word :=
    fun same => plain (same ▸ hyphen)
  rw [ofLine?_written last, ofPayload, if_neg (apart (by decide)), if_neg (apart (by decide))]

namespace PhaseMachine

variable {m : PhaseMachine}

/-- A tick ends the cycle waited for if it is delivered to all members. -/
theorem tick_of_delivered (waits : m.phase = .waiting) (all : m.poolSize ≤ m.messages) (now : Nat) :
    (m.tick now).machine = m.delivered now := by
  rcases m.tick_cases now with ⟨⟨hp, -⟩ | ⟨-, few⟩, -, -⟩ | ⟨-, done, -⟩ | ⟨due, -, -⟩
  · rw [waits] at hp
    cases hp
  · omega
  · exact done
  · exact absurd waits due.ne_waiting

end PhaseMachine

namespace Benchmark.Session

/-! ## Rounds

A round begins with a tick that publishes and has a second tick when all is delivered. Of a round
`Faithful` asks only that it has no other ticks and that every member is sent the line in time;
requests to publish may be made and answered at any time, also in later rounds. -/

/-- What happens after a tick that publishes a cycle and before the next one, and what happens after
that one. -/
structure Round where
  delivery : List Action
  pause : List Action

/-- The actions of a round, with its two ticks. -/
def Round.actions (r : Round) : List Action := .tick :: (r.delivery ++ .tick :: r.pause)

/-- A run of some rounds. -/
def course (opening : List Action) (rounds : List Round) : List Action :=
  opening ++ rounds.flatMap Round.actions

/-- The server greets every member in the opening, and in each round it sends every member the line
of the payload that is published. -/
structure Faithful (settings : BenchmarkSettings) (client : Client) (server : Server)
    (opening : List Action) (rounds : List Round) : Prop where
  greeted : ∀ id, id < settings.poolSize →
    Greeted ((start settings client server).stream id opening)
  /-- The first round begins with the first tick after all members have been greeted. -/
  early : ∀ i (h : i < opening.length), opening[i].isTick = true →
    ∃ id, id < settings.poolSize
      ∧ ¬ Greeted ((start settings client server).stream id (opening.take i))
  tickless : ∀ r ∈ rounds, (∀ action ∈ r.delivery, action.isTick = false)
    ∧ ∀ action ∈ r.pause, action.isTick = false
  delivered : ∀ i (h : i < rounds.length), ∀ id, id < settings.poolSize →
    Event.written (Cycle.payload settings.message (i + 1))
      ∈ completed ((start settings client server).stream id (course opening (rounds.take i)))
        (((start settings client server).performAll
          (course opening (rounds.take i))).tick.1.stream id rounds[i].delivery)
  /-- Whatever else is sent, no line of a stream is too long. -/
  short : ∀ id, id < settings.poolSize →
    IsShort ((start settings client server).stream id (course opening rounds))

/-- Some cycles are completed, and the next one is due. -/
structure Rested (cycles : Nat) (s : Session) : Prop where
  cycle : s.ledger.machine.cycle = cycles
  completed : s.ledger.machine.cyclesCompleted = cycles
  messages : s.ledger.machine.messages = 0
  due : s.ledger.machine.IsDue
  phase : 1 ≤ cycles → s.ledger.machine.phase = .messaging

section Round

variable {settings : BenchmarkSettings} {history : Nat → List UInt8} {s : Session} {cycles : Nat}

theorem Underway.tick (h : Underway settings history s) : Underway settings history s.tick.1 := by
  have next := h.perform .tick
  simp only [hearing?, Option.toList_none, bytesTo_nil, List.append_nil] at next
  exact next

theorem Underway.poolSize_eq (h : Underway settings history s) :
    s.ledger.machine.poolSize = settings.poolSize :=
  h.counted.poolSize_eq

/-- The tick that a round begins with publishes the next cycle, and it is waited for. -/
theorem Rested.publish (rested : Rested cycles s) (h : Underway settings history s)
    (members : 1 ≤ settings.poolSize) :
    s.tick.1.ledger.machine = s.ledger.machine.published s.now := by
  have size := h.poolSize_eq
  have few : ¬ s.ledger.machine.poolSize ≤ s.ledger.machine.messages := by
    rw [rested.messages, size]
    omega
  have next := (PhaseMachine.tick_of_isDue rested.due s.now).1
  rw [if_neg few] at next
  exact next

/-- Once every member has been sent the line of the payload, all deliveries are counted. -/
theorem Underway.messages_of_sent (h : Underway settings history s)
    (waits : s.ledger.machine.phase = .waiting)
    (within : s.ledger.machine.cycle ≤ Decimal.limit64) {delivery : List Action}
    (tickless : ∀ action ∈ delivery, action ≠ .tick)
    (short : ∀ id, id < settings.poolSize → IsShort (history id ++ s.stream id delivery))
    (sent : ∀ id, id < settings.poolSize →
      Event.written (Cycle.payload settings.message s.ledger.machine.cycle)
        ∈ completed (history id) (s.stream id delivery)) :
    (s.performAll delivery).ledger.machine.messages = settings.poolSize := by
  have between := h.between tickless
  have phase : (s.performAll delivery).ledger.machine.phase = s.ledger.machine.phase :=
    between.phase
  have cycle : (s.performAll delivery).ledger.machine.cycle = s.ledger.machine.cycle :=
    between.cycle
  refine BenchmarkLedger.messages_eq_size (h.performAll delivery).counted (phase.trans waits) ?_
  intro id bound
  rw [cycle]
  exact h.counted_of_completed waits tickless bound (short id bound)
    (Event.ofLine?_written_payload settings.message _) (Cycle.ofPayload?_payload within)
    (sent id bound)

/-- **One round.** The next cycle is published, delivered and completed. -/
theorem Rested.round (rested : Rested cycles s) (h : Underway settings history s)
    (members : 1 ≤ settings.poolSize) (within : cycles + 1 ≤ Decimal.limit64) {r : Round}
    (delivery : ∀ action ∈ r.delivery, action ≠ .tick)
    (pause : ∀ action ∈ r.pause, action ≠ .tick)
    (short : ∀ id, id < settings.poolSize →
      IsShort (history id ++ s.tick.1.stream id r.delivery))
    (sent : ∀ id, id < settings.poolSize →
      Event.written (Cycle.payload settings.message (cycles + 1))
        ∈ StreamLoad.completed (history id) (s.tick.1.stream id r.delivery)) :
    Rested (cycles + 1) (s.performAll r.actions) := by
  have actions : s.performAll r.actions
      = ((s.tick.1.performAll r.delivery).tick.1).performAll r.pause := by
    rw [Round.actions, performAll_cons, performAll_append, performAll_cons]
    rfl
  rw [actions]
  -- The first tick publishes the next cycle.
  have published := rested.publish h members
  have waits : s.tick.1.ledger.machine.phase = .waiting := by rw [published]; rfl
  have cycle : s.tick.1.ledger.machine.cycle = cycles + 1 := by
    rw [published, ← rested.cycle]
    rfl
  have running : s.tick.1.ledger.machine.broadcast.isRunning = true := by rw [published]; rfl
  have count : s.tick.1.ledger.machine.cyclesCompleted = cycles := by
    rw [published, ← rested.completed]
    rfl
  -- The server sends the payload to everybody, so that all deliveries are counted.
  have ticked := h.tick
  have between := ticked.between delivery
  have messages := ticked.messages_of_sent waits (by rw [cycle]; exact within) delivery short
    (by rw [cycle]; exact sent)
  have ready := ticked.performAll r.delivery
  generalize s.tick.1.performAll r.delivery = t at between messages ready ⊢
  have size := ready.poolSize_eq
  have all : t.ledger.machine.poolSize ≤ t.ledger.machine.messages := by omega
  have tWaits : t.ledger.machine.phase = .waiting := between.phase.trans waits
  have tCycle : t.ledger.machine.cycle = cycles + 1 := between.cycle.trans cycle
  have tBroadcast : t.ledger.machine.broadcast = s.tick.1.ledger.machine.broadcast :=
    between.broadcast
  -- The second tick finds the cycle delivered, and nothing in the pause changes that.
  have delivered : t.tick.1.ledger.machine = t.ledger.machine.delivered t.now :=
    PhaseMachine.tick_of_delivered tWaits all t.now
  have after := ready.tick
  have quiet := after.between pause
  have rest := after.performAll r.pause
  generalize t.tick.1.performAll r.pause = u at quiet rest ⊢
  have uPhase : u.ledger.machine.phase = .messaging := by
    refine quiet.phase.trans ?_
    show t.tick.1.ledger.machine.phase = _
    rw [delivered]
    rfl
  have uCompleted : u.ledger.machine.cyclesCompleted = cycles + 1 :=
    calc u.ledger.machine.cyclesCompleted
        = t.tick.1.ledger.machine.cyclesCompleted := congrArg Stopwatch.completed quiet.broadcast
      _ = (t.ledger.machine.broadcast.stop t.now).1.completed := by rw [delivered]; rfl
      _ = t.ledger.machine.broadcast.completed + 1 := by
          rw [Stopwatch.completed_stop, tBroadcast, running]
          rfl
      _ = cycles + 1 := by rw [tBroadcast]; exact congrArg (· + 1) count
  refine ⟨?_, uCompleted, rest.counted.idle ?_, Or.inr uPhase, fun _ => uPhase⟩
  · refine quiet.cycle.trans ?_
    show t.tick.1.ledger.machine.cycle = _
    rw [delivered]
    exact tCycle
  · show u.ledger.machine.phase ≠ .waiting
    rw [uPhase]
    simp

end Round

/-! ## Courses

`Faithful` speaks of the whole course and the induction of its first rounds. That no line is too
long is a property of whole streams, so it has to be shown of what comes early in them
(`short_before`). -/

theorem course_take_succ (opening : List Action) {rounds : List Round} {i : Nat}
    (h : i < rounds.length) :
    course opening (rounds.take (i + 1)) = course opening (rounds.take i) ++ rounds[i].actions := by
  simp only [course, List.take_succ_eq_append_getElem h, List.flatMap_append,
    List.flatMap_singleton, List.append_assoc]

theorem course_take_append (opening : List Action) (rounds : List Round) (i : Nat) :
    course opening rounds
      = course opening (rounds.take i) ++ (rounds.drop i).flatMap Round.actions := by
  rw [course, course, List.append_assoc, ← List.flatMap_append, List.take_append_drop]

namespace Faithful

variable {settings : BenchmarkSettings} {client : Client} {server : Server}
  {opening : List Action} {rounds : List Round}

/-- The part of a stream that comes early is short, too. -/
theorem short_before (faithful : Faithful settings client server opening rounds)
    {before after : List Action} (split : course opening rounds = before ++ after) {id : Nat}
    (bound : id < settings.poolSize) :
    IsShort ((start settings client server).stream id before) := by
  have whole := faithful.short id bound
  rw [split, stream_append] at whole
  exact whole.of_append

/-- Members connect as long as they have not all been greeted. -/
theorem connecting (faithful : Faithful settings client server opening rounds) {i : Nat}
    (within : i ≤ opening.length) :
    ((start settings client server).performAll (opening.take i)).ledger.machine.phase
      = .connecting := by
  induction i with
  | zero => rfl
  | succ i ih =>
      have h : i < opening.length := within
      have phase := ih (Nat.le_of_lt h)
      have underway := (underway_start settings client server).performAll (opening.take i)
      rw [List.take_succ_eq_append_getElem h, performAll_concat]
      by_cases ticks : opening[i].isTick = true
      · -- Somebody has not been greeted, so that the pool is not complete.
        obtain ⟨id, bound, ungreeted⟩ := faithful.early i h ticks
        have tick : opening[i] = .tick := by
          cases action : opening[i] <;> simp [action, Action.isTick] at ticks ⊢
        have split : course opening rounds
            = opening.take i ++ (opening.drop i ++ rounds.flatMap Round.actions) := by
          rw [← List.append_assoc, List.take_append_drop, course]
        have short : IsShort ([] ++ (start settings client server).stream id (opening.take i)) :=
          faithful.short_before split bound
        have unconnected : ((start settings client server).performAll
            (opening.take i)).ledger.pool.state? id ≠ some .connected := by
          intro connected
          rcases (underway_start settings client server).completed_of_connected short connected with
            before | ⟨line, sent, greets⟩
          · cases List.eq_of_mem_replicate (List.mem_of_getElem? before)
          · exact ungreeted ⟨line, sent, greets⟩
        rw [tick]
        generalize (start settings client server).performAll (opening.take i) = s at *
        have agreed : s.ledger.Agreed := underway.joined.agreed
        have pool : s.ledger.pool.size = settings.poolSize := underway.wired.sound.pool
        have few : s.ledger.machine.connected < s.ledger.machine.poolSize := by
          have most : s.ledger.pool.count .connected ≤ s.ledger.pool.size := List.countP_le_length
          have incomplete : s.ledger.pool.count .connected ≠ s.ledger.pool.size := fun complete =>
            unconnected ((s.ledger.pool.count_eq_size_iff .connected).mp complete id (pool ▸ bound))
          have connected := agreed.connected_eq
          have size := agreed.poolSize_eq
          omega
        show (s.ledger.machine.tick s.now).machine.phase = _
        rcases s.ledger.machine.tick_cases s.now with
          ⟨-, same, -⟩ | ⟨⟨waits, -⟩, -, -⟩ | ⟨due, -, -⟩
        · rw [same]
          exact phase
        · rw [phase] at waits
          cases waits
        · rcases due with ⟨-, all⟩ | messaging
          · omega
          · rw [phase] at messaging
            cases messaging
      · have tick : opening[i] ≠ .tick := Action.ne_tick (Bool.not_eq_true _ ▸ ticks)
        exact (change_perform underway.wired tick).1.between.phase.trans phase

/-- After the opening the first cycle is due. -/
theorem rested_opening (faithful : Faithful settings client server opening rounds) :
    Rested 0 ((start settings client server).performAll opening) := by
  have phase := faithful.connecting (Nat.le_refl opening.length)
  rw [List.take_length] at phase
  have connected : ∀ id, id < settings.poolSize →
      ((start settings client server).performAll opening).ledger.pool.state? id
        = some .connected := by
    intro id bound
    obtain ⟨line, sent, greets⟩ := faithful.greeted id bound
    have short : IsShort ([] ++ (start settings client server).stream id opening) :=
      faithful.short_before rfl bound
    exact (underway_start settings client server).connected_of_completed short greets sent
  have underway := (underway_start settings client server).performAll opening
  generalize (start settings client server).performAll opening = s at phase connected underway ⊢
  have agreed : s.ledger.Agreed := underway.joined.agreed
  have pool : s.ledger.pool.size = settings.poolSize := underway.wired.sound.pool
  have complete : s.ledger.pool.count .connected = s.ledger.pool.size :=
    (s.ledger.pool.count_eq_size_iff .connected).mpr (pool.symm ▸ connected)
  have all : s.ledger.machine.poolSize ≤ s.ledger.machine.connected := by
    have count := agreed.connected_eq
    have size := agreed.poolSize_eq
    omega
  obtain ⟨cycle, completed, -⟩ := agreed.connecting phase
  refine ⟨cycle, completed, underway.counted.idle ?_, Or.inl ⟨phase, all⟩, fun some => ?_⟩
  · show s.ledger.machine.phase ≠ .waiting
    rw [phase]
    simp
  · omega

/-- After each round its cycle is completed and the next one is due. -/
theorem rested (faithful : Faithful settings client server opening rounds)
    (members : 1 ≤ settings.poolSize) (numbers : rounds.length ≤ Decimal.limit64) {i : Nat}
    (within : i ≤ rounds.length) :
    Rested i ((start settings client server).performAll (course opening (rounds.take i))) := by
  induction i with
  | zero =>
      have begins : course opening (rounds.take 0) = opening := by simp [course]
      rw [begins]
      exact faithful.rested_opening
  | succ i ih =>
      have h : i < rounds.length := within
      have before := ih (Nat.le_of_lt h)
      have underway := (underway_start settings client server).performAll
        (course opening (rounds.take i))
      obtain ⟨delivery, pause⟩ := faithful.tickless rounds[i] (List.getElem_mem h)
      have sent := faithful.delivered i h
      -- The deliveries of this round come before the tick that ends it.
      have split : course opening rounds
          = (course opening (rounds.take i) ++ .tick :: rounds[i].delivery)
            ++ (.tick :: rounds[i].pause ++ (rounds.drop (i + 1)).flatMap Round.actions) := by
        rw [course_take_append opening rounds (i + 1), course_take_succ opening h, Round.actions]
        simp only [List.append_assoc, List.cons_append]
      have short : ∀ id, id < settings.poolSize →
          IsShort ((start settings client server).stream id (course opening (rounds.take i))
            ++ ((start settings client server).performAll
              (course opening (rounds.take i))).tick.1.stream id rounds[i].delivery) := by
        intro id bound
        have prior := faithful.short_before split bound
        rw [stream_append, stream_cons] at prior
        exact prior
      rw [course_take_succ opening h, performAll_append]
      exact before.round underway members (by omega)
        (fun action hm => Action.ne_tick (delivery action hm))
        (fun action hm => Action.ne_tick (pause action hm)) short sent

end Faithful

/-- **Every faithful run completes its cycles.** The server greets every member in the opening, and
in each round it sends every member the line of the payload that is published, in any order, in any
chunks and among any other lines. Then each round publishes the payload of its cycle and completes
it, whatever becomes of the requests to publish. The tasks that publish are started in the order of
the cycles, and each of them makes its request once it begins to run. Cycles are numbered with
sixty-four bits. -/
theorem faithful_run_completes (settings : BenchmarkSettings) (client : Client) (server : Server)
    (opening : List Action) (rounds : List Round) (members : 1 ≤ settings.poolSize)
    (numbers : rounds.length ≤ Decimal.limit64)
    (faithful : Faithful settings client server opening rounds) :
    let s := (start settings client server).performAll (course opening rounds)
    let payloads := (List.range' 1 rounds.length).map (Cycle.payload settings.message)
    s.ledger.machine.cycle = rounds.length
    ∧ s.ledger.machine.cyclesCompleted = rounds.length
    ∧ s.ledger.machine.messages = 0
    ∧ (1 ≤ rounds.length → s.ledger.machine.phase = .messaging)
    ∧ (start settings client server).published (course opening rounds) = payloads
    ∧ Issued (start settings client server) (course opening rounds) payloads := by
  intro s payloads
  have rested := faithful.rested members numbers (Nat.le_refl rounds.length)
  rw [List.take_length] at rested
  have published : (start settings client server).published (course opening rounds) = payloads := by
    rw [(published_eq settings client server (course opening rounds)).2, rested.cycle]
  have carried := issued (s := start settings client server) rfl (course opening rounds)
  rw [published] at carried
  exact ⟨rested.cycle, rested.completed, rested.messages, rested.phase, published, carried⟩

/-- Two members are greeted, with a tick in between. -/
def greeting : List Action :=
  [.start, .launch 0, .launch 0, .command 0 (.head 200), .command 1 (.head 200),
    .command 0 (.send (Text.utf8 "data: connected\n")), .tick,
    .command 1 (.send (Text.utf8 ": hello\ndata: connected\n"))]

/-- Two rounds: one line comes in two chunks, one line twice, another late. The first request to
publish fails, and the second is made only when its cycle is over. -/
def twoRounds : List Round :=
  [{ delivery :=
      [.launch 0, .command 1 (.send (Text.utf8 "data: m-")),
        .command 0 (.send (Text.utf8 "data: m-1\ndata: m-1\n")),
        .command 1 (.send (Text.utf8 "1\n"))]
     pause := [.command 2 (.head 500)] },
    { delivery :=
      [.command 0 (.send (Text.utf8 "data: m-1\ndata: ping\ndata: m-2\n")),
        .command 1 (.send (Text.utf8 "data: m-2\n"))]
      pause := [.launch 0] }]

/-- Two members before anything has happened. -/
def pair : Session := start { poolSize := 2, message := "m" } { base := "http://a" } {}

theorem faithful_run_completes_pair :
    Faithful { poolSize := 2, message := "m" } { base := "http://a" } {} greeting twoRounds
    ∧ (pair.performAll (course greeting twoRounds)).ledger.machine.cyclesCompleted = 2
    ∧ pair.published (course greeting twoRounds) = ["m-1", "m-2"]
    ∧ pair.begun (course greeting twoRounds) = ["m-1", "m-2"]
    ∧ (pair.performAll (course greeting twoRounds)).server.requests.map Request.line
      = ["GET /events text/event-stream", "GET /events text/event-stream",
        "GET /broadcast/m-1 */*", "GET /broadcast/m-2 */*"]
    ∧ .publishFailed "m-1" (.unexpectedStatus 500)
      ∈ (pair.performAll (course greeting twoRounds)).notices := by
  unfold pair
  have faithful :
      Faithful { poolSize := 2, message := "m" } { base := "http://a" } {} greeting twoRounds :=
    { greeted := by decide +kernel
      early := by decide +kernel
      tickless := by decide +kernel
      delivered := by decide +kernel
      short := by decide +kernel }
  obtain ⟨-, completed, -, -, published, issued⟩ := faithful_run_completes _ _ _ greeting twoRounds
    (by decide) (by decide) faithful
  have payloads : (List.range' 1 twoRounds.length).map (Cycle.payload "m") = ["m-1", "m-2"] := by
    decide +kernel
  have first : ∀ index, .launch index ∈ course greeting twoRounds → index = 0 := by
    intro index launched
    simpa [course, greeting, twoRounds, Round.actions] using launched
  have ordered := issued.ordered first
  have idle : ((start { poolSize := 2, message := "m" } { base := "http://a" } {}).performAll
      (course greeting twoRounds)).unpublished = [] := by decide +kernel
  rw [idle, List.append_nil] at ordered
  exact ⟨faithful, completed, published.trans payloads, ordered.trans payloads, by decide +kernel,
    by decide +kernel⟩

end Benchmark.Session

end StreamLoad
