import StreamLoad.Proofs.Benchmark.Delivery
import StreamLoad.Proofs.Benchmark.Publishing
import StreamLoad.Proofs.Benchmark.Streams
import StreamLoad.Proofs.Lists

/-! # Between two ticks the order does not matter

Between two ticks members receive bytes, in chunks that end anywhere, and the chunks of the members
come in any order. Neither has any effect: the session afterwards is the same as long as each member
has received the same bytes and no line of its stream is too long (`chunks_confluent`).

Two facts carry the proof. What two members receive may come in either order (`hear_comm`), which
goes back to the ledger: a member moves its own state in the pool and its own cycle, and adds to
counts that all share. And a chunk of a short stream may be cut (`hear_append`). So chunks are cut
down to single bytes, and then the order of the members is all in which two schedules differ.
-/

set_option autoImplicit false

namespace StreamLoad.BenchmarkLedger

/-! ## Events of different members

Two events of different members may come in either order. Each may be counted for its own member,
and both may be counted of the same cycle, as a delivery changes the count but not the cycle; a
tick, which would end the cycle, is no event. -/

theorem message_deliver (l : BenchmarkLedger) (id cycle : Nat) :
    (l.deliver id cycle).message = l.message := by
  rw [deliver_eq]
  split <;> rfl

theorem welcome_comm (l : BenchmarkLedger) {i j : Nat} (apart : i ≠ j) :
    (l.welcome i).welcome j = (l.welcome j).welcome i := by
  by_cases hi : l.pool.states[i]? = some .pending <;>
    by_cases hj : l.pool.states[j]? = some .pending <;>
      simp [welcome_eq, Pool.state?, PhaseMachine.recordConnected, hi, hj,
        List.getElem?_set_ne apart, List.getElem?_set_ne apart.symm, List.set_comm _ _ apart]

/-- Whether a payload of a cycle counts for a member. -/
def IsDue (l : BenchmarkLedger) (id cycle : Nat) : Prop :=
  l.machine.phase = .waiting ∧ l.lastCounted.getD id 0 < cycle ∧ cycle = l.machine.cycle

theorem deliver_of_isDue {l : BenchmarkLedger} {id cycle : Nat} (due : l.IsDue id cycle) :
    l.deliver id cycle =
      { l with
        machine := { l.machine with messages := l.machine.messages + 1 }
        lastCounted := l.lastCounted.set id cycle } :=
  (deliver_eq l id cycle).trans (if_pos due)

theorem deliver_of_not_isDue {l : BenchmarkLedger} {id cycle : Nat} (other : ¬ l.IsDue id cycle) :
    l.deliver id cycle = l :=
  (deliver_eq l id cycle).trans (if_neg other)

/-- A greeting has no effect on deliveries, nor they on it. -/
theorem deliver_welcome (l : BenchmarkLedger) (i j cycle : Nat) :
    (l.welcome i).deliver j cycle = (l.deliver j cycle).welcome i := by
  have same : (l.welcome i).IsDue j cycle ↔ l.IsDue j cycle := by
    rw [welcome_eq]
    split <;> exact Iff.rfl
  by_cases due : l.IsDue j cycle
  · rw [deliver_of_isDue (same.mpr due), deliver_of_isDue due, welcome_eq, welcome_eq]
    dsimp only
    split <;> rfl
  · rw [deliver_of_not_isDue due, deliver_of_not_isDue (mt same.mp due)]

/-- Only the member itself is counted for a delivery. -/
theorem isDue_deliver_iff (l : BenchmarkLedger) {i j : Nat} (apart : i ≠ j) (c d : Nat) :
    (l.deliver i c).IsDue j d ↔ l.IsDue j d := by
  rw [deliver_eq]
  split
  · simp [IsDue, List.getD_eq_getElem?_getD, List.getElem?_set_ne apart]
  · exact Iff.rfl

theorem deliver_comm (l : BenchmarkLedger) {i j : Nat} (apart : i ≠ j) (c d : Nat) :
    (l.deliver i c).deliver j d = (l.deliver j d).deliver i c := by
  have second := isDue_deliver_iff l apart c d
  have first := isDue_deliver_iff l apart.symm d c
  by_cases hi : l.IsDue i c
  · by_cases hj : l.IsDue j d
    · rw [deliver_of_isDue (second.mpr hj), deliver_of_isDue hi, deliver_of_isDue (first.mpr hi),
        deliver_of_isDue hj]
      simp [List.set_comm _ _ apart]
    · rw [deliver_of_not_isDue (mt second.mp hj), deliver_of_not_isDue hj]
  · rw [deliver_of_not_isDue hi, deliver_of_not_isDue (mt first.mp hi)]

/-- What two members receive may come in either order. -/
theorem receive_comm (l : BenchmarkLedger) {i j : Nat} (apart : i ≠ j) (event other : Event) :
    (l.receive i event).receive j other = (l.receive j other).receive i event := by
  have greeted (id : Nat) : (l.welcome id).message = l.message :=
    congrArg Tally.message (tally_welcome l id)
  -- A ping does nothing, and neither does a payload that names no cycle.
  cases event with
  | ping => rfl
  | welcome =>
      cases other with
      | ping => rfl
      | welcome => exact welcome_comm l apart
      | data payload =>
          simp only [receive, greeted]
          cases Cycle.ofPayload? l.message payload with
          | none => rfl
          | some cycle => exact deliver_welcome l i j cycle
  | data payload =>
      cases other with
      | ping => rfl
      | welcome =>
          simp only [receive, greeted]
          cases Cycle.ofPayload? l.message payload with
          | none => rfl
          | some cycle => exact (deliver_welcome l j i cycle).symm
      | data second =>
          simp only [receive]
          cases first : Cycle.ofPayload? l.message payload with
          | none =>
              cases Cycle.ofPayload? l.message second <;> simp [first, message_deliver]
          | some c =>
              cases later : Cycle.ofPayload? l.message second with
              | none => simp [first, later, message_deliver]
              | some d => simp [first, later, message_deliver, deliver_comm l apart]

theorem receive_foldl_comm (l : BenchmarkLedger) {i j : Nat} (apart : i ≠ j) (event : Event)
    (events : List Event) :
    events.foldl (fun l event => l.receive j event) (l.receive i event)
      = (events.foldl (fun l event => l.receive j event) l).receive i event := by
  induction events generalizing l with
  | nil => rfl
  | cons other events ih =>
      rw [List.foldl_cons, List.foldl_cons, receive_comm l apart, ih]

theorem foldl_receive_comm (l : BenchmarkLedger) {i j : Nat} (apart : i ≠ j)
    (events others : List Event) :
    others.foldl (fun l event => l.receive j event)
        (events.foldl (fun l event => l.receive i event) l)
      = events.foldl (fun l event => l.receive i event)
        (others.foldl (fun l event => l.receive j event) l) := by
  induction events generalizing l with
  | nil => rfl
  | cons event events ih =>
      rw [List.foldl_cons, List.foldl_cons, ih, receive_foldl_comm l apart]

end StreamLoad.BenchmarkLedger

namespace StreamLoad.Benchmark

/-! ## What members do with bytes -/

namespace Member

/-- A member after it has read some bytes of its stream, and the events found in them. -/
def hear (m : Member) (bytes : List UInt8) : Member × List Event :=
  match m.subscription with
  | .asked => (m, [])
  | .reading reader =>
      ({ m with subscription := .reading { scanner := (reader.scanner.feed bytes).1 } },
        (reader.scanner.feed bytes).2)

/-- A member has read all that it was brought, and its stream stays short with some more bytes. -/
def Takes (m : Member) (bytes : List UInt8) : Prop :=
  ∀ reader, m.subscription = .reading reader →
    ∃ past, reader = { scanner := Scanner.after past } ∧ IsShort (past ++ bytes)

variable {m : Member} {bytes more : List UInt8}

@[simp] theorem id_hear (m : Member) (bytes : List UInt8) : (m.hear bytes).1.id = m.id := by
  unfold hear
  split <;> rfl

theorem hear_of_asked (asked : m.subscription = .asked) : m.hear bytes = (m, []) := by
  simp only [hear, asked]

theorem hear_of_reading {past : List UInt8}
    (reading : m.subscription = .reading { scanner := Scanner.after past })
    (short : IsShort (past ++ bytes)) :
    m.hear bytes
      = ({ m with subscription := .reading { scanner := Scanner.after (past ++ bytes) } },
        (completed past bytes).filterMap Event.ofLine?) := by
  simp only [hear, reading, Scanner.feed_after short]

theorem takes_of_asked (asked : m.subscription = .asked) : m.Takes bytes := by
  intro reader reading
  rw [asked] at reading
  cases reading

/-- A member that takes bytes waits for its answer, or has read a stream that stays short. -/
theorem Takes.cases (h : m.Takes bytes) :
    m.subscription = .asked
      ∨ ∃ past, m.subscription = .reading { scanner := Scanner.after past }
        ∧ IsShort (past ++ bytes) := by
  cases subscription : m.subscription with
  | asked => exact Or.inl rfl
  | reading reader =>
      obtain ⟨past, rfl, short⟩ := h reader subscription
      exact Or.inr ⟨past, rfl, short⟩

theorem Takes.of_append (h : m.Takes (bytes ++ more)) : m.Takes bytes := by
  intro reader reading
  obtain ⟨past, same, short⟩ := h reader reading
  rw [← List.append_assoc] at short
  exact ⟨past, same, short.of_append⟩

/-- What a member takes, it may take in two parts. -/
theorem Takes.hear (h : m.Takes (bytes ++ more)) : (m.hear bytes).1.Takes more := by
  rcases h.cases with asked | ⟨past, reading, short⟩
  · rw [hear_of_asked asked]
    exact takes_of_asked asked
  · rw [← List.append_assoc] at short
    rw [hear_of_reading reading short.of_append]
    intro reader same
    obtain rfl : ({ scanner := Scanner.after (past ++ bytes) } : Reader) = reader := by
      simpa using same
    exact ⟨past ++ bytes, rfl, short⟩

theorem hear_append (h : m.Takes (bytes ++ more)) :
    m.hear (bytes ++ more)
      = (((m.hear bytes).1.hear more).1, (m.hear bytes).2 ++ ((m.hear bytes).1.hear more).2) := by
  rcases h.cases with asked | ⟨past, reading, short⟩
  · simp only [hear_of_asked asked, List.append_nil]
  · have whole := hear_of_reading reading short
    rw [← List.append_assoc] at short
    rw [whole, hear_of_reading reading short.of_append, hear_of_reading rfl short]
    simp only [List.append_assoc, completed_append, List.filterMap_append]

theorem hear_nil (h : m.Takes bytes) : m.hear [] = (m, []) := by
  rcases h.cases with asked | ⟨past, reading, short⟩
  · exact hear_of_asked asked
  · have empty : IsShort (past ++ []) := by simpa using short.of_append
    rw [hear_of_reading reading empty, List.append_nil, completed_nil, ← reading]
    rfl

end Member

/-- Members of which one has read some bytes. -/
def hearAll (members : List Member) (x : Nat × List UInt8) : List Member :=
  members.map fun m => if m.id = x.1 then (m.hear x.2).1 else m

/-- The events that a member finds in some bytes. -/
def eventsFor (members : List Member) (x : Nat × List UInt8) : List Event :=
  match members.find? (·.id = x.1) with
  | some m => (m.hear x.2).2
  | none => []

theorem map_id_hearAll (members : List Member) (x : Nat × List UInt8) :
    (hearAll members x).map (·.id) = members.map (·.id) := by
  rw [hearAll, List.map_map]
  refine List.map_congr_left fun m _ => ?_
  simp only [Function.comp_apply]
  split <;> simp

theorem mem_hearAll {members : List Member} {x : Nat × List UInt8} {m : Member}
    (hm : m ∈ hearAll members x) :
    (m ∈ members ∧ m.id ≠ x.1) ∨ ∃ old ∈ members, old.id = x.1 ∧ m = (old.hear x.2).1 := by
  obtain ⟨old, hold, rfl⟩ := List.mem_map.mp hm
  split
  · exact Or.inr ⟨old, hold, ‹_›, rfl⟩
  · exact Or.inl ⟨hold, ‹_›⟩

theorem hearAll_comm (members : List Member) {x y : Nat × List UInt8} (apart : x.1 ≠ y.1) :
    hearAll (hearAll members x) y = hearAll (hearAll members y) x := by
  rw [hearAll, hearAll, hearAll, hearAll, List.map_map, List.map_map]
  refine List.map_congr_left fun m _ => ?_
  by_cases hx : m.id = x.1
  · simp [hx, apart]
  · by_cases hy : m.id = y.1
    · simp [hy, apart.symm]
    · simp [hx, hy]

/-- The member of a number is found as before, and may have read. -/
theorem find?_hearAll (members : List Member) (x : Nat × List UInt8) (id : Nat) :
    (hearAll members x).find? (·.id = id)
      = (members.find? (·.id = id)).map fun m => if m.id = x.1 then (m.hear x.2).1 else m := by
  have blind : ((fun m : Member => decide (m.id = id)) ∘ fun m =>
      if m.id = x.1 then (m.hear x.2).1 else m) = fun m => decide (m.id = id) := by
    funext m
    rw [Function.comp_apply]
    split <;> simp
  rw [hearAll, List.find?_map, blind]

/-- What one member finds does not depend on what another has read. -/
theorem eventsFor_hearAll (members : List Member) {x y : Nat × List UInt8} (apart : x.1 ≠ y.1) :
    eventsFor (hearAll members x) y = eventsFor members y := by
  rw [eventsFor, eventsFor, find?_hearAll]
  cases found : members.find? (·.id = y.1) with
  | none => rfl
  | some m =>
      have hm : m.id = y.1 := by simpa using List.find?_some found
      have other : m.id ≠ x.1 := fun same => apart (same.symm.trans hm)
      simp [other]

/-- What the member itself finds next depends on what it has read. -/
theorem eventsFor_hearAll_self (members : List Member) (id : Nat) (bytes more : List UInt8) :
    eventsFor (hearAll members (id, bytes)) (id, more)
      = match members.find? (·.id = id) with
        | some m => ((m.hear bytes).1.hear more).2
        | none => [] := by
  rw [eventsFor, find?_hearAll]
  cases found : members.find? (·.id = id) with
  | none => rfl
  | some m =>
      have hm : m.id = id := by simpa using List.find?_some found
      simp [hm]

namespace Session

open BenchmarkLedger (foldl_receive_comm)

variable {size : Nat} {s : Session}

/-- A member reads some bytes of its stream. -/
def hear (s : Session) (x : Nat × List UInt8) : Session :=
  { s with
    members := hearAll s.members x
    ledger := (eventsFor s.members x).foldl (fun l event => l.receive x.1 event) s.ledger }

/-- **Two members may read in either order.** -/
theorem hear_comm (s : Session) {x y : Nat × List UInt8} (apart : x.1 ≠ y.1) :
    (s.hear x).hear y = (s.hear y).hear x := by
  simp only [hear]
  rw [hearAll_comm s.members apart, eventsFor_hearAll s.members apart,
    eventsFor_hearAll s.members apart.symm, foldl_receive_comm s.ledger apart]

/-- A member may read what it takes in two parts. -/
theorem hear_append {id : Nat} {bytes more : List UInt8}
    (takes : ∀ m ∈ s.members, m.id = id → m.Takes (bytes ++ more)) :
    s.hear (id, bytes ++ more) = (s.hear (id, bytes)).hear (id, more) := by
  have members : hearAll s.members (id, bytes ++ more)
      = hearAll (hearAll s.members (id, bytes)) (id, more) := by
    rw [hearAll, hearAll, hearAll, List.map_map]
    refine List.map_congr_left fun m hm => ?_
    by_cases mine : m.id = id
    · simp [mine, Member.hear_append (takes m hm mine)]
    · simp [mine]
  have events : eventsFor s.members (id, bytes ++ more)
      = eventsFor s.members (id, bytes)
        ++ eventsFor (hearAll s.members (id, bytes)) (id, more) := by
    rw [eventsFor_hearAll_self, eventsFor, eventsFor]
    dsimp only
    cases found : s.members.find? (·.id = id) with
    | none => rfl
    | some m =>
        have mine : m.id = id := by simpa using List.find?_some found
        simp only [Member.hear_append (takes m (List.mem_of_find?_eq_some found) mine)]
  simp only [hear]
  rw [members, events, List.foldl_append]

theorem hear_nil {id : Nat} {bytes : List UInt8}
    (takes : ∀ m ∈ s.members, m.id = id → m.Takes bytes) : s.hear (id, []) = s := by
  have members : hearAll s.members (id, []) = s.members := by
    refine (List.map_congr_left fun m hm => ?_).trans s.members.map_id
    by_cases mine : m.id = id
    · simp [mine, Member.hear_nil (takes m hm mine)]
    · simp [mine]
  have events : eventsFor s.members (id, []) = [] := by
    rw [eventsFor]
    cases found : s.members.find? (·.id = id) with
    | none => rfl
    | some m =>
        have mine : m.id = id := by simpa using List.find?_some found
        simp only [Member.hear_nil (takes m (List.mem_of_find?_eq_some found) mine)]
  simp only [hear]
  rw [members, events]
  rfl

/-! ## Byte by byte

Two cuttings of the same bytes are compared by going to a third one, in which every byte is a chunk
of its own. A chunk has the effect of its bytes, so both come to the same as these, and in bytes the
two schedules differ only in the order among different members. -/

/-- What members hear, cut into single bytes. -/
def letters (heard : List (Nat × List UInt8)) : List (Nat × List UInt8) :=
  heard.flatMap fun x => x.2.map fun b => (x.1, [b])

/-- The single bytes of a member are those of its stream. -/
theorem filter_letters (heard : List (Nat × List UInt8)) (id : Nat) :
    (letters heard).filter (·.1 = id) = (bytesTo id heard).map fun b => (id, [b]) := by
  induction heard with
  | nil => rfl
  | cons x heard ih =>
      rw [letters, List.flatMap_cons, List.filter_append, bytesTo_cons, List.map_append]
      refine congrArg₂ (· ++ ·) ?_ ih
      by_cases mine : x.1 = id
      · simp [mine, List.filter_map, Function.comp_def]
      · simp [mine, List.filter_map, Function.comp_def]

/-- A chunk has the effect of its bytes, one after another. -/
theorem foldl_hear_singles {id : Nat} {bytes : List UInt8}
    (takes : ∀ m ∈ s.members, m.id = id → m.Takes bytes) :
    (bytes.map fun b => (id, [b])).foldl hear s = s.hear (id, bytes) := by
  induction bytes generalizing s with
  | nil => exact (hear_nil takes).symm
  | cons b bytes ih =>
      have parts : ∀ m ∈ s.members, m.id = id → m.Takes ([b] ++ bytes) := takes
      show (bytes.map fun b => (id, [b])).foldl hear (s.hear (id, [b])) = s.hear (id, [b] ++ bytes)
      rw [hear_append parts]
      refine ih fun m hm mine => ?_
      rcases mem_hearAll hm with ⟨-, other⟩ | ⟨old, hold, same, rfl⟩
      · exact absurd mine other
      · exact (parts old hold same).hear

/-- Members take what they are still to hear. -/
def Ready (s : Session) (heard : List (Nat × List UInt8)) : Prop :=
  ∀ m ∈ s.members, m.Takes (bytesTo m.id heard)

theorem Ready.hear {x : Nat × List UInt8} {heard : List (Nat × List UInt8)}
    (ready : s.Ready (x :: heard)) : (s.hear x).Ready heard := by
  intro m hm
  rcases mem_hearAll hm with ⟨old, other⟩ | ⟨old, hold, same, rfl⟩
  · have takes := ready m old
    rwa [bytesTo_cons, if_neg other.symm, List.nil_append] at takes
  · have takes := ready old hold
    rw [bytesTo_cons, if_pos same.symm] at takes
    rw [Member.id_hear]
    exact takes.hear

theorem foldl_hear_letters {heard : List (Nat × List UInt8)} (ready : s.Ready heard) :
    (letters heard).foldl hear s = heard.foldl hear s := by
  induction heard generalizing s with
  | nil => rfl
  | cons x heard ih =>
      have takes : ∀ m ∈ s.members, m.id = x.1 → m.Takes x.2 := by
        intro m hm mine
        have whole := ready m hm
        rw [bytesTo_cons, if_pos mine.symm] at whole
        exact whole.of_append
      rw [letters, List.flatMap_cons, List.foldl_append, foldl_hear_singles takes,
        List.foldl_cons]
      exact ih ready.hear

/-- Members that hear the same bytes are the same afterwards, whatever order and chunks the bytes
come in. -/
theorem foldl_hear_eq {heard others : List (Nat × List UInt8)} (ready : s.Ready heard)
    (same : ∀ id, bytesTo id heard = bytesTo id others) :
    heard.foldl hear s = others.foldl hear s := by
  have ready' : s.Ready others := fun m hm => same m.id ▸ ready m hm
  rw [← foldl_hear_letters ready, ← foldl_hear_letters ready']
  refine foldl_eq_of_filter_eq (fun s x y apart => hear_comm s apart) (fun id => ?_) s
  rw [filter_letters, filter_letters, same]

/-! ## Schedules -/

/-- The server sends chunks on its exchanges, one after another. -/
def sends (schedule : List (Nat × List UInt8)) : List Action :=
  schedule.map fun x => .command x.1 (.send x.2)

/-- What a chunk brings, it brings the member of the exchange, whose stream is open. -/
theorem hearing?_send_eq_some {number : Nat} {bytes : List UInt8} {x : Nat × List UInt8}
    (heard : s.hearing? (.command number (.send bytes)) = some x) :
    bytes ≠ [] ∧ ∃ m ∈ s.members, m.exchange = number ∧ isReading m = true ∧ x = (m.id, bytes) := by
  cases bytes with
  | nil => cases heard
  | cons b bytes =>
      simp only [hearing?, Option.bind_eq_some_iff] at heard
      obtain ⟨m, found, reads⟩ := heard
      have mine : m.exchange = number := by simpa using List.find?_some found
      by_cases reading : isReading m = true
      · rw [if_pos reading] at reads
        exact ⟨by simp, m, List.mem_of_find?_eq_some found, mine, reading,
          (Option.some.inj reads).symm⟩
      · rw [if_neg reading] at reads
        cases reads

/-- A chunk that no member hears has no effect. -/
theorem command_send_of_unheard (wired : Wired size s) {number : Nat} {bytes : List UInt8}
    (unheard : s.hearing? (.command number (.send bytes)) = none) :
    s.command number (.send bytes) = s := by
  have server := Server.act_send s.server number bytes
  rcases acted : s.server.act number (.send bytes) with ⟨next, _ | arrival⟩
  · rw [acted] at server
    simp only [command, acted]
    rw [show next = s.server from server]
  · rw [acted] at server
    obtain rfl : next = s.server := server
    obtain ⟨nonempty, rfl, e, found, streaming⟩ := Server.act_send_eq_some
      (congrArg Prod.snd acted)
    have nobody : s.members.find? (·.exchange = number) = none := by
      cases mine : s.members.find? (·.exchange = number) with
      | none => rfl
      | some m =>
          -- The stream of a member is open at the server exactly if it is open for the member.
          have runs := List.mem_of_find?_eq_some mine
          have same : m.exchange = number := by simpa using List.find?_some mine
          obtain ⟨e', found', attends⟩ := wired.attended.attends m runs
          rw [same, found] at found'
          cases found'
          rcases attends with ⟨-, waiting⟩ | ⟨scanner, reading, -⟩
          · rw [streaming] at waiting
            cases waiting
          · obtain ⟨b, rest, rfl⟩ := List.exists_cons_of_ne_nil nonempty
            simp [hearing?, mine, isReading, reading] at unheard
    simp only [command, acted, nobody]
    split <;> rfl

/-- A chunk of the stream of a member is read by the member, and that is all. -/
theorem command_send_of_heard (wired : Wired size s) {number : Nat} {bytes : List UInt8}
    {x : Nat × List UInt8} (heard : s.hearing? (.command number (.send bytes)) = some x) :
    s.command number (.send bytes) = s.hear x := by
  obtain ⟨nonempty, m, runs, rfl, reading, rfl⟩ := hearing?_send_eq_some heard
  obtain ⟨b, rest, rfl⟩ := List.exists_cons_of_ne_nil nonempty
  obtain ⟨e, found, attends⟩ := wired.attended.attends m runs
  obtain ⟨scanner, subscribed, streaming⟩ :
      ∃ scanner : Scanner, m.subscription = .reading { scanner := scanner }
        ∧ e.state = .streaming := by
    rcases attends with ⟨asked, -⟩ | open'
    · simp [isReading, asked] at reading
    · exact open'
  have server := Server.act_send s.server m.exchange (b :: rest)
  have acted := Server.act_of_found found (.send (b :: rest))
  rw [streaming] at acted
  rw [acted] at server
  have read := seekEvents_chunk m.request scanner (b :: rest)
  rw [← subscribed] at read
  have ids : (s.members.map (·.id)).Nodup := wired.sound.nodup_ids
  have first := find?_of_nodup_map ids runs
  -- Members have different numbers, so only this one reads on.
  have members : setSubscription s.members m.id
      (.reading { scanner := (scanner.feed (b :: rest)).1 })
        = hearAll s.members (m.id, b :: rest) := by
    refine List.map_congr_left fun other hother => ?_
    by_cases same : other.id = m.id
    · obtain rfl := List.inj_on_of_nodup_map ids hother runs same
      simp [Member.hear, subscribed]
    · simp [same]
  have events : eventsFor s.members (m.id, b :: rest) = (scanner.feed (b :: rest)).2 := by
    simp only [eventsFor, first, Member.hear, subscribed]
  rw [command_of_member wired.attended runs acted, memberArrival_of_read read, hear, members,
    events]
  exact congrArg (fun server => ({ s with server := server, members := _, ledger := _ } : Session))
    server

/-- A schedule has the effect of what the members hear of it. -/
theorem performAll_sends (wired : Wired size s) (schedule : List (Nat × List UInt8)) :
    s.performAll (sends schedule) = (s.heard (sends schedule)).foldl hear s := by
  induction schedule generalizing s with
  | nil => rfl
  | cons x schedule ih =>
      have rest := ih (wired.perform (.command x.1 (.send x.2)))
      show (s.perform (.command x.1 (.send x.2))).performAll (sends schedule)
        = ((s.hearing? (.command x.1 (.send x.2))).toList
            ++ (s.perform (.command x.1 (.send x.2))).heard (sends schedule)).foldl hear s
      rw [rest, List.foldl_append]
      congr 1
      cases heard : s.hearing? (.command x.1 (.send x.2)) with
      | none => exact command_send_of_unheard wired heard
      | some y => exact command_send_of_heard wired heard

/-- Whoever hears something of a schedule is a member already. -/
theorem mem_of_heard_sends (wired : Wired size s) {schedule : List (Nat × List UInt8)}
    {x : Nat × List UInt8} (heard : x ∈ s.heard (sends schedule)) :
    ∃ m ∈ s.members, m.id = x.1 := by
  induction schedule generalizing s with
  | nil => cases heard
  | cons y schedule ih =>
      have either : x ∈ (s.hearing? (.command y.1 (.send y.2))).toList
          ++ (s.perform (.command y.1 (.send y.2))).heard (sends schedule) := heard
      rcases List.mem_append.mp either with now | later
      · have first := Option.mem_toList.mp now
        obtain ⟨-, m, runs, -, -, rfl⟩ := hearing?_send_eq_some first
        exact ⟨m, runs, rfl⟩
      · obtain ⟨m, runs, mine⟩ := ih (wired.perform _) later
        -- Chunks make nobody a member.
        have ids : (s.perform (.command y.1 (.send y.2))).members.map (·.id)
            = s.members.map (·.id) := by
          show (s.command y.1 (.send y.2)).members.map (·.id) = _
          cases first : s.hearing? (.command y.1 (.send y.2)) with
          | none => rw [command_send_of_unheard wired first]
          | some z =>
              rw [command_send_of_heard wired first]
              exact map_id_hearAll s.members z
        have known : m.id ∈ s.members.map (·.id) := ids ▸ List.mem_map_of_mem runs
        obtain ⟨old, hold, same⟩ := List.mem_map.mp known
        exact ⟨old, hold, same.trans mine⟩

/-- A schedule publishes nothing. -/
theorem published_sends (s : Session) (schedule : List (Nat × List UInt8)) :
    s.published (sends schedule) = [] := by
  induction schedule generalizing s with
  | nil => rfl
  | cons x schedule ih =>
      show s.published (.command x.1 (.send x.2) :: sends schedule) = []
      rw [published_cons, queued_of_ne_tick Action.noConfusion, ih, List.append_nil]

/-- After any run, members are ready for what they are to hear if their streams stay short. -/
theorem ready_performAll (settings : BenchmarkSettings) (client : Client) (server : Server)
    (before : List Action) {heard : List (Nat × List UInt8)}
    (short : ∀ m ∈ ((start settings client server).performAll before).members,
      IsShort ((start settings client server).stream m.id before ++ bytesTo m.id heard)) :
    ((start settings client server).performAll before).Ready heard := by
  have wired := (wired_start settings client server).performAll before
  have followed := followed_performAll settings client server before
  intro m runs reader reading
  obtain ⟨e, -, ⟨asked, -⟩ | ⟨scanner, same, -⟩⟩ := wired.attended.attends m runs
  · rw [asked] at reading
    cases reading
  · obtain rfl : ({ scanner := scanner } : Reader) = reader := by simpa [same] using reading
    have within := short m runs
    have held := followed.reading m runs scanner same within.of_append
    exact ⟨_, by rw [held], within⟩

/-- **Between two ticks the order does not matter.** After any run, the server sends chunks in one
schedule or in another. If both bring each member the same bytes, and no line of the whole stream of
a member exceeds the limit, the session is the same afterwards: phase, counts, clocks, pool, cycles
and what is held of the streams. So all that is published later is the same as well. -/
theorem chunks_confluent (settings : BenchmarkSettings) (client : Client) (server : Server)
    (before : List Action) (one other : List (Nat × List UInt8))
    (same : ∀ m ∈ ((start settings client server).performAll before).members,
      ((start settings client server).performAll before).stream m.id (sends one)
        = ((start settings client server).performAll before).stream m.id (sends other))
    (short : ∀ m ∈ ((start settings client server).performAll before).members,
      IsShort ((start settings client server).stream m.id (before ++ sends one))) :
    (start settings client server).performAll (before ++ sends one)
        = (start settings client server).performAll (before ++ sends other)
      ∧ ∀ later,
        (start settings client server).published (before ++ sends one ++ later)
          = (start settings client server).published (before ++ sends other ++ later) := by
  have wired := (wired_start settings client server).performAll before
  have ready : ((start settings client server).performAll before).Ready
      (((start settings client server).performAll before).heard (sends one)) := by
    refine ready_performAll settings client server before fun m runs => ?_
    have whole := short m runs
    rwa [stream_append] at whole
  have both : ∀ id,
      bytesTo id (((start settings client server).performAll before).heard (sends one))
        = bytesTo id (((start settings client server).performAll before).heard (sends other)) := by
    intro id
    by_cases runs : ∃ m ∈ ((start settings client server).performAll before).members, m.id = id
    · obtain ⟨m, hm, rfl⟩ := runs
      exact same m hm
    · -- Who is no member hears nothing of either.
      have none (schedule : List (Nat × List UInt8)) :
          bytesTo id (((start settings client server).performAll before).heard
            (sends schedule)) = [] := by
        refine bytesTo_of_not_mem fun x hx mine => ?_
        obtain ⟨m, hm, known⟩ := mem_of_heard_sends wired hx
        exact runs ⟨m, hm, known.trans mine⟩
      rw [none, none]
  have agree : (start settings client server).performAll (before ++ sends one)
      = (start settings client server).performAll (before ++ sends other) := by
    rw [performAll_append, performAll_append, performAll_sends wired, performAll_sends wired]
    exact foldl_hear_eq ready both
  refine ⟨agree, fun later => ?_⟩
  have apart (schedule : List (Nat × List UInt8)) :
      (start settings client server).published (before ++ sends schedule ++ later)
        = (start settings client server).published before
          ++ ((start settings client server).performAll (before ++ sends schedule)).published
            later := by
    have none := published_sends ((start settings client server).performAll before) schedule
    rw [published_append, published_append, none, List.append_nil]
  rw [apart, apart, agree]

/-- Two members whose streams are open. -/
def opening : List Action :=
  [.start, .launch 0, .launch 0, .command 0 (.head 200), .command 1 (.head 200)]

/-- Chunks of the two members in turns. -/
def inTurns : List (Nat × List UInt8) :=
  [(0, Text.utf8 "data: conn"), (1, Text.utf8 "data: connected\n"),
    (0, Text.utf8 "ected\ndata: pi")]

/-- The same bytes, one member after the other. -/
def oneByOne : List (Nat × List UInt8) :=
  [(1, Text.utf8 "data: con"), (1, Text.utf8 "nected\n"),
    (0, Text.utf8 "data: connected\ndata: pi")]

theorem chunks_confluent_pair :
    ((start { poolSize := 2 } { base := "http://a" } {}).performAll
        (opening ++ sends inTurns)).ledger.machine.connected = 2
      ∧ (start { poolSize := 2 } { base := "http://a" } {}).performAll (opening ++ sends inTurns)
        = (start { poolSize := 2 } { base := "http://a" } {}).performAll
          (opening ++ sends oneByOne) :=
  ⟨by decide +kernel,
    (chunks_confluent { poolSize := 2 } { base := "http://a" } {} opening inTurns oneByOne
      (by decide +kernel) (by decide +kernel)).1⟩

end Session

end StreamLoad.Benchmark
