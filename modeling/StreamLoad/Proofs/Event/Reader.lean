import StreamLoad.Proofs.Greeting
import StreamLoad.Proofs.Histories

/-! # Reading the events of a body one at a time

A reader gives out events on demand, while pieces of the body arrive at any time between two calls.
What it has still to give is its `Supply`: the events that have arrived and, behind them, the fault
that the body ends with. A call of `next` takes the first event off the supply
(`supply_next`), and `awaitWelcome` is nothing but calls of `next` up to the greeting
(`readOn_snd`), so that the supply says all about either.

`events_read_in_order` follows from what one operation does to the supply (`Served.apply`): the
events given out are those that a scanner finds in the body, in order, none of them twice and none
passed over, and a fault comes only after the last of them.
-/

set_option autoImplicit false

namespace StreamLoad.Reader

open Event (lineFeed)

/-! ## What has arrived

A body ends once. Whatever arrives after its end, cut or not, has no effect, so the chunks of a body
are those before the end and its fault is the first one. -/

/-- The chunks of a body, up to its end. -/
def chunks : List BodyItem → List (List UInt8)
  | .chunk bytes :: rest => bytes :: chunks rest
  | _ => []

/-- The fault that a body ends with, if its end has arrived. -/
def ending? : List BodyItem → Option Failure
  | [] => none
  | .chunk _ :: rest => ending? rest
  | .close :: _ => some .streamClosed
  | .cut :: _ => some (.request .bodyCut)

/-- Nothing counts that arrives after the end. -/
theorem chunks_append_of_ended {items : List BodyItem} (h : ending? items ≠ none)
    (more : List BodyItem) : chunks (items ++ more) = chunks items := by
  induction items with
  | nil => exact absurd rfl h
  | cons item items ih =>
      cases item with
      | chunk bytes => exact congrArg (bytes :: ·) (ih h)
      | close | cut => rfl

theorem ending?_append_of_ended {items : List BodyItem} (h : ending? items ≠ none)
    (more : List BodyItem) : ending? (items ++ more) = ending? items := by
  induction items with
  | nil => exact absurd rfl h
  | cons item items ih =>
      cases item with
      | chunk bytes => exact ih h
      | close | cut => rfl

theorem chunks_append {items : List BodyItem} (h : ending? items = none) (more : List BodyItem) :
    chunks (items ++ more) = chunks items ++ chunks more := by
  induction items with
  | nil => rfl
  | cons item items ih =>
      cases item with
      | chunk bytes => exact congrArg (bytes :: ·) (ih h)
      | close | cut => cases h

theorem ending?_append {items : List BodyItem} (h : ending? items = none) (more : List BodyItem) :
    ending? (items ++ more) = ending? more := by
  induction items with
  | nil => rfl
  | cons item items ih =>
      cases item with
      | chunk bytes => exact ih h
      | close | cut => cases h

/-! ## What a reader has still to give

A reader may hold events that it has read and pieces that it has not, and how much it has read
already depends on the calls so far. `supply` does not show the difference: it reads all that has
arrived at once. What a call answers is told from the supply alone. -/

/-- What a reader has still to give out of what has arrived. -/
structure Supply where
  events : List Event
  /-- The line under way once all chunks are read. -/
  scanner : Scanner
  /-- The fault that comes after the events, if any. -/
  fault : Option Failure

/-- The supply once its events are given out and its fault is reported, if there is one. -/
def Supply.spent (s : Supply) : Supply :=
  { s with events := [], fault := s.fault.map fun _ => .streamClosed }

/-- The supply of a reader. -/
def supply (r : Reader) : Supply :=
  { events := r.ready ++ (r.scanner.feedAll (chunks r.inbox)).2
    scanner := (r.scanner.feedAll (chunks r.inbox)).1
    fault := ending? r.inbox }

/-- A reader with nothing to give out may as well have read its next chunk already. -/
theorem supply_chunk (scanner : Scanner) (bytes : List UInt8) (rest : List BodyItem) :
    supply { scanner := scanner, inbox := .chunk bytes :: rest }
      = supply { scanner := (scanner.feed bytes).1, ready := (scanner.feed bytes).2, inbox := rest }
      := rfl

theorem next_chunk (scanner : Scanner) (bytes : List UInt8) (rest : List BodyItem) :
    next { scanner := scanner, inbox := .chunk bytes :: rest }
      = next { scanner := (scanner.feed bytes).1, ready := (scanner.feed bytes).2, inbox := rest }
      := by
  show pull scanner (.chunk bytes :: rest) = _
  rw [pull]
  rcases scanner.feed bytes with ⟨later, _ | ⟨event, ready⟩⟩ <;> rfl

theorem awaitWelcome_chunk (scanner : Scanner) (bytes : List UInt8) (rest : List BodyItem) :
    awaitWelcome { scanner := scanner, inbox := .chunk bytes :: rest }
      = awaitWelcome
          { scanner := (scanner.feed bytes).1, ready := (scanner.feed bytes).2, inbox := rest } := by
  show pullWelcome scanner (.chunk bytes :: rest) = _
  rw [pullWelcome, awaitWelcome]
  cases greeted : afterWelcome? (scanner.feed bytes).2 <;> simp [greeted]

theorem awaitWelcome_ready (scanner : Scanner) (event : Event) (ready : List Event)
    (inbox : List BodyItem) :
    awaitWelcome { scanner := scanner, ready := event :: ready, inbox := inbox }
      = if event = .welcome then
          ({ scanner := scanner, ready := ready, inbox := inbox }, some (.ok ()))
        else awaitWelcome { scanner := scanner, ready := ready, inbox := inbox } := by
  cases event <;> rfl

/-- To show something of every reader, show it of one that has nothing to give out but the end of
the body, if any, and that it stays true with one more event and with one more chunk. -/
@[elab_as_elim]
theorem induction {motive : Reader → Prop}
    (pause : ∀ scanner, motive { scanner := scanner })
    (close : ∀ scanner rest, motive { scanner := scanner, inbox := .close :: rest })
    (cut : ∀ scanner rest, motive { scanner := scanner, inbox := .cut :: rest })
    (ready : ∀ scanner event ready inbox,
      motive { scanner := scanner, ready := ready, inbox := inbox } →
      motive { scanner := scanner, ready := event :: ready, inbox := inbox })
    (chunk : ∀ scanner bytes rest,
      motive { scanner := (scanner.feed bytes).1, ready := (scanner.feed bytes).2, inbox := rest } →
      motive { scanner := scanner, inbox := .chunk bytes :: rest })
    (r : Reader) : motive r := by
  obtain ⟨scanner, events, inbox⟩ := r
  induction inbox generalizing scanner events with
  | nil =>
      induction events with
      | nil => exact pause scanner
      | cons event events ih => exact ready scanner event events [] ih
  | cons item rest ih =>
      induction events with
      | nil =>
          cases item with
          | chunk bytes => exact chunk scanner bytes rest (ih _ _)
          | close => exact close scanner rest
          | cut => exact cut scanner rest
      | cons event events ih => exact ready scanner event events (item :: rest) ih

/-! ## What an operation does to the supply -/

/-- A piece of the body is added to the supply, unless the end has arrived. -/
theorem supply_receive_of_none {r : Reader} (h : r.supply.fault = none) (item : BodyItem) :
    (r.receive item).supply
      = { events := r.supply.events ++ (r.supply.scanner.feedAll (chunks [item])).2
          scanner := (r.supply.scanner.feedAll (chunks [item])).1
          fault := ending? [item] } := by
  have open' : ending? r.inbox = none := h
  simp [supply, receive, chunks_append open', ending?_append open', Scanner.feedAll_append]

theorem supply_receive_of_some {r : Reader} (h : r.supply.fault ≠ none) (item : BodyItem) :
    (r.receive item).supply = r.supply := by
  have ended : ending? r.inbox ≠ none := h
  simp [supply, receive, chunks_append_of_ended ended, ending?_append_of_ended ended]

theorem supply_next_of_cons {r : Reader} {event : Event} {rest : List Event}
    (h : r.supply.events = event :: rest) :
    r.next.2 = some (.ok event) ∧ r.next.1.supply = { r.supply with events := rest } := by
  induction r using Reader.induction with
  | pause scanner => cases h
  | close scanner rest => cases h
  | cut scanner rest => cases h
  | ready scanner first ready inbox _ =>
      cases h
      exact ⟨rfl, rfl⟩
  | chunk scanner bytes rest ih =>
      rw [next_chunk, supply_chunk]
      exact ih h

theorem supply_next_of_nil {r : Reader} (h : r.supply.events = []) :
    r.next.2 = r.supply.fault.map .error ∧ r.next.1.supply = r.supply.spent := by
  induction r using Reader.induction with
  | pause scanner => exact ⟨rfl, rfl⟩
  | close scanner rest => exact ⟨rfl, rfl⟩
  | cut scanner rest => exact ⟨rfl, rfl⟩
  | ready scanner first ready inbox _ => cases h
  | chunk scanner bytes rest ih =>
      rw [next_chunk, supply_chunk]
      exact ih h

/-- What `next` gives out is taken off the supply. -/
theorem length_of_next {r later : Reader} {event : Event}
    (h : r.next = (later, some (.ok event))) :
    later.supply.events.length < r.supply.events.length := by
  cases left : r.supply.events with
  | nil =>
      have answer := (supply_next_of_nil left).1
      rw [h] at answer
      cases fault : r.supply.fault <;> simp [fault] at answer
  | cons first rest =>
      have same := (supply_next_of_cons left).2
      rw [h] at same
      simp [same]

/-- Calls of `next`, one after another, until one gives out the greeting or none gives out
anything: the events given out, and what the last call leads to. -/
def readOn (r : Reader) : List Event × Reader × Option (Except Failure Unit) :=
  match _h : r.next with
  | (later, none) => ([], later, none)
  | (later, some (.error failure)) => ([], later, some (.error failure))
  | (later, some (.ok event)) =>
      if event = .welcome then ([event], later, some (.ok ()))
      else (event :: later.readOn.1, later.readOn.2)
termination_by r.supply.events.length
decreasing_by all_goals exact length_of_next _h

theorem readOn_of_event {r later : Reader} {event : Event}
    (h : r.next = (later, some (.ok event))) :
    r.readOn = if event = .welcome then ([event], later, some (.ok ()))
      else (event :: later.readOn.1, later.readOn.2) := by
  rw [readOn]
  split <;> simp_all

theorem readOn_of_pause {r later : Reader} (fault : Option Failure)
    (h : r.next = (later, fault.map .error)) : r.readOn = ([], later, fault.map .error) := by
  rw [readOn]
  cases fault <;> split <;> simp_all

theorem readOn_congr {r other : Reader} (h : r.next = other.next) : r.readOn = other.readOn := by
  rcases next : other.next with ⟨later, _ | failure | event⟩
  · rw [readOn_of_pause none next, readOn_of_pause none (h.trans next)]
  · rw [readOn_of_pause (some failure) next, readOn_of_pause (some failure) (h.trans next)]
  · rw [readOn_of_event next, readOn_of_event (h.trans next)]

/-- To await the greeting is to read on up to it. -/
theorem readOn_snd (r : Reader) : r.readOn.2 = r.awaitWelcome := by
  induction r using Reader.induction with
  | pause scanner =>
      rw [readOn_of_pause none rfl]
      rfl
  | close scanner rest =>
      rw [readOn_of_pause (some .streamClosed) rfl]
      rfl
  | cut scanner rest =>
      rw [readOn_of_pause (some (.request .bodyCut)) rfl]
      rfl
  | ready scanner event ready inbox ih =>
      have first : next { scanner := scanner, ready := event :: ready, inbox := inbox }
          = ({ scanner := scanner, ready := ready, inbox := inbox }, some (.ok event)) := rfl
      rw [readOn_of_event first, awaitWelcome_ready]
      split
      · rfl
      · exact ih
  | chunk scanner bytes rest ih =>
      rw [readOn_congr (next_chunk scanner bytes rest), awaitWelcome_chunk]
      exact ih

/-! ## What reading up to the greeting takes off the supply

Events before the greeting are passed over and the greeting itself is given out, so both are taken
off. Without a greeting all events are, and behind them the call either waits or reports the fault.
-/

/-- With a greeting in the supply, all events up to it are read, and it itself. -/
theorem supply_readOn_of_mem {r : Reader} {before after : List Event}
    (split : r.supply.events = before ++ .welcome :: after) (first : .welcome ∉ before) :
    r.readOn.1 = before ++ [.welcome] ∧ r.awaitWelcome.2 = some (.ok ())
      ∧ r.awaitWelcome.1.supply = { r.supply with events := after } := by
  rw [← readOn_snd]
  induction before generalizing r with
  | nil =>
      obtain ⟨answer, later⟩ := supply_next_of_cons split
      rw [readOn_of_event (Prod.ext rfl answer), if_pos rfl]
      exact ⟨rfl, rfl, later⟩
  | cons event before ih =>
      obtain ⟨answer, later⟩ := supply_next_of_cons split
      have other : event ≠ .welcome := fun same => first (same ▸ List.mem_cons_self)
      obtain ⟨events, found, rest⟩ := ih (r := r.next.1) (by rw [later]; rfl)
        fun more => first (List.mem_cons_of_mem event more)
      rw [readOn_of_event (Prod.ext rfl answer), if_neg other]
      refine ⟨congrArg (event :: ·) events, found, ?_⟩
      rw [rest, later]

/-- Without one, all events are read, and the fault behind them, if there is one. -/
theorem supply_readOn_of_not_mem {r : Reader} (none : .welcome ∉ r.supply.events) :
    r.readOn.1 = r.supply.events ∧ r.awaitWelcome.2 = r.supply.fault.map .error
      ∧ r.awaitWelcome.1.supply = r.supply.spent := by
  rw [← readOn_snd]
  generalize left : r.supply.events = events at none
  induction events generalizing r with
  | nil =>
      obtain ⟨answer, later⟩ := supply_next_of_nil left
      rw [readOn_of_pause _ (Prod.ext rfl answer)]
      exact ⟨rfl, rfl, later⟩
  | cons event events ih =>
      obtain ⟨answer, later⟩ := supply_next_of_cons left
      have other : event ≠ .welcome := fun same => none (same ▸ List.mem_cons_self)
      obtain ⟨given, fault, rest⟩ := ih (r := r.next.1) (by rw [later])
        fun more => none (List.mem_cons_of_mem event more)
      rw [readOn_of_event (Prod.ext rfl answer), if_neg other]
      refine ⟨congrArg (event :: ·) given, ?_, ?_⟩
      · rw [fault, later]
      · rw [rest, later]
        rfl

/-! ## Runs -/

/-- What happens to a reader. A call that is left waiting is given up, and what comes of it is what
comes of the next call. -/
inductive Operation where
  /-- A piece of the body arrives. -/
  | arrive (item : BodyItem)
  | next
  | awaitWelcome
deriving DecidableEq, Repr

/-- The reader after an operation. -/
def apply (r : Reader) : Operation → Reader
  | .arrive item => r.receive item
  | .next => r.next.1
  | .awaitWelcome => r.awaitWelcome.1

/-- The reader after some operations, one after another. -/
def run (r : Reader) (ops : List Operation) : Reader := ops.foldl apply r

/-- The events that an operation gives out or passes over. -/
def given (r : Reader) : Operation → List Event
  | .arrive _ => []
  | .next =>
      match r.next.2 with
      | some (.ok event) => [event]
      | _ => []
  | .awaitWelcome => r.readOn.1

/-- The fault that a call answers, if any. -/
def fault? (r : Reader) : Operation → Option Failure
  | .arrive _ => none
  | .next =>
      match r.next.2 with
      | some (.error failure) => some failure
      | _ => none
  | .awaitWelcome =>
      match r.awaitWelcome.2 with
      | some (.error failure) => some failure
      | _ => none

/-- A call gives out some events of the supply, in order, or all of them with the fault behind
them, if there is one. -/
theorem call_cases (r : Reader) {op : Operation} (call : ∀ item, op ≠ .arrive item) :
    (∃ rest, r.supply.events = r.given op ++ rest ∧ r.supply.events ≠ [] ∧ r.fault? op = none
        ∧ (r.apply op).supply = { r.supply with events := rest })
    ∨ (r.given op = r.supply.events ∧ r.fault? op = r.supply.fault
        ∧ (r.apply op).supply = r.supply.spent) := by
  cases op with
  | arrive item => exact absurd rfl (call item)
  | next =>
      cases left : r.supply.events with
      | nil =>
          obtain ⟨answer, later⟩ := supply_next_of_nil left
          refine Or.inr ⟨?_, ?_, later⟩
          · rw [given, answer]
            cases r.supply.fault <;> rfl
          · rw [fault?, answer]
            cases r.supply.fault <;> rfl
      | cons event rest =>
          obtain ⟨answer, later⟩ := supply_next_of_cons left
          refine Or.inl ⟨rest, ?_, List.cons_ne_nil event rest, ?_, later⟩
          · rw [given, answer]
            rfl
          · rw [fault?, answer]
  | awaitWelcome =>
      by_cases greeted : .welcome ∈ r.supply.events
      · -- The first greeting is the last event that is taken.
        obtain ⟨before, after, split, first⟩ := List.eq_append_cons_of_mem greeted
        obtain ⟨events, found, later⟩ := supply_readOn_of_mem split first
        refine Or.inl ⟨after, ?_, by simp [split], ?_, later⟩
        · rw [given, events, split]
          simp
        · rw [fault?, found]
      · obtain ⟨events, answer, later⟩ := supply_readOn_of_not_mem greeted
        refine Or.inr ⟨events, ?_, later⟩
        rw [fault?, answer]
        cases r.supply.fault <;> rfl

theorem run_concat (r : Reader) (ops : List Operation) (op : Operation) :
    r.run (ops ++ [op]) = (r.run ops).apply op := by
  simp [run]

/-- The pieces of the body that arrive in a run. -/
def arrivals (ops : List Operation) : List BodyItem :=
  ops.filterMap fun
    | .arrive item => some item
    | _ => none

/-- The events that a run gives out and passes over. -/
def allGiven (ops : List Operation) : List Event := answers apply given {} ops

/-- The faults that the calls of a run answer. -/
def faults (ops : List Operation) : List Failure :=
  answers apply (fun r op => (r.fault? op).toList) {} ops

theorem arrivals_append (ops more : List Operation) :
    arrivals (ops ++ more) = arrivals ops ++ arrivals more := List.filterMap_append

theorem allGiven_concat (ops : List Operation) (op : Operation) :
    allGiven (ops ++ [op]) = allGiven ops ++ (run {} ops).given op := answers_concat ..

theorem faults_concat (ops : List Operation) (op : Operation) :
    faults (ops ++ [op]) = faults ops ++ ((run {} ops).fault? op).toList := answers_concat ..

/-- The events of the body that arrives in a run. -/
def yielded (ops : List Operation) : List Event :=
  (({} : Scanner).feedAll (chunks (arrivals ops))).2

/-- The events of a run that have arrived and are neither given out nor passed over. -/
def undelivered (ops : List Operation) : List Event := (yielded ops).drop (allGiven ops).length

/-- The fault that the next call answers if no event is left: the one that the body ends with, and
once that has been reported, that the body is closed. -/
def due (ops : List Operation) : Option Failure :=
  if faults ops = [] then ending? (arrivals ops) else some .streamClosed

/-- How the supply of a reader goes together with what has happened to it. -/
structure Served (ops : List Operation) (s : Supply) : Prop where
  events : allGiven ops ++ s.events = yielded ops
  scanner : s.scanner = (({} : Scanner).feedAll (chunks (arrivals ops))).1
  fault : s.fault = due ops
  /-- A fault is only reported of a body that has ended, after all of its events. -/
  reported : faults ops ≠ [] → ending? (arrivals ops) ≠ none ∧ s.events = []

namespace Served

variable {ops : List Operation} {r : Reader}

theorem start : Served [] (supply {}) := ⟨rfl, rfl, rfl, fun some => absurd rfl some⟩

theorem undelivered_eq {s : Supply} (h : Served ops s) : undelivered ops = s.events := by
  rw [undelivered, ← h.events, List.drop_left]

theorem due_eq_none_iff : due ops = none ↔ faults ops = [] ∧ ending? (arrivals ops) = none := by
  unfold due
  split <;> simp [*]

theorem arrive (h : Served ops (run {} ops).supply) (item : BodyItem) :
    Served (ops ++ [.arrive item]) (run {} (ops ++ [.arrive item])).supply := by
  have given_eq : allGiven (ops ++ [.arrive item]) = allGiven ops :=
    (allGiven_concat _ _).trans (List.append_nil _)
  have faults_eq : faults (ops ++ [.arrive item]) = faults ops :=
    (faults_concat _ _).trans (List.append_nil _)
  have arrivals_eq : arrivals (ops ++ [.arrive item]) = arrivals ops ++ [item] :=
    arrivals_append _ _
  have run_eq : run {} (ops ++ [.arrive item]) = (run {} ops).receive item := run_concat _ _ _
  rw [run_eq]
  -- A supply with a fault is that of a body that has ended, so that the piece comes too late.
  by_cases waits : (run {} ops).supply.fault = none
  · obtain ⟨silent, ended⟩ := due_eq_none_iff.mp (h.fault.symm.trans waits)
    rw [supply_receive_of_none waits]
    refine ⟨?_, ?_, ?_, ?_⟩
    · rw [given_eq, yielded, arrivals_eq, chunks_append ended, Scanner.feedAll_append,
        ← List.append_assoc, h.events, h.scanner]
      rfl
    · rw [arrivals_eq, chunks_append ended, Scanner.feedAll_append, h.scanner]
    · rw [due, faults_eq, if_pos silent, arrivals_eq, ending?_append ended]
    · rw [faults_eq]
      exact fun reported => absurd silent reported
  · have ended : ending? (arrivals ops) ≠ none := by
      by_cases silent : faults ops = []
      · intro open'
        exact waits (h.fault.trans (due_eq_none_iff.mpr ⟨silent, open'⟩))
      · exact (h.reported silent).1
    rw [supply_receive_of_some waits]
    refine ⟨?_, ?_, ?_, ?_⟩
    · rw [given_eq, yielded, arrivals_eq, chunks_append_of_ended ended]
      exact h.events
    · rw [arrivals_eq, chunks_append_of_ended ended]
      exact h.scanner
    · rw [due, faults_eq, arrivals_eq, ending?_append_of_ended ended]
      exact h.fault
    · rw [faults_eq, arrivals_eq, ending?_append_of_ended ended]
      exact h.reported

/-- A call that gives out some events of the supply. -/
theorem give (h : Served ops (run {} ops).supply) {op : Operation}
    (call : arrivals (ops ++ [op]) = arrivals ops) {rest : List Event}
    (taken : (run {} ops).supply.events = (run {} ops).given op ++ rest)
    (some : (run {} ops).supply.events ≠ []) (silent : (run {} ops).fault? op = none)
    (left : ((run {} ops).apply op).supply = { (run {} ops).supply with events := rest }) :
    Served (ops ++ [op]) (run {} (ops ++ [op])).supply := by
  have faults_eq : faults (ops ++ [op]) = faults ops := by
    rw [faults_concat, silent, Option.toList_none, List.append_nil]
  rw [run_concat, left]
  refine ⟨?_, ?_, ?_, ?_⟩
  · rw [allGiven_concat, List.append_assoc, ← taken, yielded, call]
    exact h.events
  · rw [call]
    exact h.scanner
  · rw [due, faults_eq, call]
    exact h.fault
  · rw [faults_eq]
    exact fun reported => absurd (h.reported reported).2 some

/-- A call that gives out all of the supply. -/
theorem spend (h : Served ops (run {} ops).supply) {op : Operation}
    (call : arrivals (ops ++ [op]) = arrivals ops)
    (taken : (run {} ops).given op = (run {} ops).supply.events)
    (fault : (run {} ops).fault? op = (run {} ops).supply.fault)
    (left : ((run {} ops).apply op).supply = (run {} ops).supply.spent) :
    Served (ops ++ [op]) (run {} (ops ++ [op])).supply := by
  have faults_eq : faults (ops ++ [op]) = faults ops ++ (due ops).toList := by
    rw [faults_concat, fault, h.fault]
  have due_eq : due (ops ++ [op])
      = if faults ops ++ (due ops).toList = [] then ending? (arrivals ops)
        else some .streamClosed := by
    rw [due, faults_eq, call]
  rw [run_concat, left]
  refine ⟨?_, ?_, ?_, ?_⟩
  · rw [allGiven_concat, taken, yielded, call]
    exact (List.append_nil _).trans h.events
  · rw [call]
    exact h.scanner
  · show (run {} ops).supply.fault.map _ = _
    rw [h.fault, due_eq]
    cases waits : due ops with
    | none => simp [due_eq_none_iff.mp waits]
    | some failure => simp
  · rw [faults_eq, call]
    intro reported
    refine ⟨fun open' => ?_, rfl⟩
    by_cases silent : faults ops = []
    · simp [due_eq_none_iff.mpr ⟨silent, open'⟩, silent] at reported
    · exact (h.reported silent).1 open'

theorem apply (h : Served ops (run {} ops).supply) (op : Operation) :
    Served (ops ++ [op]) (run {} (ops ++ [op])).supply := by
  by_cases arrives : ∃ item, op = .arrive item
  · obtain ⟨item, rfl⟩ := arrives
    exact h.arrive item
  · have call : ∀ item, op ≠ .arrive item := not_exists.mp arrives
    have quiet : arrivals (ops ++ [op]) = arrivals ops := by
      cases op with
      | arrive item => exact absurd rfl (call item)
      | next | awaitWelcome => simp [arrivals]
    rcases call_cases (run {} ops) call with ⟨rest, taken, some, silent, left⟩
      | ⟨taken, fault, left⟩
    · exact h.give quiet taken some silent left
    · exact h.spend quiet taken fault left

/-! What a reader answers next, by the events that are left and the fault that is due. -/

theorem next_eq (h : Served ops r.supply) :
    r.next.2 =
      match undelivered ops with
      | event :: _ => some (.ok event)
      | [] => (due ops).map .error := by
  rw [h.undelivered_eq, ← h.fault]
  cases events : r.supply.events with
  | nil => exact (supply_next_of_nil events).1
  | cons event rest => exact (supply_next_of_cons events).1

theorem readOn_of_mem (h : Served ops r.supply) {before after : List Event}
    (split : undelivered ops = before ++ .welcome :: after) (first : .welcome ∉ before) :
    r.readOn.1 = before ++ [.welcome] ∧ r.awaitWelcome.2 = some (.ok ()) := by
  rw [h.undelivered_eq] at split
  obtain ⟨events, found, -⟩ := supply_readOn_of_mem split first
  exact ⟨events, found⟩

theorem readOn_of_not_mem (h : Served ops r.supply) (none : .welcome ∉ undelivered ops) :
    r.readOn.1 = undelivered ops ∧ r.awaitWelcome.2 = (due ops).map .error := by
  rw [h.undelivered_eq] at none ⊢
  rw [← h.fault]
  obtain ⟨events, answer, -⟩ := supply_readOn_of_not_mem none
  exact ⟨events, answer⟩

theorem welcome_iff (h : Served ops r.supply) :
    r.awaitWelcome.2 = some (.ok ()) ↔ .welcome ∈ undelivered ops := by
  constructor
  · intro found
    by_contra none
    rw [(h.readOn_of_not_mem none).2] at found
    cases fault : due ops <;> simp [fault] at found
  · intro mem
    obtain ⟨before, after, split, first⟩ := List.eq_append_cons_of_mem mem
    exact (h.readOn_of_mem split first).2

/-- After a fault there is nothing left to answer but that the body is closed. -/
theorem closed (h : Served ops r.supply) (reported : faults ops ≠ []) :
    r.next.2 = some (.error .streamClosed) ∧ r.awaitWelcome.2 = some (.error .streamClosed) := by
  have none : undelivered ops = [] := h.undelivered_eq.trans (h.reported reported).2
  have closed : due ops = some .streamClosed := if_neg reported
  have passed : .welcome ∉ undelivered ops := by simp [none]
  rw [h.next_eq, (h.readOn_of_not_mem passed).2, none, closed]
  exact ⟨rfl, rfl⟩

end Served

/-- What every run keeps. -/
theorem served_run (ops : List Operation) : Served ops (run {} ops).supply := by
  induction ops using List.reverseRecOn with
  | nil => exact .start
  | append_singleton ops op ih => exact ih.apply op

/-! ## Events are read in order

Every run keeps the supply and what was given out together: one after the other they are the events
of the body. From this all that is said of order, repetition and loss can be read off. -/

/-- A call that answers a fault answers the one that is due, after all events. -/
theorem due_of_fault? {ops : List Operation} {op : Operation} {failure : Failure}
    (h : (run {} ops).fault? op = some failure) :
    due ops = some failure ∧ allGiven ops ++ (run {} ops).given op = yielded ops := by
  have served := served_run ops
  have call : ∀ item, op ≠ .arrive item := by
    rintro item rfl
    cases h
  rcases call_cases (run {} ops) call with ⟨-, -, -, silent, -⟩ | ⟨taken, fault, -⟩
  · rw [silent] at h
    cases h
  · rw [taken]
    exact ⟨served.fault.symm.trans (fault.symm.trans h), served.events⟩

/-- The first fault is the one that the body ends with, and the others say that it is closed. -/
theorem faults_eq_cons {ops : List Operation} {first : Failure} {more : List Failure}
    (h : faults ops = first :: more) :
    ending? (arrivals ops) = some first ∧ ∀ failure ∈ more, failure = .streamClosed := by
  induction ops using List.reverseRecOn generalizing more with
  | nil => cases h
  | append_singleton ops op ih =>
      have later : ending? (arrivals ops) ≠ none →
          ending? (arrivals (ops ++ [op])) = ending? (arrivals ops) := by
        intro ended
        rw [arrivals_append]
        exact ending?_append_of_ended ended _
      rw [faults_concat] at h
      cases fault : (run {} ops).fault? op with
      | none =>
          rw [fault, Option.toList_none, List.append_nil] at h
          obtain ⟨ended, closed⟩ := ih h
          rw [later (by simp [ended])]
          exact ⟨ended, closed⟩
      | some failure =>
          -- The fault that is due depends on whether one has been reported before.
          have due_eq := (due_of_fault? fault).1
          rw [fault, Option.toList_some] at h
          cases earlier : faults ops with
          | nil =>
              rw [earlier] at h
              obtain ⟨rfl, rfl⟩ := List.cons.inj h
              rw [due, if_pos earlier] at due_eq
              rw [later (by simp [due_eq])]
              exact ⟨due_eq, by simp⟩
          | cons reported rest =>
              rw [earlier] at h
              obtain ⟨rfl, rfl⟩ := List.cons.inj h
              obtain ⟨ended, closed⟩ := ih earlier
              rw [due, if_neg (by simp [earlier])] at due_eq
              rw [later (by simp [ended])]
              refine ⟨ended, fun other ho => ?_⟩
              rcases List.mem_append.mp ho with old | new
              · exact closed other old
              · rw [List.mem_singleton.mp new, ← Option.some.inj due_eq]

/-- The events of a stream are of lines that a line feed ends. -/
theorem exists_line_of_mem_feedAll {chunks : List (List UInt8)} {whole tail : List UInt8}
    (split : chunks.flatten = whole ++ tail) (rest : lineFeed ∉ tail) {event : Event}
    (h : event ∈ (({} : Scanner).feedAll chunks).2) :
    ∃ line ∈ completeLines 0 whole, Event.ofLine? line.bytes = some event := by
  have apart : lineFeed ∉ unfinished whole ++ tail := by simp [not_mem_unfinished, rest]
  rw [events_eq_lineEvents, lineEvents, split, completeLines_append,
    completeLines_of_not_mem apart, List.append_nil] at h
  obtain ⟨line, hl, carries⟩ := List.mem_filterMap.mp h
  rw [Line.event?] at carries
  split at carries
  · cases carries
  · exact ⟨line, hl, carries⟩

/-- How a reader answers after a run. -/
structure InOrder (ops : List Operation) (r : Reader) : Prop where
  /-- What is given out and passed over is what a scanner finds in the body, up to some event. -/
  given_prefix : allGiven ops <+: yielded ops
  /-- What comes after the last line feed of the body counts for nothing. -/
  given_of_line : ∀ whole tail, (chunks (arrivals ops)).flatten = whole ++ tail → lineFeed ∉ tail →
    ∀ event ∈ allGiven ops, ∃ line ∈ completeLines 0 whole, Event.ofLine? line.bytes = some event
  /-- The next event is the first one that is left; without one, the fault that is due comes, and
  without a fault the call is left waiting. -/
  next_eq : r.next.2 =
    match undelivered ops with
    | event :: _ => some (.ok event)
    | [] => (due ops).map .error
  /-- To await the greeting is to call `next` up to it. -/
  awaitWelcome_eq : r.awaitWelcome = r.readOn.2
  welcome_iff : r.awaitWelcome.2 = some (.ok ()) ↔ .welcome ∈ undelivered ops
  /-- The events before the first greeting are passed over, and nothing after it. -/
  readOn_of_mem : ∀ before after, undelivered ops = before ++ .welcome :: after →
    .welcome ∉ before → r.readOn.1 = before ++ [.welcome]
  /-- Without a greeting all events are passed over, and the fault that is due comes. -/
  readOn_of_not_mem : .welcome ∉ undelivered ops →
    r.readOn.1 = undelivered ops ∧ r.awaitWelcome.2 = (due ops).map .error
  /-- A fault comes after the last event that has arrived. -/
  fault_last : ∀ op failure, r.fault? op = some failure →
    allGiven ops ++ r.given op = yielded ops
  /-- The first fault is the one that the body ends with, and the others say that it is closed. -/
  faults_eq : ∀ first more, faults ops = first :: more →
    ending? (arrivals ops) = some first ∧ ∀ failure ∈ more, failure = .streamClosed
  /-- After a fault, the body is closed. -/
  closed : faults ops ≠ [] →
    r.next.2 = some (.error .streamClosed) ∧ r.awaitWelcome.2 = some (.error .streamClosed)

/-- **Events are read in order.** Whatever pieces of a body arrive, and whatever calls are made
before, between and after them, a reader gives out the events of the body one after another, passes
over none but for a greeting, reports the end of the body after the last of them and a cut only
once, and takes the body for closed from then on. -/
theorem events_read_in_order (ops : List Operation) : InOrder ops (run {} ops) := by
  have served : Served ops (run {} ops).supply := served_run ops
  have ordered : allGiven ops <+: yielded ops := ⟨_, served.events⟩
  exact
    { given_prefix := ordered
      given_of_line := fun _ _ split rest _ he =>
        exists_line_of_mem_feedAll split rest (ordered.subset he)
      next_eq := served.next_eq
      awaitWelcome_eq := (readOn_snd _).symm
      welcome_iff := served.welcome_iff
      readOn_of_mem := fun _ _ split first => (served.readOn_of_mem split first).1
      readOn_of_not_mem := served.readOn_of_not_mem
      fault_last := fun _ _ fault => (due_of_fault? fault).2
      faults_eq := fun _ _ => faults_eq_cons
      closed := served.closed }

end StreamLoad.Reader
