import StreamLoad.Proofs.Churn.Answers
import StreamLoad.Proofs.Churn.Endings
import StreamLoad.Proofs.Churn.Pacing

/-! # The order between two ticks

Between two ticks of the driver the server may act on the exchanges in any order, and it may cut a
body into any chunks. As long as what it sends on each exchange is the same, each attempt has the
same end (`fare_eq_of_letters`), and the ends of different attempts commute, also when the goal is
reached with one of them. So the ledger comes out the same and the same requests are closed by the
client (`churn_confluent`).
-/

set_option autoImplicit false

namespace StreamLoad

namespace ExchangeState

/-- What some commands bring on an exchange, as far as the client does not close it. -/
def arrivals (state : ExchangeState) : List Command → List Arrival
  | [] => []
  | c :: rest => (state.act c).2.toList ++ (state.act c).1.arrivals rest

theorem arrivals_of_unseen {state : ExchangeState} {c : Command}
    (unseen : (state.act c).2 = none) (rest : List Command) :
    state.arrivals (c :: rest) = state.arrivals rest := by
  rw [arrivals, unseen, act_of_unseen unseen]
  rfl

theorem arrivals_of_seen {state : ExchangeState} {c : Command} {arrival : Arrival}
    (seen : (state.act c).2 = some arrival) (rest : List Command) :
    state.arrivals (c :: rest) = arrival :: (state.act c).1.arrivals rest := by
  rw [arrivals, seen]
  rfl

theorem act_eq_hungUp_iff (state : ExchangeState) (c : Command) :
    (state.act c).1 = .hungUp ↔ state = .hungUp := by
  unfold act
  split
  · split <;> simp
  all_goals simp

end ExchangeState

/-- Only the client closes connections of its own. -/
theorem Server.mem_hungUpNumbers_act (s : Server) (number : Nat) (c : Command) :
    number ∈ (s.act number c).1.hungUpNumbers ↔ number ∈ s.hungUpNumbers := by
  cases found : s.exchanges[number]? with
  | none => simp [act, found]
  | some e =>
      have same := e.state.act_eq_hungUp_iff c
      rw [act_of_found found]
      simp [hungUpNumbers, mem_numbersWhere, getElem?_setState found, found, same]

namespace Churn.Session

variable {s : Session}

/-! ## How one attempt fares

An attempt reads the bytes of its answer up to the greeting, so the chunks do not matter for where
its search ends. Where its exchange stands follows from that: the client closes the connection when
the search ends with the greeting, and whatever else ends the search ends the answer as well. -/

/-- An attempt reads all that is sent on its exchange, up to the end of its search. -/
theorem fare_eq_seekAll (request : Request) (state : ExchangeState) (subscription : Subscription)
    (script : List Command) :
    (fare request state subscription script).2
      = subscription.seekAll request (state.arrivals script) := by
  induction script generalizing state subscription with
  | nil => rfl
  | cons c script ih =>
      cases seen : (state.act c).2 with
      | none =>
          rw [ExchangeState.arrivals_of_unseen seen]
          simp only [fare, seen]
          exact ih state subscription
      | some arrival =>
          rw [ExchangeState.arrivals_of_seen seen]
          cases sought : subscription.seekWelcome request arrival with
          | goesOn next =>
              simp only [fare, seen, Subscription.seekAll, sought]
              exact ih _ next
          | found | failed failure => simp only [fare, seen, Subscription.seekAll, sought]

/-- The greeting comes within an answer, so that the client has one to close. Whatever else ends the
search ends the answer as well. -/
theorem hungUp_iff_found {request : Request} {state : ExchangeState} {subscription : Subscription}
    (agrees : subscription.Agrees state) (plain : subscription.IsPlain) {c : Command}
    {arrival : Arrival} (seen : (state.act c).2 = some arrival)
    (ends : (subscription.seekWelcome request arrival).ending? ≠ none) :
    (state.act c).1.hangUp = .hungUp ↔ subscription.seekWelcome request arrival = .found := by
  cases plain with
  | asked =>
      cases state with
      | streaming | finished | hungUp => exact agrees.elim
      | waiting =>
          cases c with
          | head status =>
              cases seen
              rw [Subscription.seekWelcome_head] at ends ⊢
              -- Only a head with a body behind it leaves the exchange open, and it ends nothing.
              by_cases success : isSuccess status = true
              · by_cases empty : status = noContent
                · subst empty
                  decide
                · rw [if_pos success, if_neg empty] at ends
                  exact absurd rfl ends
              · rw [if_neg success]
                simp [ExchangeState.act, ExchangeState.hangUp, ExchangeState.isOpen, success]
          | drop =>
              cases seen
              exact iff_of_false (by decide) (by rintro ⟨⟩)
          | send bytes | close => cases seen
  | @reading scanner free =>
      cases state with
      | waiting | finished | hungUp => exact agrees.elim
      | streaming =>
          cases c with
          | head status => cases seen
          | send bytes =>
              cases bytes with
              | nil => cases seen
              | cons b bytes =>
                  cases seen
                  -- A chunk ends the search by the greeting or not at all.
                  rw [Subscription.seekWelcome_chunk] at ends ⊢
                  split at ends
                  · rename_i greeted
                    rw [if_pos greeted]
                    exact ⟨fun _ => rfl, fun _ => rfl⟩
                  · exact absurd rfl ends
          | close =>
              cases seen
              exact iff_of_false (by decide) (by rintro ⟨⟩)
          | drop =>
              cases seen
              exact iff_of_false (by decide) (by rintro ⟨⟩)

/-- The client closes the connection of an attempt that was greeted, and of no other. -/
theorem hungUp_fare_iff {request : Request} {state : ExchangeState} {subscription : Subscription}
    (agrees : subscription.Agrees state) (plain : subscription.IsPlain) (script : List Command) :
    (fare request state subscription script).1 = .hungUp
      ↔ (fare request state subscription script).2 = .found := by
  induction script generalizing state subscription with
  | nil =>
      have opened := agrees.isOpen
      constructor
      · intro hung
        rw [show state = .hungUp from hung] at opened
        cases opened
      · intro found
        cases found
  | cons c script ih =>
      cases seen : (state.act c).2 with
      | none =>
          simp only [fare, seen]
          exact ih agrees plain
      | some arrival =>
          have ends : (subscription.seekWelcome request arrival).ending? ≠ none → _ :=
            hungUp_iff_found agrees plain seen
          cases sought : subscription.seekWelcome request arrival with
          | goesOn next =>
              simp only [fare, seen, sought]
              exact ih (agrees.goesOn seen sought) (plain.goesOn sought)
          | found | failed failure =>
              rw [sought] at ends
              simp only [fare, seen, sought]
              simpa using ends (by rintro ⟨⟩)

/-- **Only what is sent matters.** An attempt on whose exchange the same is sent, in whatever
chunks, has the same end, and its connection is closed by the client or not, alike. -/
theorem fare_eq_of_letters {request : Request} {state : ExchangeState}
    {subscription : Subscription} (agrees : subscription.Agrees state)
    (plain : subscription.IsPlain) {one other : List Command}
    (same : (state.arrivals one).flatMap Arrival.letters
      = (state.arrivals other).flatMap Arrival.letters)
    (short : IsShort (subscription.held ++ (state.arrivals one).flatMap Arrival.bytes)) :
    (fare request state subscription one).2 = (fare request state subscription other).2
      ∧ ((fare request state subscription one).1 = .hungUp
        ↔ (fare request state subscription other).1 = .hungUp) := by
  have bytes : (state.arrivals one).flatMap Arrival.bytes
      = (state.arrivals other).flatMap Arrival.bytes := by
    rw [← Arrival.flatMap_bytes_letters, same, Arrival.flatMap_bytes_letters]
  have search : (fare request state subscription one).2
      = (fare request state subscription other).2 := by
    rw [fare_eq_seekAll, fare_eq_seekAll, ← Subscription.seekAll_letters request plain short, same,
      Subscription.seekAll_letters request plain (bytes ▸ short)]
  refine ⟨search, ?_⟩
  rw [hungUp_fare_iff agrees plain, hungUp_fare_iff agrees plain, search]

/-! ## Exchanges of probes and of no one

A probe ends with whatever is sent first on its exchange, and what it leaves at the server is a
connection that the client has closed, if there was still one to close. So `judge` needs no search.
-/

/-- What becomes of the exchange of a probe: the first answer to it ends the probe, and the client
closes the connection. -/
def judge : ExchangeState → List Command → ExchangeState
  | state, [] => state
  | state, c :: rest =>
      if ((state.act c).2.bind Arrival.verdict?).isSome then (state.act c).1.hangUp
      else judge (state.act c).1 rest

/-- An answer that has begun says nothing more about the server. -/
theorem judge_of_begun {state : ExchangeState} (begun : state ≠ .waiting) (script : List Command) :
    judge state script = .hungUp ↔ state = .hungUp := by
  induction script generalizing state with
  | nil => rfl
  | cons c script ih =>
      have silent : (state.act c).2.bind Arrival.verdict? = none
          ∧ (state.act c).1 ≠ .waiting ∧ ((state.act c).1 = .hungUp ↔ state = .hungUp) := by
        cases state with
        | waiting => exact absurd rfl begun
        | finished | hungUp => exact ⟨rfl, nofun, Iff.rfl⟩
        | streaming =>
            match c with
            | .send [] => exact ⟨rfl, nofun, Iff.rfl⟩
            | .send (b :: bytes) => exact ⟨rfl, nofun, Iff.rfl⟩
            | .head status => exact ⟨rfl, nofun, Iff.rfl⟩
            | .close => exact ⟨rfl, nofun, nofun, nofun⟩
            | .drop => exact ⟨rfl, nofun, nofun, nofun⟩
      rw [judge, silent.1]
      exact (ih silent.2.1).trans silent.2.2

/-- What becomes of an exchange whose answer begins with something. -/
def stateAfter : Option Arrival → ExchangeState
  | some (.head status) => if isSuccess status && status ≠ noContent then .hungUp else .finished
  | some _ => .finished
  | none => .waiting

/-- What is sent first on the exchange of a probe decides what becomes of it. -/
theorem judge_waiting (script : List Command) :
    judge .waiting script
      = stateAfter ((ExchangeState.waiting.arrivals script).flatMap Arrival.letters).head? := by
  induction script with
  | nil => rfl
  | cons c script ih =>
      cases c with
      | head status =>
          show (ExchangeState.waiting.act (.head status)).1.hangUp
            = if isSuccess status && status ≠ noContent then .hungUp else .finished
          simp only [ExchangeState.act]
          split <;> rfl
      | drop => rfl
      | send bytes => exact ih
      | close => exact ih

/-- Whether the client closes the connection of a probe depends on what is sent. -/
theorem judge_eq_of_letters {state : ExchangeState} {one other : List Command}
    (same : (state.arrivals one).flatMap Arrival.letters
      = (state.arrivals other).flatMap Arrival.letters) :
    judge state one = .hungUp ↔ judge state other = .hungUp := by
  by_cases waits : state = .waiting
  · subst waits
    rw [judge_waiting, judge_waiting, same]
  · rw [judge_of_begun waits, judge_of_begun waits]

/-- Of the probes under way, a command ends at most that on whose exchange it is. -/
theorem mem_probes_perform {run : ProbeRun} {number : Nat} (c : Command) :
    (run ∈ (s.perform (.command number c)).probes → run ∈ s.probes)
      ∧ (run ∈ s.probes → run.exchange ≠ number → run ∈ (s.perform (.command number c)).probes) := by
  rcases acts : s.server.act number c with ⟨server, seen⟩
  rcases s.command_cases number c acts with
    ⟨-, -, performs, -⟩ | ⟨link, -, rfl, performs, -, ⟨subscription, reads⟩ | ⟨ending, ends⟩⟩
    | ⟨other, -, rfl, verdict, fault, -, -, -, performs, -⟩
  · rw [performs]
    exact ⟨id, fun runs _ => runs⟩
  · rw [performs, reads]
    exact ⟨id, fun runs _ => runs⟩
  · rw [performs, ends]
    exact ⟨id, fun runs _ => runs⟩
  · rw [performs]
    exact ⟨fun left => (List.mem_filter.mp left).1,
      fun runs apart => List.mem_filter.mpr ⟨runs, decide_eq_true apart⟩⟩

namespace Attended

/-- The exchange of a probe under way, after a schedule. -/
theorem judge_performAll (h : s.Attended) {run : ProbeRun} (runs : run ∈ s.probes) {e : Exchange}
    (found : s.server.exchanges[run.exchange]? = some e) (schedule : List (Nat × Command)) :
    (s.performAll (commands schedule)).server.exchanges[run.exchange]?
      = some { e with state := judge e.state (script run.exchange schedule) } := by
  induction schedule generalizing s e with
  | nil => exact found
  | cons x schedule ih =>
      obtain ⟨number, c⟩ := x
      have next := h.perform (.command number c)
      have touched := (s.frame_perform number c).1
      have whole : script run.exchange ((number, c) :: schedule)
          = script run.exchange [(number, c)] ++ script run.exchange schedule :=
        script_append _ [(number, c)] schedule
      rw [whole]
      by_cases own : run.exchange = number
      · subst own
        have acted := Server.act_of_found found c
        have reached : (s.server.setState run.exchange (e.state.act c).1).exchanges[run.exchange]?
            = some { e with state := (e.state.act c).1 } := Server.getElem?_setState found _
        rw [script_singleton, List.singleton_append, judge]
        rcases perform_of_stranger (h.wired.probe_apart runs) c with
          ⟨silent, performs⟩ | ⟨other, -, named, verdict, fault, judged, performs⟩
        · -- No verdict yet: the probe goes on, and its exchange stands as the server left it.
          have unjudged := silent (List.mem_map_of_mem runs)
          rw [acted] at unjudged performs
          have later := ih next (e := { e with state := (e.state.act c).1 })
            (by rw [performs]; exact runs) (by rw [performs]; exact reached)
          rw [unjudged]
          exact later
        · -- The verdict closes the exchange, and a closed exchange is left alone by the rest.
          rw [acted] at judged performs
          rw [judged, Option.isSome_some, if_pos rfl]
          refine next.closed_performAll ?_ (ExchangeState.isOpen_hangUp _) schedule
          rw [performs]
          simp only [conclude, completeProbe, note, named, Server.hangUp, reached]
          exact Server.getElem?_setState reached _
      · rw [script_singleton_of_ne (Ne.symm own), List.nil_append]
        exact ih next ((mem_probes_perform c).2 runs own) ((touched.other own).trans found)

/-- The client closes no connection but those of attempts and probes. -/
theorem hungUp_of_stranger (h : s.Attended) {number : Nat}
    (stranger : ∀ link ∈ s.links, link.exchange ≠ number)
    (unprobed : ∀ run ∈ s.probes, run.exchange ≠ number) (schedule : List (Nat × Command)) :
    number ∈ (s.performAll (commands schedule)).server.hungUpNumbers
      ↔ number ∈ s.server.hungUpNumbers := by
  induction schedule generalizing s with
  | nil => rfl
  | cons x schedule ih =>
      obtain ⟨other, c⟩ := x
      obtain ⟨_, one⟩ := h.follows_perform other c
      have stranger' : ∀ link ∈ (s.perform (.command other c)).links, link.exchange ≠ number := by
        intro link hl
        obtain ⟨old, runs, -, same⟩ := one.older link hl
        exact same ▸ stranger old runs
      refine (ih (h.perform (.command other c)) stranger'
        fun run left => unprobed run ((mem_probes_perform c).1 left)).trans ?_
      by_cases own : other = number
      · subst own
        rcases perform_of_stranger stranger c with ⟨-, performs⟩ | ⟨run, runs, named, -⟩
        · rw [performs]
          exact Server.mem_hungUpNumbers_act s.server other c
        · exact absurd named (unprobed run runs)
      · have same := (s.frame_perform other c).1.other (Ne.symm own)
        simp only [Server.hungUpNumbers, Server.mem_numbersWhere, same]

end Attended

/-! ## Two schedules

Two schedules are compared by what they send on each exchange with every byte of a body alone
(`sent`). This forgets the chunks, and it does not stop where the client would close the connection,
so that it can be told of a schedule without following the session. -/

/-- What a schedule sends on an exchange, with each byte of a body alone. Where the client closes
the connection is not looked at. -/
def sent (s : Session) (number : Nat) (schedule : List (Nat × Command)) : List Arrival :=
  match s.server.exchanges[number]? with
  | none => []
  | some e => (e.state.arrivals (script number schedule)).flatMap Arrival.letters

theorem sent_of_found {number : Nat} {e : Exchange}
    (found : s.server.exchanges[number]? = some e) (schedule : List (Nat × Command)) :
    s.sent number schedule
      = (e.state.arrivals (script number schedule)).flatMap Arrival.letters := by
  simp only [sent, found]

/-- Two schedules send the same to each attempt that runs: the same head, the same bytes in any
chunks, and the same end. No line is longer than the limit. -/
structure SendAlike (s : Session) (one other : List (Nat × Command)) : Prop where
  same : ∀ link ∈ s.links, s.sent link.exchange one = s.sent link.exchange other
  short : ∀ link ∈ s.links,
    IsShort (link.subscription.held ++ (s.sent link.exchange one).flatMap Arrival.bytes)

/-- What two sessions have in common whose attempts have fared alike. -/
structure FaredAlike (one other : Session) : Prop where
  registry : one.ledger.registry = other.ledger.registry
  dropped : one.ledger.snapshot.dropped = other.ledger.snapshot.dropped
  failed : one.ledger.snapshot.failed = other.ledger.snapshot.failed
  inFlight : one.ledger.snapshot.inFlight = other.ledger.snapshot.inFlight
  attempts : one.ledger.snapshot.attempts = other.ledger.snapshot.attempts
  connectionFailures :
    one.ledger.metrics.connectionFailures = other.ledger.metrics.connectionFailures
  responseFailures : one.ledger.metrics.responseFailures = other.ledger.metrics.responseFailures
  timeouts : one.ledger.metrics.timeouts = other.ledger.metrics.timeouts
  /-- And so is all else of the ledger but for what the probes say. -/
  ledger : one.ledger.unprobed = other.ledger.unprobed

theorem FaredAlike.of_ledger {one other : Session}
    (same : one.ledger.unprobed = other.ledger.unprobed) : FaredAlike one other where
  registry := congrArg (·.registry) same
  dropped := congrArg (·.counters.dropped) same
  failed := congrArg (·.counters.failed) same
  inFlight := congrArg (·.registry.inFlight) same
  attempts := congrArg (·.registry.opened) same
  connectionFailures := congrArg (·.metrics.connectionFailures) same
  responseFailures := congrArg (·.metrics.responseFailures) same
  timeouts := congrArg (·.metrics.timeouts) same
  ledger := same

namespace Attended

/-- An attempt fares alike by two schedules that send it the same. -/
theorem fare_eq (h : s.Attended) {one other : List (Nat × Command)} (alike : s.SendAlike one other)
    {link : Link} (runs : link ∈ s.links) {e : Exchange}
    (found : s.server.exchanges[link.exchange]? = some e) :
    let fares := fun schedule =>
      fare link.request e.state link.subscription (script link.exchange schedule)
    (fares one).2 = (fares other).2 ∧ ((fares one).1 = .hungUp ↔ (fares other).1 = .hungUp) := by
  obtain ⟨e', found', -, agrees⟩ := h.wired.linked link runs
  obtain rfl := Option.some.inj (found'.symm.trans found)
  have same := alike.same link runs
  have short := alike.short link runs
  rw [sent_of_found found, sent_of_found found] at same
  rw [sent_of_found found, Arrival.flatMap_bytes_letters] at short
  exact fare_eq_of_letters agrees (h.plain link runs) same short

theorem faredAlike (h : s.Attended) {one other : List (Nat × Command)}
    (alike : s.SendAlike one other) :
    FaredAlike (s.performAll (commands one)) (s.performAll (commands other)) := by
  obtain ⟨ops, first⟩ := h.follows_performAll one
  obtain ⟨ops', second⟩ := h.follows_performAll other
  refine .of_ledger ?_
  rw [first.ledger, second.ledger]
  refine s.ledger.unprobed_run_eq first.still second.still fun id => ?_
  by_cases own : ∃ link ∈ s.links, link.attempt = id
  · obtain ⟨link, runs, rfl⟩ := own
    obtain ⟨e, found, -, -⟩ := h.wired.linked link runs
    rw [(first.each link runs e found).ends, (second.each link runs e found).ends,
      (h.fare_eq alike runs found).1]
  · have others : ∀ link ∈ s.links, link.attempt ≠ id := fun link runs same =>
      own ⟨link, runs, same⟩
    rw [first.strangers id others, second.strangers id others]

/-- The client closes the same connections, those of attempts in any case and those of probes if
the same is sent to them. -/
theorem hungUp_iff (h : s.Attended) {one other : List (Nat × Command)}
    (alike : s.SendAlike one other) {number : Nat}
    (probes : ∀ run ∈ s.probes, run.exchange = number → s.sent number one = s.sent number other) :
    number ∈ (s.performAll (commands one)).server.hungUpNumbers
      ↔ number ∈ (s.performAll (commands other)).server.hungUpNumbers := by
  -- The state in which an exchange ends decides whether it is among those closed.
  have stands {schedule : List (Nat × Command)} {state : ExchangeState}
      (reached : (s.performAll (commands schedule)).server.exchanges[number]?.map (·.state)
        = some state) :
      number ∈ (s.performAll (commands schedule)).server.hungUpNumbers ↔ state = .hungUp := by
    obtain ⟨e, found, rfl⟩ := Option.map_eq_some_iff.mp reached
    simp [Server.hungUpNumbers, Server.mem_numbersWhere, found]
  by_cases own : ∃ link ∈ s.links, link.exchange = number
  · obtain ⟨link, runs, rfl⟩ := own
    obtain ⟨e, found, -, -⟩ := h.wired.linked link runs
    obtain ⟨_, first⟩ := h.follows_performAll one
    obtain ⟨_, second⟩ := h.follows_performAll other
    rw [stands (first.each link runs e found).exchange,
      stands (second.each link runs e found).exchange]
    exact (h.fare_eq alike runs found).2
  · have stranger : ∀ link ∈ s.links, link.exchange ≠ number := fun link runs same =>
      own ⟨link, runs, same⟩
    by_cases probed : ∃ run ∈ s.probes, run.exchange = number
    · obtain ⟨run, runs, rfl⟩ := probed
      obtain ⟨e, found, -⟩ := h.wired.probes run runs
      have same := probes run runs rfl
      rw [sent_of_found found, sent_of_found found] at same
      rw [stands (congrArg (Option.map (·.state)) (h.judge_performAll runs found one)),
        stands (congrArg (Option.map (·.state)) (h.judge_performAll runs found other))]
      exact judge_eq_of_letters same
    · have unprobed : ∀ run ∈ s.probes, run.exchange ≠ number := fun run runs same =>
        probed ⟨run, runs, same⟩
      rw [h.hungUp_of_stranger stranger unprobed, h.hungUp_of_stranger stranger unprobed]

end Attended

/-! ## Schedules as steps

A step settles after its command and an action does not. In a session at rest there is nothing to
settle, and a command changes nothing about that, so the steps of a schedule do just what its
actions do. -/

/-- The steps of a schedule. Each ends with all that can happen while the clock stands still. -/
def commandSteps (schedule : List (Nat × Command)) : List Step :=
  schedule.map fun x => .command x.1 x.2

/-- A session in which nothing happens of itself while the clock stands still: no attempt waits to
start, no alarm is due, no driver ticks without a pause, and the probes are single ones. -/
structure AtRest (s : Session) : Prop where
  opened : s.opened = []
  alarms : ∀ x ∈ s.waiting, s.now < x.1.due
  drivers : ∀ loop ∈ s.drivers, loop.ticker.deadline?.isNone = false
  probes : ∀ run ∈ s.probes, run.loop = none

namespace AtRest

theorem settle_eq (h : s.AtRest) : s.settle = s := by
  have silent : Alarm.ringing s.now s.waiting = [] := by
    have none : s.waiting.filter (fun w => w.1.due ≤ s.now) = [] :=
      List.filter_eq_nil_iff.mpr fun x hx due =>
        Nat.not_le.mpr (h.alarms x hx) (of_decide_eq_true due)
    simp [Alarm.ringing, none]
  have launched : s.launchAll = s := by
    have opened := h.opened
    unfold launchAll
    rw [opened, List.foldl_nil, ← opened]
  have paced : s.drivers.filter (fun l => l.ticker.deadline?.isNone) = [] :=
    List.filter_eq_nil_iff.mpr fun loop hl => by simp [h.drivers loop hl]
  simp only [settle, ringAll, silent, List.foldl_nil, launched, spinDrivers, paced]

/-- Attempts read on and end, single probes end, and no alarm is set. -/
theorem fewer (h : s.AtRest) {s' : Session} (now : s'.now = s.now) (opened : s'.opened = s.opened)
    (links : ∀ link' ∈ s'.links, ∃ link ∈ s.links,
      link'.alarm = link.alarm ∧ link'.attempt = link.attempt)
    (probes : ∀ run ∈ s'.probes, run ∈ s.probes) (drivers : s'.drivers = s.drivers)
    (probers : s'.probers = s.probers) : s'.AtRest where
  opened := opened.trans h.opened
  alarms := by
    intro x hx
    rw [now]
    have alarms := h.alarms x
    simp only [waiting, drivers, probers, List.mem_append, or_assoc] at hx alarms ⊢
    rcases hx with linked | probed | loops
    · obtain ⟨link', hl, rfl⟩ := List.mem_map.mp linked
      obtain ⟨link, member, alarm, attempt⟩ := links link' hl
      refine alarms (Or.inl (List.mem_map.mpr ⟨link, member, ?_⟩))
      rw [alarm, attempt]
    · obtain ⟨run, hr, rfl⟩ := List.mem_map.mp probed
      exact alarms (Or.inr (Or.inl (List.mem_map_of_mem (probes run hr))))
    · exact alarms (Or.inr (Or.inr loops))
  drivers := fun loop hl => h.drivers loop (drivers ▸ hl)
  probes := fun run hr => h.probes run (probes run hr)

/-- A command leaves the session at rest, and does the same as a step and as an action. -/
theorem command (h : s.AtRest) (number : Nat) (c : Command) :
    (s.step (.command number c)).1 = s.perform (.command number c)
      ∧ (s.perform (.command number c)).AtRest := by
  have same : s.command number c = s.perform (.command number c)
      ∧ (s.perform (.command number c)).AtRest := by
    rcases acts : s.server.act number c with ⟨server, seen⟩
    rcases s.command_cases number c acts with
      ⟨-, commands, performs, -⟩
      | ⟨link, -, -, performs, -, ⟨subscription, reads⟩ | ⟨ending, ends⟩⟩
      | ⟨run, runs, -, verdict, fault, -, -, commands, performs, -⟩
    · rw [commands, performs]
      exact ⟨rfl, h.fewer rfl rfl (fun l hl => ⟨l, hl, rfl, rfl⟩) (fun _ hr => hr) rfl rfl⟩
    · rw [performs, reads]
      refine ⟨rfl, h.fewer rfl rfl (fun l' hl => ?_) (fun _ hr => hr) rfl rfl⟩
      obtain ⟨l, member, rfl⟩ := List.mem_map.mp hl
      refine ⟨l, member, ?_⟩
      split <;> exact ⟨rfl, rfl⟩
    · rw [performs, ends]
      exact ⟨rfl, h.fewer rfl rfl (fun l hl => ⟨l, (List.mem_filter.mp hl).1, rfl, rfl⟩)
        (fun _ hr => hr) rfl rfl⟩
    · rw [commands, performs, endProbe_of_single (h.probes run runs)]
      exact ⟨rfl, h.fewer rfl rfl (fun l hl => ⟨l, hl, rfl, rfl⟩)
        (fun _ hr => (List.mem_filter.mp hr).1) rfl rfl⟩
  refine ⟨?_, same.2⟩
  show (s.command number c).settle = _
  rw [same.1]
  exact same.2.settle_eq

/-- A session at rest takes the steps of a schedule as the actions of it. -/
theorem run_eq (h : s.AtRest) (schedule : List (Nat × Command)) :
    s.run (commandSteps schedule) = s.performAll (commands schedule) := by
  induction schedule generalizing s with
  | nil => rfl
  | cons x schedule ih =>
      obtain ⟨same, rests⟩ := h.command x.1 x.2
      show (s.step (.command x.1 x.2)).1.run (commandSteps schedule) = _
      rw [same]
      exact ih rests

end AtRest

/-- **The order between two ticks does not matter.** In any session that is reached in any way, two
schedules of commands for the exchanges, which send each attempt under way the same in its own
order, lead to the same registry, the same drops, failures by kind and attempts under way, and the
client closes the same connections. So it is also if the goal is reached on the way, and an attempt
is greeted and given up in the middle of what is sent to it. -/
theorem churn_confluent (settings : ChurnSettings) (probing : ProbeSettings) (goal : Nat)
    (client : Client) (accepting : Bool) (prompt : Prompt) :
    let first := start settings probing goal client { accepting := accepting, prompt := prompt }
    (∀ (before : List Action) (one other : List (Nat × Command)) (s : Session),
      first.performAll before = s → s.SendAlike one other →
      FaredAlike (s.performAll (commands one)) (s.performAll (commands other))
      ∧ ∀ number,
        (∀ run ∈ s.probes, run.exchange = number → s.sent number one = s.sent number other) →
        (number ∈ (s.performAll (commands one)).server.hungUpNumbers
          ↔ number ∈ (s.performAll (commands other)).server.hungUpNumbers))
    ∧ ∀ steps : List Step, (∃ before, first.performAll before = first.run steps)
      ∧ ((first.run steps).AtRest → ∀ schedule,
        (first.run steps).run (commandSteps schedule)
          = (first.run steps).performAll (commands schedule)) := by
  intro first
  refine ⟨?_, fun steps => ⟨?_, fun rests => rests.run_eq⟩⟩
  · rintro before one other _ rfl alike
    have attended :=
      (attended_start settings probing goal client accepting prompt).performAll before
    exact ⟨attended.faredAlike alike, fun number => attended.hungUp_iff alike⟩
  · exact exists_performAll_eq_run settings probing goal client _ steps

/-- Two attempts at a goal of one drop, the second of which has begun to read. -/
def racing : List Action := [.tick, .tick, .launch 0, .launch 0, .command 1 (.head 200)]

/-- The first attempt is greeted first, and its body ends after that. -/
def inOrder : List (Nat × Command) :=
  [(0, .head 200), (0, .send (Text.utf8 "data: connected\n")),
    (1, .send (Text.utf8 "data: ping\ndata: connected\n")), (0, .close), (1, .drop)]

/-- The second attempt is greeted first, in chunks that end anywhere. -/
def crosswise : List (Nat × Command) :=
  [(1, .send (Text.utf8 "data: ping\ndata: con")), (1, .send (Text.utf8 "nected\n")), (1, .drop),
    (0, .head 200), (0, .send (Text.utf8 "data: connec")), (0, .send (Text.utf8 "ted\n")), (0, .close)]

/-- Whichever of two attempts is greeted first, one of them counts as a drop and both connections
are closed. -/
theorem churn_confluent_racing :
    let first := start { maxInFlight := 2 } {} 1 { base := "http://a" } {}
    let s := first.performAll racing
    let rested := first.run [.tick, .tick, .command 1 (.head 200)]
    s.SendAlike inOrder crosswise
    ∧ (s.performAll (commands inOrder)).ledger.counters.dropped = 1
    ∧ (s.performAll (commands inOrder)).server.hungUpNumbers = [0, 1]
    ∧ FaredAlike (s.performAll (commands inOrder)) (s.performAll (commands crosswise))
    ∧ (∀ number, number ∈ (s.performAll (commands inOrder)).server.hungUpNumbers
      ↔ number ∈ (s.performAll (commands crosswise)).server.hungUpNumbers)
    ∧ rested.AtRest
    ∧ rested.run (commandSteps inOrder) = rested.performAll (commands inOrder) := by
  intro first s rested
  have alike : s.SendAlike inOrder crosswise := ⟨by decide +kernel, by decide +kernel⟩
  have rests : rested.AtRest :=
    ⟨by decide +kernel, by decide +kernel, by decide +kernel, by decide +kernel⟩
  have unprobed : s.probes = [] := by decide +kernel
  obtain ⟨confluent, steps⟩ := churn_confluent { maxInFlight := 2 } {} 1 { base := "http://a" } true
    .never
  obtain ⟨fared, hungUp⟩ := confluent racing inOrder crosswise s rfl alike
  refine ⟨alike, by decide +kernel, by decide +kernel, fared, fun number => hungUp number ?_, rests,
    (steps _).2 rests inOrder⟩
  rw [unprobed]
  exact fun run none => by cases none

end Churn.Session

end StreamLoad
