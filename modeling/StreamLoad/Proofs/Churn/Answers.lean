import StreamLoad.Proofs.Churn.Actions
import StreamLoad.Proofs.Churn.Wiring
import StreamLoad.Proofs.Greeting

/-! # What the answers make of the attempts

Between two ticks of the driver the server acts on one exchange after another. How an attempt fares
by that depends on the commands for its own exchange alone, in the order in which they come
(`fare`): the search for the greeting goes on, or it ends and the attempt with it, and what comes
later on the exchange is without effect. So a schedule of commands ends each attempt by what `fare`
says and no other (`follows_performAll`), whatever comes in between.
-/

set_option autoImplicit false

namespace StreamLoad

/-- The end of an attempt whose search has ended. -/
def Subscription.Search.ending? : Subscription.Search → Option Ending
  | .goesOn _ => none
  | .found => some .greeted
  | .failed failure => some (.failed failure)

namespace Churn.Session

open ChurnLedger (Operation)

variable {s s' : Session}

/-! ## Attempts that are attended to -/

/-- What holds of the attempts between any two actions: they are those of the registry, each has an
open exchange of its own, and all that has arrived is read. -/
structure Attended (s : Session) : Prop where
  matched : s.Matched
  wired : s.Wired
  plain : ∀ link ∈ s.links, link.subscription.IsPlain

theorem attended_start (settings : ChurnSettings) (probing : ProbeSettings) (goal : Nat)
    (client : Client) (accepting : Bool) (prompt : Prompt) :
    (start settings probing goal client { accepting := accepting, prompt := prompt }).Attended where
  matched := matched_start settings probing goal client _
  wired := ⟨List.nodup_nil, by simp [start], by simp [start], by simp [start]⟩
  plain := by simp [start]

/-- A move leaves nothing unread. -/
theorem Move.plain {ops : List Operation} (move : Move s ops s')
    (h : ∀ link ∈ s.links, link.subscription.IsPlain) :
    ∀ link ∈ s'.links, link.subscription.IsPlain := by
  cases move with
  | quiet same =>
      rw [same.links]
      exact h
  | asked next prepared received =>
      intro link hl
      rcases List.mem_append.mp hl with old | new
      · exact h link old
      · rw [List.mem_singleton.mp new]
        exact .asked
  | read runs acted goesOn =>
      intro link hl
      obtain ⟨l, member, rfl⟩ := List.mem_map.mp hl
      split
      · exact (h _ runs).goesOn goesOn
      · exact h l member
  | ended ending runs acted => exact fun link hl => h link (List.mem_filter.mp hl).1
  | tick | refused | acted | probeSent | probeClosed | probed | shutDown => exact h

theorem Moves.attended {ops : List Operation} (moves : Moves s ops s') (h : s.Attended) :
    s'.Attended := by
  induction moves with
  | refl s => exact h
  | step move _ ih =>
      exact ih ⟨move.matched h.matched, move.wired h.wired h.matched, move.plain h.plain⟩

/-- What happens while no loop goes on is made of moves. -/
theorem leads_heldBack {f : Session → Session} (leads : ∀ s, Leads s (f s)) (s : Session) :
    Leads s (s.heldBack f) := by
  have still : Leads s { s with drivers := [], probers := [] } :=
    .of_quiet rfl rfl rfl rfl rfl rfl rfl rfl
  refine (still.trans (leads _)).trans ?_
  exact .of_quiet rfl rfl rfl rfl rfl rfl rfl rfl

theorem leads_perform_command (s : Session) (number : Nat) (c : Command) :
    Leads s (s.perform (.command number c)) :=
  leads_heldBack (fun s => leads_command s number c) s

namespace Attended

/-- The clock and the order in which attempts wait to start have no part in it. -/
theorem congr (h : s.Attended) {opened : List Nat} (perm : opened.Perm s.opened) (now : Nat) :
    Attended { s with opened := opened, now := now } where
  matched := ⟨h.matched.orderly, (perm.append_right _).trans h.matched.attempts⟩
  wired := h.wired.congr rfl rfl rfl rfl fun _ hr => hr
  plain := h.plain

theorem leads (h : s.Attended) (leads : Leads s s') : s'.Attended := by
  obtain ⟨ops, moves⟩ := leads
  exact moves.attended h

theorem perform (h : s.Attended) (action : Action) : (s.perform action).Attended := by
  cases action with
  | wait time => exact h.congr (.refl _) (s.now + time)
  | tick => exact h.leads (leads_tick s)
  | launch index =>
      simp only [Session.perform]
      split
      · rename_i id found
        -- The attempts wait in no order, so this one may be the next to start.
        obtain ⟨front, back, opened, rest⟩ := exists_append_of_getElem? found
        have perm : (id :: s.opened.eraseIdx index).Perm s.opened := by
          rw [rest, opened]
          exact List.perm_middle.symm
        have launched : Leads { s with opened := id :: s.opened.eraseIdx index }
            (launch { s with opened := s.opened.eraseIdx index } id) := leads_launch rfl
        exact (h.congr perm s.now).leads launched
      · exact h
  | probe => exact h.leads (leads_startProbe s none)
  | proceed id =>
      simp only [Session.perform]
      split
      · exact h.leads (leads_startProbe s (some id))
      · exact h
  | command number c => exact h.leads (leads_perform_command s number c)
  | alarm waiter => exact h.leads (leads_heldBack (fun s => leads_ring s waiter) s)
  | stop => exact h.leads (leads_stop s)
  | shutDown => exact h.leads (.of_move (.shutDown s))
  | announce => exact h.leads (.of_quiet rfl rfl rfl rfl rfl rfl rfl rfl)
  | arrange drivers probers loops alarms stoppable =>
      exact h.leads (.of_quiet rfl rfl rfl rfl rfl rfl rfl rfl)

theorem performAll (h : s.Attended) (actions : List Action) : (s.performAll actions).Attended := by
  induction actions generalizing s with
  | nil => exact h
  | cons action actions ih => exact ih (h.perform action)

end Attended

/-! ## Schedules

A schedule may have commands for any exchanges, in any order. `script` picks out those for one
exchange, and `fare` says what they do to an attempt on it: only the state of the exchange and the
search so far enter into this, and not the rest of the session. -/

/-- The actions of a schedule, which says in which order the server acts on the exchanges. -/
def commands (schedule : List (Nat × Command)) : List Action :=
  schedule.map fun x => .command x.1 x.2

/-- The commands of a schedule for one exchange, in order. -/
def script (number : Nat) (schedule : List (Nat × Command)) : List Command :=
  (schedule.filter (·.1 = number)).map (·.2)

theorem script_append (number : Nat) (schedule later : List (Nat × Command)) :
    script number (schedule ++ later) = script number schedule ++ script number later := by
  simp [script]

theorem script_singleton (number : Nat) (c : Command) : script number [(number, c)] = [c] := by
  simp [script]

theorem script_singleton_of_ne {number other : Nat} (apart : other ≠ number) (c : Command) :
    script number [(other, c)] = [] := by
  simp [script, apart]

/-- How an attempt fares by the commands for its exchange: where the exchange stands afterwards, and
the search for the greeting. When the search ends, the client closes the connection. -/
def fare (request : Request) :
    ExchangeState → Subscription → List Command → ExchangeState × Subscription.Search
  | state, subscription, [] => (state, .goesOn subscription)
  | state, subscription, c :: rest =>
      match (state.act c).2 with
      | none => fare request state subscription rest
      | some arrival =>
          match subscription.seekWelcome request arrival with
          | .goesOn next => fare request (state.act c).1 next rest
          | .found => ((state.act c).1.hangUp, .found)
          | .failed failure => ((state.act c).1.hangUp, .failed failure)

/-- Commands after others find the exchange and the search as the others have left them. -/
theorem fare_append (request : Request) (state : ExchangeState) (subscription : Subscription)
    (script later : List Command) :
    fare request state subscription (script ++ later) =
      match fare request state subscription script with
      | (next, .goesOn reached) => fare request next reached later
      | ended => ended := by
  induction script generalizing state subscription with
  | nil => rfl
  | cons c script ih =>
      cases seen : (state.act c).2 with
      | none =>
          simp only [List.cons_append, fare, seen]
          exact ih state subscription
      | some arrival =>
          cases sought : subscription.seekWelcome request arrival with
          | goesOn next =>
              simp only [List.cons_append, fare, seen, sought]
              exact ih _ next
          | found | failed failure => simp only [List.cons_append, fare, seen, sought]

/-- An attempt whose search ends with what it sees fares no further. -/
theorem fare_of_ending {request : Request} {state : ExchangeState} {subscription : Subscription}
    {c : Command} {arrival : Arrival} (seen : (state.act c).2 = some arrival) {ending : Ending}
    (sought : (subscription.seekWelcome request arrival).ending? = some ending) :
    fare request state subscription [c]
      = ((state.act c).1.hangUp, subscription.seekWelcome request arrival) := by
  cases search : subscription.seekWelcome request arrival with
  | goesOn next =>
      rw [search] at sought
      cases sought
  | found | failed failure => simp only [fare, seen, search]

/-- An attempt whose search ends with what it sees is over. -/
theorem linkArrival_of_ending (s : Session) {link : Link} {arrival : Arrival} {ending : Ending}
    (sought : (link.subscription.seekWelcome link.request arrival).ending? = some ending) :
    s.linkArrival link arrival = s.endLink link ending := by
  cases search : link.subscription.seekWelcome link.request arrival with
  | goesOn next =>
      rw [search] at sought
      cases sought
  | found | failed failure =>
      rw [search] at sought
      cases sought
      simp only [linkArrival, search]

/-- The client has closed the connection of an attempt that has ended. -/
theorem isOpen_of_fare {request : Request} {state : ExchangeState} {subscription : Subscription}
    {script : List Command} (ended : (fare request state subscription script).2.ending? ≠ none) :
    (fare request state subscription script).1.isOpen = false := by
  induction script generalizing state subscription with
  | nil => exact absurd rfl ended
  | cons c script ih =>
      cases seen : (state.act c).2 with
      | none =>
          simp only [fare, seen] at ended ⊢
          exact ih ended
      | some arrival =>
          cases sought : subscription.seekWelcome request arrival with
          | goesOn next =>
              simp only [fare, seen, sought] at ended ⊢
              exact ih ended
          | found | failed failure =>
              simp only [fare, seen, sought]
              exact ExchangeState.isOpen_hangUp _

/-! ## One command

What a command brings is seen by the attempt on its exchange, or by a probe, or by no one. For each
of these there is one lemma on the session after the command, so that the induction over a schedule
need not look into a command again. -/

/-- What the client does not see has no effect on anything. -/
theorem perform_of_unseen {number : Nat} {c : Command} (unseen : (s.server.act number c).2 = none) :
    s.perform (.command number c) = { s with server := (s.server.act number c).1 } := by
  rcases acts : s.server.act number c with ⟨server, seen⟩
  rw [acts] at unseen
  subst unseen
  simp only [perform, heldBack, command, acts]

/-- What an attempt sees concerns it alone. -/
theorem Wired.perform_of_link (h : s.Wired) {link : Link} (runs : link ∈ s.links) {c : Command}
    {arrival : Arrival} (seen : (s.server.act link.exchange c).2 = some arrival) :
    s.perform (.command link.exchange c)
      = linkArrival { s with server := (s.server.act link.exchange c).1 } link arrival := by
  rcases acts : s.server.act link.exchange c with ⟨server, arrived⟩
  rw [acts] at seen
  subst seen
  have found : s.links.find? (·.exchange = link.exchange) = some link :=
    find?_of_nodup_map h.nodup runs
  simp only [perform, heldBack, command, acts, found]
  rcases linkArrival_cases link arrival with ⟨subscription, reads⟩ | ⟨ending, ends⟩
  · simp only [reads]
    rfl
  · simp only [ends]
    rfl

/-- What is on no exchange of an attempt is of no effect on the attempts; it may end a probe. -/
theorem perform_of_stranger {number : Nat} (stranger : ∀ link ∈ s.links, link.exchange ≠ number)
    (c : Command) :
    ((number ∈ s.probes.map (·.exchange) → (s.server.act number c).2.bind Arrival.verdict? = none)
        ∧ s.perform (.command number c) = { s with server := (s.server.act number c).1 })
      ∨ ∃ run ∈ s.probes, run.exchange = number ∧ ∃ verdict fault,
        (s.server.act number c).2.bind Arrival.verdict? = some verdict
        ∧ s.perform (.command number c)
          = conclude { s with server := (s.server.act number c).1 } run verdict fault := by
  rcases acts : s.server.act number c with ⟨server, seen⟩
  rcases s.command_cases number c acts with
    ⟨unjudged, -, performs, -⟩ | ⟨link, runs, named, -⟩
    | ⟨run, runs, named, verdict, fault, judged, -, -, performs, -⟩
  · exact Or.inl ⟨unjudged, performs⟩
  · exact absurd named (stranger link runs)
  · exact Or.inr ⟨run, runs, named, verdict, fault, judged, performs⟩

/-- A command changes the exchange that it is for and no other. The clock stands still. -/
theorem frame_perform (s : Session) (number : Nat) (c : Command) :
    Server.Touched number s.server (s.perform (.command number c)).server
      ∧ (s.perform (.command number c)).now = s.now
      ∧ (s.perform (.command number c)).settings = s.settings := by
  have acted := s.server.touched_act number c
  rcases acts : s.server.act number c with ⟨server, seen⟩
  rw [acts] at acted
  rcases s.command_cases number c acts with
    ⟨-, -, performs, -⟩ | ⟨link, -, rfl, performs, -, ⟨subscription, reads⟩ | ⟨ending, ends⟩⟩
    | ⟨run, -, rfl, verdict, fault, -, -, -, performs, -⟩
  · rw [performs]
    exact ⟨acted, rfl, rfl⟩
  · rw [performs, reads]
    exact ⟨acted, rfl, rfl⟩
  · rw [performs, ends]
    exact ⟨acted.trans (Server.touched_hangUp _ _), rfl, rfl⟩
  · rw [performs]
    exact ⟨acted.trans (Server.touched_hangUp _ _), rfl, rfl⟩

/-- Nothing comes of a closed exchange any more. -/
theorem Attended.closed_performAll (h : s.Attended) {number : Nat} {e : Exchange}
    (found : s.server.exchanges[number]? = some e) (closed : e.state.isOpen = false)
    (schedule : List (Nat × Command)) :
    (s.performAll (commands schedule)).server.exchanges[number]? = some e := by
  induction schedule generalizing s with
  | nil => exact found
  | cons x schedule ih =>
      obtain ⟨other, c⟩ := x
      refine ih (h.perform (.command other c)) ?_
      by_cases same : other = number
      · subst same
        have unseen : (s.server.act other c).2 = none := by
          rw [Server.act_of_found found]
          cases state : e.state with
          | finished | hungUp => rfl
          | waiting | streaming =>
              rw [state] at closed
              cases closed
        rw [perform_of_unseen unseen]
        exact (congrArg (·[other]?) (Server.act_of_unseen unseen)).trans found
      · rw [(s.frame_perform other c).1.other (Ne.symm same)]
        exact found

/-! ## A schedule

`Follows` is what the induction over a schedule carries along. It speaks of all attempts at once,
since they share a ledger in which the end of each leaves its mark; exchanges and searches of other
attempts stay as they are. -/

/-- What has become of an attempt that ran: its end among the operations, if its search has ended,
and where it reads on from otherwise. -/
structure Fared (s : Session) (link : Link) (outcome : ExchangeState × Subscription.Search)
    (ops : List Operation) (s' : Session) : Prop where
  ends : ops.filter (·.attempt? = some link.attempt)
    = (outcome.2.ending?.map (.finish link.attempt s.now s.settings.attemptTimeout)).toList
  exchange : s'.server.exchanges[link.exchange]?.map (·.state) = some outcome.1
  goesOn : ∀ next, outcome.2 = .goesOn next → { link with subscription := next } ∈ s'.links
  gone : outcome.2.ending? ≠ none → ∀ link' ∈ s'.links, link'.attempt ≠ link.attempt

/-- What a schedule comes to for the attempts. Each of those that run fares as `fare` says; no other
attempt ends, and none begins. -/
structure Follows (s : Session) (schedule : List (Nat × Command)) (ops : List Operation)
    (s' : Session) : Prop where
  ledger : s'.ledger = s.ledger.run ops
  still : ∀ op ∈ ops, ∀ now, op ≠ .tick now
  strangers : ∀ id, (∀ link ∈ s.links, link.attempt ≠ id) → ops.filter (·.attempt? = some id) = []
  older : ∀ link' ∈ s'.links, ∃ link ∈ s.links,
    link.attempt = link'.attempt ∧ link.exchange = link'.exchange
  each : ∀ link ∈ s.links, ∀ e, s.server.exchanges[link.exchange]? = some e →
    Fared s link (fare link.request e.state link.subscription (script link.exchange schedule)) ops s'

/-- Other attempts than the one concerned do not fare at all. -/
theorem fare_other {link : Link} {number : Nat} (apart : link.exchange ≠ number) (c : Command)
    (state : ExchangeState) :
    fare link.request state link.subscription (script link.exchange [(number, c)])
      = (state, .goesOn link.subscription) := by
  rw [script_singleton_of_ne (Ne.symm apart)]
  rfl

/-- An attempt that nothing happens to. -/
theorem Fared.idle {link : Link} (runs : link ∈ s'.links) {e : Exchange}
    (found : s'.server.exchanges[link.exchange]? = some e) {ops : List Operation}
    (still : ops.filter (·.attempt? = some link.attempt) = []) :
    Fared s link (e.state, .goesOn link.subscription) ops s' where
  ends := still
  exchange := by rw [found]; rfl
  goesOn := by
    intro next goes
    cases goes
    exact runs
  gone := fun ended => absurd rfl ended

/-- Probes end no attempt. -/
theorem filter_probed {ops : List Operation} (probes : ∀ op ∈ ops, ∃ verdict, op = .probed verdict)
    (id : Nat) : ops.filter (·.attempt? = some id) = [] := by
  refine List.filter_eq_nil_iff.mpr fun op hop => ?_
  obtain ⟨verdict, rfl⟩ := probes op hop
  simp [Operation.attempt?]

/-- Nothing comes of a command for the attempts. A probe may end. -/
theorem Follows.idle {number : Nat} {c : Command} {ops : List Operation}
    (unheard : ∀ link ∈ s.links, ∀ e, s.server.exchanges[link.exchange]? = some e →
      link.exchange = number → (e.state.act c).2 = none)
    (exchanges : ∀ link ∈ s.links,
      s'.server.exchanges[link.exchange]? = s.server.exchanges[link.exchange]?)
    (links : s'.links = s.links) (ledger : s'.ledger = s.ledger.run ops)
    (probes : ∀ op ∈ ops, ∃ verdict, op = .probed verdict) : Follows s [(number, c)] ops s' where
  ledger := ledger
  still := by
    intro op hop now tick
    obtain ⟨verdict, rfl⟩ := probes op hop
    cases tick
  strangers := fun id _ => filter_probed probes id
  older := fun link hl => ⟨link, links ▸ hl, rfl, rfl⟩
  each := by
    intro link hl e found
    have same : fare link.request e.state link.subscription (script link.exchange [(number, c)])
        = (e.state, .goesOn link.subscription) := by
      by_cases own : link.exchange = number
      · rw [← own, script_singleton, fare, unheard link hl e found own]
        rfl
      · exact fare_other own c e.state
    rw [same]
    exact .idle (links ▸ hl) ((exchanges link hl).trans found) (filter_probed probes _)

namespace Attended

/-- Attempts on different exchanges are different attempts. -/
theorem attempt_ne (h : s.Attended) {link own : Link} (hl : link ∈ s.links) (runs : own ∈ s.links)
    (apart : link.exchange ≠ own.exchange) : link.attempt ≠ own.attempt :=
  fun attempts => apart (congrArg (·.exchange) (h.matched.eq_of_attempt hl runs attempts))

/-- An attempt reads what it sees and goes on. -/
theorem follows_read (h : s.Attended) {own : Link} (runs : own ∈ s.links) {e : Exchange}
    (found : s.server.exchanges[own.exchange]? = some e) {c : Command} {arrival : Arrival}
    (seen : (e.state.act c).2 = some arrival) {next : Subscription}
    (sought : own.subscription.seekWelcome own.request arrival = .goesOn next) :
    Follows s [(own.exchange, c)] [] (s.perform (.command own.exchange c)) := by
  have acted := Server.act_of_found found c
  have touched := (s.frame_perform own.exchange c).1
  have performs : s.perform (.command own.exchange c)
      = updateLink { s with server := s.server.setState own.exchange (e.state.act c).1 } own next := by
    rw [h.wired.perform_of_link runs (by rw [acted]; exact seen), acted]
    simp only [linkArrival, sought]
  rw [performs] at touched ⊢
  refine ⟨rfl, by simp, fun _ _ => rfl, fun link' hl => ?_, fun link hl e' found' => ?_⟩
  · obtain ⟨link, member, rfl⟩ := List.mem_map.mp hl
    refine ⟨link, member, ?_⟩
    split <;> exact ⟨rfl, rfl⟩
  · -- Attempts have exchanges of their own, so the others are not touched.
    by_cases same : link.exchange = own.exchange
    · obtain rfl := h.wired.eq_of_exchange hl runs same
      obtain rfl := Option.some.inj (found.symm.trans found')
      have fares : fare link.request e.state link.subscription
          (script link.exchange [(link.exchange, c)]) = ((e.state.act c).1, .goesOn next) := by
        rw [script_singleton]
        simp only [fare, seen, sought]
      rw [fares]
      refine ⟨rfl, ?_, fun later goes => ?_, fun ended => absurd rfl ended⟩
      · exact congrArg (Option.map (·.state)) (Server.getElem?_setState found _)
      · cases goes
        exact List.mem_map.mpr ⟨link, hl, if_pos rfl⟩
    · have apart := h.attempt_ne hl runs same
      rw [fare_other same]
      refine .idle ?_ ((touched.other same).trans found') rfl
      exact List.mem_map.mpr ⟨link, hl, by simp [apart]⟩

/-- An attempt ends by what it sees. -/
theorem follows_end (h : s.Attended) {own : Link} (runs : own ∈ s.links) {e : Exchange}
    (found : s.server.exchanges[own.exchange]? = some e) {c : Command} {arrival : Arrival}
    (seen : (e.state.act c).2 = some arrival) {ending : Ending}
    (sought : (own.subscription.seekWelcome own.request arrival).ending? = some ending) :
    Follows s [(own.exchange, c)] [.finish own.attempt s.now s.settings.attemptTimeout ending]
      (s.perform (.command own.exchange c)) := by
  have acted := Server.act_of_found found c
  have touched := (s.frame_perform own.exchange c).1
  have reached : (s.server.setState own.exchange (e.state.act c).1).exchanges[own.exchange]?
      = some { e with state := (e.state.act c).1 } := Server.getElem?_setState found _
  have performs : s.perform (.command own.exchange c)
      = endLink { s with server := s.server.setState own.exchange (e.state.act c).1 } own ending := by
    rw [h.wired.perform_of_link runs (by rw [acted]; exact seen), acted,
      linkArrival_of_ending _ sought]
  rw [performs] at touched ⊢
  refine ⟨rfl, by simp, fun id others => ?_, fun link' hl => ?_, fun link hl e' found' => ?_⟩
  · exact List.filter_eq_nil_iff.mpr (by simpa [Operation.attempt?] using others own runs)
  · exact ⟨link', (List.mem_filter.mp hl).1, rfl, rfl⟩
  · -- Attempts have exchanges of their own, so the others are not touched.
    by_cases same : link.exchange = own.exchange
    · obtain rfl := h.wired.eq_of_exchange hl runs same
      obtain rfl := Option.some.inj (found.symm.trans found')
      rw [script_singleton, fare_of_ending seen sought]
      refine ⟨?_, ?_, fun next goes => ?_, fun _ link' member => ?_⟩
      · simp [sought, Operation.attempt?]
      · simp only [endLink, finish, note, Server.hangUp, reached]
        exact congrArg (Option.map (·.state)) (Server.getElem?_setState reached _)
      · simp only at goes
        rw [goes] at sought
        cases sought
      · exact of_decide_eq_true (List.mem_filter.mp member).2
    · have apart := h.attempt_ne hl runs same
      rw [fare_other same]
      refine .idle (List.mem_filter.mpr ⟨hl, decide_eq_true apart⟩)
        ((touched.other same).trans found') ?_
      exact List.filter_eq_nil_iff.mpr (by simpa [Operation.attempt?] using Ne.symm apart)

/-- What one command comes to for the attempts. -/
theorem follows_perform (h : s.Attended) (number : Nat) (c : Command) :
    ∃ ops, Follows s [(number, c)] ops (s.perform (.command number c)) := by
  have touched := (s.frame_perform number c).1
  by_cases own : ∃ link ∈ s.links, link.exchange = number
  · obtain ⟨link, runs, rfl⟩ := own
    obtain ⟨e, found, -, -⟩ := h.wired.linked link runs
    cases seen : (e.state.act c).2 with
    | none =>
        -- What is not seen does not change the exchange either.
        have unseen : (s.server.act link.exchange c).2 = none := by
          rw [Server.act_of_found found]
          exact seen
        rw [perform_of_unseen unseen]
        refine ⟨[], .idle (fun l hl e' found' same => ?_) (fun l hl => ?_) rfl rfl (by simp)⟩
        · rw [same, found] at found'
          cases found'
          exact seen
        · exact congrArg (·[l.exchange]?) (Server.act_of_unseen unseen)
    | some arrival =>
        cases sought : link.subscription.seekWelcome link.request arrival with
        | goesOn next => exact ⟨_, h.follows_read runs found seen sought⟩
        | found => exact ⟨_, h.follows_end runs found seen (by rw [sought]; rfl)⟩
        | failed failure => exact ⟨_, h.follows_end runs found seen (by rw [sought]; rfl)⟩
  · have stranger : ∀ link ∈ s.links, link.exchange ≠ number :=
      fun link runs same => own ⟨link, runs, same⟩
    have others : ∀ link ∈ s.links, (s.perform (.command number c)).server.exchanges[link.exchange]?
        = s.server.exchanges[link.exchange]? := fun link hl => touched.other (stranger link hl)
    have deaf : ∀ link ∈ s.links, ∀ e, s.server.exchanges[link.exchange]? = some e →
        link.exchange = number → (e.state.act c).2 = none :=
      fun link hl _ _ same => absurd same (stranger link hl)
    rcases perform_of_stranger stranger c with ⟨-, acts⟩ | ⟨run, -, -, verdict, fault, -, ends⟩
    · exact ⟨[], .idle deaf others (by rw [acts]) (by rw [acts]; rfl) (by simp)⟩
    · refine ⟨[.probed verdict], .idle deaf others ?_ ?_ (by simp)⟩
      · rw [ends]
        rfl
      · rw [ends]
        rfl

end Attended

/-- An attempt fares by one command and then by the rest. -/
theorem Fared.trans {link : Link} {state : ExchangeState} {x : Nat × Command}
    {schedule : List (Nat × Command)} {first ops : List Operation}
    (fared : Fared s link
      (fare link.request state link.subscription (script link.exchange [x])) first s')
    (attended : s'.Attended) (now : s'.now = s.now)
    (settings : s'.settings = s.settings)
    (rest : Follows s' schedule ops (s'.performAll (commands schedule))) :
    Fared s link
      (fare link.request state link.subscription (script link.exchange (x :: schedule)))
      (first ++ ops) (s'.performAll (commands schedule)) := by
  have whole : script link.exchange (x :: schedule)
      = script link.exchange [x] ++ script link.exchange schedule := script_append _ [x] schedule
  have closed := @isOpen_of_fare link.request state link.subscription (script link.exchange [x])
  rw [whole, fare_append]
  rcases outcome : fare link.request state link.subscription (script link.exchange [x]) with
    ⟨reached, search⟩
  rw [outcome] at fared closed
  obtain ⟨e, found, stands⟩ := Option.map_eq_some_iff.mp fared.exchange
  -- Once it has ended it is gone, so nothing in the rest is about it.
  have ended (ends : search.ending? ≠ none) : Fared s link (reached, search) (first ++ ops)
      (s'.performAll (commands schedule)) := by
    have left := fared.gone ends
    have stays := attended.closed_performAll found (stands ▸ closed ends) schedule
    refine ⟨?_, ?_, fun next goes => ?_, fun _ link' hl same => ?_⟩
    · rw [List.filter_append, rest.strangers link.attempt left, List.append_nil]
      exact fared.ends
    · rw [stays]
      exact congrArg some stands
    · rw [show search = .goesOn next from goes] at ends
      exact absurd rfl ends
    · obtain ⟨old, member, mine, -⟩ := rest.older link' hl
      exact left old member (mine.trans same)
  cases search with
  | goesOn next =>
      have later := rest.each { link with subscription := next } (fared.goesOn next rfl) e found
      rw [stands] at later
      have silent : first.filter (·.attempt? = some link.attempt) = [] := fared.ends
      refine ⟨?_, later.exchange, later.goesOn, later.gone⟩
      rw [List.filter_append, silent, List.nil_append, ← now, ← settings]
      exact later.ends
  | found => exact ended (by simp [Subscription.Search.ending?])
  | failed failure => exact ended (by simp [Subscription.Search.ending?])

/-- **What a schedule comes to.** Each attempt fares by the commands for its exchange alone. -/
theorem Attended.follows_performAll (h : s.Attended) (schedule : List (Nat × Command)) :
    ∃ ops, Follows s schedule ops (s.performAll (commands schedule)) := by
  induction schedule generalizing s with
  | nil =>
      exact ⟨[], rfl, by simp, fun _ _ => rfl, fun link hl => ⟨link, hl, rfl, rfl⟩,
        fun link hl e found => .idle hl found rfl⟩
  | cons x schedule ih =>
      obtain ⟨number, c⟩ := x
      have next := h.perform (.command number c)
      obtain ⟨first, one⟩ := h.follows_perform number c
      obtain ⟨ops, rest⟩ := ih next
      obtain ⟨-, now, settings⟩ := s.frame_perform number c
      refine ⟨first ++ ops, ?_, fun op hop => ?_, fun id others => ?_, fun link' hl => ?_,
        fun link hl e found => ?_⟩
      · rw [ChurnLedger.run_append, ← one.ledger]
        exact rest.ledger
      · rcases List.mem_append.mp hop with now | later
        · exact one.still op now
        · exact rest.still op later
      · have gone : ∀ link ∈ (s.perform (.command number c)).links, link.attempt ≠ id := by
          intro link hl same
          obtain ⟨old, member, mine, -⟩ := one.older link hl
          exact others old member (mine.trans same)
        rw [List.filter_append, one.strangers id others, rest.strangers id gone]
        rfl
      · obtain ⟨link, member, mine, exchange⟩ := rest.older link' hl
        obtain ⟨old, runs, mine', exchange'⟩ := one.older link member
        exact ⟨old, runs, mine'.trans mine, exchange'.trans exchange⟩
      · exact (one.each link hl e found).trans next now settings rest

end Churn.Session

end StreamLoad
