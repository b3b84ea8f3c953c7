import StreamLoad.Subscription

/-! # The exchanges of a server

An action of the server or the client on one exchange leaves the others as they are, keeps the
request, and never opens an exchange again that is closed (`Server.Touched`). Requests for a
stream of events are told by the kind of answer they ask for. A subscription that goes on agrees
with the server on how far the answer has come (`Subscription.Agrees`).
-/

set_option autoImplicit false

namespace StreamLoad

namespace Request

/-- Whether a request asks for a stream of events. -/
def asksStream (r : Request) : Bool := r.accept = "text/event-stream"

theorem accept_of_prepare {method : Method} {accept text : String} {r : Request}
    (prepared : prepare method accept text = .ok r) : r.accept = accept := by
  unfold prepare at prepared
  split at prepared
  · cases prepared
  · split at prepared
    · cases prepared
      rfl
    · cases prepared

end Request

theorem Client.asksStream_subscribe {c : Client} {method : Method} {r : Request}
    (prepared : c.subscribe method = .ok r) : r.asksStream = true := by
  rw [Request.asksStream, Request.accept_of_prepare prepared]
  rfl

theorem Client.asksStream_probe {c : Client} {r : Request} (prepared : c.probe = .ok r) :
    r.asksStream = false := by
  rw [Request.asksStream, Request.accept_of_prepare prepared]
  rfl

namespace ExchangeState

/-- A command opens no exchange that is closed. -/
theorem isOpen_of_act {state : ExchangeState} {c : Command}
    (opened : (state.act c).1.isOpen = true) : state.isOpen = true := by
  cases state with
  | waiting => rfl
  | streaming => rfl
  | finished => exact opened
  | hungUp => exact opened

/-- A command that the client does not see has no effect. -/
theorem act_of_unseen {state : ExchangeState} {c : Command} (unseen : (state.act c).2 = none) :
    (state.act c).1 = state := by
  unfold act at *
  split <;> simp_all

theorem isOpen_hangUp (state : ExchangeState) : state.hangUp.isOpen = false := by
  cases state <;> rfl

end ExchangeState

namespace Server

/-- The requests that the server has taken so far. -/
def requests (s : Server) : List Request := s.exchanges.map (·.request)

/-! ## What touches one exchange

Whatever the server or the client does on an exchange changes its state and nothing else, and never
from closed to open. `Touched` keeps just this, so that a proof about an exchange does not have to
know which of the two has acted, or how often. -/

/-- One server comes from another by a change of the state of one exchange. -/
def Touched (number : Nat) (s s' : Server) : Prop :=
  ∃ f : ExchangeState → ExchangeState, (∀ state, (f state).isOpen = true → state.isOpen = true)
    ∧ s'.exchanges = s.exchanges.modify number fun e => { e with state := f e.state }

namespace Touched

variable {number : Nat} {s s' s'' : Server}

theorem refl (number : Nat) (s : Server) : Touched number s s :=
  ⟨id, fun _ opened => opened, (List.modify_id _ _).symm⟩

theorem trans (first : Touched number s s') (second : Touched number s' s'') :
    Touched number s s'' := by
  obtain ⟨f, hf, exchanges⟩ := first
  obtain ⟨g, hg, exchanges'⟩ := second
  refine ⟨g ∘ f, fun state opened => hf state (hg (f state) opened), ?_⟩
  rw [exchanges', exchanges, List.modify_modify_eq]
  rfl

theorem length (h : Touched number s s') : s'.exchanges.length = s.exchanges.length := by
  obtain ⟨f, -, exchanges⟩ := h
  rw [exchanges, List.length_modify]

theorem other (h : Touched number s s') {other : Nat} (apart : other ≠ number) :
    s'.exchanges[other]? = s.exchanges[other]? := by
  obtain ⟨f, -, exchanges⟩ := h
  rw [exchanges, List.getElem?_modify_ne _ _ apart.symm]

/-- The exchanges after the change are those before it, open at most as before. -/
theorem before (h : Touched number s s') {other : Nat} {e' : Exchange}
    (found : s'.exchanges[other]? = some e') :
    ∃ e, s.exchanges[other]? = some e ∧ e'.request = e.request
      ∧ (e'.state.isOpen = true → e.state.isOpen = true) := by
  obtain ⟨f, hf, exchanges⟩ := h
  rw [exchanges, List.getElem?_modify] at found
  obtain ⟨e, old, rfl⟩ := Option.map_eq_some_iff.mp found
  refine ⟨e, old, ?_⟩
  split
  · exact ⟨rfl, hf e.state⟩
  · exact ⟨rfl, fun opened => opened⟩

theorem after (h : Touched number s s') {other : Nat} {e : Exchange}
    (found : s.exchanges[other]? = some e) :
    ∃ e', s'.exchanges[other]? = some e' ∧ e'.request = e.request := by
  obtain ⟨f, -, exchanges⟩ := h
  rw [exchanges, List.getElem?_modify, found]
  refine ⟨_, rfl, ?_⟩
  split <;> rfl

theorem requests (h : Touched number s s') : s'.requests = s.requests := by
  obtain ⟨f, -, exchanges⟩ := h
  refine List.ext_getElem? fun other => ?_
  rw [Server.requests, Server.requests, List.getElem?_map, List.getElem?_map, exchanges,
    List.getElem?_modify]
  cases s.exchanges[other]? with
  | none => rfl
  | some e =>
      refine congrArg some ?_
      dsimp only
      split <;> rfl

end Touched

theorem act_of_found {s : Server} {number : Nat} {e : Exchange}
    (found : s.exchanges[number]? = some e) (c : Command) :
    s.act number c = (s.setState number (e.state.act c).1, (e.state.act c).2) := by
  simp [act, found]

theorem getElem?_setState {s : Server} {number : Nat} {e : Exchange}
    (found : s.exchanges[number]? = some e) (state : ExchangeState) :
    (s.setState number state).exchanges[number]? = some { e with state := state } := by
  simp [setState, found]

/-- The state of one exchange changes as a function says that takes it to the new state. -/
theorem exchanges_setState {s : Server} {number : Nat} {e : Exchange}
    (found : s.exchanges[number]? = some e) (f : ExchangeState → ExchangeState) :
    (s.setState number (f e.state)).exchanges
      = s.exchanges.modify number fun e => { e with state := f e.state } := by
  refine List.ext_getElem? fun other => ?_
  simp only [setState, List.getElem?_modify]
  by_cases same : number = other
  · rw [← same, found]
    simp
  · simp [same]

theorem touched_act (s : Server) (number : Nat) (c : Command) :
    Touched number s (s.act number c).1 := by
  cases found : s.exchanges[number]? with
  | none =>
      have same : s.act number c = (s, none) := by simp [act, found]
      rw [same]
      exact .refl number s
  | some e =>
      rw [act_of_found found]
      exact ⟨fun state => (state.act c).1, fun _ => ExchangeState.isOpen_of_act,
        exchanges_setState found fun state => (state.act c).1⟩

theorem touched_hangUp (s : Server) (number : Nat) : Touched number s (s.hangUp number) := by
  cases found : s.exchanges[number]? with
  | none =>
      have same : s.hangUp number = s := by simp [hangUp, found]
      rw [same]
      exact .refl number s
  | some e =>
      have changed : s.hangUp number = s.setState number e.state.hangUp := by simp [hangUp, found]
      rw [changed]
      refine ⟨ExchangeState.hangUp, fun state opened => ?_, exchanges_setState found _⟩
      rw [state.isOpen_hangUp] at opened
      cases opened

/-- An exchange is not open once the client has closed it. -/
theorem isOpen_of_hangUp {s : Server} {number : Nat} {e : Exchange}
    (found : (s.hangUp number).exchanges[number]? = some e) : e.state.isOpen = false := by
  cases before : s.exchanges[number]? with
  | none =>
      simp only [hangUp, before] at found
      cases found
  | some old =>
      simp only [hangUp, before, getElem?_setState before, Option.some.injEq] at found
      rw [← found]
      exact old.state.isOpen_hangUp

/-- A command that the client does not see leaves the server as it is. -/
theorem act_of_unseen {s : Server} {number : Nat} {c : Command}
    (unseen : (s.act number c).2 = none) : (s.act number c).1.exchanges = s.exchanges := by
  cases found : s.exchanges[number]? with
  | none => simp [act, found]
  | some e =>
      rw [act_of_found found] at unseen ⊢
      rw [ExchangeState.act_of_unseen unseen]
      exact (exchanges_setState found id).trans (List.modify_id _ _)

theorem act_eq_of_unseen {s : Server} {number : Nat} {c : Command}
    (unseen : (s.act number c).2 = none) : (s.act number c).1 = s := by
  have exchanges := act_of_unseen unseen
  cases found : s.exchanges[number]? with
  | none => simp [act, found]
  | some e =>
      rw [act_of_found found] at exchanges ⊢
      exact congrArg (fun list => { s with exchanges := list }) exchanges

/-- Whether connections are accepted does not depend on what is done on them. -/
theorem accepting_act (s : Server) (number : Nat) (c : Command) :
    (s.act number c).1.accepting = s.accepting := by
  unfold act
  split <;> rfl

theorem accepting_hangUp (s : Server) (number : Nat) :
    (s.hangUp number).accepting = s.accepting := by
  unfold hangUp
  split <;> rfl

/-- Sending changes nothing at the server. -/
theorem act_send (s : Server) (number : Nat) (bytes : List UInt8) :
    (s.act number (.send bytes)).1 = s := by
  cases found : s.exchanges[number]? with
  | none => simp [act, found]
  | some e =>
      have same : (e.state.act (.send bytes)).1 = e.state := by
        cases e.state <;> cases bytes <;> rfl
      have exchanges := (exchanges_setState found id).trans (List.modify_id _ _)
      rw [act_of_found found, same]
      exact congrArg (fun list => { s with exchanges := list }) exchanges

/-- Bytes are seen as one piece of a body that is open, if they are seen at all. -/
theorem act_send_eq_some {s : Server} {number : Nat} {bytes : List UInt8} {arrival : Arrival}
    (seen : (s.act number (.send bytes)).2 = some arrival) :
    bytes ≠ [] ∧ arrival = .body (.chunk bytes)
      ∧ ∃ e, s.exchanges[number]? = some e ∧ e.state = .streaming := by
  cases found : s.exchanges[number]? with
  | none => simp [act, found] at seen
  | some e =>
      rw [act_of_found found] at seen
      cases state : e.state with
      | streaming =>
          cases bytes with
          | nil => simp [state, ExchangeState.act] at seen
          | cons b bytes =>
              simp only [state, ExchangeState.act, Option.some.injEq] at seen
              exact ⟨by simp, seen.symm, e, rfl, state⟩
      | waiting | finished | hungUp => simp [state, ExchangeState.act] at seen

/-! ## What adds an exchange -/

section Received

variable {s s' : Server} {request : Request} {number : Nat}

/-- A request that is taken gets the next number. -/
theorem receive_eq_some (received : s.receive request = (s', some number)) :
    s'.exchanges = s.exchanges ++ [{ request := request }] ∧ number = s.exchanges.length := by
  unfold receive at received
  split at received
  · cases received
    exact ⟨rfl, rfl⟩
  · cases received

theorem getElem?_receive (received : s.receive request = (s', some number)) :
    s'.exchanges[number]? = some { request := request } := by
  obtain ⟨exchanges, rfl⟩ := receive_eq_some received
  rw [exchanges]
  exact List.getElem?_concat_length

theorem getElem?_receive_of_some (received : s.receive request = (s', some number)) {other : Nat}
    {e : Exchange} (found : s.exchanges[other]? = some e) :
    s'.exchanges[other]? = some e ∧ other ≠ number := by
  obtain ⟨exchanges, rfl⟩ := receive_eq_some received
  have bound : other < s.exchanges.length := (List.getElem?_eq_some_iff.mp found).1
  rw [exchanges, List.getElem?_append_left bound]
  exact ⟨found, Nat.ne_of_lt bound⟩

/-- A server that takes a request accepts connections, and goes on to. -/
theorem accepting_of_receive (received : s.receive request = (s', some number)) :
    s.accepting = true ∧ s'.accepting = true := by
  unfold receive at received
  split at received
  · rename_i accepts
    cases received
    exact ⟨accepts, accepts⟩
  · cases received

theorem refuses_of_receive (refused : s.receive request = (s', none)) : s.accepting = false := by
  unfold receive at refused
  split at refused
  · cases refused
  · exact Bool.not_eq_true _ ▸ ‹_›

/-- The exchanges are those from before and the new one. -/
theorem of_getElem?_receive (received : s.receive request = (s', some number)) {other : Nat}
    {e : Exchange} (found : s'.exchanges[other]? = some e) :
    s.exchanges[other]? = some e ∨ other = number ∧ e = { request := request } := by
  by_cases same : other = number
  · rw [same, getElem?_receive received] at found
    exact Or.inr ⟨same, (Option.some.inj found).symm⟩
  · obtain ⟨exchanges, rfl⟩ := receive_eq_some received
    have bound := (List.getElem?_eq_some_iff.mp found).1
    rw [exchanges, List.length_append, List.length_singleton] at bound
    rw [exchanges, List.getElem?_append_left (by omega)] at found
    exact Or.inl found

end Received

/-! ## Numbers of exchanges -/

theorem mem_numbersWhere {s : Server} {p : Exchange → Bool} {number : Nat} :
    number ∈ s.numbersWhere p ↔ ∃ e, s.exchanges[number]? = some e ∧ p e = true := by
  simp only [numbersWhere, List.mem_map, List.mem_filter, List.mem_zipIdx_iff_getElem?]
  constructor
  · rintro ⟨⟨e, n⟩, ⟨found, hp⟩, rfl⟩
    exact ⟨e, found, hp⟩
  · rintro ⟨e, found, hp⟩
    exact ⟨(e, number), ⟨found, hp⟩, rfl⟩

theorem nodup_numbersWhere (s : Server) (p : Exchange → Bool) : (s.numbersWhere p).Nodup := by
  have all : (s.exchanges.zipIdx.map (·.2)).Nodup := by
    rw [List.zipIdx_map_snd]
    exact List.nodup_range'
  exact all.sublist (List.filter_sublist.map _)

/-- The numbers of the requests for a stream that are still open. -/
def openStreams (s : Server) : List Nat :=
  s.numbersWhere fun e => e.state.isOpen && e.request.asksStream

theorem mem_openStreams {s : Server} {number : Nat} :
    number ∈ s.openStreams
      ↔ ∃ e, s.exchanges[number]? = some e ∧ e.state.isOpen = true
        ∧ e.request.asksStream = true := by
  simp [openStreams, mem_numbersWhere]

end Server

/-! ## Subscriptions

The client reads all that has arrived before anything else happens. So while a subscription goes on,
the two sides can only be in step: both before the head, or both within a body of which nothing is
left unread. -/

namespace Subscription

/-- The client and the server agree on an answer that goes on: it has not begun, or all of it
that was sent is read. -/
def Agrees : Subscription → ExchangeState → Prop
  | asked, .waiting => True
  | reading reader, .streaming => reader.inbox = []
  | _, _ => False

theorem Agrees.isOpen {subscription : Subscription} {state : ExchangeState}
    (h : subscription.Agrees state) : state.isOpen = true := by
  cases state with
  | waiting => rfl
  | streaming => rfl
  | finished => cases subscription <;> exact h.elim
  | hungUp => cases subscription <;> exact h.elim

/-- A reader that awaits the greeting has read all that has arrived. -/
theorem inbox_awaitWelcome {r next : Reader} (waits : r.awaitWelcome = (next, none)) :
    next.inbox = [] := by
  -- All pieces are used up before the reader waits for more.
  have pulled : ∀ (items : List BodyItem) (scanner : Scanner),
      Reader.pullWelcome scanner items = (next, none) → next.inbox = [] := by
    intro items
    induction items with
    | nil =>
        intro scanner pulls
        cases pulls
        rfl
    | cons item items ih =>
        intro scanner pulls
        cases item with
        | chunk bytes =>
            simp only [Reader.pullWelcome] at pulls
            split at pulls
            · exact ih _ pulls
            · cases pulls
        | close => cases pulls
        | cut => cases pulls
  unfold Reader.awaitWelcome at waits
  split at waits
  · cases waits
  · exact pulled r.inbox r.scanner waits

/-- A search that goes on in an open stream waits for more of it. -/
theorem awaitWelcome_of_goesOn {request : Request} {subscription next : Subscription}
    {arrival : Arrival} {reader : Reader}
    (received : subscription.receive request arrival = .ok (reading reader))
    (goes : subscription.seekWelcome request arrival = .goesOn next) :
    ∃ later, next = reading later ∧ reader.awaitWelcome = (later, none) := by
  simp only [seekWelcome, received] at goes
  split at goes
  · rename_i later waits
    cases goes
    exact ⟨later, rfl, waits⟩
  · cases goes
  · cases goes

/-- The end of a body, cut or not, ends the search for the greeting. -/
theorem awaitWelcome_of_end {reader later : Reader} {item : BodyItem}
    (read : reader.inbox = []) (last : item = .close ∨ item = .cut)
    (waits : (reader.receive item).awaitWelcome = (later, none)) : False := by
  unfold Reader.awaitWelcome at waits
  split at waits
  · cases waits
  · rcases last with rfl | rfl <;>
      simp [Reader.receive, read, Reader.pullWelcome] at waits

/-- The agreement outlasts what the client reads on from. -/
theorem Agrees.goesOn {request : Request} {subscription next : Subscription}
    {state : ExchangeState} {c : Command} {arrival : Arrival} (h : subscription.Agrees state)
    (acts : (state.act c).2 = some arrival)
    (goes : subscription.seekWelcome request arrival = .goesOn next) :
    next.Agrees (state.act c).1 := by
  cases subscription with
  | asked =>
      obtain rfl : state = .waiting := by
        cases state with
        | waiting => rfl
        | streaming | finished | hungUp => exact h.elim
      cases c with
      | head status =>
          obtain rfl : Arrival.head status = arrival := Option.some.inj acts
          by_cases success : isSuccess status = true
          · by_cases empty : status = noContent
            · -- An answer without a body ends the search at once.
              have received : asked.receive request (.head status)
                  = .ok (reading { inbox := [.close] }) := by
                rw [receive, if_pos success, if_pos empty]
              obtain ⟨later, -, waits⟩ := awaitWelcome_of_goesOn received goes
              cases waits
            · have received : asked.receive request (.head status)
                  = .ok (reading { inbox := [] }) := by
                rw [receive, if_pos success, if_neg empty]
              obtain ⟨later, rfl, waits⟩ := awaitWelcome_of_goesOn received goes
              have opened : (ExchangeState.waiting.act (.head status)).1 = .streaming := by
                simp [ExchangeState.act, success, empty]
              rw [opened]
              exact inbox_awaitWelcome waits
          · simp [seekWelcome, receive, success] at goes
      | drop =>
          obtain rfl : Arrival.lost = arrival := Option.some.inj acts
          simp [seekWelcome, receive] at goes
      | send bytes => cases acts
      | close => cases acts
  | reading reader =>
      obtain rfl : state = .streaming := by
        cases state with
        | streaming => rfl
        | waiting | finished | hungUp => exact h.elim
      cases c with
      | send bytes =>
          cases bytes with
          | nil => cases acts
          | cons b bytes =>
              obtain rfl : Arrival.body (.chunk (b :: bytes)) = arrival := Option.some.inj acts
              obtain ⟨later, rfl, waits⟩ := awaitWelcome_of_goesOn rfl goes
              exact inbox_awaitWelcome waits
      | close =>
          obtain rfl : Arrival.body .close = arrival := Option.some.inj acts
          obtain ⟨later, -, waits⟩ := awaitWelcome_of_goesOn rfl goes
          exact (awaitWelcome_of_end h (Or.inl rfl) waits).elim
      | drop =>
          obtain rfl : Arrival.body .cut = arrival := Option.some.inj acts
          obtain ⟨later, -, waits⟩ := awaitWelcome_of_goesOn rfl goes
          exact (awaitWelcome_of_end h (Or.inr rfl) waits).elim
      | head status => cases acts

end Subscription

end StreamLoad
