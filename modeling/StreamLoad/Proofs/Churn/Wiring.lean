import StreamLoad.Proofs.Churn.Performed
import StreamLoad.Proofs.Server

/-! # Attempts and open streams

Each attempt that runs has an exchange of its own at the server, which is open and asks for a
stream; each open exchange that asks for a stream is that of an attempt that runs (`Wired`). For
an attempt ends exactly when its answer does, or is hung up as it ends: whatever ends an answer
ends the search for the greeting as well (`Subscription.Agrees.goesOn`).
-/

set_option autoImplicit false

namespace StreamLoad.Churn.Session

open ChurnLedger (Operation)

/-- The attempts that run and the open streams belong together. -/
structure Wired (s : Session) : Prop where
  nodup : (s.links.map (·.exchange)).Nodup
  linked : ∀ link ∈ s.links, ∃ e, s.server.exchanges[link.exchange]? = some e
    ∧ e.request.asksStream = true ∧ link.subscription.Agrees e.state
  streams : ∀ (number : Nat) (e : Exchange), s.server.exchanges[number]? = some e →
    e.request.asksStream = true →
    s.client.subscribe s.settings.method = .ok e.request
    ∧ (e.state.isOpen = true → ∃ link ∈ s.links, link.exchange = number)
  probes : ∀ run ∈ s.probes, ∃ e, s.server.exchanges[run.exchange]? = some e
    ∧ e.request.asksStream = false

theorem Matched.eq_of_attempt {s : Session} (h : s.Matched) {l link : Link} (hl : l ∈ s.links)
    (hlink : link ∈ s.links) (same : l.attempt = link.attempt) : l = link :=
  List.inj_on_of_nodup_map (List.Nodup.of_append_right h.nodup) hl hlink same

namespace Wired

variable {s s' : Session}

theorem eq_of_exchange (h : s.Wired) {l link : Link} (hl : l ∈ s.links) (hlink : link ∈ s.links)
    (same : l.exchange = link.exchange) : l = link :=
  List.inj_on_of_nodup_map h.nodup hl hlink same

/-- Neither notes nor loops nor the ledger nor the clock have a part in it. -/
theorem congr (h : s.Wired) (settings : s'.settings = s.settings) (client : s'.client = s.client)
    (exchanges : s'.server.exchanges = s.server.exchanges) (links : s'.links = s.links)
    (probes : ∀ run ∈ s'.probes, run ∈ s.probes) : s'.Wired where
  nodup := links ▸ h.nodup
  linked := by
    rw [links, exchanges]
    exact h.linked
  streams := by
    rw [links, exchanges, client, settings]
    exact h.streams
  probes := by
    rw [exchanges]
    exact fun run hr => h.probes run (probes run hr)

/-! ### One exchange changes

A server acts on one exchange at a time and leaves the others as they are (`Server.Touched`). So it
is enough to look at the one exchange concerned, which belongs to no attempt, or to one that reads
on, or to one that ends. -/

section Touched

variable {number : Nat} {server : Server}

/-- An open stream was open before, so it is that of an attempt that ran before. -/
theorem streams_touched (h : s.Wired) (touched : Server.Touched number s.server server)
    {other : Nat} {e : Exchange} (found : server.exchanges[other]? = some e)
    (asks : e.request.asksStream = true) :
    s.client.subscribe s.settings.method = .ok e.request
    ∧ (e.state.isOpen = true → ∃ link ∈ s.links, link.exchange = other) := by
  obtain ⟨old, before, request, opened⟩ := touched.before found
  rw [request] at asks ⊢
  obtain ⟨subscribed, runs⟩ := h.streams other old before asks
  exact ⟨subscribed, fun isOpen => runs (opened isOpen)⟩

theorem probes_touched (h : s.Wired) (touched : Server.Touched number s.server server)
    {run : ProbeRun} (hr : run ∈ s.probes) :
    ∃ e, server.exchanges[run.exchange]? = some e ∧ e.request.asksStream = false := by
  obtain ⟨old, before, asks⟩ := h.probes run hr
  obtain ⟨e, found, request⟩ := touched.after before
  exact ⟨e, found, by rw [request, asks]⟩

/-- Other attempts than the one concerned keep their exchanges. -/
theorem linked_touched (h : s.Wired) (touched : Server.Touched number s.server server)
    {link : Link} (hl : link ∈ s.links) (apart : link.exchange ≠ number) :
    ∃ e, server.exchanges[link.exchange]? = some e ∧ e.request.asksStream = true
      ∧ link.subscription.Agrees e.state := by
  rw [touched.other apart]
  exact h.linked link hl

end Touched

/-- An exchange changes that belongs to no attempt. -/
theorem touch (h : s.Wired) {number : Nat} {server : Server}
    (touched : Server.Touched number s.server server)
    (apart : ∀ link ∈ s.links, link.exchange ≠ number) : Wired { s with server := server } where
  nodup := h.nodup
  linked := fun link hl => h.linked_touched touched hl (apart link hl)
  streams := fun _ _ found asks => h.streams_touched touched found asks
  probes := fun _ hr => h.probes_touched touched hr

/-- The connection of a probe belongs to no attempt. -/
theorem probe_apart (h : s.Wired) {run : ProbeRun} (hr : run ∈ s.probes) :
    ∀ link ∈ s.links, link.exchange ≠ run.exchange := by
  intro link hl same
  obtain ⟨e, found, asks, -⟩ := h.linked link hl
  obtain ⟨e', found', asks'⟩ := h.probes run hr
  rw [same, found'] at found
  cases found
  rw [asks'] at asks
  cases asks

/-- A piece of its answer reaches an attempt, which reads on. -/
theorem read (h : s.Wired) (matched : s.Matched) {link : Link} {c : Command} {server : Server}
    {arrival : Arrival} {subscription : Subscription} (runs : link ∈ s.links)
    (acted : s.server.act link.exchange c = (server, some arrival))
    (goesOn : link.subscription.seekWelcome link.request arrival = .goesOn subscription) :
    Wired (updateLink { s with server := server } link subscription) := by
  have touched := Server.touched_act s.server link.exchange c
  obtain ⟨e, found, asks, agrees⟩ := h.linked link runs
  rw [Server.act_of_found found] at acted touched
  obtain ⟨rfl, acts⟩ := Prod.mk.inj acted
  have exchanges : ∀ l : Link, (if l.attempt = link.attempt then
      { l with subscription := subscription } else l).exchange = l.exchange := by
    intro l
    split <;> rfl
  refine ⟨?_, ?_, ?_, fun _ hr => h.probes_touched touched hr⟩
  · rw [map_updateLink fun _ _ => rfl]
    exact h.nodup
  · intro l' hl'
    obtain ⟨l, hl, rfl⟩ := List.mem_map.mp hl'
    rw [exchanges]
    split
    · -- The attempt that reads agrees with the server again.
      rename_i same
      obtain rfl := matched.eq_of_attempt hl runs same
      exact ⟨_, Server.getElem?_setState found _, asks, agrees.goesOn acts goesOn⟩
    · rename_i apart
      exact h.linked_touched touched hl fun same =>
        apart (congrArg (·.attempt) (h.eq_of_exchange hl runs same))
  · intro number e' found' asks'
    obtain ⟨subscribed, owner⟩ := h.streams_touched touched found' asks'
    refine ⟨subscribed, fun isOpen => ?_⟩
    obtain ⟨l, hl, same⟩ := owner isOpen
    exact ⟨_, List.mem_map_of_mem hl, (exchanges l).trans same⟩

/-- An attempt ends, and its connection with it. -/
theorem close (h : s.Wired) (matched : s.Matched) {link : Link} {server : Server}
    (runs : link ∈ s.links) (touched : Server.Touched link.exchange s.server server)
    (ending : Ending) : Wired (endLink { s with server := server } link ending) := by
  have hungUp := touched.trans (server.touched_hangUp link.exchange)
  refine ⟨h.nodup.sublist (List.filter_sublist.map _), ?_, ?_,
    fun _ hr => h.probes_touched hungUp hr⟩
  · intro l hl
    obtain ⟨hl, apart⟩ := List.mem_filter.mp hl
    exact h.linked_touched hungUp hl fun same =>
      of_decide_eq_true apart (congrArg (·.attempt) (h.eq_of_exchange hl runs same))
  · intro number e found asks
    obtain ⟨subscribed, owner⟩ := h.streams_touched hungUp found asks
    refine ⟨subscribed, fun isOpen => ?_⟩
    obtain ⟨l, hl, rfl⟩ := owner isOpen
    refine ⟨l, List.mem_filter.mpr ⟨hl, decide_eq_true fun same => ?_⟩, rfl⟩
    -- The exchange of the attempt that ends is closed.
    obtain rfl := matched.eq_of_attempt hl runs same
    have closed : e.state.isOpen = false := Server.isOpen_of_hangUp found
    rw [closed] at isOpen
    cases isOpen

/-! ### An exchange begins -/

section Received

variable {number : Nat} {server : Server} {request : Request}

theorem linked_received (h : s.Wired) (received : s.server.receive request = (server, some number))
    {link : Link} (hl : link ∈ s.links) :
    ∃ e, server.exchanges[link.exchange]? = some e ∧ e.request.asksStream = true
      ∧ link.subscription.Agrees e.state := by
  obtain ⟨e, found, rest⟩ := h.linked link hl
  exact ⟨e, (Server.getElem?_receive_of_some received found).1, rest⟩

theorem probes_received (h : s.Wired) (received : s.server.receive request = (server, some number))
    {run : ProbeRun} (hr : run ∈ s.probes) :
    ∃ e, server.exchanges[run.exchange]? = some e ∧ e.request.asksStream = false := by
  obtain ⟨e, found, asks⟩ := h.probes run hr
  exact ⟨e, (Server.getElem?_receive_of_some received found).1, asks⟩

/-- No attempt has the number of a new exchange. -/
theorem new_received (h : s.Wired)
    (received : s.server.receive request = (server, some number)) :
    number ∉ s.links.map (·.exchange) := by
  intro old
  obtain ⟨link, hl, rfl⟩ := List.mem_map.mp old
  obtain ⟨e, found, -⟩ := h.linked link hl
  exact (Server.getElem?_receive_of_some received found).2 rfl

/-- An attempt sends its request. -/
theorem ask (h : s.Wired) {id : Nat} {rest : List Nat}
    (prepared : s.client.subscribe s.settings.method = .ok request)
    (received : s.server.receive request = (server, some number)) :
    Wired
      { s with
        opened := rest
        server := server
        links := s.links ++ [s.linkFor id number request]
        alarms := s.alarms + 1 } where
  nodup := by
    have front : ([number] ++ s.links.map (·.exchange)).Nodup :=
      List.nodup_cons.mpr ⟨h.new_received received, h.nodup⟩
    simpa [linkFor] using List.nodup_append_comm.mp front
  linked := by
    intro link hl
    rcases List.mem_append.mp hl with old | new
    · exact h.linked_received received old
    · rw [List.mem_singleton.mp new]
      exact ⟨_, Server.getElem?_receive received, Client.asksStream_subscribe prepared, trivial⟩
  streams := by
    intro other e found asks
    rcases Server.of_getElem?_receive received found with old | ⟨rfl, rfl⟩
    · obtain ⟨subscribed, runs⟩ := h.streams other e old asks
      refine ⟨subscribed, fun isOpen => ?_⟩
      obtain ⟨link, hl, same⟩ := runs isOpen
      exact ⟨link, List.mem_append_left _ hl, same⟩
    · exact ⟨prepared, fun _ => ⟨_, List.mem_append_right _ List.mem_cons_self, rfl⟩⟩
  probes := fun _ hr => h.probes_received received hr

/-- A probe sends its request, which does not ask for a stream. -/
theorem sendProbe (h : s.Wired) {run : ProbeRun}
    (prepared : s.client.probe = .ok run.request)
    (received : s.server.receive run.request = (server, some run.exchange)) :
    Wired
      { s with server := server, probes := s.probes ++ [run], alarms := s.alarms + 1 } where
  nodup := h.nodup
  linked := fun _ hl => h.linked_received received hl
  streams := by
    intro other e found asks
    rcases Server.of_getElem?_receive received found with old | ⟨-, rfl⟩
    · exact h.streams other e old asks
    · rw [Client.asksStream_probe prepared] at asks
      cases asks
  probes := by
    intro r hr
    rcases List.mem_append.mp hr with old | new
    · exact h.probes_received received old
    · rw [List.mem_singleton.mp new]
      exact ⟨_, Server.getElem?_receive received, Client.asksStream_probe prepared⟩

end Received

end Wired

/-- A move keeps the attempts and the open streams together. -/
theorem Move.wired {s s' : Session} {ops : List Operation} (move : Move s ops s') (h : s.Wired)
    (matched : s.Matched) : s'.Wired := by
  cases move with
  | quiet same =>
      exact h.congr same.settings same.client (by rw [same.server]) same.links same.probes
  | tick => exact h.congr rfl rfl rfl rfl fun _ hr => hr
  | refused failure next => exact h.congr rfl rfl rfl rfl fun _ hr => hr
  | asked next prepared received => exact h.ask prepared received
  | read runs acted goesOn => exact h.read matched runs acted goesOn
  | @ended link ending server runs acted =>
      refine h.close matched runs ?_ ending
      rcases acted with rfl | ⟨c, rfl⟩
      · exact .refl _ _
      · exact Server.touched_act _ _ c
  | acted unseen =>
      rcases unseen with unseen | unseen
      · exact h.congr rfl rfl (Server.act_of_unseen unseen) rfl fun _ hr => hr
      · exact h.touch (Server.touched_act _ _ _) unseen
  | probeSent prepared received => exact h.sendProbe prepared received
  | probeClosed runs => exact h.touch (Server.touched_hangUp _ _) (h.probe_apart runs)
  | probed loop verdict fault => exact h.congr rfl rfl rfl rfl fun _ hr => hr
  | shutDown => exact h.congr rfl rfl rfl rfl fun _ hr => hr

theorem Moves.wired {s s' : Session} {ops : List Operation} (moves : Moves s ops s') (h : s.Wired)
    (matched : s.Matched) : s'.Wired := by
  induction moves with
  | refl s => exact h
  | step move _ ih => exact ih (move.wired h matched) (move.matched matched)

/-- The attempts that run have the open streams for exchanges, each its own. -/
theorem Wired.perm_openStreams {s : Session} (h : s.Wired) :
    (s.links.map (·.exchange)).Perm s.server.openStreams := by
  refine (List.perm_ext_iff_of_nodup h.nodup (Server.nodup_numbersWhere _ _)).mpr fun number => ?_
  constructor
  · intro runs
    obtain ⟨link, hl, rfl⟩ := List.mem_map.mp runs
    obtain ⟨e, found, asks, agrees⟩ := h.linked link hl
    exact Server.mem_openStreams.mpr ⟨e, found, agrees.isOpen, asks⟩
  · intro opened
    obtain ⟨e, found, isOpen, asks⟩ := Server.mem_openStreams.mp opened
    obtain ⟨link, hl, same⟩ := (h.streams number e found asks).2 isOpen
    exact List.mem_map.mpr ⟨link, hl, same⟩

end StreamLoad.Churn.Session
