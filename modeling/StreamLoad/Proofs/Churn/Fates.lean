import StreamLoad.Proofs.Churn.Stages

/-! # How an attempt fares

While the clock stands still an attempt begins and fares in one way only, whatever else goes on in
the session. It waits until it starts, and then it is refused or sends its request on a new exchange
(`Stages.beginning`). From then on it reads what is sent on its exchange, until the search for the
greeting has ended or its time is up (`Stages.fate`), and what is sent on its exchange afterwards is
without effect (`Shut.command_eq`).
-/

set_option autoImplicit false

namespace StreamLoad

namespace Churn.Session

open ChurnLedger (Operation)

variable {s s' : Session}

/-! ## Exchanges that are closed

Once an attempt has ended, nothing is sent on its exchange any more: no exchange opens again, and
new requests get exchanges of their own. What the server is told to do there changes nothing in the
session, the server included. -/

/-- What the client does not see is without effect. -/
theorem command_of_unseen {number : Nat} {c : Command}
    (unseen : (s.server.act number c).2 = none) : s.command number c = s := by
  have same := Server.act_eq_of_unseen unseen
  rcases acts : s.server.act number c with ⟨server, seen⟩
  rw [acts] at unseen same
  cases unseen
  cases same
  simp only [command, acts]

/-- An exchange on which nothing is sent any more. -/
def Shut (s : Session) (number : Nat) : Prop :=
  ∃ e, s.server.exchanges[number]? = some e ∧ e.state.isOpen = false

namespace Shut

variable {number : Nat}

theorem touched {other : Nat} (h : s.Shut number)
    (touched : Server.Touched other s.server s'.server) : s'.Shut number := by
  obtain ⟨e, found, closed⟩ := h
  obtain ⟨e', found', -⟩ := touched.after found
  obtain ⟨old, before, -, opened⟩ := touched.before found'
  obtain rfl := Option.some.inj (found.symm.trans before)
  refine ⟨e', found', ?_⟩
  cases isOpen : e'.state.isOpen with
  | false => rfl
  | true =>
      rw [opened isOpen] at closed
      cases closed

/-- A closed exchange stays closed. -/
theorem move {ops : List Operation} (h : s.Shut number) (move : Move s ops s') :
    s'.Shut number := by
  -- A request takes a new exchange and leaves the old ones.
  have received {request : Request} {new : Nat} {server : Server}
      (received : s.server.receive request = (server, some new)) :
      ∃ e, server.exchanges[number]? = some e ∧ e.state.isOpen = false := by
    obtain ⟨e, found, closed⟩ := h
    exact ⟨e, (Server.getElem?_receive_of_some received found).1, closed⟩
  cases move with
  | quiet same =>
      obtain ⟨e, found, closed⟩ := h
      exact ⟨e, same.server ▸ found, closed⟩
  | asked next prepared taken => exact received taken
  | probeSent prepared taken => exact received taken
  | @read link c server arrival subscription runs acted goesOn =>
      have touched := s.server.touched_act link.exchange c
      rw [acted] at touched
      exact h.touched touched
  | @ended link ending server runs acted =>
      have touched : Server.Touched link.exchange s.server server := by
        rcases acted with rfl | ⟨c, rfl⟩
        · exact .refl _ _
        · exact Server.touched_act _ _ c
      exact h.touched (touched.trans (server.touched_hangUp link.exchange))
  | acted unseen => exact h.touched (Server.touched_act _ _ _)
  | probeClosed runs => exact h.touched (Server.touched_hangUp _ _)
  | tick | refused | probed | shutDown => exact h

theorem leads (h : s.Shut number) (leads : Leads s s') : s'.Shut number := by
  obtain ⟨ops, moves⟩ := leads
  induction moves with
  | refl s => exact h
  | step move _ ih => exact ih (h.move move)

/-- What the server does on a closed exchange is without effect. -/
theorem command_eq (h : s.Shut number) (c : Command) : s.command number c = s := by
  obtain ⟨e, found, closed⟩ := h
  have unseen : (s.server.act number c).2 = none := by
    rw [Server.act_of_found found]
    cases state : e.state with
    | finished | hungUp => rfl
    | waiting | streaming =>
        rw [state] at closed
        cases closed
  exact command_of_unseen unseen

end Shut

/-! ## How an attempt fares

The induction over the stages follows one attempt. A stage on another exchange leaves it where it
is, and so does what happens by itself, unless its time is up. A stage on its own exchange takes it
one command further along `fare`. Once it is over it stays so (`Over.stages`), and nothing more has
to be told of it. -/

/-- An attempt that runs, and where its exchange stands. -/
structure Reads (s : Session) (link : Link) (state : ExchangeState) : Prop where
  runs : link ∈ s.links
  stands : s.server.exchanges[link.exchange]?.map (·.state) = some state

/-- An attempt reads on whose exchange has not changed. -/
theorem Reads.keep {link : Link} {state : ExchangeState} (reads : s.Reads link state)
    (runs : link ∈ s'.links)
    (kept : s'.server.exchanges[link.exchange]? = s.server.exchanges[link.exchange]?) :
    s'.Reads link state where
  runs := runs
  stands := by
    rw [kept]
    exact reads.stands

/-- An attempt that has ended: its end is noted once, and its exchange is closed. -/
structure Over (s : Session) (link : Link) (ending : Ending) : Prop where
  noted : s.endingsOf link.attempt = [ending]
  shut : s.Shut link.exchange

/-- What has become of an attempt that has fared somehow: it reads on, it has ended as its search
has, or its time was up. -/
inductive Fate (s : Session) (link : Link) (outcome : ExchangeState × Subscription.Search) :
    Prop where
  | reads {state : ExchangeState} {next : Subscription} (goes : outcome = (state, .goesOn next))
      (reads : s.Reads { link with subscription := next } state)
  | ended {ending : Ending} (ends : outcome.2.ending? = some ending) (isOver : s.Over link ending)
  | late (due : link.alarm.due ≤ s.now) (isOver : s.Over link .timedOut)

/-- What an attempt has read so far does not matter for what has become of it. -/
theorem Fate.of_read {link : Link} {subscription : Subscription}
    {outcome : ExchangeState × Subscription.Search}
    (fate : Fate s { link with subscription := subscription } outcome) : Fate s link outcome := by
  cases fate with
  | reads goes reads => exact .reads goes reads
  | ended ends isOver => exact .ended ends ⟨isOver.noted, isOver.shut⟩
  | late due isOver => exact .late due ⟨isOver.noted, isOver.shut⟩

/-- Attempts that differ have different exchanges. -/
theorem Attended.exchange_ne (h : s.Attended) {link other : Link} (hl : link ∈ s.links)
    (runs : other ∈ s.links) (apart : link.attempt ≠ other.attempt) :
    link.exchange ≠ other.exchange :=
  fun same => apart (congrArg (·.attempt) (h.wired.eq_of_exchange hl runs same))

/-- An attempt that runs ends, its exchange with it. -/
theorem Chronicled.over_endLink (log : s.Chronicled) (h : s.Attended) {link : Link}
    (runs : link ∈ s.links) {server : Server}
    (touched : Server.Touched link.exchange s.server server) (ending : Ending) :
    Over (endLink { s with server := server } link ending) link ending where
  noted := by
    have underWay := h.matched.runs runs
    have silent := log.silent underWay
    have noted := s.endings_endLink server h.matched.orderly underWay ending
    rw [endingsOf_of_append noted, silent, if_pos rfl, List.nil_append]
  shut := by
    obtain ⟨e, found, -⟩ := h.wired.linked link runs
    obtain ⟨e', found', -⟩ := (touched.trans (server.touched_hangUp link.exchange)).after found
    exact ⟨e', found', Server.isOpen_of_hangUp found'⟩

/-- When another attempt ends, an attempt reads on. -/
theorem Reads.endLink {link other : Link} {state : ExchangeState} (reads : s.Reads link state)
    (h : s.Attended) (runs : other ∈ s.links) (apart : link.attempt ≠ other.attempt)
    {server : Server} (touched : Server.Touched other.exchange s.server server)
    (ending : Ending) : Reads (endLink { s with server := server } other ending) link state := by
  have hungUp := touched.trans (server.touched_hangUp other.exchange)
  exact reads.keep (List.mem_filter.mpr ⟨reads.runs, decide_eq_true apart⟩)
    (hungUp.other (h.exchange_ne reads.runs runs apart))

/-- By itself an attempt reads on, unless its time is up. -/
theorem Stir.fate (stir : Stir s s') (h : s.Attended) (log : s.Chronicled) {link : Link}
    {state : ExchangeState} (reads : s.Reads link state) :
    s'.Reads link state ∨ link.alarm.due ≤ s'.now ∧ s'.Over link .timedOut := by
  cases stir with
  | aside aside =>
      exact Or.inl (reads.keep (aside.links ▸ reads.runs) (aside.exchanges link reads.runs))
  | tick => exact Or.inl ⟨reads.runs, reads.stands⟩
  | refused next unsent => exact Or.inl ⟨reads.runs, reads.stands⟩
  | asked next prepared received =>
      -- The exchange of the attempt is older than the new one.
      obtain ⟨e, found, -⟩ := Option.map_eq_some_iff.mp reads.stands
      have kept := (Server.getElem?_receive_of_some received found).1.trans found.symm
      exact Or.inl (reads.keep (List.mem_append_left _ reads.runs) kept)
  | @alarm other runs due =>
      by_cases own : link.attempt = other.attempt
      · obtain rfl := h.matched.eq_of_attempt reads.runs runs own
        exact Or.inr ⟨due, log.over_endLink h runs (.refl _ s.server) .timedOut⟩
      · exact Or.inl (reads.endLink h runs own (.refl _ s.server) .timedOut)

/-- An attempt hears of what the server does on its exchange. -/
theorem Reads.heard {link : Link} {state : ExchangeState} (reads : s.Reads link state)
    (h : s.Attended) (log : s.Chronicled) {c : Command} {server : Server} {arrival : Arrival}
    (acted : s.server.act link.exchange c = (server, some arrival)) :
    Fate (linkArrival { s with server := server } link arrival) link
      (fare link.request state link.subscription [c]) := by
  obtain ⟨e, found, rfl⟩ := Option.map_eq_some_iff.mp reads.stands
  have touched := s.server.touched_act link.exchange c
  rw [acted] at touched
  rw [Server.act_of_found found] at acted
  obtain ⟨rfl, seen⟩ := Prod.mk.inj acted
  cases sought : link.subscription.seekWelcome link.request arrival with
  | goesOn next =>
      refine @Fate.reads _ _ _ (e.state.act c).1 next ?_ ⟨?_, ?_⟩
      · simp only [fare, seen, sought]
      · simp only [linkArrival, sought]
        exact List.mem_map.mpr ⟨link, reads.runs, if_pos rfl⟩
      · simp only [linkArrival, sought]
        exact congrArg (Option.map (·.state)) (Server.getElem?_setState found _)
  | found | failed failure =>
      have ends := fare_of_ending seen (by rw [sought]; rfl)
      rw [linkArrival_of_ending _ (by rw [sought]; rfl)]
      refine .ended (by rw [ends, sought]; rfl) (log.over_endLink h reads.runs touched _)

theorem Stage.fate {schedule : List (Nat × Command)} (stage : Stage s schedule s')
    (h : s.Attended) (log : s.Chronicled) {link : Link} {state : ExchangeState}
    (reads : s.Reads link state) :
    Fate s' link (fare link.request state link.subscription (script link.exchange schedule)) := by
  cases stage with
  | stir stir =>
      rcases stir.fate h log reads with on | ⟨due, isOver⟩
      · exact .reads rfl on
      · exact .late due isOver
  | @unheard number c unseen =>
      by_cases own : link.exchange = number
      · subst own
        have silent := unseen.resolve_right fun apart => apart link reads.runs rfl
        obtain ⟨e, found, rfl⟩ := Option.map_eq_some_iff.mp reads.stands
        have same := Server.act_eq_of_unseen silent
        have unheard : (e.state.act c).2 = none := by
          rw [Server.act_of_found found] at silent
          exact silent
        refine .reads ?_ (reads.keep reads.runs (by rw [same]))
        rw [script_singleton]
        simp only [fare, unheard]
      · exact .reads (fare_other own c state)
          (reads.keep reads.runs ((s.server.touched_act number c).other own))
  | @heard other c server arrival runs acted =>
      by_cases own : link.exchange = other.exchange
      · obtain rfl := h.wired.eq_of_exchange reads.runs runs own
        rw [script_singleton]
        exact reads.heard h log acted
      · -- What another attempt hears does not concern this one.
        have apart : link.attempt ≠ other.attempt := h.attempt_ne reads.runs runs own
        have touched := s.server.touched_act other.exchange c
        rw [acted] at touched
        refine .reads (fare_other own c state) ?_
        rcases linkArrival_cases other arrival with ⟨subscription, reading⟩ | ⟨ending, ends⟩
        · rw [reading]
          exact reads.keep (List.mem_map.mpr ⟨link, reads.runs, if_neg apart⟩)
            (touched.other own)
        · rw [ends]
          exact reads.endLink h runs apart touched ending

/-- An attempt that is over stays so. -/
theorem Over.stages {schedule : List (Nat × Command)} {link : Link} {ending : Ending}
    (isOver : s.Over link ending) (h : s.Attended) (log : s.Chronicled)
    (stages : Stages s schedule s') : s'.Over link ending :=
  ⟨stages.noted h log isOver.noted, isOver.shut.leads stages.leads⟩

/-- **How an attempt fares.** It reads what is sent on its exchange until the search for the
greeting ends or its time is up. -/
theorem Stages.fate {schedule : List (Nat × Command)} (stages : Stages s schedule s')
    (h : s.Attended) (log : s.Chronicled) {link : Link} {state : ExchangeState}
    (reads : s.Reads link state) :
    Fate s' link (fare link.request state link.subscription (script link.exchange schedule)) := by
  -- What has become of the attempt so far decides how it goes on: only one that reads on can fare.
  induction stages generalizing link state with
  | refl s => exact .reads rfl reads
  | @step s s₁ s' now later stage rest ih =>
      have attended := h.leads stage.leads
      have chronicled := (stage.entered h).chronicled h.matched.orderly log
      rw [script_append, fare_append]
      have fate := stage.fate h log reads
      rcases outcome : fare link.request state link.subscription (script link.exchange now) with
        ⟨reached, search⟩
      rw [outcome] at fate
      cases fate with
      | reads goes reads =>
          cases goes
          exact (ih attended chronicled reads).of_read
      | ended ends isOver =>
          have last := isOver.stages attended chronicled rest
          cases search with
          | goesOn next => cases ends
          | found | failed failure => exact .ended ends last
      | late due isOver =>
          obtain ⟨ops, moves⟩ := rest.leads
          exact .late (moves.frame.2.2.symm ▸ due) (isOver.stages attended chronicled rest)

/-! ## How an attempt begins

A tick opens an attempt, and then it waits until its turn comes to start. Before that the server may
act on other exchanges, and other attempts may start and end, but none of this changes whether the
request can be sent (`Unsent.congr`): neither the address nor the server's readiness to accept
connections changes while the clock stands still. -/

/-- An attempt that is not opened yet, or that waits to start. -/
def Early (s : Session) (id : Nat) : Prop := s.ledger.registry.opened ≤ id ∨ id ∈ s.opened

/-- An attempt whose request has just been sent, on an exchange that was not there before. -/
structure Started (s : Session) (before : Nat) (link : Link) : Prop where
  reads : s.Reads link .waiting
  asked : link.subscription = .asked
  prepared : s.client.subscribe s.settings.method = .ok link.request
  accepting : s.server.accepting = true
  due : link.alarm.due = s.now + s.settings.attemptTimeout
  new : before ≤ link.exchange

/-- How far an attempt has come that has just begun. -/
inductive Beginning (s : Session) (before id : Nat) : Prop where
  | early (early : s.Early id)
  | started (link : Link) (named : link.attempt = id) (started : s.Started before link)
  | refused (fault : RequestFault) (unsent : s.Unsent fault)
      (noted : s.endingsOf id = [.failed (.request fault)])

theorem Early.congr {id : Nat} (early : s.Early id)
    (registry : s'.ledger.registry.opened = s.ledger.registry.opened)
    (opened : s'.opened = s.opened) : s'.Early id := by
  rw [Early, registry, opened]
  exact early

/-- The end of an attempt does not matter to those that wait. -/
theorem Early.endLink {id : Nat} (early : s.Early id) (server : Server) (link : Link)
    (ending : Ending) : Early (endLink { s with server := server } link ending) id := by
  have registry :=
    s.ledger.registry_finish link.attempt s.now s.settings.attemptTimeout ending
  exact early.congr (congrArg (·.opened) registry) rfl

/-- By itself an attempt opens, and starts once it waits. -/
theorem Stir.beginning (stir : Stir s s') (h : s.Attended) (log : s.Chronicled) {before id : Nat}
    (old : before ≤ s.server.exchanges.length) (early : s.Early id) : s'.Beginning before id := by
  cases stir with
  | aside aside => exact .early (early.congr (congrArg (·.opened) aside.registry) aside.opened)
  | tick =>
      rcases s.tick_cases with ⟨registry, opened, -⟩ | ⟨registry, opened, -⟩
      · exact .early (early.congr (congrArg (·.opened) registry) opened)
      · refine .early ?_
        have next : s.tick.1.ledger.registry.opened = s.ledger.registry.opened + 1 := by
          rw [registry]
          rfl
        rw [Early, next, opened, List.mem_append, List.mem_singleton]
        -- An attempt that is next to be opened now waits to start.
        rcases early with unborn | waits
        · omega
        · exact Or.inr (Or.inl waits)
  | @refused other rest fault next unsent =>
      have waits := h.matched.waits (next ▸ List.mem_cons_self)
      have registry := s.ledger.registry_finish other s.now s.settings.attemptTimeout
        (.failed (.request fault))
      rcases early with unborn | waiting
      · exact .early (Or.inl (Nat.le_trans (Nat.le_of_eq (congrArg (·.opened) registry)) unborn))
      · rw [next] at waiting
        rcases List.mem_cons.mp waiting with rfl | later
        · refine .refused fault unsent ?_
          have noted := @endings_finish { s with opened := rest } h.matched.orderly id waits
            (.failed (.request fault))
          have silent := log.silent waits
          rw [endingsOf_of_append (s := s) noted, silent, if_pos rfl, List.nil_append]
        · exact .early (Or.inr later)
  | @asked other number rest request server next prepared received =>
      obtain ⟨exchanges, new⟩ := Server.receive_eq_some received
      rcases early with unborn | waiting
      · exact .early (Or.inl unborn)
      · rw [next] at waiting
        rcases List.mem_cons.mp waiting with rfl | later
        · have accepts := Server.accepting_of_receive received
          refine .started (s.linkFor id number request) rfl
            ⟨⟨List.mem_append_right _ List.mem_cons_self, ?_⟩, rfl, prepared, accepts.2, rfl, ?_⟩
          · exact congrArg (Option.map (·.state)) (Server.getElem?_receive received)
          · exact Nat.le_trans old (Nat.le_of_eq new.symm)
        · exact .early (Or.inr later)
  | @alarm link runs due => exact .early (early.endLink s.server link .timedOut)

theorem Stage.beginning {schedule : List (Nat × Command)} (stage : Stage s schedule s')
    (h : s.Attended) (log : s.Chronicled) {before id : Nat}
    (old : before ≤ s.server.exchanges.length) (early : s.Early id) : s'.Beginning before id := by
  cases stage with
  | stir stir => exact stir.beginning h log old early
  | unheard unseen => exact .early early
  | @heard link c server arrival runs acted =>
      rcases linkArrival_cases link arrival with ⟨subscription, reads⟩ | ⟨ending, ends⟩
      · rw [reads]
        exact .early early
      · rw [ends]
        exact .early (early.endLink server link ending)

/-- The server goes on to accept connections or not, and no exchange is forgotten. -/
theorem Stage.steady {schedule : List (Nat × Command)} (stage : Stage s schedule s') :
    s'.server.accepting = s.server.accepting
    ∧ s.server.exchanges.length ≤ s'.server.exchanges.length := by
  -- To end an attempt is to hang up on its exchange, which stays listed.
  have endLink (server : Server) (link : Link) (ending : Ending)
      (accepting : server.accepting = s.server.accepting)
      (length : s.server.exchanges.length = server.exchanges.length) :
      (Session.endLink { s with server := server } link ending).server.accepting
        = s.server.accepting
      ∧ s.server.exchanges.length
        ≤ (Session.endLink { s with server := server } link ending).server.exchanges.length := by
    refine ⟨(server.accepting_hangUp link.exchange).trans accepting, ?_⟩
    exact Nat.le_of_eq (length.trans (server.touched_hangUp link.exchange).length.symm)
  cases stage with
  | stir stir =>
      cases stir with
      | aside aside => exact ⟨aside.accepting, aside.grows⟩
      | tick | refused => exact ⟨rfl, Nat.le_refl _⟩
      | asked next prepared received =>
          obtain ⟨before, after⟩ := Server.accepting_of_receive received
          refine ⟨after.trans before.symm, ?_⟩
          show s.server.exchanges.length ≤ List.length _
          rw [(Server.receive_eq_some received).1, List.length_append]
          exact Nat.le_add_right _ _
      | @alarm link runs due => exact endLink s.server link .timedOut rfl rfl
  | @unheard number c unseen =>
      exact ⟨s.server.accepting_act number c,
        Nat.le_of_eq (s.server.touched_act number c).length.symm⟩
  | @heard link c server arrival runs acted =>
      have accepting := s.server.accepting_act link.exchange c
      have length := (s.server.touched_act link.exchange c).length
      rw [acted] at accepting length
      rcases linkArrival_cases link arrival with ⟨subscription, reads⟩ | ⟨ending, ends⟩
      · rw [reads]
        exact ⟨accepting, Nat.le_of_eq length.symm⟩
      · rw [ends]
        exact endLink server link ending accepting length.symm

theorem Stages.steady {schedule : List (Nat × Command)} (stages : Stages s schedule s') :
    s'.server.accepting = s.server.accepting
    ∧ s.server.exchanges.length ≤ s'.server.exchanges.length := by
  induction stages with
  | refl s => exact ⟨rfl, Nat.le_refl _⟩
  | step stage _ ih =>
      exact ⟨ih.1.trans stage.steady.1, Nat.le_trans stage.steady.2 ih.2⟩

/-- Whether attempts can send their requests does not change while the clock stands still. -/
theorem Unsent.congr {fault : RequestFault} (unsent : s.Unsent fault)
    (settings : s'.settings = s.settings) (client : s'.client = s.client)
    (accepting : s'.server.accepting = s.server.accepting) : s'.Unsent fault := by
  rw [Unsent, settings, client, accepting]
  exact unsent

theorem script_eq_nil {number : Nat} {schedule : List (Nat × Command)}
    (apart : ∀ x ∈ schedule, x.1 ≠ number) : script number schedule = [] := by
  have none : schedule.filter (·.1 = number) = [] :=
    List.filter_eq_nil_iff.mpr fun x hx => by simpa using apart x hx
  rw [script, none, List.map_nil]

/-- **How an attempt begins.** It waits, it has sent its request and nothing more has happened to
it, or it was refused. -/
theorem Stages.beginning {schedule : List (Nat × Command)} (stages : Stages s schedule s')
    (positive : 0 < s.settings.attemptTimeout) (h : s.Attended) (log : s.Chronicled)
    {before id : Nat} (old : before ≤ s.server.exchanges.length)
    (earlier : ∀ x ∈ schedule, x.1 < before) (early : s.Early id) : s'.Beginning before id := by
  induction stages with
  | refl s => exact .early early
  | @step s s₁ s' now later stage rest ih =>
      have attended := h.leads stage.leads
      have chronicled := (stage.entered h).chronicled h.matched.orderly log
      have earlierThen : ∀ x ∈ later, x.1 < before :=
        fun x hx => earlier x (List.mem_append_right now hx)
      obtain ⟨ops, moves⟩ := stage.leads
      obtain ⟨rops, rmoves⟩ := rest.leads
      obtain ⟨settings, client, time⟩ := rmoves.frame
      cases stage.beginning h log old early with
      | early early =>
          exact ih (moves.frame.1.symm ▸ positive) attended chronicled
            (Nat.le_trans old stage.steady.2) earlierThen early
      | started link named started =>
          -- What the server still does is on exchanges that were there before.
          have silent : script link.exchange later = [] := script_eq_nil fun x hx same =>
            absurd (same ▸ earlierThen x hx) (Nat.not_lt.mpr started.new)
          have fate := rest.fate attended chronicled started.reads
          rw [silent] at fate
          cases fate with
          | reads goes reads =>
              cases goes
              refine .started link named ⟨reads, started.asked, ?_, ?_, ?_, started.new⟩
              · rw [settings, client]
                exact started.prepared
              · exact rest.steady.1.trans started.accepting
              · rw [time, settings]
                exact started.due
          | ended ends isOver => cases ends
          | late due isOver =>
              -- Its time is not up yet, for attempts are allowed some.
              rw [time, started.due, moves.frame.1] at due
              omega
      | refused fault unsent noted =>
          exact .refused fault (unsent.congr settings client rest.steady.1)
            (rest.noted attended chronicled noted)

end Churn.Session

end StreamLoad
