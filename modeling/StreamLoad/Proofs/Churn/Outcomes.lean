import StreamLoad.Proofs.Churn.Connections
import StreamLoad.Proofs.Churn.Fates
import StreamLoad.Proofs.Churn.Search

/-! # How an attempt ends

What comes of an attempt that has sent its request is told by what the server does on its exchange
before its time is up: the greeting, the first failure, or nothing, and then its time runs out
(`Session.outcome?`). Nothing else in a session has a part in it, and the end is noted once
(`attempts_end_once`).
-/

set_option autoImplicit false

namespace StreamLoad.Churn.Session

variable {s : Session}

/-! ## Sessions between steps -/

/-- What holds of a session each time it has settled, its log included. -/
structure Sound (s : Session) : Prop extends Settled s where
  plain : ∀ link ∈ s.links, link.subscription.IsPlain
  log : s.Chronicled

theorem sound_start (settings : ChurnSettings) (probing : ProbeSettings) (goal : Nat)
    (client : Client) (accepting : Bool) (prompt : Prompt) :
    (start settings probing goal client { accepting := accepting, prompt := prompt }).Sound where
  toSettled := settled_start settings probing goal client accepting prompt
  plain := by simp [start]
  log := ⟨fun kind => by cases kind <;> rfl, fun _ => rfl⟩

/-- Neither the clock nor the server has a part in the log. -/
theorem Chronicled.begun (log : s.Chronicled) (step : Step) : (s.begun step).Chronicled := by
  cases step <;> exact ⟨log.counted, log.once⟩

namespace Sound

theorem attended (h : s.Sound) : s.Attended := ⟨h.matched, h.wired, h.plain⟩

theorem step (h : s.Sound) (positive : 0 < s.settings.attemptTimeout) (step : Step) :
    (s.step step).1.Sound := by
  have stages := stages_step h.attended step
  have attended := h.attended.begun step
  exact ⟨(h.toSettled.step positive step).1, (attended.leads stages.leads).plain,
    stages.chronicled attended (h.log.begun step)⟩

theorem run (h : s.Sound) (positive : 0 < s.settings.attemptTimeout) (steps : List Step) :
    (s.run steps).Sound ∧ (s.run steps).settings = s.settings := by
  induction steps generalizing s with
  | nil => exact ⟨h, rfl⟩
  | cons step steps ih =>
      have settings := (h.toSettled.step positive step).2.1
      obtain ⟨last, same⟩ := ih (h.step positive step) (settings.symm ▸ positive)
      exact ⟨last, same.trans settings⟩

end Sound

/-! ## One step

`Standing` adds the time to what has become of an attempt: what the server does counts as long as
the attempt has time left. In a step that takes time the server does nothing, so the commands of one
step either all come in time or all come too late. -/

/-- What has come of an attempt by the commands for its exchange that came in time. -/
inductive Standing (s : Session) (link : Link) (told : List Command) : Prop where
  | reads {state : ExchangeState} {next : Subscription}
      (goes : fare link.request .waiting .asked told = (state, .goesOn next))
      (reads : s.Reads { link with subscription := next } state)
  | ended {ending : Ending}
      (ends : (fare link.request .waiting .asked told).2.ending?.or
        (if link.alarm.due ≤ s.now then some .timedOut else none) = some ending)
      (isOver : s.Over link ending)

/-- The server acts only while the clock stands still. -/
theorem schedule_eq_nil (s : Session) {step : Step} (passes : 0 < step.time) :
    s.schedule step = [] := by
  cases step with
  | advance time => rfl
  | tick | probe | run | probeRun | stop | command | commandAll | shutDown =>
      exact absurd passes (Nat.lt_irrefl 0)

theorem Reads.begun {link : Link} {state : ExchangeState} (reads : s.Reads link state)
    (step : Step) : (s.begun step).Reads link state := by
  cases step <;> exact ⟨reads.runs, reads.stands⟩

theorem Over.begun {link : Link} {ending : Ending} (isOver : s.Over link ending) (step : Step) :
    (s.begun step).Over link ending := by
  cases step <;> exact ⟨isOver.noted, isOver.shut⟩

/-- What ends a search ends it whatever comes later. -/
theorem ending?_fare_append {request : Request} {state : ExchangeState}
    {subscription : Subscription} {script : List Command} {ending : Ending}
    (ends : (fare request state subscription script).2.ending? = some ending)
    (later : List Command) :
    (fare request state subscription (script ++ later)).2.ending? = some ending := by
  rw [fare_append]
  rcases fared : fare request state subscription script with ⟨reached, search⟩
  rw [fared] at ends
  cases search with
  | goesOn next => cases ends
  | found | failed failure => exact ends

/-- **One step.** What the server does on the exchange of an attempt counts if the attempt has time
left. -/
theorem Standing.step {link : Link} {told : List Command} (standing : s.Standing link told)
    (h : s.Sound) (positive : 0 < s.settings.attemptTimeout) (step : Step) :
    (s.step step).1.Standing link
      (told ++ if s.now < link.alarm.due then script link.exchange (s.schedule step) else []) := by
  have stages := stages_step h.attended step
  have attended := h.attended.begun step
  have log := h.log.begun step
  have time : (s.step step).1.now = s.now + step.time :=
    (h.toSettled.step positive step).2.2
  cases standing with
  | @ended ending ends isOver =>
      refine .ended ?_ ((isOver.begun step).stages attended log stages)
      by_cases early : s.now < link.alarm.due
      · -- It has not ended by the time, so it has by what it was told.
        rw [if_neg (Nat.not_le.mpr early), Option.or_none] at ends
        rw [ending?_fare_append ends, Option.some_or]
      · have late : link.alarm.due ≤ (s.step step).1.now := by omega
        rw [if_pos (Nat.not_lt.mp early)] at ends
        rw [if_neg early, List.append_nil, if_pos late]
        exact ends
  | @reads state next goes reads =>
      have fresh := h.fresh _ reads.runs
      have early : s.now < link.alarm.due := fresh
      -- A session that has settled has let all alarms ring, so there was time left before the step.
      have fate := (stages.fate attended log (reads.begun step)).of_read
      rw [if_pos early]
      have whole : fare link.request .waiting .asked
          (told ++ script link.exchange (s.schedule step))
          = fare link.request state next (script link.exchange (s.schedule step)) := by
        rw [fare_append, goes]
      cases fate with
      | reads goes' reads' => exact .reads (whole.trans goes') reads'
      | ended ends isOver => exact .ended (by rw [whole, ends, Option.some_or]) isOver
      | late due isOver =>
          -- The clock has gone on in this step, so the server has done nothing in it.
          have passes : 0 < step.time := by omega
          refine .ended ?_ isOver
          rw [whole, s.schedule_eq_nil passes, if_pos due]
          rfl

/-! ## Many steps

Of all that the server does on the exchange of an attempt, `commandsBefore` takes what it does
before the time is up. `outcome?` is what the search makes of these commands, and a timeout if it
makes nothing of them and the time is up. Nothing that comes later takes this back. -/

/-- What the server does on an exchange in some steps before an instant. -/
def commandsBefore (s : Session) (due number : Nat) : List Step → List Command
  | [] => []
  | step :: later =>
      (if s.now < due then script number (s.schedule step) else [])
        ++ (s.step step).1.commandsBefore due number later

/-- What comes in some steps of an attempt that has sent its request, if its time is up at `due`. -/
def outcome? (s : Session) (request : Request) (due number : Nat) (later : List Step) :
    Option Ending :=
  (searchEnd request (ExchangeState.waiting.arrivals (s.commandsBefore due number later))).or
    (if due ≤ (s.run later).now then some .timedOut else none)

/-- An attempt is greeted if it is greeted in time. -/
theorem outcome?_eq_greeted {request : Request} {due number : Nat} {later : List Step} :
    s.outcome? request due number later = some .greeted
      ↔ Greeted (ExchangeState.waiting.arrivals (s.commandsBefore due number later)) := by
  rw [← @searchEnd_eq_greeted request, outcome?, Option.or_eq_some_iff]
  refine or_iff_left fun late => ?_
  rw [Option.ite_none_right_eq_some] at late
  cases late.2.2

theorem Standing.run {link : Link} {told : List Command} (standing : s.Standing link told)
    (h : s.Sound) (positive : 0 < s.settings.attemptTimeout) (later : List Step) :
    (s.run later).Standing link
      (told ++ s.commandsBefore link.alarm.due link.exchange later) := by
  induction later generalizing s told with
  | nil =>
      rw [commandsBefore, List.append_nil]
      exact standing
  | cons step later ih =>
      have settings := (h.toSettled.step positive step).2.1
      rw [commandsBefore, ← List.append_assoc]
      exact ih (standing.step h positive step) (h.step positive step) (settings.symm ▸ positive)

/-- An attempt stands where it has just started. -/
theorem Started.standing {before : Nat} {link : Link} (started : s.Started before link) :
    s.Standing link [] := by
  obtain ⟨attempt, exchange, request, subscription, alarm⟩ := link
  obtain ⟨reads, asked, -⟩ := started
  cases asked
  exact .reads rfl reads

/-- What comes of an attempt is noted, and then it is no longer under way. -/
theorem Started.outcome {before : Nat} {link : Link} (started : s.Started before link)
    (h : s.Sound) (positive : 0 < s.settings.attemptTimeout) (later : List Step) :
    let outcome := s.outcome? link.request link.alarm.due link.exchange later
    (s.run later).endingsOf link.attempt = outcome.toList
    ∧ (link.attempt ∈ (s.run later).ledger.registry.ids ↔ outcome = none)
    ∧ (outcome ≠ none → (s.run later).Shut link.exchange) := by
  have sound := (h.run positive later).1
  have standing := started.standing.run h positive later
  rw [List.nil_append] at standing
  have search := ending?_fare link.request (s.commandsBefore link.alarm.due link.exchange later)
  dsimp only
  unfold outcome?
  cases standing with
  | reads goes reads =>
      have fresh := sound.fresh _ reads.runs
      have early : ¬ link.alarm.due ≤ (s.run later).now := Nat.not_le.mpr fresh
      have runs := sound.matched.runs reads.runs
      have underWay : link.attempt ∈ (s.run later).ledger.registry.ids := runs
      rw [goes] at search
      rw [← search, if_neg early]
      exact ⟨sound.log.silent underWay, iff_of_true underWay rfl, fun ended => absurd rfl ended⟩
  | ended ends isOver =>
      rw [search] at ends
      rw [ends]
      exact ⟨isOver.noted, iff_of_false (sound.log.gone isOver.noted) nofun, fun _ => isOver.shut⟩

/-! ## What comes too late

A greeting may stand in the middle of a chunk. The attempt ends with it, so the bytes behind it are
read by no one, and the session goes on as if the chunk had ended with the greeting. -/

/-- What an attempt sees reaches it alone. -/
theorem Attended.command_of_link (h : s.Attended) {link : Link} (runs : link ∈ s.links)
    {c : Command} {arrival : Arrival} (seen : (s.server.act link.exchange c).2 = some arrival) :
    s.command link.exchange c
      = linkArrival { s with server := (s.server.act link.exchange c).1 } link arrival := by
  rcases acts : s.server.act link.exchange c with ⟨server, arrived⟩
  rw [acts] at seen
  subst seen
  have found : s.links.find? (·.exchange = link.exchange) = some link :=
    find?_of_nodup_map h.wired.nodup runs
  simp only [command, acts, found]

/-- The events of a chunk are among those of a longer one. -/
theorem mem_feed_append {scanner : Scanner} {bytes : List UInt8} {event : Event}
    (found : event ∈ (scanner.feed bytes).2) (more : List UInt8) :
    event ∈ (scanner.feed (bytes ++ more)).2 := by
  rw [Scanner.feed_eq] at found ⊢
  rw [Scanner.scan_append]
  exact List.mem_append_left _ found

/-- A chunk that greets an attempt ends it, whatever else is in the chunk. -/
theorem Attended.command_greeting (h : s.Attended) {link : Link} {scanner : Scanner}
    (runs : { link with subscription := .reading { scanner := scanner } } ∈ s.links)
    {bytes : List UInt8} (seen : (s.server.act link.exchange (.send bytes)).2 ≠ none)
    (greets : .welcome ∈ (scanner.feed bytes).2) :
    s.command link.exchange (.send bytes)
      = s.endLink { link with subscription := .reading { scanner := scanner } } .greeted := by
  obtain ⟨arrival, arrives⟩ := Option.ne_none_iff_exists'.mp seen
  obtain ⟨-, rfl, -⟩ := Server.act_send_eq_some arrives
  rw [h.command_of_link runs arrives, Server.act_send]
  refine linkArrival_of_ending _ ?_
  rw [Subscription.seekWelcome_chunk, if_pos greets]
  rfl

/-- What follows the greeting in one chunk is without effect. -/
theorem Standing.command_send {link : Link} {told : List Command}
    (standing : s.Standing link told) (h : s.Sound) {bytes : List UInt8}
    (greets : (fare link.request .waiting .asked (told ++ [.send bytes])).2.ending?
      = some .greeted) (more : List UInt8) :
    s.command link.exchange (.send (bytes ++ more)) = s.command link.exchange (.send bytes) := by
  cases standing with
  | ended ends isOver => rw [isOver.shut.command_eq, isOver.shut.command_eq]
  | @reads state next goes reads =>
      obtain ⟨e, found, rfl⟩ := Option.map_eq_some_iff.mp reads.stands
      obtain ⟨old, linked, -, agrees⟩ := h.wired.linked _ reads.runs
      obtain rfl := Option.some.inj (found.symm.trans linked)
      have plain : next.IsPlain := h.plain _ reads.runs
      replace greets : (fare link.request e.state next [.send bytes]).2.ending?
          = some .greeted := by
        rwa [fare_append, goes] at greets
      have seen (chunk : List UInt8) : (s.server.act link.exchange (.send chunk)).2
          = (e.state.act (.send chunk)).2 := by
        rw [Server.act_of_found found]
      cases stands : e.state with
      | waiting | finished | hungUp =>
          rw [stands] at greets
          cases greets
      | streaming =>
          rw [stands] at greets agrees seen
          cases bytes with
          | nil => cases greets
          | cons b bytes =>
              cases plain with
              | asked => exact agrees.elim
              | @reading scanner free =>
                  have welcome : .welcome ∈ (scanner.feed (b :: bytes)).2 := by
                    by_contra unseen
                    simp [fare, ExchangeState.act, Subscription.seekWelcome_chunk, unseen,
                      Subscription.Search.ending?] at greets
                  -- Both chunks are seen, and both greet.
                  have sees (chunk : List UInt8) :
                      (s.server.act link.exchange (.send (b :: chunk))).2 ≠ none := by
                    rw [seen]
                    exact Option.some_ne_none _
                  rw [h.attended.command_greeting reads.runs (sees bytes) welcome]
                  exact h.attended.command_greeting reads.runs (sees (bytes ++ more))
                    (mem_feed_append welcome more)

/-! ## All attempts

So far an attempt was followed from where its request is sent. For every attempt there is such a
place: it was opened in one step of the run (`exists_opens`), and by the end of that step it had
been refused or had sent its request (`beginning`). -/

/-- An attempt is opened in a step. -/
def Opens (s : Session) (step : Step) (id : Nat) : Prop :=
  s.ledger.registry.opened ≤ id ∧ id < (s.step step).1.ledger.registry.opened

instance (s : Session) (step : Step) (id : Nat) : Decidable (s.Opens step id) :=
  inferInstanceAs (Decidable (_ ∧ _))

/-- Every attempt was opened in one of the steps. -/
theorem exists_opens (s : Session) (steps : List Step) {id : Nat}
    (unborn : s.ledger.registry.opened ≤ id)
    (opened : id < (s.run steps).ledger.registry.opened) :
    ∃ before step later, steps = before ++ step :: later ∧ (s.run before).Opens step id := by
  induction steps generalizing s with
  | nil => exact absurd opened (Nat.not_lt.mpr unborn)
  | cons step steps ih =>
      by_cases here : id < (s.step step).1.ledger.registry.opened
      · exact ⟨[], step, steps, rfl, unborn, here⟩
      · obtain ⟨before, last, later, rfl, opens⟩ := ih (s.step step).1 (Nat.not_lt.mp here) opened
        exact ⟨step :: before, last, later, rfl, opens⟩

/-- What the server does in a step that has an effect is on exchanges that were there before. -/
theorem exists_stages (h : s.Attended) (step : Step) :
    ∃ schedule, Stages (s.begun step) schedule (s.step step).1
      ∧ ∀ x ∈ schedule, x.1 < (s.begun step).server.exchanges.length := by
  cases step with
  | command number c =>
      by_cases there : number < s.server.exchanges.length
      · exact ⟨_, stages_step h (.command number c), by simpa [schedule, begun] using there⟩
      · -- There is no such exchange, so the command is without effect.
        have unseen : (s.server.act number c).2 = none := by
          simp [Server.act, List.getElem?_eq_none (Nat.not_lt.mp there)]
        refine ⟨[], ?_, by simp⟩
        show Stages s [] (s.command number c).settle
        rw [command_of_unseen unseen]
        exact .of_stirs (stirred_settle s h)
  | commandAll c =>
      refine ⟨_, stages_step h (.commandAll c), fun x hx => ?_⟩
      obtain ⟨number, isOpen, rfl⟩ := List.mem_map.mp hx
      obtain ⟨e, found, -⟩ := Server.mem_numbersWhere.mp isOpen
      exact (List.getElem?_eq_some_iff.mp found).1
  | tick | probe | run | probeRun | stop | advance time | shutDown =>
      exact ⟨_, stages_step h _, fun x hx => by cases hx⟩

namespace Sound

/-- What is noted of an attempt stays noted. -/
theorem noted (h : s.Sound) (positive : 0 < s.settings.attemptTimeout) {id : Nat}
    {ending : Ending} (noted : s.endingsOf id = [ending]) (later : List Step) :
    (s.run later).endingsOf id = [ending] := by
  induction later generalizing s with
  | nil => exact noted
  | cons step later ih =>
      have settings := (h.toSettled.step positive step).2.1
      refine ih (h.step positive step) (settings.symm ▸ positive) ?_
      have before : (s.begun step).endingsOf id = [ending] := by
        cases step <;> exact noted
      exact (stages_step h.attended step).noted (h.attended.begun step) (h.log.begun step) before

/-- An attempt that is opened in a step is refused in it, or it has sent its request by its end. -/
theorem beginning (h : s.Sound) (positive : 0 < s.settings.attemptTimeout) {step : Step} {id : Nat}
    (opens : s.Opens step id) :
    (∃ fault, (s.step step).1.Unsent fault
      ∧ (s.step step).1.endingsOf id = [.failed (.request fault)])
    ∨ ∃ before link, link.attempt = id ∧ (s.step step).1.Started before link := by
  obtain ⟨schedule, stages, earlier⟩ := exists_stages h.attended step
  have frame : (s.begun step).settings = s.settings
      ∧ (s.begun step).ledger.registry.opened = s.ledger.registry.opened := by
    cases step <;> exact ⟨rfl, rfl⟩
  cases stages.beginning (frame.1.symm ▸ positive) (h.attended.begun step) (h.log.begun step)
      (Nat.le_refl _) earlier (Or.inl (frame.2.symm ▸ opens.1)) with
  | early early =>
      -- A session that has settled has started every attempt that it opened.
      rcases early with unborn | waits
      · exact absurd opens.2 (Nat.not_lt.mpr unborn)
      · rw [(h.step positive step).opened] at waits
        cases waits
  | started link named started => exact Or.inr ⟨_, link, named, started⟩
  | refused fault unsent noted => exact Or.inl ⟨fault, unsent, noted⟩

end Sound

/-- What comes of an attempt that has just sent its request, in whatever steps follow. Its time is
up when the time allowed has passed since it was opened. -/
structure EndsOnce (s : Session) (id : Nat) (request : Request) (number : Nat) : Prop where
  opened : ∀ a ∈ s.ledger.registry.attempts, a.id = id → a.openedAt = s.now
  sent : s.server.exchanges[number]? = some { request := request }
  /-- Its end is noted as soon as it has come, and never again. -/
  noted : ∀ later, (s.run later).endingsOf id
    = (s.outcome? request (s.now + s.settings.attemptTimeout) number later).toList
  /-- It is under way until then. -/
  underWay : ∀ later, id ∈ (s.run later).ledger.registry.ids
    ↔ s.outcome? request (s.now + s.settings.attemptTimeout) number later = none
  /-- It is given up if it was greeted in time, and it fails otherwise. -/
  aborted : ∀ later,
    (s.outcome? request (s.now + s.settings.attemptTimeout) number later).map Ending.state
        = some .aborted
      ↔ Greeted (ExchangeState.waiting.arrivals
          (s.commandsBefore (s.now + s.settings.attemptTimeout) number later))
  /-- What is sent on its exchange after its end is as if it had not been sent. -/
  deaf : ∀ later c, s.outcome? request (s.now + s.settings.attemptTimeout) number later ≠ none →
    s.run (later ++ [.command number c]) = s.run (later ++ [.advance 0])
  /-- And so is what follows the greeting in one chunk. -/
  spilt : ∀ later bytes more,
    s.outcome? request (s.now + s.settings.attemptTimeout) number
        (later ++ [.command number (.send bytes)]) = some .greeted →
    s.run (later ++ [.command number (.send (bytes ++ more))])
      = s.run (later ++ [.command number (.send bytes)])

theorem run_append (s : Session) (steps later : List Step) :
    s.run (steps ++ later) = (s.run steps).run later := List.foldl_append

theorem commandsBefore_append (s : Session) (due number : Nat) (steps later : List Step) :
    s.commandsBefore due number (steps ++ later)
      = s.commandsBefore due number steps ++ (s.run steps).commandsBefore due number later := by
  induction steps generalizing s with
  | nil => rfl
  | cons step steps ih =>
      rw [List.cons_append, commandsBefore, commandsBefore, ih, List.append_assoc]
      rfl

theorem Started.endsOnce {before : Nat} {link : Link} (started : s.Started before link)
    (h : s.Sound) (positive : 0 < s.settings.attemptTimeout) :
    s.EndsOnce link.attempt link.request link.exchange where
  opened := by
    intro a ha named
    have running := h.timed.running link started.reads.runs a ha named
    rw [started.due] at running
    omega
  sent := by
    obtain ⟨e, found, asks, -⟩ := h.wired.linked link started.reads.runs
    have prepared := (h.wired.streams link.exchange e found asks).1
    rw [started.prepared] at prepared
    have stands := started.reads.stands
    rw [found] at stands ⊢
    obtain ⟨request, state⟩ := e
    cases prepared
    cases stands
    rfl
  noted := fun later => started.due ▸ (started.outcome h positive later).1
  underWay := fun later => started.due ▸ (started.outcome h positive later).2.1
  aborted := by
    intro later
    rw [← @outcome?_eq_greeted s link.request]
    cases s.outcome? link.request (s.now + s.settings.attemptTimeout) link.exchange later with
    | none => simp
    | some ending => cases ending <;> simp [Ending.state]
  deaf := by
    intro later c ended
    have shut := (started.outcome h positive later).2.2 (started.due ▸ ended)
    rw [run_append, run_append]
    show ((s.run later).command link.exchange c).settle = (s.run later).settle
    rw [shut.command_eq]
  spilt := by
    intro later bytes more greeted
    rw [← started.due, outcome?_eq_greeted, commandsBefore_append] at greeted
    rw [run_append, run_append]
    refine congrArg settle ?_
    show (s.run later).command link.exchange (.send (bytes ++ more))
      = (s.run later).command link.exchange (.send bytes)
    by_cases early : (s.run later).now < link.alarm.due
    · have standing := started.standing.run h positive later
      have sent : (s.run later).commandsBefore link.alarm.due link.exchange
          [.command link.exchange (.send bytes)] = [.send bytes] := by
        rw [commandsBefore, if_pos early, schedule, script_singleton]
        rfl
      rw [sent, ← @searchEnd_eq_greeted link.request, ← ending?_fare] at greeted
      exact standing.command_send (h.run positive later).1 greeted more
    · -- It was greeted before, so that it hears of neither.
      rw [commandsBefore, if_neg early, List.nil_append, commandsBefore, List.append_nil,
        ← @outcome?_eq_greeted s link.request] at greeted
      have shut := (started.outcome h positive later).2.2 (by rw [greeted]; exact Option.some_ne_none _)
      rw [shut.command_eq, shut.command_eq]

/-- What becomes of an attempt that was opened in the step before: it was refused in that step and
is gone, or it has sent its request. -/
inductive Course (s : Session) (id : Nat) : Prop where
  | refused (fault : RequestFault) (unsent : s.Unsent fault)
      (isOver : ∀ later, (s.run later).endingsOf id = [.failed (.request fault)]
        ∧ id ∉ (s.run later).ledger.registry.ids)
  | sent (request : Request) (number : Nat)
      (prepared : s.client.subscribe s.settings.method = .ok request)
      (accepting : s.server.accepting = true) (ends : s.EndsOnce id request number)

theorem Sound.course (h : s.Sound) (positive : 0 < s.settings.attemptTimeout) {step : Step}
    {id : Nat} (opens : s.Opens step id) : (s.step step).1.Course id := by
  have sound := h.step positive step
  have allowed : 0 < (s.step step).1.settings.attemptTimeout :=
    (h.toSettled.step positive step).2.1.symm ▸ positive
  rcases h.beginning positive opens with ⟨fault, unsent, noted⟩ | ⟨before, link, rfl, started⟩
  · -- What is noted stays noted, and an attempt whose end is noted is not under way.
    refine .refused fault unsent fun later => ?_
    have ended := sound.noted allowed noted later
    exact ⟨ended, (sound.run allowed later).1.log.gone ended⟩
  · exact .sent link.request link.exchange started.prepared started.accepting
      (started.endsOnce sound allowed)

/-- **Every attempt ends once, by its outcome.** Each attempt is opened in some step. If its request
cannot be sent, it has failed in that step. If it was sent, what comes of it is told by what the
server does on its exchange before its time is up: it is given up if it is greeted, and otherwise it
fails by the first failure or when its time is up. Its end is noted once and counts as one failure
of one kind if it is one, and it is under way until then. What the server sends to it after its end,
or after the greeting in the same chunk, is without effect on the session. Attempts are allowed some
time, as the check of the settings asks. -/
theorem attempts_end_once (settings : ChurnSettings) (probing : ProbeSettings) (goal : Nat)
    (client : Client) (accepting : Bool) (prompt : Prompt)
    (positive : 0 < settings.attemptTimeout) :
    let first := start settings probing goal client { accepting := accepting, prompt := prompt }
    (∀ steps, (first.run steps).Chronicled
      ∧ ∀ id < (first.run steps).ledger.registry.opened, ∃ before step later,
        steps = before ++ step :: later ∧ (first.run before).Opens step id)
    ∧ ∀ before step id, (first.run before).Opens step id →
      ((first.run before).step step).1.Course id := by
  intro first
  have sound (steps : List Step) :
      (first.run steps).Sound ∧ (first.run steps).settings = settings :=
    (sound_start settings probing goal client accepting prompt).run positive steps
  refine ⟨fun steps => ⟨(sound steps).1.log, fun id opened => ?_⟩, fun before step id opens => ?_⟩
  · exact exists_opens first steps (Nat.zero_le id) opened
  · exact (sound before).1.course ((sound before).2.symm ▸ positive) opens

/-- An attempt that is greeted in the middle of a chunk, before its time is up. -/
def greeting : List Step :=
  [.command 0 (.head 200), .command 0 (.send (Text.utf8 "data: con")), .advance 4,
    .command 0 (.send (Text.utf8 "nected\ndata: ping\n"))]

/-- The attempt opened first is given up once it is greeted, though its body is cut afterwards. One
that is not answered fails when its time is up. -/
theorem attempts_end_once_greeted :
    let first := start { attemptTimeout := 5 } {} 1 { base := "http://a" } {}
    first.Opens .tick 0
    ∧ (first.step .tick).1.Course 0
    ∧ ((first.step .tick).1.run (greeting ++ [.command 0 .drop, .advance 9])).endingsOf 0 = [.greeted]
    ∧ ((first.step .tick).1.run [.command 0 (.head 200), .advance 5]).endingsOf 0 = [.timedOut] := by
  intro first
  have opens : first.Opens .tick 0 := by decide +kernel
  obtain ⟨-, each⟩ := attempts_end_once { attemptTimeout := 5 } {} 1 { base := "http://a" } true
    .never (by decide)
  exact ⟨opens, each [] .tick 0 opens, by decide +kernel, by decide +kernel⟩

end StreamLoad.Churn.Session
