import StreamLoad.Proofs.Churn.Actions
import StreamLoad.Proofs.Server

/-! # What an action comes to

An action of a session comes to one of a few things: the driver ticks, an attempt starts or ends, a
probe starts or ends, or nothing that counts (`Effect`). What arrives on an exchange concerns an
attempt or a probe and never both, since no attempt has the exchange of a probe (`Numbered`). So an
action that churns brings no probe to its end (`Numbered.effect`).
-/

set_option autoImplicit false

namespace StreamLoad.Churn.Session

variable {s s' : Session}

/-! ## Exchanges of attempts and of probes

Attempts and probes get their exchanges from the same server. Each new exchange has a number that
none has had before, and no exchange changes hands, so the two never meet on one. -/

/-- No attempt has the exchange of a probe. -/
structure Numbered (s : Session) : Prop where
  links : ∀ link ∈ s.links, link.exchange < s.server.exchanges.length
  probes : ∀ run ∈ s.probes, run.exchange < s.server.exchanges.length
  apart : ∀ link ∈ s.links, ∀ run ∈ s.probes, link.exchange ≠ run.exchange

namespace Numbered

theorem start (settings : ChurnSettings) (probing : ProbeSettings) (goal : Nat) (client : Client)
    (server : Server) : (Session.start settings probing goal client server).Numbered where
  links := by simp [Session.start]
  probes := by simp [Session.start]
  apart := by simp [Session.start]

/-- Attempts read on and end, probes end, and no exchange begins. -/
theorem fewer (h : s.Numbered)
    (links : ∀ link' ∈ s'.links, ∃ link ∈ s.links, link'.exchange = link.exchange)
    (probes : ∀ run ∈ s'.probes, run ∈ s.probes)
    (exchanges : s'.server.exchanges.length = s.server.exchanges.length) : s'.Numbered where
  links := by
    intro link' hl
    obtain ⟨link, member, same⟩ := links link' hl
    rw [same, exchanges]
    exact h.links link member
  probes := by
    intro run hr
    rw [exchanges]
    exact h.probes run (probes run hr)
  apart := by
    intro link' hl run hr
    obtain ⟨link, member, same⟩ := links link' hl
    rw [same]
    exact h.apart link member run (probes run hr)

/-- An exchange begins, for an attempt or for a probe; its number is a new one. -/
theorem grow (h : s.Numbered) {request : Request} {number : Nat} {server : Server}
    (received : s.server.receive request = (server, some number)) (exchanges : s'.server = server)
    (links : ∀ link ∈ s'.links, link ∈ s.links ∨ link.exchange = number)
    (probes : ∀ run ∈ s'.probes, run ∈ s.probes ∨ run.exchange = number)
    (one : (∀ link ∈ s'.links, link ∈ s.links) ∨ ∀ run ∈ s'.probes, run ∈ s.probes) :
    s'.Numbered := by
  -- The new number comes after those of all attempts and probes there are.
  obtain ⟨list, new⟩ := Server.receive_eq_some received
  have length : s'.server.exchanges.length = s.server.exchanges.length + 1 := by
    rw [exchanges, list, List.length_append, List.length_singleton]
  refine ⟨fun link hl => ?_, fun run hr => ?_, fun link hl run hr => ?_⟩
  · rcases links link hl with old | named
    · have := h.links link old
      omega
    · omega
  · rcases probes run hr with old | named
    · have := h.probes run old
      omega
    · omega
  · rcases one with same | same
    · have bound := h.links link (same link hl)
      rcases probes run hr with old | named
      · exact h.apart link (same link hl) run old
      · omega
    · have bound := h.probes run (same run hr)
      rcases links link hl with old | named
      · exact h.apart link old run (same run hr)
      · omega

end Numbered

/-! ## Effects

A command may concern an attempt, a probe or no one, and many actions come to the same. So `Effect`
has one case for each thing that may come of an action rather than one for each action, and what is
to be shown of all actions is shown of these few. -/

/-- What an action comes to: whether it churns, the verdict of the probe that it brings to its end,
and the session after it. -/
inductive Effect (s : Session) : Bool → Option Verdict → Session → Prop where
  /-- Nothing is counted. An attempt may have read on, and a probe may be given up. -/
  | still {churns : Bool} {s' : Session} (ledger : s'.ledger = s.ledger)
      (acceptances : s'.acceptances = s.acceptances)
      (links : ∀ link' ∈ s'.links, ∃ link ∈ s.links, link'.exchange = link.exchange)
      (probes : s'.probes.Sublist s.probes)
      (exchanges : s'.server.exchanges.length = s.server.exchanges.length) :
      Effect s churns none s'
  | ticks : Effect s true none s.tick.1
  | launches (opened : List Nat) (id : Nat) :
      Effect s true none (launch { s with opened := opened } id)
  | ends {number : Nat} {server : Server} (touched : Server.Touched number s.server server)
      (link : Link) (ending : Ending) :
      Effect s true none (endLink { s with server := server } link ending)
  /-- A probe starts, but none of a loop that has one under way. -/
  | starts (loop : Option Nat) (free : ∀ id, loop = some id → s.outstanding id = []) :
      Effect s false (s.refusal? loop) (s.startProbe loop).1
  | concludes {number : Nat} {server : Server} (touched : Server.Touched number s.server server)
      (run : ProbeRun) (verdict : Verdict) {fault : List ChurnNotice}
      (silent : fault.filterMap ChurnNotice.verdict? = []) :
      Effect s false (some verdict) (conclude { s with server := server } run verdict fault)

/-- Neither attempts nor probes have a part in it. -/
theorem Effect.idle {churns : Bool} (ledger : s'.ledger = s.ledger)
    (acceptances : s'.acceptances = s.acceptances) (links : s'.links = s.links)
    (probes : s'.probes = s.probes)
    (exchanges : s'.server.exchanges.length = s.server.exchanges.length) :
    Effect s churns none s' :=
  .still ledger acceptances (fun link hl => ⟨link, links ▸ hl, rfl⟩) (probes ▸ .refl _) exchanges

theorem Effect.refl (s : Session) {churns : Bool} : Effect s churns none s :=
  .idle rfl rfl rfl rfl rfl

/-- Giving up probes closes their exchanges, and all exchanges keep their numbers. -/
theorem length_exchanges_stop (s : Session) :
    s.stop.server.exchanges.length = s.server.exchanges.length := by
  have hangUps : ∀ (cancelled : List ProbeRun) (server : Server),
      (cancelled.foldl (fun server run => server.hangUp run.exchange) server).exchanges.length
        = server.exchanges.length := by
    intro cancelled
    induction cancelled with
    | nil => exact fun _ => rfl
    | cons run cancelled ih =>
        exact fun server => (ih _).trans (server.touched_hangUp run.exchange).length
  exact hangUps _ s.server

namespace Numbered

/-- What a command comes to. -/
theorem effect_command (h : s.Numbered) (number : Nat) (c : Command) :
    Effect s (s.churns (.command number c)) (s.completion? (.command number c))
      (s.perform (.command number c)) := by
  have touched := s.server.touched_act number c
  rcases acts : s.server.act number c with ⟨server, seen⟩
  rw [acts] at touched
  have completion : s.completion? (.command number c)
      = if number ∈ s.probes.map (·.exchange) then seen.bind Arrival.verdict? else none := by
    simp only [completion?, acts]
  rcases s.command_cases number c acts with
    ⟨unseen, -, performs, -⟩ | ⟨link, runs, named, performs, -, reached⟩
    | ⟨run, runs, named, verdict, fault, judged, silent, -, performs, -⟩
  · have unjudged : s.completion? (.command number c) = none := by
      rw [completion]
      split
      · exact unseen ‹_›
      · rfl
    rw [unjudged, performs]
    exact .idle rfl rfl rfl rfl touched.length
  · -- The exchange is that of an attempt, so it is not that of a probe.
    have stranger : number ∉ s.probes.map (·.exchange) := by
      intro known
      obtain ⟨run, hr, same⟩ := List.mem_map.mp known
      exact h.apart link runs run hr (named.trans same.symm)
    have churns : s.churns (.command number c) = true :=
      decide_eq_true (List.mem_map.mpr ⟨link, runs, named⟩)
    rw [churns, completion, if_neg stranger, performs]
    rcases reached with ⟨subscription, reads⟩ | ⟨ending, ends⟩
    · rw [reads]
      refine .still rfl rfl (fun link' hl => ?_) (.refl _) touched.length
      obtain ⟨l, member, rfl⟩ := List.mem_map.mp hl
      refine ⟨l, member, ?_⟩
      split <;> rfl
    · rw [ends]
      exact .ends touched link ending
  · -- The exchange is that of a probe, so it is not that of an attempt.
    have known : number ∈ s.probes.map (·.exchange) := List.mem_map.mpr ⟨run, runs, named⟩
    have stranger : number ∉ s.links.map (·.exchange) := by
      intro linked
      obtain ⟨link, hl, same⟩ := List.mem_map.mp linked
      exact h.apart link hl run runs (same.trans named.symm)
    have churns : s.churns (.command number c) = false := decide_eq_false stranger
    rw [churns, completion, if_pos known, judged, performs]
    exact .concludes touched run verdict silent

/-- What an alarm comes to. The loops are held back, so only attempts and probes hear theirs. -/
theorem effect_alarm (s : Session) (waiter : Waiter) :
    Effect s (s.churns (.alarm waiter)) (s.completion? (.alarm waiter))
      (s.perform (.alarm waiter)) := by
  cases waiter with
  | driver id => exact .idle rfl rfl rfl rfl rfl
  | prober id => exact .idle rfl rfl rfl rfl rfl
  | link attempt =>
      obtain ⟨performs, still | ⟨link, -, ends⟩⟩ := s.ring_link_cases attempt
      · rw [performs, still]
        exact .refl s
      · rw [performs, ends]
        exact .ends (.refl attempt s.server) link .timedOut
  | probe number =>
      rcases s.ring_probe_cases number with
        ⟨unknown, -, still, -⟩ | ⟨run, runs, named, -, performs, -⟩
      · have unjudged : s.completion? (.alarm (.probe number)) = none := if_neg unknown
        rw [unjudged, still]
        exact .refl s
      · have judged : s.completion? (.alarm (.probe number)) = some .timedOut :=
          if_pos (List.mem_map.mpr ⟨run, runs, named⟩)
        have silent : ([] : List ChurnNotice).filterMap ChurnNotice.verdict? = [] := rfl
        rw [judged, performs]
        exact .concludes (.refl number s.server) run .timedOut silent

/-- **What an action comes to.** -/
theorem effect (h : s.Numbered) (action : Action) :
    Effect s (s.churns action) (s.completion? action) (s.perform action) := by
  cases action with
  | command number c => exact h.effect_command number c
  | alarm waiter => exact effect_alarm s waiter
  | tick => exact .ticks
  | wait time => exact .idle rfl rfl rfl rfl rfl
  | shutDown => exact .idle rfl rfl rfl rfl rfl
  | arrange drivers probers loops alarms stoppable => exact .idle rfl rfl rfl rfl rfl
  | announce =>
      have noted : (s.perform .announce).acceptances = s.acceptances := by
        simp [perform, note, acceptances, ChurnNotice.verdict?]
      exact .idle rfl noted rfl rfl rfl
  | stop =>
      exact .still rfl rfl (fun link hl => ⟨link, hl, rfl⟩) List.filter_sublist
        s.length_exchanges_stop
  | launch index =>
      cases found : s.opened[index]? with
      | none =>
          have performs : s.perform (.launch index) = s := by simp only [perform, found]
          rw [performs]
          exact .refl s
      | some id =>
          have performs : s.perform (.launch index)
              = Session.launch { s with opened := s.opened.eraseIdx index } id := by
            simp only [perform, found]
          rw [performs]
          exact .launches _ id
  | probe => exact .starts none (by simp)
  | proceed id =>
      by_cases free : s.outstanding id = []
      · have completion : s.completion? (.proceed id) = s.refusal? (some id) := if_pos free
        have performs : s.perform (.proceed id) = (s.startProbe (some id)).1 := if_pos free
        rw [completion, performs]
        exact .starts (some id) fun _ named => Option.some.inj named ▸ free
      · have completion : s.completion? (.proceed id) = none := if_neg free
        have performs : s.perform (.proceed id) = s := if_neg free
        rw [completion, performs]
        exact .refl s

/-! ## The numbers stay apart -/

/-- An attempt starts. -/
theorem launched (h : s.Numbered) (opened : List Nat) (id : Nat) :
    (Session.launch { s with opened := opened } id).Numbered := by
  have still : ∀ ending, (finish { s with opened := opened } id ending).Numbered :=
    fun _ => h.fewer (fun link hl => ⟨link, hl, rfl⟩) (fun _ hr => hr) rfl
  unfold Session.launch
  dsimp only
  split
  · exact still _
  · split
    · exact still _
    · rename_i request _ _ server number received
      refine h.grow received rfl (fun link hl => ?_) (fun _ hr => Or.inl hr)
        (Or.inr fun _ hr => hr)
      rcases List.mem_append.mp hl with old | new
      · exact Or.inl old
      · rw [List.mem_singleton.mp new]
        exact Or.inr rfl

/-- A probe starts. -/
theorem probeStarted (h : s.Numbered) (loop : Option Nat) :
    (s.startProbe loop).1.Numbered := by
  rcases s.startProbe_cases loop with ⟨fault, ends⟩ | ⟨run, server, -, received, sent⟩
  · rw [ends]
    exact h.fewer (fun link hl => ⟨link, hl, rfl⟩) (fun _ hr => hr) rfl
  · rw [sent]
    refine h.grow received rfl (fun _ hl => Or.inl hl) (fun r hr => ?_) (Or.inl fun _ hl => hl)
    rcases List.mem_append.mp hr with old | new
    · exact Or.inl old
    · rw [List.mem_singleton.mp new]
      exact Or.inr rfl

theorem apply (h : s.Numbered) {churns : Bool} {verdict? : Option Verdict}
    (effect : Effect s churns verdict? s') : s'.Numbered := by
  cases effect with
  | still ledger acceptances links probes exchanges =>
      exact h.fewer links (fun _ hr => probes.subset hr) exchanges
  | ticks => exact h.fewer (fun link hl => ⟨link, hl, rfl⟩) (fun _ hr => hr) rfl
  | launches opened id => exact h.launched opened id
  | @ends number server touched link ending =>
      refine h.fewer (fun l hl => ⟨l, (List.mem_filter.mp hl).1, rfl⟩) (fun _ hr => hr) ?_
      exact (server.touched_hangUp link.exchange).length.trans touched.length
  | starts loop free => exact h.probeStarted loop
  | @concludes number server touched run verdict fault silent =>
      refine h.fewer (fun l hl => ⟨l, hl, rfl⟩) (fun _ hr => (List.mem_filter.mp hr).1) ?_
      exact (server.touched_hangUp run.exchange).length.trans touched.length

theorem performAll (h : s.Numbered) (actions : List Action) :
    (s.performAll actions).Numbered := by
  induction actions generalizing s with
  | nil => exact h
  | cons action actions ih => exact ih (h.apply (h.effect action))

end Numbered

end StreamLoad.Churn.Session
