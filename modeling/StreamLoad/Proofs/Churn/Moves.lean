import StreamLoad.Churn.Session
import StreamLoad.Proofs.Churn.Operations

/-! # What happens in a churn session

Whatever a churn session is told to do, what happens while the clock stands still is a sequence
of moves: a tick, the start of an attempt, a piece of an answer, the end of an attempt, the like
for probes, and changes that have to do with neither. Each `Move` carries the operations that it
performs on the ledger. `leads_step` finds the moves behind a step, so that what moves keep holds
in every session.
-/

set_option autoImplicit false

namespace StreamLoad.Churn.Session

open ChurnLedger (Operation)

/-- The session after some steps. -/
def run (s : Session) (steps : List Step) : Session :=
  steps.foldl (fun s step => (s.step step).1) s

/-- The time that a step takes. -/
def Step.time : Step → Nat
  | .advance time => time
  | _ => 0

/-- Two sessions that agree on all but notes and loops; probes may have been forgotten. -/
structure Quiet (s s' : Session) : Prop where
  settings : s'.settings = s.settings
  client : s'.client = s.client
  server : s'.server = s.server
  ledger : s'.ledger = s.ledger
  now : s'.now = s.now
  opened : s'.opened = s.opened
  links : s'.links = s.links
  probes : ∀ run ∈ s'.probes, run ∈ s.probes

/-- The link of an attempt that sends its request. -/
def linkFor (s : Session) (id number : Nat) (request : Request) : Link :=
  { attempt := id
    exchange := number
    request := request
    alarm := s.alarmIn s.settings.attemptTimeout }

/-- What happens in a session while the clock stands still, with its operations on the ledger. -/
inductive Move : Session → List Operation → Session → Prop where
  | quiet {s s' : Session} (h : Quiet s s') : Move s [] s'
  | tick (s : Session) : Move s [.tick s.now] s.tick.1
  /-- An attempt starts, and its request is not sent. -/
  | refused {s : Session} {id : Nat} {rest : List Nat} (failure : Failure)
      (next : s.opened = id :: rest) :
      Move s [.finish id s.now s.settings.attemptTimeout (.failed failure)]
        (finish { s with opened := rest } id (.failed failure))
  /-- An attempt starts, and its request is sent. -/
  | asked {s : Session} {id number : Nat} {rest : List Nat} {request : Request} {server : Server}
      (next : s.opened = id :: rest) (prepared : s.client.subscribe s.settings.method = .ok request)
      (received : s.server.receive request = (server, some number)) :
      Move s []
        { s with
          opened := rest
          server := server
          links := s.links ++ [s.linkFor id number request]
          alarms := s.alarms + 1 }
  /-- A piece of its answer reaches an attempt, which reads on. -/
  | read {s : Session} {link : Link} {c : Command} {server : Server} {arrival : Arrival}
      {subscription : Subscription} (runs : link ∈ s.links)
      (acted : s.server.act link.exchange c = (server, some arrival))
      (goesOn : link.subscription.seekWelcome link.request arrival = .goesOn subscription) :
      Move s [] (updateLink { s with server := server } link subscription)
  /-- An attempt ends, by its alarm or after the server has acted on its exchange. -/
  | ended {s : Session} {link : Link} (ending : Ending) {server : Server} (runs : link ∈ s.links)
      (acted : server = s.server ∨ ∃ c, server = (s.server.act link.exchange c).1) :
      Move s [.finish link.attempt s.now s.settings.attemptTimeout ending]
        (endLink { s with server := server } link ending)
  /-- The server acts on an exchange, and no attempt sees it. -/
  | acted {s : Session} {number : Nat} {c : Command}
      (unseen : (s.server.act number c).2 = none ∨ ∀ link ∈ s.links, link.exchange ≠ number) :
      Move s [] { s with server := (s.server.act number c).1 }
  | probeSent {s : Session} {run : ProbeRun} {server : Server}
      (prepared : s.client.probe = .ok run.request)
      (received : s.server.receive run.request = (server, some run.exchange)) :
      Move s [] { s with server := server, probes := s.probes ++ [run], alarms := s.alarms + 1 }
  /-- The connection of a probe is closed. -/
  | probeClosed {s : Session} {run : ProbeRun} (runs : run ∈ s.probes) :
      Move s [] { s with server := s.server.hangUp run.exchange }
  | probed (s : Session) (loop : Option Nat) (verdict : Verdict) (fault : List ChurnNotice) :
      Move s [.probed verdict] (s.completeProbe loop verdict fault)
  | shutDown (s : Session) : Move s [] { s with server := s.server.shutDown }

/-- Moves lead from one session to another, with their operations on the ledger. -/
inductive Moves : Session → List Operation → Session → Prop where
  | refl (s : Session) : Moves s [] s
  | step {s s' s'' : Session} {ops later : List Operation} (first : Move s ops s')
      (rest : Moves s' later s'') : Moves s (ops ++ later) s''

theorem Moves.trans {s s' s'' : Session} {ops later : List Operation} (first : Moves s ops s')
    (second : Moves s' later s'') : Moves s (ops ++ later) s'' := by
  induction first with
  | refl s => exact second
  | step move _ ih =>
      rw [List.append_assoc]
      exact .step move (ih second)

/-- Some moves lead from one session to another. -/
def Leads (s s' : Session) : Prop := ∃ ops, Moves s ops s'

namespace Leads

variable {s s' s'' : Session}

theorem refl (s : Session) : Leads s s := ⟨[], .refl s⟩

theorem trans (first : Leads s s') (second : Leads s' s'') : Leads s s'' := by
  obtain ⟨ops, hops⟩ := first
  obtain ⟨later, hlater⟩ := second
  exact ⟨ops ++ later, hops.trans hlater⟩

theorem of_move {ops : List Operation} (move : Move s ops s') : Leads s s' :=
  ⟨ops ++ [], .step move (.refl s')⟩

/-- Only notes and loops change. -/
theorem of_quiet (settings : s'.settings = s.settings) (client : s'.client = s.client)
    (server : s'.server = s.server) (ledger : s'.ledger = s.ledger) (now : s'.now = s.now)
    (opened : s'.opened = s.opened) (links : s'.links = s.links) (probes : s'.probes = s.probes) :
    Leads s s' :=
  of_move (.quiet ⟨settings, client, server, ledger, now, opened, links,
    fun _ hr => probes ▸ hr⟩)

theorem foldl {α : Type} {f : Session → α → Session} (h : ∀ s x, Leads s (f s x)) (xs : List α)
    (s : Session) : Leads s (xs.foldl f s) := by
  induction xs generalizing s with
  | nil => exact refl s
  | cons x xs ih => exact (h s x).trans (ih (f s x))

end Leads

/-! ## Attempts -/

theorem leads_tick (s : Session) : Leads s s.tick.1 := .of_move (.tick s)

/-- A tick opens an attempt, which waits to start, or changes nothing for the attempts. -/
theorem tick_cases (s : Session) :
    (s.tick.1.ledger.registry = s.ledger.registry ∧ s.tick.1.opened = s.opened
      ∧ ∀ id, s.tick.2 ≠ .issued id)
    ∨ (s.tick.1.ledger.registry = (s.ledger.registry.openNew s.now).1
      ∧ s.tick.1.opened = s.opened ++ [s.ledger.registry.opened]
      ∧ s.tick.2 = .issued s.ledger.registry.opened) := by
  have ledger_cases := s.ledger.tick_cases s.now
  rcases ticked : s.ledger.tick s.now with ⟨ledger, outcome, notices⟩
  simp only [ticked] at ledger_cases
  simp only [tick, ticked, note]
  rcases ledger_cases with ⟨-, rfl, rfl⟩ | ⟨-, -, rfl, rfl⟩ | ⟨-, -, registry, -, -, rfl⟩
  · exact Or.inl ⟨rfl, rfl, by simp⟩
  · exact Or.inl ⟨rfl, rfl, by simp⟩
  · exact Or.inr ⟨registry, rfl, rfl⟩

/-- Starting an attempt does not depend on which attempts start later. -/
theorem launch_withOpened (s : Session) (rest : List Nat) (id : Nat) :
    launch { s with opened := rest } id = { launch s id with opened := rest } := by
  unfold launch
  dsimp only
  split
  · rfl
  · split <;> rfl

theorem leads_launch {s : Session} {id : Nat} {rest : List Nat} (next : s.opened = id :: rest) :
    Leads s (launch { s with opened := rest } id) := by
  unfold launch
  dsimp only
  split
  · exact .of_move (.refused _ next)
  · split
    · exact .of_move (.refused _ next)
    · rename_i request prepared _ server number received
      exact .of_move (.asked next prepared received)

/-- The attempts opened start one after another. -/
theorem launchAll_of_cons {s : Session} {id : Nat} {rest : List Nat}
    (next : s.opened = id :: rest) :
    s.launchAll = (launch { s with opened := rest } id).launchAll := by
  have none : launch { s with opened := [] } id = { launch s id with opened := [] } :=
    launch_withOpened s [] id
  unfold launchAll
  rw [launch_withOpened s rest id, next, List.foldl_cons, none]

theorem leads_launchAll (s : Session) : Leads s s.launchAll := by
  generalize opened : s.opened = ids
  induction ids generalizing s with
  | nil =>
      have still : s.launchAll = s := by
        unfold launchAll
        rw [opened, List.foldl_nil, ← opened]
      rw [still]
      exact .refl s
  | cons id rest ih =>
      rw [launchAll_of_cons opened]
      refine (leads_launch opened).trans (ih _ ?_)
      rw [launch_withOpened]

/-- What an attempt has read has no part in what else is known of it. -/
theorem map_updateLink {β : Type} {f : Link → β}
    (blind : ∀ (l : Link) (subscription : Subscription),
      f { l with subscription := subscription } = f l)
    (s : Session) (link : Link) (subscription : Subscription) :
    (s.updateLink link subscription).links.map f = s.links.map f := by
  simp only [updateLink, List.map_map]
  refine List.map_congr_left fun l _ => ?_
  rw [Function.comp_apply]
  split
  · exact blind l subscription
  · rfl

theorem leads_ticks (count : Nat) (s : Session) : Leads s (ticks count s) := by
  induction count generalizing s with
  | zero => exact .refl s
  | succ count ih => exact (leads_tick s).trans (ih s.tick.1)

theorem leads_spin (count : Nat) (s : Session) : Leads s (spin count s) := by
  induction count generalizing s with
  | zero => exact .refl s
  | succ count ih =>
      have ticked := leads_tick s
      unfold spin
      split
      · rename_i next id ticks
        rw [ticks] at ticked
        exact (ticked.trans (leads_launchAll next)).trans (ih _)
      · rename_i next outcome _ ticks
        rw [ticks] at ticked
        exact ticked

/-! ## Probes

A loop that goes on changes nothing that the attempts depend on, and of what it does only three
things are more than quiet: a request is sent, its connection is closed, and a verdict is entered
into the ledger. -/

theorem leads_completeProbe (s : Session) (loop : Option Nat) (verdict : Verdict)
    (fault : List ChurnNotice) : Leads s (s.completeProbe loop verdict fault) :=
  .of_move (.probed s loop verdict fault)

theorem leads_startProbe (s : Session) (loop : Option Nat) : Leads s (s.startProbe loop).1 := by
  unfold startProbe
  split
  · exact leads_completeProbe s _ _ _
  · split
    · exact leads_completeProbe s _ _ _
    · rename_i request prepared _ server number received
      exact .of_move (.probeSent prepared received)

theorem leads_updateProber (s : Session) (loop : TickLoop) : Leads s (s.updateProber loop) :=
  .of_quiet rfl rfl rfl rfl rfl rfl rfl rfl

theorem leads_runProber (id count : Nat) (s : Session) : Leads s (runProber id count s) := by
  induction count generalizing s with
  | zero => exact .refl s
  | succ count ih =>
      unfold runProber
      split
      · exact .refl s
      · split
        · exact .of_quiet rfl rfl rfl rfl rfl rfl rfl rfl
        · rename_i loop found _ ticker due
          -- The loop takes a tick and probes; if the probe has ended at once, it goes on.
          have waiting := leads_updateProber s { loop with ticker := ticker, busy := true }
          have started := waiting.trans (leads_startProbe _ (some id))
          dsimp only
          split
          · rename_i next probes
            rw [probes] at started
            exact started.trans (ih next)
          · rename_i next probes
            rw [probes] at started
            exact started

theorem leads_resumeProber (s : Session) (id : Nat) : Leads s (s.resumeProber id) := by
  unfold resumeProber
  split
  · exact .refl s
  · exact leads_runProber id _ s

theorem leads_endProbe {s : Session} {run : ProbeRun} (runs : run ∈ s.probes) (verdict : Verdict)
    (fault : List ChurnNotice) : Leads s (s.endProbe run verdict fault) := by
  have hungUp : Leads s { s with server := s.server.hangUp run.exchange } :=
    .of_move (.probeClosed runs)
  have closed : Leads s
      { s with
        server := s.server.hangUp run.exchange
        probes := s.probes.filter (·.exchange ≠ run.exchange) } := by
    refine hungUp.trans (.of_move (.quiet ⟨rfl, rfl, rfl, rfl, rfl, rfl, rfl, ?_⟩))
    exact fun _ hr => (List.mem_filter.mp hr).1
  have completed := closed.trans (leads_completeProbe _ run.loop verdict fault)
  unfold endProbe
  dsimp only
  split
  · exact completed
  · exact completed.trans (leads_resumeProber _ _)

theorem leads_probeArrival {s : Session} {run : ProbeRun} (runs : run ∈ s.probes)
    (arrival : Arrival) : Leads s (s.probeArrival run arrival) := by
  cases arrival with
  | head status => exact leads_endProbe runs _ _
  | lost => exact leads_endProbe runs _ _
  | body item => exact .refl s

/-! ## Alarms -/

theorem leads_resumeDriver (s : Session) (id : Nat) : Leads s (s.resumeDriver id) := by
  unfold resumeDriver
  split
  · exact .refl s
  · refine Leads.trans ?_ (leads_ticks _ _)
    exact .of_quiet rfl rfl rfl rfl rfl rfl rfl rfl

theorem leads_ring (s : Session) (waiter : Waiter) : Leads s (s.ring waiter) := by
  cases waiter with
  | driver id => exact leads_resumeDriver s id
  | prober id => exact leads_resumeProber s id
  | probe exchange =>
      simp only [ring]
      split
      · rename_i run found
        exact leads_endProbe (List.mem_of_find?_eq_some found) _ _
      · exact .refl s
  | link attempt =>
      simp only [ring]
      split
      · rename_i link found
        exact .of_move (.ended .timedOut (List.mem_of_find?_eq_some found) (Or.inl rfl))
      · exact .refl s

theorem leads_ringAll (s : Session) : Leads s s.ringAll := .foldl leads_ring _ s

theorem leads_settle (s : Session) : Leads s s.settle := by
  have launched := (leads_ringAll s).trans (leads_launchAll s.ringAll)
  exact launched.trans (.foldl (fun s _ => leads_spin _ s) _ _)

/-! ## Steps

A step first lets its time pass and then does all else while the clock stands still. Moves say
nothing of the time, as it is no operation on the ledger, so `leads_step` states it apart from the
moves that follow it. -/

/-- What reaches an attempt is read, or it ends the attempt. -/
theorem leads_linkArrival {s : Session} {link : Link} (runs : link ∈ s.links) {c : Command}
    {server : Server} {arrival : Arrival}
    (acted : s.server.act link.exchange c = (server, some arrival)) :
    Leads s (linkArrival { s with server := server } link arrival) := by
  have near : server = (s.server.act link.exchange c).1 := by rw [acted]
  unfold linkArrival
  split
  · rename_i goesOn
    exact .of_move (.read runs acted goesOn)
  · exact .of_move (.ended _ runs (Or.inr ⟨c, near⟩))
  · exact .of_move (.ended _ runs (Or.inr ⟨c, near⟩))

theorem leads_command (s : Session) (number : Nat) (c : Command) :
    Leads s (s.command number c) := by
  unfold command
  split
  · rename_i server acts
    have unseen : (s.server.act number c).2 = none := by rw [acts]
    have acted := Leads.of_move (Move.acted (Or.inl unseen))
    rwa [acts] at acted
  · rename_i server arrival acts
    dsimp only
    split
    · rename_i link found
      have same : link.exchange = number := by simpa using List.find?_some found
      subst same
      exact leads_linkArrival (List.mem_of_find?_eq_some found) acts
    · rename_i none
      -- No attempt has the exchange; a probe may have it.
      have unseen : ∀ link ∈ s.links, link.exchange ≠ number := by
        simpa using List.find?_eq_none.mp none
      have acted := Leads.of_move (Move.acted (c := c) (Or.inr unseen))
      rw [acts] at acted
      dsimp only at acted
      split
      · rename_i run found
        have runs : run ∈ ({ s with server := server } : Session).probes :=
          List.mem_of_find?_eq_some found
        exact acted.trans (leads_probeArrival runs arrival)
      · exact acted

theorem leads_startDriver (s : Session) : Leads s s.startDriver := by
  unfold startDriver
  dsimp only
  split
  · exact .of_quiet rfl rfl rfl rfl rfl rfl rfl rfl
  · refine Leads.trans ?_ (leads_resumeDriver _ _)
    exact .of_quiet rfl rfl rfl rfl rfl rfl rfl rfl

theorem leads_startProber (s : Session) : Leads s s.startProber := by
  refine Leads.trans ?_ (leads_resumeProber _ _)
  exact .of_quiet rfl rfl rfl rfl rfl rfl rfl rfl

/-- The connections of some probes are closed one after another. -/
theorem leads_closeProbes {s : Session} {cancelled : List ProbeRun}
    (run : ∀ r ∈ cancelled, r ∈ s.probes) :
    Leads s
      { s with
        server := cancelled.foldl (fun server run => server.hangUp run.exchange) s.server } := by
  induction cancelled generalizing s with
  | nil => exact .refl s
  | cons r cancelled ih =>
      have first := Leads.of_move (Move.probeClosed (run r List.mem_cons_self))
      exact first.trans (ih fun r' hr => run r' (List.mem_cons_of_mem r hr))

theorem leads_stop (s : Session) : Leads s s.stop := by
  unfold stop
  dsimp only
  -- The probe of the loop stopped is cancelled: its connection is closed, and it is forgotten.
  have cancelled : ∀ run ∈ s.probes.filter fun run =>
      s.stoppable.2.isSome ∧ run.loop = s.stoppable.2, run ∈ s.probes :=
    fun _ hr => (List.mem_filter.mp hr).1
  refine (leads_closeProbes cancelled).trans ?_
  refine .of_move (.quiet ⟨rfl, rfl, rfl, rfl, rfl, rfl, rfl, ?_⟩)
  exact fun _ hr => (List.mem_filter.mp hr).1

/-- The moves behind a step: the time of the step passes first, and then the clock stands. -/
theorem leads_step (s : Session) (step : Step) :
    Leads { s with now := s.now + step.time } (s.step step).1 := by
  cases step with
  | tick => exact (leads_tick s).trans (leads_settle _)
  | probe => exact (leads_startProbe s none).trans (leads_settle _)
  | run => exact (leads_startDriver s).trans (leads_settle _)
  | probeRun => exact (leads_startProber s).trans (leads_settle _)
  | stop => exact (leads_stop s).trans (leads_settle _)
  | advance time => exact leads_settle _
  | command number c => exact (leads_command s number c).trans (leads_settle _)
  | commandAll c =>
      have all : Leads s (s.commandAll c) :=
        .foldl (fun s number => (leads_command s number c).trans (leads_settle _)) _ s
      exact all.trans (leads_settle _)
  | shutDown => exact (Leads.of_move (.shutDown s)).trans (leads_settle _)

end StreamLoad.Churn.Session
