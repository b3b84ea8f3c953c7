import StreamLoad.Proofs.Churn.Turns

/-! # Churn and probing in any order

The steps of a session end with all that can happen while the clock stands still, in one fixed
order. Its tasks are not bound to that order. An `Action` is what happens between two pauses of the
tasks: a tick, an attempt or a probe that starts, something of an answer that arrives, an alarm
that rings. Actions may come in any order and at any time, so that a list of actions is a run
under some scheduler.

A loop that probes again and again waits for its probe to end before it starts the next one. What
ends a probe is an action of its own here, so the loop goes on in a later one (`heldBack`).
-/

set_option autoImplicit false

namespace StreamLoad

/-- The verdict on a server, by what reaches a probe of it. Any head is a sign of life. -/
def Arrival.verdict? : Arrival → Option Verdict
  | .head _ => some .responded
  | .lost => some .refused
  | .body _ => none

/-- The verdict that a notice says is a new one. -/
def ChurnNotice.verdict? : ChurnNotice → Option Verdict
  | .acceptingChanged verdict => some verdict
  | _ => none

namespace Churn.Session

/-- The probes of a loop that are under way. -/
def outstanding (s : Session) (id : Nat) : List ProbeRun := s.probes.filter (·.loop = some id)

/-- The verdicts that were noted as new ones, the first one first. -/
def acceptances (s : Session) : List Verdict := s.notices.reverse.filterMap ChurnNotice.verdict?

/-- Something happens while no loop goes on. -/
def heldBack (s : Session) (f : Session → Session) : Session :=
  { f { s with drivers := [], probers := [] } with drivers := s.drivers, probers := s.probers }

/-- What happens in a session between two pauses of its tasks. -/
inductive Action where
  /-- The clock goes on. -/
  | wait (time : Nat)
  | tick
  /-- One of the attempts opened begins to run. -/
  | launch (index : Nat)
  /-- A single probe starts. -/
  | probe
  /-- A loop of probes goes on: it starts a probe, unless it waits for one to end. -/
  | proceed (id : Nat)
  /-- The server acts on one exchange. -/
  | command (number : Nat) (command : Command)
  /-- The alarm of an attempt or of a probe rings. -/
  | alarm (waiter : Waiter)
  /-- The loops started last are stopped, and the probe of such a loop is given up. -/
  | stop
  /-- The server accepts no more connections. -/
  | shutDown
  /-- It is noted that the driver starts. -/
  | announce
  /-- The loops change in some way. When a loop takes a tick is not said here: ticks may come at
  any time. -/
  | arrange (drivers probers : List TickLoop) (loops alarms : Nat)
      (stoppable : Option Nat × Option Nat)

/-- The session after an action. -/
def perform (s : Session) : Action → Session
  | .wait time => { s with now := s.now + time }
  | .tick => s.tick.1
  | .launch index =>
      match s.opened[index]? with
      | some id => launch { s with opened := s.opened.eraseIdx index } id
      | none => s
  | .probe => (s.startProbe none).1
  | .proceed id => if s.outstanding id = [] then (s.startProbe (some id)).1 else s
  | .command number c => s.heldBack fun s => s.command number c
  | .alarm waiter => s.heldBack fun s => s.ring waiter
  | .stop => s.stop
  | .shutDown => { s with server := s.server.shutDown }
  | .announce => s.note [.started s.client.base s.settings.method s.settings.dropGoal]
  | .arrange drivers probers loops alarms stoppable =>
      { s with
        drivers := drivers
        probers := probers
        loops := loops
        alarms := alarms
        stoppable := stoppable }

/-- The session after some actions, one after another. -/
def performAll (s : Session) (actions : List Action) : Session := actions.foldl perform s

@[simp] theorem performAll_nil (s : Session) : s.performAll [] = s := rfl

@[simp] theorem performAll_cons (s : Session) (action : Action) (actions : List Action) :
    s.performAll (action :: actions) = (s.perform action).performAll actions := rfl

theorem performAll_append (s : Session) (actions later : List Action) :
    s.performAll (actions ++ later) = (s.performAll actions).performAll later :=
  List.foldl_append

/-- The verdict on a server that lets no probe begin. -/
def refusal? (s : Session) (loop : Option Nat) : Option Verdict :=
  if (s.startProbe loop).2 then some .refused else none

/-- The verdict of the probe that an action brings to its end. -/
def completion? (s : Session) : Action → Option Verdict
  | .probe => s.refusal? none
  | .proceed id => if s.outstanding id = [] then s.refusal? (some id) else none
  | .command number c =>
      if number ∈ s.probes.map (·.exchange) then (s.server.act number c).2.bind Arrival.verdict?
      else none
  | .alarm (.probe number) =>
      if number ∈ s.probes.map (·.exchange) then some .timedOut else none
  | _ => none

/-- The verdicts of the probes that a run brings to their ends, in order. -/
def completions (s : Session) (actions : List Action) : List Verdict :=
  answers perform (fun s action => (s.completion? action).toList) s actions

theorem completions_concat (s : Session) (actions : List Action) (action : Action) :
    s.completions (actions ++ [action])
      = s.completions actions ++ ((s.performAll actions).completion? action).toList :=
  answers_concat ..

/-- Whether an action churns: the driver ticks, or something happens to an attempt. -/
def churns (s : Session) : Action → Bool
  | .tick | .launch _ | .alarm (.link _) => true
  | .command number _ => number ∈ s.links.map (·.exchange)
  | _ => false

/-! ## Attempts and probes that are told apart

Commands, alarms and the start of a probe are looked into here and nowhere else. Each lemma lists
what may come of one of them, while loops are held back and while they are not, together with the
loops that go on by it. Later proofs choose a case and do not unfold the session. -/

/-- While the loops are held back, a probe ends and nothing more. -/
theorem heldBack_endProbe (s : Session) (server : Server) (run : ProbeRun) (verdict : Verdict)
    (fault : List ChurnNotice) :
    s.heldBack (fun s => endProbe { s with server := server } run verdict fault)
      = conclude { s with server := server } run verdict fault := by
  have still : endProbe { s with server := server, drivers := [], probers := [] } run verdict fault
      = conclude { s with server := server, drivers := [], probers := [] } run verdict fault := by
    cases loop : run.loop with
    | none => exact endProbe_of_single loop verdict fault
    | some id => exact endProbe_of_loop loop verdict fault
  exact congrArg (fun s' : Session => { s' with drivers := s.drivers, probers := s.probers }) still

/-- What reaches an attempt is read, or it ends the attempt. -/
theorem linkArrival_cases (link : Link) (arrival : Arrival) :
    (∃ subscription, ∀ s : Session, s.linkArrival link arrival = s.updateLink link subscription)
    ∨ ∃ ending, ∀ s : Session, s.linkArrival link arrival = s.endLink link ending := by
  cases sought : link.subscription.seekWelcome link.request arrival with
  | goesOn subscription => exact Or.inl ⟨subscription, fun s => by simp only [linkArrival, sought]⟩
  | found => exact Or.inr ⟨.greeted, fun s => by simp only [linkArrival, sought]⟩
  | failed failure => exact Or.inr ⟨.failed failure, fun s => by simp only [linkArrival, sought]⟩

/-- What reaches a probe ends it with a verdict, or nothing comes of it. -/
theorem probeArrival_cases (run : ProbeRun) (arrival : Arrival) :
    (arrival.verdict? = none ∧ (∀ s : Session, s.probeArrival run arrival = s)
      ∧ ∀ s : Session, s.turnsOfArrival run arrival = [])
    ∨ ∃ (verdict : Verdict) (fault : List ChurnNotice), arrival.verdict? = some verdict
      ∧ fault.filterMap ChurnNotice.verdict? = []
      ∧ (∀ s : Session, s.probeArrival run arrival = s.endProbe run verdict fault)
      ∧ ∀ s : Session, s.turnsOfArrival run arrival = s.turnsOfEnd run verdict fault := by
  cases arrival with
  | head status => exact Or.inr ⟨.responded, [], rfl, rfl, fun _ => rfl, fun _ => rfl⟩
  | lost =>
      exact Or.inr ⟨.refused, [.probeFailed run.request.lost], rfl, rfl, fun _ => rfl, fun _ => rfl⟩
  | body item => exact Or.inl ⟨rfl, fun _ => rfl, fun _ => rfl⟩

/-- What a command comes to: no task sees it, or an attempt does, or it ends a probe. Only in the
last case it matters whether the loops are held back, and only then a loop runs. -/
theorem command_cases (s : Session) (number : Nat) (c : Command) {server : Server}
    {seen : Option Arrival} (acts : s.server.act number c = (server, seen)) :
    ((number ∈ s.probes.map (·.exchange) → seen.bind Arrival.verdict? = none)
      ∧ s.command number c = { s with server := server }
      ∧ s.perform (.command number c) = { s with server := server }
      ∧ s.turnsOfCommand number c = [])
    ∨ (∃ link ∈ s.links, link.exchange = number
      ∧ s.perform (.command number c) = s.command number c
      ∧ s.turnsOfCommand number c = []
      ∧ ((∃ subscription,
          s.command number c = updateLink { s with server := server } link subscription)
        ∨ ∃ ending, s.command number c = endLink { s with server := server } link ending))
    ∨ (∃ run ∈ s.probes, run.exchange = number
      ∧ ∃ (verdict : Verdict) (fault : List ChurnNotice),
        seen.bind Arrival.verdict? = some verdict
        ∧ fault.filterMap ChurnNotice.verdict? = []
        ∧ s.command number c = endProbe { s with server := server } run verdict fault
        ∧ s.perform (.command number c)
          = conclude { s with server := server } run verdict fault
        ∧ s.turnsOfCommand number c
          = turnsOfEnd { s with server := server } run verdict fault) := by
  cases seen with
  | none =>
      refine Or.inl ⟨fun _ => rfl, ?_, ?_, ?_⟩
      · simp only [command, acts]
      · simp only [perform, heldBack, command, acts]
      · simp only [turnsOfCommand, acts]
  | some arrival =>
      -- Attempts are looked up before probes.
      cases ofLink : s.links.find? (·.exchange = number) with
      | some link =>
          have runs := List.mem_of_find?_eq_some ofLink
          have same : link.exchange = number := by simpa using List.find?_some ofLink
          refine Or.inr (Or.inl ⟨link, runs, same, ?_⟩)
          simp only [perform, heldBack, command, turnsOfCommand, acts, ofLink]
          rcases linkArrival_cases link arrival with ⟨subscription, reads⟩ | ⟨ending, ends⟩
          · simp only [reads]
            exact ⟨rfl, trivial, Or.inl ⟨subscription, rfl⟩⟩
          · simp only [ends]
            exact ⟨rfl, trivial, Or.inr ⟨ending, rfl⟩⟩
      | none =>
          cases ofProbe : s.probes.find? (·.exchange = number) with
          | none =>
              refine Or.inl ⟨fun known => ?_, ?_, ?_, ?_⟩
              · obtain ⟨run, runs, same⟩ := List.mem_map.mp known
                exact absurd same (by simpa using List.find?_eq_none.mp ofProbe run runs)
              · simp only [command, acts, ofLink, ofProbe]
              · simp only [perform, heldBack, command, acts, ofLink, ofProbe]
              · simp only [turnsOfCommand, acts, ofLink, ofProbe]
          | some run =>
              have runs := List.mem_of_find?_eq_some ofProbe
              have same : run.exchange = number := by simpa using List.find?_some ofProbe
              simp only [perform, heldBack, command, turnsOfCommand, acts, ofLink, ofProbe]
              rcases probeArrival_cases run arrival with
                ⟨unmoved, rests, idle⟩ | ⟨verdict, fault, judged, silent, ends, goes⟩
              · exact Or.inl ⟨fun _ => unmoved, rests _, by rw [rests], idle _⟩
              · simp only [ends]
                refine Or.inr (Or.inr ⟨run, runs, same, verdict, fault, judged, silent, rfl, ?_,
                  goes _⟩)
                exact heldBack_endProbe s server run verdict fault

/-- What the alarm of a probe comes to. -/
theorem ring_probe_cases (s : Session) (number : Nat) :
    (number ∉ s.probes.map (·.exchange) ∧ s.ring (.probe number) = s
      ∧ s.perform (.alarm (.probe number)) = s ∧ s.turnsOfRing (.probe number) = [])
    ∨ ∃ run ∈ s.probes, run.exchange = number
      ∧ s.ring (.probe number) = s.endProbe run .timedOut []
      ∧ s.perform (.alarm (.probe number)) = s.conclude run .timedOut []
      ∧ s.turnsOfRing (.probe number) = s.turnsOfEnd run .timedOut [] := by
  cases found : s.probes.find? (·.exchange = number) with
  | none =>
      have unknown : number ∉ s.probes.map (·.exchange) := by
        intro known
        obtain ⟨run, runs, same⟩ := List.mem_map.mp known
        exact absurd same (by simpa using List.find?_eq_none.mp found run runs)
      refine Or.inl ⟨unknown, ?_, ?_, ?_⟩
      · simp only [ring, found]
      · simp only [perform, heldBack, ring, found]
      · simp only [turnsOfRing, found]
  | some run =>
      have runs := List.mem_of_find?_eq_some found
      have same : run.exchange = number := by simpa using List.find?_some found
      refine Or.inr ⟨run, runs, same, ?_, ?_, ?_⟩
      · simp only [ring, found]
      · simp only [perform, heldBack, ring, found]
        exact heldBack_endProbe s s.server run .timedOut []
      · simp only [turnsOfRing, found]

/-- The alarm of an attempt ends it, if it still runs. The loops have no part in it. -/
theorem ring_link_cases (s : Session) (attempt : Nat) :
    s.perform (.alarm (.link attempt)) = s.ring (.link attempt)
    ∧ (s.ring (.link attempt) = s
      ∨ ∃ link ∈ s.links, s.ring (.link attempt) = s.endLink link .timedOut) := by
  cases found : s.links.find? (·.attempt = attempt) with
  | none =>
      have still : s.ring (.link attempt) = s := by simp only [ring, found]
      exact ⟨by simp only [perform, heldBack, ring, found], Or.inl still⟩
  | some link =>
      have ends : s.ring (.link attempt) = s.endLink link .timedOut := by simp only [ring, found]
      have held : s.perform (.alarm (.link attempt)) = s.endLink link .timedOut := by
        simp only [perform, heldBack, ring, found]
        rfl
      exact ⟨held.trans ends.symm, Or.inr ⟨link, List.mem_of_find?_eq_some found, ends⟩⟩

/-- The start of a probe comes to an end at once, or its request is under way. -/
theorem startProbe_cases (s : Session) (loop : Option Nat) :
    (∃ fault, s.startProbe loop = (s.completeProbe loop .refused [.probeFailed fault], true))
    ∨ ∃ (run : ProbeRun) (server : Server), run.loop = loop
      ∧ s.server.receive run.request = (server, some run.exchange)
      ∧ s.startProbe loop
        = ({ s with server := server, probes := s.probes ++ [run], alarms := s.alarms + 1 },
          false) := by
  unfold startProbe
  split
  · exact Or.inl ⟨_, rfl⟩
  · split
    · exact Or.inl ⟨_, rfl⟩
    · rename_i request _ _ server number received
      exact Or.inr ⟨_, server, rfl, received, rfl⟩

end Churn.Session

end StreamLoad
