import StreamLoad.Proofs.Churn.Answers
import StreamLoad.Proofs.Churn.Deadlines
import StreamLoad.Proofs.Churn.Log
import Mathlib.Logic.Relation

/-! # What happens by itself

While the clock stands still and the server does nothing, little can happen to an attempt: a tick
opens it, it starts and sends its request, or cannot send it, and its alarm rings once it is due
(`Stir`). All else leaves the attempts aside (`Aside`): the loops go on, and probes come and go on
exchanges of their own. Whatever a session does by itself is a sequence of these
(`stirred_settle`).
-/

set_option autoImplicit false

namespace StreamLoad.Churn.Session

open Relation (ReflTransGen)

/-- What does not concern the attempts: what is known of them, their exchanges and their failures
stay as they are, and so does the log of their ends. -/
structure Aside (s s' : Session) : Prop where
  leads : Leads s s'
  opened : s'.opened = s.opened
  links : s'.links = s.links
  registry : s'.ledger.registry = s.ledger.registry
  failures : ∀ kind, s'.ledger.metrics.failuresOf kind = s.ledger.metrics.failuresOf kind
  endings : s'.endings = s.endings
  exchanges : ∀ link ∈ s.links,
    s'.server.exchanges[link.exchange]? = s.server.exchanges[link.exchange]?
  accepting : s'.server.accepting = s.server.accepting
  grows : s.server.exchanges.length ≤ s'.server.exchanges.length

/-- Why an attempt cannot send its request: the address does not make one, or the server takes no
connection. -/
def Unsent (s : Session) (fault : RequestFault) : Prop :=
  s.client.subscribe s.settings.method = .error fault
  ∨ ∃ request, s.client.subscribe s.settings.method = .ok request
    ∧ s.server.accepting = false ∧ fault = request.lost

/-- What happens in a session by itself while the clock stands still. -/
inductive Stir : Session → Session → Prop where
  | aside {s s' : Session} (h : Aside s s') : Stir s s'
  | tick (s : Session) : Stir s s.tick.1
  /-- An attempt starts and cannot send its request. -/
  | refused {s : Session} {id : Nat} {rest : List Nat} {fault : RequestFault}
      (next : s.opened = id :: rest) (unsent : s.Unsent fault) :
      Stir s (finish { s with opened := rest } id (.failed (.request fault)))
  /-- An attempt starts and sends its request. -/
  | asked {s : Session} {id number : Nat} {rest : List Nat} {request : Request} {server : Server}
      (next : s.opened = id :: rest) (prepared : s.client.subscribe s.settings.method = .ok request)
      (received : s.server.receive request = (server, some number)) :
      Stir s
        { s with
          opened := rest
          server := server
          links := s.links ++ [s.linkFor id number request]
          alarms := s.alarms + 1 }
  /-- The alarm of an attempt rings. -/
  | alarm {s : Session} {link : Link} (runs : link ∈ s.links) (due : link.alarm.due ≤ s.now) :
      Stir s (s.endLink link .timedOut)

theorem Stir.leads {s s' : Session} (stir : Stir s s') : Leads s s' := by
  cases stir with
  | aside h => exact h.leads
  | tick => exact leads_tick s
  | refused next unsent => exact .of_move (.refused _ next)
  | asked next prepared received => exact .of_move (.asked next prepared received)
  | alarm runs due => exact .of_move (.ended .timedOut runs (Or.inl rfl))

theorem leads_of_stirs {s s' : Session} (stirs : ReflTransGen Stir s s') : Leads s s' := by
  induction stirs with
  | refl => exact .refl s
  | tail _ stir ih => exact ih.trans stir.leads

/-- All that leads from one session to another happens by itself. -/
def Stirred (s s' : Session) : Prop := s.Attended → ReflTransGen Stir s s'

namespace Stirred

variable {s s' s'' : Session}

theorem refl (s : Session) : Stirred s s := fun _ => .refl

theorem trans (first : Stirred s s') (second : Stirred s' s'') : Stirred s s'' := by
  intro h
  have stirs := first h
  exact stirs.trans (second (h.leads (leads_of_stirs stirs)))

theorem of_stir (stir : Stir s s') : Stirred s s' := fun _ => .single stir

theorem of_aside (aside : Aside s s') : Stirred s s' := of_stir (.aside aside)

theorem foldl {α : Type} {f : Session → α → Session} (h : ∀ s x, Stirred s (f s x)) (xs : List α)
    (s : Session) : Stirred s (xs.foldl f s) := by
  induction xs generalizing s with
  | nil => exact refl s
  | cons x xs ih => exact (h s x).trans (ih (f s x))

end Stirred

namespace Aside

variable {s s' : Session}

/-- Nothing changes but loops, alarms and probes that are forgotten. -/
theorem of_quiet (quiet : Quiet s s') (endings : s'.endings = s.endings) : Aside s s' where
  leads := .of_move (.quiet quiet)
  opened := quiet.opened
  links := quiet.links
  registry := by rw [quiet.ledger]
  failures := fun kind => by rw [quiet.ledger]
  endings := endings
  exchanges := fun link _ => by rw [quiet.server]
  accepting := by rw [quiet.server]
  grows := by rw [quiet.server]

/-- The connection of a probe is closed. -/
theorem hangUp (wired : s.Wired) {run : ProbeRun} (runs : run ∈ s.probes) :
    Aside s { s with server := s.server.hangUp run.exchange } where
  leads := .of_move (.probeClosed runs)
  opened := rfl
  links := rfl
  registry := rfl
  failures := fun _ => rfl
  endings := rfl
  exchanges := fun link hl =>
    (Server.touched_hangUp _ _).other (wired.probe_apart runs link hl)
  accepting := s.server.accepting_hangUp run.exchange
  grows := Nat.le_of_eq (Server.touched_hangUp _ _).length.symm

/-- The verdict of a probe is entered. -/
theorem completeProbe (s : Session) (loop : Option Nat) (verdict : Verdict)
    {fault : List ChurnNotice} (silent : fault.filterMap ChurnNotice.end? = []) :
    Aside s (s.completeProbe loop verdict fault) where
  leads := leads_completeProbe s loop verdict fault
  opened := rfl
  links := rfl
  registry := rfl
  failures := fun kind => by cases kind <;> rfl
  endings := endings_completeProbe s loop verdict silent
  exchanges := fun _ _ => rfl
  accepting := rfl
  grows := Nat.le_refl _

end Aside

/-! ## Attempts -/

theorem stirred_tick (s : Session) : Stirred s s.tick.1 := .of_stir (.tick s)

theorem stirred_launch {s : Session} {id : Nat} {rest : List Nat} (next : s.opened = id :: rest) :
    Stirred s (launch { s with opened := rest } id) := by
  unfold launch
  dsimp only
  split
  · rename_i fault prepared
    exact .of_stir (.refused next (Or.inl prepared))
  · rename_i request prepared
    split
    · -- A server refuses only while it takes no connections.
      rename_i refused
      have closed : s.server.accepting = false := by
        unfold Server.receive at refused
        split at refused
        · cases refused
        · rename_i accepts
          exact Bool.not_eq_true _ ▸ accepts
      exact .of_stir (.refused next (Or.inr ⟨request, prepared, closed, rfl⟩))
    · rename_i server number received
      exact .of_stir (.asked next prepared received)

theorem stirred_launchAll (s : Session) : Stirred s s.launchAll := by
  generalize opened : s.opened = ids
  induction ids generalizing s with
  | nil =>
      have still : s.launchAll = s := by
        unfold launchAll
        rw [opened, List.foldl_nil, ← opened]
      rw [still]
      exact .refl s
  | cons id rest ih =>
      rw [launchAll_of_cons opened]
      refine (stirred_launch opened).trans (ih _ ?_)
      rw [launch_withOpened]

theorem stirred_ticks (count : Nat) (s : Session) : Stirred s (ticks count s) := by
  induction count generalizing s with
  | zero => exact .refl s
  | succ count ih => exact (stirred_tick s).trans (ih s.tick.1)

theorem stirred_spin (count : Nat) (s : Session) : Stirred s (spin count s) := by
  induction count generalizing s with
  | zero => exact .refl s
  | succ count ih =>
      have ticked := stirred_tick s
      unfold spin
      split
      · rename_i next id ticks
        rw [ticks] at ticked
        exact (ticked.trans (stirred_launchAll next)).trans (ih _)
      · rename_i next outcome _ ticks
        rw [ticks] at ticked
        exact ticked

/-! ## Probes

A probe has an exchange of its own, and what it comes to is a verdict. None of this concerns an
attempt, so whatever probes do is aside. -/

theorem stirred_startProbe (s : Session) (loop : Option Nat) :
    Stirred s (s.startProbe loop).1 := by
  intro h
  unfold startProbe
  split
  · exact .single (.aside (.completeProbe s loop _ rfl))
  · rename_i request prepared
    split
    · exact .single (.aside (.completeProbe s loop _ rfl))
    · rename_i server number received
      have exchanges := (Server.receive_eq_some received).1
      refine .single (.aside ⟨.of_move (.probeSent prepared received), rfl, rfl, rfl, fun _ => rfl,
        rfl, fun link hl => ?_, ?_, ?_⟩)
      · -- The exchanges of the attempts are older than the new one.
        obtain ⟨e, found, -⟩ := h.wired.linked link hl
        exact (Server.getElem?_receive_of_some received found).1.trans found.symm
      · obtain ⟨before, after⟩ := Server.accepting_of_receive received
        exact after.trans before.symm
      · show s.server.exchanges.length ≤ server.exchanges.length
        rw [exchanges, List.length_append]
        exact Nat.le_add_right _ _

theorem stirred_runProber (id count : Nat) (s : Session) : Stirred s (runProber id count s) := by
  induction count generalizing s with
  | zero => exact .refl s
  | succ count ih =>
      unfold runProber
      split
      · exact .refl s
      · split
        · exact .of_aside (.of_quiet ⟨rfl, rfl, rfl, rfl, rfl, rfl, rfl, fun _ hr => hr⟩ rfl)
        · rename_i loop found _ ticker due
          have waits : Stirred s (s.updateProber { loop with ticker := ticker, busy := true }) :=
            .of_aside (.of_quiet ⟨rfl, rfl, rfl, rfl, rfl, rfl, rfl, fun _ hr => hr⟩ rfl)
          have started := waits.trans (stirred_startProbe _ (some id))
          dsimp only
          split
          · rename_i next probes
            rw [probes] at started
            exact started.trans (ih next)
          · rename_i next probes
            rw [probes] at started
            exact started

theorem stirred_resumeProber (s : Session) (id : Nat) : Stirred s (s.resumeProber id) := by
  unfold resumeProber
  split
  · exact .refl s
  · exact stirred_runProber id _ s

theorem stirred_endProbe {s : Session} {run : ProbeRun} (runs : run ∈ s.probes) (verdict : Verdict)
    {fault : List ChurnNotice} (silent : fault.filterMap ChurnNotice.end? = []) :
    Stirred s (s.endProbe run verdict fault) := by
  -- The connection is closed while the probe is still known, as its exchange is no attempt's then.
  have hungUp : Stirred s { s with server := s.server.hangUp run.exchange } := fun h =>
    .single (.aside (.hangUp h.wired runs))
  have closed : Stirred s
      { s with
        server := s.server.hangUp run.exchange
        probes := s.probes.filter (·.exchange ≠ run.exchange) } := by
    refine hungUp.trans (.of_aside (.of_quiet ⟨rfl, rfl, rfl, rfl, rfl, rfl, rfl, ?_⟩ rfl))
    exact fun _ hr => (List.mem_filter.mp hr).1
  have completed := closed.trans (.of_aside (.completeProbe _ run.loop verdict silent))
  unfold endProbe
  dsimp only
  split
  · exact completed
  · exact completed.trans (stirred_resumeProber _ _)

theorem stirred_probeArrival {s : Session} {run : ProbeRun} (runs : run ∈ s.probes)
    (arrival : Arrival) : Stirred s (s.probeArrival run arrival) := by
  cases arrival with
  | head status => exact stirred_endProbe runs _ rfl
  | lost => exact stirred_endProbe runs _ rfl
  | body item => exact .refl s

/-! ## Alarms

An attempt whose alarm rings ends by itself, and `Stir` allows this only if the alarm is due. It is:
the alarms that ring are those that have come due, and the clock stands still while they do. -/

theorem stirred_resumeDriver (s : Session) (id : Nat) : Stirred s (s.resumeDriver id) := by
  unfold resumeDriver
  split
  · exact .refl s
  · refine Stirred.trans ?_ (stirred_ticks _ _)
    exact .of_aside (.of_quiet ⟨rfl, rfl, rfl, rfl, rfl, rfl, rfl, fun _ hr => hr⟩ rfl)

/-- An alarm rings; if it was set for an attempt that runs, it is due. -/
theorem stirred_ring {s : Session} {waiter : Waiter}
    (due : ∀ link ∈ s.links, waiter = .link link.attempt → link.alarm.due ≤ s.now) :
    Stirred s (s.ring waiter) := by
  cases waiter with
  | driver id => exact stirred_resumeDriver s id
  | prober id => exact stirred_resumeProber s id
  | probe exchange =>
      simp only [ring]
      split
      · rename_i run found
        exact stirred_endProbe (List.mem_of_find?_eq_some found) _ rfl
      · exact .refl s
  | link attempt =>
      simp only [ring]
      split
      · rename_i link found
        have runs := List.mem_of_find?_eq_some found
        have same : link.attempt = attempt := by simpa using List.find?_some found
        exact .of_stir (.alarm runs (due link runs (same ▸ rfl)))
      · exact .refl s

theorem stirred_rings {waiters : List Waiter} {s : Session}
    (due : ∀ link ∈ s.links, .link link.attempt ∈ waiters → link.alarm.due ≤ s.now) :
    Stirred s (waiters.foldl ring s) := by
  -- The hypothesis is about the attempts of the session at the time, which only become fewer.
  induction waiters generalizing s with
  | nil => exact .refl s
  | cons waiter waiters ih =>
      have first : Stirred s (s.ring waiter) :=
        stirred_ring fun link hl named => due link hl (named ▸ List.mem_cons_self)
      -- An alarm starts no attempt, so those that run afterwards ran before.
      refine first.trans (ih fun link hl rings => ?_)
      obtain ⟨ops, moves⟩ := leads_ring s waiter
      rw [moves.frame.2.2]
      exact due link (links_ring s waiter hl).1 (List.mem_cons_of_mem waiter rings)

/-- An alarm of an attempt rings only if it is due. -/
theorem due_of_ringing {s : Session} (h : s.Attended) {link : Link} (hl : link ∈ s.links)
    (rings : .link link.attempt ∈ Alarm.ringing s.now s.waiting) : link.alarm.due ≤ s.now := by
  obtain ⟨⟨alarm, waiter⟩, due, rfl⟩ := List.mem_map.mp rings
  obtain ⟨waits, due⟩ := List.mem_filter.mp (List.mem_mergeSort.mp due)
  have set : ∃ l ∈ s.links, l.alarm = alarm ∧ l.attempt = link.attempt := by
    simpa [waiting] using waits
  obtain ⟨l, runs, rfl, same⟩ := set
  rw [h.matched.eq_of_attempt hl runs same.symm]
  exact of_decide_eq_true due

theorem stirred_ringAll (s : Session) : Stirred s s.ringAll := fun h =>
  stirred_rings (fun _ hl rings => due_of_ringing h hl rings) h

/-- **What a session does by itself** is made of these. -/
theorem stirred_settle (s : Session) : Stirred s s.settle := by
  have launched := (stirred_ringAll s).trans (stirred_launchAll s.ringAll)
  exact launched.trans (.foldl (fun s _ => stirred_spin _ s) _ _)

/-! ## Loops -/

theorem stirred_startDriver (s : Session) : Stirred s s.startDriver := by
  have started : ∀ drivers loops stoppable, Stirred s
      (note { s with drivers := drivers, loops := loops, stoppable := stoppable }
        [.started s.client.base s.settings.method s.settings.dropGoal]) := by
    intro drivers loops stoppable
    refine .of_aside (.of_quiet ⟨rfl, rfl, rfl, rfl, rfl, rfl, rfl, fun _ hr => hr⟩ ?_)
    rw [endings_note]
    exact List.append_nil _
  unfold startDriver
  dsimp only
  split
  · exact started _ _ _
  · exact (started _ _ _).trans (stirred_resumeDriver _ _)

theorem stirred_startProber (s : Session) : Stirred s s.startProber := by
  refine Stirred.trans ?_ (stirred_resumeProber _ _)
  exact .of_aside (.of_quiet ⟨rfl, rfl, rfl, rfl, rfl, rfl, rfl, fun _ hr => hr⟩ rfl)

/-- The connections of some probes are closed one after another. -/
theorem stirred_closeProbes {s : Session} {cancelled : List ProbeRun}
    (run : ∀ r ∈ cancelled, r ∈ s.probes) :
    Stirred s
      { s with
        server := cancelled.foldl (fun server run => server.hangUp run.exchange) s.server } := by
  induction cancelled generalizing s with
  | nil => exact .refl s
  | cons r cancelled ih =>
      have first : Stirred s { s with server := s.server.hangUp r.exchange } := fun h =>
        .single (.aside (.hangUp h.wired (run r List.mem_cons_self)))
      exact first.trans (ih fun r' hr => run r' (List.mem_cons_of_mem r hr))

theorem stirred_stop (s : Session) : Stirred s s.stop := by
  unfold stop
  dsimp only
  have cancelled : ∀ run ∈ s.probes.filter fun run =>
      s.stoppable.2.isSome ∧ run.loop = s.stoppable.2, run ∈ s.probes :=
    fun _ hr => (List.mem_filter.mp hr).1
  refine (stirred_closeProbes cancelled).trans (.of_aside (.of_quiet ?_ rfl))
  exact ⟨rfl, rfl, rfl, rfl, rfl, rfl, rfl, fun _ hr => (List.mem_filter.mp hr).1⟩

end StreamLoad.Churn.Session
