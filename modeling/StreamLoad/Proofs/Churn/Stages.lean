import StreamLoad.Proofs.Churn.Stirring

/-! # What happens in a step

A step changes the clock or the server at most (`begun`). Then the server acts on some exchanges
(`schedule`), and in between happens what happens by itself. So a step is a sequence of stages, each
of which is one of these (`stages_step`). What is on the exchange of an attempt is heard by that
attempt; all else is unheard. Each stage enters at most one thing into the log, so the log agrees
with the ledger after every step (`Stages.chronicled`).
-/

set_option autoImplicit false

namespace StreamLoad.Churn.Session

open Relation (ReflTransGen)

variable {s s' s'' : Session}

/-- What happens at once in a session, with what the server does on an exchange. -/
inductive Stage : Session → List (Nat × Command) → Session → Prop where
  | stir {s s' : Session} (h : Stir s s') : Stage s [] s'
  /-- The server acts on an exchange, and no attempt hears of it. -/
  | unheard {s : Session} {number : Nat} {c : Command}
      (unseen : (s.server.act number c).2 = none ∨ ∀ link ∈ s.links, link.exchange ≠ number) :
      Stage s [(number, c)] { s with server := (s.server.act number c).1 }
  /-- The server acts on the exchange of an attempt, which hears of it. -/
  | heard {s : Session} {link : Link} {c : Command} {server : Server} {arrival : Arrival}
      (runs : link ∈ s.links) (acted : s.server.act link.exchange c = (server, some arrival)) :
      Stage s [(link.exchange, c)] (linkArrival { s with server := server } link arrival)

/-- What happens one after another, with what the server does. -/
inductive Stages : Session → List (Nat × Command) → Session → Prop where
  | refl (s : Session) : Stages s [] s
  | step {s s' s'' : Session} {now later : List (Nat × Command)} (first : Stage s now s')
      (rest : Stages s' later s'') : Stages s (now ++ later) s''

theorem Stage.leads {schedule : List (Nat × Command)} (stage : Stage s schedule s') : Leads s s' := by
  cases stage with
  | stir h => exact h.leads
  | unheard unseen => exact .of_move (.acted unseen)
  | heard runs acted => exact leads_linkArrival runs acted

namespace Stages

variable {schedule later : List (Nat × Command)}

theorem trans (first : Stages s schedule s') (second : Stages s' later s'') :
    Stages s (schedule ++ later) s'' := by
  induction first with
  | refl s => exact second
  | step stage _ ih =>
      rw [List.append_assoc]
      exact .step stage (ih second)

theorem of_stage (stage : Stage s schedule s') : Stages s schedule s' := by
  have stages := Stages.step stage (.refl s')
  rwa [List.append_nil] at stages

theorem of_stirs (stirs : ReflTransGen Stir s s') : Stages s [] s' := by
  induction stirs using ReflTransGen.head_induction_on with
  | refl => exact .refl s'
  | head stir _ ih => exact .step (.stir stir) ih

theorem leads (stages : Stages s schedule s') : Leads s s' := by
  induction stages with
  | refl s => exact .refl s
  | step stage _ ih => exact stage.leads.trans ih

/-- What happens by itself may follow. -/
theorem stirred (stages : Stages s schedule s') (h : s.Attended) (stirred : Stirred s' s'') :
    Stages s schedule s'' := by
  have stirs := stirred (h.leads stages.leads)
  have all := stages.trans (of_stirs stirs)
  rwa [List.append_nil] at all

end Stages

/-! ## Steps

Nothing but a command makes the server act on an exchange. So `schedule` is empty for all other
steps, and what they do beyond the clock and the server's shutting down happens by itself. -/

/-- What the server does in a step, in order. -/
def schedule (s : Session) : Step → List (Nat × Command)
  | .command number c => [(number, c)]
  | .commandAll c => s.server.openNumbers.map fun number => (number, c)
  | _ => []

/-- A session when a step begins: the clock has gone on, or the server is shut down. -/
def begun (s : Session) : Step → Session
  | .advance time => { s with now := s.now + time }
  | .shutDown => { s with server := s.server.shutDown }
  | _ => s

theorem Attended.begun (h : s.Attended) (step : Step) : (s.begun step).Attended := by
  cases step with
  | advance time => exact h.perform (.wait time)
  | shutDown => exact h.perform .shutDown
  | tick | probe | run | probeRun | stop | command | commandAll => exact h

theorem stages_command (h : s.Attended) (number : Nat) (c : Command) :
    Stages s [(number, c)] (s.command number c) := by
  have unheard := @Stage.unheard s number c
  unfold command
  split
  · rename_i server acts
    rw [acts] at unheard
    exact .of_stage (unheard (Or.inl rfl))
  · rename_i server arrival acts
    dsimp only
    split
    · rename_i link found
      have same : link.exchange = number := by simpa using List.find?_some found
      subst same
      exact .of_stage (.heard (List.mem_of_find?_eq_some found) acts)
    · rename_i none
      -- The exchange is that of a probe or of nothing that runs.
      rw [acts] at unheard
      have apart : ∀ link ∈ s.links, link.exchange ≠ number := by
        simpa using List.find?_eq_none.mp none
      have stages := Stages.of_stage (unheard (Or.inr apart))
      split
      · rename_i run probed
        have runs : run ∈ ({ s with server := server } : Session).probes :=
          List.mem_of_find?_eq_some probed
        exact stages.stirred h (stirred_probeArrival runs arrival)
      · exact stages

theorem stages_commands (h : s.Attended) (numbers : List Nat) (c : Command) :
    Stages s (numbers.map fun number => (number, c))
      (numbers.foldl (fun s number => (s.command number c).settle) s) := by
  induction numbers generalizing s with
  | nil => exact .refl s
  | cons number numbers ih =>
      have first := (stages_command h number c).stirred h (stirred_settle _)
      exact first.trans (ih (h.leads first.leads))

/-- **What happens in a step.** -/
theorem stages_step (h : s.Attended) (step : Step) :
    Stages (s.begun step) (s.schedule step) (s.step step).1 := by
  -- Most steps do something by themselves and settle; only the server's commands do more.
  have alone {s s' : Session} (h : s.Attended) (stirred : Stirred s s') : Stages s [] s'.settle :=
    .of_stirs (stirred.trans (stirred_settle s') h)
  cases step with
  | tick => exact alone h (stirred_tick s)
  | probe => exact alone h (stirred_startProbe s none)
  | run => exact alone h (stirred_startDriver s)
  | probeRun => exact alone h (stirred_startProber s)
  | stop => exact alone h (stirred_stop s)
  | advance time => exact alone (h.begun (.advance time)) (.refl _)
  | shutDown => exact alone (h.begun .shutDown) (.refl _)
  | command number c => exact (stages_command h number c).stirred h (stirred_settle _)
  | commandAll c => exact (stages_commands h _ c).stirred h (stirred_settle _)

/-! ## The log -/

theorem Stir.entered (stir : Stir s s') (h : s.Attended) : Entered s s' := by
  have orderly := h.matched.orderly
  cases stir with
  | aside h => exact .still h.registry h.failures h.endings
  | tick => exact entered_tick s
  | @refused id rest fault next unsent =>
      have waits := h.matched.waits (next ▸ List.mem_cons_self)
      exact @entered_finish s { s with opened := rest } rfl rfl orderly id waits _
  | asked next prepared received => exact .still rfl (fun _ => rfl) rfl
  | alarm runs due => exact entered_endLink s.server orderly (h.matched.runs runs) .timedOut

theorem Stage.entered {schedule : List (Nat × Command)} (stage : Stage s schedule s')
    (h : s.Attended) : Entered s s' := by
  cases stage with
  | stir stir => exact stir.entered h
  | unheard unseen => exact .still rfl (fun _ => rfl) rfl
  | @heard link c server arrival runs acted =>
      rcases linkArrival_cases link arrival with ⟨subscription, reads⟩ | ⟨ending, ends⟩
      · rw [reads]
        exact .still rfl (fun _ => rfl) rfl
      · rw [ends]
        exact entered_endLink server h.matched.orderly (h.matched.runs runs) ending

namespace Stages

variable {schedule : List (Nat × Command)}

theorem chronicled (stages : Stages s schedule s') (h : s.Attended) (log : s.Chronicled) :
    s'.Chronicled := by
  induction stages with
  | refl s => exact log
  | step stage _ ih =>
      exact ih (h.leads stage.leads) ((stage.entered h).chronicled h.matched.orderly log)

theorem noted (stages : Stages s schedule s') (h : s.Attended) (log : s.Chronicled) {id : Nat}
    {ending : Ending} (noted : s.endingsOf id = [ending]) : s'.endingsOf id = [ending] := by
  induction stages with
  | refl s => exact noted
  | step stage _ ih =>
      have entered := stage.entered h
      exact ih (h.leads stage.leads) (entered.chronicled h.matched.orderly log)
        (entered.noted log noted)

end Stages

end StreamLoad.Churn.Session
