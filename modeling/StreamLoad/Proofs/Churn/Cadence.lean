import StreamLoad.Proofs.Churn.Pacing
import StreamLoad.Proofs.Ticker

/-! # How often the loops of a churn session run

The loops of a session take their turns as `turns` says. Every run of a body takes a tick of the
loop's own ticker, and no other loop's tick is taken (`Keeps`). So a loop runs its body no more
often than its ticker has ticks (`Pace`).
-/

set_option autoImplicit false

namespace StreamLoad.Churn.Session

/-! ## Loops that keep pace

`Keeps` is about the tickers alone. What the body of a loop does has no part in how often it is run,
so each lemma has to say only which ticker takes the place of which, and how many ticks were taken
in between. -/

/-- The names and the tickers of loops. -/
def clocks (loops : List TickLoop) : List (Nat × Ticker) :=
  Ticker.clocks TickLoop.id TickLoop.ticker loops

theorem clocks_concat (loops : List TickLoop) (loop : TickLoop) :
    clocks (loops ++ [loop]) = clocks loops ++ [(loop.id, loop.ticker)] :=
  Ticker.clocks_concat loops loop

/-- Every loop has a name given out before. -/
def Named (s : Session) : Prop :=
  ∀ clock ∈ clocks s.drivers ++ clocks s.probers, clock.1 < s.loops

/-- What happens keeps every loop started before in pace, if it has run its body as often as is
said. -/
structure Keeps (s : Session) (turns : List Waiter) (s' : Session) : Prop where
  drivers : ∀ id < s.loops, ∀ period began rounds,
    Ticker.Pace id period began rounds s.now (clocks s.drivers) →
    Ticker.Pace id period began (rounds + turns.count (.driver id)) s'.now (clocks s'.drivers)
  probers : ∀ id < s.loops, ∀ period began rounds,
    Ticker.Pace id period began rounds s.now (clocks s.probers) →
    Ticker.Pace id period began (rounds + turns.count (.prober id)) s'.now (clocks s'.probers)
  named : s.Named → s'.Named
  loops : s.loops ≤ s'.loops
  settings : (s'.settings, s'.probing) = (s.settings, s.probing)

namespace Keeps

variable {s s' s'' : Session} {turns later : List Waiter}

theorem trans (first : Keeps s turns s') (second : Keeps s' later s'') :
    Keeps s (turns ++ later) s'' where
  drivers := fun id known period began rounds h => by
    rw [List.count_append, ← Nat.add_assoc]
    refine second.drivers id (Nat.lt_of_lt_of_le known first.loops) period began _ ?_
    exact first.drivers id known period began rounds h
  probers := fun id known period began rounds h => by
    rw [List.count_append, ← Nat.add_assoc]
    refine second.probers id (Nat.lt_of_lt_of_le known first.loops) period began _ ?_
    exact first.probers id known period began rounds h
  named := second.named ∘ first.named
  loops := Nat.le_trans first.loops second.loops
  settings := second.settings.trans first.settings

/-- Loops are stopped or go on to wait, and time goes on. -/
theorem of_subset (drivers : clocks s'.drivers ⊆ clocks s.drivers)
    (probers : clocks s'.probers ⊆ clocks s.probers) (loops : s'.loops = s.loops)
    (now : s.now ≤ s'.now) (settings : (s'.settings, s'.probing) = (s.settings, s.probing)) :
    Keeps s [] s' where
  drivers := fun _ _ _ _ _ h => h.mono now fun _ member => drivers member
  probers := fun _ _ _ _ _ h => h.mono now fun _ member => probers member
  loops := Nat.le_of_eq loops.symm
  settings := settings
  named := by
    intro named clock member
    rw [loops]
    refine named clock ?_
    rcases List.mem_append.mp member with driver | prober
    · exact List.mem_append_left _ (drivers driver)
    · exact List.mem_append_right _ (probers prober)

theorem of_same (same : SameLoops s s') : Keeps s [] s' := by
  refine of_subset ?_ ?_ same.loops (Nat.le_of_eq same.now.symm) same.settings
  · rw [same.drivers]
    exact List.Subset.refl _
  · rw [same.probers]
    exact List.Subset.refl _

theorem refl (s : Session) : Keeps s [] s := of_same (.refl s)

theorem then_same (h : Keeps s turns s') (same : SameLoops s' s'') : Keeps s turns s'' := by
  simpa using h.trans (of_same same)

theorem same_then (same : SameLoops s s') (h : Keeps s' turns s'') : Keeps s turns s'' :=
  (of_same same).trans h

end Keeps

/-! ## A loop that goes on -/

/-- A driver loop takes the ticks that are due. -/
theorem keeps_resumeDriver (s : Session) (id : Nat) :
    Keeps s (s.turnsOfDriver id) (s.resumeDriver id) := by
  unfold turnsOfDriver resumeDriver
  cases found : s.drivers.find? (·.id = id) with
  | none => exact .refl s
  | some loop =>
      have same : loop.id = id := by simpa using List.find?_some found
      have taken := loop.ticker.takes_takeDue s.now
      dsimp only
      rcases taking : loop.ticker.takeDue s.now with ⟨count, ticker⟩
      rw [taking] at taken
      let after : TickLoop := { loop with ticker := ticker, order := s.alarms }
      let waiting : Session :=
        { s with
          drivers := s.drivers.map fun l => if l.id = id then after else l
          alarms := s.alarms + 1 }
      suffices took : Keeps s (List.replicate count (.driver id)) waiting from
        took.then_same (sameLoops_ticks count waiting)
      refine ⟨?_, ?_, ?_, Nat.le_refl _, rfl⟩
      · -- This loop has run its body once for each tick, and any other driver not at all.
        intro other _ period began rounds h
        have kept := Ticker.Pace.replace (show after.id = id from same) found taken h
        rw [Ticker.count_replicate_eq]
        simp only [Waiter.driver.injEq]
        exact kept
      · intro other _ period began rounds h
        rw [Ticker.count_replicate_eq, if_neg (by simp)]
        exact h
      · intro named clock member
        rcases List.mem_append.mp member with driver | prober
        · obtain ⟨t, known⟩ := Ticker.exists_mem_clocks (show after.id = id from same) found driver
          exact named (clock.1, t) (List.mem_append_left _ known)
        · exact named clock (List.mem_append_right _ prober)

/-- A loop of probes takes one tick. -/
theorem keeps_updateProber {s : Session} {id : Nat} (count : Nat) {loop after : TickLoop}
    (found : s.probers.find? (·.id = id) = some loop) (same : after.id = id)
    (ticks : loop.ticker.Takes s.now count after.ticker) :
    Keeps s (List.replicate count (.prober id)) (s.updateProber after) := by
  subst same
  refine ⟨?_, ?_, ?_, Nat.le_refl _, rfl⟩
  · intro other _ period began rounds h
    rw [Ticker.count_replicate_eq, if_neg (by simp)]
    exact h
  · intro other _ period began rounds h
    have kept := Ticker.Pace.replace rfl found ticks h
    rw [Ticker.count_replicate_eq]
    simp only [Waiter.prober.injEq]
    exact kept
  · intro named clock member
    rcases List.mem_append.mp member with driver | prober
    · exact named clock (List.mem_append_left _ driver)
    · obtain ⟨t, known⟩ := Ticker.exists_mem_clocks rfl found prober
      exact named (clock.1, t) (List.mem_append_right _ known)

theorem keeps_runProber (id count : Nat) (s : Session) :
    Keeps s (List.replicate (probings id count s) (.prober id)) (runProber id count s) := by
  induction count generalizing s with
  | zero => exact .refl s
  | succ count ih =>
      unfold probings runProber
      cases found : s.probers.find? (·.id = id) with
      | none => exact .refl s
      | some loop =>
          have same : loop.id = id := by simpa using List.find?_some found
          dsimp only
          cases ticked : loop.ticker.tick? s.now with
          | none =>
              -- No tick is due: the loop waits on with the same ticker.
              have aside : SameLoops s { s with alarms := s.alarms + 1 } :=
                ⟨rfl, rfl, rfl, rfl, rfl⟩
              refine .same_then aside ?_
              exact keeps_updateProber 0 found same fun _ _ _ h => ⟨h, Or.inl rfl⟩
          | some ticker =>
              let after : TickLoop := { loop with ticker := ticker, busy := true }
              have waits : Keeps s [.prober id] (s.updateProber after) :=
                keeps_updateProber 1 found same (Ticker.takes_tick? ticked)
              have started := waits.then_same (sameLoops_startProbe _ (some id))
              dsimp only
              rcases probes : (s.updateProber after).startProbe (some id) with ⟨next, ended⟩
              rw [probes] at started
              cases ended with
              | false => exact started
              | true =>
                  have on := started.trans (ih next)
                  rwa [List.singleton_append, ← List.replicate_succ] at on

theorem keeps_resumeProber (s : Session) (id : Nat) :
    Keeps s (s.turnsOfProber id) (s.resumeProber id) := by
  unfold turnsOfProber resumeProber
  cases s.probers.find? (·.id = id) with
  | none => exact .refl s
  | some loop => exact keeps_runProber id _ s

/-- A probe ends, and its loop goes on if it belongs to one. -/
theorem keeps_endProbe (s : Session) (run : ProbeRun) (verdict : Verdict)
    (fault : List ChurnNotice) :
    Keeps s (s.turnsOfEnd run verdict fault) (s.endProbe run verdict fault) := by
  have concluded : SameLoops s (s.conclude run verdict fault) := ⟨rfl, rfl, rfl, rfl, rfl⟩
  unfold turnsOfEnd
  cases loop : run.loop with
  | none =>
      rw [endProbe_of_single loop]
      exact .of_same concluded
  | some id =>
      rw [endProbe_of_loop loop]
      exact .same_then concluded (keeps_resumeProber _ id)

theorem keeps_probeArrival (s : Session) (run : ProbeRun) (arrival : Arrival) :
    Keeps s (s.turnsOfArrival run arrival) (s.probeArrival run arrival) := by
  cases arrival with
  | head status => exact keeps_endProbe s run _ _
  | lost => exact keeps_endProbe s run _ _
  | body item => exact .refl s

/-! ## Alarms -/

theorem keeps_ring (s : Session) (waiter : Waiter) :
    Keeps s (s.turnsOfRing waiter) (s.ring waiter) := by
  cases waiter with
  | driver id => exact keeps_resumeDriver s id
  | prober id => exact keeps_resumeProber s id
  | probe exchange =>
      unfold turnsOfRing ring
      dsimp only
      cases s.probes.find? (·.exchange = exchange) with
      | none => exact .refl s
      | some run => exact keeps_endProbe s run _ _
  | link attempt =>
      unfold turnsOfRing ring
      dsimp only
      cases s.links.find? (·.attempt = attempt) with
      | none => exact .refl s
      | some link => exact .of_same ⟨rfl, rfl, rfl, rfl, rfl⟩

theorem keeps_rings (s : Session) (waiters : List Waiter) :
    Keeps s (s.turnsOfRings waiters) (waiters.foldl ring s) := by
  induction waiters generalizing s with
  | nil => exact .refl s
  | cons waiter waiters ih => exact (keeps_ring s waiter).trans (ih (s.ring waiter))

theorem keeps_settle (s : Session) : Keeps s s.turnsOfSettle s.settle := by
  have rung : Keeps s s.turnsOfSettle s.ringAll := keeps_rings s _
  have launched := rung.then_same (sameLoops_launchAll s.ringAll)
  exact launched.then_same (.foldl (fun s _ => sameLoops_spin _ s) _ _)

/-! ## Steps -/

theorem keeps_command (s : Session) (number : Nat) (c : Command) :
    Keeps s (s.turnsOfCommand number c) (s.command number c) := by
  unfold turnsOfCommand command
  rcases s.server.act number c with ⟨server, seen⟩
  have acted : SameLoops s { s with server := server } := ⟨rfl, rfl, rfl, rfl, rfl⟩
  cases seen with
  | none => exact .of_same acted
  | some arrival =>
      dsimp only
      cases s.links.find? (·.exchange = number) with
      | some link => exact .of_same (acted.trans (sameLoops_linkArrival _ link arrival))
      | none =>
          cases s.probes.find? (·.exchange = number) with
          | none => exact .of_same acted
          | some run => exact .same_then acted (keeps_probeArrival _ run arrival)

theorem keeps_commands (c : Command) (numbers : List Nat) (s : Session) :
    Keeps s (s.turnsOfCommands c numbers)
      (numbers.foldl (fun s number => (s.command number c).settle) s) := by
  induction numbers generalizing s with
  | nil => exact .refl s
  | cons number numbers ih =>
      exact ((keeps_command s number c).trans (keeps_settle _)).trans (ih _)

theorem keeps_withDriver (s : Session) : Keeps s [] s.withDriver where
  drivers := fun _ known _ _ _ h => h.mono (Nat.le_refl _) fun _ member => by
    rw [withDriver, note, clocks_concat] at member
    exact Ticker.mem_of_mem_concat known member
  probers := fun _ _ _ _ _ h => h
  named := by
    intro named clock member
    rw [withDriver, note, clocks_concat] at member
    simp only [List.mem_append, List.mem_singleton] at member
    rcases member with (driver | rfl) | prober
    · exact Nat.lt_succ_of_lt (named clock (List.mem_append_left _ driver))
    · exact Nat.lt_succ_self s.loops
    · exact Nat.lt_succ_of_lt (named clock (List.mem_append_right _ prober))
  loops := Nat.le_succ _
  settings := rfl

theorem keeps_withProber (s : Session) : Keeps s [] s.withProber where
  drivers := fun _ _ _ _ _ h => h
  probers := fun _ known _ _ _ h => h.mono (Nat.le_refl _) fun _ member => by
    rw [withProber, clocks_concat] at member
    exact Ticker.mem_of_mem_concat known member
  named := by
    intro named clock member
    rw [withProber, clocks_concat] at member
    simp only [List.mem_append, List.mem_singleton] at member
    rcases member with driver | prober | rfl
    · exact Nat.lt_succ_of_lt (named clock (List.mem_append_left _ driver))
    · exact Nat.lt_succ_of_lt (named clock (List.mem_append_right _ prober))
    · exact Nat.lt_succ_self s.loops
  loops := Nat.le_succ _
  settings := rfl

theorem keeps_startDriver (s : Session) :
    Keeps s.withDriver s.turnsOfStartDriver s.startDriver := by
  rw [startDriver_eq, turnsOfStartDriver]
  split
  · exact .refl s.withDriver
  · exact keeps_resumeDriver s.withDriver s.loops

theorem keeps_startProber (s : Session) :
    Keeps s.withProber (s.withProber.turnsOfProber s.loops) s.startProber :=
  keeps_resumeProber s.withProber s.loops

theorem keeps_step (s : Session) (step : Step) :
    Keeps s (s.turnsOfStep step) (s.step step).1 := by
  cases step with
  | tick => exact .same_then (sameLoops_tick s) (keeps_settle _)
  | probe => exact .same_then (sameLoops_startProbe s none) (keeps_settle _)
  | run => exact ((keeps_withDriver s).trans (keeps_startDriver s)).trans (keeps_settle _)
  | probeRun => exact ((keeps_withProber s).trans (keeps_startProber s)).trans (keeps_settle _)
  | stop =>
      have stopped : Keeps s [] s.stop :=
        .of_subset (Ticker.clocks_subset (List.filter_subset_self _))
          (Ticker.clocks_subset (List.filter_subset_self _)) rfl (Nat.le_refl _) rfl
      exact stopped.trans (keeps_settle _)
  | advance time =>
      have waited : Keeps s [] { s with now := s.now + time } :=
        .of_subset (List.Subset.refl _) (List.Subset.refl _) rfl (Nat.le_add_right _ _) rfl
      exact waited.trans (keeps_settle _)
  | command number c => exact (keeps_command s number c).trans (keeps_settle _)
  | commandAll c => exact (keeps_commands c _ s).trans (keeps_settle _)
  | shutDown =>
      have down : SameLoops s { s with server := s.server.shutDown } := ⟨rfl, rfl, rfl, rfl, rfl⟩
      exact .same_then down (keeps_settle _)

theorem keeps_run (s : Session) (steps : List Step) : Keeps s (s.turns steps) (s.run steps) := by
  induction steps generalizing s with
  | nil => exact .refl s
  | cons step steps ih => exact (keeps_step s step).trans (ih _)

/-! ## How often a loop runs

A loop gets a name of its own when it starts, and from then on the runs of its body are ticks of its
ticker. How many ticks there can be in a span of time is a matter of the ticker and left to it. -/

theorem named_run (settings : ChurnSettings) (probing : ProbeSettings) (goal : Nat)
    (client : Client) (server : Server) (steps : List Step) :
    ((start settings probing goal client server).run steps).Named
    ∧ ((start settings probing goal client server).run steps).settings = settings
    ∧ ((start settings probing goal client server).run steps).probing = probing := by
  have kept := keeps_run (start settings probing goal client server) steps
  refine ⟨kept.named fun clock member => ?_, congrArg Prod.fst kept.settings,
    congrArg Prod.snd kept.settings⟩
  cases member

/-- A driver loop runs its body no more often than its ticker has ticks from its start. -/
theorem Named.driver_rounds {s : Session} (named : s.Named) (positive : 0 < s.settings.interval)
    (steps : List Step) :
    (s.turns (.run :: steps)).count (.driver s.loops)
      ≤ ((s.run (.run :: steps)).now - s.now) / s.settings.interval + 1 := by
  have new : ∀ t, (s.loops, t) ∉ clocks s.drivers := fun t old =>
    Nat.lt_irrefl _ (named _ (List.mem_append_left _ old))
  have begins : Ticker.Pace s.loops s.settings.interval s.now 0 s.withDriver.now
      (clocks s.withDriver.drivers) := by
    rw [withDriver, note, clocks_concat]
    exact .begins positive new
  have runs : Keeps s.withDriver (s.turns (.run :: steps)) (s.run (.run :: steps)) :=
    ((keeps_startDriver s).trans (keeps_settle _)).trans (keeps_run _ steps)
  have pace := runs.drivers s.loops (Nat.lt_succ_self _) _ _ 0 begins
  rw [Nat.zero_add] at pace
  exact pace.le positive

/-- A loop of probes runs its body no more often than its ticker has ticks from its start. -/
theorem Named.prober_rounds {s : Session} (named : s.Named) (positive : 0 < s.probing.interval)
    (steps : List Step) :
    (s.turns (.probeRun :: steps)).count (.prober s.loops)
      ≤ ((s.run (.probeRun :: steps)).now - s.now) / s.probing.interval + 1 := by
  have new : ∀ t, (s.loops, t) ∉ clocks s.probers := fun t old =>
    Nat.lt_irrefl _ (named _ (List.mem_append_right _ old))
  have begins : Ticker.Pace s.loops s.probing.interval s.now 0 s.withProber.now
      (clocks s.withProber.probers) := by
    rw [withProber, clocks_concat]
    exact .begins positive new
  have runs : Keeps s.withProber (s.turns (.probeRun :: steps)) (s.run (.probeRun :: steps)) :=
    ((keeps_startProber s).trans (keeps_settle _)).trans (keeps_run _ steps)
  have pace := runs.probers s.loops (Nat.lt_succ_self _) _ _ 0 begins
  rw [Nat.zero_add] at pace
  exact pace.le positive

end StreamLoad.Churn.Session
