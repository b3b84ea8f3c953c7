import StreamLoad.Proofs.Benchmark.Turns
import StreamLoad.Proofs.Ticker

/-! # How often the loops of a benchmark run

The loops of a session take their turns as `turns` says. Each run of a body takes a tick of the
loop's own ticker (`Keeps`), so a loop runs its body no more often than its ticker has ticks.
-/

set_option autoImplicit false

namespace StreamLoad.Benchmark.Session

/-! ## Loops that keep pace

The body of a loop has no part in how often it is run. `Keeps` is about the tickers alone, which
change where a loop goes on, starts or stops. -/

/-- The names and the tickers of the loops. -/
def clocks (s : Session) : List (Nat × Ticker) :=
  Ticker.clocks TickLoop.id TickLoop.ticker s.loops

/-- Every loop has a name given out before. -/
def Named (s : Session) : Prop := ∀ clock ∈ s.clocks, clock.1 < s.loopsStarted

/-- What happens keeps every loop started before in pace, if it has run its body as often as is
said. -/
structure Keeps (s : Session) (turns : List Nat) (s' : Session) : Prop where
  loops : ∀ id < s.loopsStarted, ∀ period began rounds,
    Ticker.Pace id period began rounds s.now s.clocks →
    Ticker.Pace id period began (rounds + turns.count id) s'.now s'.clocks
  named : s.Named → s'.Named
  started : s.loopsStarted ≤ s'.loopsStarted
  settings : s'.settings = s.settings

namespace Keeps

variable {s s' s'' : Session} {turns later : List Nat}

theorem trans (first : Keeps s turns s') (second : Keeps s' later s'') :
    Keeps s (turns ++ later) s'' where
  loops := fun id known period began rounds h => by
    rw [List.count_append, ← Nat.add_assoc]
    refine second.loops id (Nat.lt_of_lt_of_le known first.started) period began _ ?_
    exact first.loops id known period began rounds h
  named := second.named ∘ first.named
  started := Nat.le_trans first.started second.started
  settings := second.settings.trans first.settings

/-- Loops are stopped, and time goes on. -/
theorem of_subset (loops : s'.clocks ⊆ s.clocks) (started : s'.loopsStarted = s.loopsStarted)
    (now : s.now ≤ s'.now) (settings : s'.settings = s.settings) : Keeps s [] s' where
  loops := fun _ _ _ _ _ h => h.mono now fun _ member => loops member
  named := fun named clock member => started ▸ named clock (loops member)
  started := Nat.le_of_eq started.symm
  settings := settings

theorem of_same (same : SameLoops s s') : Keeps s [] s' := by
  refine of_subset ?_ same.started (Nat.le_of_eq same.now.symm) same.settings
  rw [clocks, same.loops]
  exact List.Subset.refl _

theorem refl (s : Session) : Keeps s [] s := of_same (.refl s)

theorem then_same (h : Keeps s turns s') (same : SameLoops s' s'') : Keeps s turns s'' := by
  simpa using h.trans (of_same same)

theorem same_then (same : SameLoops s s') (h : Keeps s' turns s'') : Keeps s turns s'' :=
  (of_same same).trans h

end Keeps

/-- A loop takes the ticks that are due. -/
theorem keeps_resumeLoop (s : Session) (id : Nat) :
    Keeps s (s.turnsOfLoop id) (s.resumeLoop id) := by
  unfold turnsOfLoop resumeLoop
  cases found : s.loops.find? (·.id = id) with
  | none => exact .refl s
  | some loop =>
      have same : loop.id = id := by simpa using List.find?_some found
      -- The ticks that are due are taken one by one, and only this ticker moves.
      have taken := loop.ticker.takes_takeDue s.now
      dsimp only
      rcases taking : loop.ticker.takeDue s.now with ⟨count, ticker⟩
      rw [taking] at taken
      let after : TickLoop := { loop with ticker := ticker, order := s.alarms }
      let waiting : Session :=
        { s with
          loops := s.loops.map fun l => if l.id = id then after else l
          alarms := s.alarms + 1 }
      suffices took : Keeps s (List.replicate count id) waiting from
        took.then_same (sameLoops_ticks count waiting)
      refine ⟨?_, ?_, Nat.le_refl _, rfl⟩
      · intro other _ period began rounds h
        have kept := Ticker.Pace.replace (show after.id = id from same) found taken h
        rw [Ticker.count_replicate_eq]
        exact kept
      · intro named clock member
        obtain ⟨t, known⟩ := Ticker.exists_mem_clocks (show after.id = id from same) found member
        exact named (clock.1, t) known

theorem keeps_rings (s : Session) (ids : List Nat) :
    Keeps s (s.turnsOfRings ids) (ids.foldl resumeLoop s) := by
  induction ids generalizing s with
  | nil => exact .refl s
  | cons id ids ih => exact (keeps_resumeLoop s id).trans (ih (s.resumeLoop id))

theorem keeps_settle (s : Session) : Keeps s s.turnsOfSettle s.settle := by
  have rung : Keeps s s.turnsOfSettle s.ringAll := keeps_rings s _
  have launched := rung.then_same (sameLoops_launchAll s.ringAll)
  exact launched.then_same (.foldl (fun s _ => sameLoops_spin spinLimit s) _ _)

/-! ## Steps -/

theorem keeps_commands (c : Command) (numbers : List Nat) (s : Session) :
    Keeps s (s.turnsOfCommands c numbers)
      (numbers.foldl (fun s number => (s.command number c).settle) s) := by
  induction numbers generalizing s with
  | nil => exact .refl s
  | cons number numbers ih =>
      exact (Keeps.same_then (sameLoops_command s number c) (keeps_settle _)).trans (ih _)

theorem clocks_withLoop (s : Session) :
    s.withLoop.clocks = s.clocks ++ [(s.loopsStarted, .create s.settings.interval s.now)] := by
  rw [withLoop, clocks, Ticker.clocks_concat, (sameLoops_startSubscribers s).loops]
  rfl

theorem keeps_withLoop (s : Session) : Keeps s [] s.withLoop := by
  have ready := sameLoops_startSubscribers s
  refine ⟨fun id known period began rounds h => ?_, fun named clock member => ?_, ?_,
    ready.settings⟩
  · refine h.mono (Nat.le_of_eq ready.now.symm) fun t member => ?_
    rw [clocks_withLoop] at member
    exact Ticker.mem_of_mem_concat known member
  · rw [clocks_withLoop] at member
    show clock.1 < s.startSubscribers.loopsStarted + 1
    rw [ready.started]
    rcases List.mem_append.mp member with old | last
    · exact Nat.lt_succ_of_lt (named clock old)
    · rw [List.mem_singleton.mp last]
      exact Nat.lt_succ_self s.loopsStarted
  · show s.loopsStarted ≤ s.startSubscribers.loopsStarted + 1
    rw [ready.started]
    exact Nat.le_succ _

theorem keeps_startLoop (s : Session) : Keeps s.withLoop s.turnsOfStartLoop s.startLoop := by
  rw [startLoop_eq, turnsOfStartLoop]
  split
  · exact .refl s.withLoop
  · exact keeps_resumeLoop s.withLoop s.loopsStarted

theorem keeps_step (s : Session) (step : Step) :
    Keeps s (s.turnsOfStep step) (s.step step).1 := by
  cases step with
  | start => exact .same_then (sameLoops_startSubscribers s) (keeps_settle _)
  | tick => exact .same_then (sameLoops_tick s) (keeps_settle _)
  | run => exact ((keeps_withLoop s).trans (keeps_startLoop s)).trans (keeps_settle _)
  | stop =>
      have stopped : Keeps s [] s.stop :=
        .of_subset (Ticker.clocks_subset (List.filter_subset_self _)) rfl (Nat.le_refl _) rfl
      exact stopped.trans (keeps_settle _)
  | advance time =>
      have waited : Keeps s [] { s with now := s.now + time } :=
        .of_subset (List.Subset.refl _) rfl (Nat.le_add_right _ _) rfl
      exact waited.trans (keeps_settle _)
  | command number c => exact .same_then (sameLoops_command s number c) (keeps_settle _)
  | commandAll c => exact (keeps_commands c _ s).trans (keeps_settle _)
  | shutDown =>
      have down : SameLoops s { s with server := s.server.shutDown } := ⟨rfl, rfl, rfl, rfl⟩
      exact .same_then down (keeps_settle _)

theorem keeps_run (s : Session) (steps : List Step) : Keeps s (s.turns steps) (s.run steps) := by
  induction steps generalizing s with
  | nil => exact .refl s
  | cons step steps ih => exact (keeps_step s step).trans (ih _)

/-! ## How often a loop runs -/

theorem named_run (settings : BenchmarkSettings) (client : Client) (server : Server)
    (steps : List Step) :
    ((start settings client server).run steps).Named
    ∧ ((start settings client server).run steps).settings = settings := by
  have kept := keeps_run (start settings client server) steps
  refine ⟨kept.named fun clock member => ?_, kept.settings⟩
  cases member

/-- A loop runs its body no more often than its ticker has ticks from its start. -/
theorem Named.rounds {s : Session} (named : s.Named) (positive : 0 < s.settings.interval)
    (steps : List Step) :
    (s.turns (.run :: steps)).count s.loopsStarted
      ≤ ((s.run (.run :: steps)).now - s.now) / s.settings.interval + 1 := by
  have new : ∀ t, (s.loopsStarted, t) ∉ s.clocks := fun t old => Nat.lt_irrefl _ (named _ old)
  have ready := sameLoops_startSubscribers s
  have begins : Ticker.Pace s.loopsStarted s.settings.interval s.now 0 s.withLoop.now
      s.withLoop.clocks := by
    rw [clocks_withLoop, show s.withLoop.now = s.now from ready.now]
    exact .begins positive new
  have runs : Keeps s.withLoop (s.turns (.run :: steps)) (s.run (.run :: steps)) :=
    ((keeps_startLoop s).trans (keeps_settle _)).trans (keeps_run _ steps)
  have given : s.loopsStarted < s.withLoop.loopsStarted := by
    show s.loopsStarted < s.startSubscribers.loopsStarted + 1
    rw [ready.started]
    exact Nat.lt_succ_self _
  have pace := runs.loops s.loopsStarted given _ _ 0 begins
  rw [Nat.zero_add] at pace
  exact pace.le positive

end StreamLoad.Benchmark.Session
