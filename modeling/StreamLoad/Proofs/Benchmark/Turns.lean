import StreamLoad.Proofs.Benchmark.Actions
import StreamLoad.Proofs.Histories
import StreamLoad.Proofs.Ticker

/-! # The turns of the loops

A loop of a benchmark waits for a tick, runs its body once, and waits again. `turns` tells which
loops run their bodies in the steps of a session, in the order in which they do: a loop runs when
its alarm rings or when it is started.

Each step of a session is a list of actions, so that what holds after every list of actions holds in
every session (`exists_performAll_eq_run`). The ticks among the actions are the turns of the loops,
one for one, and those that the session is told (`carried_run`).
-/

set_option autoImplicit false

namespace StreamLoad.Benchmark.Session

/-! ## The loops that run

Each function here goes along with one function of the session. Where the session lets a loop go on,
the loop is listed once for each tick that it takes, and so each time that its body runs. -/

/-- The loop that goes on, once for each tick that it takes. -/
def turnsOfLoop (s : Session) (id : Nat) : List Nat :=
  match s.loops.find? (·.id = id) with
  | none => []
  | some loop => List.replicate (loop.ticker.takeDue s.now).1 id

/-- The loops that run when the alarms of some loops ring one after another. -/
def turnsOfRings (s : Session) (ids : List Nat) : List Nat := answers resumeLoop turnsOfLoop s ids

/-- The loops that run while the clock stands still. -/
def turnsOfSettle (s : Session) : List Nat := s.turnsOfRings (Alarm.ringing s.now s.waiting)

/-- The loops that run when the server acts on some exchanges, one after another. -/
def turnsOfCommands (s : Session) (c : Command) (numbers : List Nat) : List Nat :=
  answers (fun s number => (s.command number c).settle)
    (fun s number => (s.command number c).turnsOfSettle) s numbers

/-- A loop has been started and does not tick yet. -/
def withLoop (s : Session) : Session :=
  { s.startSubscribers with
    loops := s.startSubscribers.loops
      ++ [{ id := s.loopsStarted, ticker := .create s.settings.interval s.now }]
    loopsStarted := s.startSubscribers.loopsStarted + 1
    stoppable := some s.loopsStarted }

/-- The loop that starts, once for each tick that it takes at once. -/
def turnsOfStartLoop (s : Session) : List Nat :=
  match Ticker.create s.settings.interval s.now with
  | .immediate => []
  | .every _ _ _ => s.withLoop.turnsOfLoop s.loopsStarted

/-- The loops with a period that run in a step, each once for each time it runs its body. -/
def turnsOfStep (s : Session) : Step → List Nat
  | .start => s.startSubscribers.turnsOfSettle
  | .tick => s.tick.1.turnsOfSettle
  | .run => s.turnsOfStartLoop ++ s.startLoop.turnsOfSettle
  | .stop => s.stop.turnsOfSettle
  | .advance time => turnsOfSettle { s with now := s.now + time }
  | .command number c => (s.command number c).turnsOfSettle
  | .commandAll c => s.turnsOfCommands c s.server.openNumbers ++ (s.commandAll c).turnsOfSettle
  | .shutDown => turnsOfSettle { s with server := s.server.shutDown }

/-- The loops that run in some steps. -/
def turns (s : Session) (steps : List Step) : List Nat :=
  answers (fun s step => (s.step step).1) turnsOfStep s steps

theorem startLoop_eq (s : Session) :
    s.startLoop = match Ticker.create s.settings.interval s.now with
      | .immediate => s.withLoop
      | .every _ _ _ => s.withLoop.resumeLoop s.loopsStarted :=
  rfl

/-! ## Loops that are left alone -/

/-- No loop is started, stopped or let go on, and the clock stands. -/
structure SameLoops (s s' : Session) : Prop where
  loops : s'.loops = s.loops
  started : s'.loopsStarted = s.loopsStarted
  now : s'.now = s.now
  settings : s'.settings = s.settings

namespace SameLoops

variable {s s' s'' : Session}

theorem refl (s : Session) : SameLoops s s := ⟨rfl, rfl, rfl, rfl⟩

theorem trans (first : SameLoops s s') (second : SameLoops s' s'') : SameLoops s s'' :=
  ⟨second.loops.trans first.loops, second.started.trans first.started,
    second.now.trans first.now, second.settings.trans first.settings⟩

theorem foldl {α : Type} {f : Session → α → Session} (h : ∀ s x, SameLoops s (f s x))
    (xs : List α) (s : Session) : SameLoops s (xs.foldl f s) :=
  List.foldlRecOn xs f (refl s) fun _ reached x _ => reached.trans (h _ x)

end SameLoops

theorem sameLoops_subscribe (s : Session) (id : Nat) : SameLoops s (s.subscribe id) := by
  unfold subscribe
  split
  · exact ⟨rfl, rfl, rfl, rfl⟩
  · split <;> exact ⟨rfl, rfl, rfl, rfl⟩

theorem sameLoops_memberArrival (s : Session) (member : Member) (arrival : Arrival) :
    SameLoops s (s.memberArrival member arrival) := by
  unfold memberArrival
  dsimp only
  split
  · exact ⟨rfl, rfl, rfl, rfl⟩
  · split <;> exact ⟨rfl, rfl, rfl, rfl⟩

theorem sameLoops_publicationArrival (s : Session) (p : Publication) (arrival : Arrival) :
    SameLoops s (s.publicationArrival p arrival) := by
  cases arrival with
  | head status =>
      unfold publicationArrival
      dsimp only
      split <;> exact ⟨rfl, rfl, rfl, rfl⟩
  | lost => exact ⟨rfl, rfl, rfl, rfl⟩
  | body item => exact .refl s

theorem sameLoops_command (s : Session) (number : Nat) (c : Command) :
    SameLoops s (s.command number c) := by
  unfold command
  rcases s.server.act number c with ⟨server, seen⟩
  have acted : SameLoops s { s with server := server } := ⟨rfl, rfl, rfl, rfl⟩
  cases seen with
  | none => exact acted
  | some arrival =>
      dsimp only
      split
      · exact acted.trans (sameLoops_memberArrival _ _ arrival)
      · split
        · exact acted.trans (sameLoops_publicationArrival _ _ arrival)
        · exact acted

theorem sameLoops_publish (s : Session) (payload : String) : SameLoops s (s.publish payload) := by
  unfold publish
  split
  · exact ⟨rfl, rfl, rfl, rfl⟩
  · split
    · exact ⟨rfl, rfl, rfl, rfl⟩
    · rename_i server number _
      refine SameLoops.trans ?_ (.foldl (fun s c => sameLoops_command s number c) _ _)
      exact ⟨rfl, rfl, rfl, rfl⟩

theorem sameLoops_runTask (s : Session) (task : Task) : SameLoops s (s.runTask task) := by
  cases task with
  | subscribe id => exact sameLoops_subscribe s id
  | publish payload => exact sameLoops_publish s payload

theorem sameLoops_launchAll (s : Session) : SameLoops s s.launchAll := by
  have aside : SameLoops s { s with tasks := [] } := ⟨rfl, rfl, rfl, rfl⟩
  exact aside.trans (.foldl sameLoops_runTask s.tasks _)

theorem sameLoops_tick (s : Session) : SameLoops s s.tick.1 := ⟨rfl, rfl, rfl, rfl⟩

theorem sameLoops_ticks (count : Nat) (s : Session) : SameLoops s (ticks count s) := by
  induction count generalizing s with
  | zero => exact .refl s
  | succ count ih => exact (sameLoops_tick s).trans (ih s.tick.1)

theorem sameLoops_spin (count : Nat) (s : Session) : SameLoops s (spin count s) := by
  induction count generalizing s with
  | zero => exact .refl s
  | succ count ih =>
      unfold spin
      dsimp only
      split
      · exact .refl s
      · exact ((sameLoops_tick s).trans (sameLoops_launchAll _)).trans (ih _)

theorem sameLoops_startSubscribers (s : Session) : SameLoops s s.startSubscribers := by
  unfold startSubscribers
  split <;> exact ⟨rfl, rfl, rfl, rfl⟩

/-! ## Ticks

`turns` is computed beside the session, step by step. `Carried` says that it misses nothing and adds
nothing: from a session to a later one lead actions, every tick among them is listed, and what is
listed is carried out at its place. The one exception are the ticks of a loop without a period, of
which there may be any number while the clock stands still. -/

/-- Whether a step is one tick. -/
def Step.isTick : Step → Bool
  | .tick => true
  | _ => false

/-- Actions lead from one session to another. The ticks among them are the turns of some loops and
the steps that are told, each in order; besides, a loop without a period may tick. -/
inductive Carried : Session → List Nat → List Step → Session → Prop where
  | rest (s : Session) : Carried s [] [] s
  /-- Something happens that is no tick. -/
  | aside {s s' : Session} {turns : List Nat} {told : List Step} (action : Action)
      (other : action.isTick = false) (later : Carried (s.perform action) turns told s') :
      Carried s turns told s'
  | tick {s s' : Session} {turns : List Nat} {told : List Step}
      (later : Carried s.tick.1 turns told s') : Carried s turns (.tick :: told) s'
  /-- A loop without a period ticks. -/
  | spin {s s' : Session} {turns : List Nat} {told : List Step}
      (unpaced : s.settings.interval = 0) (later : Carried s.tick.1 turns told s') :
      Carried s turns told s'
  /-- A loop takes its turn. -/
  | turn {s s' : Session} {turns : List Nat} {told : List Step} (id : Nat)
      (runs : id ∈ s.loops.map (·.id)) (later : Carried s.tick.1 turns told s') :
      Carried s (id :: turns) told s'

namespace Carried

variable {s s' s'' : Session} {turns turns' : List Nat} {told told' : List Step}

theorem trans (first : Carried s turns told s') (second : Carried s' turns' told' s'') :
    Carried s (turns ++ turns') (told ++ told') s'' := by
  induction first with
  | rest s => exact second
  | aside action other _ ih => exact .aside action other (ih second)
  | tick _ ih => exact .tick (ih second)
  | spin unpaced _ ih => exact .spin unpaced (ih second)
  | turn id runs _ ih => exact .turn id runs (ih second)

theorem exists_performAll (h : Carried s turns told s') : ∃ actions, s.performAll actions = s' := by
  have cons {s s' : Session} (action : Action)
      (later : ∃ actions, (s.perform action).performAll actions = s') :
      ∃ actions, s.performAll actions = s' :=
    later.imp' (action :: ·) fun _ reached => reached
  induction h with
  | rest s => exact ⟨[], rfl⟩
  | aside action other _ ih => exact cons action ih
  | tick _ ih => exact cons .tick ih
  | spin unpaced _ ih => exact cons .tick ih
  | turn id runs _ ih => exact cons .tick ih

end Carried

/-- A loop ticks without a pause only if the ticks have no period. -/
def Spaced (s : Session) : Prop :=
  ∀ loop ∈ s.loops, loop.ticker.deadline? = none → s.settings.interval = 0

theorem SameLoops.spaced {s s' : Session} (same : SameLoops s s') (spaced : s.Spaced) :
    s'.Spaced := by
  intro loop runs idle
  rw [same.settings]
  exact spaced loop (same.loops ▸ runs) idle

/-- Loops keep their periods, and actions lead from one session to another. -/
def Passes (s : Session) (turns : List Nat) (told : List Step) (s' : Session) : Prop :=
  s.Spaced → s'.Spaced ∧ Carried s turns told s'

namespace Passes

variable {s s' s'' : Session} {turns turns' : List Nat} {told told' : List Step}

theorem refl (s : Session) : Passes s [] [] s := fun spaced => ⟨spaced, .rest s⟩

theorem trans (first : Passes s turns told s') (second : Passes s' turns' told' s'') :
    Passes s (turns ++ turns') (told ++ told') s'' := by
  intro spaced
  obtain ⟨spaced', reached⟩ := first spaced
  obtain ⟨spaced'', rest⟩ := second spaced'
  exact ⟨spaced'', reached.trans rest⟩

theorem then_aside (first : Passes s turns told s') (second : Passes s' [] [] s'') :
    Passes s turns told s'' := by
  have both := first.trans second
  rwa [List.append_nil, List.append_nil] at both

theorem aside_then (first : Passes s [] [] s') (second : Passes s' turns told s'') :
    Passes s turns told s'' :=
  first.trans second

theorem of_action (action : Action) (other : action.isTick = false)
    (spaced : s.Spaced → (s.perform action).Spaced) : Passes s [] [] (s.perform action) :=
  fun paced => ⟨spaced paced, .aside action other (.rest _)⟩

end Passes

/-- All tasks begin to run, the first one first. -/
theorem passes_launchAll (s : Session) : Passes s [] [] s.launchAll := by
  generalize waiting : s.tasks = tasks
  induction tasks generalizing s with
  | nil =>
      have still : s.launchAll = s := by
        unfold launchAll
        rw [waiting, List.foldl_nil, ← waiting]
      rw [still]
      exact .refl s
  | cons task tasks ih =>
      -- A task does the same whatever tasks wait behind it, so the rest may be left waiting.
      have first : s.perform (.launch 0) = (s.runTask task).withTasks tasks := by
        rw [← runTask_withTasks]
        simp [perform, waiting, withTasks]
      have rest : (s.perform (.launch 0)).launchAll = s.launchAll := by
        rw [first]
        unfold launchAll
        rw [waiting, List.foldl_cons]
        exact congrArg (fun s => tasks.foldl runTask s) (runTask_withTasks s [] task).symm
      have launched : Passes s [] [] (s.perform (.launch 0)) := by
        refine .of_action (.launch 0) rfl fun spaced => ?_
        rw [first]
        exact (sameLoops_runTask s task).spaced spaced
      rw [← rest]
      refine launched.trans (ih _ ?_)
      rw [first]
      rfl

theorem passes_tick (s : Session) : Passes s [] [.tick] s.tick.1 :=
  fun spaced => ⟨spaced, .tick (.rest _)⟩

/-- A loop takes its turns. -/
theorem passes_ticks {id : Nat} (count : Nat) {s : Session} (runs : id ∈ s.loops.map (·.id)) :
    Passes s (List.replicate count id) [] (ticks count s) := by
  induction count generalizing s with
  | zero => exact .refl s
  | succ count ih =>
      intro spaced
      have later : Passes s.tick.1 (List.replicate count id) [] (ticks count s.tick.1) := ih runs
      obtain ⟨spaced', reached⟩ := later spaced
      exact ⟨spaced', .turn id runs reached⟩

theorem passes_startSubscribers (s : Session) : Passes s [] [] s.startSubscribers :=
  .of_action .start rfl (sameLoops_startSubscribers s).spaced

theorem passes_resumeLoop (s : Session) (id : Nat) :
    Passes s (s.turnsOfLoop id) [] (s.resumeLoop id) := by
  unfold turnsOfLoop resumeLoop
  cases found : s.loops.find? (·.id = id) with
  | none => exact .refl s
  | some loop =>
      have member := List.mem_of_find?_eq_some found
      have same : loop.id = id := by simpa using List.find?_some found
      dsimp only
      -- First the ticker moves on, and then the body runs for each tick that it has taken.
      refine Passes.aside_then ?_ (passes_ticks _ ?_)
      · refine .of_action (.arrange _ s.loopsStarted (s.alarms + 1) s.stoppable) rfl
          fun spaced l hl idle => ?_
        obtain ⟨old, kept, rfl⟩ := List.mem_map.mp hl
        split at idle
        · refine spaced loop member ?_
          exact (loop.ticker.deadline?_takeDue_eq_none_iff s.now).mp idle
        · exact spaced old kept idle
      · refine List.mem_map.mpr ⟨_, List.mem_map_of_mem member, ?_⟩
        rw [if_pos same]
        exact same

theorem passes_withLoop (s : Session) : Passes s [] [] s.withLoop := by
  have ready := sameLoops_startSubscribers s
  refine (passes_startSubscribers s).aside_then <| .of_action
    (.arrange _ (s.startSubscribers.loopsStarted + 1) s.startSubscribers.alarms
      (some s.loopsStarted)) rfl fun spaced loop runs idle => ?_
  rcases List.mem_append.mp runs with old | last
  · exact spaced loop old idle
  · rw [List.mem_singleton.mp last] at idle
    show s.startSubscribers.settings.interval = 0
    rw [ready.settings]
    exact Ticker.deadline?_create_eq_none_iff.mp idle

theorem passes_startLoop (s : Session) : Passes s s.turnsOfStartLoop [] s.startLoop := by
  rw [startLoop_eq, turnsOfStartLoop]
  split
  · exact passes_withLoop s
  · exact (passes_withLoop s).trans (passes_resumeLoop _ _)

theorem passes_spin (count : Nat) {s : Session} (unpaced : s.settings.interval = 0) :
    Passes s [] [] (spin count s) := by
  induction count generalizing s with
  | zero => exact .refl s
  | succ count ih =>
      have ticked : Passes s [] [] s.tick.1 := fun spaced => ⟨spaced, .spin unpaced (.rest _)⟩
      have settings := ((sameLoops_tick s).trans (sameLoops_launchAll s.tick.1)).settings
      unfold spin
      dsimp only
      split
      · exact .refl s
      · refine (ticked.trans (passes_launchAll _)).trans (ih ?_)
        rw [settings]
        exact unpaced

/-- Loops without a pause tick, if there are any. -/
theorem passes_spinLoops (s : Session) : Passes s [] [] s.spinLoops := by
  have spins (loops : List TickLoop) {s : Session} (unpaced : s.settings.interval = 0) :
      Passes s [] [] (loops.foldl (fun s _ => spin spinLimit s) s) := by
    induction loops generalizing s with
    | nil => exact .refl s
    | cons loop loops ih =>
        refine (passes_spin spinLimit unpaced).trans (ih ?_)
        rw [(sameLoops_spin spinLimit s).settings]
        exact unpaced
  intro spaced
  unfold spinLoops
  cases spinning : s.loops.filter fun l => l.ticker.deadline?.isNone with
  | nil => exact Passes.refl s spaced
  | cons loop loops =>
      -- Some loop spins, so the ticks have no period.
      have member : loop ∈ s.loops.filter fun l => l.ticker.deadline?.isNone := by
        rw [spinning]
        exact List.mem_cons_self
      obtain ⟨runs, idle⟩ := List.mem_filter.mp member
      exact spins (loop :: loops) (spaced loop runs (Option.isNone_iff_eq_none.mp idle)) spaced

theorem passes_rings (ids : List Nat) (s : Session) :
    Passes s (s.turnsOfRings ids) [] (ids.foldl resumeLoop s) := by
  induction ids generalizing s with
  | nil => exact .refl s
  | cons id ids ih => exact (passes_resumeLoop s id).trans (ih (s.resumeLoop id))

theorem passes_settle (s : Session) : Passes s s.turnsOfSettle [] s.settle :=
  ((passes_rings _ s).then_aside (passes_launchAll s.ringAll)).then_aside (passes_spinLoops _)

theorem passes_command (s : Session) (number : Nat) (c : Command) :
    Passes s [] [] (s.command number c) :=
  .of_action (.command number c) rfl (sameLoops_command s number c).spaced

theorem passes_commands (c : Command) (numbers : List Nat) (s : Session) :
    Passes s (s.turnsOfCommands c numbers) []
      (numbers.foldl (fun s number => (s.command number c).settle) s) := by
  induction numbers generalizing s with
  | nil => exact .refl s
  | cons number numbers ih =>
      exact ((passes_command s number c).trans (passes_settle _)).trans (ih _)

/-- A step carries out the turns of its loops, and the tick that it tells. -/
theorem passes_step (s : Session) (step : Step) :
    Passes s (s.turnsOfStep step) ([step].filter Step.isTick) (s.step step).1 := by
  cases step with
  | start => exact (passes_startSubscribers s).trans (passes_settle _)
  | tick => exact (passes_tick s).trans (passes_settle _)
  | run => exact (passes_startLoop s).trans (passes_settle _)
  | stop =>
      have stopped : Passes s [] [] s.stop :=
        .of_action (.arrange _ s.loopsStarted s.alarms none) rfl
          fun spaced loop runs => spaced loop (List.mem_filter.mp runs).1
      exact stopped.trans (passes_settle _)
  | advance time =>
      have waited : Passes s [] [] { s with now := s.now + time } :=
        .of_action (.wait time) rfl id
      exact waited.trans (passes_settle _)
  | command number c => exact (passes_command s number c).trans (passes_settle _)
  | commandAll c => exact (passes_commands c _ s).trans (passes_settle _)
  | shutDown =>
      have down : Passes s [] [] { s with server := s.server.shutDown } :=
        .of_action .shutDown rfl id
      exact down.trans (passes_settle _)

theorem passes_run (s : Session) (steps : List Step) :
    Passes s (s.turns steps) (steps.filter Step.isTick) (s.run steps) := by
  induction steps generalizing s with
  | nil => exact .refl s
  | cons step steps ih =>
      have told : (step :: steps).filter Step.isTick
          = [step].filter Step.isTick ++ steps.filter Step.isTick := List.filter_append [step] steps
      rw [told]
      exact (passes_step s step).trans (ih (s.step step).1)

theorem spaced_start (settings : BenchmarkSettings) (client : Client) (server : Server) :
    (start settings client server).Spaced := by
  simp [Spaced, start]

/-- A session carries out the turns of its loops, and besides them only what it is told. -/
theorem carried_run (settings : BenchmarkSettings) (client : Client) (server : Server)
    (before steps : List Step) :
    Carried ((start settings client server).run before)
      (((start settings client server).run before).turns steps) (steps.filter Step.isTick)
      (((start settings client server).run before).run steps) := by
  have spaced := (passes_run _ before (spaced_start settings client server)).1
  exact (passes_run _ steps spaced).2

/-- Some actions do what a list of steps does. -/
theorem exists_performAll_eq_run (settings : BenchmarkSettings) (client : Client)
    (server : Server) (steps : List Step) :
    ∃ actions, (start settings client server).performAll actions
      = (start settings client server).run steps :=
  (carried_run settings client server [] steps).exists_performAll

end StreamLoad.Benchmark.Session
