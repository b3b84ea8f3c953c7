import StreamLoad.Proofs.Churn.Actions
import StreamLoad.Proofs.Ticker
import Mathlib.Data.List.Nodup

/-! # Loops that probe one by one

A loop takes a tick, probes, and waits for the probe to end before it asks for the next tick. So
no loop has two probes under way. Three facts carry this through every step (`OneByOne`): a loop
with a probe under way is busy, so that no alarm is set for it; a loop goes on only when its alarm
rings or its probe has ended; and a new loop has a number that no probe knows.

With this at hand each step of a session is a list of actions: where a step lets a loop go on, the
loop does not wait for a probe. The ticks and the probes among the actions are the turns of the
loops, one for one, and those that the session is told (`carried_run`).
-/

set_option autoImplicit false

namespace StreamLoad.Churn.Session

/-- The loops probe one by one. -/
structure OneByOne (s : Session) : Prop where
  nodup : (s.probers.map (·.id)).Nodup
  known : ∀ loop ∈ s.probers, loop.id < s.loops
  started : ∀ run ∈ s.probes, ∀ id, run.loop = some id → id < s.loops
  single : ∀ id, (s.outstanding id).length ≤ 1
  busy : ∀ loop ∈ s.probers, s.outstanding loop.id ≠ [] → loop.busy = true

theorem oneByOne_start (settings : ChurnSettings) (probing : ProbeSettings) (goal : Nat)
    (client : Client) (server : Server) :
    (start settings probing goal client server).OneByOne where
  nodup := List.nodup_nil
  known := by simp [start]
  started := by simp [start]
  single := fun _ => Nat.zero_le 1
  busy := by simp [start]

theorem mem_outstanding {s : Session} {id : Nat} {run : ProbeRun} :
    run ∈ s.outstanding id ↔ run ∈ s.probes ∧ run.loop = some id := by
  simp [outstanding]

theorem outstanding_eq_nil {s : Session} {id : Nat} :
    s.outstanding id = [] ↔ ∀ run ∈ s.probes, run.loop ≠ some id := by
  simp [outstanding]

namespace OneByOne

variable {s s' : Session}

/-- Loops are stopped and probes end. -/
theorem sublist (h : s.OneByOne) (probers : s'.probers.Sublist s.probers)
    (loops : s.loops ≤ s'.loops) (probes : s'.probes.Sublist s.probes) : s'.OneByOne where
  nodup := h.nodup.sublist (probers.map _)
  known := fun loop hl => Nat.lt_of_lt_of_le (h.known loop (probers.subset hl)) loops
  started := fun run hr id named =>
    Nat.lt_of_lt_of_le (h.started run (probes.subset hr) id named) loops
  single := fun id => Nat.le_trans (probes.filter _).length_le (h.single id)
  busy := by
    intro loop hl waits
    refine h.busy loop (probers.subset hl) fun free => waits ?_
    exact List.sublist_nil.mp (free ▸ probes.filter _)

/-- A loop is replaced, which is busy if it waits for a probe. -/
theorem updateProber (h : s.OneByOne) {loop : TickLoop}
    (busy : s.outstanding loop.id ≠ [] → loop.busy = true) : (s.updateProber loop).OneByOne := by
  have ids : (s.updateProber loop).probers.map (·.id) = s.probers.map (·.id) := by
    simp only [Session.updateProber, List.map_map]
    refine List.map_congr_left fun l _ => ?_
    rw [Function.comp_apply]
    split
    · rename_i same
      exact same.symm
    · rfl
  -- The numbers stay, and the loops but for the one that is replaced.
  have members : ∀ l ∈ (s.updateProber loop).probers, l = loop ∨ l ∈ s.probers := by
    intro l hl
    obtain ⟨old, member, rfl⟩ := List.mem_map.mp hl
    split
    · exact Or.inl rfl
    · exact Or.inr member
  refine ⟨ids ▸ h.nodup, fun l hl => ?_, h.started, h.single, fun l hl waits => ?_⟩
  · have named : l.id ∈ s.probers.map (·.id) := ids ▸ List.mem_map_of_mem hl
    obtain ⟨old, member, same⟩ := List.mem_map.mp named
    exact same ▸ h.known old member
  · rcases members l hl with rfl | old
    · exact busy waits
    · exact h.busy l old waits

/-- A probe is sent, for a loop that has none under way and is busy from now on. -/
theorem send (h : s.OneByOne) {run : ProbeRun} {server : Server} {alarms : Nat}
    (known : ∀ id, run.loop = some id → id < s.loops)
    (free : ∀ id, run.loop = some id → s.outstanding id = [])
    (busy : ∀ loop ∈ s.probers, run.loop = some loop.id → loop.busy = true) :
    OneByOne { s with server := server, probes := s.probes ++ [run], alarms := alarms } := by
  -- Only the loop of the new probe has one more under way.
  have split : ∀ id, outstanding
      { s with server := server, probes := s.probes ++ [run], alarms := alarms } id
        = s.outstanding id ++ if run.loop = some id then [run] else [] := by
    intro id
    simp [outstanding, List.filter_append, List.filter_singleton]
  refine ⟨h.nodup, h.known, fun r hr id named => ?_, fun id => ?_, fun loop hl waits => ?_⟩
  · rcases List.mem_append.mp hr with old | new
    · exact h.started r old id named
    · rw [List.mem_singleton.mp new] at named
      exact known id named
  · rw [split]
    by_cases own : run.loop = some id
    · simp [own, free id own]
    · simpa [own] using h.single id
  · rw [split] at waits
    by_cases own : run.loop = some loop.id
    · exact busy loop hl own
    · exact h.busy loop hl (by simpa [own] using waits)

end OneByOne

/-! ## Loops that are left alone

Most of what happens in a session starts no loop, stops none and lets none go on. `SameLoops` says
this once for all of it, so that the few places are left where a loop is replaced by another. -/

/-- No loop is started, stopped or let go on, and the clock stands. -/
structure SameLoops (s s' : Session) : Prop where
  drivers : s'.drivers = s.drivers
  probers : s'.probers = s.probers
  loops : s'.loops = s.loops
  now : s'.now = s.now
  settings : (s'.settings, s'.probing) = (s.settings, s.probing)

namespace SameLoops

variable {s s' s'' : Session}

theorem refl (s : Session) : SameLoops s s := ⟨rfl, rfl, rfl, rfl, rfl⟩

theorem trans (first : SameLoops s s') (second : SameLoops s' s'') : SameLoops s s'' :=
  ⟨second.drivers.trans first.drivers, second.probers.trans first.probers,
    second.loops.trans first.loops, second.now.trans first.now,
    second.settings.trans first.settings⟩

theorem foldl {α : Type} {f : Session → α → Session} (h : ∀ s x, SameLoops s (f s x))
    (xs : List α) (s : Session) : SameLoops s (xs.foldl f s) :=
  List.foldlRecOn xs f (refl s) fun _ reached x _ => reached.trans (h _ x)

theorem interval (h : SameLoops s s') : s'.settings.interval = s.settings.interval :=
  congrArg (fun settings => settings.1.interval) h.settings

end SameLoops

theorem sameLoops_tick (s : Session) : SameLoops s s.tick.1 := ⟨rfl, rfl, rfl, rfl, rfl⟩

theorem sameLoops_ticks (count : Nat) (s : Session) : SameLoops s (ticks count s) := by
  induction count generalizing s with
  | zero => exact .refl s
  | succ count ih => exact (sameLoops_tick s).trans (ih s.tick.1)

theorem sameLoops_launch (s : Session) (id : Nat) : SameLoops s (launch s id) := by
  unfold launch
  split
  · exact ⟨rfl, rfl, rfl, rfl, rfl⟩
  · split <;> exact ⟨rfl, rfl, rfl, rfl, rfl⟩

theorem sameLoops_launchAll (s : Session) : SameLoops s s.launchAll := by
  have aside : SameLoops s { s with opened := [] } := ⟨rfl, rfl, rfl, rfl, rfl⟩
  exact aside.trans (.foldl sameLoops_launch s.opened _)

theorem sameLoops_spin (count : Nat) (s : Session) : SameLoops s (spin count s) := by
  induction count generalizing s with
  | zero => exact .refl s
  | succ count ih =>
      have ticked := sameLoops_tick s
      unfold spin
      split
      · rename_i next id ticks
        rw [ticks] at ticked
        exact (ticked.trans (sameLoops_launchAll next)).trans (ih _)
      · rename_i next outcome _ ticks
        rw [ticks] at ticked
        exact ticked

theorem sameLoops_linkArrival (s : Session) (link : Link) (arrival : Arrival) :
    SameLoops s (s.linkArrival link arrival) := by
  rcases linkArrival_cases link arrival with ⟨subscription, reads⟩ | ⟨ending, ends⟩
  · rw [reads]
    exact ⟨rfl, rfl, rfl, rfl, rfl⟩
  · rw [ends]
    exact ⟨rfl, rfl, rfl, rfl, rfl⟩

theorem sameLoops_startProbe (s : Session) (loop : Option Nat) :
    SameLoops s (s.startProbe loop).1 := by
  rcases s.startProbe_cases loop with ⟨fault, ends⟩ | ⟨run, server, -, -, sent⟩
  · rw [ends]
    exact ⟨rfl, rfl, rfl, rfl, rfl⟩
  · rw [sent]
    exact ⟨rfl, rfl, rfl, rfl, rfl⟩

/-! ## Ticks and probes

`turns` is computed beside the session, step by step. `Carried` says that it misses nothing and adds
nothing: from a session to a later one lead actions, every tick among them and every start of a
probe is listed, and what is listed is carried out at its place. The one exception are the ticks of
a driver without a period, of which there may be any number while the clock stands still. -/

/-- Whether an action is a tick or the start of a probe. -/
def Action.isBody : Action → Bool
  | .tick | .probe | .proceed _ => true
  | _ => false

/-- Whether a step is one tick or one probe. -/
def Step.isBody : Step → Bool
  | .tick | .probe => true
  | _ => false

/-- Actions lead from one session to another. The ticks and probes among them are the turns of some
loops and the steps that are told, each in order; besides, a driver without a period may tick. -/
inductive Carried : Session → List Waiter → List Step → Session → Prop where
  | rest (s : Session) : Carried s [] [] s
  /-- Something happens that is neither a tick nor a probe. -/
  | aside {s s' : Session} {turns : List Waiter} {told : List Step} (action : Action)
      (other : action.isBody = false) (later : Carried (s.perform action) turns told s') :
      Carried s turns told s'
  | tick {s s' : Session} {turns : List Waiter} {told : List Step}
      (later : Carried s.tick.1 turns told s') : Carried s turns (.tick :: told) s'
  | probe {s s' : Session} {turns : List Waiter} {told : List Step}
      (later : Carried (s.startProbe none).1 turns told s') : Carried s turns (.probe :: told) s'
  /-- A driver without a period ticks. -/
  | spin {s s' : Session} {turns : List Waiter} {told : List Step}
      (unpaced : s.settings.interval = 0) (later : Carried s.tick.1 turns told s') :
      Carried s turns told s'
  /-- A driver loop takes its turn. -/
  | driver {s s' : Session} {turns : List Waiter} {told : List Step} (id : Nat)
      (runs : id ∈ s.drivers.map (·.id)) (later : Carried s.tick.1 turns told s') :
      Carried s (.driver id :: turns) told s'
  /-- A loop of probes takes its turn. It has no probe under way. -/
  | prober {s s' : Session} {turns : List Waiter} {told : List Step} (id : Nat)
      (runs : id ∈ s.probers.map (·.id)) (free : s.outstanding id = [])
      (later : Carried (s.startProbe (some id)).1 turns told s') :
      Carried s (.prober id :: turns) told s'

namespace Carried

variable {s s' s'' : Session} {turns turns' : List Waiter} {told told' : List Step}

theorem trans (first : Carried s turns told s') (second : Carried s' turns' told' s'') :
    Carried s (turns ++ turns') (told ++ told') s'' := by
  induction first with
  | rest s => exact second
  | aside action other _ ih => exact .aside action other (ih second)
  | tick _ ih => exact .tick (ih second)
  | probe _ ih => exact .probe (ih second)
  | spin unpaced _ ih => exact .spin unpaced (ih second)
  | driver id runs _ ih => exact .driver id runs (ih second)
  | prober id runs free _ ih => exact .prober id runs free (ih second)

theorem exists_performAll (h : Carried s turns told s') : ∃ actions, s.performAll actions = s' := by
  have cons {s s' : Session} (action : Action)
      (later : ∃ actions, (s.perform action).performAll actions = s') :
      ∃ actions, s.performAll actions = s' :=
    later.imp' (action :: ·) fun _ reached => reached
  induction h with
  | rest s => exact ⟨[], rfl⟩
  | aside action other _ ih => exact cons action ih
  | tick _ ih => exact cons .tick ih
  | probe _ ih => exact cons .probe ih
  | spin unpaced _ ih => exact cons .tick ih
  | driver id runs _ ih => exact cons .tick ih
  | @prober s _ _ _ id runs free _ ih =>
      have proceeds : s.perform (.proceed id) = (s.startProbe (some id)).1 := if_pos free
      exact cons (.proceed id) (proceeds ▸ ih)

end Carried

/-- A driver loop ticks without a pause only if the driver has no period. -/
def Spaced (s : Session) : Prop :=
  ∀ loop ∈ s.drivers, loop.ticker.deadline? = none → s.settings.interval = 0

theorem SameLoops.spaced {s s' : Session} (same : SameLoops s s') (spaced : s.Spaced) :
    s'.Spaced := by
  intro loop drives idle
  rw [same.interval]
  exact spaced loop (same.drivers ▸ drives) idle

/-- Loops that probe one by one go on to do so, and actions lead from one session to another. -/
def Passes (s : Session) (turns : List Waiter) (told : List Step) (s' : Session) : Prop :=
  s.OneByOne → s.Spaced → s'.OneByOne ∧ s'.Spaced ∧ Carried s turns told s'

namespace Passes

variable {s s' s'' : Session} {turns turns' : List Waiter} {told told' : List Step}

theorem refl (s : Session) : Passes s [] [] s := fun h spaced => ⟨h, spaced, .rest s⟩

theorem trans (first : Passes s turns told s') (second : Passes s' turns' told' s'') :
    Passes s (turns ++ turns') (told ++ told') s'' := by
  intro h spaced
  obtain ⟨h', spaced', reached⟩ := first h spaced
  obtain ⟨h'', spaced'', rest⟩ := second h' spaced'
  exact ⟨h'', spaced'', reached.trans rest⟩

theorem then_aside (first : Passes s turns told s') (second : Passes s' [] [] s'') :
    Passes s turns told s'' := by
  have both := first.trans second
  rwa [List.append_nil, List.append_nil] at both

theorem aside_then (first : Passes s [] [] s') (second : Passes s' turns told s'') :
    Passes s turns told s'' :=
  first.trans second

theorem of_action (action : Action) (other : action.isBody = false)
    (performs : s.perform action = s') (kept : s.OneByOne → s'.OneByOne)
    (spaced : s.Spaced → s'.Spaced) : Passes s [] [] s' :=
  fun h paced => ⟨kept h, spaced paced, .aside action other (performs ▸ .rest s')⟩

/-- An action that starts no probe and no loop. -/
theorem of_same (action : Action) (other : action.isBody = false)
    (performs : s.perform action = s') (same : SameLoops s s')
    (probes : s'.probes.Sublist s.probes) : Passes s [] [] s' := by
  refine of_action action other performs (fun h => ?_) same.spaced
  exact h.sublist (same.probers ▸ .refl _) (Nat.le_of_eq same.loops.symm) probes

end Passes

/-! ## Attempts -/

theorem oneByOne_tick {s : Session} (h : s.OneByOne) : s.tick.1.OneByOne :=
  h.sublist (.refl _) (Nat.le_refl _) (.refl _)

theorem passes_tick (s : Session) : Passes s [] [.tick] s.tick.1 :=
  fun h spaced => ⟨oneByOne_tick h, spaced, .tick (.rest _)⟩

/-- An attempt that starts has no part in the probes. -/
theorem probes_launch (s : Session) (id : Nat) : (launch s id).probes = s.probes := by
  unfold launch
  split
  · rfl
  · split <;> rfl

theorem passes_launchAll (s : Session) : Passes s [] [] s.launchAll := by
  generalize opened : s.opened = ids
  induction ids generalizing s with
  | nil =>
      have still : s.launchAll = s := by
        unfold launchAll
        rw [opened, List.foldl_nil, ← opened]
      rw [still]
      exact .refl s
  | cons id rest ih =>
      rw [launchAll_of_cons opened]
      have first : s.perform (.launch 0) = launch { s with opened := rest } id := by
        simp [perform, opened]
      have taken : SameLoops s { s with opened := rest } := ⟨rfl, rfl, rfl, rfl, rfl⟩
      refine Passes.trans (.of_same _ rfl first (taken.trans (sameLoops_launch _ id)) ?_) (ih _ ?_)
      · rw [probes_launch]
      · rw [launch_withOpened]

/-- A driver loop takes its turns. -/
theorem passes_ticks {id : Nat} (count : Nat) {s : Session} (runs : id ∈ s.drivers.map (·.id)) :
    Passes s (List.replicate count (.driver id)) [] (ticks count s) := by
  induction count generalizing s with
  | zero => exact .refl s
  | succ count ih =>
      intro h spaced
      have later : Passes s.tick.1 (List.replicate count (.driver id)) [] (ticks count s.tick.1) :=
        ih runs
      obtain ⟨h', spaced', reached⟩ := later (oneByOne_tick h) spaced
      exact ⟨h', spaced', .driver id runs reached⟩

theorem passes_spin (count : Nat) {s : Session} (unpaced : s.settings.interval = 0) :
    Passes s [] [] (spin count s) := by
  induction count generalizing s with
  | zero => exact .refl s
  | succ count ih =>
      have ticked : Passes s [] [] s.tick.1 := fun h spaced =>
        ⟨oneByOne_tick h, spaced, .spin unpaced (.rest _)⟩
      have same := sameLoops_tick s
      unfold spin
      split
      · rename_i next id ticks
        rw [ticks] at ticked same
        have launched := same.trans (sameLoops_launchAll next)
        exact (ticked.trans (passes_launchAll next)).trans (ih (launched.interval.trans unpaced))
      · rename_i next outcome _ ticks
        rw [ticks] at ticked
        exact ticked

/-- Drivers without a pause tick, if there are any. -/
theorem passes_spinDrivers (s : Session) : Passes s [] [] s.spinDrivers := by
  have spins (loops : List TickLoop) {s : Session} (unpaced : s.settings.interval = 0) :
      Passes s [] [] (loops.foldl (fun s _ => spin (s.ledger.maxInFlight + 1) s) s) := by
    induction loops generalizing s with
    | nil => exact .refl s
    | cons loop loops ih =>
        have same := sameLoops_spin (s.ledger.maxInFlight + 1) s
        exact (passes_spin _ unpaced).trans (ih (same.interval.trans unpaced))
  intro h spaced
  unfold spinDrivers
  cases spinning : s.drivers.filter fun l => l.ticker.deadline?.isNone with
  | nil => exact Passes.refl s h spaced
  | cons loop loops =>
      have member : loop ∈ s.drivers.filter fun l => l.ticker.deadline?.isNone := by
        rw [spinning]
        exact List.mem_cons_self
      obtain ⟨drives, idle⟩ := List.mem_filter.mp member
      exact spins (loop :: loops) (spaced loop drives (Option.isNone_iff_eq_none.mp idle)) h spaced

theorem passes_resumeDriver (s : Session) (id : Nat) :
    Passes s (s.turnsOfDriver id) [] (s.resumeDriver id) := by
  unfold turnsOfDriver resumeDriver
  cases found : s.drivers.find? (·.id = id) with
  | none => exact .refl s
  | some loop =>
      have member := List.mem_of_find?_eq_some found
      have same : loop.id = id := by simpa using List.find?_some found
      dsimp only
      refine Passes.aside_then ?_ (passes_ticks _ ?_)
      · refine .of_action (.arrange _ s.probers s.loops (s.alarms + 1) s.stoppable) rfl rfl
          (fun h => h.sublist (.refl _) (Nat.le_refl _) (.refl _)) fun spaced l hl idle => ?_
        obtain ⟨old, kept, rfl⟩ := List.mem_map.mp hl
        split at idle
        · refine spaced loop member ?_
          exact (loop.ticker.deadline?_takeDue_eq_none_iff s.now).mp idle
        · exact spaced old kept idle
      · refine List.mem_map.mpr ⟨_, List.mem_map_of_mem member, ?_⟩
        rw [if_pos same]
        exact same

/-! ## Probes

A loop that goes on probes once for each tick that is due, and it stops at the first probe that is
under way. A probe may also end at once, since no connection is accepted, and then the loop asks for
the next tick. The induction is on the number of ticks that it may still take. -/

/-- A probe starts; if it belongs to a loop, the loop has none under way and is busy. -/
theorem oneByOne_startProbe {s : Session} {loop : Option Nat} (h : s.OneByOne)
    (known : ∀ id, loop = some id → id < s.loops)
    (free : ∀ id, loop = some id → s.outstanding id = [])
    (busy : ∀ l ∈ s.probers, loop = some l.id → l.busy = true) :
    (s.startProbe loop).1.OneByOne := by
  rcases s.startProbe_cases loop with ⟨fault, ends⟩ | ⟨run, server, rfl, -, sent⟩
  · rw [ends]
    exact h.sublist (.refl _) (Nat.le_refl _) (.refl _)
  · rw [sent]
    exact h.send known free busy

theorem passes_probe (s : Session) : Passes s [] [.probe] (s.startProbe none).1 := fun h spaced =>
  ⟨oneByOne_startProbe h (by simp) (by simp) (by simp), (sameLoops_startProbe s none).spaced spaced,
    .probe (.rest _)⟩

theorem outstanding_startProbe (s : Session) {id other : Nat} (apart : other ≠ id) :
    (s.startProbe (some id)).1.outstanding other = s.outstanding other := by
  rcases s.startProbe_cases (some id) with ⟨fault, ends⟩ | ⟨run, server, own, -, sent⟩
  · rw [ends]
    rfl
  · rw [sent]
    simp [outstanding, List.filter_append, own, apart.symm]

/-- The loops other than the one that goes on have the same probes under way. -/
theorem outstanding_runProber {id other : Nat} (apart : other ≠ id) (count : Nat) (s : Session) :
    (runProber id count s).outstanding other = s.outstanding other := by
  induction count generalizing s with
  | zero => rfl
  | succ count ih =>
      unfold runProber
      split
      · rfl
      · split
        · rfl
        · rename_i loop found _ ticker due
          have started := outstanding_startProbe
            (s.updateProber { loop with ticker := ticker, busy := true }) apart
          dsimp only
          split
          · rename_i next probes
            rw [probes] at started
            exact (ih next).trans started
          · rename_i next probes
            rw [probes] at started
            exact started

theorem outstanding_resumeProber {id other : Nat} (apart : other ≠ id) (s : Session) :
    (s.resumeProber id).outstanding other = s.outstanding other := by
  unfold resumeProber
  split
  · rfl
  · exact outstanding_runProber apart _ s

theorem passes_updateProber {s : Session} {loop : TickLoop}
    (busy : s.outstanding loop.id ≠ [] → loop.busy = true) : Passes s [] [] (s.updateProber loop) :=
  .of_action (.arrange s.drivers _ s.loops s.alarms s.stoppable) rfl rfl
    (fun h => h.updateProber busy) id

/-- A loop takes its turns that does not wait for a probe. -/
theorem passes_runProber (id count : Nat) {s : Session} (free : s.outstanding id = []) :
    Passes s (List.replicate (probings id count s) (.prober id)) [] (runProber id count s) := by
  induction count generalizing s with
  | zero => exact .refl s
  | succ count ih =>
      unfold probings runProber
      cases found : s.probers.find? (·.id = id) with
      | none => exact .refl s
      | some loop =>
          have same : loop.id = id := by simpa using List.find?_some found
          dsimp only
          cases ticked : loop.ticker.tick? s.now with
          | none =>
              -- No tick is due: the loop waits for the next one.
              refine .of_action (.arrange s.drivers _ s.loops (s.alarms + 1) s.stoppable) rfl rfl
                (fun h => ?_) (fun spaced => spaced)
              have later : OneByOne { s with alarms := s.alarms + 1 } :=
                h.sublist (.refl _) (Nat.le_refl _) (.refl _)
              exact later.updateProber fun waits => absurd (same ▸ free) waits
          | some ticker =>
              have member := List.mem_of_find?_eq_some found
              let waiting := s.updateProber { loop with ticker := ticker, busy := true }
              have waits : Passes s [] [] waiting := passes_updateProber fun _ => rfl
              have started : Passes s [.prober id] [] (waiting.startProbe (some id)).1 := by
                intro known
                have asked : id ∈ waiting.probers.map (·.id) := by
                  refine List.mem_map.mpr ⟨_, List.mem_map_of_mem member, ?_⟩
                  rw [if_pos rfl]
                  exact same
                refine (waits.aside_then fun h spaced =>
                  ⟨oneByOne_startProbe h ?_ ?_ ?_,
                    (sameLoops_startProbe waiting (some id)).spaced spaced,
                    .prober id asked free (.rest _)⟩) known
                · rintro _ ⟨⟩
                  exact same ▸ known.known loop member
                · rintro _ ⟨⟩
                  exact free
                · intro l hl own
                  obtain ⟨old, -, rfl⟩ := List.mem_map.mp hl
                  split
                  · rfl
                  · rename_i apart
                    rw [if_neg apart] at own
                    exact absurd ((Option.some.inj own).symm.trans same.symm) apart
              dsimp only
              rcases waiting.startProbe_cases (some id) with
                ⟨fault, ends⟩ | ⟨run, server, -, -, sent⟩
              · -- The probe has ended at once, so the loop asks for the next tick.
                rw [ends] at started ⊢
                rw [List.replicate_succ]
                exact started.trans (ih free)
              · rw [sent] at started ⊢
                exact started

theorem passes_resumeProber {s : Session} {id : Nat} (free : s.outstanding id = []) :
    Passes s (s.turnsOfProber id) [] (s.resumeProber id) := by
  unfold turnsOfProber resumeProber
  cases s.probers.find? (·.id = id) with
  | none => exact .refl s
  | some loop => exact passes_runProber id _ free

/-- A probe ends that was the only one of its loop, if it belongs to one. -/
theorem outstanding_conclude {s : Session} (h : s.OneByOne) {run : ProbeRun} {id : Nat}
    (runs : run ∈ s.probes) (loop : run.loop = some id) (server : Server) (verdict : Verdict)
    (fault : List ChurnNotice) :
    (conclude { s with server := server } run verdict fault).outstanding id = [] := by
  refine outstanding_eq_nil.mpr fun other hr named => ?_
  obtain ⟨member, apart⟩ := List.mem_filter.mp hr
  have single : s.outstanding id = [run] := by
    have one := h.single id
    have own : run ∈ s.outstanding id := mem_outstanding.mpr ⟨runs, loop⟩
    obtain ⟨x, only⟩ := List.length_eq_one_iff.mp
      (Nat.le_antisymm one (List.length_pos_of_mem own))
    rw [only] at own ⊢
    rw [List.mem_singleton.mp own]
  have same : other ∈ s.outstanding id := mem_outstanding.mpr ⟨member, named⟩
  rw [single] at same
  rw [List.mem_singleton.mp same] at apart
  exact of_decide_eq_true apart rfl

theorem passes_endProbe {s : Session} (server : Server) {run : ProbeRun} {verdict : Verdict}
    {fault : List ChurnNotice} {action : Action} (other : action.isBody = false)
    (runs : run ∈ s.probes)
    (performs : s.perform action = conclude { s with server := server } run verdict fault) :
    Passes s (turnsOfEnd { s with server := server } run verdict fault) []
      (endProbe { s with server := server } run verdict fault) := by
  have same : SameLoops s (conclude { s with server := server } run verdict fault) :=
    ⟨rfl, rfl, rfl, rfl, rfl⟩
  have concluded : Passes s [] [] (conclude { s with server := server } run verdict fault) :=
    .of_same action other performs same List.filter_sublist
  unfold turnsOfEnd
  cases loop : run.loop with
  | none =>
      rw [endProbe_of_single loop]
      exact concluded
  | some id =>
      rw [endProbe_of_loop loop]
      intro h
      have free := outstanding_conclude h runs loop server verdict fault
      exact (concluded.trans (passes_resumeProber free)) h

/-! ## Alarms

All alarms that ring are collected before the first of them does. So a loop of probes whose alarm
rings later on must still have no probe under way when its turn comes. It has none, as what rings
before is set for something else (`outstanding_ring`): no loop has two alarms. -/

/-- The loop of probes that an alarm was set for. -/
def Waiter.prober? : Waiter → Option Nat
  | .prober id => some id
  | .link _ | .probe _ | .driver _ => none

/-- An alarm rings; if it was set for a loop of probes, the loop has none under way. -/
theorem passes_ring {s : Session} {waiter : Waiter}
    (free : ∀ id, waiter.prober? = some id → s.outstanding id = []) :
    Passes s (s.turnsOfRing waiter) [] (s.ring waiter) := by
  cases waiter with
  | driver id => exact passes_resumeDriver s id
  | prober id => exact passes_resumeProber (free id rfl)
  | link attempt =>
      obtain ⟨performs, still | ⟨link, -, ends⟩⟩ := s.ring_link_cases attempt
      · rw [still]
        exact .refl s
      · rw [ends] at performs ⊢
        exact .of_same _ rfl performs ⟨rfl, rfl, rfl, rfl, rfl⟩ (.refl _)
  | probe number =>
      rcases s.ring_probe_cases number with
        ⟨-, still, -, idle⟩ | ⟨run, runs, -, ends, performs, goes⟩
      · rw [still, idle]
        exact .refl s
      · rw [ends, goes]
        exact passes_endProbe s.server rfl runs performs

theorem probes_ticks (count : Nat) (s : Session) : (ticks count s).probes = s.probes := by
  induction count generalizing s with
  | zero => rfl
  | succ count ih => exact ih s.tick.1

theorem probes_resumeDriver (s : Session) (id : Nat) : (s.resumeDriver id).probes = s.probes := by
  unfold resumeDriver
  split
  · rfl
  · exact probes_ticks _ _

/-- An alarm that was set for something else starts no probe of a loop that has none under way. -/
theorem outstanding_ring {s : Session} {waiter : Waiter} {id : Nat}
    (other : waiter.prober? ≠ some id) (free : s.outstanding id = []) :
    (s.ring waiter).outstanding id = [] := by
  cases waiter with
  | driver d =>
      show (s.resumeDriver d).outstanding id = []
      unfold outstanding
      rw [probes_resumeDriver]
      exact free
  | prober p =>
      have apart : id ≠ p := fun same => other (same ▸ rfl)
      exact (outstanding_resumeProber apart s).trans free
  | link attempt =>
      rcases (s.ring_link_cases attempt).2 with still | ⟨link, -, ends⟩
      · rw [still]
        exact free
      · rw [ends]
        exact free
  | probe number =>
      rcases s.ring_probe_cases number with ⟨-, still, -⟩ | ⟨run, runs, -, ends, -⟩
      · rw [still]
        exact free
      · have concluded : (s.conclude run .timedOut []).outstanding id = [] := by
          rw [outstanding_eq_nil] at free ⊢
          exact fun r hr => free r (List.mem_filter.mp hr).1
        rw [ends]
        cases loop : run.loop with
        | none =>
            rw [endProbe_of_single loop]
            exact concluded
        | some own =>
            -- The loop that goes on had a probe under way, so it is another one.
            have apart : id ≠ own := fun same => outstanding_eq_nil.mp free run runs (same ▸ loop)
            rw [endProbe_of_loop loop, outstanding_resumeProber apart]
            exact concluded

theorem passes_foldl_ring {waiters : List Waiter} (nodup : (waiters.filterMap Waiter.prober?).Nodup)
    {s : Session} (free : ∀ id ∈ waiters.filterMap Waiter.prober?, s.outstanding id = []) :
    Passes s (s.turnsOfRings waiters) [] (waiters.foldl ring s) := by
  induction waiters generalizing s with
  | nil => exact .refl s
  | cons waiter waiters ih =>
      have first : Passes s (s.turnsOfRing waiter) [] (s.ring waiter) := by
        refine passes_ring fun id named => free id ?_
        simp [named]
      have later : ∀ id ∈ waiters.filterMap Waiter.prober?, waiter.prober? ≠ some id := by
        intro id hid named
        rw [List.filterMap_cons_some named] at nodup
        exact (List.nodup_cons.mp nodup).1 hid
      have inTail : ∀ id ∈ waiters.filterMap Waiter.prober?,
          id ∈ (waiter :: waiters).filterMap Waiter.prober? := by
        intro id hid
        obtain ⟨w, hw, named⟩ := List.mem_filterMap.mp hid
        exact List.mem_filterMap.mpr ⟨w, List.mem_cons_of_mem _ hw, named⟩
      have rest : (waiters.filterMap Waiter.prober?).Nodup := by
        refine nodup.sublist ?_
        exact (List.sublist_cons_self waiter waiters).filterMap _
      -- The alarms left are those of other loops, which have no probe even after this one rings.
      refine first.trans (ih rest fun id hid => ?_)
      exact outstanding_ring (later id hid) (free id (inTail id hid))

/-- The alarms set for loops of probes are those of the loops that are not busy. -/
theorem filterMap_waiting (s : Session) :
    (s.waiting.map (·.2)).filterMap Waiter.prober?
      = (s.probers.filter fun l => (loopAlarm l).isSome).map (·.id) := by
  have loops : ∀ probers : List TickLoop,
      ((probers.filterMap fun l => (loopAlarm l).map fun a => (a, Waiter.prober l.id)).map
        (·.2)).filterMap Waiter.prober?
        = (probers.filter fun l => (loopAlarm l).isSome).map (·.id) := by
    intro probers
    induction probers with
    | nil => rfl
    | cons l probers ih =>
        cases alarm : loopAlarm l with
        | none => simpa [alarm] using ih
        | some a => simpa [alarm, Waiter.prober?] using ih
  have others : ∀ waiters : List (Alarm × Waiter), (∀ w ∈ waiters, w.2.prober? = none) →
      (waiters.map (·.2)).filterMap Waiter.prober? = [] := by
    intro waiters apart
    simpa using apart
  -- The other alarms are those of drivers, of attempts and of probes.
  unfold waiting
  rw [List.map_append, List.filterMap_append, loops, others, List.nil_append]
  intro w hw
  rcases List.mem_append.mp hw with hw | hw
  · rcases List.mem_append.mp hw with hw | hw
    · obtain ⟨l, -, rfl⟩ := List.mem_map.mp hw
      rfl
    · obtain ⟨run, -, rfl⟩ := List.mem_map.mp hw
      rfl
  · obtain ⟨l, -, named⟩ := List.mem_filterMap.mp hw
    obtain ⟨a, -, rfl⟩ := Option.map_eq_some_iff.mp named
    rfl

/-- The alarms that ring are some of those set, in another order. -/
theorem exists_perm_ringing {α : Type} (now : Nat) (waiting : List (Alarm × α)) :
    ∃ due, due.Sublist (waiting.map (·.2)) ∧ (Alarm.ringing now waiting).Perm due :=
  ⟨_, List.filter_sublist.map _, (List.mergeSort_perm _ _).map _⟩

theorem passes_ringAll (s : Session) : Passes s s.turnsOfSettle [] s.ringAll := by
  intro h
  obtain ⟨due, some, perm⟩ := exists_perm_ringing s.now s.waiting
  have asked : (due.filterMap Waiter.prober?).Sublist
      ((s.probers.filter fun l => (loopAlarm l).isSome).map (·.id)) :=
    s.filterMap_waiting ▸ some.filterMap _
  refine passes_foldl_ring ?_ (fun id hid => ?_) h
  · refine (perm.filterMap _).nodup_iff.mpr ?_
    exact h.nodup.sublist (asked.trans (List.filter_sublist.map _))
  · -- A loop that an alarm is set for is not busy, so it waits for no probe.
    obtain ⟨l, hl, rfl⟩ := List.mem_map.mp (asked.subset ((perm.filterMap _).mem_iff.mp hid))
    obtain ⟨member, alarm⟩ := List.mem_filter.mp hl
    by_contra waits
    simp [loopAlarm, h.busy l member waits] at alarm

theorem passes_settle (s : Session) : Passes s s.turnsOfSettle [] s.settle :=
  ((passes_ringAll s).then_aside (passes_launchAll s.ringAll)).then_aside (passes_spinDrivers _)

/-! ## Steps -/

theorem passes_command (s : Session) (number : Nat) (c : Command) :
    Passes s (s.turnsOfCommand number c) [] (s.command number c) := by
  rcases acts : s.server.act number c with ⟨server, seen⟩
  rcases s.command_cases number c acts with
    ⟨-, reached, performs, idle⟩ | ⟨link, -, -, performs, idle, reached⟩
    | ⟨run, runs, -, verdict, fault, -, -, reached, performs, goes⟩
  · rw [reached, idle]
    exact .of_same _ rfl performs ⟨rfl, rfl, rfl, rfl, rfl⟩ (.refl _)
  · rw [idle]
    rcases reached with ⟨subscription, reads⟩ | ⟨ending, ends⟩
    · rw [reads] at performs ⊢
      exact .of_same _ rfl performs ⟨rfl, rfl, rfl, rfl, rfl⟩ (.refl _)
    · rw [ends] at performs ⊢
      exact .of_same _ rfl performs ⟨rfl, rfl, rfl, rfl, rfl⟩ (.refl _)
  · rw [reached, goes]
    exact passes_endProbe server rfl runs performs

theorem passes_commands (c : Command) (numbers : List Nat) (s : Session) :
    Passes s (s.turnsOfCommands c numbers) []
      (numbers.foldl (fun s number => (s.command number c).settle) s) := by
  induction numbers generalizing s with
  | nil => exact .refl s
  | cons number numbers ih =>
      exact ((passes_command s number c).trans (passes_settle _)).trans (ih _)

theorem passes_withDriver (s : Session) : Passes s [] [] s.withDriver := by
  let noted := s.note [.started s.client.base s.settings.method s.settings.dropGoal]
  have announced : Passes s [] [] noted :=
    .of_same .announce rfl rfl ⟨rfl, rfl, rfl, rfl, rfl⟩ (.refl _)
  refine announced.aside_then <| .of_action
    (.arrange
      (s.drivers ++ [{ id := s.loops, ticker := .create s.settings.interval s.now }]) s.probers
      (s.loops + 1) s.alarms (some s.loops, s.stoppable.2))
    rfl rfl (fun h => h.sublist (.refl _) (Nat.le_succ _) (.refl _))
    fun spaced loop drives idle => ?_
  rcases List.mem_append.mp drives with old | last
  · exact spaced loop old idle
  · rw [List.mem_singleton.mp last] at idle
    exact Ticker.deadline?_create_eq_none_iff.mp idle

theorem passes_startDriver (s : Session) : Passes s s.turnsOfStartDriver [] s.startDriver := by
  rw [startDriver_eq, turnsOfStartDriver]
  split
  · exact passes_withDriver s
  · exact (passes_withDriver s).trans (passes_resumeDriver _ _)

/-- A new loop has no probe under way, since its number is a new one. -/
theorem passes_startProber (s : Session) :
    Passes s (s.withProber.turnsOfProber s.loops) [] s.startProber := by
  intro h
  have free : s.outstanding s.loops = [] :=
    outstanding_eq_nil.mpr fun run hr named => Nat.lt_irrefl _ (h.started run hr _ named)
  let loop : TickLoop := { id := s.loops, ticker := .create s.probing.interval s.now }
  have arranged : Passes s [] [] s.withProber := by
    refine .of_action
      (.arrange s.drivers (s.probers ++ [loop]) (s.loops + 1) s.alarms
        (s.stoppable.1, some loop.id)) rfl rfl (fun h => ⟨?_, ?_, ?_, h.single, ?_⟩) id
    · have new : s.loops ∉ s.probers.map (·.id) := by
        intro old
        obtain ⟨l, hl, same⟩ := List.mem_map.mp old
        exact Nat.ne_of_lt (h.known l hl) same
      rw [withProber, List.map_append]
      exact List.nodup_append_comm.mp (List.nodup_cons.mpr ⟨new, h.nodup⟩)
    · intro l hl
      rcases List.mem_append.mp hl with old | last
      · exact Nat.lt_succ_of_lt (h.known l old)
      · rw [List.mem_singleton.mp last]
        exact Nat.lt_succ_self _
    · exact fun run hr id named => Nat.lt_succ_of_lt (h.started run hr id named)
    · intro l hl waits
      rcases List.mem_append.mp hl with old | last
      · exact h.busy l old waits
      · rw [List.mem_singleton.mp last] at waits
        exact absurd free waits
  exact (arranged.trans (passes_resumeProber free)) h

/-- A step carries out the turns of its loops, and the tick or the probe that it tells. -/
theorem passes_step (s : Session) (step : Step) :
    Passes s (s.turnsOfStep step) ([step].filter Step.isBody) (s.step step).1 := by
  cases step with
  | tick => exact (passes_tick s).trans (passes_settle _)
  | probe => exact (passes_probe s).trans (passes_settle _)
  | run => exact (passes_startDriver s).trans (passes_settle _)
  | probeRun => exact (passes_startProber s).trans (passes_settle _)
  | stop =>
      have stopped : Passes s [] [] s.stop :=
        .of_action .stop rfl rfl
          (fun h => h.sublist List.filter_sublist (Nat.le_refl _) List.filter_sublist)
          fun spaced loop drives => spaced loop (List.mem_filter.mp drives).1
      exact stopped.trans (passes_settle _)
  | advance time =>
      have waited : Passes s [] [] { s with now := s.now + time } :=
        .of_action (.wait time) rfl rfl
          (fun h => h.sublist (.refl _) (Nat.le_refl _) (.refl _)) id
      exact waited.trans (passes_settle _)
  | command number c => exact (passes_command s number c).trans (passes_settle _)
  | commandAll c => exact (passes_commands c _ s).trans (passes_settle _)
  | shutDown =>
      have down : Passes s [] [] { s with server := s.server.shutDown } :=
        .of_same .shutDown rfl rfl ⟨rfl, rfl, rfl, rfl, rfl⟩ (.refl _)
      exact down.trans (passes_settle _)

theorem passes_run (s : Session) (steps : List Step) :
    Passes s (s.turns steps) (steps.filter Step.isBody) (s.run steps) := by
  induction steps generalizing s with
  | nil => exact .refl s
  | cons step steps ih =>
      have told : (step :: steps).filter Step.isBody
          = [step].filter Step.isBody ++ steps.filter Step.isBody := List.filter_append [step] steps
      rw [told]
      exact (passes_step s step).trans (ih (s.step step).1)

theorem spaced_start (settings : ChurnSettings) (probing : ProbeSettings) (goal : Nat)
    (client : Client) (server : Server) : (start settings probing goal client server).Spaced := by
  simp [Spaced, start]

/-- A session carries out the turns of its loops, and besides them only what it is told. -/
theorem carried_run (settings : ChurnSettings) (probing : ProbeSettings) (goal : Nat)
    (client : Client) (server : Server) (before steps : List Step) :
    Carried ((start settings probing goal client server).run before)
      (((start settings probing goal client server).run before).turns steps)
      (steps.filter Step.isBody)
      (((start settings probing goal client server).run before).run steps) := by
  obtain ⟨paced, spaced, -⟩ := passes_run _ before
    (oneByOne_start settings probing goal client server)
    (spaced_start settings probing goal client server)
  exact (passes_run _ steps paced spaced).2.2

/-- Some actions do what a list of steps does. -/
theorem exists_performAll_eq_run (settings : ChurnSettings) (probing : ProbeSettings) (goal : Nat)
    (client : Client) (server : Server) (steps : List Step) :
    ∃ actions, (start settings probing goal client server).performAll actions
      = (start settings probing goal client server).run steps :=
  (carried_run settings probing goal client server [] steps).exists_performAll

end StreamLoad.Churn.Session
