import StreamLoad.Proofs.Churn.Performed

/-! # The deadlines of attempts

An attempt starts at the instant it was opened, so its alarm is due when the time allowed has
passed since (`Timed`). When the clock has jumped, every alarm that has come due rings before
anything else can happen, and the attempts that go on or start have time left
(`fresh_settle`). A session that has settled has started every attempt that it opened
(`opened_settle`).
-/

set_option autoImplicit false

namespace StreamLoad.Churn.Session

open ChurnLedger (Operation)

/-- The alarms of the attempts follow from the instants they were opened at. -/
structure Timed (s : Session) : Prop where
  past : ∀ a ∈ s.ledger.registry.attempts, a.openedAt ≤ s.now
  waiting : ∀ a ∈ s.ledger.registry.attempts, a.id ∈ s.opened → a.openedAt = s.now
  running : ∀ link ∈ s.links, ∀ a ∈ s.ledger.registry.attempts, a.id = link.attempt →
    link.alarm.due = a.openedAt + s.settings.attemptTimeout

/-- Every attempt that runs has time left. -/
def Fresh (s : Session) : Prop := ∀ link ∈ s.links, s.now < link.alarm.due

namespace Move

variable {s s' : Session} {ops : List Operation}

/-- Settings, client and clock stand still. -/
theorem frame (move : Move s ops s') :
    s'.settings = s.settings ∧ s'.client = s.client ∧ s'.now = s.now := by
  cases move with
  | quiet h => exact ⟨h.settings, h.client, h.now⟩
  | tick | refused | asked | read | ended | acted | probeSent | probeClosed | probed | shutDown =>
      exact ⟨rfl, rfl, rfl⟩

/-- An attempt that runs after a move ran before, or it has just started. -/
theorem links (move : Move s ops s') {link' : Link} (hl : link' ∈ s'.links) :
    (∃ link ∈ s.links, link'.attempt = link.attempt ∧ link'.alarm = link.alarm)
    ∨ link'.attempt ∈ s.opened ∧ link'.alarm.due = s.now + s.settings.attemptTimeout := by
  cases move with
  | quiet h => exact Or.inl ⟨link', h.links ▸ hl, rfl, rfl⟩
  | tick => exact Or.inl ⟨link', hl, rfl, rfl⟩
  | refused failure next => exact Or.inl ⟨link', hl, rfl, rfl⟩
  | asked next prepared received =>
      rcases List.mem_append.mp hl with old | new
      · exact Or.inl ⟨link', old, rfl, rfl⟩
      · rw [List.mem_singleton.mp new]
        exact Or.inr ⟨next ▸ List.mem_cons_self, rfl⟩
  | read runs acted goesOn =>
      obtain ⟨link, hlink, rfl⟩ := List.mem_map.mp hl
      refine Or.inl ⟨link, hlink, ?_⟩
      split <;> exact ⟨rfl, rfl⟩
  | ended ending runs acted => exact Or.inl ⟨link', (List.mem_filter.mp hl).1, rfl, rfl⟩
  | acted unseen => exact Or.inl ⟨link', hl, rfl, rfl⟩
  | probeSent prepared received => exact Or.inl ⟨link', hl, rfl, rfl⟩
  | probeClosed runs => exact Or.inl ⟨link', hl, rfl, rfl⟩
  | probed loop verdict fault => exact Or.inl ⟨link', hl, rfl, rfl⟩
  | shutDown => exact Or.inl ⟨link', hl, rfl, rfl⟩

/-- An attempt is under way after a move if it was before, and waits to start if it did before;
or a tick has just opened it. -/
theorem attempts (move : Move s ops s') {a : Attempt} (ha : a ∈ s'.ledger.registry.attempts) :
    (a ∈ s.ledger.registry.attempts
      ∧ (a.id ∈ s'.opened → a.id ∈ s.opened ∨ a.id = s.ledger.registry.opened))
    ∨ a = .opening s.ledger.registry.opened s.now := by
  -- Whoever is left when an attempt ends was there before.
  have finish : ∀ (id : Nat) (ending : Ending),
      a ∈ (s.ledger.finish id s.now s.settings.attemptTimeout ending).1.registry.attempts →
      a ∈ s.ledger.registry.attempts := by
    intro id ending left
    rw [ChurnLedger.registry_finish] at left
    exact (Registry.mem_erase.mp left).1
  cases move with
  | quiet h =>
      rw [h.ledger] at ha
      exact Or.inl ⟨ha, fun waits => Or.inl (h.opened ▸ waits)⟩
  | tick =>
      rcases s.tick_cases with ⟨registry, opened, -⟩ | ⟨registry, opened, -⟩
      · rw [registry] at ha
        rw [opened]
        exact Or.inl ⟨ha, Or.inl⟩
      · rw [registry] at ha
        rw [opened]
        rcases List.mem_cons.mp ha with rfl | old
        · exact Or.inr rfl
        · refine Or.inl ⟨old, fun waits => ?_⟩
          rcases List.mem_append.mp waits with before | new
          · exact Or.inl before
          · exact Or.inr (List.mem_singleton.mp new)
  | @refused id rest failure next =>
      refine Or.inl ⟨finish id (.failed failure) ha, fun waits => Or.inl ?_⟩
      rw [next]
      exact List.mem_cons_of_mem id waits
  | @asked id number rest request server next prepared received =>
      refine Or.inl ⟨ha, fun waits => Or.inl ?_⟩
      rw [next]
      exact List.mem_cons_of_mem id waits
  | @ended link ending server runs acted =>
      exact Or.inl ⟨finish link.attempt ending ha, Or.inl⟩
  | read runs acted goesOn => exact Or.inl ⟨ha, Or.inl⟩
  | acted unseen => exact Or.inl ⟨ha, Or.inl⟩
  | probeSent prepared received => exact Or.inl ⟨ha, Or.inl⟩
  | probeClosed runs => exact Or.inl ⟨ha, Or.inl⟩
  | probed loop verdict fault => exact Or.inl ⟨ha, Or.inl⟩
  | shutDown => exact Or.inl ⟨ha, Or.inl⟩

/-- A move keeps the alarms in time. -/
theorem timed (move : Move s ops s') (h : s.Timed) (matched : s.Matched) : s'.Timed := by
  obtain ⟨settings, -, now⟩ := move.frame
  have issued := matched.orderly.issued
  refine ⟨fun a ha => ?_, fun a ha waits => ?_, fun link' hl a ha same => ?_⟩
  · rw [now]
    rcases move.attempts ha with ⟨old, -⟩ | rfl
    · exact h.past a old
    · exact Nat.le_refl _
  · rw [now]
    rcases move.attempts ha with ⟨old, waited⟩ | rfl
    · rcases waited waits with before | new
      · exact h.waiting a old before
      · exact absurd new (Nat.ne_of_lt (issued a old))
    · rfl
  · rw [settings]
    -- An attempt that runs, or may start, was opened before the move.
    have before : link'.attempt ∈ s.ledger.registry.ids := by
      rcases move.links hl with ⟨link, hlink, named, -⟩ | ⟨waits, -⟩
      · exact named ▸ matched.runs hlink
      · exact matched.waits waits
    have old : a ∈ s.ledger.registry.attempts := by
      rcases move.attempts ha with ⟨old, -⟩ | rfl
      · exact old
      · -- The attempt just opened has an ordinal that none before it has.
        have bound := matched.orderly.lt_opened before
        rw [← same] at bound
        exact absurd bound (Nat.lt_irrefl _)
    rcases move.links hl with ⟨link, hlink, named, alarm⟩ | ⟨waits, due⟩
    · rw [alarm]
      exact h.running link hlink a old (same.trans named)
    · rw [due, h.waiting a old (same ▸ waits)]

/-- A move leaves every attempt time, if attempts are allowed any. -/
theorem fresh (move : Move s ops s') (positive : 0 < s.settings.attemptTimeout) (h : s.Fresh) :
    s'.Fresh := by
  intro link' hl
  rw [move.frame.2.2]
  rcases move.links hl with ⟨link, hlink, -, alarm⟩ | ⟨-, due⟩
  · rw [alarm]
    exact h link hlink
  · omega

end Move

namespace Moves

variable {s s' : Session} {ops : List Operation}

theorem frame (moves : Moves s ops s') :
    s'.settings = s.settings ∧ s'.client = s.client ∧ s'.now = s.now := by
  induction moves with
  | refl s => exact ⟨rfl, rfl, rfl⟩
  | step move _ ih =>
      obtain ⟨settings, client, now⟩ := move.frame
      exact ⟨ih.1.trans settings, ih.2.1.trans client, ih.2.2.trans now⟩

theorem timed (moves : Moves s ops s') (h : s.Timed) (matched : s.Matched) : s'.Timed := by
  induction moves with
  | refl s => exact h
  | step move _ ih => exact ih (move.timed h matched) (move.matched matched)

theorem fresh (moves : Moves s ops s') (positive : 0 < s.settings.attemptTimeout)
    (h : s.Fresh) : s'.Fresh := by
  induction moves with
  | refl s => exact h
  | step move _ ih => exact ih (move.frame.1.symm ▸ positive) (move.fresh positive h)

end Moves

/-! ## Alarms that have come due

An alarm that rings may let a loop go on, and the loop may tick many times, but an attempt that is
opened so starts only when all alarms have rung. The attempts that run after an alarm are therefore
among those that ran before it, less the one whose alarm it was. -/

theorem links_ticks (count : Nat) (s : Session) : (ticks count s).links = s.links := by
  induction count generalizing s with
  | zero => rfl
  | succ count ih => exact ih s.tick.1

theorem links_startProbe (s : Session) (loop : Option Nat) :
    (s.startProbe loop).1.links = s.links := by
  unfold startProbe
  split
  · rfl
  · split <;> rfl

theorem links_runProber (id count : Nat) (s : Session) :
    (runProber id count s).links = s.links := by
  induction count generalizing s with
  | zero => rfl
  | succ count ih =>
      unfold runProber
      split
      · rfl
      · split
        · rfl
        · rename_i loop found _ ticker due
          have started := links_startProbe
            (s.updateProber { loop with ticker := ticker, busy := true }) (some id)
          dsimp only
          split
          · rename_i next probes
            rw [probes] at started
            exact (ih next).trans started
          · rename_i next probes
            rw [probes] at started
            exact started

theorem links_resumeProber (s : Session) (id : Nat) : (s.resumeProber id).links = s.links := by
  unfold resumeProber
  split
  · rfl
  · exact links_runProber id _ s

theorem links_endProbe (s : Session) (run : ProbeRun) (verdict : Verdict)
    (fault : List ChurnNotice) : (s.endProbe run verdict fault).links = s.links := by
  unfold endProbe
  dsimp only
  split
  · rfl
  · exact links_resumeProber _ _

theorem links_resumeDriver (s : Session) (id : Nat) : (s.resumeDriver id).links = s.links := by
  unfold resumeDriver
  split
  · rfl
  · exact links_ticks _ _

/-- An alarm starts no attempt, and its own attempt runs no longer. -/
theorem links_ring (s : Session) (waiter : Waiter) {link : Link}
    (hl : link ∈ (s.ring waiter).links) : link ∈ s.links ∧ waiter ≠ .link link.attempt := by
  cases waiter with
  | driver id =>
      rw [ring, links_resumeDriver] at hl
      exact ⟨hl, by simp⟩
  | prober id =>
      rw [ring, links_resumeProber] at hl
      exact ⟨hl, by simp⟩
  | probe exchange =>
      refine ⟨?_, by simp⟩
      simp only [ring] at hl
      split at hl
      · rwa [links_endProbe] at hl
      · exact hl
  | link attempt =>
      simp only [ring] at hl
      split at hl
      · rename_i ends found
        have same : ends.attempt = attempt := by simpa using List.find?_some found
        obtain ⟨hl, apart⟩ := List.mem_filter.mp hl
        refine ⟨hl, fun named => of_decide_eq_true apart ?_⟩
        rw [same]
        exact (Waiter.link.inj named).symm
      · rename_i none
        have apart : link.attempt ≠ attempt := by simpa using List.find?_eq_none.mp none link hl
        exact ⟨hl, fun named => apart (Waiter.link.inj named).symm⟩

theorem links_foldl_ring (waiters : List Waiter) (s : Session) {link : Link}
    (hl : link ∈ (waiters.foldl ring s).links) :
    link ∈ s.links ∧ .link link.attempt ∉ waiters := by
  induction waiters generalizing s with
  | nil => exact ⟨hl, by simp⟩
  | cons waiter waiters ih =>
      obtain ⟨before, others⟩ := ih (s.ring waiter) hl
      obtain ⟨before, apart⟩ := links_ring s waiter before
      refine ⟨before, fun rings => ?_⟩
      rcases List.mem_cons.mp rings with first | later
      · exact apart first.symm
      · exact others later

/-- What waits for an alarm that has come due is among what rings. -/
theorem mem_ringing {now : Nat} {waiting : List (Alarm × Waiter)} {alarm : Alarm}
    {waiter : Waiter} (waits : (alarm, waiter) ∈ waiting) (due : alarm.due ≤ now) :
    waiter ∈ Alarm.ringing now waiting := by
  refine List.mem_map.mpr ⟨(alarm, waiter), ?_, rfl⟩
  exact List.mem_mergeSort.mpr (List.mem_filter.mpr ⟨waits, decide_eq_true due⟩)

theorem mem_waiting {s : Session} {link : Link} (hl : link ∈ s.links) :
    (link.alarm, .link link.attempt) ∈ s.waiting := by
  refine List.mem_append_left _ (List.mem_append_left _ (List.mem_append_left _ ?_))
  exact List.mem_map.mpr ⟨link, hl, rfl⟩

/-- The attempts left when all alarms have rung have time left, however far the clock jumped. -/
theorem fresh_ringAll (s : Session) : s.ringAll.Fresh := by
  intro link hl
  obtain ⟨ops, rang⟩ := leads_ringAll s
  rw [rang.frame.2.2]
  obtain ⟨before, silent⟩ := links_foldl_ring _ s hl
  -- Had its alarm come due, it would have rung and ended the attempt.
  by_cases due : link.alarm.due ≤ s.now
  · exact absurd (mem_ringing (mem_waiting before) due) silent
  · omega

/-! ## A session that has settled -/

theorem opened_foldl_launch (ids : List Nat) (s : Session) :
    (ids.foldl launch s).opened = s.opened := by
  induction ids generalizing s with
  | nil => rfl
  | cons id ids ih =>
      have once : (launch s id).opened = s.opened := by
        unfold launch
        split
        · rfl
        · split <;> rfl
      rw [List.foldl_cons, ih, once]

theorem opened_launchAll (s : Session) : s.launchAll.opened = [] := by
  rw [launchAll, opened_foldl_launch]

theorem opened_spin (count : Nat) {s : Session} (none : s.opened = []) :
    (spin count s).opened = [] := by
  induction count generalizing s with
  | zero => exact none
  | succ count ih =>
      unfold spin
      split
      · exact ih (opened_launchAll _)
      · rename_i next outcome closed ticks
        rcases s.tick_cases with ⟨-, opened, -⟩ | ⟨-, -, issued⟩
        · rw [ticks] at opened
          exact opened.trans none
        · rw [ticks] at issued
          exact (closed _ issued).elim

/-- A session that has settled has started every attempt that it opened. -/
theorem opened_settle (s : Session) : s.settle.opened = [] := by
  have spun : ∀ (loops : List TickLoop) (s : Session), s.opened = [] →
      (loops.foldl (fun s _ => spin (s.ledger.maxInFlight + 1) s) s).opened = [] := by
    intro loops
    induction loops with
    | nil => exact fun s none => none
    | cons loop loops ih => exact fun s none => ih _ (opened_spin _ none)
  exact spun _ s.ringAll.launchAll (opened_launchAll s.ringAll)

/-- The attempts of a session that has settled have time left. -/
theorem fresh_settle {s : Session} (positive : 0 < s.settings.attemptTimeout) :
    s.settle.Fresh := by
  obtain ⟨ops, rang⟩ := leads_ringAll s
  -- After the alarms attempts only start, each with all the time allowed ahead of it.
  have after : Leads s.ringAll s.settle :=
    (leads_launchAll s.ringAll).trans (.foldl (fun s _ => leads_spin _ s) _ _)
  obtain ⟨later, moves⟩ := after
  exact moves.fresh (rang.frame.1.symm ▸ positive) (fresh_ringAll s)

/-- A step ends with all that can happen while the clock stands still. -/
theorem exists_settle (s : Session) (step : Step) : ∃ y, (s.step step).1 = settle y := by
  cases step <;> exact ⟨_, rfl⟩

end StreamLoad.Churn.Session
