import StreamLoad.Proofs.Churn.Accounting

/-! # No churn after the goal

Once the drops have reached the goal, no tick opens an attempt and no ending counts as a drop, so
all that is left is for the attempts under way to end (`Stopped`). Until then the attempts that
have not failed are either counted as drops or under way, and the limit bounds the latter: the
goal is overshot by less than the limit (`Bounded`).
-/

set_option autoImplicit false

namespace StreamLoad.ChurnLedger

/-- The attempts that have not failed exceed the goal by less than the limit. -/
def Bounded (goal maxInFlight : Nat) (l : ChurnLedger) : Prop :=
  l.counters.failed ≤ l.registry.opened
  ∧ (1 ≤ goal → 1 ≤ maxInFlight →
    l.registry.opened - l.counters.failed ≤ goal + maxInFlight - 1)

/-- From one ledger to a later one no attempt is opened or counted as a drop, and every tick says
that the goal is reached. -/
structure Stopped (l l' : ChurnLedger) : Prop where
  ticks : ∀ now, (l'.tick now).2.1 = .goalReached
  opened : l'.registry.opened = l.registry.opened
  dropped : l'.counters.dropped = l.counters.dropped
  inFlight : l'.registry.inFlight ≤ l.registry.inFlight

theorem Kept.bounded {goal maxInFlight : Nat} {l : ChurnLedger} {ended : List Attempt}
    (h : Kept goal maxInFlight l ended) : Bounded goal maxInFlight l := by
  have opened := h.opened_eq
  refine ⟨by omega, fun hg hm => ?_⟩
  have outstanding := h.outstanding hg hm
  calc l.registry.opened - l.counters.failed
      = l.registry.inFlight + countEnded .aborted ended := by omega
    _ ≤ goal + maxInFlight - 1 := by omega

/-! ## After the goal

Drops are never taken back, so a goal once reached stays reached. The operations after it are ticks
that are turned away, endings that count no drop, and probes, which have no part in this. -/

theorem tick_of_reached {l : ChurnLedger} (reached : l.counters.goal ≤ l.counters.dropped)
    (now : Nat) :
    (l.tick now).1 = { l with goalNoted := true } ∧ (l.tick now).2.1 = .goalReached := by
  rcases l.tick_cases now with ⟨-, same, outcome⟩ | ⟨short, -⟩ | ⟨short, -⟩
  · exact ⟨same, outcome⟩
  · omega
  · omega

namespace Kept

variable {goal maxInFlight : Nat} {l : ChurnLedger} {ended : List Attempt}

theorem stopped_refl (h : Kept goal maxInFlight l ended) (reached : l.counters.dropped = goal) :
    Stopped l l :=
  ⟨fun now => (tick_of_reached (Nat.le_of_eq (h.goal_eq.trans reached.symm)) now).2, rfl, rfl,
    Nat.le_refl _⟩

/-- An operation after the goal opens nothing and counts no drop. -/
theorem apply_of_reached (h : Kept goal maxInFlight l ended) (reached : l.counters.dropped = goal)
    {op : Operation} (possible : op.Possible l) :
    (l.apply op).registry.opened = l.registry.opened
    ∧ (l.apply op).counters.dropped = l.counters.dropped
    ∧ (l.apply op).registry.inFlight ≤ l.registry.inFlight := by
  have full : l.counters.goal ≤ l.counters.dropped := Nat.le_of_eq (h.goal_eq.trans reached.symm)
  cases op with
  | tick now =>
      rw [ChurnLedger.apply, (tick_of_reached full now).1]
      exact ⟨rfl, rfl, Nat.le_refl _⟩
  | finish id now timeout ending =>
      have counters :=
        (finish_underWay h.orderly (possible id rfl) now timeout ending).2
      rw [ChurnLedger.apply, registry_finish, counters]
      refine ⟨rfl, ?_, List.length_filter_le _ _⟩
      cases ending with
      | greeted =>
          rw [Ending.count, Counters.dropped_recordDrop, if_neg (by omega)]
      | failed failure => rfl
      | timedOut => rfl
  | probed verdict => exact ⟨rfl, rfl, Nat.le_refl _⟩

/-- The goal once reached, a run only lets attempts end. -/
theorem stopped_run (h : Kept goal maxInFlight l ended) (reached : l.counters.dropped = goal)
    {later : List Operation} (legal : l.Legal later) : Stopped l (l.run later) := by
  -- The drops stay at the goal, so each operation is one after the goal again.
  induction later generalizing l ended with
  | nil => exact h.stopped_refl reached
  | cons op later ih =>
      obtain ⟨opened, dropped, inFlight⟩ := h.apply_of_reached reached legal.1
      have rest := ih (h.apply legal.1) (dropped.trans reached) legal.2
      exact ⟨rest.ticks, rest.opened.trans opened, rest.dropped.trans dropped,
        Nat.le_trans rest.inFlight inFlight⟩

end Kept

/-! ## The goal in a session -/

/-- A tick of a session answers as its ledger does. -/
theorem step_tick (s : Churn.Session) :
    (s.step .tick).2 = some (s.ledger.tick s.now).2.1 := rfl

/-- **No churn after the goal, and bounded overshoot.** In every run the attempts that have not
failed exceed the goal by less than the limit. From a state on in which the drops are the goal,
every tick finds the goal reached, no attempt is opened, no drop is counted and no more attempts
are under way than before, whatever happens to them. -/
theorem churn_stops_at_goal :
    (∀ (goal maxInFlight : Nat) (ops later : List Operation),
      (empty goal maxInFlight).Legal (ops ++ later) →
      Bounded goal maxInFlight ((empty goal maxInFlight).run ops)
      ∧ (((empty goal maxInFlight).run ops).counters.dropped = goal →
        Stopped ((empty goal maxInFlight).run ops) ((empty goal maxInFlight).run (ops ++ later))))
    ∧ ∀ (settings : ChurnSettings) (probing : ProbeSettings) (goal : Nat) (client : Client)
        (server : Server) (steps later : List Churn.Session.Step),
        let s := (Churn.Session.start settings probing goal client server).run steps
        Bounded goal settings.maxInFlight s.ledger
        ∧ (s.ledger.counters.dropped = goal →
          Stopped s.ledger (s.run later).ledger
          ∧ ((s.run later).step .tick).2 = some .goalReached) := by
  refine ⟨fun goal maxInFlight ops later legal => ?_,
    fun settings probing goal client server steps later => ?_⟩
  · obtain ⟨first, rest⟩ := legal_append.mp legal
    have kept := (kept_empty goal maxInFlight).run first
    rw [run_append]
    exact ⟨kept.bounded, fun reached => kept.stopped_run reached rest⟩
  · obtain ⟨ops, performs⟩ := Churn.Session.exists_performs
      (Churn.Session.start settings probing goal client server) steps
    obtain ⟨first, ledger, matched⟩ := performs.legal
      (Churn.Session.matched_start settings probing goal client server)
    have kept := (kept_empty goal settings.maxInFlight).run first
    have atStart : (Churn.Session.start settings probing goal client server).ledger
      = empty goal settings.maxInFlight := rfl
    rw [atStart] at ledger
    rw [← ledger] at kept
    intro s
    refine ⟨kept.bounded, fun reached => ?_⟩
    obtain ⟨ops', performs'⟩ := Churn.Session.exists_performs s later
    obtain ⟨rest, ledger', -⟩ := performs'.legal matched
    have stopped : Stopped s.ledger (s.run later).ledger := by
      rw [ledger']
      exact kept.stopped_run reached rest
    refine ⟨stopped, ?_⟩
    rw [step_tick, stopped.ticks]

/-- The goal of one drop is reached while a second attempt is under way. -/
theorem churn_stops_at_goal_late :
    (empty 1 2).Legal ([.tick 0, .tick 0, .finish 1 3 9 .greeted] ++ [.finish 0 5 9 .greeted])
    ∧ ((empty 1 2).run [.tick 0, .tick 0, .finish 1 3 9 .greeted]).counters.dropped = 1
    ∧ Stopped ((empty 1 2).run [.tick 0, .tick 0, .finish 1 3 9 .greeted])
      ((empty 1 2).run
        ([.tick 0, .tick 0, .finish 1 3 9 .greeted] ++ [.finish 0 5 9 .greeted])) :=
  ⟨by decide, by decide,
    (churn_stops_at_goal.1 1 2 [.tick 0, .tick 0, .finish 1 3 9 .greeted] [.finish 0 5 9 .greeted]
      (by decide)).2 (by decide)⟩

end StreamLoad.ChurnLedger
