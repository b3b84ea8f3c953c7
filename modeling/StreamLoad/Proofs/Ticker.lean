import StreamLoad.Ticker
import Mathlib.Algebra.Order.Group.Nat
import Mathlib.Data.Nat.ModEq

/-! # How a ticker ticks

A ticker is polled at some instants. A poll completes a tick if the deadline has come, and the
deadline moves on. It never leaves the grid that the creation and the period span (`Paced`), and
each completion takes it at least one period further. So the tick of an ordinal is not completed
before the instant of the grid that has this ordinal, however late the polls are, and no more
ticks are completed than the grid has instants.

Ticks that are due at one instant can be taken one right after another only while the deadline is
missed by no more than the tolerance. How many these are is said exactly (`length_completed_at`),
and a second one is among them for some polls just if the period fits into the tolerance.
-/

set_option autoImplicit false

namespace StreamLoad.Ticker

/-- A tick that a poll has completed: when it was due, and when it was taken. -/
structure Tick where
  due : Nat
  taken : Nat
deriving DecidableEq, Repr

/-- The tick that a poll completes. Without a period it is due at once. -/
def complete? (t : Ticker) (now : Nat) : Option Tick :=
  if (t.tick? now).isSome then some { due := t.deadline?.getD now, taken := now } else none

/-- The ticker after a poll. -/
def poll (t : Ticker) (now : Nat) : Ticker := (t.tick? now).getD t

/-- The ticker after some polls. -/
def pollAll (t : Ticker) (polls : List Nat) : Ticker := polls.foldl poll t

/-- The ticks that some polls complete, in order. -/
def completed (t : Ticker) : List Nat → List Tick
  | [] => []
  | now :: polls => (t.complete? now).toList ++ (t.poll now).completed polls

@[simp] theorem completed_nil (t : Ticker) : t.completed [] = [] := rfl

@[simp] theorem pollAll_nil (t : Ticker) : t.pollAll [] = t := rfl

@[simp] theorem pollAll_cons (t : Ticker) (now : Nat) (polls : List Nat) :
    t.pollAll (now :: polls) = (t.poll now).pollAll polls := rfl

/-! ## The next deadline

Within the tolerance the deadline moves on by one period, even into the past. Beyond it all instants
of the grid that have gone by are skipped, and the deadline is the first one still to come. -/

section

variable {period deadline now : Nat}

theorem nextDeadline_of_punctual (punctual : now ≤ deadline + tolerance) :
    nextDeadline period deadline now = deadline + period :=
  if_neg (Nat.not_lt.mpr punctual)

/-- The deadline moves ahead by whole periods. -/
theorem exists_nextDeadline_eq (due : deadline ≤ now) :
    ∃ steps, nextDeadline period deadline now = deadline + (steps + 1) * period := by
  by_cases punctual : now ≤ deadline + tolerance
  · exact ⟨0, by rw [nextDeadline_of_punctual punctual]; omega⟩
  · refine ⟨(now - deadline) / period, ?_⟩
    have parts := Nat.div_add_mod' (now - deadline) period
    rw [nextDeadline, if_pos (Nat.not_le.mp punctual), Nat.succ_mul]
    omega

/-- After a tick that was late beyond the tolerance, the next one is due later, and not more than
a period later. -/
theorem nextDeadline_of_late (positive : 0 < period) (late : deadline + tolerance < now) :
    now < nextDeadline period deadline now ∧ nextDeadline period deadline now ≤ now + period := by
  have := Nat.mod_lt (now - deadline) positive
  rw [nextDeadline, if_pos late]
  omega

end

/-! ## One poll -/

section

variable {period deadline now : Nat} {positive : 0 < period}

theorem tick?_of_due (due : deadline ≤ now) :
    (every period positive deadline).tick? now
      = some (every period positive (nextDeadline period deadline now)) :=
  if_pos due

theorem tick?_of_early (early : now < deadline) :
    (every period positive deadline).tick? now = none :=
  if_neg (Nat.not_le.mpr early)

theorem isSome_tick?_every : ((every period positive deadline).tick? now).isSome ↔ deadline ≤ now := by
  by_cases due : deadline ≤ now
  · simp [tick?_of_due due, due]
  · simp [tick?_of_early (Nat.not_le.mp due), due]

theorem poll_of_due (due : deadline ≤ now) :
    (every period positive deadline).poll now
      = every period positive (nextDeadline period deadline now) := by
  rw [poll, tick?_of_due due, Option.getD_some]

theorem poll_of_early (early : now < deadline) :
    (every period positive deadline).poll now = every period positive deadline := by
  rw [poll, tick?_of_early early, Option.getD_none]

theorem completed_of_due (due : deadline ≤ now) (polls : List Nat) :
    (every period positive deadline).completed (now :: polls)
      = { due := deadline, taken := now }
        :: (every period positive (nextDeadline period deadline now)).completed polls := by
  rw [completed, complete?, if_pos (isSome_tick?_every.mpr due), poll_of_due due]
  rfl

theorem completed_of_early (early : now < deadline) (polls : List Nat) :
    (every period positive deadline).completed (now :: polls)
      = (every period positive deadline).completed polls := by
  rw [completed, complete?, if_neg (mt isSome_tick?_every.mp (Nat.not_le.mpr early)),
    poll_of_early early]
  rfl

end

/-! ## The grid

`Paced` bounds the deadline from below by the number of ticks, and it does not ask when the polls
were. That is enough for all that is said of a run of polls: a tick of a given ordinal is not due
before the instant of the grid with that ordinal. -/

/-- A ticker whose deadline is an instant of the grid, and at least some periods after the
creation. -/
def Paced (period created count : Nat) (t : Ticker) : Prop :=
  ∃ (positive : 0 < period) (steps : Nat),
    count ≤ steps ∧ t = every period positive (created + steps * period)

theorem paced_create {period : Nat} (positive : 0 < period) (created : Nat) :
    (create period created).Paced period created 0 :=
  ⟨positive, 0, Nat.le_refl 0, by rw [create, dif_pos positive]; simp⟩

namespace Paced

variable {period created count : Nat} {t : Ticker}

/-- The deadline after a tick is on the grid, and at least one period further. -/
theorem next {steps now : Nat} (positive : 0 < period) (due : created + steps * period ≤ now)
    (most : count ≤ steps) :
    (every period positive (nextDeadline period (created + steps * period) now)).Paced
      period created (count + 1) := by
  obtain ⟨more, moved⟩ :
      ∃ more, nextDeadline period (created + steps * period) now
        = created + steps * period + (more + 1) * period := exists_nextDeadline_eq due
  refine ⟨positive, steps + (more + 1), by omega, ?_⟩
  rw [moved, Nat.add_assoc, ← Nat.add_mul]

/-- What polls do to the deadline. -/
theorem pollAll (h : t.Paced period created count) (polls : List Nat) :
    (t.pollAll polls).Paced period created (count + (t.completed polls).length) := by
  induction polls generalizing t count with
  | nil => exact h
  | cons now polls ih =>
      obtain ⟨positive, steps, most, rfl⟩ := h
      by_cases due : created + steps * period ≤ now
      · rw [completed_of_due due, pollAll_cons, poll_of_due due, List.length_cons,
          Nat.add_comm _ 1, ← Nat.add_assoc]
        exact ih (next positive due most)
      · -- A poll that completes no tick leaves the deadline where it is.
        have early := Nat.not_le.mp due
        rw [completed_of_early early, pollAll_cons, poll_of_early early]
        exact ih ⟨positive, steps, most, rfl⟩

/-- Each tick was due at an instant of the grid, was not taken before, and the ticks before it
were due at earlier instants of the grid. -/
theorem tick_of_getElem? (h : t.Paced period created count) {polls : List Nat} {index : Nat}
    {tick : Tick} (taken : (t.completed polls)[index]? = some tick) :
    (∃ steps, count + index ≤ steps ∧ tick.due = created + steps * period)
    ∧ tick.due ≤ tick.taken := by
  induction polls generalizing t count index with
  | nil => simp at taken
  | cons now polls ih =>
      obtain ⟨positive, steps, most, rfl⟩ := h
      by_cases due : created + steps * period ≤ now
      · rw [completed_of_due due] at taken
        cases index with
        | zero =>
            obtain rfl : _ = tick := by simpa using taken
            exact ⟨⟨steps, most, rfl⟩, due⟩
        | succ index =>
            obtain ⟨⟨later, fits, grid⟩, order⟩ := ih (next positive due most) taken
            exact ⟨⟨later, by omega, grid⟩, order⟩
      · rw [completed_of_early (Nat.not_le.mp due)] at taken
        exact ih ⟨positive, steps, most, rfl⟩ taken

end Paced

/-- No tick is due before the deadline of the ticker. -/
theorem deadline_le_due {period deadline : Nat} {positive : 0 < period} {polls : List Nat}
    {tick : Tick} (taken : tick ∈ (every period positive deadline).completed polls) :
    deadline ≤ tick.due := by
  induction polls generalizing deadline with
  | nil => cases taken
  | cons now polls ih =>
      by_cases due : deadline ≤ now
      · rw [completed_of_due due] at taken
        rcases List.mem_cons.mp taken with rfl | later
        · exact Nat.le_refl deadline
        · exact Nat.le_trans (Nat.le_of_lt (lt_nextDeadline positive due)) (ih later)
      · rw [completed_of_early (Nat.not_le.mp due)] at taken
        exact ih taken

/-- The deadlines of the ticks increase. -/
theorem pairwise_due {period deadline : Nat} (positive : 0 < period) (polls : List Nat) :
    ((every period positive deadline).completed polls).Pairwise fun a b => a.due < b.due := by
  induction polls generalizing deadline with
  | nil => exact List.Pairwise.nil
  | cons now polls ih =>
      by_cases due : deadline ≤ now
      · rw [completed_of_due due]
        -- What is taken later is due at the deadline after this tick, or after that.
        refine List.Pairwise.cons (fun tick later => ?_) ih
        exact Nat.lt_of_lt_of_le (lt_nextDeadline positive due) (deadline_le_due later)
      · rw [completed_of_early (Nat.not_le.mp due)]
        exact ih

/-- Of instants that keep behind a grid, no more lie within a span of time than the grid has
instants in it. -/
theorem length_filter_le_of_grid {α : Type} {period start span : Nat} (positive : 0 < period)
    {instant : α → Nat} {xs : List α}
    (behind : ∀ index x, xs[index]? = some x → start + index * period ≤ instant x) :
    (xs.filter fun x => instant x ≤ start + span).length ≤ span / period + 1 := by
  -- What stands after the first entries comes too late to be counted.
  have late : (xs.drop (span / period + 1)).filter (fun x => instant x ≤ start + span) = [] := by
    refine List.filter_eq_nil_iff.mpr fun x member within => ?_
    obtain ⟨index, found⟩ := List.mem_iff_getElem?.mp member
    rw [List.getElem?_drop] at found
    have far : (span / period + 1) * period ≤ (span / period + 1 + index) * period :=
      Nat.mul_le_mul_right period (Nat.le_add_right _ _)
    have beyond := Nat.lt_div_mul_add (a := span) positive
    have := behind _ x found
    rw [Nat.succ_mul] at far
    have within := of_decide_eq_true within
    omega
  have split := List.filter_append (p := fun x => decide (instant x ≤ start + span))
    (xs.take (span / period + 1)) (xs.drop (span / period + 1))
  rw [List.take_append_drop, late, List.append_nil] at split
  rw [split]
  exact Nat.le_trans (List.length_filter_le _ _) (List.length_take_le _ _)

/-! ## Polls at one instant

A loop that is let go on takes ticks until none is due, and all of them at one instant. `takeDue`
counts them without going through them one by one, and that it counts right is shown by polling
again and again at that instant. -/

section

variable {period deadline now : Nat} {positive : 0 < period}

theorem completed_at_of_early (early : now < deadline) (polls : Nat) :
    (every period positive deadline).completed (List.replicate polls now) = [] := by
  induction polls with
  | zero => rfl
  | succ polls ih => rw [List.replicate_succ, completed_of_early early, ih]

/-- Once a tick is taken, one less is due. -/
theorem dueCount_of_due (positive : 0 < period) (due : deadline ≤ now) :
    dueCount period deadline now
      = dueCount period (nextDeadline period deadline now) now + 1 := by
  by_cases punctual : now ≤ deadline + tolerance
  · rw [nextDeadline_of_punctual punctual, dueCount, if_neg (Nat.not_lt.mpr due),
      if_neg (Nat.not_lt.mpr punctual)]
    by_cases more : deadline + period ≤ now
    · have spans := Nat.div_eq_sub_div positive (show period ≤ now - deadline by omega)
      rw [dueCount, if_neg (by omega), if_neg (by omega), spans, Nat.sub_add_eq]
    · have within : (now - deadline) / period = 0 := Nat.div_eq_of_lt (by omega)
      rw [dueCount, if_pos (by omega), within]
  · have late := Nat.not_le.mp punctual
    rw [dueCount, if_neg (Nat.not_lt.mpr due), if_pos late, dueCount,
      if_pos (nextDeadline_of_late positive late).1]

/-- Polls at one instant complete the ticks that are due then, one by one. -/
theorem length_completed_at (polls : Nat) :
    ((every period positive deadline).completed (List.replicate polls now)).length
      = min polls (dueCount period deadline now) := by
  induction polls generalizing deadline with
  | zero => simp
  | succ polls ih =>
      by_cases due : deadline ≤ now
      · rw [List.replicate_succ, completed_of_due due, List.length_cons, ih,
          dueCount_of_due positive due, Nat.add_min_add_right]
      · have early := Nat.not_le.mp due
        rw [completed_at_of_early early, dueCount, if_pos early]
        simp

/-- All ticks that are due are one of them and those that are due after it. -/
theorem takeDue_of_due (due : deadline ≤ now) :
    ((every period positive deadline).takeDue now).2
      = ((every period positive (nextDeadline period deadline now)).takeDue now).2 := by
  have count := dueCount_of_due positive due
  by_cases last : now < nextDeadline period deadline now
  · have none : dueCount period (nextDeadline period deadline now) now = 0 := if_pos last
    rw [takeDue_of_early last, takeDue]
    simp [count, none]
  · -- Only a deadline that is not missed by more than the tolerance leaves a second tick due.
    have punctual : now ≤ deadline + tolerance := by
      by_contra late
      exact last (nextDeadline_of_late positive (Nat.not_le.mp late)).1
    have next : nextDeadline period deadline now = deadline + period :=
      nextDeadline_of_punctual punctual
    rw [next] at count last ⊢
    have again : dueCount period (deadline + period) now ≠ 0 := by
      rw [dueCount, if_neg last]
      split
      · exact Nat.one_ne_zero
      · exact Nat.succ_ne_zero _
    have later : nextDeadline period (deadline + period) now = deadline + period + period :=
      nextDeadline_of_punctual (by omega)
    simp only [takeDue, count, later]
    congr 1
    rw [if_neg (by omega), Nat.succ_mul]
    split
    · rename_i one
      rw [one]
      omega
    · omega

/-- To take all ticks that are due is to poll until none is. -/
theorem pollAll_at {polls : Nat} (enough : dueCount period deadline now ≤ polls) :
    (every period positive deadline).pollAll (List.replicate polls now)
      = ((every period positive deadline).takeDue now).2 := by
  induction polls generalizing deadline with
  | zero =>
      have early : now < deadline := by
        by_contra due
        rw [dueCount_of_due positive (Nat.not_lt.mp due)] at enough
        exact Nat.not_succ_le_zero _ enough
      rw [takeDue_of_early early]
      rfl
  | succ polls ih =>
      rw [List.replicate_succ, pollAll_cons]
      by_cases due : deadline ≤ now
      · rw [dueCount_of_due positive due] at enough
        rw [poll_of_due due, takeDue_of_due due]
        exact ih (Nat.le_of_succ_le_succ enough)
      · have early := Nat.not_le.mp due
        rw [poll_of_early early]
        exact ih (by rw [dueCount, if_pos early]; exact Nat.zero_le _)

end

/-- A poll that completes a tick takes it at its own instant. -/
theorem taken_mem {t : Ticker} {polls : List Nat} {tick : Tick} (h : tick ∈ t.completed polls) :
    tick.taken ∈ polls := by
  induction polls generalizing t with
  | nil => cases h
  | cons now polls ih =>
      rcases List.mem_append.mp h with first | later
      · rw [complete?] at first
        split at first
        · obtain rfl := List.mem_singleton.mp first
          exact List.mem_cons_self
        · cases first
      · exact List.mem_cons_of_mem now (ih later)

/-- A ticker takes some ticks at an instant: it keeps to the grid, and the last of the ticks was
not due later. -/
def Takes (t : Ticker) (now count : Nat) (next : Ticker) : Prop :=
  ∀ period created before, t.Paced period created before →
    next.Paced period created (before + count)
    ∧ (count = 0 ∨ created + (before + count) * period ≤ now + period)

theorem takes_tick? {t next : Ticker} {now : Nat} (ticked : t.tick? now = some next) :
    t.Takes now 1 next := by
  rintro period created before ⟨positive, steps, most, rfl⟩
  have due : created + steps * period ≤ now := isSome_tick?_every.mp (by rw [ticked]; rfl)
  obtain rfl : every period positive (nextDeadline period (created + steps * period) now) = next :=
    Option.some.inj ((tick?_of_due due).symm.trans ticked)
  refine ⟨Paced.next positive due most, Or.inr ?_⟩
  have behind := Nat.mul_le_mul_right period most
  rw [Nat.succ_mul]
  omega

theorem deadline?_create_eq_none_iff {period now : Nat} :
    (create period now).deadline? = none ↔ period = 0 := by
  unfold create
  split <;> simp [deadline?] <;> omega

/-- A ticker has a next deadline just if it had one before. -/
theorem deadline?_takeDue_eq_none_iff (t : Ticker) (now : Nat) :
    (t.takeDue now).2.deadline? = none ↔ t.deadline? = none := by
  cases t <;> simp [takeDue, deadline?]

theorem takes_takeDue (t : Ticker) (now : Nat) : t.Takes now (t.takeDue now).1 (t.takeDue now).2 := by
  rintro period created before h
  obtain ⟨positive, steps, -, rfl⟩ := id h
  set due := dueCount period (created + steps * period) now with hdue
  have number : ((every period positive (created + steps * period)).completed
      (List.replicate due now)).length = due := by
    rw [length_completed_at, ← hdue, Nat.min_self]
  -- To take all that is due is to poll as often, so the ticks taken are those of these polls.
  have polled := h.pollAll (List.replicate due now)
  rw [number, pollAll_at (Nat.le_refl _)] at polled
  refine ⟨polled, (Nat.eq_zero_or_pos due).imp_right fun some => ?_⟩
  have last := List.getElem?_eq_getElem (Nat.lt_of_lt_of_eq (Nat.sub_one_lt_of_lt some) number.symm)
  obtain ⟨⟨later, fits, grid⟩, order⟩ := h.tick_of_getElem? last
  have instant := List.eq_of_mem_replicate (taken_mem (List.mem_of_getElem? last))
  -- The last of them was due by now, at an instant of the grid that the count cannot be ahead of.
  have behind : (before + due) * period ≤ (later + 1) * period :=
    Nat.mul_le_mul_right period (by omega)
  show created + (before + due) * period ≤ now + period
  rw [Nat.succ_mul] at behind
  omega

/-! ## Bursts

Two ticks at one instant need a deadline that has moved on and still is not in the future. That
happens only within the tolerance, and there it does happen if the period leaves room for it: the
first poll is one period late. -/

/-- If the period exceeds the tolerance, no two ticks are taken at one instant. -/
theorem pairwise_taken {period deadline : Nat} (positive : 0 < period) (exceeds : tolerance < period)
    (polls : List Nat) :
    ((every period positive deadline).completed polls).Pairwise fun a b => a.taken < b.taken := by
  induction polls generalizing deadline with
  | nil => exact List.Pairwise.nil
  | cons now polls ih =>
      by_cases due : deadline ≤ now
      · have later : now < nextDeadline period deadline now := by
          by_cases punctual : now ≤ deadline + tolerance
          · rw [nextDeadline_of_punctual punctual]
            omega
          · exact (nextDeadline_of_late positive (Nat.not_le.mp punctual)).1
        rw [completed_of_due due]
        refine List.Pairwise.cons (fun tick member => ?_) ih
        obtain ⟨index, found⟩ := List.mem_iff_getElem?.mp member
        have order := (Paced.tick_of_getElem?
          ⟨positive, 0, Nat.le_refl 0, by rw [Nat.zero_mul, Nat.add_zero]⟩ found).2
        exact Nat.lt_of_lt_of_le later (Nat.le_trans (deadline_le_due member) order)
      · rw [completed_of_early (Nat.not_le.mp due)]
        exact ih

/-- A period within the tolerance: a tick that was missed by one period leaves the next one due
at once. -/
theorem completed_twice {period : Nat} (positive : 0 < period) (within : period ≤ tolerance)
    (created : Nat) :
    (create period created).completed [created + period, created + period]
      = [{ due := created, taken := created + period },
        { due := created + period, taken := created + period }] := by
  have punctual : nextDeadline period created (created + period) = created + period :=
    nextDeadline_of_punctual (Nat.add_le_add_left within created)
  rw [create, dif_pos positive, completed_of_due (Nat.le_add_right _ _), punctual,
    completed_of_due (Nat.le_refl _), completed_nil]

/-- How many ticks are completed at one instant. No two of them are, whatever the polls, just if
the period exceeds the tolerance. In any state a single one is, and the next deadline is later,
once the deadline is missed by more than the tolerance; up to the tolerance all ticks that were
due since are completed. -/
theorem bursts_within_tolerance (period : Nat) (positive : 0 < period) (created : Nat) :
    ((∀ polls : List Nat, polls.Pairwise (· ≤ ·) →
        ((create period created).completed polls).Pairwise fun a b => a.taken < b.taken)
      ↔ tolerance < period)
    ∧ ∀ polls : List Nat, ∃ deadline,
        ((create period created).pollAll polls).deadline? = some deadline
        ∧ ∀ now again : Nat,
          (((create period created).pollAll polls).completed (List.replicate again now)).length
            = if now < deadline then 0
              else if now ≤ deadline + tolerance then min again ((now - deadline) / period + 1)
              else min again 1 := by
  refine ⟨⟨fun apart => ?_, fun exceeds polls _ => ?_⟩, fun polls => ?_⟩
  · by_contra within
    have twice := completed_twice positive (Nat.not_lt.mp within) created
    have apart := apart [created + period, created + period] (by simp)
    rw [twice] at apart
    simp at apart
  · rw [create, dif_pos positive]
    exact pairwise_taken positive exceeds polls
  · obtain ⟨_, steps, -, at_⟩ := (paced_create positive created).pollAll polls
    refine ⟨created + steps * period, by rw [at_]; rfl, fun now again => ?_⟩
    rw [at_, length_completed_at, dueCount]
    split
    · exact Nat.min_zero again
    · by_cases punctual : now ≤ created + steps * period + tolerance
      · rw [if_neg (Nat.not_lt.mpr punctual), if_pos punctual]
      · rw [if_pos (Nat.not_le.mp punctual), if_neg punctual]

/-- A ticker of ten milliseconds. -/
theorem bursts_within_tolerance_ten :
    0 < Duration.ofMillis 10
    ∧ ((∀ polls : List Nat, polls.Pairwise (· ≤ ·) →
        ((create (Duration.ofMillis 10) 0).completed polls).Pairwise fun a b => a.taken < b.taken)
      ↔ tolerance < Duration.ofMillis 10) :=
  ⟨by decide, (bursts_within_tolerance (Duration.ofMillis 10) (by decide) 0).1⟩

/-- A ticker of one millisecond that is first polled after three completes two ticks then. -/
theorem burst_of_one_millisecond :
    (create (Duration.ofMillis 1) 0).completed [Duration.ofMillis 3, Duration.ofMillis 3]
      = [{ due := 0, taken := Duration.ofMillis 3 },
        { due := Duration.ofMillis 1, taken := Duration.ofMillis 3 }] := by
  decide

/-! ## Loops that wait for ticks

Loops are looked up by name in a list, and many loops take ticks in between. `Pace` follows one of
them through all of this. It holds of a loop that was stopped as well, which runs no more and keeps
below the bound. -/

/-- What is known of one loop among some, when it began and how often it has run its body: its
ticker keeps to the grid, and the body has not run more often than the grid has instants. -/
structure Pace (id period began rounds now : Nat) (clocks : List (Nat × Ticker)) : Prop where
  paced : ∀ t, (id, t) ∈ clocks → t.Paced period began rounds
  bounded : rounds = 0 ∨ began + rounds * period ≤ now + period

/-- How often one loop is among the turns of another. -/
theorem count_replicate_eq {κ : Type} [DecidableEq κ] (count : Nat) (loop other : κ) :
    (List.replicate count loop).count other = if other = loop then count else 0 := by
  rw [List.count_replicate]
  by_cases same : other = loop
  · rw [if_pos same, if_pos (beq_iff_eq.mpr same.symm)]
  · rw [if_neg same, if_neg (mt beq_iff_eq.mp (Ne.symm same))]

/-- A loop started last is not one of those before. -/
theorem mem_of_mem_concat {clocks : List (Nat × Ticker)} {id last : Nat} {t ticker : Ticker}
    (other : id < last) (member : (id, t) ∈ clocks ++ [(last, ticker)]) : (id, t) ∈ clocks := by
  rcases List.mem_append.mp member with old | new
  · exact old
  · have same := congrArg Prod.fst (List.mem_singleton.mp new)
    exact absurd same (Nat.ne_of_lt other)

section

variable {α : Type} {name : α → Nat} {ticker : α → Ticker}

/-- The names and the tickers of loops. -/
def clocks (name : α → Nat) (ticker : α → Ticker) (loops : List α) : List (Nat × Ticker) :=
  loops.map fun l => (name l, ticker l)

theorem clocks_concat (loops : List α) (loop : α) :
    clocks name ticker (loops ++ [loop])
      = clocks name ticker loops ++ [(name loop, ticker loop)] :=
  List.map_append

theorem clocks_subset {loops loops' : List α} (h : loops' ⊆ loops) :
    clocks name ticker loops' ⊆ clocks name ticker loops :=
  List.map_subset _ h

theorem mem_clocks_of_find? {loops : List α} {loop : α} {id : Nat}
    (found : loops.find? (name · = id) = some loop) :
    (id, ticker loop) ∈ clocks name ticker loops := by
  have same : name loop = id := by simpa using List.find?_some found
  exact List.mem_map.mpr ⟨loop, List.mem_of_find?_eq_some found, by rw [same]⟩

/-- The clocks after a loop has been replaced. -/
theorem mem_clocks_replace {loops : List α} {after : α} {id : Nat} {clock : Nat × Ticker}
    (same : name after = id)
    (member : clock ∈ clocks name ticker (loops.map fun l => if name l = id then after else l)) :
    clock = (id, ticker after) ∨ (clock.1 ≠ id ∧ clock ∈ clocks name ticker loops) := by
  obtain ⟨l, replaced, rfl⟩ := List.mem_map.mp member
  obtain ⟨old, old_mem, rfl⟩ := List.mem_map.mp replaced
  split
  · exact Or.inl (by rw [same])
  · rename_i apart
    exact Or.inr ⟨apart, List.mem_map.mpr ⟨old, old_mem, rfl⟩⟩

/-- A loop that is replaced keeps its name. -/
theorem exists_mem_clocks {loops : List α} {loop after : α} {id : Nat} {clock : Nat × Ticker}
    (same : name after = id) (found : loops.find? (name · = id) = some loop)
    (member : clock ∈ clocks name ticker (loops.map fun l => if name l = id then after else l)) :
    ∃ t, (clock.1, t) ∈ clocks name ticker loops := by
  rcases mem_clocks_replace same member with rfl | ⟨-, kept⟩
  · exact ⟨ticker loop, mem_clocks_of_find? found⟩
  · exact ⟨clock.2, kept⟩

end

namespace Pace

variable {id period began rounds now : Nat} {loops loops' : List (Nat × Ticker)}

/-- A loop begins with a new ticker, and no other loop has its name. -/
theorem begins (positive : 0 < period) (new : ∀ t, (id, t) ∉ loops) :
    Pace id period now 0 now (loops ++ [(id, create period now)]) where
  paced := by
    intro t member
    rcases List.mem_append.mp member with old | last
    · exact absurd old (new t)
    · obtain rfl : t = create period now := by simpa using last
      exact paced_create positive now
  bounded := Or.inl rfl

/-- Time goes on, and other loops come, go and run. -/
theorem mono (h : Pace id period began rounds now loops) {now' : Nat} (later : now ≤ now')
    (kept : ∀ t, (id, t) ∈ loops' → (id, t) ∈ loops) :
    Pace id period began rounds now' loops' where
  paced := fun t member => h.paced t (kept t member)
  bounded := h.bounded.imp_right fun behind => by omega

/-- A loop that is looked up takes some ticks and runs its body for each of them, and no other
loop does. -/
theorem replace {α : Type} {name : α → Nat} {ticker : α → Ticker} {xs : List α} {loop after : α}
    {other count : Nat} (same : name after = other)
    (found : xs.find? (name · = other) = some loop)
    (ticks : (ticker loop).Takes now count (ticker after))
    (h : Pace id period began rounds now (clocks name ticker xs)) :
    Pace id period began (rounds + if id = other then count else 0) now
      (clocks name ticker (xs.map fun l => if name l = other then after else l)) := by
  by_cases own : id = other
  · subst own
    obtain ⟨paced, bounded⟩ := ticks period began rounds (h.paced _ (mem_clocks_of_find? found))
    rw [if_pos rfl]
    refine ⟨fun t member => ?_, ?_⟩
    · rcases mem_clocks_replace same member with moved | ⟨apart, -⟩
      · obtain rfl : t = ticker after := congrArg Prod.snd moved
        exact paced
      · exact absurd rfl apart
    · rcases bounded with rfl | behind
      · exact h.bounded
      · exact Or.inr behind
  · rw [if_neg own]
    refine h.mono (Nat.le_refl now) fun t member => ?_
    rcases mem_clocks_replace same member with moved | ⟨-, kept⟩
    · exact absurd (congrArg Prod.fst moved) own
    · exact kept

/-- The bound that the grid sets. -/
theorem le (h : Pace id period began rounds now loops) (positive : 0 < period) :
    rounds ≤ (now - began) / period + 1 := by
  rcases h.bounded with rfl | behind
  · exact Nat.zero_le _
  · by_contra more
    have far := Nat.mul_le_mul_right period (Nat.not_le.mp more)
    have beyond := Nat.lt_div_mul_add (a := now - began) positive
    rw [Nat.succ_mul, Nat.succ_mul] at far
    omega

end Pace

end StreamLoad.Ticker
