import StreamLoad.Proofs.Churn.Performed

/-! # The balance of a churn session

Every attempt ever opened is under way, aborted or failed, and is so once (`Kept.partition`);
the counters follow from how the attempts have ended. The attempts not failed stay below the sum
of the goal and the limit, since no attempt is opened once the goal is reached. An attempt that
has left the registry does not come back, so it changes the counters once at most
(`Kept.share_le_one`). The main result is `attempts_balanced`.
-/

set_option autoImplicit false

namespace StreamLoad.ChurnLedger

/-- The number of attempts that ended in a state. -/
def countEnded (state : AttemptState) (ended : List Attempt) : Nat :=
  ended.countP (·.state = state)

/-- The ordinals of the attempts that ended in a state. -/
def idsEnded (state : AttemptState) (ended : List Attempt) : List Nat :=
  (ended.filter (·.state = state)).map (·.id)

theorem countEnded_append (state : AttemptState) (ended later : List Attempt) :
    countEnded state (ended ++ later) = countEnded state ended + countEnded state later :=
  List.countP_append

/-! ## What every run keeps

The balance is kept because an attempt only ever moves from those under way to those that have
ended, and is counted as it does. The drops alone need care: an attempt that is greeted after the
goal is reached is aborted but not counted, so the drops are the smaller of the goal and the
aborted. -/

/-- What every legal run keeps, with the attempts that it has ended. -/
structure Kept (goal maxInFlight : Nat) (l : ChurnLedger) (ended : List Attempt) : Prop where
  goal_eq : l.counters.goal = goal
  maxInFlight_eq : l.maxInFlight = maxInFlight
  orderly : l.registry.Orderly
  /-- Every attempt ever opened is under way or has ended, and has done so once. -/
  partition : (l.registry.ids ++ ended.map (·.id)).Perm (List.range l.registry.opened)
  states : ∀ a ∈ ended, a.state = .aborted ∨ a.state = .failed
  failed_eq : l.counters.failed = countEnded .failed ended
  dropped_eq : l.counters.dropped = min goal (countEnded .aborted ended)
  inFlight_le : l.registry.inFlight ≤ maxInFlight
  /-- The attempts that have not failed stay below the sum of the goal and the limit. -/
  outstanding : 0 < goal → 0 < maxInFlight →
    l.registry.inFlight + countEnded .aborted ended < goal + maxInFlight

theorem kept_empty (goal maxInFlight : Nat) :
    Kept goal maxInFlight (empty goal maxInFlight) [] where
  goal_eq := rfl
  maxInFlight_eq := rfl
  orderly := Registry.orderly_empty
  partition := List.Perm.refl _
  states := by simp
  failed_eq := rfl
  dropped_eq := (Nat.min_zero goal).symm
  inFlight_le := Nat.zero_le _
  outstanding := fun hg _ => Nat.lt_of_lt_of_le hg (Nat.le_add_right _ _)

namespace Kept

variable {goal maxInFlight : Nat} {l : ChurnLedger} {ended : List Attempt}

/-- The invariant speaks of the registry, the counters and the limit only. -/
theorem congr {l' : ChurnLedger} (h : Kept goal maxInFlight l ended)
    (registry : l'.registry = l.registry) (goal' : l'.counters.goal = l.counters.goal)
    (dropped : l'.counters.dropped = l.counters.dropped)
    (failed : l'.counters.failed = l.counters.failed)
    (limit : l'.maxInFlight = l.maxInFlight) : Kept goal maxInFlight l' ended where
  goal_eq := goal'.trans h.goal_eq
  maxInFlight_eq := limit.trans h.maxInFlight_eq
  orderly := registry ▸ h.orderly
  partition := registry ▸ h.partition
  states := h.states
  failed_eq := failed.trans h.failed_eq
  dropped_eq := dropped.trans h.dropped_eq
  inFlight_le := registry ▸ h.inFlight_le
  outstanding := registry ▸ h.outstanding

/-- Attempts are aborted or failed. -/
theorem length_ended (h : Kept goal maxInFlight l ended) :
    ended.length = countEnded .aborted ended + countEnded .failed ended := by
  have states := h.states
  clear h
  induction ended with
  | nil => rfl
  | cons a ended ih =>
      have rest := ih fun b hb => states b (List.mem_cons_of_mem a hb)
      simp only [countEnded, List.countP_cons, List.length_cons] at rest ⊢
      rcases states a List.mem_cons_self with ha | ha <;> simp [ha] <;> omega

/-- The attempts opened are those under way, the aborted and the failed. -/
theorem opened_eq (h : Kept goal maxInFlight l ended) :
    l.registry.opened
      = l.registry.inFlight + l.counters.failed + countEnded .aborted ended := by
  have total := h.partition.length_eq
  rw [List.length_append, Registry.length_ids, List.length_map, List.length_range,
    h.length_ended] at total
  rw [h.failed_eq]
  omega

/-- A tick that opens an attempt. -/
theorem opening (h : Kept goal maxInFlight l ended) {l' : ChurnLedger} {now : Nat}
    (short : l.counters.dropped < l.counters.goal) (room : l.registry.inFlight < l.maxInFlight)
    (registry : l'.registry = (l.registry.openNew now).1) (counters : l'.counters = l.counters)
    (limit : l'.maxInFlight = l.maxInFlight) : Kept goal maxInFlight l' ended := by
  have inFlight : l'.registry.inFlight = l.registry.inFlight + 1 := by rw [registry]; rfl
  have ids : l'.registry.ids = l.registry.opened :: l.registry.ids := by rw [registry]; rfl
  have opened : l'.registry.opened = l.registry.opened + 1 := by rw [registry]; rfl
  rw [h.goal_eq] at short
  rw [h.maxInFlight_eq] at room
  refine ⟨?_, limit.trans h.maxInFlight_eq, registry ▸ h.orderly.openNew now, ?_, h.states, ?_, ?_,
    ?_, ?_⟩
  · rw [counters, h.goal_eq]
  · -- The ordinals issued are those from before and the next one, which is now under way.
    rw [ids, opened, List.range_succ, List.cons_append]
    refine (List.perm_append_singleton l.registry.opened _).symm.trans ?_
    exact h.partition.append_right _
  · rw [counters, h.failed_eq]
  · rw [counters, h.dropped_eq]
  · omega
  · intro _ _
    -- The goal is not reached, so fewer attempts than the goal have been aborted.
    have few := h.dropped_eq
    omega

/-- An attempt under way ends. -/
theorem finish (h : Kept goal maxInFlight l ended) {id : Nat} (underWay : id ∈ l.registry.ids)
    (now timeout : Nat) (ending : Ending) :
    Kept goal maxInFlight (l.finish id now timeout ending).1
      (ended ++ (l.leaver? (.finish id now timeout ending)).toList) := by
  obtain ⟨⟨a, -, same, left⟩, counters⟩ := finish_underWay h.orderly underWay now timeout ending
  have registry := registry_finish l id now timeout ending
  have inFlight := h.orderly.inFlight_erase underWay
  rw [← registry] at inFlight
  have aborted := countEnded_append .aborted ended [{ a with state := ending.state }]
  have failed := countEnded_append .failed ended [{ a with state := ending.state }]
  have few := h.inFlight_le
  have dropped := h.dropped_eq
  have goal_eq := h.goal_eq
  rw [left, Option.toList_some]
  refine ⟨?_, (maxInFlight_finish l id now timeout ending).trans h.maxInFlight_eq,
    registry ▸ h.orderly.erase id, ?_, ?_, ?_, ?_, by omega, ?_⟩
  · rw [counters, ← goal_eq]
    cases ending with
    | greeted => exact l.counters.goal_recordDrop
    | failed failure => rfl
    | timedOut => rfl
  · -- The attempt moves from those under way to those that have ended.
    rw [registry, List.map_append, ← List.append_assoc]
    refine (List.perm_append_singleton a.id _).trans ?_
    rw [same, ← List.cons_append]
    exact ((h.orderly.perm_erase underWay).append_right _).trans h.partition
  · intro b hb
    rcases List.mem_append.mp hb with old | new
    · exact h.states b old
    · rw [List.mem_singleton.mp new]
      cases ending with
      | greeted => exact Or.inl rfl
      | failed failure => exact Or.inr rfl
      | timedOut => exact Or.inr rfl
  · rw [counters, failed, ← h.failed_eq]
    cases ending with
    | greeted => exact l.counters.failed_recordDrop
    | failed failure => rfl
    | timedOut => rfl
  · rw [counters, aborted]
    cases ending with
    | greeted =>
        have one : countEnded .aborted [{ a with state := Ending.greeted.state }] = 1 := rfl
        rw [one, Ending.count, Counters.dropped_recordDrop, goal_eq]
        split <;> omega
    | failed failure => exact dropped
    | timedOut => exact dropped
  · intro hg hm
    -- The attempt leaves those under way and joins the aborted at most.
    have bound := h.outstanding hg hm
    have one : countEnded .aborted [{ a with state := ending.state }] ≤ 1 := List.countP_le_length
    omega

/-- One possible operation keeps the balance. -/
theorem apply (h : Kept goal maxInFlight l ended) {op : Operation} (possible : op.Possible l) :
    Kept goal maxInFlight (l.apply op) (ended ++ (l.leaver? op).toList) := by
  cases op with
  | tick now =>
      rw [leaver?, Option.toList_none, List.append_nil]
      rcases l.tick_cases now with ⟨-, same, -⟩ | ⟨-, -, same, -⟩
        | ⟨short, room, registry, counters, limit, -⟩
      · rw [ChurnLedger.apply, same]
        exact h.congr rfl rfl rfl rfl rfl
      · rw [ChurnLedger.apply, same]
        exact h
      · exact h.opening short room registry counters limit
  | finish id now timeout ending => exact h.finish (possible id rfl) now timeout ending
  | probed verdict =>
      rw [leaver?, Option.toList_none, List.append_nil]
      exact h.congr rfl rfl rfl rfl rfl

/-- Every legal run keeps the balance. -/
theorem run (h : Kept goal maxInFlight l ended) {ops : List Operation} (legal : l.Legal ops) :
    Kept goal maxInFlight (l.run ops) (ended ++ l.ended ops) := by
  induction ops generalizing l ended with
  | nil => simpa [ChurnLedger.ended] using h
  | cons op ops ih =>
      have step := ih (h.apply legal.1) legal.2
      rwa [List.append_assoc] at step

end Kept

/-! ## What one attempt changes in the counters

`share` adds up what the operations on one attempt change. Nothing but an ending is counted, and an
attempt that has left the registry has no second ending, so one summand at most is not zero. -/

/-- By how much the drops and the failures differ from one count to another. -/
def change (c c' : Counters) : Nat :=
  ((c'.dropped : Int) - c.dropped).natAbs + ((c'.failed : Int) - c.failed).natAbs

/-- By how much one attempt changes the drops and the failures in the course of some operations. -/
def share (id : Nat) (l : ChurnLedger) : List Operation → Nat
  | [] => 0
  | op :: ops =>
      (if op.attempt? = some id then change l.counters (l.apply op).counters else 0)
        + share id (l.apply op) ops

/-- Nothing but the end of an attempt is counted as a drop or a failure. -/
theorem counters_apply_of_none (l : ChurnLedger) {op : Operation} (none : op.attempt? = none) :
    (l.apply op).counters.dropped = l.counters.dropped
    ∧ (l.apply op).counters.failed = l.counters.failed := by
  cases op with
  | tick now =>
      rcases l.tick_cases now with ⟨-, same, -⟩ | ⟨-, -, same, -⟩ | ⟨-, -, -, counters, -, -⟩
      · rw [apply, same]
        exact ⟨rfl, rfl⟩
      · rw [apply, same]
        exact ⟨rfl, rfl⟩
      · rw [apply, counters]
        exact ⟨rfl, rfl⟩
  | finish id now timeout ending => cases none
  | probed verdict => exact ⟨rfl, rfl⟩

/-- The end of an attempt is counted as one drop or one failure, or not at all. -/
theorem change_count_le_one (c : Counters) (ending : Ending) : change c (ending.count c) ≤ 1 := by
  unfold change
  cases ending with
  | greeted =>
      have dropped := c.dropped_recordDrop
      rw [Ending.count, c.failed_recordDrop, dropped]
      split <;> omega
  | failed failure =>
      simp only [Ending.count, Counters.recordFailure]
      omega
  | timedOut =>
      simp only [Ending.count, Counters.recordFailure]
      omega

/-- An attempt that has left the registry does not come back. -/
theorem gone_apply {l : ChurnLedger} {id : Nat} (issued : id < l.registry.opened)
    (gone : id ∉ l.registry.ids) (op : Operation) :
    id < (l.apply op).registry.opened ∧ id ∉ (l.apply op).registry.ids := by
  obtain ⟨grows, keeps⟩ := l.attempts_apply op
  refine ⟨Nat.lt_of_lt_of_le issued grows, fun back => ?_⟩
  obtain ⟨a, ha, rfl⟩ := List.mem_map.mp back
  exact gone (List.mem_map_of_mem (keeps a ha issued))

/-- An attempt that has left the registry changes nothing any more. -/
theorem share_of_gone {l : ChurnLedger} {id : Nat} {ops : List Operation}
    (issued : id < l.registry.opened) (gone : id ∉ l.registry.ids) (legal : l.Legal ops) :
    share id l ops = 0 := by
  induction ops generalizing l with
  | nil => rfl
  | cons op ops ih =>
      have other : op.attempt? ≠ some id := fun same => gone (legal.1 id same)
      obtain ⟨issued', gone'⟩ := gone_apply issued gone op
      rw [share, if_neg other, ih issued' gone' legal.2]

namespace Kept

variable {goal maxInFlight : Nat} {l : ChurnLedger} {ended : List Attempt}

/-- **An attempt changes the counters by one at most**, for it ends once at most. -/
theorem share_le_one (h : Kept goal maxInFlight l ended) {ops : List Operation}
    (legal : l.Legal ops) (id : Nat) : share id l ops ≤ 1 := by
  induction ops generalizing l ended with
  | nil => exact Nat.zero_le 1
  | cons op ops ih =>
      obtain ⟨possible, rest⟩ := legal
      rw [share]
      by_cases ends : op.attempt? = some id
      · -- It ends now: it is counted as the ending says, and then it is gone.
        have underWay := possible id ends
        rw [if_pos ends]
        cases op with
        | finish other now timeout ending =>
            obtain rfl : other = id := Option.some.inj ends
            have counters := (finish_underWay h.orderly underWay now timeout ending).2
            have registry := registry_finish l other now timeout ending
            have issued : other < (l.apply (.finish other now timeout ending)).registry.opened := by
              rw [ChurnLedger.apply, registry]
              exact h.orderly.lt_opened underWay
            have gone : other ∉ (l.apply (.finish other now timeout ending)).registry.ids := by
              rw [ChurnLedger.apply, registry, Registry.ids_erase]
              simp
            have once : change l.counters
                (l.apply (.finish other now timeout ending)).counters ≤ 1 := by
              rw [ChurnLedger.apply, counters]
              exact change_count_le_one l.counters ending
            rw [share_of_gone issued gone rest]
            omega
        | tick now => cases ends
        | probed verdict => cases ends
      · -- Another attempt ends, or none does.
        have later := ih (h.apply possible) rest
        rw [if_neg ends]
        omega

end Kept

/-! ## The balance -/

/-- What a ledger with a goal and a limit balances, given the attempts that have ended. -/
structure Balanced (goal maxInFlight : Nat) (l : ChurnLedger) (ended : List Attempt) : Prop where
  /-- The attempts opened are those under way, the failed and the aborted. -/
  opened_eq : l.registry.opened
    = l.registry.inFlight + l.counters.failed + countEnded .aborted ended
  /-- The aborted count as drops up to the goal. -/
  dropped_eq : l.counters.dropped = min goal (countEnded .aborted ended)
  inFlight_le : l.registry.inFlight ≤ maxInFlight
  /-- Each ordinal issued belongs to one attempt: under way, aborted or failed. -/
  partition : (l.registry.ids ++ idsEnded .aborted ended ++ idsEnded .failed ended).Perm
    (List.range l.registry.opened)
  /-- Once the goal is reached, an attempt that is greeted is aborted and not counted. -/
  late : l.counters.dropped = goal → ∀ id ∈ l.registry.ids, ∀ now timeout : Nat,
    (∃ a : Attempt, l.leaver? (.finish id now timeout .greeted) = some a
      ∧ a.id = id ∧ a.state = .aborted)
    ∧ (l.apply (.finish id now timeout .greeted)).counters = l.counters
  /-- Nothing but the end of an attempt is counted. -/
  steady : ∀ op : Operation, op.attempt? = none →
    (l.apply op).counters.dropped = l.counters.dropped
    ∧ (l.apply op).counters.failed = l.counters.failed

/-- The attempts that have ended are the aborted and the failed. -/
theorem idsEnded_perm {ended : List Attempt}
    (states : ∀ a ∈ ended, a.state = .aborted ∨ a.state = .failed) :
    (idsEnded .aborted ended ++ idsEnded .failed ended).Perm (ended.map (·.id)) := by
  have others : ended.filter (fun a => !decide (a.state = .aborted))
      = ended.filter (·.state = .failed) := by
    refine List.filter_congr fun a ha => ?_
    rcases states a ha with state | state <;> simp [state]
  have split := List.filter_append_perm (fun a : Attempt => decide (a.state = .aborted)) ended
  rw [others] at split
  simpa [idsEnded] using split.map (·.id)

theorem Kept.balanced {goal maxInFlight : Nat} {l : ChurnLedger} {ended : List Attempt}
    (h : Kept goal maxInFlight l ended) : Balanced goal maxInFlight l ended where
  opened_eq := h.opened_eq
  dropped_eq := h.dropped_eq
  inFlight_le := h.inFlight_le
  partition := by
    rw [List.append_assoc]
    exact ((idsEnded_perm h.states).append_left _).trans h.partition
  late := by
    intro reached id underWay now timeout
    obtain ⟨⟨a, -, same, left⟩, counters⟩ :=
      finish_underWay h.orderly underWay now timeout .greeted
    refine ⟨⟨_, left, same, rfl⟩, counters.trans ?_⟩
    have full : ¬ l.counters.dropped < l.counters.goal := by
      rw [h.goal_eq, reached]
      exact Nat.lt_irrefl goal
    rw [Ending.count, Counters.recordDrop, if_neg full]
  steady := fun _ none => l.counters_apply_of_none none

theorem balanced_run {goal maxInFlight : Nat} {ops : List Operation}
    (legal : (empty goal maxInFlight).Legal ops) :
    Balanced goal maxInFlight ((empty goal maxInFlight).run ops)
      ((empty goal maxInFlight).ended ops) := by
  have kept := (kept_empty goal maxInFlight).run legal
  rw [List.nil_append] at kept
  exact kept.balanced

/-- **The balance of a churn session.** Whatever order ticks, greetings, failures and timeouts
come in, the attempts opened are those under way, the failed and the aborted; the drops are the
aborted up to the goal; no more attempts are under way than the limit allows; and an attempt
changes the drops or the failures by one over its whole life at most. The steps of a session
perform such operations on its ledger and do nothing else to it. -/
theorem attempts_balanced :
    (∀ (goal maxInFlight : Nat) (ops : List Operation), (empty goal maxInFlight).Legal ops →
      Balanced goal maxInFlight ((empty goal maxInFlight).run ops)
        ((empty goal maxInFlight).ended ops)
      ∧ ∀ id, share id (empty goal maxInFlight) ops ≤ 1)
    ∧ ∀ (settings : ChurnSettings) (probing : ProbeSettings) (goal : Nat) (client : Client)
        (server : Server) (steps : List Churn.Session.Step),
        ∃ ops, (Churn.Session.start settings probing goal client server).Performs steps ops
          ∧ (empty goal settings.maxInFlight).Legal ops
          ∧ ((Churn.Session.start settings probing goal client server).run steps).ledger
            = (empty goal settings.maxInFlight).run ops
          ∧ Balanced goal settings.maxInFlight
            ((Churn.Session.start settings probing goal client server).run steps).ledger
            ((empty goal settings.maxInFlight).ended ops) := by
  refine ⟨fun goal maxInFlight ops legal => ?_, fun settings probing goal client server steps => ?_⟩
  · exact ⟨balanced_run legal, (kept_empty goal maxInFlight).share_le_one legal⟩
  · obtain ⟨ops, performs⟩ := Churn.Session.exists_performs
      (Churn.Session.start settings probing goal client server) steps
    obtain ⟨legal, ledger, -⟩ := performs.legal
      (Churn.Session.matched_start settings probing goal client server)
    refine ⟨ops, performs, legal, ledger, ?_⟩
    rw [ledger]
    exact balanced_run legal

/-- Two attempts are greeted, and the second one when the goal of one drop is reached. -/
def lateGreeting : List Operation :=
  [.tick 0, .tick 0, .finish 1 3 9 .greeted, .tick 4, .finish 0 5 9 .greeted]

theorem attempts_balanced_late :
    (empty 1 2).Legal lateGreeting
    ∧ Balanced 1 2 ((empty 1 2).run lateGreeting) ((empty 1 2).ended lateGreeting)
    ∧ ∀ id, share id (empty 1 2) lateGreeting ≤ 1 :=
  ⟨by decide, attempts_balanced.1 1 2 lateGreeting (by decide)⟩

end StreamLoad.ChurnLedger
