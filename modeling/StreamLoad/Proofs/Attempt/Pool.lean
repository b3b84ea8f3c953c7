import StreamLoad.Attempt.Pool

/-! # Pools of subscribers

What a step of one member makes of a pool. It touches no other member (`Moves`, `advance_cases`),
and the pool has one member less in the state that was left and one more in the state that was
entered (`count_set_add`); every member is in one state (`sum_count`).
-/

set_option autoImplicit false

namespace StreamLoad.Pool

variable {p p' p'' : Pool} {id : Nat}

/-! ## One member -/

/-- One member at most goes on, and only if it was pending. -/
structure Moves (id : Nat) (p p' : Pool) : Prop where
  others : ∀ other, other ≠ id → p'.state? other = p.state? other
  resolved : p.state? id ≠ some .pending → p'.state? id = p.state? id

theorem Moves.refl (id : Nat) (p : Pool) : Moves id p p := ⟨fun _ _ => rfl, fun _ => rfl⟩

theorem Moves.trans (first : Moves id p p') (second : Moves id p' p'') : Moves id p p'' where
  others other apart := (second.others other apart).trans (first.others other apart)
  resolved done := by
    have same := first.resolved done
    exact (second.resolved (same ▸ done)).trans same

/-- The pool with one member in another state. -/
def set (p : Pool) (id : Nat) (state : AttemptState) : Pool := { states := p.states.set id state }

@[simp] theorem size_set (p : Pool) (id : Nat) (state : AttemptState) :
    (p.set id state).size = p.size := List.length_set

theorem state?_set_of_ne (p : Pool) {other : Nat} (apart : other ≠ id) (state : AttemptState) :
    (p.set id state).state? other = p.state? other :=
  List.getElem?_set_ne apart.symm

theorem state?_set_self {before : AttemptState} (known : p.state? id = some before)
    (state : AttemptState) : (p.set id state).state? id = some state :=
  List.getElem?_set_self (List.getElem?_eq_some_iff.mp known).1

theorem moves_set (waits : p.state? id = some .pending) (state : AttemptState) :
    Moves id p (p.set id state) :=
  ⟨fun _ apart => state?_set_of_ne p apart state, fun done => absurd waits done⟩

/-- A member moves if it is one and may go on as asked, and else nothing is done. -/
theorem advance_cases (p : Pool) (id : Nat) (next : AttemptState) :
    (∃ before, p.state? id = some before ∧ before.canBecome next = true
        ∧ p.advance id next = (p.set id next, true))
    ∨ ((∀ before, p.state? id = some before → before.canBecome next = false)
        ∧ p.advance id next = (p, false)) := by
  cases found : p.state? id with
  | none => exact Or.inr ⟨nofun, by simp [advance, found]⟩
  | some before =>
      cases allowed : before.canBecome next with
      | true =>
          refine Or.inl ⟨before, rfl, allowed, ?_⟩
          simp [advance, found, AttemptState.advance?, allowed, set]
      | false =>
          refine Or.inr ⟨fun other same => ?_, ?_⟩
          · rwa [← Option.some_inj.mp same]
          · simp [advance, found, AttemptState.advance?, allowed]

/-! ## How many members are in a state

A pool keeps no counts. They are taken over its list of states, where one member changes its place
at a time, so that each change is one less in one state and one more in another. -/

/-- A member counts for the state that it enters, and no longer for the one that it leaves. -/
theorem count_set_add {before : AttemptState} (known : p.state? id = some before)
    (next state : AttemptState) :
    (p.set id next).count state + (if before = state then 1 else 0)
      = p.count state + if next = state then 1 else 0 := by
  obtain ⟨bound, value⟩ := List.getElem?_eq_some_iff.mp known
  have counted : before = state → 1 ≤ p.states.countP (· = state) := fun same =>
    List.countP_pos_iff.mpr ⟨_, List.getElem_mem bound, by simpa [value] using same⟩
  simp only [count, set, List.countP_set bound, value, decide_eq_true_eq]
  by_cases left : before = state
  · have := counted left
    rw [if_pos left]
    omega
  · rw [if_neg left]
    omega

/-- A member that is no longer pending counts as what it has become. -/
theorem count_set (waits : p.state? id = some .pending) (next : AttemptState)
    {state : AttemptState} (other : state ≠ .pending) :
    (p.set id next).count state = p.count state + if next = state then 1 else 0 := by
  simpa [other.symm] using count_set_add waits next state

/-- A pool is complete exactly if every member is connected. -/
theorem count_eq_size_iff (p : Pool) (state : AttemptState) :
    p.count state = p.size ↔ ∀ id, id < p.size → p.state? id = some state := by
  rw [count, size, List.countP_eq_length]
  constructor
  · intro all id bound
    rw [state?, List.getElem?_eq_getElem bound]
    exact congrArg some (by simpa using all _ (List.getElem_mem bound))
  · intro all member hm
    obtain ⟨id, bound, rfl⟩ := List.getElem_of_mem hm
    have known := all id bound
    rw [state?, List.getElem?_eq_getElem bound] at known
    simpa using known

/-- Nobody counts exactly if no member is in the state. -/
theorem count_eq_zero_iff (p : Pool) (state : AttemptState) :
    p.count state = 0 ↔ ∀ id, p.state? id ≠ some state := by
  rw [count, List.countP_eq_zero]
  constructor
  · intro none id known
    exact none state (List.mem_of_getElem? known) (decide_eq_true rfl)
  · intro absent member hm counts
    obtain ⟨id, bound, rfl⟩ := List.getElem_of_mem hm
    refine absent id ?_
    rw [state?, List.getElem?_eq_getElem bound]
    exact congrArg some (of_decide_eq_true counts)

/-- Every member is in one state. -/
theorem sum_count (p : Pool) :
    p.count .pending + p.count .connected + p.count .aborted + p.count .failed = p.size := by
  obtain ⟨states⟩ := p
  simp only [count, size]
  induction states with
  | nil => rfl
  | cons state states ih =>
      simp only [List.countP_cons, List.length_cons]
      cases state <;> simp <;> omega

/-- No member counts as connected and as failed. -/
theorem count_add_count_le (p : Pool) {one other : AttemptState} (apart : one ≠ other) :
    p.count one + p.count other ≤ p.size := by
  have rest : p.states.countP (· = other) ≤ p.states.countP fun state => decide ¬ (state = one) :=
    List.countP_mono_left fun state _ hs => by
      have same : state = other := by simpa using hs
      simpa [same] using apart.symm
  have whole := List.length_eq_countP_add_countP (fun state => decide (state = one))
    (l := p.states)
  simp only [decide_eq_true_eq] at whole
  simp only [count, size]
  omega

/-! ## Whoever has gone on -/

/-- Whoever is no longer pending stays as it is. -/
def Lasts (p p' : Pool) : Prop :=
  ∀ id state, p.state? id = some state → state ≠ .pending → p'.state? id = some state

theorem Lasts.refl (p : Pool) : Lasts p p := fun _ _ known _ => known

theorem Lasts.trans (first : Lasts p p') (second : Lasts p' p'') : Lasts p p'' :=
  fun id state known done => second id state (first id state known done) done

theorem Moves.lasts (h : Moves id p p') : Lasts p p' := by
  intro other state known done
  by_cases mine : other = id
  · subst mine
    rw [h.resolved (by rw [known]; simpa using done)]
    exact known
  · rw [h.others other mine]
    exact known

end StreamLoad.Pool
