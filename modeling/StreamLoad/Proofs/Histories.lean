import Mathlib.Data.List.Induction

/-! # Operations and their answers

A state on which operations are carried out one after another, each of which answers something:
`step` says what an operation makes of a state and what it answers. `carryOut` is the state after
some operations, and `answered` their history. What a history says about an operation is the answer
it got in the state after those before it, so that one that is never given once it has been given
is given once at most (`countP_answered_le_one`). Where an operation may answer nothing, or several
things, `answers` strings together what all of them answer.
-/

set_option autoImplicit false

namespace StreamLoad

variable {σ α β : Type} (step : σ → α → σ × β)

/-- The state after some operations. -/
def carryOut (s : σ) (ops : List α) : σ := ops.foldl (fun s op => (step s op).1) s

/-- The operations, each with its answer. -/
def answered (s : σ) : List α → List (α × β)
  | [] => []
  | op :: ops => (op, (step s op).2) :: answered (step s op).1 ops

theorem carryOut_concat (s : σ) (ops : List α) (op : α) :
    carryOut step s (ops ++ [op]) = (step (carryOut step s ops) op).1 := by
  simp [carryOut]

theorem answered_concat (s : σ) (ops : List α) (op : α) :
    answered step s (ops ++ [op])
      = answered step s ops ++ [(op, (step (carryOut step s ops) op).2)] := by
  induction ops generalizing s with
  | nil => rfl
  | cons first ops ih =>
      rw [List.cons_append, answered, ih]
      rfl

/-- An entry is an operation of the run, with the answer to it after those before it. -/
theorem exists_of_mem_answered {s : σ} {ops : List α} {e : α × β} (h : e ∈ answered step s ops) :
    ∃ before after, ops = before ++ e.1 :: after
      ∧ e.2 = (step (carryOut step s before) e.1).2 := by
  induction ops using List.reverseRecOn with
  | nil => cases h
  | append_singleton ops op ih =>
      rw [answered_concat, List.mem_append, List.mem_singleton] at h
      rcases h with earlier | rfl
      · obtain ⟨before, after, rfl, answer⟩ := ih earlier
        exact ⟨before, after ++ [op], by simp, answer⟩
      · exact ⟨ops, [], rfl, rfl⟩

/-- Entries of a kind are one at most, if there is none after there has been one. -/
theorem countP_answered_le_one {s : σ} {kind : α × β → Bool}
    (bars : ∀ before op, (∃ e ∈ answered step s before, kind e = true) →
      kind (op, (step (carryOut step s before) op).2) = false) (ops : List α) :
    (answered step s ops).countP kind ≤ 1 := by
  induction ops using List.reverseRecOn with
  | nil => exact Nat.zero_le 1
  | append_singleton ops op ih =>
      rw [answered_concat, List.countP_append, List.countP_singleton]
      -- Either the last entry is barred, or it is the first of its kind.
      by_cases before : ∃ e ∈ answered step s ops, kind e = true
      · rw [bars ops op before]
        simpa using ih
      · have none : (answered step s ops).countP kind = 0 :=
          List.countP_eq_zero.mpr fun e he given => before ⟨e, he, given⟩
        rw [none]
        split <;> omega

/-! ## Answers strung together

An operation may answer nothing, or several things at once. Then its place in the history matters
less than what has been answered so far, in which the boundaries of the operations are forgotten. -/

section Answers

variable {γ : Type} (next : σ → α → σ) (answer : σ → α → List γ)

/-- All that the operations of a run answer, one after another. -/
def answers (s : σ) (ops : List α) : List γ :=
  (answered (fun s op => (next s op, answer s op)) s ops).flatMap (·.2)

@[simp] theorem answers_nil (s : σ) : answers next answer s [] = [] := rfl

theorem answers_cons (s : σ) (op : α) (ops : List α) :
    answers next answer s (op :: ops) = answer s op ++ answers next answer (next s op) ops := rfl

theorem answers_append (s : σ) (ops later : List α) :
    answers next answer s (ops ++ later)
      = answers next answer s ops ++ answers next answer (ops.foldl next s) later := by
  induction ops generalizing s with
  | nil => rfl
  | cons op ops ih => rw [List.cons_append, answers_cons, ih, answers_cons, List.append_assoc,
      List.foldl_cons]

theorem answers_concat (s : σ) (ops : List α) (op : α) :
    answers next answer s (ops ++ [op])
      = answers next answer s ops ++ answer (ops.foldl next s) op := by
  rw [answers_append, answers_cons, answers_nil, List.append_nil]

end Answers

end StreamLoad
