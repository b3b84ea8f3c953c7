import Mathlib.Data.List.Nodup
import Mathlib.Data.List.TakeDrop
import Mathlib.Data.List.TakeWhile

/-! # Lists

Facts about lists that are taken apart at a separator, as streams, names and addresses are, and
about lists in which the entries of several keys are interleaved.
-/

set_option autoImplicit false

namespace StreamLoad

variable {α β : Type}

/-- A list that holds an element holds a last one. -/
theorem exists_last_of_mem {a : α} {xs : List α} (h : a ∈ xs) :
    ∃ front rest, xs = front ++ a :: rest ∧ a ∉ rest := by
  obtain ⟨rest, front, split, last⟩ := List.eq_append_cons_of_mem (List.mem_reverse.mpr h)
  refine ⟨front.reverse, rest.reverse, ?_, by simpa using last⟩
  have := congrArg List.reverse split
  simpa using this

/-- An element of a list with one more at its end is the last one, or stands before it. -/
theorem concat_eq_append_cons {a last : α} {xs front rest : List α} :
    xs ++ [last] = front ++ a :: rest
      ↔ (last = a ∧ xs = front ∧ rest = [])
        ∨ ∃ ys, rest = ys ++ [last] ∧ xs = front ++ a :: ys := by
  constructor
  · intro split
    rcases List.eq_nil_or_concat' rest with rfl | ⟨ys, y, rfl⟩
    · obtain ⟨same, ends⟩ := List.append_inj' split rfl
      exact Or.inl ⟨List.head_eq_of_cons_eq ends, same, rfl⟩
    · rw [← List.cons_append, ← List.append_assoc] at split
      obtain ⟨same, ends⟩ := List.append_inj' split rfl
      exact Or.inr ⟨ys, by rw [List.head_eq_of_cons_eq ends], same⟩
  · rintro (⟨rfl, rfl, rfl⟩ | ⟨ys, rfl, rfl⟩)
    · rfl
    · rw [List.append_assoc, List.cons_append]

/-- What stands after the last separator is the same, however the list is put together. -/
theorem eq_of_append_cons_eq [DecidableEq α] {a : α} {front other xs ys : List α}
    (h : front ++ a :: xs = other ++ a :: ys) (hx : a ∉ xs) (hy : a ∉ ys) : xs = ys := by
  have := congrArg (fun list => (list.splitOn a).getLast?) h
  simpa [List.splitOn_append_cons_self, List.splitOn_eq_singleton hx,
    List.splitOn_eq_singleton hy] using this

/-- The pieces of a list are made of its elements. -/
theorem mem_of_mem_splitOn [DecidableEq α] {mark x : α} {xs piece : List α}
    (h : piece ∈ xs.splitOn mark) (hx : x ∈ piece) : x ∈ xs := by
  induction xs generalizing piece with
  | nil =>
      obtain rfl := List.mem_singleton.mp h
      cases hx
  | cons y xs ih =>
      rw [List.splitOn_cons_eq_if_modifyHead] at h
      split at h
      · rcases List.mem_cons.mp h with rfl | later
        · cases hx
        · exact List.mem_cons_of_mem y (ih later hx)
      · cases split : xs.splitOn mark with
        | nil => exact absurd split (List.splitOn_ne_nil mark xs)
        | cons first rest =>
            rw [split, List.modifyHead_cons] at h
            rw [split] at ih
            rcases List.mem_cons.mp h with rfl | later
            · rcases List.mem_cons.mp hx with rfl | hx
              · exact List.mem_cons_self
              · exact List.mem_cons_of_mem y (ih List.mem_cons_self hx)
            · exact List.mem_cons_of_mem y (ih (List.mem_cons_of_mem first later) hx)

/-- A list put together from pieces is made of their elements and those between them. -/
theorem mem_of_mem_intercalate {between : List α} {pieces : List (List α)} {x : α}
    (h : x ∈ between.intercalate pieces) : x ∈ between ∨ ∃ piece ∈ pieces, x ∈ piece := by
  induction pieces with
  | nil => cases h
  | cons piece pieces ih =>
      cases pieces with
      | nil => exact Or.inr ⟨piece, List.mem_cons_self, by simpa using h⟩
      | cons next pieces =>
          rw [List.intercalate_cons_cons, List.mem_append, List.mem_append] at h
          rcases h with (first | mark) | later
          · exact Or.inr ⟨piece, List.mem_cons_self, first⟩
          · exact Or.inl mark
          · exact (ih later).imp_right fun ⟨other, ho, hx⟩ =>
              ⟨other, List.mem_cons_of_mem piece ho, hx⟩

/-- A list goes on up to the first element that ends it. -/
theorem span_append_cons {p : α → Bool} {xs : List α} (h : ∀ x ∈ xs, p x = true) {mark : α}
    (ends : p mark = false) (rest : List α) :
    (xs ++ mark :: rest).span p = (xs, mark :: rest) := by
  rw [List.span_eq_takeWhile_dropWhile, List.takeWhile_append_of_pos h,
    List.dropWhile_append_of_pos h]
  simp [ends]

theorem span_of_forall {p : α → Bool} {xs : List α} (h : ∀ x ∈ xs, p x = true) :
    xs.span p = (xs, []) := by
  rw [List.span_eq_takeWhile_dropWhile, List.takeWhile_eq_self_iff.mpr h,
    List.dropWhile_eq_nil_iff.mpr h]

/-- An element is the one that is found by its key, if no two have the same key. -/
theorem find?_of_nodup_map {κ : Type} [DecidableEq κ] {key : α → κ} {xs : List α}
    (nodup : (xs.map key).Nodup) {x : α} (hx : x ∈ xs) :
    xs.find? (key · = key x) = some x := by
  cases found : xs.find? (key · = key x) with
  | none => simpa using List.find?_eq_none.mp found x hx
  | some y =>
      have same : key y = key x := by simpa using List.find?_some found
      rw [List.inj_on_of_nodup_map nodup (List.mem_of_find?_eq_some found) hx same]

/-- An element stands between what comes before it and what comes after it. -/
theorem exists_append_of_getElem? {xs : List α} {index : Nat} {x : α} (h : xs[index]? = some x) :
    ∃ front back, xs = front ++ x :: back ∧ xs.eraseIdx index = front ++ back := by
  obtain ⟨bound, rfl⟩ := List.getElem?_eq_some_iff.mp h
  refine ⟨xs.take index, xs.drop (index + 1), ?_, List.eraseIdx_eq_take_drop_succ xs index⟩
  rw [List.getElem_cons_drop, List.take_append_drop]

/-- A function that answers more often than another has more answers. -/
theorem length_filterMap_lt {f g : α → Option β} {xs : List α}
    (more : ∀ x ∈ xs, (f x).isSome → (g x).isSome) {x : α} (hx : x ∈ xs) (hf : f x = none)
    (hg : (g x).isSome) : (xs.filterMap f).length < (xs.filterMap g).length := by
  obtain ⟨front, back, rfl⟩ := List.append_of_mem hx
  have first := List.countP_mono_left (l := front) (p := fun x => (f x).isSome)
    (q := fun x => (g x).isSome) fun y hy => more y (by simp [hy])
  have last := List.countP_mono_left (l := back) (p := fun x => (f x).isSome)
    (q := fun x => (g x).isSome) fun y hy => more y (by simp [hy])
  rw [List.length_filterMap_eq_countP, List.length_filterMap_eq_countP, List.countP_append,
    List.countP_append, List.countP_cons_of_neg (p := fun x => (f x).isSome) (by simp [hf]),
    List.countP_cons_of_pos (p := fun x => (g x).isSome) hg]
  omega

/-! ## Interleavings

Entries of one key have to stay in their order, and those of different keys may change places. A
list is then as good as any other with the same entries of each key: the first entry of one list is
moved to the front of the other, past entries of other keys only, and the rest goes by induction. -/

section Interleaving

variable {σ κ : Type} {f : σ → α → σ} {key : α → κ}

/-- An entry may come before others of other keys with which it commutes. -/
theorem foldl_apply_comm (comm : ∀ s a b, key a ≠ key b → f (f s a) b = f (f s b) a) {x : α}
    {xs : List α} (apart : ∀ y ∈ xs, key y ≠ key x) (s : σ) :
    xs.foldl f (f s x) = f (xs.foldl f s) x := by
  induction xs generalizing s with
  | nil => rfl
  | cons y xs ih =>
      rw [List.foldl_cons, List.foldl_cons, ← comm s y x (apart y List.mem_cons_self)]
      exact ih (fun z hz => apart z (List.mem_cons_of_mem y hz)) (f s y)

/-- Two lists with the same entries of each key, in the same order, lead to the same state, if
entries of different keys commute: it does not matter how the keys are interleaved. -/
theorem foldl_eq_of_filter_eq [DecidableEq κ]
    (comm : ∀ s a b, key a ≠ key b → f (f s a) b = f (f s b) a) {xs ys : List α}
    (same : ∀ k, xs.filter (key · = k) = ys.filter (key · = k)) (s : σ) :
    xs.foldl f s = ys.foldl f s := by
  induction xs generalizing ys s with
  | nil =>
      cases ys with
      | nil => rfl
      | cons y ys => simpa using same (key y)
  | cons x xs ih =>
      -- The first entry is the first of its key in the other list as well, so it may come first.
      have first := same (key x)
      rw [List.filter_cons_of_pos (by simp)] at first
      obtain ⟨front, back, rfl, apart, -, rest⟩ := List.filter_eq_cons_iff.mp first.symm
      have others : ∀ y ∈ front, key y ≠ key x := by simpa using apart
      have none : front.filter (key · = key x) = [] := by simpa using others
      rw [List.foldl_cons, List.foldl_append, List.foldl_cons, ← foldl_apply_comm comm others,
        ← List.foldl_append]
      refine ih (fun k => ?_) (f s x)
      rw [List.filter_append]
      by_cases hk : key x = k
      · rw [← hk, none, List.nil_append, rest]
      · have whole := same k
        rwa [List.filter_append, List.filter_cons_of_neg (by simpa using hk),
          List.filter_cons_of_neg (by simpa using hk)] at whole

end Interleaving

end StreamLoad
