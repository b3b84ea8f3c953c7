import StreamLoad.Attempt.Registry
import Mathlib.Data.List.Nodup

/-! # The registry in good order

A registry is orderly if the attempts under way have different ordinals, all issued, and all of
them still wait for their greeting. Opening an attempt and ending one keep it so. However an
attempt ends, it leaves the registry and all others stay as they are (`markConnected_release`).
-/

set_option autoImplicit false

namespace StreamLoad.Registry

/-- The ordinals of the attempts under way. -/
def ids (r : Registry) : List Nat := r.attempts.map (·.id)

/-- A registry as it is between the steps of its attempts. -/
structure Orderly (r : Registry) : Prop where
  nodup : r.ids.Nodup
  issued : ∀ a ∈ r.attempts, a.id < r.opened
  pending : ∀ a ∈ r.attempts, a.state = .pending

theorem length_ids (r : Registry) : r.ids.length = r.inFlight := by simp [ids, inFlight]

/-! ## Look-up -/

theorem mem_of_get? {r : Registry} {id : Nat} {a : Attempt} (h : r.get? id = some a) :
    a ∈ r.attempts ∧ a.id = id := by
  have found := List.find?_some h
  exact ⟨List.mem_of_find?_eq_some h, by simpa using found⟩

theorem exists_get? {r : Registry} {id : Nat} (h : id ∈ r.ids) : ∃ a, r.get? id = some a := by
  obtain ⟨a, ha, rfl⟩ := List.mem_map.mp h
  exact Option.isSome_iff_exists.mp (List.find?_isSome.mpr ⟨a, ha, by simp⟩)

theorem get?_eq_none {r : Registry} {id : Nat} (h : id ∉ r.ids) : r.get? id = none := by
  refine List.find?_eq_none.mpr fun a ha => ?_
  have apart : a.id ≠ id := fun heq => h (List.mem_map.mpr ⟨a, ha, heq⟩)
  simpa using apart

/-- An attempt is replaced where there is one of its ordinal, and only there. -/
theorem get?_replace (r : Registry) (a : Attempt) (id : Nat) :
    (r.replace a).get? id = if id = a.id then (r.get? id).map fun _ => a else r.get? id := by
  obtain ⟨opened, attempts⟩ := r
  simp only [get?, replace]
  induction attempts with
  | nil => simp
  | cons b attempts ih =>
      rw [List.map_cons, List.find?_cons, List.find?_cons]
      by_cases own : b.id = a.id
      · by_cases same : b.id = id
        · simp [own, ← same]
        · have other : ¬ a.id = id := by rwa [← own]
          simp [own, other, ih]
      · by_cases same : b.id = id
        · have other : ¬ id = a.id := by rwa [← same]
          simp [same, other]
        · simp [own, same, ih]

theorem get?_openNew (r : Registry) (now id : Nat) :
    (r.openNew now).1.get? id
      = if id = r.opened then some (Attempt.opening id now) else r.get? id := by
  rw [get?, openNew, List.find?_cons]
  by_cases same : id = r.opened
  · simp [Attempt.opening, same]
  · have other : ¬ r.opened = id := fun h => same h.symm
    simp [Attempt.opening, same, other, get?]

theorem ids_replace (r : Registry) (a : Attempt) : (r.replace a).ids = r.ids := by
  simp only [ids, replace, List.map_map]
  refine List.map_congr_left fun b _ => ?_
  by_cases own : b.id = a.id <;> simp [own]

/-! ## Taking an attempt out -/

theorem mem_erase {r : Registry} {id : Nat} {a : Attempt} :
    a ∈ (r.erase id).attempts ↔ a ∈ r.attempts ∧ a.id ≠ id := by
  simp [erase]

theorem ids_erase (r : Registry) (id : Nat) : (r.erase id).ids = r.ids.filter (· ≠ id) := by
  simp only [ids, erase, List.filter_map]
  rfl

theorem get?_erase (r : Registry) (out id : Nat) :
    (r.erase out).get? id = if id = out then none else r.get? id := by
  rw [get?, erase, List.find?_filter]
  by_cases same : id = out
  · rw [if_pos same, List.find?_eq_none]
    rintro a - found
    simp only [same, decide_eq_true_eq, ne_eq, decide_not, Bool.not_eq_true',
      decide_eq_false_iff_not] at found
    exact found.1 found.2
  · rw [if_neg same, get?]
    congr 1
    funext a
    by_cases own : a.id = id <;> simp [own, same]

/-- The attempts under way are the one that leaves and those that stay. -/
theorem perm_ids_erase {r : Registry} (nodup : r.ids.Nodup) {id : Nat} (hid : id ∈ r.ids) :
    (id :: (r.erase id).ids).Perm r.ids := by
  -- Since ordinals differ, taking out all attempts of an ordinal takes out one.
  have kept : (r.erase id).ids = r.ids.erase id := by
    rw [ids_erase, nodup.erase_eq_filter]
    refine List.filter_congr fun b _ => ?_
    by_cases hb : b = id <;> simp [hb]
  rw [kept]
  exact (List.perm_cons_erase hid).symm

theorem inFlight_erase_add_one {r : Registry} (nodup : r.ids.Nodup) {id : Nat}
    (hid : id ∈ r.ids) : (r.erase id).inFlight + 1 = r.inFlight := by
  have count := (perm_ids_erase nodup hid).length_eq
  rwa [List.length_cons, length_ids, length_ids] at count

theorem erase_eq_self {r : Registry} {id : Nat} (h : id ∉ r.ids) : r.erase id = r := by
  have all : ∀ a ∈ r.attempts, decide (a.id ≠ id) = true := fun a ha =>
    decide_eq_true fun heq => h (List.mem_map.mpr ⟨a, ha, heq⟩)
  simp only [erase, List.filter_eq_self.mpr all]

theorem erase_replace (r : Registry) (a : Attempt) : (r.replace a).erase a.id = r.erase a.id := by
  simp only [erase, replace, List.filter_map]
  congr 1
  -- The attempts kept are those of other ordinals, which are not replaced.
  have kept : (fun b : Attempt => decide (b.id ≠ a.id)) ∘ (fun b => if b.id = a.id then a else b)
      = fun b => decide (b.id ≠ a.id) := by
    funext b
    by_cases hb : b.id = a.id <;> simp [hb]
  rw [kept]
  refine (List.map_congr_left fun b hb => ?_).trans (List.map_id _)
  have apart : b.id ≠ a.id := of_decide_eq_true (List.mem_filter.mp hb).2
  simp [apart]

theorem release_fst (r : Registry) (id : Nat) (outcome : AttemptState) :
    (r.release id outcome).1 = r.erase id := by
  by_cases h : id ∈ r.ids
  · obtain ⟨a, ha⟩ := exists_get? h
    simp [release, ha]
  · simp [release, get?_eq_none h, erase_eq_self h]

theorem release_snd (r : Registry) (id : Nat) (outcome : AttemptState) :
    (r.release id outcome).2 = (r.get? id).map fun a => ended a outcome := by
  unfold release
  cases r.get? id <;> rfl

/-- An attempt is marked connected if it waits for its greeting, and else nothing is done. -/
theorem markConnected_cases (r : Registry) (id : Nat) :
    (∃ a, r.get? id = some a ∧ a.state = .pending
        ∧ r.markConnected id = (r.replace { a with state := .connected }, true))
    ∨ ((∀ a, r.get? id = some a → a.state ≠ .pending) ∧ r.markConnected id = (r, false)) := by
  cases found : r.get? id with
  | none => exact Or.inr ⟨fun a none => (by cases none), by simp [markConnected, found]⟩
  | some a =>
      by_cases waits : a.state = .pending
      · refine Or.inl ⟨a, rfl, waits, ?_⟩
        simp [markConnected, found, Attempt.advance?, AttemptState.advance?,
          AttemptState.canBecome, waits]
      · have barred : a.state.canBecome .connected = false := by
          cases state : a.state with
          | pending => exact absurd state waits
          | _ => rfl
        refine Or.inr ⟨fun b same => ?_, ?_⟩
        · cases same
          exact waits
        · simp [markConnected, found, Attempt.advance?, AttemptState.advance?, barred]

/-- Marking an attempt changes neither which attempts are under way nor how many were opened. -/
theorem markConnected_fst (r : Registry) (id : Nat) :
    (r.markConnected id).1.opened = r.opened ∧ (r.markConnected id).1.ids = r.ids := by
  rcases r.markConnected_cases id with ⟨a, -, -, marked⟩ | ⟨-, same⟩
  · rw [marked]
    exact ⟨rfl, ids_replace r _⟩
  · rw [same]
    exact ⟨rfl, rfl⟩

/-- An attempt that waits for its greeting is marked connected and then aborted; an attempt that
is released without having seen it has failed. -/
theorem markConnected_release {r : Registry} {id : Nat} {a : Attempt} (found : r.get? id = some a)
    (waits : a.state = .pending) :
    (r.markConnected id).2 = true
    ∧ (r.markConnected id).1.release id .aborted = (r.erase id, some { a with state := .aborted })
    ∧ r.release id .failed = (r.erase id, some { a with state := .failed }) := by
  have same : a.id = id := (mem_of_get? found).2
  have marked : r.markConnected id = (r.replace { a with state := .connected }, true) := by
    rcases r.markConnected_cases id with ⟨b, refound, -, marked⟩ | ⟨idle, -⟩
    · obtain rfl : a = b := Option.some_inj.mp (found.symm.trans refound)
      exact marked
    · exact absurd waits (idle a found)
  have refound : (r.replace { a with state := .connected }).get? id
      = some { a with state := .connected } := by
    simp [get?_replace, same, found]
  have erased := erase_replace r { a with state := .connected }
  rw [marked]
  refine ⟨rfl, ?_, ?_⟩
  · simp only [release, refound]
    rw [← same]
    simp [erased, ended, Attempt.advance?, AttemptState.advance?, AttemptState.canBecome]
  · simp [release, found, ended, Attempt.advance?, AttemptState.advance?, AttemptState.canBecome,
      waits]

theorem markConnected_release_fst (r : Registry) (id : Nat) (outcome : AttemptState) :
    ((r.markConnected id).1.release id outcome).1 = r.erase id := by
  rw [release_fst]
  rcases r.markConnected_cases id with ⟨a, found, -, marked⟩ | ⟨-, same⟩
  · have own : a.id = id := (mem_of_get? found).2
    rw [marked, ← own]
    exact erase_replace r { a with state := .connected }
  · rw [same]

/-! ## Good order is kept

In an orderly registry nobody has seen the greeting: an attempt that does is marked and released at
once. Between two steps of a session the registry is always orderly. -/

theorem orderly_empty : Orderly {} := ⟨List.nodup_nil, by simp, by simp⟩

namespace Orderly

variable {r : Registry}

theorem lt_opened (h : r.Orderly) {id : Nat} (hid : id ∈ r.ids) : id < r.opened := by
  obtain ⟨a, ha, rfl⟩ := List.mem_map.mp hid
  exact h.issued a ha

theorem perm_erase (h : r.Orderly) {id : Nat} (hid : id ∈ r.ids) :
    (id :: (r.erase id).ids).Perm r.ids := perm_ids_erase h.nodup hid

theorem inFlight_erase (h : r.Orderly) {id : Nat} (hid : id ∈ r.ids) :
    (r.erase id).inFlight + 1 = r.inFlight := inFlight_erase_add_one h.nodup hid

theorem openNew (h : r.Orderly) (now : Nat) : (r.openNew now).1.Orderly where
  nodup := by
    refine List.nodup_cons.mpr ⟨fun hid => ?_, h.nodup⟩
    exact Nat.lt_irrefl _ (h.lt_opened hid)
  issued := by
    intro a ha
    rcases List.mem_cons.mp ha with rfl | old
    · exact Nat.lt_succ_self _
    · exact Nat.lt_succ_of_lt (h.issued a old)
  pending := by
    intro a ha
    rcases List.mem_cons.mp ha with rfl | old
    · rfl
    · exact h.pending a old

theorem erase (h : r.Orderly) (id : Nat) : (r.erase id).Orderly where
  nodup := by
    rw [ids_erase]
    exact h.nodup.filter _
  issued := fun a ha => h.issued a (mem_erase.mp ha).1
  pending := fun a ha => h.pending a (mem_erase.mp ha).1

end Orderly

end StreamLoad.Registry
