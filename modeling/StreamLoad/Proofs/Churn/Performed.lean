import StreamLoad.Proofs.Churn.Moves
import Mathlib.Data.List.Perm.Basic

/-! # What a churn session does to its ledger

The steps of a session change its ledger by operations only, and no operation ends an attempt
that is not under way: the attempts in the registry are those that wait to start and those that
run (`Matched`), and only these end. So a session takes its ledger along a legal run, and what
legal runs keep holds after every step.
-/

set_option autoImplicit false

namespace StreamLoad.Churn.Session

open ChurnLedger (Operation)

/-- The attempts under way are those that wait to start and those that run. -/
structure Matched (s : Session) : Prop where
  orderly : s.ledger.registry.Orderly
  attempts : (s.opened ++ s.links.map (·.attempt)).Perm s.ledger.registry.ids

theorem matched_start (settings : ChurnSettings) (probing : ProbeSettings) (goal : Nat)
    (client : Client) (server : Server) :
    (start settings probing goal client server).Matched :=
  ⟨Registry.orderly_empty, List.Perm.refl _⟩

namespace Matched

variable {s s' : Session}

/-- The clock has no part in it, nor has anything but the registry and the attempts. -/
theorem congr (h : s.Matched) (registry : s'.ledger.registry = s.ledger.registry)
    (opened : s'.opened = s.opened) (links : s'.links = s.links) : s'.Matched :=
  ⟨registry ▸ h.orderly, by rw [registry, opened, links]; exact h.attempts⟩

theorem nodup (h : s.Matched) : (s.opened ++ s.links.map (·.attempt)).Nodup :=
  h.attempts.nodup_iff.mpr h.orderly.nodup

theorem waits (h : s.Matched) {id : Nat} (hid : id ∈ s.opened) : id ∈ s.ledger.registry.ids :=
  h.attempts.mem_iff.mp (List.mem_append_left _ hid)

theorem runs (h : s.Matched) {link : Link} (hl : link ∈ s.links) :
    link.attempt ∈ s.ledger.registry.ids :=
  h.attempts.mem_iff.mp (List.mem_append_right _ (List.mem_map_of_mem hl))

/-- An attempt that runs does not wait to start. -/
theorem started (h : s.Matched) {link : Link} (hl : link ∈ s.links) : link.attempt ∉ s.opened :=
  fun waits => List.disjoint_of_nodup_append h.nodup waits (List.mem_map_of_mem hl)

/-- An attempt is given up that was the next to start. -/
theorem refuse (h : s.Matched) {id : Nat} {rest : List Nat} (next : s.opened = id :: rest)
    (registry : s'.ledger.registry = s.ledger.registry.erase id) (opened : s'.opened = rest)
    (links : s'.links = s.links) : s'.Matched := by
  refine ⟨registry ▸ h.orderly.erase id, ?_⟩
  have nodup := h.nodup
  have left := h.attempts.filter (· ≠ id)
  rw [next, List.cons_append] at nodup left
  -- No other attempt has its ordinal, so taking the ordinal out leaves the rest as it is.
  have others : ∀ other ∈ rest ++ s.links.map (·.attempt), decide (other ≠ id) = true :=
    fun other hother => decide_eq_true fun same => (List.nodup_cons.mp nodup).1 (same ▸ hother)
  rw [List.filter_cons_of_neg (by simp), List.filter_eq_self.mpr others] at left
  rw [registry, opened, links, Registry.ids_erase]
  exact left

/-- An attempt ends that ran. -/
theorem endLink (h : s.Matched) {link : Link} (hl : link ∈ s.links)
    (registry : s'.ledger.registry = s.ledger.registry.erase link.attempt)
    (opened : s'.opened = s.opened)
    (links : s'.links = s.links.filter (·.attempt ≠ link.attempt)) : s'.Matched := by
  refine ⟨registry ▸ h.orderly.erase link.attempt, ?_⟩
  have left := h.attempts.filter (· ≠ link.attempt)
  have others : ∀ id ∈ s.opened, decide (id ≠ link.attempt) = true :=
    fun id hid => decide_eq_true fun same => h.started hl (same ▸ hid)
  rw [List.filter_append, List.filter_eq_self.mpr others, List.filter_map] at left
  rw [registry, opened, links, Registry.ids_erase]
  exact left

end Matched

/-! ## What a move does

A move says which operations it performs, and not that they are possible. It is `Matched` that makes
them so: the attempt that a move ends waits to start or runs, and such attempts are the ones in the
registry. -/

namespace Move

variable {s s' : Session} {ops : List Operation}

/-- A move changes the ledger by its operations. -/
theorem ledger_eq (move : Move s ops s') : s'.ledger = s.ledger.run ops := by
  cases move with
  | quiet h => exact h.ledger
  | tick => rfl
  | refused failure next => rfl
  | asked next prepared received => rfl
  | read runs acted goesOn => rfl
  | ended ending runs acted => rfl
  | acted unseen => rfl
  | probeSent prepared received => rfl
  | probeClosed runs => rfl
  | probed loop verdict fault => rfl
  | shutDown => rfl

/-- A move ends no attempt but one under way. -/
theorem legal (move : Move s ops s') (h : s.Matched) : s.ledger.Legal ops := by
  have ends : ∀ (id now timeout : Nat) (ending : Ending), id ∈ s.ledger.registry.ids →
      s.ledger.Legal [.finish id now timeout ending] := by
    intro id now timeout ending underWay
    exact ⟨fun other same => Option.some.inj same ▸ underWay, trivial⟩
  have others : ∀ op : Operation, op.attempt? = none → s.ledger.Legal [op] := by
    intro op none
    exact ⟨fun id some => by simp [none] at some, trivial⟩
  cases move with
  | tick => exact others _ rfl
  | probed loop verdict fault => exact others _ rfl
  | refused failure next => exact ends _ _ _ _ (h.waits (next ▸ List.mem_cons_self))
  | ended ending runs acted => exact ends _ _ _ _ (h.runs runs)
  | quiet | asked | read | acted | probeSent | probeClosed | shutDown => trivial

/-- A tick lets an attempt wait to start if it opens one. -/
theorem matched_tick (h : s.Matched) : s.tick.1.Matched := by
  have links : s.tick.1.links = s.links := rfl
  rcases s.tick_cases with ⟨registry, opened, -⟩ | ⟨registry, opened, -⟩
  · exact h.congr registry opened links
  · refine ⟨registry ▸ h.orderly.openNew s.now, ?_⟩
    have ids : s.tick.1.ledger.registry.ids
        = s.ledger.registry.opened :: s.ledger.registry.ids := by rw [registry]; rfl
    -- The new attempt is the first in the registry and the last of those that wait.
    rw [ids, opened, links, List.append_assoc, List.singleton_append]
    exact List.perm_middle.trans (h.attempts.cons _)

/-- A move keeps the attempts and the registry together. -/
theorem matched (move : Move s ops s') (h : s.Matched) : s'.Matched := by
  cases move with
  | quiet same => exact h.congr (by rw [same.ledger]) same.opened same.links
  | tick => exact matched_tick h
  | @refused id rest failure next =>
      have left := s.ledger.registry_finish id s.now s.settings.attemptTimeout (.failed failure)
      exact h.refuse next left rfl rfl
  | @asked id number rest request server next prepared received =>
      refine ⟨h.orderly, ?_⟩
      have attempts := h.attempts
      rw [next, List.cons_append] at attempts
      -- The attempt leaves those that wait and joins those under way.
      have moved : (rest ++ (s.links.map (·.attempt) ++ [id])).Perm
          (id :: (rest ++ s.links.map (·.attempt))) := by
        rw [← List.append_assoc]
        exact List.perm_append_singleton _ _
      simpa [linkFor] using moved.trans attempts
  | @read link c server arrival subscription runs acted goesOn =>
      refine ⟨h.orderly, ?_⟩
      rw [map_updateLink fun _ _ => rfl]
      exact h.attempts
  | @ended link ending server runs acted =>
      have left :=
        s.ledger.registry_finish link.attempt s.now s.settings.attemptTimeout ending
      exact h.endLink runs left rfl rfl
  | acted unseen => exact h.congr rfl rfl rfl
  | probeSent prepared received => exact h.congr rfl rfl rfl
  | probeClosed runs => exact h.congr rfl rfl rfl
  | probed loop verdict fault => exact h.congr rfl rfl rfl
  | shutDown => exact h.congr rfl rfl rfl

end Move

theorem Moves.matched {s s' : Session} {ops : List Operation} (moves : Moves s ops s')
    (h : s.Matched) : s'.Matched := by
  induction moves with
  | refl s => exact h
  | step move _ ih => exact ih (move.matched h)

/-- Moves take the ledger along a legal run. -/
theorem Moves.legal {s s' : Session} {ops : List Operation} (moves : Moves s ops s')
    (h : s.Matched) : s.ledger.Legal ops ∧ s'.ledger = s.ledger.run ops := by
  induction moves with
  | refl s => exact ⟨trivial, rfl⟩
  | step move _ ih =>
      obtain ⟨legal, ledger⟩ := ih (move.matched h)
      rw [move.ledger_eq] at legal ledger
      rw [ChurnLedger.run_append]
      exact ⟨ChurnLedger.legal_append.mpr ⟨move.legal h, legal⟩, ledger⟩

/-! ## What the steps of a session do -/

/-- Steps perform operations on the ledger: the time of a step passes, and then the session
moves. -/
inductive Performs : Session → List Step → List Operation → Prop where
  | nil (s : Session) : Performs s [] []
  | cons {s : Session} {step : Step} {steps : List Step} {ops later : List Operation}
      (moves : Moves { s with now := s.now + step.time } ops (s.step step).1)
      (rest : Performs (s.step step).1 steps later) : Performs s (step :: steps) (ops ++ later)

theorem exists_performs (s : Session) (steps : List Step) : ∃ ops, s.Performs steps ops := by
  induction steps generalizing s with
  | nil => exact ⟨[], .nil s⟩
  | cons step steps ih =>
      obtain ⟨ops, moves⟩ := leads_step s step
      obtain ⟨later, rest⟩ := ih (s.step step).1
      exact ⟨ops ++ later, .cons moves rest⟩

/-- **The steps of a session take its ledger along a legal run.** -/
theorem Performs.legal {s : Session} {steps : List Step} {ops : List Operation}
    (performs : s.Performs steps ops) (h : s.Matched) :
    s.ledger.Legal ops ∧ (s.run steps).ledger = s.ledger.run ops ∧ (s.run steps).Matched := by
  induction performs with
  | nil s => exact ⟨trivial, rfl, h⟩
  | @cons s step steps ops later moves _ ih =>
      have passed : ({ s with now := s.now + step.time } : Session).Matched := h.congr rfl rfl rfl
      obtain ⟨first, reached⟩ := moves.legal passed
      obtain ⟨legal, ledger, matched⟩ := ih (moves.matched passed)
      rw [reached] at legal ledger
      rw [ChurnLedger.run_append]
      exact ⟨ChurnLedger.legal_append.mpr ⟨first, legal⟩, ledger, matched⟩

end StreamLoad.Churn.Session
