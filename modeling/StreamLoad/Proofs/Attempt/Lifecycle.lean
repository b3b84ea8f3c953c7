import StreamLoad.Proofs.Attempt.Registry
import StreamLoad.Proofs.Histories
import StreamLoad.Proofs.Lists

/-! # The life of an attempt

What a registry answers in a run of arbitrary operations, in terms of the run alone. The operations
may name any ordinals, also ones that are not issued yet or whose attempts have been released. An
attempt is open (`IsOpen`) from the operation that opens it to the first that releases it, and it
has been marked (`WasMarked`) once an answer has said so; `follows_run` says that the registry holds
no more and no less than this. `lives_once` draws from it what the operations answer.
-/

set_option autoImplicit false

namespace StreamLoad.Registry

/-! ## Runs -/

/-- What an attempt is released as. -/
inductive Outcome where
  | aborted
  | failed
deriving DecidableEq, Repr

/-- The state that is asked for. -/
def Outcome.state : Outcome → AttemptState
  | .aborted => .aborted
  | .failed => .failed

/-- What is done with a registry, or while it stands still. -/
inductive Operation where
  | openNew
  | markConnected (id : Nat)
  | release (id : Nat) (outcome : Outcome)
  /-- Time goes by. -/
  | wait (time : Nat)
deriving DecidableEq, Repr

/-- What an operation answers. -/
inductive Answer where
  /-- The ordinal of the attempt opened. -/
  | issued (id : Nat)
  /-- Whether the attempt was waiting for its greeting. -/
  | marked (waited : Bool)
  /-- The attempt that was under way, as it ended. -/
  | released (attempt : Option Attempt)
  | nothing
deriving DecidableEq, Repr

/-- A registry and the time. -/
structure Clocked where
  now : Nat := 0
  registry : Registry := {}
deriving DecidableEq, Repr

/-- Carries out an operation, and answers it. -/
def Clocked.step (s : Clocked) : Operation → Clocked × Answer
  | .openNew =>
      let (registry, id) := s.registry.openNew s.now
      ({ s with registry := registry }, .issued id)
  | .markConnected id =>
      let (registry, waited) := s.registry.markConnected id
      ({ s with registry := registry }, .marked waited)
  | .release id outcome =>
      let (registry, attempt) := s.registry.release id outcome.state
      ({ s with registry := registry }, .released attempt)
  | .wait time => ({ s with now := s.now + time }, .nothing)

/-- An empty registry after some operations, one after another. -/
def run (ops : List Operation) : Clocked := carryOut Clocked.step {} ops

/-- The operations of a run on an empty registry, each with its answer. -/
def history (ops : List Operation) : List (Operation × Answer) := answered Clocked.step {} ops

theorem run_concat (ops : List Operation) (op : Operation) :
    run (ops ++ [op]) = ((run ops).step op).1 :=
  carryOut_concat Clocked.step {} ops op

theorem history_concat (ops : List Operation) (op : Operation) :
    history (ops ++ [op]) = history ops ++ [(op, ((run ops).step op).2)] :=
  answered_concat Clocked.step {} ops op

/-! ## Operations on one attempt -/

/-- The ordinal of the attempt that an operation is on. -/
def Operation.subject? (s : Clocked) : Operation → Option Nat
  | .openNew => some s.registry.opened
  | .markConnected id => some id
  | .release id _ => some id
  | .wait _ => none

/-- All other attempts are left as they are. -/
theorem Clocked.get?_step {s : Clocked} {op : Operation} {id : Nat}
    (other : op.subject? s ≠ some id) :
    (s.step op).1.registry.get? id = s.registry.get? id := by
  cases op with
  | openNew =>
      show (s.registry.openNew s.now).1.get? id = _
      have apart : ¬ id = s.registry.opened := fun same => other (congrArg some same.symm)
      rw [get?_openNew, if_neg apart]
  | markConnected own =>
      have apart : ¬ id = own := fun same => other (congrArg some same.symm)
      show (s.registry.markConnected own).1.get? id = _
      rcases s.registry.markConnected_cases own with ⟨a, found, -, marked⟩ | ⟨-, same⟩
      · rw [marked, get?_replace, (mem_of_get? found).2, if_neg apart]
      · rw [same]
  | release own outcome =>
      have apart : ¬ id = own := fun same => other (congrArg some same.symm)
      show (s.registry.release own outcome.state).1.get? id = _
      rw [release_fst, get?_erase, if_neg apart]
  | wait time => rfl

/-! ## What has become of an attempt

Whether an attempt is open, and whether it was marked, is defined on the operations and their
answers. One more operation changes either only if it is on that attempt, and the lemmas say how. -/

/-- Whether an attempt has been opened at an instant, and not been released since. Ordinals count
the attempts opened before. -/
def IsOpen (id openedAt : Nat) (ops : List Operation) : Prop :=
  ∃ before since, ops = before ++ .openNew :: since
    ∧ before.count .openNew = id ∧ (run before).now = openedAt
    ∧ ∀ outcome, .release id outcome ∉ since

/-- Whether an answer has said that an attempt is marked connected. -/
def WasMarked (id : Nat) (ops : List Operation) : Prop :=
  (.markConnected id, .marked true) ∈ history ops

instance (id : Nat) (ops : List Operation) : Decidable (WasMarked id ops) :=
  inferInstanceAs (Decidable (_ ∈ history ops))

/-- The attempt that an ordinal stands for after a run in which it was opened at an instant. -/
def standing (id openedAt : Nat) (ops : List Operation) : Attempt :=
  { id := id
    state := if WasMarked id ops then .connected else .pending
    openedAt := openedAt }

theorem isOpen_concat (id openedAt : Nat) (ops : List Operation) (op : Operation) :
    IsOpen id openedAt (ops ++ [op])
      ↔ (op = .openNew ∧ ops.count .openNew = id ∧ (run ops).now = openedAt)
        ∨ IsOpen id openedAt ops ∧ ∀ outcome, op ≠ .release id outcome := by
  constructor
  · rintro ⟨before, since, split, number, instant, kept⟩
    rcases concat_eq_append_cons.mp split with ⟨rfl, rfl, rfl⟩ | ⟨front, rfl, rfl⟩
    · exact Or.inl ⟨rfl, number, instant⟩
    · refine Or.inr ⟨⟨before, front, rfl, number, instant, ?_⟩, ?_⟩
      · intro outcome hc
        exact kept outcome (List.mem_append_left [op] hc)
      · intro outcome same
        exact kept outcome (by simp [same])
  · rintro (⟨rfl, number, instant⟩ | ⟨⟨before, since, rfl, number, instant, kept⟩, other⟩)
    · exact ⟨ops, [], rfl, number, instant, fun outcome => List.not_mem_nil⟩
    · refine ⟨before, since ++ [op], by simp, number, instant, fun outcome hc => ?_⟩
      rcases List.mem_append.mp hc with held | last
      · exact kept outcome held
      · exact other outcome (List.mem_singleton.mp last).symm

/-- An open attempt is one of those opened. -/
theorem IsOpen.lt_count {id openedAt : Nat} {ops : List Operation} (h : IsOpen id openedAt ops) :
    id < ops.count .openNew := by
  obtain ⟨before, since, rfl, rfl, -⟩ := h
  rw [List.count_append, List.count_cons_self]
  omega

theorem wasMarked_concat (id : Nat) (ops : List Operation) (op : Operation) :
    WasMarked id (ops ++ [op])
      ↔ WasMarked id ops
        ∨ op = .markConnected id ∧ ((run ops).step op).2 = .marked true := by
  rw [WasMarked, history_concat, List.mem_append, List.mem_singleton, Prod.mk.injEq]
  exact or_congr Iff.rfl (and_congr eq_comm eq_comm)

/-- Only marking an attempt makes a difference to whether it was. -/
theorem wasMarked_of_ne {id : Nat} {ops : List Operation} {op : Operation}
    (other : op ≠ .markConnected id) : WasMarked id (ops ++ [op]) ↔ WasMarked id ops := by
  rw [wasMarked_concat, or_iff_left fun marked => other marked.1]

theorem standing_of_ne {id : Nat} (openedAt : Nat) {ops : List Operation} {op : Operation}
    (other : op ≠ .markConnected id) :
    standing id openedAt (ops ++ [op]) = standing id openedAt ops := by
  rw [standing, standing, if_congr (wasMarked_of_ne other) rfl rfl]

/-! ## What the registry holds

`Follows` gives the registry as a function of the run: look-up finds an ordinal just if its attempt
is open, and then finds what the run says of it. But for the ordinals that are issued, all answers
are results of a look-up, so little else about the registry is needed afterwards. -/

/-- The number of attempts opened is counted one by one. -/
theorem opened_run (ops : List Operation) :
    (run ops).registry.opened = ops.count .openNew := by
  induction ops using List.reverseRecOn with
  | nil => rfl
  | append_singleton ops op ih =>
      rw [run_concat, List.count_append]
      cases op with
      | openNew =>
          show (run ops).registry.opened + 1 = _
          rw [ih]
          rfl
      | markConnected id =>
          show ((run ops).registry.markConnected id).1.opened = _
          rw [(markConnected_fst ..).1]
          exact ih
      | release id outcome =>
          show ((run ops).registry.release id outcome.state).1.opened = _
          rw [release_fst]
          exact ih
      | wait time => exact ih

/-- What the registry holds after a run: the attempts that are open, and no others. -/
structure Follows (ops : List Operation) : Prop where
  get?_iff : ∀ id a, (run ops).registry.get? id = some a
    ↔ ∃ openedAt, IsOpen id openedAt ops ∧ a = standing id openedAt ops
  /-- No attempt is marked before it is opened. -/
  marked_lt : ∀ id, WasMarked id ops → id < ops.count .openNew

namespace Follows

variable {ops : List Operation}

theorem marked_lt_of_ne (h : Follows ops) {op : Operation} (other : ∀ {id}, op ≠ .markConnected id)
    (id : Nat) (marked : WasMarked id (ops ++ [op])) : id < (ops ++ [op]).count .openNew := by
  have := h.marked_lt id ((wasMarked_of_ne other).mp marked)
  rw [List.count_append]
  omega

theorem openNew (h : Follows ops) : Follows (ops ++ [.openNew]) where
  get?_iff := by
    intro id a
    rw [run_concat]
    show ((run ops).registry.openNew (run ops).now).1.get? id = some a ↔ _
    have apart : Operation.openNew ≠ .markConnected id := Operation.noConfusion
    simp only [isOpen_concat, standing_of_ne _ apart]
    rw [get?_openNew, opened_run]
    by_cases new : id = ops.count .openNew
    · have fresh : ¬ WasMarked id ops := fun marked => by
        have := h.marked_lt id marked
        omega
      have unopened : ∀ openedAt, ¬ IsOpen id openedAt ops := fun openedAt isOpen => by
        have := isOpen.lt_count
        omega
      rw [if_pos new]
      simp [new.symm, unopened, standing, fresh, Attempt.opening, eq_comm]
    · rw [if_neg new, h.get?_iff]
      simp [Ne.symm new]
  marked_lt := h.marked_lt_of_ne Operation.noConfusion

/-- An attempt is marked by the next operation if it is open and was not marked before. -/
theorem marks_iff (h : Follows ops) (id : Nat) :
    ((run ops).step (.markConnected id)).2 = .marked true
      ↔ (∃ openedAt, IsOpen id openedAt ops) ∧ ¬ WasMarked id ops := by
  have answer : ((run ops).step (.markConnected id)).2
      = .marked ((run ops).registry.markConnected id).2 := rfl
  rw [answer, Answer.marked.injEq]
  constructor
  · intro marks
    rcases (run ops).registry.markConnected_cases id with ⟨a, found, waits, -⟩ | ⟨-, same⟩
    · obtain ⟨openedAt, isOpen, rfl⟩ := (h.get?_iff id a).mp found
      refine ⟨⟨openedAt, isOpen⟩, fun marked => ?_⟩
      rw [standing, if_pos marked] at waits
      cases waits
    · rw [same] at marks
      cases marks
  · rintro ⟨⟨openedAt, isOpen⟩, unmarked⟩
    have found := (h.get?_iff id _).mpr ⟨openedAt, isOpen, rfl⟩
    rcases (run ops).registry.markConnected_cases id with ⟨a, -, -, marked⟩ | ⟨idle, -⟩
    · rw [marked]
    · refine absurd ?_ (idle _ found)
      rw [standing, if_neg unmarked]

/-- An open attempt is connected once it has been marked, for the first time or once more. -/
theorem get?_markConnected (h : Follows ops) (id : Nat) :
    ((run ops).registry.markConnected id).1.get? id
      = ((run ops).registry.get? id).map fun a => { a with state := .connected } := by
  rcases (run ops).registry.markConnected_cases id with ⟨a, found, -, marked⟩ | ⟨idle, same⟩
  · rw [marked, get?_replace, if_pos (mem_of_get? found).2.symm, found]
    rfl
  · rw [same]
    cases found : (run ops).registry.get? id with
    | none => rfl
    | some a =>
        obtain ⟨openedAt, -, rfl⟩ := (h.get?_iff id a).mp found
        have marked : WasMarked id ops := by
          by_contra unmarked
          exact idle _ found (by rw [standing, if_neg unmarked])
        rw [standing, if_pos marked]
        rfl

theorem standing_markConnected (h : Follows ops) {id openedAt : Nat}
    (isOpen : IsOpen id openedAt ops) :
    standing id openedAt (ops ++ [.markConnected id])
      = { standing id openedAt ops with state := .connected } := by
  have marked : WasMarked id (ops ++ [.markConnected id]) := by
    rw [wasMarked_concat]
    by_cases before : WasMarked id ops
    · exact Or.inl before
    · exact Or.inr ⟨rfl, (h.marks_iff id).mpr ⟨⟨openedAt, isOpen⟩, before⟩⟩
  rw [standing, if_pos marked]
  rfl

theorem markConnected (h : Follows ops) (id : Nat) : Follows (ops ++ [.markConnected id]) where
  get?_iff := by
    intro other a
    rw [run_concat]
    simp only [isOpen_concat, reduceCtorEq, false_and, false_or, ne_eq, not_false_eq_true,
      implies_true, and_true]
    by_cases own : id = other
    · subst own
      show ((run ops).registry.markConnected id).1.get? id = some a ↔ _
      rw [h.get?_markConnected, Option.map_eq_some_iff]
      constructor
      · rintro ⟨b, found, rfl⟩
        obtain ⟨openedAt, isOpen, rfl⟩ := (h.get?_iff id b).mp found
        exact ⟨openedAt, isOpen, (h.standing_markConnected isOpen).symm⟩
      · rintro ⟨openedAt, isOpen, rfl⟩
        exact ⟨_, (h.get?_iff id _).mpr ⟨openedAt, isOpen, rfl⟩,
          (h.standing_markConnected isOpen).symm⟩
    · -- Of another attempt neither the registry nor the history says anything new.
      have apart : Operation.markConnected id ≠ .markConnected other := by simpa using own
      rw [Clocked.get?_step (by simpa [Operation.subject?] using own), h.get?_iff]
      simp only [standing_of_ne _ apart]
  marked_lt := by
    intro other marked
    rw [List.count_append]
    rcases (wasMarked_concat ..).mp marked with before | ⟨same, answer⟩
    · have := h.marked_lt other before
      omega
    · cases same
      obtain ⟨⟨openedAt, isOpen⟩, -⟩ := (h.marks_iff id).mp answer
      have := isOpen.lt_count
      omega

theorem release (h : Follows ops) (id : Nat) (outcome : Outcome) :
    Follows (ops ++ [.release id outcome]) where
  get?_iff := by
    intro other a
    rw [run_concat]
    show ((run ops).registry.release id outcome.state).1.get? other = some a ↔ _
    have apart : Operation.release id outcome ≠ .markConnected other := Operation.noConfusion
    simp only [isOpen_concat, standing_of_ne _ apart]
    rw [release_fst, get?_erase]
    by_cases own : other = id
    · simp [own]
    · rw [if_neg own, h.get?_iff]
      simp [Ne.symm own]
  marked_lt := h.marked_lt_of_ne Operation.noConfusion

theorem wait (h : Follows ops) (time : Nat) : Follows (ops ++ [.wait time]) where
  get?_iff := by
    intro id a
    rw [run_concat]
    show (run ops).registry.get? id = some a ↔ _
    have apart : Operation.wait time ≠ .markConnected id := Operation.noConfusion
    simp only [isOpen_concat, standing_of_ne _ apart]
    rw [h.get?_iff]
    simp
  marked_lt := h.marked_lt_of_ne Operation.noConfusion

end Follows

theorem follows_run (ops : List Operation) : Follows ops := by
  induction ops using List.reverseRecOn with
  | nil =>
      refine ⟨fun id a => ⟨fun found => (by cases found), ?_⟩, fun id marked => by cases marked⟩
      rintro ⟨openedAt, isOpen, -⟩
      exact absurd isOpen.lt_count (Nat.not_lt_zero id)
  | append_singleton ops op ih =>
      cases op with
      | openNew => exact ih.openNew
      | markConnected id => exact ih.markConnected id
      | release id outcome => exact ih.release id outcome
      | wait time => exact ih.wait time

/-! ## What is answered -/

/-- The ordinal that an answer issues. -/
def Answer.ordinal? : Answer → Option Nat
  | .issued id => some id
  | _ => none

/-- The attempt that an answer releases. -/
def Answer.attempt? : Answer → Option Attempt
  | .released attempt => attempt
  | _ => none

/-- The ordinals issued in a run. -/
def issued (ops : List Operation) : List Nat := (history ops).filterMap fun e => e.2.ordinal?

/-- The attempts released in a run. -/
def released (ops : List Operation) : List Attempt := (history ops).filterMap fun e => e.2.attempt?

theorem issued_concat (ops : List Operation) (op : Operation) :
    issued (ops ++ [op]) = issued ops ++ ((run ops).step op).2.ordinal?.toList := by
  rw [issued, history_concat, List.filterMap_append]
  cases answer : ((run ops).step op).2.ordinal? <;> simp [issued, answer]

theorem released_concat (ops : List Operation) (op : Operation) :
    released (ops ++ [op]) = released ops ++ ((run ops).step op).2.attempt?.toList := by
  rw [released, history_concat, List.filterMap_append]
  cases answer : ((run ops).step op).2.attempt? <;> simp [released, answer]

/-- Ordinals are issued one after another. -/
theorem issued_run (ops : List Operation) : issued ops = List.range (ops.count .openNew) := by
  induction ops using List.reverseRecOn with
  | nil => rfl
  | append_singleton ops op ih =>
      rw [issued_concat, ih, List.count_append]
      cases op with
      | openNew =>
          show _ ++ [(run ops).registry.opened] = _
          rw [opened_run, List.count_singleton_self, List.range_succ]
      | _ => simp [Clocked.step, Answer.ordinal?]

/-- The attempts under way have different ordinals. -/
theorem nodup_run (ops : List Operation) : (run ops).registry.ids.Nodup := by
  induction ops using List.reverseRecOn with
  | nil => exact List.nodup_nil
  | append_singleton ops op ih =>
      rw [run_concat]
      cases op with
      | openNew =>
          refine List.nodup_cons.mpr ⟨fun held => ?_, ih⟩
          -- Whatever is held was opened, and its ordinal is below the next.
          obtain ⟨a, found⟩ := exists_get? (r := (run ops).registry) held
          obtain ⟨openedAt, isOpen, -⟩ := ((follows_run ops).get?_iff _ a).mp found
          have early := isOpen.lt_count
          rw [← opened_run] at early
          exact Nat.lt_irrefl _ early
      | markConnected id =>
          show ((run ops).registry.markConnected id).1.ids.Nodup
          rw [(markConnected_fst ..).2]
          exact ih
      | release id outcome =>
          show ((run ops).registry.release id outcome.state).1.ids.Nodup
          rw [release_fst, ids_erase]
          exact ih.filter _
      | wait time => exact ih

/-- Each attempt opened is under way or has been released. -/
theorem inFlight_run (ops : List Operation) :
    (run ops).registry.inFlight + (released ops).length = (run ops).registry.opened := by
  induction ops using List.reverseRecOn with
  | nil => rfl
  | append_singleton ops op ih =>
      rw [run_concat, released_concat, List.length_append]
      cases op with
      | openNew =>
          show (run ops).registry.inFlight + 1 + ((released ops).length + 0)
            = (run ops).registry.opened + 1
          omega
      | markConnected id =>
          show ((run ops).registry.markConnected id).1.inFlight + ((released ops).length + 0)
            = ((run ops).registry.markConnected id).1.opened
          obtain ⟨opened, ids⟩ := (run ops).registry.markConnected_fst id
          rw [opened, ← length_ids, ids, length_ids]
          exact ih
      | release id outcome =>
          show ((run ops).registry.release id outcome.state).1.inFlight + ((released ops).length
              + ((run ops).registry.release id outcome.state).2.toList.length)
            = ((run ops).registry.release id outcome.state).1.opened
          rw [release_fst, release_snd]
          show _ = (run ops).registry.opened
          by_cases held : id ∈ (run ops).registry.ids
          · obtain ⟨a, found⟩ := exists_get? held
            -- Only an attempt that is under way is released, and a release of it is answered.
            have one := inFlight_erase_add_one (nodup_run ops) held
            rw [found]
            show _ + (_ + 1) = _
            omega
          · rw [erase_eq_self held, get?_eq_none held]
            exact ih
      | wait time => exact ih

/-- No attempt is marked twice. -/
theorem count_marked_le (ops : List Operation) (id : Nat) :
    (history ops).count (.markConnected id, .marked true) ≤ 1 := by
  refine countP_answered_le_one Clocked.step (fun before op given => ?_) ops
  obtain ⟨e, earlier, same⟩ := given
  rw [eq_of_beq same] at earlier
  refine beq_eq_false_iff_ne.mpr fun again => ?_
  obtain ⟨rfl, answer⟩ := Prod.mk.inj again
  exact (((follows_run before).marks_iff id).mp answer).2 earlier

/-- Only an attempt that was marked is aborted, and any other has failed. -/
theorem ended_standing (id openedAt : Nat) (ops : List Operation) (outcome : Outcome) :
    ended (standing id openedAt ops) outcome.state
      = { id := id
          state := if WasMarked id ops ∧ outcome = .aborted then .aborted else .failed
          openedAt := openedAt } := by
  by_cases marked : WasMarked id ops <;> cases outcome <;>
    simp [standing, ended, Attempt.advance?, AttemptState.advance?, AttemptState.canBecome,
      Outcome.state, marked]

/-! ## The whole run -/

/-- What holds of a registry after a run. -/
structure Lifecycle (ops : List Operation) : Prop where
  /-- The ordinals issued are the first ones, each once. -/
  issued_eq : issued ops = List.range (run ops).registry.opened
  /-- There are as many as attempts were opened. -/
  opened_eq : (run ops).registry.opened = ops.count .openNew
  /-- Those under way are the ones not released. -/
  inFlight_eq : (run ops).registry.inFlight = (run ops).registry.opened - (released ops).length
  /-- What is held of an attempt is that it is open, when it was opened, and whether it was
  marked. -/
  get?_iff : ∀ id a, (run ops).registry.get? id = some a
    ↔ ∃ openedAt, IsOpen id openedAt ops ∧ a = standing id openedAt ops
  /-- No attempt is marked twice. -/
  marked_le : ∀ id, (history ops).count (.markConnected id, .marked true) ≤ 1
  /-- An attempt is marked by the next operation exactly if it is open and was not marked. -/
  marks_iff : ∀ id, ((run ops).step (.markConnected id)).2 = .marked true
    ↔ (∃ openedAt, IsOpen id openedAt ops) ∧ ¬ WasMarked id ops
  /-- The next operation releases an attempt exactly if it is open, hence by the first release, and
  the attempt is then aborted if that was asked for and it was marked, and has failed otherwise. -/
  releases_iff : ∀ id outcome a,
    ((run ops).step (.release id outcome)).2 = .released (some a)
      ↔ ∃ openedAt, IsOpen id openedAt ops
        ∧ a = { id := id
                state := if WasMarked id ops ∧ outcome = .aborted then .aborted else .failed
                openedAt := openedAt }
  /-- The next operation leaves all attempts but its own as they are. -/
  apart : ∀ op id, op.subject? (run ops) ≠ some id →
    ((run ops).step op).1.registry.get? id = (run ops).registry.get? id

/-- **Attempts live once.** Whatever is done with a registry, with any ordinals and in any order:
ordinals are issued one after another, an attempt is marked connected once at most and released once
at most, only while it is open, and the first release always ends it, as aborted exactly if it was
marked and is asked to be. -/
theorem lives_once (ops : List Operation) : Lifecycle ops := by
  have follows := follows_run ops
  have opened := opened_run ops
  have inFlight := inFlight_run ops
  refine ⟨?_, opened, ?_, follows.get?_iff, count_marked_le ops, follows.marks_iff, ?_, ?_⟩
  · rw [issued_run, opened]
  · omega
  · intro id outcome a
    have answer : ((run ops).step (.release id outcome)).2
        = .released ((run ops).registry.release id outcome.state).2 := rfl
    rw [answer, Answer.released.injEq, release_snd, Option.map_eq_some_iff]
    constructor
    · rintro ⟨b, found, rfl⟩
      obtain ⟨openedAt, isOpen, rfl⟩ := (follows.get?_iff id b).mp found
      exact ⟨openedAt, isOpen, ended_standing id openedAt ops outcome⟩
    · rintro ⟨openedAt, isOpen, rfl⟩
      exact ⟨_, (follows.get?_iff id _).mpr ⟨openedAt, isOpen, rfl⟩,
        ended_standing id openedAt ops outcome⟩
  · intro op id other
    exact Clocked.get?_step other

end StreamLoad.Registry
