import StreamLoad.Proofs.Attempt.Pool
import StreamLoad.Proofs.Histories

/-! # The book-keeping of a pool

What a pool of members holds and answers after arbitrary calls, in terms of the calls alone. The
calls may name any ordinals, also ones of no member, and may come in any order and more than once.
A member has failed once it was said to, and else is connected once it was said to be (`standing`);
`state?_run` says that the pool holds just this. A call answers whether it has moved its member, so
that whoever adds up these answers knows how many members are connected, and how many have failed
(`count_connected_run`, `count_failed_run`). `members_accounted` puts this together.
-/

set_option autoImplicit false

namespace StreamLoad.Pool

/-! ## Runs -/

/-- What a pool is told. -/
inductive Operation where
  | markConnected (id : Nat)
  | markFailed (id : Nat)
deriving DecidableEq, Repr

namespace Operation

/-- The ordinal that a call is about. -/
def subject : Operation → Nat
  | markConnected id | markFailed id => id

/-- The state that a call asks for. -/
def target : Operation → AttemptState
  | markConnected _ => .connected
  | markFailed _ => .failed

/-- What a call makes of a pool, and what it returns. -/
def apply (p : Pool) : Operation → Pool × Bool
  | markConnected id => p.markConnected id
  | markFailed id => p.markFailed id

end Operation

/-- What there is to know about a call that has been made. -/
structure Answer where
  /-- The state in which the call has found its member, if there is one. -/
  found : Option AttemptState
  /-- What it has returned: whether the member has moved. -/
  moved : Bool
deriving DecidableEq, Repr

/-- Makes a call. -/
def step (p : Pool) (op : Operation) : Pool × Answer :=
  ((op.apply p).1, { found := p.state? op.subject, moved := (op.apply p).2 })

/-- A new pool after some calls, one after another. -/
def run (size : Nat) (ops : List Operation) : Pool := carryOut step (ofSize size) ops

/-- The calls made on a new pool, each with what is known about it. -/
def history (size : Nat) (ops : List Operation) : List (Operation × Answer) :=
  answered step (ofSize size) ops

/-! ## One call -/

variable {p : Pool} {op : Operation}

/-- A call moves its member if there is one that may go on as asked, and else does nothing. -/
theorem step_cases (p : Pool) (op : Operation) :
    (∃ before, p.state? op.subject = some before ∧ before.canBecome op.target = true
        ∧ p.step op = (p.set op.subject op.target, { found := some before, moved := true }))
    ∨ ((∀ before, p.state? op.subject = some before → before.canBecome op.target = false)
        ∧ p.step op = (p, { found := p.state? op.subject, moved := false })) := by
  have same : op.apply p = p.advance op.subject op.target := by cases op <;> rfl
  rcases p.advance_cases op.subject op.target with ⟨before, known, allowed, moves⟩ | ⟨barred, still⟩
  · exact Or.inl ⟨before, known, allowed, by rw [step, same, moves, known]⟩
  · exact Or.inr ⟨barred, by rw [step, same, still]⟩

@[simp] theorem size_step (p : Pool) (op : Operation) : (p.step op).1.size = p.size := by
  rcases p.step_cases op with ⟨before, -, -, moves⟩ | ⟨-, still⟩
  · rw [moves, size_set]
  · rw [still]

/-- All other members are left as they are. -/
theorem state?_step_of_ne (p : Pool) {id : Nat} (apart : id ≠ op.subject) :
    (p.step op).1.state? id = p.state? id := by
  rcases p.step_cases op with ⟨before, -, -, moves⟩ | ⟨-, still⟩
  · rw [moves, state?_set_of_ne p apart]
  · rw [still]

/-- The member itself is in the state that is asked for, if it may go on to it. -/
theorem state?_step_subject (p : Pool) (op : Operation) :
    (p.step op).1.state? op.subject
      = (p.state? op.subject).map fun state => (state.advance? op.target).getD state := by
  rcases p.step_cases op with ⟨before, known, allowed, moves⟩ | ⟨barred, still⟩
  · rw [moves, state?_set_self known, known]
    simp [AttemptState.advance?, allowed]
  · rw [still]
    cases known : p.state? op.subject with
    | none => rfl
    | some before => simp [AttemptState.advance?, barred before known]

/-- A call moves its member exactly if that may go on as asked. -/
theorem moved_step_iff (p : Pool) (op : Operation) :
    (p.step op).2.moved = true
      ↔ ∃ state, p.state? op.subject = some state ∧ state.canBecome op.target = true := by
  rcases p.step_cases op with ⟨before, known, allowed, moves⟩ | ⟨barred, still⟩
  · rw [moves]
    exact iff_of_true rfl ⟨before, known, allowed⟩
  · rw [still]
    refine iff_of_false Bool.false_ne_true ?_
    rintro ⟨before, known, allowed⟩
    rw [barred before known] at allowed
    cases allowed

/-- Whether a call has moved its member to a state. -/
def enters (state : AttemptState) (entry : Operation × Answer) : Bool :=
  entry.1.target = state && entry.2.moved

/-- Whether a call has moved its member off a state. -/
def leaves (state : AttemptState) (entry : Operation × Answer) : Bool :=
  entry.2.found = some state && entry.2.moved

/-- A state has one member less with each call that moves a member off it, and one more with each
that moves a member to it. -/
theorem count_step (p : Pool) (op : Operation) (state : AttemptState) :
    (p.step op).1.count state + (if leaves state (op, (p.step op).2) = true then 1 else 0)
      = p.count state + if enters state (op, (p.step op).2) = true then 1 else 0 := by
  rcases p.step_cases op with ⟨before, known, -, moves⟩ | ⟨-, still⟩
  · rw [moves]
    simpa [enters, leaves] using count_set_add known op.target state
  · rw [still]
    simp [enters, leaves]

/-- A member that has failed is not moved, and one that is connected is moved only to have
failed. -/
theorem target_of_moved {known : AttemptState} (found : (p.step op).2.found = some known)
    (moved : (p.step op).2.moved = true) :
    known ≠ .failed ∧ (known = .connected → op.target = .failed) := by
  obtain ⟨state, is, allowed⟩ := (moved_step_iff p op).mp moved
  obtain rfl : state = known := Option.some_inj.mp (is.symm.trans found)
  constructor
  · rintro rfl
    cases allowed
  · rintro rfl
    cases op with
    | markConnected id => cases allowed
    | markFailed id => rfl

/-! ## The state of a member

The order of the calls does not matter for where a member stands, only whether they have been made:
failing outweighs being connected. So `standing` is two questions about the list of calls, and what
a pool holds is shown to be that. -/

/-- The state of a member after some calls. -/
def standing (id : Nat) (ops : List Operation) : AttemptState :=
  if .markFailed id ∈ ops then .failed
  else if .markConnected id ∈ ops then .connected
  else .pending

theorem standing_cases (id : Nat) (ops : List Operation) :
    (.markFailed id ∈ ops ∧ standing id ops = .failed)
    ∨ (.markFailed id ∉ ops ∧ .markConnected id ∈ ops ∧ standing id ops = .connected)
    ∨ (.markFailed id ∉ ops ∧ .markConnected id ∉ ops ∧ standing id ops = .pending) := by
  by_cases failed : .markFailed id ∈ ops
  · exact Or.inl ⟨failed, if_pos failed⟩
  · rw [standing, if_neg failed]
    by_cases connected : .markConnected id ∈ ops
    · exact Or.inr (Or.inl ⟨failed, connected, if_pos connected⟩)
    · exact Or.inr (Or.inr ⟨failed, connected, if_neg connected⟩)

/-- No member is ever aborted. -/
theorem standing_ne_aborted (id : Nat) (ops : List Operation) : standing id ops ≠ .aborted := by
  rcases standing_cases id ops with ⟨-, is⟩ | ⟨-, -, is⟩ | ⟨-, -, is⟩ <;> simp [is]

/-- A member can be connected if nothing has been said of it. -/
theorem standing_canBecome_connected (id : Nat) (ops : List Operation) :
    (standing id ops).canBecome .connected = true
      ↔ .markConnected id ∉ ops ∧ .markFailed id ∉ ops := by
  rcases standing_cases id ops with ⟨failed, is⟩ | ⟨-, connected, is⟩ | ⟨unfailed, unconnected, is⟩
  · rw [is]
    exact iff_of_false Bool.false_ne_true fun free => free.2 failed
  · rw [is]
    exact iff_of_false Bool.false_ne_true fun free => free.1 connected
  · rw [is]
    exact iff_of_true rfl ⟨unconnected, unfailed⟩

/-- A member can fail if it has not failed. -/
theorem standing_canBecome_failed (id : Nat) (ops : List Operation) :
    (standing id ops).canBecome .failed = true ↔ .markFailed id ∉ ops := by
  rcases standing_cases id ops with ⟨failed, is⟩ | ⟨unfailed, -, is⟩ | ⟨unfailed, -, is⟩
  · rw [is]
    exact iff_of_false Bool.false_ne_true fun free => free failed
  · rw [is]
    exact iff_of_true rfl unfailed
  · rw [is]
    exact iff_of_true rfl unfailed

/-- A call makes of its member what it asks for, if it may. -/
theorem standing_concat_subject (ops : List Operation) (op : Operation) :
    standing op.subject (ops ++ [op])
      = ((standing op.subject ops).advance? op.target).getD (standing op.subject ops) := by
  cases op with
  | markConnected id =>
      show standing id (ops ++ [.markConnected id])
        = ((standing id ops).advance? .connected).getD (standing id ops)
      rcases standing_cases id ops with ⟨failed, is⟩ | ⟨unfailed, -, is⟩ | ⟨unfailed, -, is⟩
      · -- Whoever has failed is not connected any more.
        have stays : standing id (ops ++ [.markConnected id]) = .failed := by
          simp [standing, failed]
        rw [stays, is, AttemptState.advance?_eq_none_of_isTerminal _ rfl]
        rfl
      all_goals
        have connected : standing id (ops ++ [.markConnected id]) = .connected := by
          simp [standing, unfailed]
        rw [connected, is]
        rfl
  | markFailed id =>
      show standing id (ops ++ [.markFailed id])
        = ((standing id ops).advance? .failed).getD (standing id ops)
      have failed : standing id (ops ++ [.markFailed id]) = .failed := by simp [standing]
      rcases standing_cases id ops with ⟨-, is⟩ | ⟨-, -, is⟩ | ⟨-, -, is⟩ <;>
        rw [failed, is] <;> rfl

theorem standing_concat_of_ne {id : Nat} (ops : List Operation) (apart : id ≠ op.subject) :
    standing id (ops ++ [op]) = standing id ops := by
  have failed : Operation.markFailed id ≠ op := fun same => apart (congrArg Operation.subject same)
  have connected : Operation.markConnected id ≠ op := fun same =>
    apart (congrArg Operation.subject same)
  simp [standing, failed, connected]

theorem run_concat (size : Nat) (ops : List Operation) (op : Operation) :
    run size (ops ++ [op]) = ((run size ops).step op).1 :=
  carryOut_concat step (ofSize size) ops op

theorem history_concat (size : Nat) (ops : List Operation) (op : Operation) :
    history size (ops ++ [op]) = history size ops ++ [(op, ((run size ops).step op).2)] :=
  answered_concat step (ofSize size) ops op

theorem size_run (size : Nat) (ops : List Operation) : (run size ops).size = size := by
  induction ops using List.reverseRecOn with
  | nil => exact List.length_replicate
  | append_singleton ops op ih => rw [run_concat, size_step, ih]

/-- Every member is in the state that the calls say, and nobody else is a member. -/
theorem state?_run (size : Nat) (ops : List Operation) (id : Nat) :
    (run size ops).state? id = if id < size then some (standing id ops) else none := by
  induction ops using List.reverseRecOn with
  | nil => exact List.getElem?_replicate
  | append_singleton ops op ih =>
      rw [run_concat]
      by_cases mine : id = op.subject
      · subst mine
        rw [state?_step_subject, ih, standing_concat_subject]
        split <;> rfl
      · rw [state?_step_of_ne _ mine, ih, standing_concat_of_ne ops mine]

theorem count_aborted_run (size : Nat) (ops : List Operation) :
    (run size ops).count .aborted = 0 := by
  refine (count_eq_zero_iff _ _).mpr fun id => ?_
  rw [state?_run]
  split
  · simpa using standing_ne_aborted id ops
  · simp

/-! ## What is answered -/

/-- A call moves its member if that is one and may go on from what was said of it. -/
theorem moved_run_iff (size : Nat) (ops : List Operation) (op : Operation) :
    ((run size ops).step op).2.moved = true
      ↔ op.subject < size ∧ (standing op.subject ops).canBecome op.target = true := by
  rw [moved_step_iff, state?_run]
  by_cases member : op.subject < size <;> simp [member]

/-- A member is connected by the first call that says so, unless it has failed before. -/
theorem connects_iff (size : Nat) (ops : List Operation) (id : Nat) :
    ((run size ops).step (.markConnected id)).2.moved = true
      ↔ id < size ∧ .markConnected id ∉ ops ∧ .markFailed id ∉ ops :=
  (moved_run_iff size ops (.markConnected id)).trans
    (and_congr_right fun _ => standing_canBecome_connected id ops)

/-- A member fails by the first call that says so. -/
theorem fails_iff (size : Nat) (ops : List Operation) (id : Nat) :
    ((run size ops).step (.markFailed id)).2.moved = true
      ↔ id < size ∧ .markFailed id ∉ ops :=
  (moved_run_iff size ops (.markFailed id)).trans
    (and_congr_right fun _ => standing_canBecome_failed id ops)

/-- Whether an entry of a history is a call that has moved its member. -/
def isMove (op : Operation) (entry : Operation × Answer) : Bool := entry.1 = op && entry.2.moved

/-- A call that has moved its member is one of those made. -/
theorem mem_of_isMove {size : Nat} {ops : List Operation} {op : Operation}
    (h : ∃ entry ∈ history size ops, isMove op entry = true) : op ∈ ops := by
  obtain ⟨entry, he, moved⟩ := h
  obtain ⟨before, after, rfl, -⟩ := exists_of_mem_answered step he
  have same : entry.1 = op := of_decide_eq_true (Bool.and_eq_true_iff.mp moved).1
  simp [same]

/-- No call moves its member twice. -/
theorem countP_isMove_le (size : Nat) (ops : List Operation) (op : Operation) :
    (history size ops).countP (isMove op) ≤ 1 := by
  refine countP_answered_le_one step (fun before last moved => ?_) ops
  have earlier := mem_of_isMove moved
  by_cases again : last = op
  · subst again
    have still : ((run size before).step last).2.moved = false := by
      refine Bool.eq_false_iff.mpr fun moves => ?_
      cases last with
      | markConnected id => exact ((connects_iff size before id).mp moves).2.1 earlier
      | markFailed id => exact ((fails_iff size before id).mp moves).2 earlier
    exact Bool.and_eq_false_iff.mpr (Or.inr still)
  · simp [isMove, again]

/-! ## Adding up the answers

Whoever counts the calls that have moved a member knows how many members are in a state: as many as
were in it at first, plus those that have moved to it, less those that have moved off it
(`count_run`). The counts of connected and failed members are two cases of this. -/

/-- The calls that have connected a member. -/
def connections (size : Nat) (ops : List Operation) : Nat :=
  (history size ops).countP (enters .connected)

/-- The calls by which a member has failed. -/
def failures (size : Nat) (ops : List Operation) : Nat :=
  (history size ops).countP (enters .failed)

/-- The calls by which a member has failed that was connected. -/
def losses (size : Nat) (ops : List Operation) : Nat :=
  (history size ops).countP fun entry =>
    enters .failed entry && entry.2.found = some .connected

/-- The members in a state are those that were in it at first and those that calls have moved to
it, less those that calls have moved off it. -/
theorem count_run (size : Nat) (ops : List Operation) (state : AttemptState) :
    (run size ops).count state + (history size ops).countP (leaves state)
      = (ofSize size).count state + (history size ops).countP (enters state) := by
  induction ops using List.reverseRecOn with
  | nil => rfl
  | append_singleton ops op ih =>
      have balance := (run size ops).count_step op state
      rw [run_concat, history_concat, List.countP_append, List.countP_append,
        List.countP_singleton, List.countP_singleton]
      omega

/-- No call of a run moves a member that has failed, and only one that says so moves a member that
is connected. -/
theorem target_of_leaves {size : Nat} {ops : List Operation} {entry : Operation × Answer}
    (he : entry ∈ history size ops) {state : AttemptState} (left : leaves state entry = true) :
    state ≠ .failed ∧ (state = .connected → entry.1.target = .failed) := by
  obtain ⟨before, -, -, answer⟩ := exists_of_mem_answered step he
  obtain ⟨found, moved⟩ := Bool.and_eq_true_iff.mp left
  rw [answer] at found moved
  exact target_of_moved (of_decide_eq_true found) moved

/-- The members connected are those that calls have connected, less those lost again. -/
theorem count_connected_run (size : Nat) (ops : List Operation) :
    (run size ops).count .connected + losses size ops = connections size ops := by
  have balance := count_run size ops .connected
  have initially : (ofSize size).count .connected = 0 := by simp [ofSize, count]
  -- A member that is connected goes on only to fail, so those moved off are those lost.
  have lost : (history size ops).countP (leaves .connected) = losses size ops := by
    refine List.countP_congr fun entry he => ?_
    constructor
    · intro left
      have target := (target_of_leaves he left).2 rfl
      obtain ⟨found, moved⟩ := Bool.and_eq_true_iff.mp left
      simp [enters, target, moved, of_decide_eq_true found]
    · intro lost
      obtain ⟨entered, found⟩ := Bool.and_eq_true_iff.mp lost
      exact Bool.and_eq_true_iff.mpr ⟨found, (Bool.and_eq_true_iff.mp entered).2⟩
  rw [connections]
  omega

/-- The members that have failed are those that calls have made fail. -/
theorem count_failed_run (size : Nat) (ops : List Operation) :
    (run size ops).count .failed = failures size ops := by
  have balance := count_run size ops .failed
  have initially : (ofSize size).count .failed = 0 := by simp [ofSize, count]
  have kept : (history size ops).countP (leaves .failed) = 0 :=
    List.countP_eq_zero.mpr fun entry he left => (target_of_leaves he left).1 rfl
  rw [failures]
  omega

/-! ## The whole run -/

/-- What holds of a pool of `size` members after some calls. -/
structure Accounted (size : Nat) (ops : List Operation) : Prop where
  /-- Nobody joins or leaves. -/
  size_eq : (run size ops).size = size
  /-- Every member is pending, connected or failed, and none is aborted. -/
  sum_eq : (run size ops).count .pending + (run size ops).count .connected
    + (run size ops).count .failed = size
  aborted_eq : (run size ops).count .aborted = 0
  /-- What a member is follows from what was said of it. -/
  state?_eq : ∀ id, (run size ops).state? id = if id < size then some (standing id ops) else none
  /-- The next call leaves all members but its own as they are. -/
  others : ∀ op id, id ≠ op.subject →
    ((run size ops).step op).1.state? id = (run size ops).state? id
  /-- No member is connected twice, and none fails twice. -/
  once : ∀ op, (history size ops).countP (isMove op) ≤ 1
  /-- The next call connects its member exactly if no call on it has been made before; hence none
  that has failed. -/
  connects_iff : ∀ id, ((run size ops).step (.markConnected id)).2.moved = true
    ↔ id < size ∧ .markConnected id ∉ ops ∧ .markFailed id ∉ ops
  /-- The next call makes its member fail exactly if none has before. -/
  fails_iff : ∀ id, ((run size ops).step (.markFailed id)).2.moved = true
    ↔ id < size ∧ .markFailed id ∉ ops
  /-- A member that was made to fail is not connected by the next call. -/
  barred : ∀ id, (∃ entry ∈ history size ops, isMove (.markFailed id) entry = true) →
    ((run size ops).step (.markConnected id)).2.moved = false
  /-- The members connected are those that calls have connected, less those that were connected
  when calls made them fail. -/
  connected_eq : (run size ops).count .connected + losses size ops = connections size ops
  /-- The members that have failed are those that calls have made fail. -/
  failed_eq : (run size ops).count .failed = failures size ops

/-- **Members are accounted for.** Whatever a pool is told, of members and of others and in any
order: each member is connected once at most and fails once at most, and is not connected after it
has failed, and the answers of the calls add up to the numbers of members in each state. -/
theorem members_accounted (size : Nat) (ops : List Operation) : Accounted size ops where
  size_eq := size_run size ops
  sum_eq := by
    have sum := (run size ops).sum_count
    rw [size_run, count_aborted_run] at sum
    omega
  aborted_eq := count_aborted_run size ops
  state?_eq := state?_run size ops
  others := fun op id apart => state?_step_of_ne _ apart
  once := countP_isMove_le size ops
  connects_iff := connects_iff size ops
  fails_iff := fails_iff size ops
  barred := fun id failed => Bool.eq_false_iff.mpr fun connects =>
    ((connects_iff size ops id).mp connects).2.2 (mem_of_isMove failed)
  connected_eq := count_connected_run size ops
  failed_eq := count_failed_run size ops

/-- A member greeted twice counts once, one that has failed does not count, and neither does one
that does not exist. -/
example :
    (history 3 [.markConnected 0, .markConnected 0, .markFailed 1, .markConnected 1,
      .markConnected 7]).map (·.2.moved) = [true, false, true, false, false] := by
  decide

end StreamLoad.Pool
