import StreamLoad.Proofs.Benchmark.Sessions

/-! # Counting deliveries

A benchmark counts the deliveries of the cycle that it waits for, in any order in which its
tasks run. While it waits, `messages` is the number of members last counted for the current
cycle (`Counted`), and these are the members that the operations since the publish have brought
a payload of that cycle (`mem_receivers_of_published`). `deliveries_accounted` puts both together
for every run of operations and every session.
-/

set_option autoImplicit false

namespace StreamLoad.BenchmarkLedger

variable {size : Nat}

/-! ## What the counting depends on

Most operations change parts of the ledger that have nothing to do with deliveries: stopwatches,
metrics, the pool. `tally` leaves these out, so that for most operations nothing is left to show.
What remains are the ticks and the one kind of operation that counts a delivery. -/

/-- The part of a ledger that the counting of deliveries depends on. -/
structure Tally where
  message : String
  poolSize : Nat
  phase : Phase
  messages : Nat
  cycle : Nat
  lastCounted : List Nat

/-- What the counting of deliveries depends on. -/
def tally (l : BenchmarkLedger) : Tally :=
  { message := l.message
    poolSize := l.machine.poolSize
    phase := l.machine.phase
    messages := l.machine.messages
    cycle := l.machine.cycle
    lastCounted := l.lastCounted }

/-- Whether an operation is counted: it brings a member the payload of the cycle waited for, for
the first time. -/
def Counts (l : BenchmarkLedger) : Operation size → Prop
  | .receive id (.data payload) =>
      l.machine.phase = .waiting ∧ l.lastCounted.getD id 0 < l.machine.cycle
        ∧ Cycle.ofPayload? l.message payload = some l.machine.cycle
  | _ => False

theorem tally_start (l : BenchmarkLedger) (now : Nat) : (l.start now).tally = l.tally := by
  by_cases h : l.machine.phase = .connecting <;> simp [tally, start, PhaseMachine.start, h]

theorem tally_welcome (l : BenchmarkLedger) (id : Nat) : (l.welcome id).tally = l.tally := by
  unfold welcome
  split <;> rfl

theorem tally_lose (l : BenchmarkLedger) (id : Nat) (failure : Failure) :
    (l.lose id failure).1.tally = l.tally := by
  unfold lose
  split <;> rfl

/-- A tick leaves the counting as it is, or ends the cycle waited for, or goes on to the next
cycle. -/
theorem tally_tick (l : BenchmarkLedger) (now : Nat) :
    (l.machine.IsStill ∧ (l.tick now).1.tally = l.tally ∧ (l.tick now).2.1 = none)
    ∨ ((l.machine.phase = .waiting ∧ l.machine.poolSize ≤ l.machine.messages)
        ∧ (l.tick now).1.tally = { l.tally with phase := .messaging, messages := 0 }
        ∧ (l.tick now).2.1 = none)
    ∨ (l.machine.IsDue
        ∧ (l.tick now).1.tally =
          (if l.machine.poolSize ≤ l.machine.messages then
            { l.tally with phase := .messaging, messages := 0, cycle := l.machine.cycle + 1 }
          else { l.tally with phase := .waiting, cycle := l.machine.cycle + 1 })
        ∧ (l.tick now).2.1 = some (l.machine.cycle + 1)) := by
  rcases l.machine.tick_cases now with ⟨still, same, none⟩ | ⟨all, done, none⟩ | ⟨due, next, some⟩
  · exact Or.inl ⟨still, by simp [tally, tick, same], none⟩
  · exact Or.inr (Or.inl ⟨all, by simp [tally, tick, done, PhaseMachine.delivered], none⟩)
  · refine Or.inr (Or.inr ⟨due, ?_, some⟩)
    rw [PhaseMachine.finishCycle_of_waiting rfl] at next
    -- A pool without members has received the cycle as soon as it is published.
    by_cases all : l.machine.poolSize ≤ l.machine.messages <;>
      simp [tally, tick, next, all, PhaseMachine.published, PhaseMachine.delivered]

/-- A greeting counts for a member that waits for it, and for no other. -/
theorem welcome_eq (l : BenchmarkLedger) (id : Nat) :
    l.welcome id =
      if l.pool.state? id = some .pending
      then { l with
        pool := { states := l.pool.states.set id .connected }
        machine := l.machine.recordConnected
        metrics := { l.metrics with connected := some (l.machine.connected + 1) } }
      else l := by
  unfold welcome Pool.markConnected Pool.advance
  cases state : l.pool.state? id with
  | none => rfl
  | some attempt => cases attempt <;> rfl

/-- A cycle is delivered to a member if it is the one waited for and later than the one that the
member was last counted for. -/
theorem deliver_eq (l : BenchmarkLedger) (id cycle : Nat) :
    l.deliver id cycle =
      if l.machine.phase = .waiting ∧ l.lastCounted.getD id 0 < cycle ∧ cycle = l.machine.cycle
      then { l with
        machine := { l.machine with messages := l.machine.messages + 1 }
        lastCounted := l.lastCounted.set id cycle }
      else l := by
  unfold deliver PhaseMachine.recordDelivery
  by_cases later : l.lastCounted.getD id 0 < cycle
  · by_cases due : l.machine.phase = .waiting ∧ cycle = l.machine.cycle
    · simp [due]
    · have other : ¬ (l.machine.phase = .waiting ∧ l.lastCounted.getD id 0 < cycle
          ∧ cycle = l.machine.cycle) := fun h => due ⟨h.1, h.2.2⟩
      rw [if_pos later, if_neg due, if_neg other]
  · have other : ¬ (l.machine.phase = .waiting ∧ l.lastCounted.getD id 0 < cycle
        ∧ cycle = l.machine.cycle) := fun h => later h.2.1
    rw [if_neg later, if_neg other]

/-- An operation that is counted adds one delivery and notes the member. -/
theorem apply_of_counts {l : BenchmarkLedger} {id : Fin size} {payload : String}
    (h : l.Counts (.receive id (.data payload))) :
    l.apply (.receive id (.data payload)) =
      { l with
        machine := { l.machine with messages := l.machine.messages + 1 }
        lastCounted := l.lastCounted.set id l.machine.cycle } := by
  obtain ⟨waits, later, read⟩ := h
  simp only [apply, receive, read, deliver_eq, and_true]
  rw [if_pos ⟨waits, later⟩]

/-- An operation that is neither a tick nor counted leaves the counting as it is. -/
theorem tally_apply_of_not_counts {l : BenchmarkLedger} {op : Operation size}
    (tickless : ∀ now, op ≠ .tick now) (h : ¬ l.Counts op) : (l.apply op).tally = l.tally := by
  cases op with
  | start now => exact tally_start l now
  | tick now => exact absurd rfl (tickless now)
  | refuse id failure => rfl
  | lose id failure => exact tally_lose l id failure
  | receive id event =>
      cases event with
      | welcome => exact tally_welcome l id
      | ping => rfl
      | data payload =>
          simp only [apply, receive]
          cases read : Cycle.ofPayload? l.message payload with
          | none => rfl
          | some cycle =>
              simp only [deliver_eq]
              rw [if_neg]
              rintro ⟨waits, later, rfl⟩
              exact h ⟨waits, later, read⟩

/-- An operation is counted, or is a tick, or leaves the counting as it is. -/
theorem apply_cases (l : BenchmarkLedger) (op : Operation size) :
    (∃ id payload, op = .receive id (.data payload) ∧ l.Counts op) ∨ (∃ now, op = .tick now)
    ∨ ((∀ now, op ≠ .tick now) ∧ ¬ l.Counts op ∧ (l.apply op).tally = l.tally) := by
  by_cases counts : l.Counts op
  · match op, counts with
    | .receive id (.data payload), counts => exact Or.inl ⟨id, payload, rfl, counts⟩
  · by_cases ticks : ∃ now, op = .tick now
    · exact Or.inr (Or.inl ticks)
    · have tickless : ∀ now, op ≠ .tick now := fun now hop => ticks ⟨now, hop⟩
      exact Or.inr (Or.inr ⟨tickless, counts, tally_apply_of_not_counts tickless counts⟩)

/-! ## The counts of every run

A delivery that is counted is also noted for its member, with its cycle, so the count of messages
and the notes can be compared. That they agree is kept because cycles only go up: when a cycle is
published, it cannot be noted for any member yet (`count_next`). -/

/-- What every run keeps: no member is counted for a cycle to come, `messages` is zero unless a
cycle is waited for, and then it is the number of members last counted for that cycle. -/
structure Counted (message : String) (size : Nat) (t : Tally) : Prop where
  message_eq : t.message = message
  poolSize_eq : t.poolSize = size
  length_eq : t.lastCounted.length = size
  past : ∀ c ∈ t.lastCounted, c ≤ t.cycle
  idle : t.phase ≠ .waiting → t.messages = 0
  waiting : t.phase = .waiting → t.messages = t.lastCounted.count t.cycle

theorem counted_empty (message : String) (size : Nat) :
    Counted message size (empty message size).tally where
  message_eq := rfl
  poolSize_eq := rfl
  length_eq := by simp [tally, empty]
  past := by
    intro c hc
    exact Nat.le_of_eq (List.eq_of_mem_replicate hc)
  idle := fun _ => rfl
  waiting := fun h => by cases h

namespace Counted

variable {message : String} {l : BenchmarkLedger}

/-- No more deliveries are counted than there are members. -/
theorem messages_le {t : Tally} (h : Counted message size t) : t.messages ≤ size := by
  by_cases waits : t.phase = .waiting
  · rw [h.waiting waits, ← h.length_eq]
    exact List.count_le_length
  · rw [h.idle waits]
    exact Nat.zero_le size

/-- Nobody is counted yet for the cycle to come. -/
theorem count_next {t : Tally} (h : Counted message size t) :
    t.lastCounted.count (t.cycle + 1) = 0 := by
  rw [List.count_eq_zero]
  intro next
  have := h.past _ next
  omega

theorem tick (h : Counted message size l.tally) (now : Nat) :
    Counted message size (l.tick now).1.tally := by
  have later : ∀ c ∈ l.lastCounted, c ≤ l.machine.cycle + 1 := fun c hc =>
    Nat.le_succ_of_le (h.past c hc)
  rcases tally_tick l now with ⟨-, same, -⟩ | ⟨-, done, -⟩ | ⟨due, next, -⟩
  · exact same ▸ h
  · rw [done]
    exact ⟨h.message_eq, h.poolSize_eq, h.length_eq, h.past, fun _ => rfl, nofun⟩
  · have none : l.machine.messages = 0 := h.idle due.ne_waiting
    rw [next]
    split
    · exact ⟨h.message_eq, h.poolSize_eq, h.length_eq, later, fun _ => rfl, nofun⟩
    · exact ⟨h.message_eq, h.poolSize_eq, h.length_eq, later, fun waits => absurd rfl waits,
        fun _ => none.trans h.count_next.symm⟩

theorem receive {id : Fin size} {payload : String} (h : Counted message size l.tally)
    (counts : l.Counts (.receive id (.data payload))) :
    Counted message size (l.apply (.receive id (.data payload))).tally := by
  have within : (id : Nat) < l.lastCounted.length := by
    have : l.lastCounted.length = size := h.length_eq
    omega
  -- The member was last counted for an earlier cycle, so the count of this one goes up by one.
  have before : l.lastCounted[(id : Nat)] ≠ l.machine.cycle := by
    have := counts.2.1
    rw [List.getD_eq_getElem?_getD, List.getElem?_eq_getElem within] at this
    simp only [Option.getD_some] at this
    omega
  rw [apply_of_counts counts]
  refine ⟨h.message_eq, h.poolSize_eq, ?_, ?_, ?_, ?_⟩
  · exact (List.length_set).trans h.length_eq
  · intro c hc
    rcases List.mem_or_eq_of_mem_set hc with old | rfl
    · exact h.past c old
    · exact Nat.le_refl _
  · exact fun waits => absurd counts.1 waits
  · intro waits
    have counted : l.machine.messages = l.lastCounted.count l.machine.cycle := h.waiting waits
    simp only [tally]
    rw [List.count_set within, counted]
    simp [before]

/-- One operation keeps the counts. -/
theorem apply (h : Counted message size l.tally) (op : Operation size) :
    Counted message size (l.apply op).tally := by
  rcases apply_cases l op with ⟨id, payload, rfl, counts⟩ | ⟨now, rfl⟩ | ⟨-, -, same⟩
  · exact h.receive counts
  · exact h.tick now
  · exact same ▸ h

/-- Every run keeps the counts. -/
theorem run (h : Counted message size l.tally) (ops : List (Operation size)) :
    Counted message size (l.run ops).tally := by
  induction ops generalizing l with
  | nil => exact h
  | cons op ops ih => exact ih (h.apply op)

end Counted

/-! ## The deliveries since a publish

`Counted` speaks of the state of a ledger and `Published` of the run that led to it. To bring the
two together, the run is split at the tick that published the current cycle. At that point nobody is
counted, and from there on a member is noted exactly when it is brought the payload. -/

/-- The cycle never goes back. -/
theorem cycle_le_apply (l : BenchmarkLedger) (op : Operation size) :
    l.machine.cycle ≤ (l.apply op).machine.cycle := by
  rcases apply_cases l op with ⟨id, payload, rfl, counts⟩ | ⟨now, rfl⟩ | ⟨-, -, same⟩
  · rw [apply_of_counts counts]
  · show l.tally.cycle ≤ (l.tick now).1.tally.cycle
    rcases tally_tick l now with ⟨-, same, -⟩ | ⟨-, done, -⟩ | ⟨-, next, -⟩
    · rw [same]
    · rw [done]
    · rw [next]
      split <;> exact Nat.le_succ _
  · exact Nat.le_of_eq (congrArg Tally.cycle same).symm

theorem cycle_le_run (l : BenchmarkLedger) (ops : List (Operation size)) :
    l.machine.cycle ≤ (l.run ops).machine.cycle := by
  induction ops generalizing l with
  | nil => exact Nat.le_refl _
  | cons op ops ih => exact (cycle_le_apply l op).trans (ih (l.apply op))

/-- A ledger that waits for a cycle after an operation has waited for it before, unless the
operation has published it. -/
theorem waiting_of_apply {l : BenchmarkLedger} {op : Operation size}
    (waits : (l.apply op).machine.phase = .waiting)
    (same : (l.apply op).machine.cycle = l.machine.cycle) : l.machine.phase = .waiting := by
  rcases apply_cases l op with ⟨id, payload, rfl, counts⟩ | ⟨now, rfl⟩ | ⟨-, -, kept⟩
  · exact counts.1
  · have hw : (l.tick now).1.tally.phase = .waiting := waits
    have hc : (l.tick now).1.tally.cycle = l.machine.cycle := same
    rcases tally_tick l now with ⟨-, kept, -⟩ | ⟨⟨hp, -⟩, -, -⟩ | ⟨-, next, -⟩
    · rwa [kept] at hw
    · exact hp
    · rw [next] at hc
      split at hc <;> simp at hc
  · exact (congrArg Tally.phase kept).symm.trans waits

/-- A payload counts exactly if it is of the cycle waited for and its member has not been counted
for that cycle. -/
theorem Counted.counts_iff {message : String} {l : BenchmarkLedger}
    (h : Counted message size l.tally) (waits : l.machine.phase = .waiting) (id : Fin size)
    (payload : String) :
    l.Counts (.receive id (.data payload)) ↔
      Cycle.ofPayload? message payload = some l.machine.cycle
        ∧ l.lastCounted[(id : Nat)]? ≠ some l.machine.cycle := by
  have within : (id : Nat) < l.lastCounted.length := by
    have : l.lastCounted.length = size := h.length_eq
    omega
  have past : l.lastCounted[(id : Nat)] ≤ l.machine.cycle := h.past _ (List.getElem_mem within)
  have hm : l.message = message := h.message_eq
  simp only [Counts, hm, waits, true_and, List.getD_eq_getElem?_getD,
    List.getElem?_eq_getElem within, Option.getD_some, ne_eq, Option.some_inj]
  constructor
  · rintro ⟨early, read⟩
    exact ⟨read, Nat.ne_of_lt early⟩
  · rintro ⟨read, apart⟩
    exact ⟨Nat.lt_of_le_of_ne past apart, read⟩

/-- While a cycle is waited for, the members last counted for it are those that the operations
since its publish have brought a payload of it. -/
theorem lastCounted_iff_mem_receivers {message : String} {l : BenchmarkLedger}
    (h : Counted message size l.tally) (fresh : ∀ c ∈ l.lastCounted, c < l.machine.cycle)
    {after : List (Operation size)} (same : (l.run after).machine.cycle = l.machine.cycle)
    (waits : (l.run after).machine.phase = .waiting) (id : Fin size) :
    (l.run after).lastCounted[(id : Nat)]? = some l.machine.cycle
      ↔ id ∈ receivers message l.machine.cycle after := by
  -- From the last operation backwards; the cycle and the phase are those of the operations before.
  induction after using List.reverseRecOn with
  | nil =>
      have none : l.lastCounted[(id : Nat)]? ≠ some l.machine.cycle := fun hc =>
        Nat.lt_irrefl _ (fresh _ (List.mem_of_getElem? hc))
      simp [receivers, none]
  | append_singleton ops op ih =>
      have hrun : l.run (ops ++ [op]) = (l.run ops).apply op := by simp [run_append]
      rw [hrun] at same waits ⊢
      have mono := cycle_le_apply (l.run ops) op
      have cycle_eq : (l.run ops).machine.cycle = l.machine.cycle :=
        Nat.le_antisymm (by omega) (cycle_le_run l ops)
      have waited := waiting_of_apply waits (same.trans cycle_eq.symm)
      have counted := h.run ops
      rw [receivers_append, Finset.mem_union, ← ih cycle_eq waited, mem_receivers_singleton]
      rcases apply_cases (l.run ops) op with ⟨reader, payload, rfl, counts⟩ | ⟨now, rfl⟩
        | ⟨-, uncounted, kept⟩
      · -- The member counted is the one that the payload is brought.
        have read : Cycle.ofPayload? message payload = some l.machine.cycle := by
          have := counts.2.2
          rwa [show (l.run ops).message = message from counted.message_eq, cycle_eq] at this
        have within : (id : Nat) < (l.run ops).lastCounted.length := by
          have : (l.run ops).lastCounted.length = size := counted.length_eq
          omega
        rw [apply_of_counts counts, cycle_eq]
        by_cases hid : reader = id
        · subst hid
          simp [Operation.brings, read, List.getElem?_set_self within]
        · have apart : (reader : Nat) ≠ id := fun heq => hid (Fin.ext heq)
          simp [Operation.brings, hid, List.getElem?_set_ne apart]
      · exact ⟨Or.inl, fun hc => hc.resolve_right (by simp [Operation.brings])⟩
      · -- A payload of the cycle is left uncounted only if its member has been counted already.
        rw [show ((l.run ops).apply op).lastCounted = (l.run ops).lastCounted from
          congrArg Tally.lastCounted kept]
        refine ⟨Or.inl, fun hc => hc.elim (fun old => old) fun brought => ?_⟩
        obtain ⟨payload, rfl, read⟩ := Operation.brings_iff.mp brought
        rw [← cycle_eq] at read ⊢
        by_contra apart
        exact uncounted ((counted.counts_iff waited id payload).mpr ⟨read, apart⟩)

/-- The ledger right after a publish: the new cycle is the current one, and nobody has been
counted for it. -/
theorem fresh_of_publish {message : String} {l : BenchmarkLedger}
    (h : Counted message size l.tally) {now cycle : Nat} (hp : (l.tick now).2.1 = some cycle) :
    (l.tick now).1.machine.cycle = cycle ∧ ∀ c ∈ (l.tick now).1.lastCounted, c < cycle := by
  rcases tally_tick l now with ⟨-, -, none⟩ | ⟨-, -, none⟩ | ⟨-, next, some⟩
  · rw [none] at hp
    cases hp
  · rw [none] at hp
    cases hp
  · rw [some] at hp
    cases hp
    constructor
    · show (l.tick now).1.tally.cycle = l.machine.cycle + 1
      rw [next]
      split <;> rfl
    · intro c hc
      exact Nat.lt_succ_of_le (h.past c hc)

/-- The members last counted for the cycle waited for are those that have received it since its
publish. -/
theorem mem_receivers_of_published {message : String} {ops after : List (Operation size)}
    (hp : Published (empty message size) ops ((empty message size).run ops).machine.cycle after)
    (waits : ((empty message size).run ops).machine.phase = .waiting) (id : Fin size) :
    ((empty message size).run ops).lastCounted[(id : Nat)]?
        = some ((empty message size).run ops).machine.cycle
      ↔ id ∈ receivers message ((empty message size).run ops).machine.cycle after := by
  obtain ⟨before, now, rfl, published⟩ := hp
  have counted := (counted_empty message size).run before
  have hrun : (empty message size).run (before ++ .tick now :: after)
      = (((empty message size).run before).tick now).1.run after := by
    rw [run_append]
    rfl
  obtain ⟨current, fresh⟩ := fresh_of_publish counted published
  rw [hrun] at waits current fresh ⊢
  have key := lastCounted_iff_mem_receivers (counted.tick now)
    (fun c hc => current ▸ fresh c hc) current.symm waits id
  rwa [current] at key

/-- A ledger that waits for a cycle has published it. -/
theorem exists_published {l : BenchmarkLedger} (unwaited : l.machine.phase ≠ .waiting)
    {ops : List (Operation size)} (waits : (l.run ops).machine.phase = .waiting) :
    ∃ after, Published l ops (l.run ops).machine.cycle after := by
  induction ops using List.reverseRecOn with
  | nil => exact absurd waits unwaited
  | append_singleton ops op ih =>
      have hrun : l.run (ops ++ [op]) = (l.run ops).apply op := by simp [run_append]
      rw [hrun] at waits ⊢
      by_cases same : ((l.run ops).apply op).machine.cycle = (l.run ops).machine.cycle
      · obtain ⟨after, before, now, rfl, published⟩ := ih (waiting_of_apply waits same)
        exact ⟨after ++ [op], before, now, by simp, same ▸ published⟩
      · -- Only a tick changes the cycle, and it does so by publishing the next one.
        rcases apply_cases (l.run ops) op with ⟨id, payload, rfl, counts⟩ | ⟨now, rfl⟩
          | ⟨-, -, kept⟩
        · exact absurd (by rw [apply_of_counts counts]) same
        · refine ⟨[], ops, now, rfl, ?_⟩
          rcases tally_tick (l.run ops) now with ⟨-, kept, -⟩ | ⟨-, kept, -⟩ | ⟨-, next, some⟩
          · exact absurd (congrArg Tally.cycle kept) same
          · exact absurd (congrArg Tally.cycle kept) same
          · have current : ((l.run ops).tick now).1.machine.cycle
                = (l.run ops).machine.cycle + 1 := by
              show ((l.run ops).tick now).1.tally.cycle = _
              rw [next]
              split <;> rfl
            rw [some]
            exact congrArg Option.some current.symm
        · exact absurd (congrArg Tally.cycle kept) same

/-- The number of members last counted for a cycle, as the size of a set of members. -/
theorem count_lastCounted {l : BenchmarkLedger} (h : l.lastCounted.length = size) (cycle : Nat) :
    l.lastCounted.count cycle
      = (Finset.univ.filter fun id : Fin size =>
          l.lastCounted[(id : Nat)]? = some cycle).card := by
  have key := Fin.card_filter_univ_eq_vector_get_eq_count cycle
    (⟨l.lastCounted, h⟩ : List.Vector Nat size)
  rw [List.Vector.toList_mk] at key
  rw [← key]
  congr 1
  ext id
  have within : (id : Nat) < l.lastCounted.length := by omega
  rw [Finset.mem_filter, Finset.mem_filter, List.getElem?_eq_getElem within]
  simp [List.Vector.get]

/-! ## Deliveries are accounted for -/

/-- How the deliveries of a run are accounted for; `after` is what has happened since the publish
of the current cycle. -/
structure Accounted (message : String) (ops : List (Operation size)) (l : BenchmarkLedger) :
    Prop where
  messages_le : l.machine.messages ≤ size
  /-- No delivery is counted unless a cycle is waited for. -/
  idle : l.machine.phase ≠ .waiting → l.machine.messages = 0
  /-- The cycle waited for has been published. -/
  published : l.machine.phase = .waiting →
    ∃ after, Published (empty message size) ops l.machine.cycle after
  /-- The deliveries counted are the members that have received the cycle since its publish. -/
  messages_eq : l.machine.phase = .waiting →
    ∀ after, Published (empty message size) ops l.machine.cycle after →
      l.machine.messages = (receivers message l.machine.cycle after).card
  /-- These are the members last counted for the cycle. -/
  lastCounted_iff : l.machine.phase = .waiting →
    ∀ after, Published (empty message size) ops l.machine.cycle after → ∀ id : Fin size,
      (l.lastCounted[(id : Nat)]? = some l.machine.cycle
        ↔ id ∈ receivers message l.machine.cycle after)
  /-- A tick ends the wait exactly when all members have received the cycle. -/
  tick_iff : l.machine.phase = .waiting →
    ∀ after, Published (empty message size) ops l.machine.cycle after → ∀ now,
      ((l.tick now).1.machine.phase = .messaging
        ↔ ∀ id, id ∈ receivers message l.machine.cycle after)
  /-- The next payload counts exactly if it is of the cycle waited for, and the first of it that
  its member receives since the publish. -/
  receive_eq : l.machine.phase = .waiting →
    ∀ after, Published (empty message size) ops l.machine.cycle after → ∀ (id : Fin size) payload,
      (l.receive id (.data payload)).machine.messages = l.machine.messages
        + if Cycle.ofPayload? message payload = some l.machine.cycle
            ∧ id ∉ receivers message l.machine.cycle after then 1 else 0

/-- The deliveries counted are as many as the members that have received the cycle. -/
theorem messages_eq_card {message : String} {ops after : List (Operation size)}
    (hp : Published (empty message size) ops ((empty message size).run ops).machine.cycle after)
    (waits : ((empty message size).run ops).machine.phase = .waiting) :
    ((empty message size).run ops).machine.messages
      = (receivers message ((empty message size).run ops).machine.cycle after).card := by
  have counted := (counted_empty message size).run ops
  calc ((empty message size).run ops).machine.messages
      = ((empty message size).run ops).lastCounted.count
          ((empty message size).run ops).machine.cycle := counted.waiting waits
    _ = (Finset.univ.filter fun id : Fin size =>
          ((empty message size).run ops).lastCounted[(id : Nat)]?
            = some ((empty message size).run ops).machine.cycle).card :=
        count_lastCounted counted.length_eq _
    _ = (receivers message ((empty message size).run ops).machine.cycle after).card := by
        congr 1
        ext id
        rw [Finset.mem_filter, mem_receivers_of_published hp waits]
        simp

/-- While a cycle is waited for, a tick ends the wait exactly if enough deliveries are counted. -/
theorem phase_tick_of_waiting {l : BenchmarkLedger} (waits : l.machine.phase = .waiting)
    (now : Nat) :
    (l.tick now).1.machine.phase = .messaging ↔ l.machine.poolSize ≤ l.machine.messages := by
  show (l.tick now).1.tally.phase = .messaging ↔ _
  rcases tally_tick l now with ⟨still, same, -⟩ | ⟨⟨-, all⟩, done, -⟩ | ⟨due, -, -⟩
  · rw [same]
    rcases still with ⟨hp, -⟩ | ⟨-, few⟩
    · rw [hp] at waits
      cases waits
    · simp [tally, waits, few]
  · rw [done]
    simp [all]
  · exact absurd waits due.ne_waiting

theorem messages_receive (l : BenchmarkLedger) (id : Fin size) (payload : String)
    [Decidable (l.Counts (.receive id (.data payload)))] :
    (l.receive id (.data payload)).machine.messages = l.machine.messages
      + if l.Counts (.receive id (.data payload)) then 1 else 0 := by
  show (l.apply (.receive id (.data payload))).machine.messages = _
  split
  · rename_i counts
    rw [apply_of_counts counts]
  · rename_i uncounted
    exact congrArg Tally.messages (tally_apply_of_not_counts (by simp) uncounted)

/-- Every run is accounted for. -/
theorem accounted_run (message : String) (ops : List (Operation size)) :
    Accounted message ops ((empty message size).run ops) := by
  have counted := (counted_empty message size).run ops
  refine ⟨counted.messages_le, counted.idle, exists_published (by simp [empty]),
    fun waits after hp => messages_eq_card hp waits,
    fun waits after hp => mem_receivers_of_published hp waits, ?_, ?_⟩
  · intro waits after hp now
    have pool : ((empty message size).run ops).machine.poolSize = size := counted.poolSize_eq
    rw [phase_tick_of_waiting waits, pool, messages_eq_card hp waits]
    constructor
    · intro all id
      -- A set of members that has as many elements as there are members holds all of them.
      have full : (receivers message ((empty message size).run ops).machine.cycle after).card
          = Fintype.card (Fin size) :=
        Nat.le_antisymm (Finset.card_le_univ _) (by rwa [Fintype.card_fin])
      rw [Finset.card_eq_iff_eq_univ] at full
      rw [full]
      exact Finset.mem_univ id
    · intro all
      have full : receivers message ((empty message size).run ops).machine.cycle after
          = Finset.univ := Finset.eq_univ_of_forall all
      rw [full, Finset.card_univ, Fintype.card_fin]
  · intro waits after hp id payload
    have iff_counts := counted.counts_iff waits id payload
    rw [ne_eq, mem_receivers_of_published hp waits] at iff_counts
    -- `Counts` is a proposition about texts, which need not be decided here.
    classical
    rw [messages_receive]
    simp only [iff_counts]

/-- **Each member counts once for each cycle.** Whatever order the tasks of a benchmark run in,
`messages` is zero unless a cycle is waited for, and then it is the number of members that have
received the cycle since its publish; a tick ends the wait exactly when that is all of them. The
ledger of a session, whatever it is told to do, is the outcome of such a run. -/
theorem deliveries_accounted :
    (∀ (message : String) (size : Nat) (ops : List (Operation size)),
      Accounted message ops ((empty message size).run ops))
    ∧ ∀ (settings : BenchmarkSettings) (client : Client) (server : Server)
        (steps : List Benchmark.Session.Step),
      ∃ ops : List (Operation settings.poolSize),
        ((Benchmark.Session.start settings client server).run steps).ledger
            = (empty settings.message settings.poolSize).run ops
          ∧ Accounted settings.message ops
              ((Benchmark.Session.start settings client server).run steps).ledger := by
  refine ⟨fun message _ ops => accounted_run message ops, ?_⟩
  intro settings client server steps
  obtain ⟨ops, hops⟩ := Benchmark.Session.exists_run_eq settings client server steps
  exact ⟨ops, hops, hops ▸ accounted_run settings.message ops⟩

end StreamLoad.BenchmarkLedger
