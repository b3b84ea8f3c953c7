import StreamLoad.Proofs.Benchmark.Delivery
import StreamLoad.Proofs.Lists
import Mathlib.Tactic.IntervalCases

/-! # The payloads that are read as a cycle

A payload is read as a cycle if it is the message, a hyphen and a number. The last hyphen of such a
payload stands before its number, since no number holds one, so that the payload of one message is
never read as one of another (`payloads_apart`). But a number is read in more ways than it is
written: after an optional plus sign, and after any number of zeros (`Decimal.padded`). A payload
with such a number is no payload that is ever published, and it is counted all the same
(`padded_payloads_read`).
-/

set_option autoImplicit false

namespace StreamLoad

/-! ## The ways to write a number

A number that is read back from its digits may also be read from other texts. They are characterised
here once and for all: digits of a value are those written for it after some zeros, and a plus sign
may come first. -/

namespace Decimal

/-- A number after an optional plus sign and some zeros. -/
def padded (signed : Bool) (zeros n : Nat) : List Char :=
  (if signed then ['+'] else []) ++ (List.replicate zeros '0' ++ digits n)

theorem padded_false_zero (n : Nat) : padded false 0 n = digits n := rfl

/-- A digit is the one of its value. -/
theorem exists_digitChar {c : Char} (h : c.isDigit = true) :
    ∃ d, d < 10 ∧ c = Nat.digitChar d ∧ c.toNat - '0'.toNat = d := by
  obtain ⟨low, high⟩ := Char.isDigit_iff_toNat.mp h
  have low : 48 ≤ c.toNat := low
  have high : c.toNat ≤ 57 := high
  refine ⟨c.toNat - 48, by omega, ?_, rfl⟩
  rw [← Char.ofNat_toNat c]
  generalize c.toNat = n at low high
  interval_cases n <;> decide

/-- Digits are those of their value, after some zeros. -/
theorem eq_zeros_append_digits {cs : List Char} (ne : cs ≠ [])
    (all : ∀ c ∈ cs, c.isDigit = true) :
    ∃ zeros, cs = List.replicate zeros '0' ++ digits (Nat.ofDigitChars 10 cs 0) := by
  induction cs using List.reverseRecOn with
  | nil => exact absurd rfl ne
  | append_singleton front c ih =>
      obtain ⟨d, small, rfl, value⟩ := exists_digitChar (all c (by simp))
      have last : digits d = [Nat.digitChar d] := Nat.toDigits_of_lt_base small
      rw [Nat.ofDigitChars_append, Nat.ofDigitChars_cons, Nat.ofDigitChars_nil, value]
      by_cases none : front = []
      · subst none
        refine ⟨0, ?_⟩
        rw [Nat.ofDigitChars_nil, Nat.mul_zero, Nat.zero_add, last]
        rfl
      · obtain ⟨zeros, split⟩ := ih none fun c hc => all c (by simp [hc])
        generalize Nat.ofDigitChars 10 front 0 = n at split
        -- What comes before the last digit counts unless it is zeros only.
        rcases Nat.eq_zero_or_pos n with rfl | positive
        · refine ⟨zeros + 1, ?_⟩
          have zero : digits 0 = ['0'] := rfl
          rw [split, zero, Nat.mul_zero, Nat.zero_add, last, List.replicate_succ']
        · refine ⟨zeros, ?_⟩
          have joined : digits n ++ digits d = digits (10 * n + d) :=
            Nat.toDigits_append_toDigits (by decide) positive small
          calc front ++ [Nat.digitChar d]
              = List.replicate zeros '0' ++ (digits n ++ digits d) := by
                rw [split, List.append_assoc, last]
            _ = List.replicate zeros '0' ++ digits (10 * n + d) := by rw [joined]

theorem ofDigitChars_zeros_append (zeros n : Nat) :
    Nat.ofDigitChars 10 (List.replicate zeros '0' ++ digits n) 0 = n := by
  induction zeros with
  | zero => exact Nat.ofDigitChars_toDigits (by decide) (by decide)
  | succ zeros ih => exact ih

theorem isDigit_of_mem_zeros_append {zeros n : Nat} {c : Char}
    (h : c ∈ List.replicate zeros '0' ++ digits n) : c.isDigit = true := by
  rcases List.mem_append.mp h with zero | digit
  · rw [List.eq_of_mem_replicate zero]
    rfl
  · exact digits_isDigit digit

theorem readDigits?_eq_some_iff {limit n : Nat} {cs : List Char} :
    readDigits? limit cs = some n
      ↔ n ≤ limit ∧ ∃ zeros, cs = List.replicate zeros '0' ++ digits n := by
  have filtered (ne : cs ≠ []) : readDigits? limit cs = (value? cs).filter (· ≤ limit) := by
    unfold readDigits?
    split
    · exact absurd rfl ne
    · rfl
  constructor
  · intro read
    have ne : cs ≠ [] := by
      rintro rfl
      cases read
    rw [filtered ne, Option.filter_eq_some_iff] at read
    obtain ⟨valued, within⟩ := read
    unfold value? at valued
    split at valued
    · rename_i all
      cases valued
      exact ⟨of_decide_eq_true within, eq_zeros_append_digits ne (List.all_eq_true.mp all)⟩
    · cases valued
  · rintro ⟨within, zeros, rfl⟩
    -- Some digit is there, and all of them are digits, so that they are read as a number.
    have ne : List.replicate zeros '0' ++ digits n ≠ [] := fun none =>
      digits_ne_nil n (List.append_eq_nil_iff.mp none).2
    have all : (List.replicate zeros '0' ++ digits n).all Char.isDigit = true :=
      List.all_eq_true.mpr fun _ hc => isDigit_of_mem_zeros_append hc
    rw [filtered ne, value?, if_pos all, ofDigitChars_zeros_append]
    simp [Option.filter, within]

/-- A number is read exactly from its digits, after an optional plus sign and some zeros. -/
theorem read?_eq_some_iff {limit n : Nat} {cs : List Char} :
    read? limit cs = some n ↔ n ≤ limit ∧ ∃ signed zeros, cs = padded signed zeros n := by
  -- A plus sign is no digit, so it is told apart from what is read without one.
  have plain (zeros : Nat) {rest : List Char} :
      '+' :: rest ≠ List.replicate zeros '0' ++ digits n := by
    intro same
    have digit : Char.isDigit '+' = true :=
      isDigit_of_mem_zeros_append (same ▸ List.mem_cons_self)
    exact absurd digit (by decide)
  unfold read?
  split
  · rename_i rest
    rw [readDigits?_eq_some_iff]
    constructor
    · rintro ⟨within, zeros, rfl⟩
      exact ⟨within, true, zeros, rfl⟩
    · rintro ⟨within, signed, zeros, split⟩
      cases signed with
      | true => exact ⟨within, zeros, (List.cons.inj split).2⟩
      | false => exact absurd split (plain zeros)
  · rename_i unsigned
    rw [readDigits?_eq_some_iff]
    constructor
    · rintro ⟨within, zeros, rfl⟩
      exact ⟨within, false, zeros, rfl⟩
    · rintro ⟨within, signed, zeros, rfl⟩
      cases signed with
      | true => exact absurd rfl (unsigned _)
      | false => exact ⟨within, zeros, rfl⟩

theorem hyphen_not_mem_padded (signed : Bool) (zeros n : Nat) : '-' ∉ padded signed zeros n := by
  rw [padded, List.mem_append]
  rintro (sign | digit)
  · cases signed <;> simp at sign
  · exact absurd (isDigit_of_mem_zeros_append digit) (by decide)

theorem length_padded (signed : Bool) (zeros n : Nat) :
    (padded signed zeros n).length = signed.toNat + zeros + (digits n).length := by
  cases signed with
  | true =>
      simp [padded]
      omega
  | false => simp [padded]

end Decimal

namespace Cycle

open Decimal (padded limit64)

/-! ## Payloads that are read

Neither the digits nor the signs of a number are hyphens. So the last hyphen of a payload that is
read is the one before the number, and both the message and the number can be told from the payload,
however the number is written. -/

/-- A payload with the number of a cycle after an optional plus sign and some zeros. -/
def paddedPayload (message : String) (signed : Bool) (zeros cycle : Nat) : String :=
  message ++ "-" ++ String.ofList (padded signed zeros cycle)

/-- The payload that is published has neither. -/
theorem payload_eq (message : String) (cycle : Nat) :
    payload message cycle = paddedPayload message false 0 cycle := rfl

theorem toList_paddedPayload (message : String) (signed : Bool) (zeros cycle : Nat) :
    (paddedPayload message signed zeros cycle).toList
      = message.toList ++ '-' :: padded signed zeros cycle := by
  simp [paddedPayload]

theorem after?_eq_some_iff {head cs rest : List Char} :
    after? head cs = some rest ↔ cs = head ++ rest := by
  constructor
  · intro found
    induction head generalizing cs with
    | nil =>
        cases found
        rfl
    | cons h head ih =>
        cases cs with
        | nil => cases found
        | cons c cs =>
            simp only [after?] at found
            split at found
            · rename_i same
              rw [same, List.cons_append, ih found]
            · cases found
  · rintro rfl
    exact after?_append head rest

/-- The payloads that are read as a cycle are its payload and those with more before the number. -/
theorem ofPayload?_eq_some_iff {message text : String} {cycle : Nat} :
    ofPayload? message text = some cycle
      ↔ cycle ≤ limit64 ∧ ∃ signed zeros, text = paddedPayload message signed zeros cycle := by
  constructor
  · intro read
    obtain ⟨tag, after, number⟩ := Option.bind_eq_some_iff.mp read
    split at number
    · rename_i cs
      obtain ⟨within, signed, zeros, rfl⟩ := Decimal.read?_eq_some_iff.mp number
      refine ⟨within, signed, zeros, ?_⟩
      rw [← String.toList_inj, toList_paddedPayload]
      exact after?_eq_some_iff.mp after
    · cases number
  · rintro ⟨within, signed, zeros, rfl⟩
    have number : Decimal.read? limit64 (padded signed zeros cycle) = some cycle :=
      Decimal.read?_eq_some_iff.mpr ⟨within, signed, zeros, rfl⟩
    simp [ofPayload?, toList_paddedPayload, after?_append, number]

/-- What stands before the last hyphen and after it make out the message and the number. -/
theorem paddedPayload_inj {message other : String} {signed signed' : Bool}
    {zeros zeros' cycle cycle' : Nat}
    (same : paddedPayload message signed zeros cycle = paddedPayload other signed' zeros' cycle') :
    message = other ∧ padded signed zeros cycle = padded signed' zeros' cycle' := by
  have chars := congrArg String.toList same
  rw [toList_paddedPayload, toList_paddedPayload] at chars
  have number := eq_of_append_cons_eq chars (Decimal.hyphen_not_mem_padded signed zeros cycle)
    (Decimal.hyphen_not_mem_padded signed' zeros' cycle')
  rw [number] at chars
  exact ⟨String.toList_inj.mp (List.append_cancel_right chars), number⟩

/-- A payload with a plus sign or superfluous zeros is not the one that is published. -/
theorem paddedPayload_eq_payload_iff {message : String} {signed : Bool} {zeros cycle : Nat} :
    paddedPayload message signed zeros cycle = payload message cycle
      ↔ signed = false ∧ zeros = 0 := by
  constructor
  · intro same
    rw [payload_eq] at same
    have length := congrArg List.length (paddedPayload_inj same).2
    rw [Decimal.length_padded, Decimal.length_padded] at length
    cases signed with
    | true => simp at length
    | false => exact ⟨rfl, by simpa using length⟩
  · rintro ⟨rfl, rfl⟩
    rfl

/-- A payload of one message is not read as one of another. -/
theorem ofPayload?_payload_of_ne {message other : String} (apart : other ≠ message) (cycle : Nat) :
    ofPayload? message (payload other cycle) = none := by
  rw [Option.eq_none_iff_forall_ne_some]
  intro read hread
  obtain ⟨-, signed, zeros, same⟩ := ofPayload?_eq_some_iff.mp hread
  rw [payload_eq] at same
  exact apart (paddedPayload_inj same).1

theorem payload_eq_payload_iff {message other : String} {cycle later : Nat} :
    payload message cycle = payload other later ↔ message = other ∧ cycle = later := by
  constructor
  · intro same
    rw [payload_eq, payload_eq] at same
    obtain ⟨rfl, digits⟩ := paddedPayload_inj same
    have value := congrArg Decimal.value? digits
    rw [Decimal.padded_false_zero, Decimal.padded_false_zero, Decimal.value?_digits,
      Decimal.value?_digits] at value
    exact ⟨rfl, Option.some.inj value⟩
  · rintro ⟨rfl, rfl⟩
    rfl

/-- The payload of a cycle is neither the greeting nor one that keeps a stream alive. -/
theorem ofPayload_payload (message : String) (cycle : Nat) :
    Event.ofPayload (payload message cycle) = .data (payload message cycle) := by
  have hyphen : '-' ∈ (payload message cycle).toList := by
    rw [payload_eq, toList_paddedPayload]
    simp
  have apart {word : String} (none : '-' ∉ word.toList) : payload message cycle ≠ word := by
    rintro rfl
    exact none hyphen
  rw [Event.ofPayload, if_neg (apart (by decide)), if_neg (apart (by decide))]

end Cycle

/-! ## Payloads that members count -/

namespace BenchmarkLedger

variable {size : Nat}

theorem message_apply (l : BenchmarkLedger) (op : Operation size) :
    (l.apply op).message = l.message := by
  rcases apply_cases l op with ⟨id, payload, rfl, counts⟩ | ⟨now, rfl⟩ | ⟨-, -, same⟩
  · rw [apply_of_counts counts]
  · rfl
  · exact congrArg Tally.message same

theorem message_run (l : BenchmarkLedger) (ops : List (Operation size)) :
    (l.run ops).message = l.message := by
  induction ops generalizing l with
  | nil => rfl
  | cons op ops ih => exact (ih (l.apply op)).trans (message_apply l op)

/-- A member counts a payload if a cycle is waited for, the member has not been counted for it, and
the payload is read as that cycle. -/
theorem messages_receive_eq_succ_iff (l : BenchmarkLedger) (id : Fin size) (text : String) :
    (l.receive id (.data text)).machine.messages = l.machine.messages + 1
      ↔ l.machine.phase = .waiting ∧ l.lastCounted.getD id 0 < l.machine.cycle
        ∧ Cycle.ofPayload? l.message text = some l.machine.cycle := by
  classical
  rw [messages_receive]
  show _ ↔ l.Counts (.receive id (.data text))
  split <;> simp [*]

/-- A payload of another message changes nothing. -/
theorem receive_payload_of_ne {l : BenchmarkLedger} {other : String} (apart : other ≠ l.message)
    (id cycle : Nat) : l.receive id (Event.ofPayload (Cycle.payload other cycle)) = l := by
  rw [Cycle.ofPayload_payload]
  simp only [receive, Cycle.ofPayload?_payload_of_ne apart]

end BenchmarkLedger

namespace Cycle

open Decimal (limit64)
open BenchmarkLedger (Operation)

/-- **Payloads that are read without being published.** A payload is read as a cycle exactly if it
is the payload of that cycle, but for a plus sign and zeros before the number. So the payload of the
cycle is the only one that is read as it, as long as there is nothing before the number; and a
member that waits for the cycle counts whatever is read as it. -/
theorem padded_payloads_read (message text : String) {cycle : Nat} (within : cycle ≤ limit64) :
    (ofPayload? message text = some cycle
      ↔ ∃ signed zeros, text = paddedPayload message signed zeros cycle)
    ∧ ((ofPayload? message text = some cycle ↔ text = payload message cycle)
      ↔ ∀ signed zeros, text = paddedPayload message signed zeros cycle →
          signed = false ∧ zeros = 0)
    ∧ ∀ {size : Nat} (l : BenchmarkLedger) (id : Fin size),
        l.message = message → l.machine.cycle = cycle →
        ((l.receive id (.data text)).machine.messages = l.machine.messages + 1
          ↔ (l.machine.phase = .waiting ∧ l.lastCounted.getD id 0 < cycle)
            ∧ ∃ signed zeros, text = paddedPayload message signed zeros cycle) := by
  have read : ofPayload? message text = some cycle
      ↔ ∃ signed zeros, text = paddedPayload message signed zeros cycle := by
    rw [ofPayload?_eq_some_iff, and_iff_right within]
  refine ⟨read, ?_, ?_⟩
  · constructor
    · intro alone signed zeros padded
      have same : text = payload message cycle := alone.mp (read.mpr ⟨signed, zeros, padded⟩)
      exact paddedPayload_eq_payload_iff.mp (padded.symm.trans same)
    · intro plain
      constructor
      · intro found
        obtain ⟨signed, zeros, padded⟩ := read.mp found
        obtain ⟨rfl, rfl⟩ := plain signed zeros padded
        exact padded
      · rintro rfl
        exact ofPayload?_payload within
  · rintro size l id rfl rfl
    rw [BenchmarkLedger.messages_receive_eq_succ_iff, read, and_assoc]

/-- Zeros before the number of the first cycle. -/
theorem padded_payloads_read_zeros :
    1 ≤ limit64
    ∧ ofPayload? "msg" "msg-001" = some 1
    ∧ ¬ (ofPayload? "msg" "msg-001" = some 1 ↔ "msg-001" = payload "msg" 1)
    ∧ (((BenchmarkLedger.empty "msg" 1).run
          [.start 0, .receive (0 : Fin 1) .welcome, .tick 0]).receive (0 : Fin 1)
            (.data "msg-001")).machine.messages = 1 := by
  obtain ⟨read, only, counted⟩ := padded_payloads_read "msg" "msg-001" (show 1 ≤ limit64 by decide)
  have zeros : "msg-001" = paddedPayload "msg" false 2 1 := by decide
  refine ⟨by decide, read.mpr ⟨false, 2, zeros⟩, fun alone => ?_, ?_⟩
  · exact absurd (only.mp alone false 2 zeros).2 (by decide)
  · exact (counted ((BenchmarkLedger.empty "msg" 1).run
      [.start 0, .receive (0 : Fin 1) .welcome, .tick 0]) 0 (by decide) (by decide)).mpr
        ⟨by decide, false, 2, zeros⟩

/-- A plus sign does not keep a payload from being read, and the member that receives it is counted
as one that has received the payload of the cycle. -/
theorem signed_payload_counted :
    ofPayload? "msg" "msg-+1" = some 1 ∧ "msg-+1" ≠ payload "msg" 1
    ∧ ((BenchmarkLedger.empty "msg" 1).run
        [.start 0, .receive (0 : Fin 1) .welcome, .tick 0, .receive 0 (.data "msg-+1")]).machine.messages
          = 1 := by
  decide

/-- **No payload is taken for another.** A payload is read as the cycle that it was made of by its
own message and as none by any other, so that no two are the same; and whatever a run is made of, a
payload of another message that a member receives within it makes no difference. -/
theorem payloads_apart :
    (∀ (message other : String) (cycle : Nat), cycle ≤ limit64 →
      ofPayload? message (payload other cycle) = if message = other then some cycle else none)
    ∧ (∀ (message other : String) (cycle later : Nat),
      payload message cycle = payload other later ↔ message = other ∧ cycle = later)
    ∧ ∀ {size : Nat} (l : BenchmarkLedger) (before after : List (Operation size)) (id : Fin size)
        (other : String) (cycle : Nat), other ≠ l.message →
        l.run (before ++ .receive id (Event.ofPayload (payload other cycle)) :: after)
          = l.run (before ++ after) := by
  refine ⟨?_, fun _ _ _ _ => payload_eq_payload_iff, ?_⟩
  · intro message other cycle within
    split
    · rename_i same
      rw [same]
      exact ofPayload?_payload within
    · rename_i apart
      exact ofPayload?_payload_of_ne (Ne.symm apart) cycle
  · intro size l before after id other cycle apart
    rw [← BenchmarkLedger.message_run l before] at apart
    have same : (l.run before).apply (.receive id (Event.ofPayload (payload other cycle)))
        = l.run before := BenchmarkLedger.receive_payload_of_ne apart id cycle
    rw [BenchmarkLedger.run_append, BenchmarkLedger.run_append, BenchmarkLedger.run_cons, same]

/-- One message is the beginning of the other, which itself ends as a payload of the first. -/
theorem payloads_apart_nested :
    2 ≤ limit64
    ∧ ofPayload? "a" (payload "a-1" 2) = none
    ∧ ofPayload? "a-1" (payload "a-1" 2) = some 2
    ∧ ofPayload? "a-1" (payload "a" 1) = none
    ∧ "a-1" ≠ (BenchmarkLedger.empty "a" 1).message
    ∧ (BenchmarkLedger.empty "a" 1).run
        [.start 0, .receive (0 : Fin 1) .welcome, .tick 0,
          .receive 0 (Event.ofPayload (payload "a-1" 1)), .tick 5]
      = (BenchmarkLedger.empty "a" 1).run
        [.start 0, .receive (0 : Fin 1) .welcome, .tick 0, .tick 5] := by
  obtain ⟨read, -, unchanged⟩ := payloads_apart
  exact ⟨by decide, read "a" "a-1" 2 (by decide), read "a-1" "a-1" 2 (by decide),
    read "a-1" "a" 1 (by decide), by decide,
    unchanged (BenchmarkLedger.empty "a" 1) [.start 0, .receive (0 : Fin 1) .welcome, .tick 0]
      [.tick 5] 0 "a-1" 1 (by decide)⟩

end Cycle

end StreamLoad
