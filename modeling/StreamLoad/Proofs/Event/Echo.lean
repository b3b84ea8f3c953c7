import StreamLoad.Proofs.Benchmark.Rounds
import StreamLoad.Proofs.Event.Cuttings
import StreamLoad.Proofs.Net.Publish

/-! # Messages that come back as one event

A server echoes what is published as a line and a blank line. The check of a message refuses all
that would end the line early, and the hyphen and the number keep the payload apart from the
greeting and from what keeps a stream alive. So the payload of every cycle of an accepted message
comes back as itself, as far as it is found at all. What the check does not look at is the length:
a message can be accepted whose line is longer than what is held of a line. `echoes_found` says
that length alone decides: up to the limit an echo is found however it is cut, from twice the limit
on it never is, and between the two the cutting decides.
-/

set_option autoImplicit false

namespace StreamLoad

open Event (lineFeed written ofLine?_written_payload)
open Decimal (limit64)

/-! ## Echoes -/

/-- What a server writes on every stream for a payload: its line and a blank line. -/
def echo (payload : String) : List UInt8 := Text.utf8 ("data: " ++ payload ++ "\n\n")

theorem echo_eq (payload : String) : echo payload = written payload ++ [lineFeed, lineFeed] := by
  have ends : Text.utf8 "\n\n" = [lineFeed, lineFeed] := by decide
  rw [echo, Text.utf8_append, ends, written]

/-- A text of ASCII has a byte for each character. -/
theorem Text.length_utf8_of_isAscii {cs : List Char} (h : ∀ c ∈ cs, Domain.isAscii c = true) :
    (utf8 (String.ofList cs)).length = cs.length := by
  have one : ∀ c ∈ cs, (String.utf8EncodeChar c).length = 1 := by
    intro c hc
    rw [utf8EncodeChar_of_le (Nat.le_of_lt_succ (of_decide_eq_true (h c hc))),
      List.length_singleton]
  rw [utf8_ofList, List.length_flatMap, List.map_congr_left one, List.map_const',
    List.sum_replicate_nat, Nat.mul_one]

/-- The line of a payload has as many bytes as the message, one for each digit, and seven more. -/
theorem length_written_payload (message : String) (cycle : Nat) :
    (written (Cycle.payload message cycle)).length
      = (Text.utf8 message).length + (Decimal.digits cycle).length + 7 := by
  have number : (Text.utf8 (Decimal.text cycle)).length = (Decimal.digits cycle).length :=
    Text.length_utf8_of_isAscii fun c hc =>
      Host.isAscii_of_isPlainChar (Host.isPlainChar_of_isDigit (Decimal.digits_isDigit hc))
  have hyphen : (Text.utf8 "-").length = 1 := by decide
  have field : (Text.utf8 "data: ").length = 6 := by decide
  rw [written, Cycle.payload, Text.utf8_append, Text.utf8_append, Text.utf8_append,
    List.length_append, List.length_append, List.length_append, number, hyphen, field]
  omega

/-- The payloads of an accepted message are free of line feeds. -/
theorem lineFeed_not_mem_payload {message : String} (fit : Settings.IsFit message.toList)
    (cycle : Nat) : lineFeed ∉ written (Cycle.payload message cycle) := by
  refine Event.lineFeed_not_mem_written fun feed => ?_
  exact absurd ((Cycle.isFit_payload fit cycle).isDropped '\n' feed) (by decide)

/-! ## What is found of an echo

An echo is a line and a blank line, and the latter carries nothing. So an echo is found just if the
line of its payload is not outgrown, and what is known of cuttings and lines applies to it. -/

/-- Whether chunks are found to hold one event and no other, which carries a payload that is read
as a cycle of a message. -/
def YieldsCycle (message : String) (cycle : Nat) (chunks : List (List UInt8)) : Prop :=
  ∃ text, (({} : Scanner).feedAll chunks).2 = [.data text]
    ∧ Cycle.ofPayload? message text = some cycle

section Echo

variable {message : String} {cycle : Nat} {chunks : List (List UInt8)}

/-- The line of a payload, where it stands in the echo. -/
def payloadLine (message : String) (cycle : Nat) : Line :=
  ⟨0, written (Cycle.payload message cycle)⟩

theorem completeLines_echo (fit : Settings.IsFit message.toList) (cycle : Nat) :
    completeLines 0 (echo (Cycle.payload message cycle))
      = [payloadLine message cycle,
          ⟨(written (Cycle.payload message cycle)).length + 1, []⟩] := by
  have blank (start : Nat) : completeLines start [lineFeed] = [⟨start, []⟩] := by
    have first := completeLines_cons (List.not_mem_nil : lineFeed ∉ []) start []
    rwa [completeLines_of_not_mem List.not_mem_nil] at first
  rw [echo_eq, completeLines_cons (lineFeed_not_mem_payload fit cycle), blank, Nat.zero_add]
  rfl

theorem payloadLine_mem (fit : Settings.IsFit message.toList) (cycle : Nat) :
    payloadLine message cycle ∈ completeLines 0 (echo (Cycle.payload message cycle)) := by
  rw [completeLines_echo fit]
  exact List.mem_cons_self

/-- The blank line carries nothing, so that all depends on the line of the payload. -/
theorem events_echo (fit : Settings.IsFit message.toList)
    (whole : chunks.flatten = echo (Cycle.payload message cycle)) :
    (({} : Scanner).feedAll chunks).2
      = if (payloadLine message cycle).isOutgrown chunks then []
        else [.data (Cycle.payload message cycle)] := by
  have blank (start : Nat) : (⟨start, []⟩ : Line).event? chunks = none := by
    rw [Line.event?, show Event.ofLine? [] = none from rfl, ite_self]
  have line : (payloadLine message cycle).event? chunks
      = if (payloadLine message cycle).isOutgrown chunks then none
        else some (.data (Cycle.payload message cycle)) := by
    rw [Line.event?, payloadLine, ofLine?_written_payload]
  rw [events_eq_lineEvents, lineEvents, whole, completeLines_echo fit, List.filterMap_cons, line,
    List.filterMap_cons, blank]
  cases (payloadLine message cycle).isOutgrown chunks <;> rfl

/-- An echo is found unless its line is outgrown, and then nothing is found. -/
theorem yieldsCycle_iff (fit : Settings.IsFit message.toList) (within : cycle ≤ limit64)
    (whole : chunks.flatten = echo (Cycle.payload message cycle)) :
    YieldsCycle message cycle chunks ↔ (payloadLine message cycle).isOutgrown chunks = false := by
  rw [YieldsCycle, events_echo fit whole]
  cases (payloadLine message cycle).isOutgrown chunks with
  | true => simp
  | false => simpa using Cycle.ofPayload?_payload within

/-- A chunk that ends beyond the limit, and not behind the line, loses the echo. -/
theorem events_echo_of_endsAt (fit : Settings.IsFit message.toList)
    (whole : chunks.flatten = echo (Cycle.payload message cycle)) {n : Nat}
    (ends : EndsAt chunks n) (beyond : lineLimit < n)
    (inside : n ≤ (written (Cycle.payload message cycle)).length) :
    (({} : Scanner).feedAll chunks).2 = [] := by
  have outgrown : (payloadLine message cycle).isOutgrown chunks = true :=
    Line.isOutgrown_iff.mpr ⟨n, ends, by simpa [payloadLine] using beyond,
      by simpa [payloadLine, Line.finish] using inside⟩
  rw [events_echo fit whole, if_pos outgrown]

/-- Byte by byte, an echo is lost if its line is too long. -/
theorem not_yieldsCycle_singles (fit : Settings.IsFit message.toList)
    (long : lineLimit < (written (Cycle.payload message cycle)).length) :
    ¬ YieldsCycle message cycle (singles (echo (Cycle.payload message cycle))) := by
  have ends : EndsAt (singles (echo (Cycle.payload message cycle)))
      (written (Cycle.payload message cycle)).length :=
    endsAt_singles (by simp [echo_eq])
  rintro ⟨text, found, -⟩
  rw [events_echo_of_endsAt fit (flatten_singles _) ends long (Nat.le_refl _)] at found
  cases found

/-- An echo whose line is shorter than twice the limit is found in some cutting. -/
theorem exists_yieldsCycle (fit : Settings.IsFit message.toList) (within : cycle ≤ limit64)
    (short : (written (Cycle.payload message cycle)).length < 2 * lineLimit) :
    ∃ chunks, IsCutting (echo (Cycle.payload message cycle)) chunks
      ∧ YieldsCycle message cycle chunks := by
  by_cases held : (written (Cycle.payload message cycle)).length ≤ lineLimit
  · refine ⟨_, isCutting_singles _, ?_⟩
    rw [yieldsCycle_iff fit within (flatten_singles _)]
    exact Line.isOutgrown_of_le held
  · -- One chunk takes the line across the limit and to its end at once.
    have leap : IsCutting (echo (Cycle.payload message cycle)) (leaping lineLimit
        ((written (Cycle.payload message cycle)).length + 1 - lineLimit) _) :=
      isCutting_leaping (by omega) _ _
    refine ⟨_, leap, ?_⟩
    rw [yieldsCycle_iff fit within leap.1, Bool.eq_false_iff, ne_eq]
    intro outgrown
    have found := event?_leaping (payloadLine_mem fit cycle) (Nat.not_le.mp held)
    rw [payloadLine, Nat.zero_add, Line.event?, ofLine?_written_payload] at found
    rw [payloadLine] at outgrown
    rw [if_pos outgrown] at found
    cases found

end Echo

/-- **Echoes that are found.** The payload of a cycle of an accepted message comes back as one event
that is read as the cycle, or nothing comes back. It does in every cutting of the echo exactly if
its line is within the limit, and in some cutting exactly if its line is shorter than twice the
limit. -/
theorem echoes_found {s : Settings} (accepted : s.checkBenchmark = .ok ()) {cycle : Nat}
    (within : cycle ≤ limit64) :
    ((∀ chunks, IsCutting (echo (Cycle.payload s.benchmark.message cycle)) chunks →
        YieldsCycle s.benchmark.message cycle chunks)
      ↔ (Text.utf8 s.benchmark.message).length + (Decimal.digits cycle).length + 7 ≤ lineLimit)
    ∧ ((∃ chunks, IsCutting (echo (Cycle.payload s.benchmark.message cycle)) chunks ∧
        YieldsCycle s.benchmark.message cycle chunks)
      ↔ (Text.utf8 s.benchmark.message).length + (Decimal.digits cycle).length + 7
          < 2 * lineLimit)
    ∧ ∀ chunks, IsCutting (echo (Cycle.payload s.benchmark.message cycle)) chunks →
        ¬ YieldsCycle s.benchmark.message cycle chunks →
        (({} : Scanner).feedAll chunks).2 = [] := by
  have fit := Settings.isFit_of_checkBenchmark accepted
  rw [← length_written_payload]
  refine ⟨⟨fun found => ?_, fun short chunks cut => ?_⟩,
    ⟨?_, exists_yieldsCycle fit within⟩, fun chunks cut lost => ?_⟩
  · by_contra long
    exact not_yieldsCycle_singles fit (Nat.not_le.mp long) (found _ (isCutting_singles _))
  · rw [yieldsCycle_iff fit within cut.1]
    exact Line.isOutgrown_of_le short
  · rintro ⟨chunks, cut, found⟩
    rw [yieldsCycle_iff fit within cut.1] at found
    by_contra long
    rw [cut.isOutgrown (payloadLine_mem fit cycle) (Nat.not_lt.mp long)] at found
    cases found
  · rw [yieldsCycle_iff fit within cut.1, Bool.not_eq_false] at lost
    rw [events_echo fit cut.1, if_pos lost]

/-- A message beyond ASCII, in the last cycle there is. -/
theorem echoes_found_last :
    ({ benchmark := { message := "grüße" } } : Settings).checkBenchmark = .ok ()
    ∧ ∀ chunks, IsCutting (echo (Cycle.payload "grüße" limit64)) chunks →
        YieldsCycle "grüße" limit64 chunks := by
  have accepted : ({ benchmark := { message := "grüße" } } : Settings).checkBenchmark = .ok () := by
    decide
  have short : (Text.utf8 "grüße").length + (Decimal.digits limit64).length + 7 ≤ lineLimit := by
    decide
  exact ⟨accepted, (echoes_found accepted (Nat.le_refl limit64)).1.mpr short⟩

/-! ## A message that is too long by one byte -/

/-- The check passes any message of fit characters. -/
theorem checkBenchmark_of_isFit {message : String} (given : message ≠ "")
    (fit : Settings.IsFit message.toList) :
    ({ benchmark := { message := message } } : Settings).checkBenchmark = .ok () := by
  have some : message.isEmpty = false := by
    rwa [Bool.eq_false_iff, ne_eq, String.isEmpty_iff]
  have all : message.toList.all Settings.isFitForMessage = true := List.all_eq_true.mpr fit
  simp only [Settings.checkBenchmark, some, all]
  rfl

/-- In chunks that break off at the limit, before the line feeds and behind them, an echo whose line
is one byte too long is lost. -/
theorem lost_in_three_chunks {message : String} (fit : Settings.IsFit message.toList) {cycle : Nat}
    (length : (written (Cycle.payload message cycle)).length = lineLimit + 1) :
    IsCutting (echo (Cycle.payload message cycle))
        [(written (Cycle.payload message cycle)).take lineLimit,
          (written (Cycle.payload message cycle)).drop lineLimit, [lineFeed, lineFeed]]
    ∧ (({} : Scanner).feedAll
        [(written (Cycle.payload message cycle)).take lineLimit,
          (written (Cycle.payload message cycle)).drop lineLimit,
          [lineFeed, lineFeed]]).2 = [] := by
  have cut : IsCutting (echo (Cycle.payload message cycle))
      [(written (Cycle.payload message cycle)).take lineLimit,
        (written (Cycle.payload message cycle)).drop lineLimit, [lineFeed, lineFeed]] := by
    refine ⟨by simp [echo_eq, ← List.append_assoc], fun chunk hc => ?_⟩
    rw [List.mem_cons, List.mem_pair] at hc
    rcases hc with rfl | rfl | rfl
    · exact List.length_take_le _ _
    · rw [length_drop_lineLimit length]
      decide
    · decide
  have ends : EndsAt
      [(written (Cycle.payload message cycle)).take lineLimit,
        (written (Cycle.payload message cycle)).drop lineLimit, [lineFeed, lineFeed]]
      (lineLimit + 1) := by
    refine ⟨[_, _], ⟨[_], rfl⟩, ?_⟩
    rw [List.flatten_cons, List.flatten_singleton, List.take_append_drop, length]
  exact ⟨cut, events_echo_of_endsAt fit cut.1 ends (Nat.lt_succ_self _) (Nat.le_of_eq length.symm)⟩

/-- A message of so many times the letter `x`. -/
def longMessage (n : Nat) : String := String.ofList (List.replicate n 'x')

theorem isFit_longMessage (n : Nat) : Settings.IsFit (longMessage n).toList := by
  intro c hc
  rw [longMessage, String.toList_ofList] at hc
  rw [List.eq_of_mem_replicate hc]
  decide

theorem length_written_longMessage (n : Nat) :
    (written (Cycle.payload (longMessage n) 1)).length = n + 8 := by
  have ascii : ∀ c ∈ List.replicate n 'x', Domain.isAscii c = true :=
    fun c hc => List.eq_of_mem_replicate hc ▸ by decide
  rw [length_written_payload, longMessage, Text.length_utf8_of_isAscii ascii, List.length_replicate]
  rfl

/-- A message is accepted that is too long for its echoes to be found. -/
theorem long_message_lost :
    ({ benchmark := { message := longMessage 65529 } } : Settings).checkBenchmark = .ok ()
    ∧ IsCutting (echo (Cycle.payload (longMessage 65529) 1))
        [(written (Cycle.payload (longMessage 65529) 1)).take lineLimit,
          (written (Cycle.payload (longMessage 65529) 1)).drop lineLimit, [lineFeed, lineFeed]]
    ∧ (({} : Scanner).feedAll
        [(written (Cycle.payload (longMessage 65529) 1)).take lineLimit,
          (written (Cycle.payload (longMessage 65529) 1)).drop lineLimit,
          [lineFeed, lineFeed]]).2 = [] := by
  have fit := isFit_longMessage 65529
  have length : (written (Cycle.payload (longMessage 65529) 1)).length = lineLimit + 1 :=
    length_written_longMessage 65529
  have given : longMessage 65529 ≠ "" := by
    intro none
    have bytes := length_written_longMessage 65529
    rw [none] at bytes
    exact absurd bytes (by decide)
  exact ⟨checkBenchmark_of_isFit given fit, lost_in_three_chunks fit length⟩

end StreamLoad
