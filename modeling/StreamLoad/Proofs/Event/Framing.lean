import StreamLoad.Proofs.Event.Cuttings
import StreamLoad.Proofs.Event.Short

/-! # Streams that are written line by line

A server writes an event as a line with its payload and a blank line, and may write comments and
other fields at any place between two events (`Entry`). It may leave out the blank before a payload
that does not begin with one, and may put a carriage return before each line feed. All of this is
taken off again when the stream is read: however it is cut into chunks, a new scanner finds the
events of the payloads, in order, and holds nothing in the end (`framed_events_read_back`).

The scanner is done with first. What it finds in a stream are the events of the complete lines
(`Scanner.feedAll_of_short`), so that all the rest is about one line at a time.
-/

set_option autoImplicit false

namespace StreamLoad

open Event (lineFeed carriageReturn blank ofLine? trimReturn trimBlank dataValue?)

/-! ## Streams whose lines are within the limit

Lines that carry no event may be as long as they like, as it makes no difference whether they are
discarded. What matters is that those with an event are within the limit. -/

/-- A new scanner is left with the line under way, as long as that is within the limit. -/
theorem Scanner.feedAll_fst {chunks : List (List UInt8)}
    (short : (unfinished chunks.flatten).length ≤ lineLimit) :
    (({} : Scanner).feedAll chunks).1 = after chunks.flatten := by
  have follows := Follows.feedAll chunks
  have kept : (({} : Scanner).feedAll chunks).1.discarding = false := by
    rw [Bool.eq_false_iff, ne_eq, follows.discarding_iff]
    rintro ⟨n, ends, beyond⟩
    have total := lineStart_add chunks.flatten
    have within := ends.le
    omega
  have held := follows.held kept
  generalize (({} : Scanner).feedAll chunks).1 = s at kept held
  cases s with
  | mk bytes discarding =>
      cases kept
      cases held
      rfl

/-- A new scanner finds the events of all complete lines, as long as those that carry one are
within the limit. -/
theorem Scanner.feedAll_of_short {chunks : List (List UInt8)}
    (lines : ∀ line ∈ completed [] chunks.flatten, line.length ≤ lineLimit ∨ ofLine? line = none)
    (rest : (unfinished chunks.flatten).length ≤ lineLimit) :
    ({} : Scanner).feedAll chunks
      = (after chunks.flatten, (completed [] chunks.flatten).filterMap ofLine?) := by
  refine Prod.ext (feedAll_fst rest) ?_
  have bytes : (completeLines 0 chunks.flatten).map Line.bytes = completed [] chunks.flatten := by
    simpa using map_bytes_completeLines 0 [] chunks.flatten
  rw [← bytes] at lines
  show (({} : Scanner).feedAll chunks).2 = _
  rw [events_eq_lineEvents, lineEvents, ← bytes, List.filterMap_map]
  refine List.filterMap_congr fun line hl => ?_
  rcases lines _ (List.mem_map_of_mem hl) with short | none
  · rw [Line.event?, Line.isOutgrown_of_le short]
    rfl
  · rw [Line.event?, Function.comp_apply, none, ite_self]

/-- The complete lines of a stream that is made of lines are these lines. -/
theorem splitOn_flatMap_lines {lines : List (List UInt8)} (free : ∀ line ∈ lines, lineFeed ∉ line) :
    (lines.flatMap (· ++ [lineFeed])).splitOn lineFeed = lines ++ [[]] := by
  induction lines with
  | nil => rfl
  | cons line lines ih =>
      rw [List.flatMap_cons, List.append_assoc, List.singleton_append,
        List.splitOn_append_cons_self_of_not_mem (free line List.mem_cons_self),
        ih fun other ho => free other (List.mem_cons_of_mem line ho), List.cons_append]

/-! ## What stands on a stream -/

/-- What a server writes on a stream. -/
inductive Entry where
  /-- An event: a line with its payload, with or without a blank before it, and a blank line; the
  lines end with a line feed, with or without a carriage return before it. -/
  | event (payload : String) (spaced returned : Bool)
  /-- A line that is no `data` field, less its line feed. -/
  | other (line : List UInt8)
deriving DecidableEq, Repr

namespace Entry

/-- What stands before a payload. -/
def field (spaced : Bool) : String := if spaced then "data: " else "data:"

/-- What stands before a line feed. -/
def lineEnd (returned : Bool) : List UInt8 := if returned then [carriageReturn] else []

/-- The lines of an entry, less their line feeds. -/
def lines : Entry → List (List UInt8)
  | event payload spaced returned =>
      [Text.utf8 (field spaced ++ payload) ++ lineEnd returned, lineEnd returned]
  | other line => [line]

/-- The bytes of an entry. -/
def bytes : Entry → List UInt8
  | event payload spaced returned =>
      Text.utf8 (field spaced ++ payload) ++ (lineEnd returned ++ [lineFeed])
        ++ (lineEnd returned ++ [lineFeed])
  | other line => line ++ [lineFeed]

theorem bytes_eq (entry : Entry) : entry.bytes = entry.lines.flatMap (· ++ [lineFeed]) := by
  cases entry <;> simp [bytes, lines]

/-- The payload of an entry, if it is an event. -/
def payload? : Entry → Option String
  | event payload _ _ => some payload
  | other _ => none

/-- Whether an entry can be read back: a payload holds no line feed, does not end in a carriage
return, and begins with a blank only behind another one, and its line is within the limit; any
other line holds no line feed and does not begin as a payload's line does, however long it is. -/
def IsFit : Entry → Prop
  | event payload spaced returned =>
      '\n' ∉ payload.toList ∧ payload.toList.getLast? ≠ some '\r'
        ∧ (spaced = false → payload.toList.head? ≠ some ' ')
        ∧ (Text.utf8 (field spaced ++ payload) ++ lineEnd returned).length ≤ lineLimit
  | other line => lineFeed ∉ line ∧ ¬ Text.utf8 (field false) <+: line

instance : DecidablePred IsFit
  | event _ _ _ => inferInstanceAs (Decidable (_ ∧ _))
  | other _ => inferInstanceAs (Decidable (_ ∧ _))

end Entry

/-! ## One line read back

A line is read by taking off a carriage return at its end, the name of the field, and one blank.
Each of these might also take off something of the payload, which is what the conditions on a
payload exclude. -/

namespace Event

/-- The first byte of a text is a blank only if its first character is. -/
theorem head?_utf8_ne {text : String} (h : text.toList.head? ≠ some ' ') :
    (Text.utf8 text).head? ≠ some blank := by
  rw [Text.utf8_eq]
  cases chars : text.toList with
  | nil => simp
  | cons c rest =>
      rw [chars, List.head?_cons, ne_eq, Option.some_inj] at h
      rw [List.flatMap_cons, List.head?_append,
        List.head?_eq_some_head String.utf8EncodeChar_ne_nil, Option.some_or, ne_eq,
        Option.some_inj]
      -- All bytes of a character beyond ASCII are at least 128.
      intro first
      have byte : blank ∈ Text.utf8 (String.ofList [c]) := by
        rw [Text.utf8_ofList, List.flatMap_singleton, ← first]
        exact List.head_mem _
      obtain ⟨other, ho, same⟩ := (Text.mem_utf8_iff (by decide)).mp byte
      rw [String.toList_ofList, List.mem_singleton] at ho
      exact h (ho ▸ Char.toNat_inj.mp (same.trans (by decide)))

theorem trimBlank_of_head?_ne {value : List UInt8} (h : value.head? ≠ some blank) :
    trimBlank value = value := by
  cases value with
  | nil => rfl
  | cons b value =>
      have other : b ≠ blank := fun same => h (by rw [same, List.head?_cons])
      rw [trimBlank, if_neg other]

theorem trimReturn_append_return (line : List UInt8) :
    trimReturn (line ++ [carriageReturn]) = line := by
  rw [trimReturn, List.getLast?_concat, if_pos rfl, List.dropLast_concat]

/-- A line that does not begin as a `data` field carries nothing. -/
theorem ofLine?_eq_none {line : List UInt8} (h : ¬ Text.utf8 "data:" <+: line) :
    ofLine? line = none := by
  have field : Text.utf8 "data:" = [0x64, 0x61, 0x74, 0x61, 0x3A] := by decide
  have begins : trimReturn line <+: line := by
    unfold trimReturn
    split
    · exact List.dropLast_prefix line
    · exact List.prefix_rfl
  have none : dataValue? (trimReturn line) = none := by
    unfold dataValue?
    split
    · rename_i value split
      refine absurd (List.IsPrefix.trans ?_ begins) h
      rw [field, split]
      exact ⟨value, rfl⟩
    · rfl
  rw [ofLine?, none]
  rfl

end Event

namespace Entry

/-- The line of a payload, without what may stand before its line feed. -/
theorem utf8_field_append (spaced : Bool) (payload : String) :
    Text.utf8 (field spaced ++ payload)
      = [0x64, 0x61, 0x74, 0x61, 0x3A] ++ ((if spaced then [blank] else []) ++ Text.utf8 payload) := by
  have start : Text.utf8 (field spaced)
      = [0x64, 0x61, 0x74, 0x61, 0x3A] ++ if spaced then [blank] else [] := by
    cases spaced <;> decide
  rw [Text.utf8_append, start, List.append_assoc]

theorem trimReturn_line {payload : String} (h : payload.toList.getLast? ≠ some '\r')
    (spaced returned : Bool) :
    trimReturn (Text.utf8 (field spaced ++ payload) ++ lineEnd returned)
      = Text.utf8 (field spaced ++ payload) := by
  cases returned with
  | true => exact Event.trimReturn_append_return _
  | false =>
      -- An empty payload leaves the field, which does not end in a carriage return either.
      have last : (field spaced ++ payload).toList.getLast? ≠ some '\r' := by
        rw [String.toList_append, List.getLast?_append]
        cases ends : payload.toList.getLast? with
        | none => cases spaced <;> decide
        | some c => rwa [Option.some_or, ← ends]
      rw [lineEnd, if_neg Bool.false_ne_true, List.append_nil, trimReturn,
        if_neg (Event.getLast?_utf8_ne last)]

theorem trimBlank_value {payload : String} {spaced : Bool}
    (h : spaced = false → payload.toList.head? ≠ some ' ') :
    trimBlank ((if spaced then [blank] else []) ++ Text.utf8 payload) = Text.utf8 payload := by
  cases spaced with
  | true => rfl
  | false => exact Event.trimBlank_of_head?_ne (Event.head?_utf8_ne (h rfl))

/-- The line of a payload carries its event. -/
theorem ofLine?_line {payload : String} {spaced : Bool}
    (last : payload.toList.getLast? ≠ some '\r')
    (first : spaced = false → payload.toList.head? ≠ some ' ') (returned : Bool) :
    ofLine? (Text.utf8 (field spaced ++ payload) ++ lineEnd returned)
      = some (.ofPayload payload) := by
  have value : dataValue? (Text.utf8 (field spaced ++ payload)) = some (Text.utf8 payload) := by
    rw [utf8_field_append]
    exact congrArg some (trimBlank_value first)
  rw [ofLine?, trimReturn_line last, value]
  simp [Text.ofUtf8?_utf8]

/-! ## All lines of an entry -/

variable {entry : Entry}

theorem lineFeed_not_mem_lineEnd (returned : Bool) : lineFeed ∉ lineEnd returned := by
  cases returned <;> decide

/-- No line of an entry holds a line feed. -/
theorem IsFit.free (h : entry.IsFit) : ∀ line ∈ entry.lines, lineFeed ∉ line := by
  cases entry with
  | event payload spaced returned =>
      have data : lineFeed ∉ Text.utf8 (field spaced ++ payload) := by
        intro feed
        obtain ⟨c, hc, same⟩ := (Text.mem_utf8_iff (by decide)).mp feed
        obtain rfl : c = '\n' := Char.toNat_inj.mp (same.trans (by decide))
        rw [String.toList_append, List.mem_append] at hc
        rcases hc with field | text
        · cases spaced <;> exact absurd field (by decide)
        · exact h.1 text
      simp [lines, data, lineFeed_not_mem_lineEnd]
  | other line => simpa [lines] using h.1

/-- The lines of an entry that carry an event are within the limit. -/
theorem IsFit.short (h : entry.IsFit) :
    ∀ line ∈ entry.lines, line.length ≤ lineLimit ∨ ofLine? line = none := by
  cases entry with
  | event payload spaced returned =>
      intro line hl
      rcases List.mem_pair.mp hl with rfl | rfl
      · exact Or.inl h.2.2.2
      · exact Or.inl (by cases returned <;> decide)
  | other line => simp [lines, Event.ofLine?_eq_none h.2]

/-- The lines of an entry carry the event of its payload and no other. -/
theorem IsFit.filterMap_lines (h : entry.IsFit) :
    entry.lines.filterMap ofLine? = entry.payload?.toList.map .ofPayload := by
  cases entry with
  | event payload spaced returned =>
      have empty : ofLine? (lineEnd returned) = none := by cases returned <;> rfl
      simp [lines, payload?, ofLine?_line h.2.1 h.2.2.1, empty]
  | other line => simp [lines, payload?, Event.ofLine?_eq_none h.2]

/-- The events of all lines are those of all payloads. -/
theorem filterMap_flatMap_lines {entries : List Entry} (fit : ∀ entry ∈ entries, entry.IsFit) :
    (entries.flatMap lines).filterMap ofLine?
      = (entries.filterMap payload?).map Event.ofPayload := by
  induction entries with
  | nil => rfl
  | cons entry entries ih =>
      rw [List.flatMap_cons, List.filterMap_append, (fit entry List.mem_cons_self).filterMap_lines,
        ih fun other ho => fit other (List.mem_cons_of_mem entry ho)]
      cases event : entry.payload? <;> simp [event]

end Entry

/-- **Framed events are read back.** A new scanner that is fed a stream of events, with any lines
of other fields between them and in any chunks, finds the events of the payloads, each once and in
order, and holds nothing in the end. -/
theorem framed_events_read_back {entries : List Entry} (fit : ∀ entry ∈ entries, entry.IsFit)
    {chunks : List (List UInt8)} (whole : chunks.flatten = entries.flatMap Entry.bytes) :
    ({} : Scanner).feedAll chunks = ({}, (entries.filterMap Entry.payload?).map Event.ofPayload) := by
  -- No line of an entry has a line feed in it, so the stream splits where it was put together.
  have split : chunks.flatten.splitOn lineFeed = entries.flatMap Entry.lines ++ [[]] := by
    have stream : entries.flatMap Entry.bytes
        = (entries.flatMap Entry.lines).flatMap (· ++ [lineFeed]) := by
      rw [List.flatMap_assoc]
      exact List.flatMap_congr fun entry _ => entry.bytes_eq
    rw [whole, stream]
    refine splitOn_flatMap_lines fun line hl => ?_
    obtain ⟨entry, he, hl⟩ := List.mem_flatMap.mp hl
    exact (fit entry he).free line hl
  have lines : completed [] chunks.flatten = entries.flatMap Entry.lines := by
    rw [completed, unfinished_nil, List.nil_append, split, List.dropLast_concat]
  have rest : unfinished chunks.flatten = [] := by
    rw [unfinished, split, List.getLast?_concat]
    rfl
  have short : ∀ line ∈ completed [] chunks.flatten,
      line.length ≤ lineLimit ∨ ofLine? line = none := by
    intro line hl
    rw [lines] at hl
    obtain ⟨entry, he, hl⟩ := List.mem_flatMap.mp hl
    exact (fit entry he).short line hl
  calc ({} : Scanner).feedAll chunks
      = (Scanner.after chunks.flatten, (completed [] chunks.flatten).filterMap ofLine?) :=
        Scanner.feedAll_of_short short (by simp [rest])
    _ = (Scanner.after chunks.flatten, (entries.filterMap Entry.payload?).map Event.ofPayload) := by
        rw [lines, Entry.filterMap_flatMap_lines fit]
    _ = ({}, (entries.filterMap Entry.payload?).map Event.ofPayload) := by
        rw [Scanner.after, rest]
        rfl

/-- A greeting, a comment, a payload with a blank of its own before a letter of two bytes, a payload
that looks like a field and one that keeps the stream alive. -/
def mixedEntries : List Entry :=
  [.event "connected" false true, .other (Text.utf8 ": no event\r"), .event " é" true true,
    .event "data: x" false false, .other (Text.utf8 "data"), .event "ping" true false]

/-- Every byte arrives alone, also the two of a letter. -/
theorem framed_events_read_back_mixed :
    (∀ entry ∈ mixedEntries, entry.IsFit)
    ∧ (singles (mixedEntries.flatMap Entry.bytes)).flatten = mixedEntries.flatMap Entry.bytes
    ∧ ({} : Scanner).feedAll (singles (mixedEntries.flatMap Entry.bytes))
      = ({}, [.welcome, .data " é", .data "data: x", .ping]) := by
  have fit : ∀ entry ∈ mixedEntries, entry.IsFit := by decide
  have whole := flatten_singles (mixedEntries.flatMap Entry.bytes)
  exact ⟨fit, whole, framed_events_read_back fit whole⟩

end StreamLoad
