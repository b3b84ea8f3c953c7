import StreamLoad.Event

/-! # Lines that a server writes

A server writes an event as `data: `, its payload and a line feed. Such a line is read back as the
event of its payload, and holds no line feed unless the payload does. A payload that ends in a
carriage return loses it.
-/

set_option autoImplicit false

namespace StreamLoad.Event

/-- The line of a payload, less its line feed. -/
def written (payload : String) : List UInt8 := Text.utf8 ("data: " ++ payload)

theorem written_eq (payload : String) :
    written payload = [0x64, 0x61, 0x74, 0x61, 0x3A, blank] ++ Text.utf8 payload := by
  have field : Text.utf8 "data: " = [0x64, 0x61, 0x74, 0x61, 0x3A, blank] := by decide
  rw [written, Text.utf8_append, field]

theorem lineFeed_not_mem_written {payload : String} (h : '\n' ∉ payload.toList) :
    lineFeed ∉ written payload := by
  rw [written_eq, List.mem_append]
  rintro (field | text)
  · exact absurd field (by decide)
  · obtain ⟨c, hc, same⟩ := (Text.mem_utf8_iff (by decide)).mp text
    have feed : c = '\n' := Char.toNat_inj.mp (same.trans (by decide))
    exact h (feed ▸ hc)

/-- The last byte of a text is a carriage return only if its last character is. -/
theorem getLast?_utf8_ne {text : String} (h : text.toList.getLast? ≠ some '\r') :
    (Text.utf8 text).getLast? ≠ some carriageReturn := by
  rcases List.eq_nil_or_concat text.toList with none | ⟨front, last, split⟩
  · simp [Text.utf8_eq, none]
  · rw [List.concat_eq_append] at split
    intro ends
    rw [Text.utf8_eq, split, List.flatMap_append, List.flatMap_singleton, List.getLast?_append,
      List.getLast?_eq_some_getLast String.utf8EncodeChar_ne_nil, Option.some_or] at ends
    have byte : carriageReturn ∈ Text.utf8 (String.ofList [last]) := by
      rw [Text.utf8_ofList, List.flatMap_singleton, ← Option.some.inj ends]
      exact List.getLast_mem _
    obtain ⟨c, hc, same⟩ := (Text.mem_utf8_iff (by decide)).mp byte
    rw [String.toList_ofList, List.mem_singleton] at hc
    have return' : c = '\r' := Char.toNat_inj.mp (same.trans (by decide))
    simp [split, ← hc, return'] at h

/-- A line that is written reads back as the event of its payload. -/
theorem ofLine?_written {payload : String} (h : payload.toList.getLast? ≠ some '\r') :
    ofLine? (written payload) = some (ofPayload payload) := by
  have last : (written payload).getLast? ≠ some carriageReturn := by
    rw [written_eq, List.getLast?_append]
    cases ends : (Text.utf8 payload).getLast? with
    | none => decide
    | some b =>
        rw [Option.some_or, ← ends]
        exact getLast?_utf8_ne h
  rw [ofLine?, trimReturn, if_neg last, written_eq]
  simp [dataValue?, trimBlank, Text.ofUtf8?_utf8]

end StreamLoad.Event
