import StreamLoad.Net.Percent
import Mathlib.Data.List.Basic
import Mathlib.Tactic.IntervalCases

/-! # Percent-encoding and back

Bytes are percent-decoded from left to right, so that a text is decoded character by character
(`decode_encodeChar`). What is percent-encoded decodes to the bytes of the text, whichever set was
used, if the text holds no percent sign of its own (`decode_encode`).
-/

set_option autoImplicit false

namespace StreamLoad.Percent

/-! ## Hexadecimal digits -/

/-- A hexadecimal digit is of ASCII, and is read back. -/
theorem hexDigit_spec {n : Nat} (h : n < 16) :
    (hexDigit n).toNat ≤ 127 ∧ hexValue? (UInt8.ofNat (hexDigit n).toNat) = some n := by
  interval_cases n <;> decide

/-- A hexadecimal digit is a letter or a digit. -/
theorem isAlphanum_hexDigit {n : Nat} (h : n < 16) : (hexDigit n).isAlphanum = true := by
  interval_cases n <;> decide

/-! ## Decoding from left to right

`decode` looks at three bytes at a time, and a percent sign without two digits behind it stands for
itself. So texts cannot be decoded in parts at any place, but they can where no percent sign is cut
from its digits. -/

/-- A byte that is no percent sign stands for itself. -/
theorem decode_cons_of_ne {b : UInt8} (h : b ≠ sign) (rest : List UInt8) :
    decode (b :: rest) = b :: decode rest := by
  match rest with
  | [] => rfl
  | [_] => rfl
  | _ :: _ :: _ => rw [decode, if_neg h]

theorem decode_append_of_not_mem {bytes : List UInt8} (h : sign ∉ bytes) (rest : List UInt8) :
    decode (bytes ++ rest) = bytes ++ decode rest := by
  induction bytes with
  | nil => rfl
  | cons b bytes ih =>
      rw [List.mem_cons, not_or] at h
      rw [List.cons_append, decode_cons_of_ne (Ne.symm h.1), ih h.2, List.cons_append]

/-- A text without percent signs stands for itself. -/
theorem decode_of_not_mem {bytes : List UInt8} (h : sign ∉ bytes) : decode bytes = bytes := by
  have := decode_append_of_not_mem h []
  simpa [decode] using this

/-- An encoded byte stands for that byte. -/
theorem decode_encodeByte (b : UInt8) (rest : List UInt8) :
    decode ((encodeByte b).flatMap String.utf8EncodeChar ++ rest) = b :: decode rest := by
  have size := b.toNat_lt
  obtain ⟨highAscii, high⟩ := hexDigit_spec (n := b.toNat / 16) (by omega)
  obtain ⟨lowAscii, low⟩ := hexDigit_spec (n := b.toNat % 16) (by omega)
  have mark : String.utf8EncodeChar '%' = [sign] := by decide
  have bytes : (encodeByte b).flatMap String.utf8EncodeChar
      = [sign, UInt8.ofNat (hexDigit (b.toNat / 16)).toNat,
          UInt8.ofNat (hexDigit (b.toNat % 16)).toNat] := by
    simp [encodeByte, mark, Text.utf8EncodeChar_of_le highAscii, Text.utf8EncodeChar_of_le lowAscii]
  have value : b.toNat / 16 * 16 + b.toNat % 16 = b.toNat := Nat.div_add_mod' _ _
  rw [bytes]
  simp [decode, high, low, value]

theorem decode_encodeBytes (bytes rest : List UInt8) :
    decode ((bytes.flatMap encodeByte).flatMap String.utf8EncodeChar ++ rest)
      = bytes ++ decode rest := by
  induction bytes with
  | nil => rfl
  | cons b bytes ih =>
      rw [List.flatMap_cons, List.flatMap_append, List.append_assoc, decode_encodeByte, ih,
        List.cons_append]

/-! ## Back to the text -/

/-- Only the percent sign has its byte. -/
theorem sign_not_mem_utf8EncodeChar {c : Char} (h : c ≠ '%') :
    sign ∉ String.utf8EncodeChar c := by
  have ascii : sign.toNat < 128 := by decide
  have only : sign ∈ Text.utf8 (String.ofList [c]) ↔ _ := Text.mem_utf8_iff ascii
  rw [Text.utf8_ofList, List.flatMap_singleton] at only
  rw [only]
  rintro ⟨d, hd, same⟩
  rw [String.toList_ofList, List.mem_singleton] at hd
  exact h (hd ▸ Char.toNat_inj.mp (same.trans (by decide)))

/-- An encoded character stands for its bytes, whether it had to be encoded or not. -/
theorem decode_encodeChar (inSet : Char → Bool) {c : Char} (h : c ≠ '%') (rest : List UInt8) :
    decode ((encodeChar inSet c).flatMap String.utf8EncodeChar ++ rest)
      = String.utf8EncodeChar c ++ decode rest := by
  unfold encodeChar
  split
  · exact decode_encodeBytes _ rest
  · rw [List.flatMap_singleton, decode_append_of_not_mem (sign_not_mem_utf8EncodeChar h)]

/-- What is percent-encoded decodes to the bytes of the text, if there is no percent sign in it. -/
theorem decode_encode (inSet : Char → Bool) {cs : List Char} (h : '%' ∉ cs) :
    decode (Text.utf8 (String.ofList (encode inSet cs))) = Text.utf8 (String.ofList cs) := by
  rw [Text.utf8_ofList, Text.utf8_ofList, encode]
  induction cs with
  | nil => rfl
  | cons c cs ih =>
      rw [List.mem_cons, not_or] at h
      rw [List.flatMap_cons, List.flatMap_append, decode_encodeChar inSet (Ne.symm h.1), ih h.2,
        List.flatMap_cons]

/-- A character other than those that encoded bytes are made of stands in an encoded text only if it
stands in the text itself and is not in the set. -/
theorem not_mem_encode {inSet : Char → Bool} {cs : List Char} {c : Char}
    (absent : c ∉ cs ∨ inSet c = true) (percent : c ≠ '%') (other : c.isAlphanum = false) :
    c ∉ encode inSet cs := by
  intro h
  obtain ⟨d, hd, hc⟩ := List.mem_flatMap.mp h
  unfold encodeChar at hc
  split at hc
  · obtain ⟨b, -, digit⟩ := List.mem_flatMap.mp hc
    have size := b.toNat_lt
    have letter {n : Nat} (hn : n < 16) : c ≠ hexDigit n := by
      rintro rfl
      rw [isAlphanum_hexDigit hn] at other
      cases other
    rcases List.mem_cons.mp digit with sign | digit
    · exact percent sign
    · rcases List.mem_pair.mp digit with high | low
      · exact letter (by omega) high
      · exact letter (by omega) low
  · rename_i plain
    obtain rfl := List.mem_singleton.mp hc
    exact absent.elim (fun none => none hd) plain

end StreamLoad.Percent
