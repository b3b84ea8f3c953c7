/-! # Text as UTF-8 bytes

What travels over a connection is a list of bytes, and what the rest of the library speaks
about is text. `utf8` writes a text as bytes and `ofUtf8?` reads bytes as text. Reading
accepts exactly what writing produces (`ofUtf8?_eq_some_iff`), so overlong forms,
surrogates and cut sequences are no text.
-/

set_option autoImplicit false

namespace StreamLoad.Text

/-- The UTF-8 bytes of a text. -/
def utf8 (text : String) : List UInt8 := text.toByteArray.data.toList

/-- The text whose UTF-8 the bytes are, if there is one. -/
def ofUtf8? (bytes : List UInt8) : Option String := String.fromUTF8? ⟨bytes.toArray⟩

/-- Reading accepts exactly what writing produces. -/
theorem ofUtf8?_eq_some_iff {bytes : List UInt8} {text : String} :
    ofUtf8? bytes = some text ↔ bytes = utf8 text := by
  unfold ofUtf8? utf8 String.fromUTF8? String.fromUTF8
  constructor
  · intro h
    split at h
    · cases h
      rfl
    · cases h
  · rintro rfl
    have valid : (⟨text.toByteArray.data.toList.toArray⟩ : ByteArray).IsValidUTF8 :=
      text.isValidUTF8
    rw [dif_pos valid]

theorem ofUtf8?_utf8 (text : String) : ofUtf8? (utf8 text) = some text :=
  ofUtf8?_eq_some_iff.mpr rfl

theorem utf8_injective {s t : String} (h : utf8 s = utf8 t) : s = t := by
  have := ofUtf8?_utf8 s
  rw [h, ofUtf8?_utf8] at this
  exact (Option.some.inj this).symm

/-! ## The bytes of characters -/

/-- The bytes of a text are those of its characters, one after another. -/
theorem utf8_ofList (cs : List Char) :
    utf8 (String.ofList cs) = cs.flatMap String.utf8EncodeChar := by
  simp [utf8, String.toByteArray_ofList, List.utf8Encode]

theorem utf8_eq (text : String) : utf8 text = text.toList.flatMap String.utf8EncodeChar := by
  rw [← utf8_ofList, String.ofList_toList]

theorem utf8_append (s t : String) : utf8 (s ++ t) = utf8 s ++ utf8 t := by
  simp [utf8_eq]

/-- A character of ASCII is one byte. -/
theorem utf8EncodeChar_of_le {c : Char} (h : c.toNat ≤ 127) :
    String.utf8EncodeChar c = [UInt8.ofNat c.toNat] := by
  simp only [String.utf8EncodeChar, Char.toNat_val, if_pos h]

/-- No byte of another character is one of ASCII. -/
theorem le_of_mem_utf8EncodeChar {c : Char} (h : 127 < c.toNat) {b : UInt8}
    (hb : b ∈ String.utf8EncodeChar c) : 128 ≤ b.toNat := by
  simp only [String.utf8EncodeChar, Char.toNat_val, if_neg (Nat.not_le.mpr h)] at hb
  split at hb
  · simp only [List.mem_cons, List.not_mem_nil, or_false] at hb
    rcases hb with rfl | rfl <;> simp only [UInt8.toNat_ofNat'] <;> omega
  · split at hb
    · simp only [List.mem_cons, List.not_mem_nil, or_false] at hb
      rcases hb with rfl | rfl | rfl <;> simp only [UInt8.toNat_ofNat'] <;> omega
    · simp only [List.mem_cons, List.not_mem_nil, or_false] at hb
      rcases hb with rfl | rfl | rfl | rfl <;> simp only [UInt8.toNat_ofNat'] <;> omega

/-- A byte of ASCII stands in a text exactly if its character does. -/
theorem mem_utf8_iff {text : String} {b : UInt8} (h : b.toNat < 128) :
    b ∈ utf8 text ↔ ∃ c ∈ text.toList, c.toNat = b.toNat := by
  rw [utf8_eq, List.mem_flatMap]
  constructor
  · rintro ⟨c, hc, hb⟩
    refine ⟨c, hc, ?_⟩
    by_cases ascii : c.toNat ≤ 127
    · rw [utf8EncodeChar_of_le ascii, List.mem_singleton] at hb
      rw [hb, UInt8.toNat_ofNat']
      omega
    · have := le_of_mem_utf8EncodeChar (Nat.not_le.mp ascii) hb
      omega
  · rintro ⟨c, hc, same⟩
    refine ⟨c, hc, ?_⟩
    rw [utf8EncodeChar_of_le (by omega), List.mem_singleton, same, UInt8.ofNat_toNat]

end StreamLoad.Text
