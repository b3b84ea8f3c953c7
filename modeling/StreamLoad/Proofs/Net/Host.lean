import StreamLoad.Net.Host
import StreamLoad.Proofs.Lists
import StreamLoad.Proofs.Net.Percent

/-! # Plain hosts

The host of a server under test is mostly a plain name, such as `localhost`, or an address of
version 4. Such a host is made of letters and digits of ASCII, hyphens and dots, and so is what it
reads as (`special?_isPlainChar`): the name in small letters, or the address in its usual form.
-/

set_option autoImplicit false

namespace StreamLoad

/-! ## Names of ASCII

The mapping of characters and the labels of names have large tables behind them, which proofs cannot
compute with in general. For the characters of ASCII they can be looked at one by one, and a name of
such characters is only put into small letters. -/

namespace Domain

/-- What holds of every character of ASCII, looked at one by one, holds of each. -/
theorem forall_isAscii {p : Char → Bool} (h : ∀ n < 0x80, p (Char.ofNat n) = true) {c : Char}
    (hc : isAscii c = true) : p c = true := by
  have := h c.toNat (of_decide_eq_true hc)
  rw [Char.ofNat_toNat] at this
  exact this

theorem isAscii_toLower {c : Char} (h : isAscii c = true) : isAscii c.toLower = true :=
  forall_isAscii (p := fun c => isAscii c.toLower) (by decide) h

/-- A label of ASCII is written as it stands. -/
theorem ascii_of_label? {cs : List Char} (ascii : cs.all isAscii = true) {label : Label}
    (h : label? cs = some label) : label.ascii = cs := by
  unfold label? at h
  split at h
  · split at h
    · obtain ⟨text, -, h⟩ := Option.bind_eq_some_iff.mp h
      split at h
      · cases h
        rfl
      · cases h
    · cases h
  · rw [if_pos ascii] at h
    cases h
    rfl

theorem ascii_of_mapM_label? {pieces : List (List Char)}
    (ascii : ∀ piece ∈ pieces, piece.all isAscii = true) {labels : List Label}
    (h : pieces.mapM label? = some labels) : labels.map (·.ascii) = pieces := by
  induction pieces generalizing labels with
  | nil =>
      cases h
      rfl
  | cons piece pieces ih =>
      rw [List.mapM_cons] at h
      obtain ⟨label, first, h⟩ := Option.bind_eq_some_iff.mp h
      obtain ⟨others, rest, h⟩ := Option.bind_eq_some_iff.mp h
      cases h
      rw [List.map_cons, ascii_of_label? (ascii piece List.mem_cons_self) first,
        ih (fun other hp => ascii other (List.mem_cons_of_mem piece hp)) rest]

/-- The form of a name of ASCII is the name in small letters. -/
theorem eq_of_ascii? {isForbidden : Char → Bool} {name form : List Char}
    (ascii : name.all isAscii = true) (h : ascii? isForbidden name = some form) :
    form = name.map Char.toLower := by
  unfold ascii? at h
  obtain ⟨spelling, spelled, h⟩ := Option.bind_eq_some_iff.mp h
  rw [spell?, if_pos ascii] at spelled
  cases spelled
  split at h
  · cases h
  · obtain ⟨labels, read, h⟩ := Option.bind_eq_some_iff.mp h
    split at h
    · cases h
      have pieces : ∀ piece ∈ (name.map Char.toLower).splitOn '.', piece.all isAscii = true := by
        refine fun piece hp => List.all_eq_true.mpr fun c hc => ?_
        obtain ⟨d, hd, rfl⟩ := List.mem_map.mp (mem_of_mem_splitOn hp hc)
        exact isAscii_toLower (List.all_eq_true.mp ascii d hd)
      rw [ascii_of_mapM_label? pieces read]
      exact List.intercalate_splitOn '.'
    · cases h

end Domain

/-! ## Plain hosts -/

namespace Host

/-- Whether a character is one of a plain host. -/
def isPlainChar (c : Char) : Bool := c.isAlphanum || c = '-' || c = '.'

/-- Whether a host is a plain one, that an address can have. -/
structure IsPlain (host : String) : Prop where
  chars : ∀ c ∈ host.toList, isPlainChar c = true
  isHost : (special? host.toList).isSome

theorem isAscii_of_isPlainChar {c : Char} (h : isPlainChar c = true) :
    Domain.isAscii c = true := by
  rw [Domain.isAscii, decide_eq_true_iff]
  have within : ∀ high : UInt32, high.toNat < 0x80 → c.val ≤ high → c.toNat < 0x80 :=
    fun high bound below => Nat.lt_of_le_of_lt (UInt32.le_iff_toNat_le.mp below) bound
  have kinds : (c.isAlphanum = true ∨ c = '-') ∨ c = '.' := by
    simpa only [isPlainChar, Bool.or_eq_true, decide_eq_true_iff] using h
  rcases kinds with (alphanum | rfl) | rfl
  · have ranges : ((c.isUpper || c.isLower) || c.isDigit) = true := alphanum
    rw [Bool.or_eq_true, Bool.or_eq_true] at ranges
    rcases ranges with (upper | lower) | digit
    · exact within 'Z'.val (by decide) (of_decide_eq_true upper).2
    · exact within 'z'.val (by decide) (of_decide_eq_true (Bool.and_eq_true_iff.mp lower).2)
    · exact within '9'.val (by decide) (of_decide_eq_true (Bool.and_eq_true_iff.mp digit).2)
  · decide
  · decide

/-- What holds of all that is plain among ASCII holds of every plain character. -/
theorem forall_isPlainChar {p : Char → Bool}
    (h : ∀ n < 0x80, (!isPlainChar (Char.ofNat n) || p (Char.ofNat n)) = true) {c : Char}
    (hc : isPlainChar c = true) : p c = true := by
  have := Domain.forall_isAscii (p := fun c => !isPlainChar c || p c) h (isAscii_of_isPlainChar hc)
  simpa [hc] using this

theorem isPlainChar_toLower {c : Char} (h : isPlainChar c = true) :
    isPlainChar c.toLower = true :=
  forall_isPlainChar (p := fun c => isPlainChar c.toLower) (by decide) h

theorem isPlainChar_of_isDigit {c : Char} (h : c.isDigit = true) : isPlainChar c = true := by
  simp [isPlainChar, Char.isAlphanum, h]

/-- A plain text has no percent signs to decode. -/
theorem decode_plain {cs : List Char} (h : ∀ c ∈ cs, isPlainChar c = true) :
    Percent.decode (Text.utf8 (String.ofList cs)) = Text.utf8 (String.ofList cs) := by
  refine Percent.decode_of_not_mem fun hb => ?_
  obtain ⟨c, hc, same⟩ := (Text.mem_utf8_iff (by decide)).mp hb
  rw [String.toList_ofList] at hc
  have percent : c = '%' := Char.toNat_inj.mp (same.trans (by decide))
  exact absurd (h c hc) (percent ▸ by decide)

theorem isPlainChar_of_mem_text {ip : Ipv4} {c : Char} (h : c ∈ ip.text.toList) :
    isPlainChar c = true := by
  have parts : ip.text.toList
      = Decimal.digits ip.a ++ '.' :: (Decimal.digits ip.b ++ '.' :: (Decimal.digits ip.c
        ++ '.' :: Decimal.digits ip.d)) := by
    simp [Ipv4.text, Decimal.text]
  have number {n : Nat} (hc : c ∈ Decimal.digits n) : isPlainChar c = true :=
    isPlainChar_of_isDigit (Decimal.digits_isDigit hc)
  simp only [parts, List.mem_append, List.mem_cons] at h
  rcases h with a | rfl | b | rfl | c | rfl | d
  · exact number a
  · decide
  · exact number b
  · decide
  · exact number c
  · decide
  · exact number d

/-- How a plain text reads as a host. -/
theorem special?_eq {cs : List Char} (plain : ∀ c ∈ cs, isPlainChar c = true) :
    special? cs = (Domain.ascii? isForbiddenInName cs).bind fun name =>
      if name.isEmpty then none
      else if endsInNumber name then (ipv4? name).map Ipv4.text
      else some (String.ofList name) := by
  have name : cs.head? ≠ some '[' :=
    fun bracket => absurd (plain '[' (List.mem_of_mem_head? bracket)) (by decide)
  rw [special?, if_neg name, name?, decode_plain plain, Text.ofUtf8?_utf8]
  simp only [Option.bind_eq_bind, Option.bind_some, String.toList_ofList]

/-- A plain host reads as one. -/
theorem special?_isPlainChar {cs : List Char} (plain : ∀ c ∈ cs, isPlainChar c = true)
    {host : String} (h : special? cs = some host) : ∀ c ∈ host.toList, isPlainChar c = true := by
  have ascii : cs.all Domain.isAscii = true :=
    List.all_eq_true.mpr fun c hc => isAscii_of_isPlainChar (plain c hc)
  rw [special?_eq plain] at h
  obtain ⟨form, read, h⟩ := Option.bind_eq_some_iff.mp h
  obtain rfl := Domain.eq_of_ascii? ascii read
  split at h
  · cases h
  · split at h
    · obtain ⟨ip, -, rfl⟩ := Option.map_eq_some_iff.mp h
      exact fun c hc => isPlainChar_of_mem_text hc
    · cases h
      rw [String.toList_ofList]
      intro c hc
      obtain ⟨d, hd, rfl⟩ := List.mem_map.mp hc
      exact isPlainChar_toLower (plain d hd)

/-- A text without characters is no host. -/
theorem special?_nil : special? [] = none := by
  have plain : ∀ c ∈ ([] : List Char), isPlainChar c = true := nofun
  rw [special?_eq plain]
  decide

theorem isPlainChar_localhost : ∀ c ∈ "localhost".toList, isPlainChar c = true :=
  List.all_eq_true.mp (by decide)

theorem special?_localhost : special? "localhost".toList = some "localhost" := by
  rw [special?_eq isPlainChar_localhost]
  decide

theorem isPlain_localhost : IsPlain "localhost" :=
  ⟨isPlainChar_localhost, Option.isSome_iff_exists.mpr ⟨_, special?_localhost⟩⟩

end Host

end StreamLoad
