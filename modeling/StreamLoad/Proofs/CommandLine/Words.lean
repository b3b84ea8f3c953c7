import StreamLoad.CommandLine
import StreamLoad.Proofs.Lists

/-! # Reading one word of a level

The words before the mode and those after it are read in the same way, one at a time, by
`Level.next`. A word that is read without a complaint is one of four: a flag together with its
value, the flag for JSON logs, a flag alone, or the value that the flag before it waits for.
`Level.Reads` lists them, with what each does to the level.
-/

set_option autoImplicit false

namespace StreamLoad.CommandLine

/-! ## The shapes of flags

What a word is taken for depends on its first bytes and on the first equals sign. Read backwards,
each shape says what the word was, which is the direction that is needed to recover a command line
from its reading. -/

/-- The word for a long flag. -/
def longWord (name : List UInt8) : List UInt8 := hyphen :: hyphen :: name

/-- The word for a long flag and its value. -/
def joinedWord (name value : List UInt8) : List UInt8 := longWord (name ++ equalsSign :: value)

/-- A byte of a name without an equals sign is before the first one. -/
theorem ne_equalsSign_of_mem {name : List UInt8} (h : equalsSign ∉ name) :
    ∀ b ∈ name, decide (b ≠ equalsSign) = true := by
  intro b hb
  rw [decide_eq_true_iff]
  rintro rfl
  exact h hb

theorem longShape_name {name : List UInt8} (h : equalsSign ∉ name) :
    longShape name = .long name none := by
  rw [longShape, span_of_forall (ne_equalsSign_of_mem h)]

theorem longShape_joined {name : List UInt8} (h : equalsSign ∉ name) (value : List UInt8) :
    longShape (name ++ equalsSign :: value) = .long name (some value) := by
  rw [longShape, span_append_cons (ne_equalsSign_of_mem h) (by decide)]

theorem longShape_eq_none_iff {bytes name : List UInt8} :
    longShape bytes = .long name none ↔ equalsSign ∉ name ∧ bytes = name := by
  constructor
  · intro h
    by_cases sign : equalsSign ∈ bytes
    · obtain ⟨before, value, rfl, apart⟩ := List.eq_append_cons_of_mem sign
      rw [longShape_joined apart] at h
      cases h
    · rw [longShape_name sign] at h
      cases h
      exact ⟨sign, rfl⟩
  · rintro ⟨apart, rfl⟩
    exact longShape_name apart

theorem longShape_eq_some_iff {bytes name value : List UInt8} :
    longShape bytes = .long name (some value)
      ↔ equalsSign ∉ name ∧ bytes = name ++ equalsSign :: value := by
  constructor
  · intro h
    by_cases sign : equalsSign ∈ bytes
    · obtain ⟨before, rest, rfl, apart⟩ := List.eq_append_cons_of_mem sign
      rw [longShape_joined apart] at h
      cases h
      exact ⟨apart, rfl⟩
    · rw [longShape_name sign] at h
      cases h
  · rintro ⟨apart, rfl⟩
    exact longShape_joined apart value

/-- The shape of a word that begins with two hyphens. -/
theorem shape_longWord (rest : List UInt8) :
    shape (longWord rest) = if rest.isEmpty then .escape else longShape rest := by
  rw [longWord, shape, if_pos rfl, if_pos rfl]

/-- Only a word that begins with two hyphens is a long flag or the escape. -/
theorem exists_longWord_of_shape {word : List UInt8}
    (h : shape word = .escape ∨ ∃ name value, shape word = .long name value) :
    ∃ rest, word = longWord rest := by
  unfold shape at h
  split at h
  · next a b rest =>
      by_cases first : a = hyphen
      · by_cases second : b = hyphen
        · exact ⟨rest, by rw [first, second, longWord]⟩
        · simp [first, second] at h
      · simp [first] at h
  · simp at h

theorem shape_eq_escape_iff {word : List UInt8} : shape word = .escape ↔ word = longWord [] := by
  constructor
  · intro h
    obtain ⟨rest, rfl⟩ := exists_longWord_of_shape (.inl h)
    rw [shape_longWord] at h
    cases rest with
    | nil => rfl
    | cons b rest =>
        rw [if_neg (by simp)] at h
        by_cases sign : equalsSign ∈ b :: rest
        · obtain ⟨before, value, same, apart⟩ := List.eq_append_cons_of_mem sign
          rw [same, longShape_joined apart] at h
          cases h
        · rw [longShape_name sign] at h
          cases h
  · rintro rfl
    rfl

theorem shape_eq_name_iff {word name : List UInt8} :
    shape word = .long name none ↔ name ≠ [] ∧ equalsSign ∉ name ∧ word = longWord name := by
  constructor
  · intro h
    obtain ⟨rest, rfl⟩ := exists_longWord_of_shape (.inr ⟨_, _, h⟩)
    rw [shape_longWord] at h
    split at h
    · cases h
    · next some_ =>
        obtain ⟨apart, rfl⟩ := longShape_eq_none_iff.mp h
        exact ⟨by simpa using some_, apart, rfl⟩
  · rintro ⟨nonempty, apart, rfl⟩
    rw [shape_longWord, if_neg (by simpa using nonempty), longShape_name apart]

theorem shape_eq_joined_iff {word name value : List UInt8} :
    shape word = .long name (some value) ↔ equalsSign ∉ name ∧ word = joinedWord name value := by
  constructor
  · intro h
    obtain ⟨rest, rfl⟩ := exists_longWord_of_shape (.inr ⟨_, _, h⟩)
    rw [shape_longWord] at h
    split at h
    · cases h
    · obtain ⟨apart, rfl⟩ := longShape_eq_some_iff.mp h
      exact ⟨apart, rfl⟩
  · rintro ⟨apart, rfl⟩
    rw [joinedWord, shape_longWord, if_neg (by simp), longShape_joined apart]

/-- A plain word is taken as it is. -/
theorem eq_of_shape_eq_plain {word bytes : List UInt8} (h : shape word = .plain bytes) :
    bytes = word := by
  unfold shape at h
  split at h
  · next a b rest =>
      by_cases first : a = hyphen
      · by_cases second : b = hyphen
        · rw [if_pos first, if_pos second] at h
          split at h
          · cases h
          · unfold longShape at h
            split at h <;> cases h
        · rw [if_pos first, if_neg second] at h
          cases h
      · rw [if_neg first] at h
        cases h
        rfl
  · cases h
    rfl

/-! ## The names of flags -/

namespace Flag

theorem mem_all (f : Flag) : f ∈ all := by
  cases f <;> decide

theorem name_injective : Function.Injective name := by
  intro f g same
  have distinct : (all.map name).Nodup := by decide
  exact List.inj_on_of_nodup_map distinct f.mem_all g.mem_all same

theorem equalsSign_not_mem_name (f : Flag) : equalsSign ∉ Text.utf8 f.name := by
  cases f <;> decide +kernel

theorem name_ne_nil (f : Flag) : Text.utf8 f.name ≠ [] := by
  cases f <;> decide +kernel

/-- No flag with a value is named like one without. -/
theorem name_ne_word (f : Flag) {word : String} (h : word ∈ ["json-logs", "help", "version"]) :
    Text.utf8 f.name ≠ Text.utf8 word := by
  have apart : f.name ∉ ["json-logs", "help", "version"] := by cases f <;> decide
  intro same
  rw [Text.utf8_injective same] at apart
  exact apart h

/-- A name stands for its flag, wherever the flag may stand. -/
theorem find?_eq_some_iff {mode : Option Mode} {bytes : List UInt8} {f : Flag} :
    find? mode bytes = some f ↔ f.belongsTo mode = true ∧ bytes = Text.utf8 f.name := by
  constructor
  · intro found
    have := List.find?_some found
    simp only [Bool.and_eq_true, beq_iff_eq] at this
    exact ⟨this.1, this.2.symm⟩
  · rintro ⟨belongs, rfl⟩
    have fits : (f.belongsTo mode && Text.utf8 f.name == Text.utf8 f.name) = true := by
      rw [belongs, beq_self_eq_true, Bool.and_self]
    cases found : find? mode (Text.utf8 f.name) with
    | none => exact absurd fits (List.find?_eq_none.mp found f f.mem_all)
    | some g =>
        have same := List.find?_some found
        simp only [Bool.and_eq_true, beq_iff_eq] at same
        rw [name_injective (Text.utf8_injective same.2)]

end Flag

/-! ## One word of a level

Many words end the reading with a complaint, and those that do not are of four kinds. The lemmas go
through the functions of a level from the innermost outwards, each with the condition under which it
succeeds. -/

/-- Two readings in a row succeed if both do. -/
theorem bind_eq_ok {α β : Type} {x : Except Rejection α} {k : α → Except Rejection β} {b : β} :
    (x >>= k) = .ok b ↔ ∃ a, x = .ok a ∧ k a = .ok b := by
  cases x with
  | error r => exact ⟨fun h => (nomatch h), fun ⟨_, h, _⟩ => (nomatch h)⟩
  | ok a => exact ⟨fun h => ⟨a, rfl, h⟩, fun ⟨_, h, k⟩ => by cases h; exact k⟩

namespace Level

variable {mode : Option Mode} {level level' : Level}

/-- Reads a word that is neither a mode nor the escape. -/
def next (mode : Option Mode) (level : Level) (word : List UInt8) : Except Rejection Level :=
  match shape word with
  | .escape => .error .unknownWord
  | .long name value => level.takeLong mode name value
  | .short letter => level.takeShort mode letter
  | .plain bytes => if level.awaitsValue then .ok (level.supply bytes) else .error .unknownWord

/-- Reading `word` takes a level to another one. -/
inductive Reads (mode : Option Mode) (level : Level) : List UInt8 → Level → Prop
  /-- A flag and its value. -/
  | joined {f : Flag} {value : List UInt8} {settled level' : Level}
      (belongs : f.belongsTo mode = true) (before : level.settle = .ok settled)
      (given : settled.give f value = .ok level') :
      Reads mode level (joinedWord (Text.utf8 f.name) value) level'
  /-- The flag for JSON logs. -/
  | jsonLogs {settled : Level} (before : level.settle = .ok settled)
      (first : settled.jsonLogs = false) :
      Reads mode level (longWord (Text.utf8 "json-logs")) { settled with jsonLogs := true }
  /-- A flag that waits for its value. -/
  | name {f : Flag} {settled : Level} (belongs : f.belongsTo mode = true)
      (before : level.settle = .ok settled) :
      Reads mode level (longWord (Text.utf8 f.name))
        { settled with waiting := some (f, none) }
  /-- The value that a flag waits for. -/
  | value {f : Flag} {word : List UInt8} (waits : level.waiting = some (f, none))
      (plain : shape word = .plain word) :
      Reads mode level word { level with waiting := some (f, some word) }

/-- A value is taken if it reads as one of its flag and is the first. -/
theorem give_eq_ok_iff {f : Flag} {value : List UInt8} :
    level.give f value = .ok level'
      ↔ (∀ o ∈ level.overrides, o.flag ≠ f)
        ∧ ∃ o, f.read value = .ok o ∧ level' = { level with overrides := o :: level.overrides } := by
  unfold give
  by_cases given : level.overrides.any (·.flag = f) = true
  · rw [if_pos given]
    obtain ⟨o, ho, same⟩ := List.any_eq_true.mp given
    constructor
    · intro h
      cases h
    · rintro ⟨first, -⟩
      exact absurd (of_decide_eq_true same) (first o ho)
  · rw [if_neg given, bind_eq_ok]
    have first : ∀ o ∈ level.overrides, o.flag ≠ f := by
      intro o ho same
      exact given (List.any_eq_true.mpr ⟨o, ho, decide_eq_true same⟩)
    constructor
    · rintro ⟨o, read, h⟩
      cases h
      exact ⟨first, o, read, rfl⟩
    · rintro ⟨-, o, read, rfl⟩
      exact ⟨o, read, rfl⟩

theorem awaitsValue_iff : level.awaitsValue = true ↔ ∃ f, level.waiting = some (f, none) := by
  unfold awaitsValue
  split
  · next f waits => exact ⟨fun _ => ⟨f, waits⟩, fun _ => rfl⟩
  · next other =>
      constructor
      · intro h
        cases h
      · rintro ⟨f, waits⟩
        exact absurd waits (other f)

theorem supply_of_waiting {f : Flag} (waits : level.waiting = some (f, none))
    (word : List UInt8) : level.supply word = { level with waiting := some (f, some word) } := by
  rw [supply, waits]

theorem takeFlag_joined_eq_ok_iff {f : Flag} {value : List UInt8} :
    level.takeFlag f (some value) = .ok level'
      ↔ ∃ settled, level.settle = .ok settled ∧ settled.give f value = .ok level' :=
  bind_eq_ok

theorem takeFlag_name_eq_ok_iff {f : Flag} :
    level.takeFlag f none = .ok level'
      ↔ ∃ settled, level.settle = .ok settled
        ∧ level' = { settled with waiting := some (f, none) } := by
  refine bind_eq_ok.trans (exists_congr fun settled => and_congr_right fun _ => ?_)
  exact ⟨fun h => by cases h; rfl, fun h => by rw [h]; rfl⟩

theorem takeJsonLogs_eq_ok_iff {value : Option (List UInt8)} :
    level.takeJsonLogs value = .ok level'
      ↔ value = none ∧ ∃ settled, level.settle = .ok settled ∧ settled.jsonLogs = false
        ∧ level' = { settled with jsonLogs := true } := by
  cases value with
  | some value => exact ⟨fun h => (nomatch h), fun ⟨h, _⟩ => (nomatch h)⟩
  | none =>
      refine bind_eq_ok.trans ?_
      constructor
      · rintro ⟨settled, before, h⟩
        split at h
        · cases h
        · next first =>
            cases h
            exact ⟨rfl, settled, before, by simpa using first, rfl⟩
      · rintro ⟨-, settled, before, first, rfl⟩
        exact ⟨settled, before, by rw [if_neg (by simp [first])]; rfl⟩

/-- A request for information ends the reading. -/
theorem takeRequest_ne_ok {request : Rejection} {value : Option (List UInt8)} :
    level.takeRequest request value ≠ .ok level' := by
  intro h
  cases value with
  | some value => cases h
  | none =>
      obtain ⟨_, _, h⟩ := bind_eq_ok.mp h
      cases h

theorem takeShort_ne_ok {letter : UInt8} : level.takeShort mode letter ≠ .ok level' := by
  unfold takeShort
  split
  · exact takeRequest_ne_ok
  · split
    · exact takeRequest_ne_ok
    · intro h
      cases h

/-- A long flag is the one for JSON logs or one with a value that may stand on the level. -/
theorem takeLong_eq_ok_iff {name : List UInt8} {value : Option (List UInt8)} :
    level.takeLong mode name value = .ok level'
      ↔ (name = Text.utf8 "json-logs" ∧ level.takeJsonLogs value = .ok level')
        ∨ ∃ f : Flag, f.belongsTo mode = true ∧ name = Text.utf8 f.name
          ∧ level.takeFlag f value = .ok level' := by
  unfold takeLong
  constructor
  · intro h
    split at h
    · next logs => exact .inl ⟨logs, h⟩
    · split at h
      · exact absurd h takeRequest_ne_ok
      · split at h
        · exact absurd h takeRequest_ne_ok
        · split at h
          · next f found =>
              obtain ⟨belongs, named⟩ := Flag.find?_eq_some_iff.mp found
              exact .inr ⟨f, belongs, named, h⟩
          · cases h
  · rintro (⟨logs, h⟩ | ⟨f, belongs, rfl, h⟩)
    · rw [if_pos logs]
      exact h
    · have found := Flag.find?_eq_some_iff.mpr ⟨belongs, rfl⟩
      rw [if_neg (f.name_ne_word (by simp)), if_neg (f.name_ne_word (by simp)),
        if_neg fun both => f.name_ne_word (by simp) both.1, found]
      exact h

/-- A word that is read without a complaint is one of the four. -/
theorem reads_of_next {word : List UInt8} (h : level.next mode word = .ok level') :
    Reads mode level word level' := by
  unfold next at h
  split at h
  · cases h
  · next name value shaped =>
      -- A long word names the switch or a flag, and a flag comes with its value or without.
      rcases takeLong_eq_ok_iff.mp h with ⟨rfl, taken⟩ | ⟨f, belongs, rfl, taken⟩
      · obtain ⟨rfl, settled, before, first, rfl⟩ := takeJsonLogs_eq_ok_iff.mp taken
        obtain ⟨-, -, rfl⟩ := shape_eq_name_iff.mp shaped
        exact .jsonLogs before first
      · cases value with
        | some value =>
            obtain ⟨settled, before, given⟩ := takeFlag_joined_eq_ok_iff.mp taken
            obtain ⟨-, rfl⟩ := shape_eq_joined_iff.mp shaped
            exact .joined belongs before given
        | none =>
            obtain ⟨settled, before, rfl⟩ := takeFlag_name_eq_ok_iff.mp taken
            obtain ⟨-, -, rfl⟩ := shape_eq_name_iff.mp shaped
            exact .name belongs before
  · exact absurd h takeShort_ne_ok
  · next bytes shaped =>
      obtain rfl := eq_of_shape_eq_plain shaped
      split at h
      · next waits =>
          obtain ⟨f, waits⟩ := awaitsValue_iff.mp waits
          rw [supply_of_waiting waits] at h
          cases h
          exact .value waits shaped
      · cases h

/-- Each of the four is read without a complaint. -/
theorem next_of_reads {word : List UInt8} (reads : Reads mode level word level') :
    level.next mode word = .ok level' := by
  cases reads with
  | @joined f value settled _ belongs before given =>
      have shaped : shape (joinedWord (Text.utf8 f.name) value)
          = .long (Text.utf8 f.name) (some value) :=
        shape_eq_joined_iff.mpr ⟨f.equalsSign_not_mem_name, rfl⟩
      have taken := takeFlag_joined_eq_ok_iff.mpr ⟨settled, before, given⟩
      rw [next, shaped]
      exact takeLong_eq_ok_iff.mpr (.inr ⟨f, belongs, rfl, taken⟩)
  | jsonLogs before first =>
      have shaped : shape (longWord (Text.utf8 "json-logs"))
          = .long (Text.utf8 "json-logs") none := by decide +kernel
      have taken := takeJsonLogs_eq_ok_iff.mpr ⟨rfl, _, before, first, rfl⟩
      rw [next, shaped]
      exact takeLong_eq_ok_iff.mpr (.inl ⟨rfl, taken⟩)
  | @name f settled belongs before =>
      have shaped := shape_eq_name_iff.mpr ⟨f.name_ne_nil, f.equalsSign_not_mem_name, rfl⟩
      have taken := (takeFlag_name_eq_ok_iff (f := f)).mpr ⟨settled, before, rfl⟩
      rw [next, shaped]
      exact takeLong_eq_ok_iff.mpr (.inr ⟨f, belongs, rfl, taken⟩)
  | @value f word waits plain =>
      have awaits := awaitsValue_iff.mpr ⟨f, waits⟩
      rw [next, plain]
      show (if level.awaitsValue then _ else _) = _
      rw [if_pos awaits, supply_of_waiting waits]

/-- **What a word can do.** -/
theorem next_eq_ok_iff {word : List UInt8} :
    level.next mode word = .ok level' ↔ Reads mode level word level' :=
  ⟨reads_of_next, next_of_reads⟩

end Level

end StreamLoad.CommandLine
