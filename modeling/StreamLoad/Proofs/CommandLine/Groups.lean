import Mathlib.Data.List.Induction
import StreamLoad.Proofs.CommandLine.Words

/-! # Command lines as groups of words

A command line that is carried out is made of groups: each flag with its value, or the flag for
JSON logs, in any order before and after the mode, no flag twice on a level. `Line` is such a
command line; reading its words gives its invocation, and every command line that is read without
a complaint is one (`ofWords_eq_ok_iff`).
-/

set_option autoImplicit false

namespace StreamLoad.CommandLine

/-! ## Groups

A flag and its value may stand in one word or in two, and mean the same. `Group` keeps the
difference, as it is needed to get the words back, while all that is said of settings goes by
`override?`. Whether groups may stand together depends on each of them and on no flag being given
twice, so their order does not matter. -/

/-- The words for one flag. -/
inductive Group where
  /-- A flag and its value in one word. -/
  | joined (flag : Flag) (value : List UInt8)
  /-- A flag and its value in two words. -/
  | parted (flag : Flag) (value : List UInt8)
  /-- The flag for JSON logs. -/
  | jsonLogs
deriving DecidableEq, Repr

/-- An override comes from the flag whose value it is. -/
theorem Flag.flag_of_read {f : Flag} {value : List UInt8} {o : Override} (h : f.read value = .ok o) :
    o.flag = f := by
  unfold Flag.read at h
  split at h
  · cases h
  · next text _ =>
      split at h
      · next o' readText =>
          cases h
          cases f <;> simp only [Flag.readText?, Option.map_eq_some_iff, Option.some.injEq]
            at readText <;> grind [Override.flag]
      · cases h

namespace Group

/-- The words of a group. -/
def words : Group → List (List UInt8)
  | joined f value => [joinedWord (Text.utf8 f.name) value]
  | parted f value => [longWord (Text.utf8 f.name), value]
  | jsonLogs => [longWord (Text.utf8 "json-logs")]

/-- The flag of a group, if it is one with a value. -/
def flag? : Group → Option Flag
  | joined f _ | parted f _ => some f
  | jsonLogs => none

/-- The override that a group stands for. -/
def override? : Group → Option Override
  | joined f value | parted f value => (f.read value).toOption
  | jsonLogs => none

/-- Whether a group may stand on a level. A value in a word of its own must not look like a
flag. -/
def Fits (mode : Option Mode) : Group → Prop
  | joined f value => f.belongsTo mode = true ∧ ∃ o, f.read value = .ok o
  | parted f value =>
      f.belongsTo mode = true ∧ (∃ o, f.read value = .ok o) ∧ shape value = .plain value
  | jsonLogs => True

theorem toOption_read_eq_some_iff {f : Flag} {value : List UInt8} {o : Override} :
    (f.read value).toOption = some o ↔ f.read value = .ok o := by
  cases f.read value with
  | error r => exact ⟨fun h => (nomatch h), fun h => (nomatch h)⟩
  | ok o' => simp [Except.toOption]

/-- The override of a group is one of its flag. -/
theorem flag?_of_override? {g : Group} {o : Override} (h : g.override? = some o) :
    g.flag? = some o.flag := by
  cases g with
  | jsonLogs => cases h
  | joined f value | parted f value =>
      rw [flag?, Flag.flag_of_read (toOption_read_eq_some_iff.mp h)]

/-- A group that fits stands for an override, unless it is that for JSON logs. -/
theorem Fits.override?_isSome {mode : Option Mode} {g : Group} (h : g.Fits mode)
    {f : Flag} (named : g.flag? = some f) : ∃ o, g.override? = some o := by
  cases g with
  | jsonLogs => cases named
  | joined f value =>
      obtain ⟨-, o, read⟩ := h
      exact ⟨o, toOption_read_eq_some_iff.mpr read⟩
  | parted f value =>
      obtain ⟨-, ⟨o, read⟩, -⟩ := h
      exact ⟨o, toOption_read_eq_some_iff.mpr read⟩

end Group

/-- Groups may stand on one level: each fits, and no flag is given twice. -/
structure FitTogether (mode : Option Mode) (groups : List Group) : Prop where
  fits : ∀ g ∈ groups, g.Fits mode
  once : (groups.map Group.flag?).Nodup

namespace FitTogether

variable {mode : Option Mode} {groups : List Group} {g : Group}

theorem nil : FitTogether mode [] := ⟨by simp, by simp⟩

theorem concat_iff :
    FitTogether mode (groups ++ [g])
      ↔ FitTogether mode groups ∧ g.Fits mode ∧ g.flag? ∉ groups.map Group.flag? := by
  constructor
  · rintro ⟨fits, once⟩
    rw [List.map_append, List.map_singleton, List.nodup_append'] at once
    obtain ⟨before, -, apart⟩ := once
    refine ⟨⟨fun x hx => fits x (List.mem_append_left _ hx), before⟩,
      fits g (List.mem_append_right _ (List.mem_singleton_self g)), ?_⟩
    intro given
    exact apart given (List.mem_singleton_self _)
  · rintro ⟨⟨fits, once⟩, last, new⟩
    refine ⟨?_, ?_⟩
    · intro x hx
      rcases List.mem_append.mp hx with before | last'
      · exact fits x before
      · rw [List.mem_singleton.mp last']
        exact last
    · rw [List.map_append, List.map_singleton, List.nodup_append']
      refine ⟨once, List.nodup_singleton _, ?_⟩
      intro x given same
      exact new (List.mem_singleton.mp same ▸ given)

theorem concat (fit : FitTogether mode groups) (fits : g.Fits mode)
    (new : g.flag? ∉ groups.map Group.flag?) : FitTogether mode (groups ++ [g]) :=
  concat_iff.mpr ⟨fit, fits, new⟩

/-- The order of groups does not matter for whether they may stand together. -/
theorem perm {groups' : List Group} (h : FitTogether mode groups) (same : groups.Perm groups') :
    FitTogether mode groups' :=
  ⟨fun g hg => h.fits g (same.mem_iff.mpr hg), (same.map Group.flag?).nodup_iff.mp h.once⟩

end FitTogether

/-! ## Levels made of groups

A level reads a value only when the next flag comes, so while words are read the last group may be
incomplete: its flag waits, with its value or without. `Holds` allows for this, and
`exists_settle_iff` closes the gap at the end of the level. -/

namespace Level

variable {mode : Option Mode} {level level' : Level} {groups : List Group}

/-- The level that has read some groups. -/
def ofGroups (groups : List Group) : Level :=
  { overrides := (groups.filterMap Group.override?).reverse
    jsonLogs := decide (Group.jsonLogs ∈ groups) }

/-- A flag is among the overrides exactly if a group is its own. -/
theorem flag_mem_overrides_iff (fit : FitTogether mode groups) (f : Flag) :
    (∃ o ∈ (ofGroups groups).overrides, o.flag = f) ↔ some f ∈ groups.map Group.flag? := by
  simp only [ofGroups, List.mem_reverse, List.mem_filterMap, List.mem_map]
  constructor
  · rintro ⟨o, ⟨g, hg, reads⟩, rfl⟩
    exact ⟨g, hg, Group.flag?_of_override? reads⟩
  · rintro ⟨g, hg, named⟩
    obtain ⟨o, reads⟩ := (fit.fits g hg).override?_isSome named
    have same : g.flag? = some o.flag := Group.flag?_of_override? reads
    exact ⟨o, ⟨g, hg, reads⟩, Option.some.inj (same.symm.trans named)⟩

/-- A value is taken after some groups if it reads as one and its flag is new. -/
theorem give_ofGroups_eq_ok_iff (fit : FitTogether mode groups) {f : Flag} {value : List UInt8} :
    (ofGroups groups).give f value = .ok level'
      ↔ some f ∉ groups.map Group.flag? ∧ (∃ o, f.read value = .ok o)
        ∧ level' = ofGroups (groups ++ [.joined f value]) := by
  have one_more : ∀ o, f.read value = .ok o →
      { ofGroups groups with overrides := o :: (ofGroups groups).overrides }
        = ofGroups (groups ++ [.joined f value]) := by
    intro o read
    simp [ofGroups, Group.override?, read, Except.toOption]
  rw [give_eq_ok_iff, ← flag_mem_overrides_iff fit]
  constructor
  · rintro ⟨first, o, read, rfl⟩
    exact ⟨fun ⟨o', ho, same⟩ => first o' ho same, ⟨o, read⟩, one_more o read⟩
  · rintro ⟨new, ⟨o, read⟩, rfl⟩
    exact ⟨fun o' ho same => new ⟨o', ho, same⟩, o, read, (one_more o read).symm⟩

theorem ofGroups_parted (f : Flag) (value : List UInt8) :
    ofGroups (groups ++ [.parted f value]) = ofGroups (groups ++ [.joined f value]) := by
  simp [ofGroups, List.filterMap_cons, Group.override?]

theorem ofGroups_jsonLogs :
    { ofGroups groups with jsonLogs := true } = ofGroups (groups ++ [.jsonLogs]) := by
  simp [ofGroups, Group.override?]

theorem flatMap_words_concat (groups : List Group) (g : Group) :
    (groups ++ [g]).flatMap Group.words = groups.flatMap Group.words ++ g.words := by
  rw [List.flatMap_append, List.flatMap_singleton]

/-- Reading a group that may stand after some others. -/
theorem foldlM_words {g : Group} (together : FitTogether mode (groups ++ [g]))
    (before : level.settle = .ok (ofGroups groups)) :
    ∃ level', g.words.foldlM (next mode) level = .ok level'
      ∧ level'.settle = .ok (ofGroups (groups ++ [g])) := by
  obtain ⟨fit, fits, new⟩ := FitTogether.concat_iff.mp together
  cases g with
  | joined f value =>
      obtain ⟨belongs, reads⟩ := fits
      have given := (give_ofGroups_eq_ok_iff fit).mpr ⟨new, reads, rfl⟩
      have step := next_eq_ok_iff.mpr (.joined belongs before given)
      exact ⟨_, by rw [Group.words, List.foldlM_cons, step]; rfl, rfl⟩
  | parted f value =>
      obtain ⟨belongs, reads, plain⟩ := fits
      have given := (give_ofGroups_eq_ok_iff fit).mpr ⟨new, reads, rfl⟩
      -- The value is only kept here, and is read when the level is settled.
      have first := next_eq_ok_iff.mpr (.name belongs before)
      have supplied : Reads mode { ofGroups groups with waiting := some (f, none) } value
          { ofGroups groups with waiting := some (f, some value) } := .value rfl plain
      have second := next_eq_ok_iff.mpr supplied
      refine ⟨{ ofGroups groups with waiting := some (f, some value) }, ?_, ?_⟩
      · rw [Group.words, List.foldlM_cons, first]
        show List.foldlM _ _ _ = _
        rw [List.foldlM_cons, second]
        rfl
      · rw [ofGroups_parted]
        exact given
  | jsonLogs =>
      have first : (ofGroups groups).jsonLogs = false := by
        refine decide_eq_false ?_
        intro given
        exact new (List.mem_map_of_mem given)
      have taken : Reads mode level (longWord (Text.utf8 "json-logs"))
          { ofGroups groups with jsonLogs := true } := .jsonLogs before first
      have step := next_eq_ok_iff.mpr taken
      refine ⟨{ ofGroups groups with jsonLogs := true }, ?_, ?_⟩
      · rw [Group.words, List.foldlM_cons, step]
        rfl
      · rw [ofGroups_jsonLogs]
        rfl

/-- Reading the words of groups that may stand together. -/
theorem foldlM_flatMap_words (fit : FitTogether mode groups) :
    ∃ level, (groups.flatMap Group.words).foldlM (next mode) {} = .ok level
      ∧ level.settle = .ok (ofGroups groups) := by
  induction groups using List.reverseRecOn with
  | nil => exact ⟨{}, rfl, rfl⟩
  | append_singleton groups g ih =>
      obtain ⟨level, read, before⟩ := ih (FitTogether.concat_iff.mp fit).1
      obtain ⟨level', step, after⟩ := foldlM_words fit before
      refine ⟨level', ?_, after⟩
      rw [flatMap_words_concat, List.foldlM_append, read]
      exact step

/-- What a level has read are the words of groups that may stand together, and perhaps a flag that
still waits for its value. -/
structure Holds (mode : Option Mode) (level : Level) (words : List (List UInt8)) : Prop where
  settled : ∀ settled, level.settle = .ok settled →
    ∃ groups, FitTogether mode groups ∧ groups.flatMap Group.words = words
      ∧ settled = ofGroups groups
  /-- A level with a flag that waits cannot be settled. -/
  waiting : ∀ f, level.waiting = some (f, none) →
    f.belongsTo mode = true ∧ ∃ groups, FitTogether mode groups
      ∧ groups.flatMap Group.words ++ [longWord (Text.utf8 f.name)] = words
      ∧ level = { ofGroups groups with waiting := some (f, none) }

/-- One more word. -/
theorem Holds.reads {words : List (List UInt8)} {word : List UInt8} (h : Holds mode level words)
    (reads : Reads mode level word level') : Holds mode level' (words ++ [word]) := by
  cases reads with
  | @joined f value settled _ belongs before given =>
      obtain ⟨groups, fit, rfl, rfl⟩ := h.settled settled before
      obtain ⟨new, reads, rfl⟩ := (give_ofGroups_eq_ok_iff fit).mp given
      refine ⟨?_, fun f waits => nomatch waits⟩
      intro settled after
      cases after
      exact ⟨groups ++ [.joined f value], fit.concat (g := .joined f value) ⟨belongs, reads⟩ new,
        flatMap_words_concat groups (.joined f value), rfl⟩
  | @jsonLogs settled before first =>
      obtain ⟨groups, fit, rfl, rfl⟩ := h.settled settled before
      refine ⟨?_, fun f waits => nomatch waits⟩
      intro settled after
      cases after
      -- The switch may be given once, and it is no flag with a value.
      have new : Group.jsonLogs.flag? ∉ groups.map Group.flag? := by
        intro given
        obtain ⟨g, hg, same⟩ := List.mem_map.mp given
        cases g with
        | joined f value | parted f value => cases same
        | jsonLogs => exact of_decide_eq_false first hg
      exact ⟨groups ++ [.jsonLogs], fit.concat (g := .jsonLogs) trivial new,
        flatMap_words_concat groups .jsonLogs, ofGroups_jsonLogs⟩
  | @name f settled belongs before =>
      obtain ⟨groups, fit, rfl, rfl⟩ := h.settled settled before
      refine ⟨fun settled after => (nomatch after), ?_⟩
      intro f' waits
      cases waits
      exact ⟨belongs, groups, fit, rfl, rfl⟩
  | @value f _ waits plain =>
      -- The word completes the group that the name before it began.
      obtain ⟨belongs, groups, fit, rfl, rfl⟩ := h.waiting f waits
      refine ⟨?_, fun f waits => nomatch waits⟩
      intro settled after
      obtain ⟨new, reads, rfl⟩ := (give_ofGroups_eq_ok_iff fit).mp after
      refine ⟨groups ++ [.parted f word],
        fit.concat (g := .parted f word) ⟨belongs, reads, plain⟩ new, ?_,
        (ofGroups_parted f word).symm⟩
      rw [flatMap_words_concat, List.append_assoc]
      rfl

/-- All words that have been read. -/
theorem holds_of_foldlM {words : List (List UInt8)}
    (read : words.foldlM (next mode) {} = .ok level) : Holds mode level words := by
  induction words using List.reverseRecOn generalizing level with
  | nil =>
      cases read
      refine ⟨?_, fun f waits => nomatch waits⟩
      intro settled after
      cases after
      exact ⟨[], .nil, rfl, rfl⟩
  | append_singleton words word ih =>
      rw [List.foldlM_append] at read
      obtain ⟨middle, earlier, last⟩ := bind_eq_ok.mp read
      rw [List.foldlM_cons] at last
      obtain ⟨level', step, ends⟩ := bind_eq_ok.mp last
      cases ends
      exact (ih earlier).reads (next_eq_ok_iff.mp step)

/-- **The words of a level.** A level is read to its end exactly if its words are those of groups
that may stand together. -/
theorem exists_settle_iff {words : List (List UInt8)} {final : Level} :
    (∃ level, words.foldlM (next mode) {} = .ok level ∧ level.settle = .ok final)
      ↔ ∃ groups, FitTogether mode groups ∧ groups.flatMap Group.words = words
        ∧ final = ofGroups groups := by
  constructor
  · rintro ⟨level, read, settled⟩
    exact (holds_of_foldlM read).settled final settled
  · rintro ⟨groups, fit, rfl, rfl⟩
    exact foldlM_flatMap_words fit

end Level

/-! ## Command lines

The words before a mode and those after it are read alike, but for a plain word that no flag waits
for: on the outer level it is the mode, and on the inner one it is an error. Each reading is
followed word by word, and both together give the words of a `Line`. -/

/-- The word after which no word is a flag, where it stands. -/
def escapeWords (escaped : Bool) : List (List UInt8) := if escaped then [longWord []] else []

theorem Mode.shape_word (mode : Mode) :
    shape (Text.utf8 mode.word) = .plain (Text.utf8 mode.word) := by
  cases mode <;> decide +kernel

theorem Command.ofWord?_eq_run_iff {word : List UInt8} {mode : Mode} :
    ofWord? word = some (.run mode) ↔ word = Text.utf8 mode.word := by
  unfold ofWord?
  constructor
  · intro h
    split at h
    · next named => cases h; exact named
    · split at h
      · next named => cases h; exact named
      · split at h <;> cases h
  · rintro rfl
    cases mode <;> decide +kernel

namespace Level

variable {mode : Option Mode} {level : Level}

/-- A level whose last value can be read does not wait for one. -/
theorem awaitsValue_of_settle {settled : Level} (h : level.settle = .ok settled) :
    level.awaitsValue = false := by
  rw [Bool.eq_false_iff]
  intro awaits
  obtain ⟨f, waits⟩ := awaitsValue_iff.mp awaits
  rw [settle, waits] at h
  cases h

theorem next_escape : level.next mode (longWord []) = .error .unknownWord := rfl

end Level

/-- The next word after a mode, or the escape at the end. -/
theorem readInner_cons_iff {mode : Mode} {level final : Level} {word : List UInt8}
    {words : List (List UInt8)} :
    readInner mode level (word :: words) = .ok final
      ↔ (∃ level', level.next (some mode) word = .ok level'
          ∧ readInner mode level' words = .ok final)
        ∨ (word = longWord [] ∧ words = [] ∧ level.settle = .ok final) := by
  by_cases escape : shape word = .escape
  · obtain rfl := shape_eq_escape_iff.mp escape
    rw [readInner, escape]
    cases words with
    | nil => simp [Level.next_escape]
    | cons next words => simp [Level.next_escape]
  · have steps : readInner mode level (word :: words)
        = level.next (some mode) word >>= fun level' => readInner mode level' words := by
      rw [readInner, Level.next]
      cases shaped : shape word with
      | escape => exact absurd shaped escape
      | long name value => rfl
      | short letter => rfl
      | plain bytes =>
          show (if level.awaitsValue = true then _ else _) = _
          split <;> rfl
    rw [steps, bind_eq_ok]
    constructor
    · exact .inl
    · rintro (h | ⟨same, -⟩)
      · exact h
      · exact absurd (shape_eq_escape_iff.mpr same) escape

/-- The words after a mode are those of groups, and perhaps the escape. -/
theorem readInner_eq_ok_iff {mode : Mode} {level final : Level} {words : List (List UInt8)} :
    readInner mode level words = .ok final
      ↔ ∃ written escaped level', words = written ++ escapeWords escaped
        ∧ written.foldlM (Level.next (some mode)) level = .ok level'
        ∧ level'.settle = .ok final := by
  induction words generalizing level with
  | nil =>
      constructor
      · intro h
        exact ⟨[], false, level, rfl, rfl, h⟩
      · rintro ⟨written, escaped, level', split, read, settled⟩
        obtain ⟨rfl, -⟩ := List.append_eq_nil_iff.mp split.symm
        cases read
        exact settled
  | cons word words ih =>
      rw [readInner_cons_iff]
      constructor
      · rintro (⟨level', step, rest⟩ | ⟨rfl, rfl, settled⟩)
        · obtain ⟨written, escaped, last, rfl, read, settled⟩ := ih.mp rest
          refine ⟨word :: written, escaped, last, rfl, ?_, settled⟩
          rw [List.foldlM_cons, step]
          exact read
        · exact ⟨[], true, level, rfl, rfl, settled⟩
      · rintro ⟨written, escaped, last, split, read, settled⟩
        cases written with
        -- The word itself is the escape, and nothing may follow it.
        | nil =>
            cases read
            cases escaped with
            | false => cases split
            | true =>
                cases split
                exact .inr ⟨rfl, rfl, settled⟩
        | cons first written =>
            obtain ⟨rfl, rfl⟩ := List.cons.inj split
            rw [List.foldlM_cons] at read
            obtain ⟨level', step, rest⟩ := bind_eq_ok.mp read
            exact .inl ⟨level', step, ih.mpr ⟨written, escaped, last, rfl, rest, settled⟩⟩

namespace Invocation

theorem withoutMode_ne_ok {level : Level} {i : Invocation} : withoutMode level ≠ .ok i := by
  intro h
  obtain ⟨_, _, h⟩ := bind_eq_ok.mp h
  cases h

/-- What stands where a mode may stand is read as one. -/
theorem readOuter_command {level : Level} {word : List UInt8} {words : List (List UInt8)}
    {i : Invocation} (plain : shape word = .plain word) (free : level.awaitsValue = false) :
    readOuter level (word :: words) = .ok i
      ↔ ∃ mode outer inner, word = Text.utf8 mode.word ∧ level.settle = .ok outer
        ∧ readInner mode {} words = .ok inner ∧ ofLevels mode outer inner = i := by
  rw [readOuter.eq_def]
  simp only [plain, free, Bool.false_eq_true, if_false]
  cases command : Command.ofWord? word with
  | none =>
      refine ⟨fun h => (nomatch h), ?_⟩
      rintro ⟨mode, _, _, named, -⟩
      rw [Command.ofWord?_eq_run_iff.mpr named] at command
      cases command
  | some command' =>
      cases command' with
      | help =>
          refine ⟨fun h => (nomatch h), ?_⟩
          rintro ⟨mode, _, _, named, -⟩
          rw [Command.ofWord?_eq_run_iff.mpr named] at command
          cases command
      | run mode =>
          constructor
          · intro h
            obtain ⟨inner, read, h⟩ := bind_eq_ok.mp h
            obtain ⟨outer, settled, h⟩ := bind_eq_ok.mp h
            cases h
            exact ⟨mode, outer, inner, Command.ofWord?_eq_run_iff.mp command, settled, read, rfl⟩
          · rintro ⟨mode', outer, inner, named, settled, read, rfl⟩
            rw [Command.ofWord?_eq_run_iff.mpr named] at command
            cases command
            exact bind_eq_ok.mpr ⟨inner, read, bind_eq_ok.mpr ⟨outer, settled, rfl⟩⟩

/-- Any other word but the escape is one of the level. -/
theorem readOuter_next {level : Level} {word : List UInt8} {words : List (List UInt8)}
    (flag : shape word = .plain word → level.awaitsValue = true) (going : shape word ≠ .escape) :
    readOuter level (word :: words)
      = level.next none word >>= fun level' => readOuter level' words := by
  rw [readOuter.eq_def, Level.next]
  cases shaped : shape word with
  | escape => exact absurd shaped going
  | long name value | short letter =>
      simp only [shaped]
  | plain bytes =>
      obtain rfl := eq_of_shape_eq_plain shaped
      simp only [shaped, flag shaped, if_true]
      rfl

theorem readOuter_escape_ne_ok {level : Level} {words : List (List UInt8)} {i : Invocation} :
    readOuter level (longWord [] :: words) ≠ .ok i := by
  rw [readOuter.eq_def]
  cases words with
  | nil => exact withoutMode_ne_ok
  | cons next words => exact fun h => (nomatch h)

/-- The next word before a mode, or the mode. -/
theorem readOuter_cons_iff {level : Level} {word : List UInt8} {words : List (List UInt8)}
    {i : Invocation} :
    readOuter level (word :: words) = .ok i
      ↔ (∃ level', level.next none word = .ok level' ∧ readOuter level' words = .ok i)
        ∨ ∃ mode outer inner, word = Text.utf8 mode.word ∧ level.settle = .ok outer
          ∧ readInner mode {} words = .ok inner ∧ ofLevels mode outer inner = i := by
  by_cases command : shape word = .plain word ∧ level.awaitsValue = false
  · obtain ⟨plain, free⟩ := command
    -- A plain word that no flag waits for can only be the mode.
    have stuck : level.next none word = .error .unknownWord := by
      rw [Level.next, plain]
      exact if_neg (by simp [free])
    rw [readOuter_command plain free]
    refine (or_iff_right ?_).symm
    rintro ⟨level', step, -⟩
    rw [stuck] at step
    cases step
  · -- Any other word is not the mode, so it is one more word before it.
    have no_mode : ¬∃ mode outer inner, word = Text.utf8 mode.word ∧ level.settle = .ok outer
        ∧ readInner mode {} words = .ok inner ∧ ofLevels mode outer inner = i := by
      rintro ⟨mode, outer, inner, rfl, settled, -⟩
      exact command ⟨mode.shape_word, Level.awaitsValue_of_settle settled⟩
    rw [or_iff_left no_mode, ← bind_eq_ok]
    by_cases going : shape word = .escape
    · obtain rfl := shape_eq_escape_iff.mp going
      refine ⟨fun h => absurd h readOuter_escape_ne_ok, ?_⟩
      intro h
      cases h
    · rw [readOuter_next (fun plain => ?_) going]
      by_contra waits
      exact command ⟨plain, by simpa using waits⟩

/-- The words of a command line are those before a mode, the mode and those after it. -/
theorem readOuter_eq_ok_iff {level : Level} {words : List (List UInt8)} {i : Invocation} :
    readOuter level words = .ok i
      ↔ ∃ written level' mode rest outer inner, words = written ++ Text.utf8 mode.word :: rest
        ∧ written.foldlM (Level.next none) level = .ok level' ∧ level'.settle = .ok outer
        ∧ readInner mode {} rest = .ok inner ∧ ofLevels mode outer inner = i := by
  induction words generalizing level with
  | nil =>
      constructor
      · intro h
        exact absurd h withoutMode_ne_ok
      · rintro ⟨written, _, mode, rest, _, _, split, -⟩
        exact absurd split.symm (by simp)
  | cons word words ih =>
      rw [readOuter_cons_iff]
      constructor
      · rintro (⟨level', step, rest⟩ | ⟨mode, outer, inner, rfl, settled, read, rfl⟩)
        · obtain ⟨written, last, mode, after, outer, inner, rfl, read, settled, ends⟩ := ih.mp rest
          refine ⟨word :: written, last, mode, after, outer, inner, rfl, ?_, settled, ends⟩
          rw [List.foldlM_cons, step]
          exact read
        · exact ⟨[], level, mode, words, outer, inner, rfl, rfl, settled, read, rfl⟩
      · rintro ⟨written, last, mode, after, outer, inner, split, read, settled, ends⟩
        cases written with
        | nil =>
            cases read
            obtain ⟨rfl, rfl⟩ := List.cons.inj split
            exact .inr ⟨mode, outer, inner, rfl, settled, ends⟩
        | cons first written =>
            obtain ⟨rfl, rfl⟩ := List.cons.inj split
            rw [List.foldlM_cons] at read
            obtain ⟨level', step, rest⟩ := bind_eq_ok.mp read
            exact .inl ⟨level', step,
              ih.mpr ⟨written, last, mode, after, outer, inner, rfl, rest, settled, ends⟩⟩

end Invocation

/-- A command line that is carried out. -/
structure Line where
  /-- The groups before the mode. -/
  outer : List Group
  mode : Mode
  /-- The groups after the mode. -/
  inner : List Group
  /-- Whether the last word is the escape. -/
  escaped : Bool
deriving DecidableEq, Repr

namespace Line

/-- The words of a command line. -/
def words (line : Line) : List (List UInt8) :=
  line.outer.flatMap Group.words
    ++ Text.utf8 line.mode.word :: (line.inner.flatMap Group.words ++ escapeWords line.escaped)

/-- The groups of a command line, in their order. -/
def groups (line : Line) : List Group := line.outer ++ line.inner

/-- The groups before the mode may stand there, and those after it may stand there. -/
structure Fits (line : Line) : Prop where
  outer : FitTogether none line.outer
  inner : FitTogether (some line.mode) line.inner

/-- What a command line asks for. -/
def invocation (line : Line) : Invocation :=
  { mode := line.mode
    jsonLogs := decide (Group.jsonLogs ∈ line.groups)
    overrides := line.groups.filterMap Group.override? }

theorem ofLevels_ofGroups (line : Line) :
    Invocation.ofLevels line.mode (.ofGroups line.outer) (.ofGroups line.inner)
      = line.invocation := by
  simp [Invocation.ofLevels, Level.ofGroups, invocation, groups]

end Line

/-- **Which command lines are carried out.** A command line is carried out exactly if its words
are those of a `Line` whose groups fit, and it asks for what that line does. -/
theorem Invocation.ofWords_eq_ok_iff {words : List (List UInt8)} {i : Invocation} :
    ofWords words = .ok i ↔ ∃ line : Line, line.Fits ∧ line.words = words ∧ line.invocation = i := by
  rw [ofWords, readOuter_eq_ok_iff]
  constructor
  · rintro ⟨written, level, mode, rest, outer, inner, rfl, read, settled, readInner, rfl⟩
    obtain ⟨before, fitBefore, rfl, rfl⟩ := Level.exists_settle_iff.mp ⟨level, read, settled⟩
    obtain ⟨written, escaped, level, rfl, read, settled⟩ := readInner_eq_ok_iff.mp readInner
    obtain ⟨after, fitAfter, rfl, rfl⟩ := Level.exists_settle_iff.mp ⟨level, read, settled⟩
    let line : Line := { outer := before, mode := mode, inner := after, escaped := escaped }
    exact ⟨line, ⟨fitBefore, fitAfter⟩, rfl, line.ofLevels_ofGroups.symm⟩
  · rintro ⟨line, fits, rfl, rfl⟩
    obtain ⟨level, read, settled⟩ := Level.foldlM_flatMap_words fits.outer
    obtain ⟨level', read', settled'⟩ := Level.foldlM_flatMap_words fits.inner
    exact ⟨_, level, line.mode, _, _, _, rfl, read, settled,
      readInner_eq_ok_iff.mpr ⟨_, line.escaped, level', rfl, read', settled'⟩,
      line.ofLevels_ofGroups⟩

end StreamLoad.CommandLine
