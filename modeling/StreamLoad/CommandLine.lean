import StreamLoad.CommandLine.Flag
import StreamLoad.CommandLine.Word
import StreamLoad.Settings.Check

/-! # The command line

A command line names a mode and may give flags: `--json-logs` and `--metrics-addr` before or
after the mode, the flags of the mode after it. The words before the mode and those after it
are two levels; on each a flag may be given once, and the inner level wins. `Invocation.ofWords`
reads the words from left to right and answers the first problem.

A flag's value may follow after an equals sign, and is then read at once, or as the next word.
That word waits until the next known flag of its level or the end of the level; a word that is
unknown comes first, so that it is the problem answered even if the waiting value is bad.
-/

set_option autoImplicit false

namespace StreamLoad.CommandLine

/-! ## One level

A level reads words one at a time and keeps the flag whose value it still waits for. The value is
read when the next flag comes or the level ends, and not when the word does, so a word that is
unknown is answered before a value that is bad. -/

/-- What one level has read so far. -/
structure Level where
  /-- The flag whose value is waiting to be read, and its value if it has come. -/
  waiting : Option (Flag × Option (List UInt8)) := none
  /-- The overrides read, the latest first. -/
  overrides : List Override := []
  /-- Whether log lines are to be written as JSON. -/
  jsonLogs : Bool := false
deriving DecidableEq, Repr

namespace Level

/-- Whether a flag waits for the next word as its value. -/
def awaitsValue (level : Level) : Bool :=
  match level.waiting with
  | some (_, none) => true
  | _ => false

/-- Whether nothing is given on a level. -/
def isEmpty (level : Level) : Bool := level.overrides.isEmpty && !level.jsonLogs

/-- Reads a value of a flag, unless the flag was given before. -/
def give (level : Level) (flag : Flag) (value : List UInt8) : Except Rejection Level :=
  if level.overrides.any (·.flag = flag) then .error .repeatedFlag
  else do
    let override ← flag.read value
    return { level with overrides := override :: level.overrides }

/-- Reads the value that is waiting. -/
def settle (level : Level) : Except Rejection Level :=
  match level.waiting with
  | none => .ok level
  | some (_, none) => .error .noSuchChoice
  | some (flag, some value) => { level with waiting := none }.give flag value

/-- Takes a word as the value of the flag that waits for one. -/
def supply (level : Level) (word : List UInt8) : Level :=
  match level.waiting with
  | some (flag, none) => { level with waiting := some (flag, some word) }
  | _ => level

/-- Takes the flag for JSON logs, which takes no value. -/
def takeJsonLogs (level : Level) : Option (List UInt8) → Except Rejection Level
  | some _ => .error .valueNotTaken
  | none => do
      let level ← level.settle
      if level.jsonLogs then .error .repeatedFlag else return { level with jsonLogs := true }

/-- Takes a flag that ends the reading with a request for information. -/
def takeRequest (level : Level) (request : Rejection) :
    Option (List UInt8) → Except Rejection Level
  | some _ => .error .valueNotTaken
  | none => do
      let _ ← level.settle
      .error request

/-- Takes a flag with a value, which may follow in the next word. -/
def takeFlag (level : Level) (flag : Flag) :
    Option (List UInt8) → Except Rejection Level
  | some value => do
      let level ← level.settle
      level.give flag value
  | none => do
      let level ← level.settle
      return { level with waiting := some (flag, none) }

/-- Takes a long flag of the level of `mode`, or of the outer level if that is `none`. -/
def takeLong (level : Level) (mode : Option Mode) (name : List UInt8)
    (value : Option (List UInt8)) : Except Rejection Level :=
  if name = Text.utf8 "json-logs" then level.takeJsonLogs value
  else if name = Text.utf8 "help" then level.takeRequest .help value
  else if name = Text.utf8 "version" ∧ mode = none then level.takeRequest .version value
  else
    match Flag.find? mode name with
    | some flag => level.takeFlag flag value
    | none => .error .unknownWord

/-- Takes a cluster of short flags, of which the first one decides. -/
def takeShort (level : Level) (mode : Option Mode) (letter : UInt8) : Except Rejection Level :=
  if letter = 0x68 then level.takeRequest .help none
  else if letter = 0x56 ∧ mode = none then level.takeRequest .version none
  else .error .unknownWord

end Level

/-- Reads the words after a mode. -/
def readInner (mode : Mode) (level : Level) : List (List UInt8) → Except Rejection Level
  | [] => level.settle
  | word :: words =>
      match shape word with
      | .escape => if words.isEmpty then level.settle else .error .unknownWord
      | .long name value => do
          let level ← level.takeLong (some mode) name value
          readInner mode level words
      | .short letter => do
          let level ← level.takeShort (some mode) letter
          readInner mode level words
      | .plain bytes =>
          if level.awaitsValue then readInner mode (level.supply bytes) words
          else .error .unknownWord

/-! ## The whole command line -/

/-- A word that may stand where a mode is expected. -/
inductive Command where
  | run (mode : Mode)
  | help
deriving DecidableEq, Repr

/-- The command of a word. -/
def Command.ofWord? (word : List UInt8) : Option Command :=
  if word = Text.utf8 Mode.drain.word then some (.run .drain)
  else if word = Text.utf8 Mode.bench.word then some (.run .bench)
  else if word = Text.utf8 "help" then some .help
  else none

/-- The answer to a request for help, with the words after it: at most one, a command. -/
def helpAnswer : List (List UInt8) → Rejection
  | [] => .help
  | word :: words =>
      if (Command.ofWord? word).isSome ∧ words.isEmpty then .help else .unknownMode

/-- What a command line asks for. -/
structure Invocation where
  mode : Mode
  jsonLogs : Bool
  /-- The overrides, those of the outer level first, in the order given. -/
  overrides : List Override
deriving DecidableEq, Repr

namespace Invocation

/-- The invocation of two levels. -/
def ofLevels (mode : Mode) (outer inner : Level) : Invocation :=
  { mode := mode
    jsonLogs := outer.jsonLogs || inner.jsonLogs
    overrides := outer.overrides.reverse ++ inner.overrides.reverse }

/-- The answer to a command line without a mode. -/
def withoutMode (level : Level) : Except Rejection Invocation := do
  let level ← level.settle
  .error (if level.isEmpty then .nothingGiven else .noMode)

/-- Reads the words from a mode's place on. -/
def readOuter (level : Level) : List (List UInt8) → Except Rejection Invocation
  | [] => withoutMode level
  | word :: words =>
      match shape word with
      | .escape =>
          match words with
          | [] => withoutMode level
          | next :: _ =>
              .error (if (Command.ofWord? next).isSome then .unknownWord else .unknownMode)
      | .long name value => do
          let level ← level.takeLong none name value
          readOuter level words
      | .short letter => do
          let level ← level.takeShort none letter
          readOuter level words
      | .plain bytes =>
          if level.awaitsValue then readOuter (level.supply bytes) words
          else
            match Command.ofWord? bytes with
            | some (.run mode) => do
                let inner ← readInner mode {} words
                let outer ← level.settle
                return ofLevels mode outer inner
            | some .help => .error (helpAnswer words)
            | none => .error .unknownMode

/-- Reads the words of a command line, without the name of the program. -/
def ofWords (words : List (List UInt8)) : Except Rejection Invocation := readOuter {} words

/-- The settings that an invocation leads to in an environment. -/
def settings (i : Invocation) (env : Environment) : Settings :=
  i.overrides.foldl Override.apply env.settings

/-- Checks the settings that the mode uses. -/
def check (i : Invocation) (s : Settings) : Except SettingsFault Unit :=
  match i.mode with
  | .drain => s.checkChurn
  | .bench => s.checkBenchmark

end Invocation

end StreamLoad.CommandLine
