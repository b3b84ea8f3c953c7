import StreamLoad.Text.Json

/-! # Log lines

What a load test notes while it runs is a list of notices. Each has a log entry: a level and a
text. The log line of an entry is the level's word, a blank, and the text; it can be written as
a JSON object as well.
-/

set_option autoImplicit false

namespace StreamLoad

/-- How much a notice matters. -/
inductive Level where
  | debug
  | info
  | warn
deriving DecidableEq, Repr

/-- The word for a level. -/
def Level.word : Level → String
  | .debug => "DEBUG"
  | .info => "INFO"
  | .warn => "WARN"

/-- Whether entries of a level are of use to those who only watch. -/
def Level.isForAll : Level → Bool
  | .debug => false
  | .info | .warn => true

/-- An entry of the log. -/
structure LogEntry where
  level : Level
  text : String
deriving DecidableEq, Repr

/-- The log line of an entry. -/
def LogEntry.line (e : LogEntry) : String := e.level.word ++ " " ++ e.text

/-- The JSON object of an entry. -/
def LogEntry.json (e : LogEntry) : String :=
  Json.object
    [("level", Json.word e.level.word),
      ("fields", Json.object [("message", Json.string e.text)])]

end StreamLoad
