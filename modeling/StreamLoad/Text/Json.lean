import StreamLoad.Text.Decimal

/-! # Compact JSON text

The texts of the JSON values that snapshots and log entries are written with: numbers, truth
values, `null`, strings, and objects without blanks whose fields keep their order. The names
used are plain words, so that none of them needs an escape.
-/

set_option autoImplicit false

namespace StreamLoad.Json

/-- The text of a whole number. -/
def number (n : Nat) : String := Decimal.text n

/-- The text of a truth value. -/
def truth (b : Bool) : String := if b then "true" else "false"

/-- The text of a plain word in quotes. -/
def word (text : String) : String := "\x22" ++ text ++ "\x22"

/-- A character within a string: quotes, backslashes and control characters are escaped. -/
def escape (c : Char) : List Char :=
  if c = '\x22' then ['\x5c', '\x22']
  else if c = '\x5c' then ['\x5c', '\x5c']
  else if c.toNat < 0x20 then
    let digits := Nat.toDigits 16 c.toNat
    ['\x5c', 'u'] ++ List.replicate (4 - digits.length) '0' ++ digits
  else [c]

/-- The text of a string. -/
def string (text : String) : String :=
  word (String.ofList (text.toList.flatMap escape))

/-- The text of a value that may be missing. -/
def nullable {α : Type} (write : α → String) : Option α → String
  | some a => write a
  | none => "null"

/-- The text of an object, from its names and the texts of their values. -/
def object (fields : List (String × String)) : String :=
  "\x7b" ++ String.intercalate "," (fields.map fun f => word f.1 ++ ":" ++ f.2) ++ "\x7d"

end StreamLoad.Json
