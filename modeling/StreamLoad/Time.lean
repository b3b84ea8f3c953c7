import StreamLoad.Text.Decimal

/-! # Instants and lengths of time

Time is counted in nanoseconds, as a natural number: a length of time is a number of them, and
an instant is the length of time since the start of the run. `text` writes a length of time in
the largest unit of seconds, milliseconds, microseconds and nanoseconds that it reaches, with
as many places as it needs: `1.234s`, `5ms`, `1.5µs`, `0ns`.
-/

set_option autoImplicit false

namespace StreamLoad

namespace Duration

/-- A second in nanoseconds. -/
def second : Nat := 1000000000

/-- A millisecond in nanoseconds. -/
def millisecond : Nat := 1000000

/-- A microsecond in nanoseconds. -/
def microsecond : Nat := 1000

/-- The length of some milliseconds. -/
def ofMillis (ms : Nat) : Nat := ms * millisecond

/-- The whole milliseconds of a length of time. -/
def millis (d : Nat) : Nat := d / millisecond

/-- The whole milliseconds of a length of time as a number of sixty-four bits. What goes beyond
these bits is lost. -/
def millis64 (d : Nat) : Nat := millis d % (Decimal.limit64 + 1)

/-- A fraction of `places` decimal places, as digits without trailing zeros. -/
def fractionDigits (places fraction : Nat) : List Char :=
  let digits := Decimal.digits fraction
  let padded := List.replicate (places - digits.length) '0' ++ digits
  (padded.reverse.dropWhile (· = '0')).reverse

/-- A count of a unit of ten to the power of `places` nanoseconds, with the places it needs. -/
def inUnit (places : Nat) (unit : String) (d : Nat) : String :=
  let size := Nat.pow 10 places
  match fractionDigits places (d % size) with
  | [] => Decimal.text (d / size) ++ unit
  | fraction => Decimal.text (d / size) ++ "." ++ String.ofList fraction ++ unit

/-- The text of a length of time, in the largest unit that it reaches. -/
def text (d : Nat) : String :=
  if d ≥ second then inUnit 9 "s" d
  else if d ≥ millisecond then inUnit 6 "ms" d
  else if d ≥ microsecond then inUnit 3 "µs" d
  else Decimal.text d ++ "ns"

/-- The text of a length of time that may be missing. -/
def textOfOption : Option Nat → String
  | some d => "Some(" ++ text d ++ ")"
  | none => "None"

/-- A length of time as a number of milliseconds, computed from its seconds: whole seconds plus
the rest as a fraction of a second, times a thousand. -/
def millisFloat (d : Nat) : Float :=
  (Float.ofNat (d / second) + Float.ofNat (d % second) / 1.0e9) * 1000.0

end Duration

end StreamLoad
