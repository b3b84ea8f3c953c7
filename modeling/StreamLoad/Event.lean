import StreamLoad.Text.Utf8

/-! # Events of an event stream

A server streams lines. A line that starts with `data:` carries an event; its payload is what
follows, less one blank if there is one, and less one carriage return at the end of the line.
Two payloads are set apart: the server greets a new subscriber with `connected` and keeps the
connection alive with `ping`. Lines of other fields, comments, blank lines and lines whose
payload is not UTF-8 carry no event.
-/

set_option autoImplicit false

namespace StreamLoad

/-- An event received on a stream. -/
inductive Event where
  /-- The greeting that a server sends once, right after it has accepted a subscriber. -/
  | welcome
  /-- The payload that a server sends to keep a stream alive. -/
  | ping
  /-- Any other payload. -/
  | data (payload : String)
deriving DecidableEq, Repr

namespace Event

/-- The payload of the greeting. -/
def welcomePayload : String := "connected"

/-- The payload of a keep-alive event. -/
def pingPayload : String := "ping"

/-- The event that carries a payload. -/
def ofPayload (payload : String) : Event :=
  if payload = welcomePayload then welcome
  else if payload = pingPayload then ping
  else data payload

/-- The payload of an event. -/
def payload : Event → String
  | welcome => welcomePayload
  | ping => pingPayload
  | data text => text

/-! ## The line of an event -/

/-- The byte that ends a line. -/
def lineFeed : UInt8 := 0x0A

/-- The byte that may precede the end of a line. -/
def carriageReturn : UInt8 := 0x0D

/-- The byte of a blank. -/
def blank : UInt8 := 0x20

/-- A line less one carriage return at its end. -/
def trimReturn (line : List UInt8) : List UInt8 :=
  if line.getLast? = some carriageReturn then line.dropLast else line

/-- A field's value less one blank at its start. -/
def trimBlank : List UInt8 → List UInt8
  | b :: value => if b = blank then value else b :: value
  | [] => []

/-- The value of a `data` field; `none` for a line of another field. -/
def dataValue? : List UInt8 → Option (List UInt8)
  | 0x64 :: 0x61 :: 0x74 :: 0x61 :: 0x3A :: value => some (trimBlank value)
  | _ => none

/-- The event of one line, given without its line feed. -/
def ofLine? (line : List UInt8) : Option Event := do
  let value ← dataValue? (trimReturn line)
  let text ← Text.ofUtf8? value
  return ofPayload text

end Event

end StreamLoad
