import StreamLoad.Event

/-! # Scanning a stream for events

The body of a stream arrives in chunks that end anywhere, inside a line or inside a character.
A `Scanner` holds the bytes of the line under way and finds the events of the lines that a
chunk completes. It does not hold a line without bound: when a chunk ends inside a line of
which more than `lineLimit` bytes are held, those bytes are let go and the rest of the line,
up to its line feed, is passed over.
-/

set_option autoImplicit false

namespace StreamLoad

/-- The number of bytes of an unfinished line that are held from one chunk to the next. -/
def lineLimit : Nat := 64 * 1024

/-- What is known of the line under way. -/
structure Scanner where
  /-- The bytes held of the line under way, the latest first. -/
  held : List UInt8 := []
  /-- Whether the line under way has outgrown the limit and is passed over. -/
  discarding : Bool := false
deriving DecidableEq, Repr

namespace Scanner

/-- The number of bytes held back until their line ends. -/
def buffered (s : Scanner) : Nat := s.held.length

/-- The event of the line under way, once its line feed has come. -/
def lineEvent? (s : Scanner) : Option Event :=
  if s.discarding then none else Event.ofLine? s.held.reverse

/-- Takes one byte. A line feed completes the line under way and the next line starts afresh;
any other byte is held. -/
def push (s : Scanner) (b : UInt8) : Scanner × Option Event :=
  if b = Event.lineFeed then ({}, s.lineEvent?)
  else ({ s with held := b :: s.held }, none)

/-- Takes one byte and adds the event it completes to those found so far, the latest first. -/
def sweep (state : Scanner × List Event) (b : UInt8) : Scanner × List Event :=
  match state.1.push b with
  | (next, some event) => (next, event :: state.2)
  | (next, none) => (next, state.2)

/-- Gives up a line that has outgrown the limit. -/
def trim (s : Scanner) : Scanner :=
  if s.buffered > lineLimit then { held := [], discarding := true } else s

/-- Takes one chunk of a body: what is held after it, and the events it completed, in order. -/
def feed (s : Scanner) (chunk : List UInt8) : Scanner × List Event :=
  let (last, found) := chunk.foldl sweep (s, [])
  (last.trim, found.reverse)

/-- Takes chunks one after another: what is held at the end, and all events, in order. -/
def feedAll (s : Scanner) : List (List UInt8) → Scanner × List Event
  | [] => (s, [])
  | chunk :: chunks =>
      let (next, events) := s.feed chunk
      let (last, later) := next.feedAll chunks
      (last, events ++ later)

end Scanner

end StreamLoad
