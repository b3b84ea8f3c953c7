import StreamLoad.Event.Scanner
import StreamLoad.Failure

/-! # Reading the events of one response body

A `Reader` gives out the events of a body one at a time. Pieces of the body that have arrived
and are not yet read stand in its inbox. `next` answers the next event, or that the body has
ended, or nothing as long as more of the body has to arrive; `awaitWelcome` passes over events
up to the greeting. A body that was cut off reports its fault once and counts as closed from
then on, as a body that ended does.
-/

set_option autoImplicit false

namespace StreamLoad

/-- A piece of a response body, as it arrives. -/
inductive BodyItem where
  /-- Some bytes. -/
  | chunk (bytes : List UInt8)
  /-- The end of the body. -/
  | close
  /-- The connection broke within the body. -/
  | cut
deriving DecidableEq, Repr

/-- The reading side of one response body. -/
structure Reader where
  /-- The line under way. -/
  scanner : Scanner := {}
  /-- Events found and not yet given out. -/
  ready : List Event := []
  /-- Pieces that have arrived and are not yet read. -/
  inbox : List BodyItem := []
deriving DecidableEq, Repr

namespace Reader

/-- Adds a piece of the body that has arrived. -/
def receive (r : Reader) (item : BodyItem) : Reader := { r with inbox := r.inbox ++ [item] }

/-- Reads pieces until they yield an event or a fault; `none` if all of them are used up. -/
def pull (scanner : Scanner) : List BodyItem → Reader × Option (Except Failure Event)
  | [] => ({ scanner := scanner }, none)
  | .close :: rest => ({ scanner := scanner, inbox := .close :: rest }, some (.error .streamClosed))
  | .cut :: _ => ({ scanner := scanner, inbox := [.close] }, some (.error (.request .bodyCut)))
  | .chunk bytes :: rest =>
      match scanner.feed bytes with
      | (next, []) => pull next rest
      | (next, event :: ready) =>
          ({ scanner := next, ready := ready, inbox := rest }, some (.ok event))

/-- The next event, or why there is none; `none` as long as more of the body has to arrive. -/
def next (r : Reader) : Reader × Option (Except Failure Event) :=
  match r.ready with
  | event :: ready => ({ r with ready := ready }, some (.ok event))
  | [] => pull r.scanner r.inbox

/-- The events after the first greeting; `none` if there is no greeting. -/
def afterWelcome? : List Event → Option (List Event)
  | [] => none
  | .welcome :: rest => some rest
  | _ :: rest => afterWelcome? rest

/-- Reads pieces until one of them holds a greeting, or a fault comes. -/
def pullWelcome (scanner : Scanner) : List BodyItem → Reader × Option (Except Failure Unit)
  | [] => ({ scanner := scanner }, none)
  | .close :: rest => ({ scanner := scanner, inbox := .close :: rest }, some (.error .streamClosed))
  | .cut :: _ => ({ scanner := scanner, inbox := [.close] }, some (.error (.request .bodyCut)))
  | .chunk bytes :: rest =>
      match scanner.feed bytes with
      | (next, events) =>
          match afterWelcome? events with
          | none => pullWelcome next rest
          | some ready => ({ scanner := next, ready := ready, inbox := rest }, some (.ok ()))

/-- Passes over events up to the greeting and over the greeting itself; `none` as long as more
of the body has to arrive, and the events passed over stay passed over. -/
def awaitWelcome (r : Reader) : Reader × Option (Except Failure Unit) :=
  match afterWelcome? r.ready with
  | some ready => ({ r with ready := ready }, some (.ok ()))
  | none => pullWelcome r.scanner r.inbox

end Reader

end StreamLoad
