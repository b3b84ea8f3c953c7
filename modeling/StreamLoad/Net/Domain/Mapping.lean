import StreamLoad.Net.Domain.Mapped
import StreamLoad.Net.Domain.Refused
import StreamLoad.Text.Composition

/-! # The spelling of a name

Before a name of the web is used it is spelled in one way: capital letters become small ones,
ornamented forms become plain ones, some characters are left out, and what is left takes its
composed form. A name with a character that is refused has no spelling.
-/

set_option autoImplicit false

namespace StreamLoad.Domain

/-- Whether a character is one of ASCII. -/
def isAscii (c : Char) : Bool := c.toNat < 0x80

/-- What a name writes for a character, unless it is refused. -/
def spellChar? (c : Char) : Option (List Char) :=
  let n := c.toNat
  if isAscii c then some [c.toLower]
  else if refused.covers n then none
  else if ignored.covers n then some []
  else
    match pairs.find? n, shifted.find? n, spelled.find? n with
    | some span, _, _ => if (n - span.first) % 2 = 0 then some [Char.ofNat (n + 1)] else some [c]
    | none, some span, _ => some [Char.ofNat (span.value + (n - span.first))]
    | none, none, some span => span.value[n - span.first]?
    | none, none, none => some [c]

/-- The spelling of a name. -/
def spell? (name : List Char) : Option (List Char) :=
  if name.all isAscii then some (name.map Char.toLower)
  else (name.mapM spellChar?).map fun texts => Text.Composition.composed texts.flatten

/-- Whether a text is spelled as names spell it. -/
def isSpelled (text : List Char) : Bool := spell? text = some text

end StreamLoad.Domain
