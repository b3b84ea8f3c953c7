import StreamLoad.Net.Domain.Direction
import StreamLoad.Net.Domain.Joining
import StreamLoad.Net.Domain.Mapping
import StreamLoad.Net.Domain.Mark
import StreamLoad.Net.Domain.Punycode

/-! # Names of hosts

A name is made of labels with dots between them. Networks know names of ASCII only; a name with
other characters is used in a form of ASCII, where a label that needs it is replaced by a prefix
and a text that says which characters to insert. `Domain.ascii?` is that form, or none if the
text is no name: the name is spelled in one way, no character of it is forbidden, a label that
carries the prefix is the written form of a label, labels beyond ASCII do not begin with a mark
and have their joiners where they belong, and labels keep to one direction.
-/

set_option autoImplicit false

namespace StreamLoad.Domain

/-- The mark that a label written for one beyond ASCII begins with. -/
def labelMark : List Char := ['x', 'n', '-', '-']

/-- A label that carries the mark, without it. -/
def unmarked? : List Char → Option (List Char)
  | 'x' :: 'n' :: '-' :: '-' :: rest => some rest
  | _ => none

/-- The number of characters of the longest label that is written in ASCII. -/
def textLimit : Nat := 1000

/-- The number of characters of the longest label that is read, without its mark. -/
def markedLimit : Nat := 2000

/-- A label, as it is read and as it is written in ASCII. -/
structure Label where
  text : List Char
  ascii : List Char
deriving DecidableEq, Repr

/-- Whether a label beyond ASCII can be one of a name. -/
def isLabel (text : List Char) : Bool :=
  !(text.head?.any isMark) && joinersFit [] text && text.length ≤ textLimit

/-- Whether what stands after the mark says that there are characters to insert. -/
def isMarkedLabel (rest : List Char) : Bool :=
  !rest.isEmpty && rest.getLast? ≠ some Punycode.delimiter && rest.length ≤ markedLimit

/-- Reads a label of a name that is spelled as it should be. -/
def label? (cs : List Char) : Option Label :=
  match unmarked? cs with
  | some rest =>
      if isMarkedLabel rest then do
        let text ← Punycode.decode? rest
        if isSpelled text && (unmarked? text).isNone && isLabel text then
          some { text := text, ascii := cs }
        else none
      else none
  | none =>
      if cs.all isAscii then some { text := cs, ascii := cs }
      else if isLabel cs then some { text := cs, ascii := labelMark ++ Punycode.encode cs }
      else none

/-- The form of a name in ASCII. Some characters are forbidden in it. -/
def ascii? (isForbidden : Char → Bool) (name : List Char) : Option (List Char) := do
  let spelling ← spell? name
  if spelling.any isForbidden then none
  else
    let labels ← (spelling.splitOn '.').mapM label?
    if isUniform (labels.map (·.text)) then
      some (['.'].intercalate (labels.map (·.ascii)))
    else none

end StreamLoad.Domain
