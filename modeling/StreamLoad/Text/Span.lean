/-! # Spans of code points

A property of characters is kept as the spans of code points that have it, each with a value, in
ascending order and apart. `Spans.find?` looks up the span of a code point by halving.

Spans are written as words with blanks or line ends between them: a code point, or two with a
hyphen between them, in hexadecimal, and the value after an equals sign.
-/

set_option autoImplicit false

namespace StreamLoad.Text

/-- Code points that follow one another, and what they have in common. -/
structure Span (α : Type) where
  first : Nat
  last : Nat
  value : α
deriving Repr

/-- Spans in ascending order and apart. -/
abbrev Spans (α : Type) := Array (Span α)

namespace Spans

variable {α : Type}

/-- The span of a code point among those from one place to before another. -/
def search (spans : Spans α) (n low high : Nat) : Option (Span α) :=
  if low < high then
    let middle := (low + high) / 2
    match spans[middle]? with
    | none => none
    | some span =>
        if n < span.first then search spans n low middle
        else if span.last < n then search spans n (middle + 1) high
        else some span
  else none
termination_by high - low
decreasing_by all_goals omega

/-- The span of a code point. -/
def find? (spans : Spans α) (n : Nat) : Option (Span α) := search spans n 0 spans.size

/-- Whether a code point lies in one of the spans. -/
def covers (spans : Spans α) (n : Nat) : Bool := (find? spans n).isSome

end Spans

/-! ## Reading -/

/-- The words of a text, with blanks and line ends between them. -/
def words (text : String) : List (List Char) :=
  (text.toList.splitOnP Char.isWhitespace).filter fun word => !word.isEmpty

/-- The value of a hexadecimal digit in capitals. -/
def hexadecimalDigit (c : Char) : Nat :=
  if c.isDigit then c.toNat - 0x30 else c.toNat - 0x37

/-- The value of hexadecimal digits in capitals. -/
def hexadecimal (cs : List Char) : Nat :=
  cs.foldl (fun value c => value * 16 + hexadecimalDigit c) 0

namespace Spans

/-- A word as a span: what it holds, and what the value after the equals sign reads as. -/
def ofWord {α : Type} (valueOf : List Char → α) (word : List Char) : Span α :=
  let points := word.takeWhile (· ≠ '=')
  let first := hexadecimal (points.takeWhile (· ≠ '-'))
  let last :=
    match points.dropWhile (· ≠ '-') with
    | _ :: digits => hexadecimal digits
    | [] => first
  { first := first, last := last, value := valueOf ((word.dropWhile (· ≠ '=')).drop 1) }

/-- The spans that words name. -/
def ofWords {α : Type} (valueOf : List Char → α) (text : String) : Spans α :=
  ((words text).map (ofWord valueOf)).toArray

/-- The spans that words without values name. -/
def ofRanges (text : String) : Spans Unit := ofWords (fun _ => ()) text

end Spans

end StreamLoad.Text
