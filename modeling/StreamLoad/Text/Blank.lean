/-! # Blank and control characters

Two classes of the Unicode character database, as ranges of code points: `White_Space`
(`isBlank`) and the control characters of general category `Cc` (`isControl`). Both go
beyond ASCII: the no-break space is blank and the next-line character is both, while the
zero-width space, the soft hyphen and the byte order mark are neither.
-/

set_option autoImplicit false

namespace StreamLoad.Text

/-- The code points with the property `White_Space`, as closed ranges in ascending order. -/
def blankRanges : List (Nat × Nat) :=
  [(0x09, 0x0D), (0x20, 0x20), (0x85, 0x85), (0xA0, 0xA0), (0x1680, 0x1680),
    (0x2000, 0x200A), (0x2028, 0x2029), (0x202F, 0x202F), (0x205F, 0x205F), (0x3000, 0x3000)]

/-- The code points of general category `Cc`, as closed ranges in ascending order. -/
def controlRanges : List (Nat × Nat) := [(0x00, 0x1F), (0x7F, 0x9F)]

/-- Whether a code point lies in one of the ranges. -/
def inRanges (ranges : List (Nat × Nat)) (n : Nat) : Bool :=
  ranges.any fun r => r.1 ≤ n && n ≤ r.2

/-- Whether a character is blank. -/
def isBlank (c : Char) : Bool := inRanges blankRanges c.toNat

/-- Whether a character is a control character. -/
def isControl (c : Char) : Bool := inRanges controlRanges c.toNat

end StreamLoad.Text
