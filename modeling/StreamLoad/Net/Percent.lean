import StreamLoad.Text.Utf8

/-! # Percent-encoding

A character that may not stand in a part of an address is written as its UTF-8 bytes, each as
a percent sign and two upper-case hexadecimal digits. Each part of an address has a set of the
characters to be written so; all sets hold the control characters and all that is not ASCII.
Decoding reads two digits of either case after a percent sign, and leaves a percent sign alone
that no two digits follow.
-/

set_option autoImplicit false

namespace StreamLoad.Percent

/-- The upper-case hexadecimal digit of a number below sixteen. -/
def hexDigit (n : Nat) : Char := Char.ofNat (if n < 10 then 0x30 + n else 0x37 + n)

/-- A byte written with a percent sign. -/
def encodeByte (b : UInt8) : List Char :=
  ['%', hexDigit (b.toNat / 16), hexDigit (b.toNat % 16)]

/-- A character, percent-encoded if it is in a set. -/
def encodeChar (inSet : Char → Bool) (c : Char) : List Char :=
  if inSet c then (String.utf8EncodeChar c).flatMap encodeByte else [c]

/-- A text with the characters of a set percent-encoded. -/
def encode (inSet : Char → Bool) (cs : List Char) : List Char := cs.flatMap (encodeChar inSet)

/-! ## The sets -/

/-- Whether a character is one of those listed by code point. -/
def isOneOf (points : List Nat) (c : Char) : Bool := points.contains c.toNat

/-- Control characters and all that is not ASCII. -/
def inControlSet (c : Char) : Bool := c.toNat < 0x20 || c.toNat > 0x7E

/-- What is encoded in a fragment: also blank, double quote, angle brackets and grave accent. -/
def inFragmentSet (c : Char) : Bool :=
  inControlSet c || isOneOf [0x20, 0x22, 0x3C, 0x3E, 0x60] c

/-- What is encoded in a query: also blank, double quote, number sign and angle brackets. -/
def inQuerySet (c : Char) : Bool :=
  inControlSet c || isOneOf [0x20, 0x22, 0x23, 0x3C, 0x3E] c

/-- What is encoded in the query of a special address: also the single quote. -/
def inSpecialQuerySet (c : Char) : Bool := inQuerySet c || isOneOf [0x27] c

/-- What is encoded in a path: as in a query, and question mark, grave accent and braces. -/
def inPathSet (c : Char) : Bool := inQuerySet c || isOneOf [0x3F, 0x60, 0x7B, 0x7D] c

/-- What is encoded in a login: as in a path, and what separates the parts of an address. -/
def inLoginSet (c : Char) : Bool :=
  inPathSet c || isOneOf [0x2F, 0x3A, 0x3B, 0x3D, 0x40, 0x5B, 0x5C, 0x5D, 0x5E, 0x7C] c

/-! ## Decoding -/

/-- The value of a hexadecimal digit, given as a byte. -/
def hexValue? (b : UInt8) : Option Nat :=
  let n := b.toNat
  if 0x30 ≤ n ∧ n ≤ 0x39 then some (n - 0x30)
  else if 0x41 ≤ n ∧ n ≤ 0x46 then some (n - 0x37)
  else if 0x61 ≤ n ∧ n ≤ 0x66 then some (n - 0x57)
  else none

/-- The byte of a percent sign. -/
def sign : UInt8 := 0x25

/-- The bytes that percent-encoded bytes stand for. -/
def decode : List UInt8 → List UInt8
  | [] => []
  | [a] => [a]
  | [a, b] => [a, b]
  | a :: b :: c :: rest =>
      if a = sign then
        match hexValue? b, hexValue? c with
        | some high, some low => UInt8.ofNat (high * 16 + low) :: decode rest
        | _, _ => a :: decode (b :: c :: rest)
      else a :: decode (b :: c :: rest)

end StreamLoad.Percent
