/-! # Words of a command line

A command line is a list of words, each a list of bytes that need not be text. By its shape a
word is a plain word, a long flag with or without a value after an equals sign, a cluster of
short flags, or the escape `--`, after which no word is a flag. A single hyphen is plain.
-/

set_option autoImplicit false

namespace StreamLoad.CommandLine

/-- The shape of a word. -/
inductive Shape where
  /-- The word `--`. -/
  | escape
  /-- A word such as `--name` or `--name=value`. -/
  | long (name : List UInt8) (value : Option (List UInt8))
  /-- A word such as `-x`, by its first letter. -/
  | short (letter : UInt8)
  /-- Any other word. -/
  | plain (bytes : List UInt8)
deriving DecidableEq, Repr

/-- The byte of a hyphen. -/
def hyphen : UInt8 := 0x2D

/-- The byte of an equals sign. -/
def equalsSign : UInt8 := 0x3D

/-- A long flag, split at its first equals sign. -/
def longShape (bytes : List UInt8) : Shape :=
  match bytes.span (· ≠ equalsSign) with
  | (name, _ :: value) => .long name (some value)
  | (name, []) => .long name none

/-- The shape of a word. -/
def shape (bytes : List UInt8) : Shape :=
  match bytes with
  | a :: b :: rest =>
      if a = hyphen then
        if b = hyphen then
          if rest.isEmpty then .escape else longShape rest
        else .short b
      else .plain bytes
  | _ => .plain bytes

end StreamLoad.CommandLine
