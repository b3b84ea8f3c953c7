/-! # Whole numbers in decimal

`digits` writes a whole number without leading zeros. `read? limit` reads one: an optional
plus sign, then at least one digit, leading zeros allowed, and a value of at most `limit`.
A written number reads back (`read?_digits`); reading is wider than writing, for instance
`+7` and `007` both read as seven.
-/

set_option autoImplicit false

namespace StreamLoad.Decimal

/-- The largest number of 16 bits. -/
def limit16 : Nat := 65535

/-- The largest number of 32 bits. -/
def limit32 : Nat := 4294967295

/-- The largest number of 64 bits. -/
def limit64 : Nat := 18446744073709551615

/-- The decimal digits of a number, without leading zeros. -/
def digits (n : Nat) : List Char := Nat.toDigits 10 n

/-- The decimal text of a number. -/
def text (n : Nat) : String := String.ofList (digits n)

/-- The value of a list of digits, if all of its characters are digits. -/
def value? (cs : List Char) : Option Nat :=
  if cs.all Char.isDigit then some (Nat.ofDigitChars 10 cs 0) else none

/-- Reads digits only: at least one of them, with a value of at most `limit`. -/
def readDigits? (limit : Nat) (cs : List Char) : Option Nat :=
  match cs with
  | [] => none
  | _ => (value? cs).filter (· ≤ limit)

/-- Reads a whole number of at most `limit`: an optional plus sign and at least one digit. -/
def read? (limit : Nat) : List Char → Option Nat
  | '+' :: cs => readDigits? limit cs
  | cs => readDigits? limit cs

/-- The number of negative whole numbers of 64 bits. -/
def signedBound : Nat := 9223372036854775808

/-- Reads a signed whole number of 64 bits. -/
def readSigned? : List Char → Option Int
  | '-' :: cs => (readDigits? signedBound cs).map fun n => -(n : Int)
  | cs => (read? (signedBound - 1) cs).map Int.ofNat

theorem digits_isDigit {n : Nat} {c : Char} (h : c ∈ digits n) : c.isDigit = true :=
  Nat.isDigit_of_mem_toDigits (by decide) (by decide) h

theorem digits_ne_nil (n : Nat) : digits n ≠ [] := by
  unfold digits
  exact Nat.toDigits_ne_nil

theorem value?_digits (n : Nat) : value? (digits n) = some n := by
  have all : (digits n).all Char.isDigit = true := List.all_eq_true.mpr fun _ h => digits_isDigit h
  rw [value?, if_pos all]
  exact congrArg some (Nat.ofDigitChars_toDigits (by decide) (by decide))

theorem readDigits?_digits {limit n : Nat} (h : n ≤ limit) :
    readDigits? limit (digits n) = some n := by
  unfold readDigits?
  split
  · exact absurd ‹_› (digits_ne_nil n)
  · rw [value?_digits]
    simp [Option.filter, h]

/-- A written number reads back. -/
theorem read?_digits {limit n : Nat} (h : n ≤ limit) : read? limit (digits n) = some n := by
  unfold read?
  split
  · rename_i cs heq
    have : Char.isDigit '+' = true := digits_isDigit (n := n) (by rw [heq]; exact List.mem_cons_self)
    exact absurd this (by decide)
  · exact readDigits?_digits h

end StreamLoad.Decimal
