/-! # Labels written in ASCII

A label with characters beyond ASCII is written as its ASCII characters, a hyphen if there are
any, and numbers that say which other characters to insert, and where. The insertions go by
code point and then by place: the insertion at a place of a text of `n` characters of a code
point has a number, and what is written is by how much it exceeds the number of the insertion
before. A number is written with digits of base thirty-six, the lowest first; a digit below the
threshold of its place is the last one. Thresholds adapt to the size of the numbers.
-/

set_option autoImplicit false

namespace StreamLoad.Domain.Punycode

/-! ## Digits and thresholds

A number has no end mark. A digit below the threshold of its place is the last one, and so a number
can be read without knowing where it ends. Thresholds follow the size of the numbers before, as
insertions close to each other tend to have similar ones. -/

/-- The number of digits. -/
def base : Nat := 36

/-- The first code point that is inserted. -/
def firstPoint : Nat := 0x80

/-- The mark between the characters of ASCII and the numbers. -/
def delimiter : Char := '-'

/-- The value of a digit: letters first. -/
def digitValue? (c : Char) : Option Nat :=
  if 'a' ≤ c ∧ c ≤ 'z' then some (c.toNat - 0x61)
  else if 'A' ≤ c ∧ c ≤ 'Z' then some (c.toNat - 0x41)
  else if c.isDigit then some (c.toNat - 0x30 + 26)
  else none

/-- The digit of a value. -/
def digit (value : Nat) : Char :=
  if value < 26 then Char.ofNat (0x61 + value) else Char.ofNat (0x30 + (value - 26))

/-- The threshold of a place: between 1 and 26, rising by the base with the place. -/
def threshold (bias place : Nat) : Nat := min 26 (max 1 (base * (place + 1) - bias))

theorem threshold_pos (bias place : Nat) : 1 ≤ threshold bias place := by
  unfold threshold
  omega

theorem threshold_le (bias place : Nat) : threshold bias place ≤ 26 := Nat.min_le_left ..

/-- The bias that numbers begin with. -/
def firstBias : Nat := 72

/-- The bias for numbers of the size of one. -/
def biasOf (number : Nat) : Nat :=
  if number > 455 then base + biasOf (number / 35) else base * number / (number + 38)
termination_by number
decreasing_by omega

/-- The bias after a number, written for a text that has grown to some length. -/
def nextBias (number length : Nat) (isFirst : Bool) : Nat :=
  let damped := if isFirst then number / 700 else number / 2
  biasOf (damped + damped / length)

/-! ## Reading -/

/-- The limit of the numbers that are read. -/
def limit : Nat := 4294967296

/-- Reads the digits of a number that is added to another, and answers the sum and what follows.
The weight is that of the digit at hand. -/
def readNumber (bias : Nat) (place weight sum : Nat) : List Char → Option (Nat × List Char)
  | [] => none
  | c :: rest => do
      let value ← digitValue? c
      let sum := sum + value * weight
      if sum ≥ limit then none
      else if value < threshold bias place then some (sum, rest)
      else
        let weight := weight * (base - threshold bias place)
        if weight ≥ limit then none else readNumber bias (place + 1) weight sum rest

theorem readNumber_shorter {bias place weight sum : Nat} {cs rest : List Char} {n : Nat}
    (h : readNumber bias place weight sum cs = some (n, rest)) : rest.length < cs.length := by
  induction cs generalizing place weight sum with
  | nil => cases h
  | cons c cs ih =>
      rw [readNumber] at h
      cases hd : digitValue? c with
      | none => simp [hd] at h
      | some value =>
          simp only [hd, Option.bind_eq_bind, Option.bind_some] at h
          split at h
          · cases h
          · split at h
            · cases h
              simp
            · split at h
              · cases h
              · exact Nat.lt_succ_of_lt (ih h)

/-- Reads insertions into a text, from a code point and a place on. -/
def insertions? (bias point position : Nat) (text digits : List Char) : Option (List Char) :=
  match digits with
  | [] => some text
  | c :: rest =>
      match h : readNumber bias 0 1 position (c :: rest) with
      | none => none
      | some (sum, remaining) =>
          let length := text.length + 1
          let point' := point + sum / length
          let place := sum % length
          if point'.isValidChar then
            insertions? (nextBias (sum - position) length (position = 0)) point' (place + 1)
              (text.insertIdx place (Char.ofNat point')) remaining
          else none
termination_by digits.length
decreasing_by exact readNumber_shorter h

/-- What stands before the last delimiter and what stands after it. A delimiter at the very start
does not count. -/
def split (cs : List Char) : List Char × List Char :=
  let last := (cs.reverse.takeWhile (· ≠ delimiter)).reverse
  let before := cs.take (cs.length - last.length - 1)
  if before.isEmpty then ([], cs) else (before, last)

/-- The text that a label is written for. -/
def decode? (cs : List Char) : Option (List Char) :=
  let (plain, digits) := split cs
  insertions? firstBias firstPoint 0 plain digits

/-! ## Writing -/

/-- The digits of a number. -/
def writeNumber (bias place number : Nat) : List Char :=
  let t := threshold bias place
  if number < t then [digit number]
  else
    digit (t + (number - t) % (base - t)) ::
      writeNumber bias (place + 1) ((number - t) / (base - t))
termination_by number
decreasing_by
  have := threshold_pos bias place
  have := Nat.div_le_self (number - threshold bias place) (base - threshold bias place)
  omega

/-- The state of writing insertions: the length of the text so far, the number that the next
insertion exceeds, the bias, and what is written, in reverse. -/
structure Progress where
  length : Nat
  number : Nat
  bias : Nat
  plainLength : Nat
  written : List Char

/-- Goes over a character of the whole text while one code point is inserted. -/
def Progress.pass (point : Nat) (p : Progress) (c : Char) : Progress :=
  if c.toNat < point then { p with number := p.number + 1 }
  else if c.toNat = point then
    { p with
      length := p.length + 1
      number := 0
      bias := nextBias p.number (p.length + 1) (p.length = p.plainLength)
      written := (writeNumber p.bias 0 p.number).reverse ++ p.written }
  else p

/-- Writes the insertions of code points in ascending order. The insertion before was of some
code point. -/
def writeInsertions (text : List Char) (before : Nat) (p : Progress) : List Nat → List Char
  | [] => p.written.reverse
  | point :: points =>
      let start := { p with number := p.number + (point - before) * (p.length + 1) }
      let passed := text.foldl (Progress.pass point) start
      writeInsertions text (point + 1) { passed with number := passed.number + 1 } points

/-- The label that is written for a text. -/
def encode (text : List Char) : List Char :=
  let plain := text.filter fun c => c.toNat < firstPoint
  let points := ((text.filter fun c => firstPoint ≤ c.toNat).map Char.toNat).eraseDups.mergeSort
  let start : Progress :=
    { length := plain.length, number := 0, bias := firstBias, plainLength := plain.length,
      written := [] }
  let before := if plain.isEmpty then [] else plain ++ [delimiter]
  before ++ writeInsertions text firstPoint start points

end StreamLoad.Domain.Punycode
