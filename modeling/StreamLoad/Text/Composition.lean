import StreamLoad.Text.Composition.Class
import StreamLoad.Text.Composition.Pairs

/-! # The composed form of a text

One letter with its accents can be written in several ways. The composed form (Unicode's form C)
chooses one: every character is taken apart into a letter and marks, marks of different classes
are put in the order of their classes, and each letter is put together again with the marks that
compose with it. A mark composes with its letter if no mark of the same or a higher class stands
between the two. Texts that are written alike get one form.
-/

set_option autoImplicit false

namespace StreamLoad.Text.Composition

/-! ## Pairs -/

/-- Two characters that compose, and what they make. -/
structure Pair where
  first : Nat
  second : Nat
  whole : Nat
deriving Repr

/-- Reads a pair: the two characters with a dot between them, and the whole after an equals sign. -/
def Pair.ofWord (word : List Char) : Pair :=
  let parts := word.takeWhile (· ≠ '=')
  { first := hexadecimal (parts.takeWhile (· ≠ '.'))
    second := hexadecimal ((parts.dropWhile (· ≠ '.')).drop 1)
    whole := hexadecimal ((word.dropWhile (· ≠ '=')).drop 1) }

/-- The pairs that compose. -/
def allPairs : List Pair := (words pairList).map Pair.ofWord

/-- The place of a pair of characters among all such pairs. -/
def pairIndex (first second : Nat) : Nat := first * 0x110000 + second

/-- What each pair makes, by the place of the pair. -/
def pairs : Spans Nat :=
  (allPairs.map fun p =>
    let index := pairIndex p.first p.second
    { first := index, last := index, value := p.whole : Span Nat }).toArray

/-- The pair that makes each composed character. -/
def wholes : Spans Pair :=
  ((allPairs.mergeSort fun p q => p.whole ≤ q.whole).map fun p =>
    { first := p.whole, last := p.whole, value := p : Span Pair }).toArray

/-! ## Syllables of Hangul

There are more than eleven thousand of these, and none of them is in the tables, as their parts
follow from their code points. -/

/-- The first syllable; the syllables follow one another by lead, vowel and tail. -/
def firstSyllable : Nat := 0xAC00

/-- The leads, vowels and tails: the first of each, and how many there are. There is no character
for the tail that is missing, and the count of tails includes it. -/
def firstLead : Nat := 0x1100
def leadCount : Nat := 19
def firstVowel : Nat := 0x1161
def vowelCount : Nat := 21
def noTail : Nat := 0x11A7
def tailCount : Nat := 28

/-- Whether a code point is one of so many from a first one on. -/
def isAmong (first count n : Nat) : Bool := first ≤ n && n < first + count

/-- Whether a code point is a syllable. -/
def isSyllable (n : Nat) : Bool := isAmong firstSyllable (leadCount * vowelCount * tailCount) n

/-- What a syllable is made of: a syllable without tail and a tail, or a lead and a vowel. -/
def syllableParts? (n : Nat) : Option (Nat × Nat) :=
  if isSyllable n then
    let index := n - firstSyllable
    let tail := index % tailCount
    if tail = 0 then
      some (firstLead + index / (vowelCount * tailCount),
        firstVowel + index / tailCount % vowelCount)
    else some (n - tail, noTail + tail)
  else none

/-- The syllable that two characters make. -/
def syllable? (a b : Nat) : Option Nat :=
  if isAmong firstLead leadCount a && isAmong firstVowel vowelCount b then
    some (firstSyllable + ((a - firstLead) * vowelCount + (b - firstVowel)) * tailCount)
  else if isSyllable a && (a - firstSyllable) % tailCount = 0
      && isAmong (noTail + 1) (tailCount - 1) b then
    some (a + (b - noTail))
  else none

/-! ## Taking apart and putting together

A text is taken apart as far as possible first, then the marks behind each letter are put in the
order of their classes, and only then are characters put together again. -/

/-- The two characters that a character is made of. -/
def parts? (c : Char) : Option (Char × Char) :=
  match syllableParts? c.toNat with
  | some (a, b) => some (Char.ofNat a, Char.ofNat b)
  | none => (wholes.find? c.toNat).map fun span =>
      (Char.ofNat span.value.first, Char.ofNat span.value.second)

/-- The character that two characters make. -/
def whole? (a b : Char) : Option Char :=
  match syllable? a.toNat b.toNat with
  | some n => some (Char.ofNat n)
  | none => (pairs.find? (pairIndex a.toNat b.toNat)).map fun span => Char.ofNat span.value

/-- How often a character can be taken apart at most. -/
def depth : Nat := 3

/-- A character taken apart some number of times. -/
def apart : Nat → Char → List Char
  | 0, c => [c]
  | times + 1, c =>
      match parts? c with
      | none => [c]
      | some (a, b) => apart times a ++ apart times b

/-- Marks in the order of their classes; marks of one class stay as they are. -/
def byClass (marks : List Char) : List Char :=
  marks.mergeSort fun a b => combiningClass a ≤ combiningClass b

/-- A text with the marks after each letter in the order of their classes. The marks since the
letter before stand in front of the text, in reverse. -/
def ordered (marks : List Char) : List Char → List Char
  | [] => byClass marks.reverse
  | c :: rest =>
      if combiningClass c = 0 then byClass marks.reverse ++ c :: ordered [] rest
      else ordered (c :: marks) rest

/-- Whether a character of some class can reach the letter before it over the marks that stand
between, which are given in reverse. -/
def reaches (characterClass : Nat) : List Char → Bool
  | [] => true
  | mark :: _ => combiningClass mark < characterClass

/-- Puts letters together with the marks after them. The letter at hand and the marks after it
that do not compose, in reverse, stand before the rest. -/
def together (letter : Option Char) (marks : List Char) : List Char → List Char
  | [] => letter.toList ++ marks.reverse
  | c :: rest =>
      let whole := if reaches (combiningClass c) marks then letter.bind (whole? · c) else none
      match whole with
      | some w => together (some w) marks rest
      | none =>
          if combiningClass c = 0 then
            letter.toList ++ marks.reverse ++ together (some c) [] rest
          else together letter (c :: marks) rest

/-- The composed form of a text. -/
def composed (cs : List Char) : List Char :=
  together none [] (ordered [] (cs.flatMap (apart depth)))

end StreamLoad.Text.Composition
