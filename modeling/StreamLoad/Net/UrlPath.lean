import StreamLoad.Net.Percent

/-! # Paths of addresses

A path is a sequence of segments, each after a slash, or one text without segments. When a path
is read, its segments are walked one after another: a segment of one dot stands for its own place
and one of two dots for the place above, and every other segment is kept, percent-encoded. Drive
letters have rules of their own. No walk leaves the place of a drive letter upwards, and in the
address of a file a drive letter that comes first is kept with a colon, and ends its segment even
where no slash follows but a character that addresses drop.
-/

set_option autoImplicit false

namespace StreamLoad

/-- The path of an address. -/
inductive UrlPath where
  /-- A path that is not made of segments. -/
  | bare (text : String)
  /-- The segments of a path, each after a slash. -/
  | segments (parts : List String)
deriving DecidableEq, Repr

namespace UrlPath

/-- Whether a character is dropped within an address: tabs and line ends. -/
def isDropped (c : Char) : Bool := Percent.isOneOf [0x09, 0x0A, 0x0D] c

/-- A text without the characters that addresses drop. -/
def clean (cs : List Char) : List Char := cs.filter fun c => !isDropped c

/-- Whether a character separates segments. In some addresses a backslash does, too. -/
def isSlash (special : Bool) (c : Char) : Bool := c = '/' || (special && c = '\x5c')

/-! ## Segments -/

/-- Whether a segment stands for its own place. -/
def isDot (segment : List Char) : Bool :=
  let lower := segment.map Char.toLower
  lower = ['.'] || lower = ['%', '2', 'e']

/-- Whether a segment stands for the place above. -/
def isDoubleDot (segment : List Char) : Bool :=
  let lower := segment.map Char.toLower
  [['.', '.'], ['.', '%', '2', 'e'], ['%', '2', 'e', '.'], ['%', '2', 'e', '%', '2', 'e']].contains
    lower

/-- Whether two characters make a drive letter: a letter with a colon or a bar. -/
def isDriveMark (letter mark : Char) : Bool := letter.isAlpha && (mark = ':' || mark = '|')

/-- Whether a segment is a drive letter. -/
def isDrive : List Char → Bool
  | [letter, mark] => isDriveMark letter mark
  | _ => false

/-- Whether a segment begins with a drive letter that a separator follows. Where a backslash does
not separate segments it can still stand there. -/
def holdsDrive : List Char → Bool
  | [letter, mark] => isDriveMark letter mark
  | letter :: mark :: next :: _ => isDriveMark letter mark && next = '\x5c'
  | _ => false

/-- The drive letter with a colon that a segment begins with, and what follows, if characters
that addresses drop stand between the two. -/
def cutDrive? (segment : List Char) : Option (List Char × List Char) :=
  match segment.dropWhile isDropped with
  | letter :: rest =>
      match rest.dropWhile isDropped with
      | ':' :: after =>
          let name := clean after
          if letter.isAlpha && after.head?.any isDropped && !name.isEmpty then
            some ([letter, ':'], name)
          else none
      | _ => none
  | [] => none

/-! ## Walks

A path is resolved by walking along it. The place that a walk has come to is the segments kept so
far, and a dot segment takes one of them back or leaves them as they are. At the end of a path it
leaves an empty segment behind, so that the path still ends in a slash. -/

/-- Where a walk over segments has come to. -/
structure Walk where
  /-- The segments up to the place, the last one first. -/
  above : List (List Char) := []
  /-- Whether the walk began on a drive letter that was a segment of its own. -/
  onDrive : Bool := false
deriving DecidableEq, Repr

namespace Walk

/-- The place above. A drive letter is not left. -/
def up (w : Walk) : Walk :=
  match w.above with
  | [] => w
  | last :: rest => if holdsDrive last then w else { w with above := rest }

/-- The place that a segment leads to. -/
def down (w : Walk) (segment : List Char) : Walk :=
  { w with above := Percent.encode Percent.inPathSet segment :: w.above }

/-- The place that the first segment of a file's path leads to, if that is a drive letter. -/
def drive (w : Walk) (segment : List Char) : Walk :=
  match segment with
  | letter :: _ => { above := [letter, ':'] :: w.above, onDrive := true }
  | [] => w

/-- Walks along a segment. A dot segment at the end leads to an empty segment. -/
def along (isFile isLast : Bool) (w : Walk) (raw : List Char) : Walk :=
  let isFirst := isFile && w.above.isEmpty
  match if isFirst then cutDrive? raw else none with
  | some (letter, name) => ({ w with above := letter :: w.above }).down name
  | none =>
      let segment := clean raw
      if isDoubleDot segment then
        if isLast then w.up.down [] else w.up
      else if isDot segment then
        if isLast then w.down [] else w
      else if isFirst && isDrive segment then w.drive segment
      else w.down segment

/-- Walks along segments. -/
def walk (isFile : Bool) (w : Walk) : List (List Char) → Walk
  | [] => w
  | segment :: rest => walk isFile (w.along isFile rest.isEmpty segment) rest

/-- The segments of the place. -/
def segments (w : Walk) : List (List Char) := w.above.reverse

end Walk

/-! ## Reading and writing -/

/-- The path of some segments. -/
def ofSegments (parts : List (List Char)) : UrlPath := .segments (parts.map String.ofList)

/-- Reads what follows the first slash of a path. -/
def ofText (special : Bool) (cs : List Char) : UrlPath :=
  ofSegments (Walk.walk false {} (cs.splitOnP (isSlash special))).segments

/-- Reads what follows the first slash of a file's path, and whether the path begins with a drive
letter. Empty segments at the start do not count. -/
def ofFileText (cs : List Char) : UrlPath × Bool :=
  let place := Walk.walk true {} (cs.splitOnP (isSlash true))
  match place.segments.dropWhile (·.isEmpty) with
  | [] => (ofSegments [[]], place.onDrive)
  | parts => (ofSegments parts, place.onDrive)

/-- The text of a path. -/
def text : UrlPath → String
  | bare text => text
  | segments parts => String.join (parts.map fun part => "/" ++ part)

end UrlPath

end StreamLoad
