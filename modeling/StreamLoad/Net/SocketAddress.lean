import StreamLoad.Text.Decimal

/-! # Socket addresses

A socket address is an IP address with a port: `127.0.0.1:9100` or `[::1]:9100`. `ofText?`
reads one and `text` writes it. An octet has at most three digits and no leading zero, a group
of a version 6 address at most four hexadecimal digits; `::` stands for one or more groups of
zero, and the last two groups may be written as a version 4 address. A version 6 address may
name a scope after a percent sign. Written addresses are compressed: the first of the longest
runs of at least two zero groups becomes `::`, and a version 4 address mapped into version 6
keeps its dotted form.
-/

set_option autoImplicit false

namespace StreamLoad

/-! ## Reading pieces of an address

Each of these functions reads a piece from the front of a text and answers it with the rest
of the text. -/

namespace AddressReader

/-- The value of a hexadecimal digit. -/
def hexDigit? (c : Char) : Option Nat :=
  if '0' ≤ c ∧ c ≤ '9' then some (c.toNat - '0'.toNat)
  else if 'a' ≤ c ∧ c ≤ 'f' then some (c.toNat - 'a'.toNat + 10)
  else if 'A' ≤ c ∧ c ≤ 'F' then some (c.toNat - 'A'.toNat + 10)
  else none

/-- The value of a digit in a base of at most sixteen. -/
def digit? (base : Nat) (c : Char) : Option Nat := (hexDigit? c).filter (· < base)

/-- The longest run of digits at the front: its value, its length, and the rest. -/
def digitRun (base : Nat) (value count : Nat) : List Char → Nat × Nat × List Char
  | [] => (value, count, [])
  | c :: rest =>
      match digit? base c with
      | some d => digitRun base (value * base + d) (count + 1) rest
      | none => (value, count, c :: rest)

/-- A number of at most `limit`, of at least one digit. -/
def number (base limit : Nat) (cs : List Char) : Option (Nat × List Char) :=
  match digitRun base 0 0 cs with
  | (value, count, rest) => if 0 < count ∧ value ≤ limit then some (value, rest) else none

/-- A number of one to `places` digits. -/
def shortNumber (base places limit : Nat) (cs : List Char) : Option (Nat × List Char) :=
  match digitRun base 0 0 cs with
  | (value, count, rest) =>
      if 0 < count ∧ count ≤ places ∧ value ≤ limit then some (value, rest) else none

/-- A given character. -/
def char (c : Char) : List Char → Option (Unit × List Char)
  | d :: rest => if d = c then some ((), rest) else none
  | [] => none

/-- A decimal octet without a leading zero. -/
def octet (cs : List Char) : Option (Nat × List Char) :=
  match shortNumber 10 3 255 cs with
  | some (value, rest) =>
      if cs.head? = some '0' ∧ rest.length + 1 < cs.length then none else some (value, rest)
  | none => none

end AddressReader

/-! ## Version 4 -/

/-- An IP address of version 4, as its four octets. -/
structure Ipv4 where
  a : Nat
  b : Nat
  c : Nat
  d : Nat
deriving DecidableEq, Repr

namespace Ipv4

open AddressReader in
/-- Reads an address of version 4 from the front of a text. -/
def read (cs : List Char) : Option (Ipv4 × List Char) := do
  let (a, cs) ← octet cs
  let (_, cs) ← char '.' cs
  let (b, cs) ← octet cs
  let (_, cs) ← char '.' cs
  let (c, cs) ← octet cs
  let (_, cs) ← char '.' cs
  let (d, cs) ← octet cs
  return (⟨a, b, c, d⟩, cs)

/-- The dotted text of an address of version 4. -/
def text (ip : Ipv4) : String :=
  String.intercalate "." ([ip.a, ip.b, ip.c, ip.d].map Decimal.text)

end Ipv4

/-! ## Version 6 -/

/-- An IP address of version 6, as its eight groups of sixteen bits. -/
structure Ipv6 where
  groups : List Nat
deriving DecidableEq, Repr

namespace Ipv6

open AddressReader

/-- The piece `inner` reads, after a colon unless it is the first of its kind. -/
def afterColon {α : Type} (first : Bool) (inner : List Char → Option (α × List Char))
    (cs : List Char) : Option (α × List Char) :=
  if first then inner cs
  else do
    let (_, cs) ← char ':' cs
    inner cs

/-- Reads up to `room` groups; the last two may be a version 4 address. Answers the groups,
whether they end in such an address, and the rest. -/
def readGroups (first : Bool) : Nat → List Char → List Nat × Bool × List Char
  | 0, cs => ([], false, cs)
  | room + 1, cs =>
      match (if 0 < room then afterColon first Ipv4.read cs else none) with
      | some (ip, rest) => ([ip.a * 256 + ip.b, ip.c * 256 + ip.d], true, rest)
      | none =>
          match afterColon first (shortNumber 16 4 0xFFFF) cs with
          | some (group, rest) =>
              let (groups, dotted, rest) := readGroups false room rest
              (group :: groups, dotted, rest)
          | none => ([], false, cs)

/-- Reads an address of version 6 from the front of a text. -/
def read (cs : List Char) : Option (Ipv6 × List Char) :=
  match readGroups true 8 cs with
  | (head, dotted, rest) =>
      if head.length = 8 then some (⟨head⟩, rest)
      else if dotted then none
      else do
        let (_, rest) ← char ':' rest
        let (_, rest) ← char ':' rest
        let (tail, _, rest) := readGroups true (7 - head.length) rest
        return (⟨head ++ List.replicate (8 - head.length - tail.length) 0 ++ tail⟩, rest)

/-- The lower-case hexadecimal text of a group. -/
def groupText (group : Nat) : String := String.ofList (Nat.toDigits 16 group)

/-- Groups written with colons between them. -/
def groupsText (groups : List Nat) : String :=
  String.intercalate ":" (groups.map groupText)

/-- The start and length of the first of the longest runs of zeros; `start` is the position of
the first group, and `run` the length of the run that ends before it. -/
def longestZeros (start run : Nat) (best : Nat × Nat) : List Nat → Nat × Nat
  | [] => best
  | group :: groups =>
      if group = 0 then
        let run := run + 1
        let best := if run > best.2 then (start + 1 - run, run) else best
        longestZeros (start + 1) run best groups
      else longestZeros (start + 1) 0 best groups

/-- Groups written with the first of the longest runs of at least two zeros left out. -/
def compressed (groups : List Nat) : String :=
  match longestZeros 0 0 (0, 0) groups with
  | (start, length) =>
      if length > 1 then
        groupsText (groups.take start) ++ "::" ++ groupsText (groups.drop (start + length))
      else groupsText groups

/-- The compressed text of an address of version 6. -/
def text (ip : Ipv6) : String :=
  match ip.groups with
  | [0, 0, 0, 0, 0, 0xFFFF, high, low] =>
      "::ffff:" ++ (Ipv4.mk (high / 256) (high % 256) (low / 256) (low % 256)).text
  | groups => compressed groups

end Ipv6

/-! ## Socket addresses -/

/-- An IP address with a port. -/
inductive SocketAddress where
  | v4 (ip : Ipv4) (port : Nat)
  /-- A scope of zero is no scope. -/
  | v6 (ip : Ipv6) (scope : Nat) (port : Nat)
deriving DecidableEq, Repr

namespace SocketAddress

open AddressReader

/-- Reads a port, after a colon. -/
def readPort (cs : List Char) : Option (Nat × List Char) := do
  let (_, cs) ← char ':' cs
  number 10 Decimal.limit16 cs

/-- Reads a version 4 address with its port. -/
def readV4 (cs : List Char) : Option (SocketAddress × List Char) := do
  let (ip, cs) ← Ipv4.read cs
  let (port, cs) ← readPort cs
  return (v4 ip port, cs)

/-- Reads a scope, after a percent sign; nothing is scope zero. -/
def readScope (cs : List Char) : Nat × List Char :=
  match cs with
  | '%' :: rest => (number 10 Decimal.limit32 rest).getD (0, cs)
  | _ => (0, cs)

/-- Reads a version 6 address in brackets with its port. -/
def readV6 (cs : List Char) : Option (SocketAddress × List Char) := do
  let (_, cs) ← char '[' cs
  let (ip, cs) ← Ipv6.read cs
  let (scope, cs) := readScope cs
  let (_, cs) ← char ']' cs
  let (port, cs) ← readPort cs
  return (v6 ip scope port, cs)

/-- Reads a whole text as a socket address. -/
def ofText? (text : String) : Option SocketAddress :=
  match (readV4 text.toList).orElse fun _ => readV6 text.toList with
  | some (address, []) => some address
  | _ => none

/-- The text of a socket address. -/
def text : SocketAddress → String
  | v4 ip port => ip.text ++ ":" ++ Decimal.text port
  | v6 ip scope port =>
      let scopeText := if scope = 0 then "" else "%" ++ Decimal.text scope
      "[" ++ ip.text ++ scopeText ++ "]:" ++ Decimal.text port

end SocketAddress

end StreamLoad
