import StreamLoad.Net.Domain
import StreamLoad.Net.Percent
import StreamLoad.Net.SocketAddress

/-! # Hosts of addresses

The host of a special address is a name, a version 4 address in any of its numeric forms, or a
version 6 address in brackets; it is read into a normal form. Names are percent-decoded and put
into their form of ASCII; a name whose last part is a number is a version 4 address or no host at
all. Other addresses keep the text of their host, percent-encoded.
-/

set_option autoImplicit false

namespace StreamLoad.Host

/-! ## Numeric forms of version 4 addresses

An address of version 4 may have fewer parts than four, and each of them may be decimal, octal or
hexadecimal. The last part stands for all octets that the others leave. -/

/-- The value of digits in a base. -/
def digits? (base : Nat) (cs : List Char) : Option Nat :=
  cs.foldl (fun value c => do
    let value ← value
    let d ← AddressReader.digit? base c
    return value * base + d) (some 0)

/-- One part of a numeric address: decimal, octal after a zero, hexadecimal after `0x`. -/
def part? : List Char → Option Nat
  | [] => none
  | ['0'] => some 0
  | '0' :: 'x' :: rest => digits? 16 rest
  | '0' :: 'X' :: rest => digits? 16 rest
  | '0' :: rest => digits? 8 rest
  | cs => digits? 10 cs

/-- The parts between the dots of a name, less an empty one at the end. -/
def parts (cs : List Char) : List (List Char) :=
  let all := cs.splitOn '.'
  if all.length > 1 ∧ all.getLast? = some [] then all.dropLast else all

/-- Whether the last part of a name is a number. -/
def endsInNumber (cs : List Char) : Bool :=
  match (parts cs).getLast? with
  | none => false
  | some last => (!last.isEmpty && last.all Char.isDigit) || (part? last).isSome

/-- The number that the parts of a numeric address make; all but the last are octets, and the
last fills the octets that remain. -/
def address? (octets : Nat) (high : Nat) : List Nat → Option Nat
  | [] => none
  | [last] => if last < Nat.pow 256 octets then some (high * Nat.pow 256 octets + last) else none
  | octet :: rest =>
      match octets with
      | 0 => none
      | remaining + 1 =>
          if octet < 256 then address? remaining (high * 256 + octet) rest else none

/-- Reads a numeric address of version 4. -/
def ipv4? (cs : List Char) : Option Ipv4 := do
  let numbers ← (parts cs).mapM part?
  if numbers.length > 4 then none
  else
    let n ← address? 4 0 numbers
    return ⟨n / 16777216 % 256, n / 65536 % 256, n / 256 % 256, n % 256⟩

/-! ## Hosts -/

/-- What may not stand in any host. -/
def isForbidden (c : Char) : Bool :=
  Percent.isOneOf [0x00, 0x09, 0x0A, 0x0D, 0x20, 0x23, 0x2F, 0x3A, 0x3C, 0x3E, 0x3F, 0x40, 0x5B,
    0x5C, 0x5D, 0x5E, 0x7C] c

/-- What may not stand in a name. -/
def isForbiddenInName (c : Char) : Bool :=
  isForbidden c || c.toNat < 0x20 || Percent.isOneOf [0x25, 0x7F] c

/-- Reads a version 6 address in brackets. -/
def bracketed? : List Char → Option String
  | '[' :: rest => do
      let (ip, rest) ← Ipv6.read rest
      if rest = [']'] then some ("[" ++ Ipv6.compressed ip.groups ++ "]") else none
  | _ => none

/-- Reads a name, or a version 4 address. -/
def name? (cs : List Char) : Option String := do
  let decoded ← Text.ofUtf8? (Percent.decode (Text.utf8 (String.ofList cs)))
  let name ← Domain.ascii? isForbiddenInName decoded.toList
  if name.isEmpty then none
  else if endsInNumber name then (ipv4? name).map Ipv4.text
  else some (String.ofList name)

/-- Reads the host of a special address. -/
def special? (cs : List Char) : Option String :=
  if cs.head? = some '[' then bracketed? cs else name? cs

/-- Reads the host of any other address, which may be empty. -/
def other? (cs : List Char) : Option String :=
  if cs.head? = some '[' then bracketed? cs
  else if cs.any isForbidden then none
  else some (String.ofList (Percent.encode Percent.inControlSet cs))

end StreamLoad.Host
