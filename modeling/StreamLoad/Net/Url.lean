import StreamLoad.Net.Host
import StreamLoad.Net.Login
import StreamLoad.Net.UrlPath

/-! # Addresses of the web

`Url.parse?` reads an address as the URL standard does, without a base: blanks and control
characters around it are cut off, tabs and line ends within it are dropped, the parts are
percent-encoded as each of them needs, dot segments are resolved, and a port that is the usual
one of its scheme is left out. In the schemes that the standard calls special a backslash
counts as a slash. `Url.text` writes an address.
-/

set_option autoImplicit false

namespace StreamLoad

/-- An address, in its normal form. -/
structure Url where
  scheme : String
  login : Option Login
  host : Option String
  port : Option Nat
  path : UrlPath
  query : Option String
  fragment : Option String
deriving DecidableEq, Repr

namespace Url

open UrlPath (clean isDropped isSlash)

/-! ## Reading -/

/-- Whether a character is cut off at both ends of an address. -/
def isPadding (c : Char) : Bool := c.toNat ≤ 0x20

/-- An address without its padding. -/
def trimmed (cs : List Char) : List Char :=
  ((cs.dropWhile isPadding).reverse.dropWhile isPadding).reverse

/-- What stands before the first of a character, and what stands after it. -/
def cutAt (mark : Char) (cs : List Char) : List Char × Option (List Char) :=
  match cs.span (· ≠ mark) with
  | (before, _ :: after) => (before, some after)
  | (before, []) => (before, none)

/-- Whether a character may stand in a scheme after the first. -/
def isSchemeChar (c : Char) : Bool := c.isAlphanum || c = '+' || c = '-' || c = '.'

/-- The scheme that stands before the colon of an address, in lower case. -/
def scheme? (cs : List Char) : Option String :=
  match clean cs with
  | first :: letters =>
      if first.isAlpha && letters.all isSchemeChar then
        some (String.ofList ((first :: letters).map Char.toLower))
      else none
  | [] => none

/-- The usual port of a special scheme other than `file`. -/
def usualPort? : String → Option Nat
  | "http" | "ws" => some 80
  | "https" | "wss" => some 443
  | "ftp" => some 21
  | _ => none

/-- Whether a scheme is one of those that the standard calls special. -/
def isSpecial (scheme : String) : Bool := scheme = "file" || (usualPort? scheme).isSome

/-! ### Hosts, ports and logins -/

/-- Who is asked: the host with its port, and the login. -/
structure Authority where
  login : Option Login := none
  host : String
  port : Option Nat := none
deriving DecidableEq, Repr

/-- The host at the start of an authority, up to a colon that stands outside brackets. -/
def splitHost (inBrackets : Bool) : List Char → List Char × List Char
  | [] => ([], [])
  | c :: rest =>
      if c = ':' && !inBrackets then ([], c :: rest)
      else
        let (host, after) := splitHost (c = '[' || (inBrackets && c ≠ ']')) rest
        (c :: host, after)

/-- Reads the port after a host, and answers what follows it, which can only be a backslash and
more. A port is a number of sixteen bits, or nothing. -/
def port? : List Char → Option (Option Nat × List Char)
  | [] => some (none, [])
  | _ :: cs => do
      let (digits, rest) := cs.span Char.isDigit
      if (rest.head?.getD '\x5c') ≠ '\x5c' then none
      else if digits.isEmpty then some (none, rest)
      else
        let port ← Decimal.readDigits? Decimal.limit16 digits
        return (some port, rest)

/-- What stands before the last at sign of an authority, if there is one, and what stands after
it. -/
def splitLogin (cs : List Char) : Option (List Char) × List Char :=
  match cutAt '@' cs.reverse with
  | (host, some login) => (some login.reverse, host.reverse)
  | (_, none) => (none, cs)

/-- Reads an authority, and answers what follows it. A special address has a host, and so has
each address with a login or a port. The usual port of a scheme is left out. -/
def authority? (scheme : String) (cs : List Char) : Option (Authority × List Char) := do
  let (before, after) := splitLogin cs
  let login := before.bind Login.read?
  let (host, portText) := splitHost false after
  let needsHost := isSpecial scheme || login.isSome || !portText.isEmpty || before = some []
  if host.isEmpty && needsHost then none
  else
    let host ← if isSpecial scheme then Host.special? host else Host.other? host
    let (port, rest) ← port? portText
    return ({ login, host, port := port.filter fun n => usualPort? scheme ≠ some n }, rest)

/-! ### Addresses of files

Addresses of files have rules of their own for drive letters, and they need no host. A host that is
the same machine is left out. -/

/-- What follows a slash, if one comes first. -/
def afterSlash? (special : Bool) (cs : List Char) : Option (List Char) :=
  match cs.dropWhile isDropped with
  | c :: rest => if isSlash special c then some rest else none
  | [] => none

/-- The address of a file on no host. -/
def localFile (cs : List Char) : Authority × UrlPath :=
  ({ host := "" }, (UrlPath.ofFileText cs).1)

/-- Reads what follows two slashes in the address of a file. A drive letter is no host, and a path
that begins with one is on no host. -/
def hostFile? (cs : List Char) : Option (Authority × UrlPath) :=
  let (hostText, path) := cs.span fun c => !isSlash true c
  let host := clean hostText
  if UrlPath.isDrive host then some (localFile cs)
  else if host.isEmpty then some (localFile path)
  else do
    let host ← Host.special? host
    if host = "localhost" then some (localFile path)
    else
      let (path, onDrive) := UrlPath.ofFileText (path.drop 1)
      return ({ host := if onDrive then "" else host }, path)

/-- Reads the host and the path of a file's address. -/
def file? (cs : List Char) : Option (Authority × UrlPath) :=
  match afterSlash? true cs with
  | none => some (localFile cs)
  | some afterOne =>
      match afterSlash? true afterOne with
      | none => some (localFile afterOne)
      | some afterTwo => hostFile? afterTwo

/-! ### Addresses of other things -/

/-- Reads the host and the path of a special address that is not a file's. -/
def special? (scheme : String) (cs : List Char) : Option (Authority × UrlPath) := do
  let (text, path) := (cs.dropWhile (isSlash true)).span fun c => !isSlash true c
  let (authority, _) ← authority? scheme text
  return (authority, UrlPath.ofText true (path.drop 1))

/-- Reads the path, and the host if there is one, of an address that is not special. -/
def other? (scheme : String) : List Char → Option (Option Authority × UrlPath)
  | '/' :: '/' :: rest => do
      let (text, path) := rest.span (· ≠ '/')
      let (authority, between) ← authority? scheme text
      let path :=
        match between ++ path with
        | [] => UrlPath.segments []
        | '/' :: cs => UrlPath.ofText false cs
        | cs => UrlPath.ofText false cs
      return (some authority, path)
  | '/' :: rest => some (none, UrlPath.ofText false rest)
  | cs => some (none, .bare (String.ofList (Percent.encode Percent.inControlSet cs)))

/-- Reads what follows the scheme of an address, without query and fragment. -/
def hierarchy? (scheme : String) (cs : List Char) : Option (Option Authority × UrlPath) :=
  if scheme = "file" then (file? cs).map fun read => (some read.1, read.2)
  else if isSpecial scheme then (special? scheme (clean cs)).map fun read => (some read.1, read.2)
  else other? scheme (clean cs)

/-- Reads an address. -/
def parse? (text : String) : Option Url := do
  let (main, fragment) := cutAt '#' (trimmed text.toList)
  let (main, query) := cutAt '?' main
  let (schemeText, rest) := cutAt ':' main
  let rest ← rest
  let scheme ← scheme? schemeText
  let (authority, path) ← hierarchy? scheme rest
  let querySet := if isSpecial scheme then Percent.inSpecialQuerySet else Percent.inQuerySet
  return {
    scheme := scheme
    login := authority.bind (·.login)
    host := authority.map (·.host)
    port := authority.bind (·.port)
    path := path
    query := query.map fun q => String.ofList (Percent.encode querySet (clean q))
    fragment := fragment.map fun f =>
      String.ofList (Percent.encode Percent.inFragmentSet (clean f)) }

/-! ## Writing -/

/-- A mark and a text, if there is a text. -/
def marked (mark : String) : Option String → String
  | some text => mark ++ text
  | none => ""

/-- The text of the login, the host and the port. -/
def authorityText (u : Url) : String :=
  match u.host with
  | some host =>
      "//" ++ ((u.login.map Login.text).getD "") ++ host ++ marked ":" (u.port.map Decimal.text)
  | none =>
      match u.path with
      | .segments ("" :: _ :: _) => "/."
      | _ => ""

/-- The text of an address. -/
def text (u : Url) : String :=
  u.scheme ++ ":" ++ u.authorityText ++ u.path.text ++ marked "?" u.query
    ++ marked "#" u.fragment

/-- What a request asks for: the path and the query. -/
def requestPath (u : Url) : String := u.path.text ++ marked "?" u.query

/-- An address without the login that can be sent apart from it. -/
def withoutLogin (u : Url) : Url :=
  if u.login.any Login.isReadable then { u with login := none } else u

end Url

end StreamLoad
