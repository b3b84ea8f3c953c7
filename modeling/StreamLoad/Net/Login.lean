import StreamLoad.Net.Percent
import StreamLoad.Text.Utf8

/-! # Logins of addresses

An address can carry the name of a user, and a password, in front of its host. Both are kept
percent-encoded. A client sends a login to the server apart from the address, and takes it out of
the address, where it can be read (`Login.isReadable`); otherwise the login stays where it is.
-/

set_option autoImplicit false

namespace StreamLoad

/-- The login that an address carries. -/
structure Login where
  name : String
  password : Option String
deriving DecidableEq, Repr

namespace Login

/-- A part of a login, percent-encoded. -/
def encoded (cs : List Char) : String := String.ofList (Percent.encode Percent.inLoginSet cs)

/-- Reads what stands in front of the at sign of an authority: a name, a colon and a password. A
password that is empty is none, and without name and password there is no login. -/
def read? (cs : List Char) : Option Login :=
  let name := cs.takeWhile (· ≠ ':')
  let password := (cs.dropWhile (· ≠ ':')).drop 1
  if name.isEmpty && password.isEmpty then none
  else
    some {
      name := encoded name
      password := if password.isEmpty then none else some (encoded password) }

/-- The text that an encoded part stands for, if it is one. -/
def decoded? (part : String) : Option String := Text.ofUtf8? (Percent.decode (Text.utf8 part))

/-- Whether a login can be read: its name can, and if there is no name its password can. -/
def isReadable (l : Login) : Bool :=
  match decoded? l.name with
  | none => false
  | some name => !name.isEmpty || (l.password.bind decoded?).isSome

/-- The text of a login, with the at sign. -/
def text (l : Login) : String :=
  l.name ++ (match l.password with
    | some password => ":" ++ password
    | none => "") ++ "@"

end Login

end StreamLoad
