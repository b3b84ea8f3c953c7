import StreamLoad.Net.Url
import StreamLoad.Settings

/-! # Requests

A request is made of a method, an address and the kind of answer asked for. Not every text
makes one: the text has to read as an address of the web, and the address has to fit on a
request line. `Request.prepare` answers the request or why there is none.
-/

set_option autoImplicit false

namespace StreamLoad

/-- Whether a status is one of success. -/
def isSuccess (status : Nat) : Bool := 200 ≤ status && status < 300

/-- The status of an answer without a body. -/
def noContent : Nat := 204

/-- A request to the server under test. -/
structure Request where
  method : Method
  url : Url
  /-- The kind of answer asked for. -/
  accept : String
deriving DecidableEq, Repr

namespace Request

/-- The number of bytes of the longest address that can be asked for. -/
def addressLimit : Nat := 65534

/-- Whether a character of a host can stand on a request line. -/
def isHostChar (c : Char) : Bool :=
  c.isAlphanum || Percent.isOneOf [0x21, 0x24, 0x26, 0x27, 0x28, 0x29, 0x2A, 0x2B, 0x2C, 0x2D,
    0x2E, 0x3A, 0x3B, 0x3D, 0x5B, 0x5D, 0x5F, 0x7E] c

/-- Whether an address can be asked for: it is one of the web, not too long, and its host can
stand on a request line. -/
def isSendable (url : Url) : Bool :=
  (url.scheme = "http" || url.scheme = "https")
    && url.text.utf8ByteSize ≤ addressLimit
    && ((url.host.getD "").toList.all isHostChar)

/-- The request for the address that a text names. -/
def prepare (method : Method) (accept text : String) : Except RequestFault Request :=
  match (Url.parse? text).map Url.withoutLogin with
  | none => .error (.unusable none)
  | some url =>
      if isSendable url then .ok { method := method, url := url, accept := accept }
      else .error (.unusable (some url.text))

/-- What a request says: its method, its path and query, and the kind of answer asked for. -/
def line (r : Request) : String := r.method.word ++ " " ++ r.url.requestPath ++ " " ++ r.accept

/-- The fault of a request whose connection is refused or closed before the answer. -/
def lost (r : Request) : RequestFault := .notSent r.url.text

end Request

/-- The client of one server under test. -/
structure Client where
  /-- The address of the server, without slashes at its end. -/
  base : String
deriving DecidableEq, Repr

namespace Client

/-- A text without the slashes at its end. -/
def trimSlashes (text : String) : String :=
  String.ofList (text.toList.reverse.dropWhile (· = '/')).reverse

/-- The client of the server at an address. -/
def ofUrl (url : String) : Client := { base := trimSlashes url }

/-- The client of the server that settings name. -/
def ofSettings (s : Settings) : Client := ofUrl s.baseUrl

/-- The request for a stream of events. -/
def subscribe (c : Client) (method : Method) : Except RequestFault Request :=
  Request.prepare method "text/event-stream" (c.base ++ "/events")

/-- The request to publish a payload to all subscribers. -/
def publish (c : Client) (payload : String) : Except RequestFault Request :=
  Request.prepare .get "*/*" (c.base ++ "/broadcast/" ++ payload)

/-- The request that asks whether the server answers at all. -/
def probe (c : Client) : Except RequestFault Request :=
  Request.prepare .get "*/*" (c.base ++ "/")

end Client

end StreamLoad
