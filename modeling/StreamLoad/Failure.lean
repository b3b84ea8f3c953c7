/-! # Failures

What can go wrong, by cause: settings that a mode cannot run with, a request that could not be
sent or whose answer broke off, an answer with the wrong status, the end of a stream, metrics
that cannot be served. `Failure.message` words each cause. A failure is *of the connection* if
the connection itself failed, rather than a well-formed answer or the request's own form.
-/

set_option autoImplicit false

namespace StreamLoad

/-- Why settings are refused. -/
inductive SettingsFault where
  /-- The text names no method that streams can be opened with. -/
  | unsupportedMethod (text : String)
  | emptyHost
  | zeroStatusInterval
  | zeroInFlightLimit
  | zeroAttemptTimeout
  | zeroProbeTiming
  | zeroPoolSize
  | zeroBenchmarkInterval
  | emptyMessage
  | unfitMessage
  /-- A fault in words of its own. -/
  | stated (words : String)
deriving DecidableEq, Repr

namespace SettingsFault

/-- The wording of a fault. -/
def message : SettingsFault → String
  | unsupportedMethod text => "unsupported subscribe method: " ++ text
  | emptyHost => "target host must not be empty"
  | zeroStatusInterval => "status interval must be non-zero"
  | zeroInFlightLimit => "max in-flight attempts must be at least 1"
  | zeroAttemptTimeout => "attempt timeout must be non-zero"
  | zeroProbeTiming => "probe interval and timeout must be non-zero"
  | zeroPoolSize => "pool size must be at least 1"
  | zeroBenchmarkInterval => "benchmark interval must be non-zero"
  | emptyMessage => "message must not be empty"
  | unfitMessage => "message must be a single URL path segment without whitespace"
  | stated words => words

end SettingsFault

/-- Why a request failed. -/
inductive RequestFault where
  /-- No request can be made of the address; `url` is the address if it could be read at all. -/
  | unusable (url : Option String)
  /-- The connection was refused, or closed before the answer began. -/
  | notSent (url : String)
  /-- The connection broke within the body of the answer. -/
  | bodyCut
deriving DecidableEq, Repr

namespace RequestFault

/-- The wording of a failed request. -/
def message : RequestFault → String
  | unusable none => "builder error"
  | unusable (some url) => "builder error for url (" ++ url ++ ")"
  | notSent url => "error sending request for url (" ++ url ++ ")"
  | bodyCut => "error decoding response body"

/-- Whether the connection itself failed before an answer began. -/
def isConnectionLevel : RequestFault → Bool
  | notSent _ => true
  | unusable _ | bodyCut => false

end RequestFault

/-- A failure of the load test. -/
inductive Failure where
  | settings (fault : SettingsFault)
  | request (fault : RequestFault)
  /-- The answer's status was not one of success. -/
  | unexpectedStatus (code : Nat)
  /-- The server ended the stream. -/
  | streamClosed
  /-- Metrics cannot be served. -/
  | metrics (cause : String)
deriving DecidableEq, Repr

namespace Failure

/-- The wording of a failure. -/
def message : Failure → String
  | settings fault => "Invalid configuration: " ++ fault.message
  | request fault => "HTTP request failed: " ++ fault.message
  | unexpectedStatus code => "Unexpected HTTP status: " ++ Nat.repr code
  | streamClosed => "Event stream closed by server"
  | metrics cause => "Metrics exporter error: " ++ cause

/-- Whether the failure is of the connection rather than of a well-formed answer. -/
def isConnectionLevel : Failure → Bool
  | request fault => fault.isConnectionLevel
  | streamClosed => true
  | settings _ | unexpectedStatus _ | metrics _ => false

end Failure

end StreamLoad
