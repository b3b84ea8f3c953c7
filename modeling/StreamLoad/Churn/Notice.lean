import StreamLoad.Failure
import StreamLoad.Notice
import StreamLoad.Settings

/-! # What a churn session notes

The notices of the churn driver, of its attempts and of the liveness probe, and the log line of
each.
-/

set_option autoImplicit false

namespace StreamLoad

/-- How a probe ended. -/
inductive Verdict where
  /-- The server answered in time. -/
  | responded
  /-- There was no answer in time. -/
  | timedOut
  /-- The connection was refused or closed. -/
  | refused
deriving DecidableEq, Repr

namespace Verdict

/-- Whether the server accepts connections, by a verdict. -/
def isAccepting : Verdict → Bool
  | responded => true
  | timedOut | refused => false

/-- The word for a verdict. -/
def word : Verdict → String
  | responded => "Responded"
  | timedOut => "TimedOut"
  | refused => "Refused"

end Verdict

/-- What a churn session notes. -/
inductive ChurnNotice where
  | started (target : String) (method : Method) (goal : Nat)
  | goalReached (dropped : Nat)
  | attemptDropped (id : Nat) (elapsed : Nat)
  | attemptFailed (id : Nat) (failure : Failure)
  | attemptTimedOut (id : Nat) (timeout : Nat)
  | probeFailed (fault : RequestFault)
  | acceptingChanged (verdict : Verdict)
deriving DecidableEq, Repr

/-- The log entry of a notice. -/
def ChurnNotice.entry : ChurnNotice → LogEntry
  | started target method goal =>
      LogEntry.mk .info ("Churn driver started: target=" ++ target ++ ", method=" ++ method.word
        ++ ", drop_goal=" ++ Decimal.text goal)
  | goalReached dropped =>
      LogEntry.mk .info ("Drop goal reached: " ++ Decimal.text dropped ++ " connections dropped")
  | attemptDropped id elapsed =>
      LogEntry.mk .debug ("Churn attempt " ++ Decimal.text id ++ " dropped after "
        ++ Duration.text elapsed)
  | attemptFailed id failure =>
      LogEntry.mk .debug ("Churn attempt " ++ Decimal.text id ++ " failed: " ++ failure.message)
  | attemptTimedOut id timeout =>
      LogEntry.mk .debug ("Churn attempt " ++ Decimal.text id ++ " timed out after "
        ++ Duration.text timeout)
  | probeFailed fault => LogEntry.mk .debug ("Liveness probe failed: " ++ fault.message)
  | acceptingChanged verdict =>
      LogEntry.mk .info ("Server accepting connections: "
        ++ (if verdict.isAccepting then "true" else "false") ++ " (" ++ verdict.word ++ ")")

/-- The log line of a notice. -/
def ChurnNotice.line (n : ChurnNotice) : String := n.entry.line

end StreamLoad
