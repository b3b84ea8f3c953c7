import StreamLoad.Settings
import StreamLoad.Text.Blank

/-! # Checking settings

Each mode checks the settings that it uses and no others, and answers the first fault. A
message has to be fit to be sent as one segment of an address and to come back as one line of
a stream: it is not empty and holds no separator of addresses, no percent sign, no blank and
no control character.
-/

set_option autoImplicit false

namespace StreamLoad.Settings

/-- Refuses settings with a fault if a condition holds. -/
def refuseIf (condition : Bool) (fault : SettingsFault) : Except SettingsFault Unit :=
  if condition then .error fault else .ok ()

/-- Checks the settings that both modes use. -/
def checkCommon (s : Settings) : Except SettingsFault Unit := do
  refuseIf s.target.host.isEmpty .emptyHost
  refuseIf (s.statusInterval = 0) .zeroStatusInterval

/-- Checks the settings of churning and of the liveness probe. -/
def checkChurn (s : Settings) : Except SettingsFault Unit := do
  s.checkCommon
  refuseIf (s.churn.maxInFlight = 0) .zeroInFlightLimit
  refuseIf (s.churn.attemptTimeout = 0) .zeroAttemptTimeout
  refuseIf (s.probe.interval = 0 || s.probe.timeout = 0) .zeroProbeTiming

/-- Whether a character is fit for a message. -/
def isFitForMessage (c : Char) : Bool :=
  !(c = '/' || c = '?' || c = '#' || c = '%' || Text.isBlank c || Text.isControl c)

/-- Checks the settings of the benchmark. -/
def checkBenchmark (s : Settings) : Except SettingsFault Unit := do
  s.checkCommon
  refuseIf (s.benchmark.poolSize = 0) .zeroPoolSize
  refuseIf (s.benchmark.interval = 0) .zeroBenchmarkInterval
  refuseIf s.benchmark.message.isEmpty .emptyMessage
  refuseIf (!s.benchmark.message.toList.all isFitForMessage) .unfitMessage

end StreamLoad.Settings
