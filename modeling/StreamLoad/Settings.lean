import StreamLoad.Failure
import StreamLoad.Net.SocketAddress
import StreamLoad.Time

/-! # Settings

The settings of a load test fall into those of the target, of the churn driver, of the
liveness probe and of the benchmark, and two that both modes use. Each has a default. Lengths
of time are in nanoseconds, as elsewhere.
-/

set_option autoImplicit false

namespace StreamLoad

/-- The method that streams are opened with. -/
inductive Method where
  | get
  | post
deriving DecidableEq, Repr

namespace Method

/-- The word for a method. -/
def word : Method → String
  | get => "GET"
  | post => "POST"

/-- The method that a text names, whatever the case of its ASCII letters. -/
def ofText (text : String) : Except SettingsFault Method :=
  let upper := text.toUpper
  if upper = get.word then .ok get
  else if upper = post.word then .ok post
  else .error (.unsupportedMethod upper)

end Method

instance : Inhabited Method := ⟨.post⟩

/-- The server under test. -/
structure Target where
  host : String := "127.0.0.1"
  port : Nat := 8080
deriving DecidableEq, Repr

/-- The settings of the churn driver. -/
structure ChurnSettings where
  /-- The number of drops at which churning stops. -/
  dropGoal : Nat := 5000
  method : Method := .post
  /-- The time between ticks; zero for as fast as possible. -/
  interval : Nat := 0
  /-- The number of attempts under way at which a tick opens no more. -/
  maxInFlight : Nat := 1024
  /-- The time that an attempt may take from its request to its greeting. -/
  attemptTimeout : Nat := Duration.ofMillis 5000
deriving DecidableEq, Repr

/-- The settings of the liveness probe. -/
structure ProbeSettings where
  interval : Nat := Duration.ofMillis 20
  timeout : Nat := Duration.ofMillis 100
deriving DecidableEq, Repr

/-- The settings of the benchmark. -/
structure BenchmarkSettings where
  /-- The number of members of the pool. -/
  poolSize : Nat := 1000
  /-- What every payload starts with. -/
  message : String := "msg"
  /-- The time between ticks. -/
  interval : Nat := Duration.ofMillis 20
deriving DecidableEq, Repr

/-- All settings. -/
structure Settings where
  target : Target := {}
  churn : ChurnSettings := {}
  probe : ProbeSettings := {}
  benchmark : BenchmarkSettings := {}
  /-- The time between redraws of the status line. -/
  statusInterval : Nat := Duration.ofMillis 20
  /-- Where metrics are served, if they are. -/
  metricsAddress : Option SocketAddress := none
deriving DecidableEq, Repr

/-- The address of the server under test, without a slash at its end. -/
def Settings.baseUrl (s : Settings) : String :=
  "http://" ++ s.target.host ++ ":" ++ Decimal.text s.target.port

end StreamLoad
