import StreamLoad.Settings
import StreamLoad.Text.Utf8

/-! # Settings from the environment

Each setting has a variable. A variable that is not set, is not UTF-8, or does not read as a
value of its setting leaves the default; so does an empty host or message.
-/

set_option autoImplicit false

namespace StreamLoad

/-- The variables that are set, with their bytes. -/
structure Environment where
  bindings : List (String × List UInt8) := []

namespace Environment

/-- The names of the variables that settings are read from. -/
def names : List String :=
  ["SSELOAD_HOST", "SSELOAD_PORT", "SSELOAD_DROP_GOAL", "SSELOAD_METHOD",
    "SSELOAD_CHURN_INTERVAL_MS", "SSELOAD_MAX_IN_FLIGHT", "SSELOAD_ATTEMPT_TIMEOUT_MS",
    "SSELOAD_PROBE_INTERVAL_MS", "SSELOAD_PROBE_TIMEOUT_MS", "SSELOAD_POOL_SIZE",
    "SSELOAD_MESSAGE", "SSELOAD_BENCH_INTERVAL_MS", "SSELOAD_STATUS_INTERVAL_MS",
    "SSELOAD_METRICS_ADDR"]

/-- The text of a variable; `none` if it is not set or not UTF-8. -/
def text? (env : Environment) (name : String) : Option String :=
  (env.bindings.lookup name).bind Text.ofUtf8?

/-- The value of a variable, if it reads as one. -/
def read? {α : Type} (env : Environment) (name : String) (reader : String → Option α) :
    Option α :=
  (env.text? name).bind reader

/-- Reads a number of 16 bits. -/
def number16? (text : String) : Option Nat := Decimal.read? Decimal.limit16 text.toList

/-- Reads a number of 64 bits. -/
def number64? (text : String) : Option Nat := Decimal.read? Decimal.limit64 text.toList

/-- Reads a number of milliseconds of 64 bits. -/
def millis? (text : String) : Option Nat := (number64? text).map Duration.ofMillis

/-- Reads any text but the empty one. -/
def nonEmpty? (text : String) : Option String := if text.isEmpty then none else some text

/-- Reads a method. -/
def method? (text : String) : Option Method := (Method.ofText text).toOption

/-- The settings that an environment leads to. -/
def settings (env : Environment) : Settings :=
  let base : Settings := {}
  { target :=
      { host := (env.read? "SSELOAD_HOST" nonEmpty?).getD base.target.host
        port := (env.read? "SSELOAD_PORT" number16?).getD base.target.port }
    churn :=
      { dropGoal := (env.read? "SSELOAD_DROP_GOAL" number64?).getD base.churn.dropGoal
        method := (env.read? "SSELOAD_METHOD" method?).getD base.churn.method
        interval := (env.read? "SSELOAD_CHURN_INTERVAL_MS" millis?).getD base.churn.interval
        maxInFlight :=
          (env.read? "SSELOAD_MAX_IN_FLIGHT" number64?).getD base.churn.maxInFlight
        attemptTimeout :=
          (env.read? "SSELOAD_ATTEMPT_TIMEOUT_MS" millis?).getD base.churn.attemptTimeout }
    probe :=
      { interval := (env.read? "SSELOAD_PROBE_INTERVAL_MS" millis?).getD base.probe.interval
        timeout := (env.read? "SSELOAD_PROBE_TIMEOUT_MS" millis?).getD base.probe.timeout }
    benchmark :=
      { poolSize := (env.read? "SSELOAD_POOL_SIZE" number64?).getD base.benchmark.poolSize
        message := (env.read? "SSELOAD_MESSAGE" nonEmpty?).getD base.benchmark.message
        interval :=
          (env.read? "SSELOAD_BENCH_INTERVAL_MS" millis?).getD base.benchmark.interval }
    statusInterval :=
      (env.read? "SSELOAD_STATUS_INTERVAL_MS" millis?).getD base.statusInterval
    metricsAddress := env.read? "SSELOAD_METRICS_ADDR" SocketAddress.ofText? }

end Environment

end StreamLoad
