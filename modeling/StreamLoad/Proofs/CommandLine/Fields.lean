import Mathlib.Data.List.Nodup
import StreamLoad.CommandLine

/-! # The fields of the settings

Each of the fourteen settings is a `Field`, with a variable of the environment, a way to read the
text of the variable and a default; some have a flag. What a field holds is the value that its flag
gave last, or else that of its variable, or else the default (`get_settings`). No other flag and no
other variable has a part in it.
-/

set_option autoImplicit false

namespace StreamLoad.CommandLine

/-- A setting. -/
inductive Field where
  | host
  | port
  | dropGoal
  | method
  | churnInterval
  | maxInFlight
  | attemptTimeout
  | probeInterval
  | probeTimeout
  | poolSize
  | message
  | benchmarkInterval
  | statusInterval
  | metricsAddress
deriving DecidableEq, Repr

namespace Field

/-- What a field holds. -/
def Value : Field → Type
  | host | message => String
  | method => Method
  | metricsAddress => Option SocketAddress
  | port | dropGoal | churnInterval | maxInFlight | attemptTimeout | probeInterval | probeTimeout
  | poolSize | benchmarkInterval | statusInterval => Nat

instance : (f : Field) → DecidableEq f.Value
  | host | message => inferInstanceAs (DecidableEq String)
  | method => inferInstanceAs (DecidableEq Method)
  | metricsAddress => inferInstanceAs (DecidableEq (Option SocketAddress))
  | port | dropGoal | churnInterval | maxInFlight | attemptTimeout | probeInterval | probeTimeout
  | poolSize | benchmarkInterval | statusInterval => inferInstanceAs (DecidableEq Nat)

/-- A field of some settings. -/
def get : (f : Field) → Settings → f.Value
  | host, s => s.target.host
  | port, s => s.target.port
  | dropGoal, s => s.churn.dropGoal
  | method, s => s.churn.method
  | churnInterval, s => s.churn.interval
  | maxInFlight, s => s.churn.maxInFlight
  | attemptTimeout, s => s.churn.attemptTimeout
  | probeInterval, s => s.probe.interval
  | probeTimeout, s => s.probe.timeout
  | poolSize, s => s.benchmark.poolSize
  | message, s => s.benchmark.message
  | benchmarkInterval, s => s.benchmark.interval
  | statusInterval, s => s.statusInterval
  | metricsAddress, s => s.metricsAddress

/-- What a field holds if nothing else is said. -/
def default (f : Field) : f.Value := f.get {}

/-- The variable of a field. -/
def variableName : Field → String
  | host => "SSELOAD_HOST"
  | port => "SSELOAD_PORT"
  | dropGoal => "SSELOAD_DROP_GOAL"
  | method => "SSELOAD_METHOD"
  | churnInterval => "SSELOAD_CHURN_INTERVAL_MS"
  | maxInFlight => "SSELOAD_MAX_IN_FLIGHT"
  | attemptTimeout => "SSELOAD_ATTEMPT_TIMEOUT_MS"
  | probeInterval => "SSELOAD_PROBE_INTERVAL_MS"
  | probeTimeout => "SSELOAD_PROBE_TIMEOUT_MS"
  | poolSize => "SSELOAD_POOL_SIZE"
  | message => "SSELOAD_MESSAGE"
  | benchmarkInterval => "SSELOAD_BENCH_INTERVAL_MS"
  | statusInterval => "SSELOAD_STATUS_INTERVAL_MS"
  | metricsAddress => "SSELOAD_METRICS_ADDR"

/-- All fields. -/
def all : List Field :=
  [host, port, dropGoal, method, churnInterval, maxInFlight, attemptTimeout, probeInterval,
    probeTimeout, poolSize, message, benchmarkInterval, statusInterval, metricsAddress]

theorem mem_all (f : Field) : f ∈ all := by
  cases f <;> decide

/-- The variables of the fields are all variables that settings are read from. -/
theorem map_variableName_all : all.map variableName = Environment.names := rfl

theorem variableName_injective : Function.Injective variableName := by
  intro f f' same
  have distinct : (all.map variableName).Nodup := by
    rw [map_variableName_all]
    decide
  exact List.inj_on_of_nodup_map distinct f.mem_all f'.mem_all same

/-- What the text of its variable is for a field, if it reads as anything. -/
def parse? : (f : Field) → String → Option f.Value
  | host | message => Environment.nonEmpty?
  | port => Environment.number16?
  | dropGoal | maxInFlight | poolSize => Environment.number64?
  | method => Environment.method?
  | churnInterval | attemptTimeout | probeInterval | probeTimeout | benchmarkInterval
  | statusInterval => Environment.millis?
  | metricsAddress => fun text => (SocketAddress.ofText? text).map some

/-- What an environment says of a field. -/
def inEnvironment? (f : Field) (env : Environment) : Option f.Value := env.read? f.variableName f.parse?

/-- The flag of a field, if it has one. -/
def flag? : Field → Option Flag
  | host => some .host
  | port => some .port
  | dropGoal => some .dropGoal
  | method => some .method
  | maxInFlight => some .maxInFlight
  | probeInterval => some .probeInterval
  | probeTimeout => some .probeTimeout
  | poolSize => some .poolSize
  | message => some .message
  | metricsAddress => some .metricsAddress
  | churnInterval | attemptTimeout | benchmarkInterval | statusInterval => none

/-- What an override says of a field. -/
def given? : (f : Field) → Override → Option f.Value
  | host, .host name => some name
  | port, .port number => some number
  | dropGoal, .dropGoal drops => some drops
  | method, .method choice => some choice
  | maxInFlight, .maxInFlight attempts => some attempts
  | probeInterval, .probeInterval time => some time
  | probeTimeout, .probeTimeout time => some time
  | poolSize, .poolSize members => some members
  | message, .message text => some text
  | metricsAddress, .metricsAddress address => some (some address)
  | _, _ => none

/-- An override says something of the field of its flag and of no other. -/
theorem given?_isSome_iff (f : Field) (o : Override) :
    (f.given? o).isSome = true ↔ f.flag? = some o.flag := by
  cases f <;> cases o <;> simp [given?, flag?, Override.flag] <;> rfl

/-- The settings with given fields. -/
def settings (value : (f : Field) → f.Value) : Settings :=
  { target := { host := value host, port := value port }
    churn :=
      { dropGoal := value dropGoal
        method := value method
        interval := value churnInterval
        maxInFlight := value maxInFlight
        attemptTimeout := value attemptTimeout }
    probe := { interval := value probeInterval, timeout := value probeTimeout }
    benchmark :=
      { poolSize := value poolSize
        message := value message
        interval := value benchmarkInterval }
    statusInterval := value statusInterval
    metricsAddress := value metricsAddress }

/-- Settings are told apart by their fields. -/
theorem ext_get {s s' : Settings} (same : ∀ f : Field, f.get s = f.get s') : s = s' := by
  have all : (fun f : Field => f.get s) = fun f => f.get s' := funext same
  calc s = settings fun f => f.get s := rfl
    _ = settings fun f => f.get s' := by rw [all]
    _ = s' := rfl

/-- An override puts in place what it says, and nothing else. -/
theorem get_apply (f : Field) (s : Settings) (o : Override) :
    f.get (Override.apply s o) = (f.given? o).getD (f.get s) := by
  cases f <;> cases o <;> rfl

/-- Of several overrides of a field, the last one counts. -/
theorem get_foldl_apply (f : Field) (overrides : List Override) (s : Settings) :
    f.get (overrides.foldl Override.apply s)
      = ((overrides.filterMap f.given?).getLast?).getD (f.get s) := by
  induction overrides generalizing s with
  | nil => rfl
  | cons o overrides ih =>
      rw [List.foldl_cons, ih, get_apply]
      cases given : f.given? o with
      | none => rw [List.filterMap_cons_none given, Option.getD_none]
      | some value =>
          rw [List.filterMap_cons_some given, List.getLast?_cons, Option.getD_some,
            Option.getD_some]

/-- A field of the settings from an environment comes from its own variable. -/
theorem get_environment (f : Field) (env : Environment) :
    f.get env.settings = (f.inEnvironment? env).getD f.default := by
  cases f with
  | metricsAddress =>
      -- The field may be left without an address, so that what is read is wrapped once more.
      show env.read? "SSELOAD_METRICS_ADDR" SocketAddress.ofText?
        = (env.read? "SSELOAD_METRICS_ADDR" fun text => (SocketAddress.ofText? text).map some).getD
          none
      unfold Environment.read?
      cases env.text? "SSELOAD_METRICS_ADDR" with
      | none => rfl
      | some text =>
          cases read : SocketAddress.ofText? text <;> simp [read]
  | _ => rfl

/-- **The three layers.** A field holds what the flags say of it, or else what its variable says, or
else its default. -/
theorem get_settings (f : Field) (i : Invocation) (env : Environment) :
    f.get (i.settings env)
      = ((i.overrides.filterMap f.given?).getLast?).getD
        ((f.inEnvironment? env).getD f.default) := by
  rw [Invocation.settings, get_foldl_apply, get_environment]

end Field

end StreamLoad.CommandLine
