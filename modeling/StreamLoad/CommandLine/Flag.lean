import StreamLoad.Settings.Environment

/-! # Flags of the command line

A flag with a value overrides one setting. `Flag.read` reads the bytes of a value as the
override that the flag stands for, and `Override.apply` puts it in place of the setting. A
value that is given must be a value of its setting; none is passed over in silence, as a
variable of the environment is.
-/

set_option autoImplicit false

namespace StreamLoad.CommandLine

/-- What the load test is to do. -/
inductive Mode where
  /-- Open and close streams until the goal is reached. -/
  | drain
  /-- Measure delivery to a pool of subscribers. -/
  | bench
deriving DecidableEq, Repr

/-- The word for a mode. -/
def Mode.word : Mode → String
  | .drain => "drain"
  | .bench => "bench"

/-- Why a command line is not carried out. -/
inductive Rejection where
  /-- A value does not read as one of its flag. -/
  | unreadableValue
  /-- A value is none of its flag's choices, or is missing. -/
  | noSuchChoice
  /-- A value is not text. -/
  | notText
  /-- A value is given to a flag that takes none. -/
  | valueNotTaken
  /-- A word is neither a flag nor a value. -/
  | unknownWord
  /-- A word stands where a mode should. -/
  | unknownMode
  /-- A flag is given twice. -/
  | repeatedFlag
  /-- Flags are given, but no mode. -/
  | noMode
  /-- Nothing is given. -/
  | nothingGiven
  /-- Help is asked for. -/
  | help
  /-- The version is asked for. -/
  | version
deriving DecidableEq, Repr

/-- A flag that takes a value. -/
inductive Flag where
  | metricsAddress
  | host
  | port
  | dropGoal
  | method
  | maxInFlight
  | probeTimeout
  | probeInterval
  | poolSize
  | message
deriving DecidableEq, Repr

/-- A setting to be put in place. -/
inductive Override where
  | metricsAddress (address : SocketAddress)
  | host (name : String)
  | port (number : Nat)
  | dropGoal (drops : Nat)
  | method (choice : Method)
  | maxInFlight (attempts : Nat)
  | probeTimeout (time : Nat)
  | probeInterval (time : Nat)
  | poolSize (members : Nat)
  | message (text : String)
deriving DecidableEq, Repr

namespace Override

/-- The flag that an override comes from. -/
def flag : Override → Flag
  | metricsAddress _ => .metricsAddress
  | host _ => .host
  | port _ => .port
  | dropGoal _ => .dropGoal
  | method _ => .method
  | maxInFlight _ => .maxInFlight
  | probeTimeout _ => .probeTimeout
  | probeInterval _ => .probeInterval
  | poolSize _ => .poolSize
  | message _ => .message

/-- The settings with an override in place. -/
def apply (s : Settings) : Override → Settings
  | metricsAddress address => { s with metricsAddress := some address }
  | host name => { s with target := { s.target with host := name } }
  | port number => { s with target := { s.target with port := number } }
  | dropGoal drops => { s with churn := { s.churn with dropGoal := drops } }
  | method choice => { s with churn := { s.churn with method := choice } }
  | maxInFlight attempts => { s with churn := { s.churn with maxInFlight := attempts } }
  | probeTimeout time => { s with probe := { s.probe with timeout := time } }
  | probeInterval time => { s with probe := { s.probe with interval := time } }
  | poolSize members => { s with benchmark := { s.benchmark with poolSize := members } }
  | message text => { s with benchmark := { s.benchmark with message := text } }

end Override

namespace Flag

/-- All flags that take a value. -/
def all : List Flag :=
  [metricsAddress, host, port, dropGoal, method, maxInFlight, probeTimeout, probeInterval,
    poolSize, message]

/-- The name of a flag, without its hyphens. -/
def name : Flag → String
  | metricsAddress => "metrics-addr"
  | host => "host"
  | port => "port"
  | dropGoal => "drop-goal"
  | method => "method"
  | maxInFlight => "max-in-flight"
  | probeTimeout => "probe-timeout-ms"
  | probeInterval => "probe-interval-ms"
  | poolSize => "pool-size"
  | message => "message"

/-- Whether a flag may stand after a mode, or before it if `mode` is `none`. -/
def belongsTo (mode : Option Mode) : Flag → Bool
  | metricsAddress => true
  | host | port => mode.isSome
  | dropGoal | method | maxInFlight | probeTimeout | probeInterval => mode = some .drain
  | poolSize | message => mode = some .bench

/-- The flag of a name, where it may stand. -/
def find? (mode : Option Mode) (bytes : List UInt8) : Option Flag :=
  all.find? fun f => f.belongsTo mode && Text.utf8 f.name == bytes

/-- Reads the number of a port: a number of at most sixteen bits, which may have a sign. -/
def portNumber? (text : String) : Option Nat :=
  (Decimal.readSigned? text.toList).bind fun n =>
    if 0 ≤ n ∧ n ≤ Decimal.limit16 then some n.toNat else none

/-- Reads one of the two words for a method. -/
def methodChoice? (text : String) : Option Method :=
  if text = "get" then some .get else if text = "post" then some .post else none

/-- The override of a value's text. -/
def readText? (flag : Flag) (text : String) : Option Override :=
  match flag with
  | metricsAddress => (SocketAddress.ofText? text).map .metricsAddress
  | host => some (.host text)
  | port => (portNumber? text).map .port
  | dropGoal => (Environment.number64? text).map .dropGoal
  | method => (methodChoice? text).map .method
  | maxInFlight => (Environment.number64? text).map .maxInFlight
  | probeTimeout => (Environment.millis? text).map .probeTimeout
  | probeInterval => (Environment.millis? text).map .probeInterval
  | poolSize => (Environment.number64? text).map .poolSize
  | message => some (.message text)

/-- The override of a value's bytes. A method is one of two choices, and bytes that are no text
are none of them. -/
def read (flag : Flag) (value : List UInt8) : Except Rejection Override :=
  match Text.ofUtf8? value with
  | none => .error (if flag = method then .noSuchChoice else .notText)
  | some text =>
      match flag.readText? text with
      | some override => .ok override
      | none => .error (if flag = method then .noSuchChoice else .unreadableValue)

end Flag

end StreamLoad.CommandLine
