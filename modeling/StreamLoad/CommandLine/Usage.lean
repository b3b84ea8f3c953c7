import StreamLoad.CommandLine.Flag

/-! # What the command line offers

The help, and what is reported of a command line that is not carried out.
-/

set_option autoImplicit false

namespace StreamLoad.CommandLine.Usage

/-- The name of the program. -/
def program : String := "sseload"

/-- The version of the program. -/
def version : String := "0.1.0"

/-- What a mode does. -/
def modeHelp : Mode → String
  | .drain => "Open and abort subscribe connections until the drop goal is reached"
  | .bench => "Measure broadcast delivery time over a fixed pool of subscribers"

/-- What a flag sets. -/
def flagHelp : Flag → String
  | .metricsAddress => "Serve Prometheus metrics on this address"
  | .host => "Target host"
  | .port => "Target port"
  | .dropGoal => "Stop churning after this many dropped connections"
  | .method => "Subscribe method expected by the server (get or post)"
  | .maxInFlight => "Cap on outstanding subscribe attempts"
  | .probeTimeout => "Liveness probe timeout in milliseconds"
  | .probeInterval => "Liveness probe interval in milliseconds"
  | .poolSize => "Number of persistent subscribers"
  | .message => "Message published on every cycle"

/-- The shape of a command line. -/
def usage : String := "Usage: " ++ program ++ " [OPTIONS] <COMMAND>\n"

/-- A name and what it is for, on a line of its own. -/
def helpLine (name help : String) : String := "  " ++ name ++ "  " ++ help ++ "\n"

/-- The flags of a level. -/
def flagLines (mode : Option Mode) : String :=
  String.join ((Flag.all.filter fun f => f.belongsTo mode && f ≠ .metricsAddress).map fun f =>
    helpLine ("--" ++ f.name) (flagHelp f))

/-- The help. -/
def help : String :=
  usage ++ "\n"
    ++ helpLine Mode.drain.word (modeHelp .drain) ++ flagLines (some .drain) ++ "\n"
    ++ helpLine Mode.bench.word (modeHelp .bench) ++ flagLines (some .bench) ++ "\n"
    ++ helpLine ("--" ++ Flag.metricsAddress.name) (flagHelp .metricsAddress)
    ++ helpLine "--json-logs" "Use JSON log format instead of pretty"
    ++ helpLine "--help" "Print help" ++ helpLine "--version" "Print version"

/-- What is wrong with a command line. -/
def complaint : Rejection → String
  | .unreadableValue => "invalid value for a flag"
  | .noSuchChoice => "a value is missing or none of the possible ones"
  | .notText => "invalid UTF-8 in a value"
  | .valueNotTaken => "unexpected value for a flag that takes none"
  | .unknownWord => "unexpected argument"
  | .unknownMode => "unrecognized subcommand"
  | .repeatedFlag => "a flag is used more than once"
  | .noMode => "a subcommand is required"
  | .nothingGiven | .help | .version => ""

/-- What is reported of a command line that is not carried out. -/
def report : Rejection → String
  | .help | .nothingGiven => help
  | .version => program ++ " " ++ version ++ "\n"
  | rejection => "error: " ++ complaint rejection ++ "\n\n" ++ usage

end StreamLoad.CommandLine.Usage
