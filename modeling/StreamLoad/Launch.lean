import StreamLoad.CommandLine
import StreamLoad.CommandLine.Usage
import StreamLoad.LoadTest

/-! # Launching the program

The words of a command line and the environment lead to a `Launch`, which names the mode and
holds checked settings, or to a `LaunchFault`. A fault has an exit code. A command line that is
not understood is reported with code 2; a request for help or the version is no error and has
code 0. Settings that the mode cannot run with, and metrics that cannot be served, have code 1
and a report of their own.
-/

set_option autoImplicit false

namespace StreamLoad

/-- Why a run of the program does not start. -/
inductive LaunchFault where
  /-- The command line is not carried out. -/
  | rejected (rejection : CommandLine.Rejection)
  /-- The mode cannot run with the settings. -/
  | unfit (fault : SettingsFault)
  /-- Metrics cannot be served at their address. -/
  | noMetrics (cause : String)
deriving DecidableEq, Repr

namespace LaunchFault

/-- Whether a rejection only answers a question. -/
def isAnswer : CommandLine.Rejection → Bool
  | .help | .version => true
  | _ => false

/-- The exit code of a fault. -/
def exitCode : LaunchFault → Nat
  | rejected rejection => if isAnswer rejection then 0 else 2
  | unfit _ | noMetrics _ => 1

/-- What is reported of a fault. -/
def report : LaunchFault → String
  | rejected rejection => CommandLine.Usage.report rejection
  | unfit fault =>
      "Error: invalid configuration\n\nCaused by:\n    " ++ (Failure.settings fault).message ++ "\n"
  | noMetrics cause =>
      "Error: " ++ (Failure.metrics ("failed to create HTTP listener: " ++ cause)).message ++ "\n"

end LaunchFault

/-- A run of the program that can start. -/
structure Launch where
  mode : CommandLine.Mode
  /-- Whether log lines are written as JSON. -/
  jsonLogs : Bool
  settings : Settings

namespace Launch

/-- Reads the words of a command line in an environment, and checks the settings. -/
def ofWords (words : List (List UInt8)) (env : Environment) : Except LaunchFault Launch :=
  match CommandLine.Invocation.ofWords words with
  | .error rejection => .error (.rejected rejection)
  | .ok invocation =>
      let settings := invocation.settings env
      match invocation.check settings with
      | .error fault => .error (.unfit fault)
      | .ok () =>
          .ok { mode := invocation.mode, jsonLogs := invocation.jsonLogs, settings := settings }

/-- Starts the load test of the mode. -/
def start (l : Launch) (server : Server) : LoadTest :=
  match l.mode with
  | .drain => .startChurn l.settings server
  | .bench => .startBenchmark l.settings server

end Launch

end StreamLoad
