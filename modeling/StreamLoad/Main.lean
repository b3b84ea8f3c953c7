import Std.Async
import Std.Sync.Channel
import StreamLoad.Launch
import StreamLoad.Net.Answer
import StreamLoad.Status

/-! # The program

The outer layer of the program: it takes the words of the command line and the environment, runs
the load test that they lead to, and ends it when it is interrupted. All that is decided is
decided by `Launch` and `LoadTest`. This module waits for what happens next, opens a connection
for each new exchange of the load test, tells it what comes over the connections, closes those
that it has hung up, and writes its log and its status line.
-/

set_option autoImplicit false

namespace StreamLoad.Program

open Std.Async

/-- What may happen next. -/
inductive Happening where
  /-- The server does something with an exchange. -/
  | command (number : Nat) (command : Command)
  /-- The user interrupts the program. -/
  | interrupt
  /-- Nothing but that time goes by. -/
  | time

instance : Inhabited Happening := ⟨.time⟩

/-! ## Connections -/

/-- The connection of an exchange. -/
structure Connection where
  number : Nat
  request : Request
  socket : TCP.Socket.Client
  /-- Where to say what comes over it. -/
  happenings : Std.Channel Happening
  /-- Whether the client has hung up. -/
  hungUp : IO.Ref Bool

namespace Connection

/-- Says what the server did. -/
def say (c : Connection) (commands : List Command) : Async Unit := do
  for command in commands do
    let _ ← c.happenings.send (.command c.number command)

/-- Reads the answer until it ends or the client hangs up. -/
partial def read (c : Connection) (reader : AnswerReader) : Async Unit := do
  if ← c.hungUp.get then return
  match ← c.socket.recv? 65536 with
  | none => c.say reader.close
  | some bytes =>
      let (next, commands) := reader.feed bytes.data.toList
      c.say commands
      if next = .finished then pure () else c.read next

/-- Hangs up. -/
def hangUp (c : Connection) : IO Unit := do
  c.hungUp.set true
  try c.socket.native.cancelRecv catch _ => pure ()

/-- The address of the host of a request, which is asked for only if the host is a name. -/
def hostAddress (name port : String) : Async Std.Net.IPAddr := do
  match Std.Net.IPv4Addr.ofString name with
  | some ip => return .v4 ip
  | none =>
      match (← DNS.getAddrInfo name port).toList.head? with
      | some ip => return ip
      | none => throw (IO.userError "no address")

/-- The address of the server of a request. -/
def address (url : Url) : Async Std.Net.SocketAddress := do
  let port := url.port.getD 80
  let name := String.ofList ((url.host.getD "").toList.filter fun ch => ch ≠ '[' && ch ≠ ']')
  match ← hostAddress name (Decimal.text port) with
  | .v4 ip => return .v4 ⟨ip, port.toUInt16⟩
  | .v6 ip => return .v6 ⟨ip, port.toUInt16⟩

/-- Sends the request and reads the answer. -/
def run (c : Connection) : Async Unit := do
  try
    c.socket.connect (← address c.request.url)
    c.socket.send ⟨c.request.bytes.toArray⟩
    c.read .start
  catch _ => c.say [.drop]

end Connection

/-! ## Metrics -/

/-- The line of a metric. -/
def metricLine : String × Reading → String
  | (name, .count n) => name ++ " " ++ Decimal.text n ++ "\n"
  | (name, .time length) => name ++ " " ++ toString (Duration.millisFloat length) ++ "\n"

/-- Answers each connection with the metrics as they stand. -/
partial def serveMetrics (listener : TCP.Socket.Server) (metrics : IO.Ref MetricList) :
    Async Unit := do
  let socket ← listener.accept
  try
    let _ ← socket.recv? 65536
    let text := String.join ((← metrics.get).map metricLine)
    socket.send ("HTTP/1.1 200 OK\r\ncontent-type: text/plain\r\nconnection: close\r\n\r\n"
      ++ text).toUTF8
    socket.shutdown
  catch _ => pure ()
  serveMetrics listener metrics

/-- An address in the form that sockets take. -/
def nativeAddress : SocketAddress → Std.Net.SocketAddress
  | .v4 ip port =>
      .v4 ⟨⟨#v[ip.a.toUInt8, ip.b.toUInt8, ip.c.toUInt8, ip.d.toUInt8]⟩, port.toUInt16⟩
  | .v6 ip _ port =>
      .v6 ⟨⟨Vector.ofFn fun i => (ip.groups.getD i.val 0).toUInt16⟩, port.toUInt16⟩

/-- Why it was not possible to listen. -/
def listenCause (e : IO.Error) : String :=
  match e with
  | .resourceBusy _ _ => "Address already in use (os error 98)"
  | .permissionDenied _ _ _ => "Permission denied (os error 13)"
  | .unsupportedOperation _ _ | .noSuchThing _ _ _ =>
      "Cannot assign requested address (os error 99)"
  | other => toString other

/-- Listens at an address. -/
def listen (address : SocketAddress) : IO (Except String TCP.Socket.Server) := do
  try
    let listener ← TCP.Socket.Server.mk
    listener.bind (nativeAddress address)
    listener.listen 128
    return .ok listener
  catch e => return .error (listenCause e)

/-! ## The run -/

/-- A run of the program. -/
structure Running where
  launch : Launch
  test : LoadTest
  /-- The instant of the start, by the clock of the machine. -/
  begun : Nat
  report : Status.Report
  happenings : Std.Channel Happening
  /-- The connections that are not hung up. -/
  connections : List Connection := []
  /-- The number of exchanges that have got a connection. -/
  connected : Nat := 0
  metrics : IO.Ref MetricList

namespace Running

/-- Writes an entry of the log. -/
def writeLog (r : Running) (entry : LogEntry) : IO Unit := do
  if entry.level.isForAll then
    (← IO.getStderr).putStrLn (if r.launch.jsonLogs then entry.json else entry.line)

/-- Writes to the terminal. An output that is closed takes nothing and does not end the run. -/
def draw (text : String) : IO Unit := do
  try
    let out ← IO.getStdout
    out.putStr text
    out.flush
  catch _ => pure ()

/-- Opens a connection for each new exchange, and closes those that are hung up. -/
def connect (r : Running) : Async Running := do
  let exchanges := r.test.server.exchanges
  let mut connections := r.connections
  for (exchange, i) in (exchanges.drop r.connected).zipIdx do
    let connection : Connection :=
      { number := r.connected + i
        request := exchange.request
        socket := ← TCP.Socket.Client.mk
        happenings := r.happenings
        hungUp := ← IO.mkRef false }
    background connection.run
    connections := connection :: connections
  let states := exchanges.toArray
  let mut kept := []
  for connection in connections do
    match states[connection.number]?.map Exchange.state with
    | some ExchangeState.hungUp => connection.hangUp
    | some ExchangeState.finished => pure ()
    | _ => kept := connection :: kept
  return { r with connections := kept.reverse, connected := exchanges.length }

/-- Attends to all that the load test asks for. -/
def attend (r : Running) : Async Running := do
  let (test, entries) := r.test.takeLog
  for entry in entries do r.writeLog entry
  r.metrics.set test.metrics
  let (report, text) := r.report.settle (fun _ => test.statusLine) test.now
  if !text.isEmpty then draw text
  connect { r with test := test, report := report }

/-- The milliseconds until something is due, rounded up. -/
def timeLeft (r : Running) (now : Nat) : Nat :=
  let dues := r.test.nextAlarm?.toList ++ (r.report.ticker.bind (·.deadline?)).toList
  match dues.min? with
  | some due => (due - now + 999999) / 1000000
  | none => 1000

/-- The time since the start. -/
def elapsed (r : Running) : IO Nat := do return (← IO.monoNanosNow) - r.begun

/-- Waits for what happens next. -/
def wait (r : Running) : Async Happening := do
  let left := r.timeLeft (← r.elapsed)
  Selectable.one
    #[.case r.happenings.recvSelector pure,
      .case (← Selector.sleep (.ofNat left)) fun _ => pure .time]

/-- Goes on until the program is interrupted. -/
partial def loop (r : Running) : Async Running := do
  let attended ← r.attend
  let happening ← attended.wait
  let test := attended.test.advance ((← attended.elapsed) - attended.test.now)
  match happening with
  | .interrupt => return { attended with test := test }
  | .time => loop { attended with test := test }
  | .command number command => loop { attended with test := test.command number command }

/-- Writes the last status line and the last entry of the log. -/
def finish (r : Running) : IO Unit := do
  draw (Status.redraw r.test.statusLine ++ Status.finish)
  r.writeLog r.test.lastEntry

end Running

/-- Waits until the user interrupts the program, and says so. -/
def awaitInterrupt (interrupt : Signal.Waiter) (happenings : Std.Channel Happening) :
    Async Unit := do
  let _ ← await (← interrupt.wait)
  let _ ← happenings.send .interrupt

/-- Runs the load test until the program is interrupted. -/
def runLoadTest (launch : Launch) (metrics : IO.Ref MetricList) : Async Unit := do
  let happenings ← Std.Channel.new
  background (awaitInterrupt (← Signal.Waiter.mk .sigint false) happenings)
  let running : Running :=
    { launch := launch
      test := launch.start {}
      begun := ← IO.monoNanosNow
      report := { interval := launch.settings.statusInterval }
      happenings := happenings
      metrics := metrics }
  (← running.loop).finish

/-- Starts to serve metrics, if they are asked for; answers why it is not possible. -/
def startMetrics (launch : Launch) (metrics : IO.Ref MetricList) : Async (Option String) := do
  match launch.settings.metricsAddress with
  | none => return none
  | some address =>
      match ← listen address with
      | .error cause => return some cause
      | .ok listener =>
          background (serveMetrics listener metrics)
          let entry : LogEntry :=
            ⟨.info, "Prometheus metrics on http://" ++ address.text ++ "/metrics"⟩
          (← IO.getStderr).putStrLn (if launch.jsonLogs then entry.json else entry.line)
          return none

/-- Reports a fault; answers the exit code. -/
def reportFault (fault : LaunchFault) : IO UInt32 := do
  let output ← if fault.exitCode = 0 then IO.getStdout else IO.getStderr
  output.putStr fault.report
  return fault.exitCode.toUInt32

/-- The environment of the program. -/
def readEnvironment : IO Environment := do
  let bindings ← Environment.names.filterMapM fun name => do
    return (← IO.getEnv name).map fun value => (name, Text.utf8 value)
  return { bindings := bindings }

end StreamLoad.Program

open StreamLoad StreamLoad.Program in
/-- Runs the program. -/
def main (words : List String) : IO UInt32 := do
  match Launch.ofWords (words.map Text.utf8) (← readEnvironment) with
  | .error fault => reportFault fault
  | .ok launch => Std.Async.Async.block do
      let metrics ← IO.mkRef []
      match ← startMetrics launch metrics with
      | some cause => reportFault (.noMetrics cause)
      | none =>
          runLoadTest launch metrics
          return 0
