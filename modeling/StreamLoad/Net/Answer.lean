import StreamLoad.Server

/-! # Answers on a connection

What a server does with an exchange comes over a connection as the bytes of an HTTP answer. An
`AnswerReader` takes these bytes as they arrive and says what the server did: it sent the head,
pieces of the body, or the end of the body. The body ends after a given number of bytes, after
the last of its chunks, or with the connection. `Request.bytes` are the bytes of a request.
-/

set_option autoImplicit false

namespace StreamLoad

/-- The bytes of a request. A request to post has an empty body. -/
def Request.bytes (r : Request) : List UInt8 :=
  let length := match r.method with
    | .get => ""
    | .post => "content-length: 0\r\n"
  let host := r.url.host.getD "" ++ Url.marked ":" (r.url.port.map Decimal.text)
  Text.utf8 (r.method.word ++ " " ++ r.url.requestPath ++ " HTTP/1.1\r\nhost: " ++ host
    ++ "\r\naccept: " ++ r.accept ++ "\r\n" ++ length ++ "\r\n")

/-- Where a body ends, and how much of it is still to come. -/
inductive Framing where
  /-- The body ends with the connection. -/
  | untilClose
  /-- Some bytes are left. -/
  | length (left : Nat)
  /-- In the line that gives the size of a chunk: what has come of it, the last byte first. -/
  | chunkSize (line : List UInt8)
  /-- Some bytes of a chunk are left. -/
  | chunkData (left : Nat)
  /-- In the line end after a chunk. -/
  | chunkEnd
  /-- In a line after the last chunk: what has come of it, the last byte first. -/
  | trailer (line : List UInt8)
deriving DecidableEq, Repr

/-- How far an answer is read. -/
inductive AnswerReader where
  /-- In the first line: what has come of it, the last byte first. -/
  | status (line : List UInt8)
  /-- In a line of the head: what has come of it, and what the lines before it say. -/
  | header (line : List UInt8) (status : Nat) (framing : Framing)
  | body (framing : Framing)
  | finished
deriving DecidableEq, Repr

namespace AnswerReader

/-- A reader that has seen nothing. -/
def start : AnswerReader := .status []

/-- The byte that ends a line. -/
def lineFeed : UInt8 := 0x0A

/-- The text of a line of which the last byte is given first, without the carriage return at
its end. -/
def lineText (line : List UInt8) : List Char :=
  let line := match line with
    | 0x0D :: rest => rest
    | _ => line
  line.reverse.map fun b => Char.ofNat b.toNat

/-- The status that the first line of an answer gives. -/
def status? (line : List Char) : Option Nat :=
  match line.dropWhile (· ≠ ' ') with
  | _ :: rest => Decimal.readDigits? 999 (rest.takeWhile (· ≠ ' '))
  | [] => none

/-- What is written on both sides of the first colon of a line, in lower case and without the
blanks around it. -/
def headerField (line : List Char) : String × String :=
  let trim (cs : List Char) : List Char :=
    let front := cs.dropWhile (·.isWhitespace)
    (front.reverse.dropWhile (·.isWhitespace)).reverse
  let lower := line.map Char.toLower
  (String.ofList (trim (lower.takeWhile (· ≠ ':'))),
    String.ofList (trim ((lower.dropWhile (· ≠ ':')).drop 1)))

/-- Where the body ends, after one more line of the head. -/
def framingAfter (framing : Framing) (line : List Char) : Framing :=
  match headerField line with
  | ("transfer-encoding", "chunked") => .chunkSize []
  | ("content-length", value) =>
      match framing, Decimal.readDigits? Decimal.limit64 value.toList with
      | .untilClose, some n => .length n
      | _, _ => framing
  | _ => framing

/-- The size that a line gives for a chunk. Whatever follows a semicolon does not count. -/
def chunkSize? (line : List Char) : Option Nat :=
  let digits := line.takeWhile fun c => c.isAlphanum
  match AddressReader.digitRun 16 0 0 digits with
  | (size, count, []) => if 0 < count then some size else none
  | _ => none

/-- What a byte leads to. -/
inductive Found where
  | nothing
  /-- The byte belongs to the body. -/
  | data
  /-- The server did something. -/
  | command (command : Command)
deriving DecidableEq, Repr

/-- The status of an answer that gives the connection over to another protocol. -/
def switchingProtocols : Nat := 101

/-- The end of the head. An answer that only announces another one is passed over: one with a
status below 200, unless it gives the connection over to another protocol, which no answer
follows. -/
def endHead (code : Nat) (framing : Framing) : AnswerReader × Found :=
  if code < 200 && code ≠ switchingProtocols then (start, .nothing)
  else (.body framing, .command (.head code))

/-- Reads one byte of the body. -/
def pushBody (framing : Framing) (byte : UInt8) : AnswerReader × Found :=
  match framing with
  | .untilClose => (.body .untilClose, .data)
  | .length 0 => (.finished, .nothing)
  | .length (left + 1) => (.body (.length left), .data)
  | .chunkSize line =>
      if byte ≠ lineFeed then (.body (.chunkSize (byte :: line)), .nothing)
      else
        match chunkSize? (lineText line) with
        | some 0 => (.body (.trailer []), .nothing)
        | some size => (.body (.chunkData size), .nothing)
        | none => (.finished, .command .drop)
  | .chunkData 0 => (.finished, .command .drop)
  | .chunkData 1 => (.body .chunkEnd, .data)
  | .chunkData (left + 2) => (.body (.chunkData (left + 1)), .data)
  | .chunkEnd =>
      if byte = lineFeed then (.body (.chunkSize []), .nothing) else (.body .chunkEnd, .nothing)
  | .trailer line =>
      if byte ≠ lineFeed then (.body (.trailer (byte :: line)), .nothing)
      else if (lineText line).isEmpty then (.finished, .command .close)
      else (.body (.trailer []), .nothing)

/-- Reads one byte. -/
def push (r : AnswerReader) (byte : UInt8) : AnswerReader × Found :=
  match r with
  | .status line =>
      if byte ≠ lineFeed then (.status (byte :: line), .nothing)
      else
        match status? (lineText line) with
        | some code => (.header [] code .untilClose, .nothing)
        | none => (.finished, .command .drop)
  | .header line code framing =>
      if byte ≠ lineFeed then (.header (byte :: line) code framing, .nothing)
      else if (lineText line).isEmpty then endHead code framing
      else (.header [] code (framingAfter framing (lineText line)), .nothing)
  | .body framing => pushBody framing byte
  | .finished => (.finished, .nothing)

/-- Bytes of the body as a command, if there are any. The last byte is given first. -/
def dataCommand : List UInt8 → List Command
  | [] => []
  | data => [.send data.reverse]

/-- Reads bytes, after bytes of the body that are not given out yet. -/
def feedAfter (data : List UInt8) (r : AnswerReader) : List UInt8 → AnswerReader × List Command
  | [] => (r, dataCommand data)
  | byte :: bytes =>
      match r.push byte with
      | (next, .nothing) => feedAfter data next bytes
      | (next, .data) => feedAfter (byte :: data) next bytes
      | (next, .command c) =>
          let (last, later) := feedAfter [] next bytes
          (last, dataCommand data ++ c :: later)

/-- Ends a body of which nothing is left. -/
def endBody : AnswerReader → AnswerReader × List Command
  | .body (.length 0) => (.finished, [.close])
  | r => (r, [])

/-- Reads bytes: what the server did. -/
def feed (r : AnswerReader) (bytes : List UInt8) : AnswerReader × List Command :=
  let (read, commands) := feedAfter [] r bytes
  let (last, ending) := read.endBody
  (last, commands ++ ending)

/-- What the end of the connection means. -/
def close : AnswerReader → List Command
  | .body .untilClose => [.close]
  | .status _ | .header _ _ _ | .body _ => [.drop]
  | .finished => []

end AnswerReader

end StreamLoad
