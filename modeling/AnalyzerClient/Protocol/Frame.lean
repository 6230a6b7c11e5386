import AnalyzerClient.Json.Draft
import AnalyzerClient.Protocol.Error
import AnalyzerClient.Text.Blank
import AnalyzerClient.Text.Line
import AnalyzerClient.Word

/-!
# Framed messages

A message is sent as a header with the number of octets of its JSON text, an empty line, and the
text. `Frame.read` reads one message from the octets that have arrived; when they are too few it
says whether more are awaited or the stream has ended.
-/

namespace AnalyzerClient.Protocol.Frame

open AnalyzerClient.Text

/-- The name of the header that gives the length. -/
def lengthHeader : String := "Content-Length"

/-- The text of a framed message. -/
def render (message : Json) : String :=
  let content := message.compact
  lengthHeader ++ ": " ++ Numeral.render (Utf8.encode content).length ++ "\r\n\r\n" ++ content

/-- The octets of a framed message. -/
def encode (message : Json) : List UInt8 := Utf8.encode (render message)

/-- What reading a message comes to. -/
inductive Reading where
  /-- A message, and the octets behind it. -/
  | message (value : Json) (rest : List UInt8)
  /-- The stream ended between messages or inside a header. -/
  | finished
  /-- Something is wrong with the stream. -/
  | failed (e : Error)
  /-- More octets are needed. -/
  | waiting
  /-- The length is too great for any memory, and the reader breaks down. -/
  | breakdown (length : Nat)

/-- What a header line gives. -/
inductive Header where
  /-- The end of the headers. -/
  | blank
  | length (n : Nat)
  | badLength (text : String)
  /-- A header that does not matter. -/
  | other
  deriving DecidableEq, Repr

/-- Reads a header line. -/
def Header.ofLine (line : String) : Header :=
  let header := Chars.trim line.toList
  if header.isEmpty then .blank
  else
    match Chars.splitOnce ':' header with
    | none => .other
    | some (name, value) =>
      if eqIgnoringCase (String.ofList name) lengthHeader then
        let value := Chars.trim value
        match Numeral.readWord? value with
        | some n => .length n
        | none => .badLength (String.ofList value)
      else .other

/-- What reading the headers comes to. -/
inductive Headers where
  /-- The last length that was given, if any, and the octets behind the headers. -/
  | length (n : Option Nat) (rest : List UInt8)
  | finished
  | failed (e : Error)
  | waiting

/-- Whether a line of octets is whole. -/
def isWhole (line : List UInt8) : Bool := line.getLast? == some 10

/-- Reads headers; `length` was given before, and `closed` says that no more octets will come. -/
def readHeaders (closed : Bool) (length : Option Nat) (octets : List UInt8) : Headers :=
  match h : Line.next? octets with
  | none => if closed then .finished else .waiting
  | some (line, rest) =>
    have : rest.length < octets.length := Line.length_next? h
    if !closed && !isWhole line then .waiting
    else
      match Utf8.decode line with
      | .error e => .failed (.transport (.badLine e))
      | .ok text =>
        match Header.ofLine text with
        | .blank => .length length rest
        | .length n => readHeaders closed (some n) rest
        | .badLength text => .failed (.protocol (.badLength text))
        | .other => readHeaders closed length rest
  termination_by octets.length

/-- The first length that no memory can hold. -/
def maxLength : Nat := Word.half64

/-- Reads a message; `closed` says that no more octets will come. -/
def read (closed : Bool) (octets : List UInt8) : Reading :=
  match readHeaders closed none octets with
  | .finished => .finished
  | .failed e => .failed e
  | .waiting => .waiting
  | .length none _ => .failed (.protocol .missingLength)
  | .length (some n) rest =>
    if maxLength ≤ n then .breakdown n
    else
      let body := rest.take n
      if body.length < n then if closed then .failed (.transport .earlyEnd) else .waiting
      else
        match Json.ofOctets body with
        | .ok value => .message value (rest.drop n)
        | .error fault => .failed (.json fault)

/-- How a stream of messages ends. -/
inductive Ending where
  | finished
  | failed (e : Error)
  | breakdown (length : Nat)

/-- Reads at most `fuel` messages from a stream that is closed. -/
def readUpTo : (fuel : Nat) → List UInt8 → List Json × Ending
  | 0, _ => ([], .finished)
  | fuel + 1, octets =>
    match read true octets with
    | .message value rest =>
      let (values, ending) := readUpTo fuel rest
      (value :: values, ending)
    | .finished => ([], .finished)
    | .failed e => ([], .failed e)
    | .waiting => ([], .finished)
    | .breakdown n => ([], .breakdown n)

/-- Reads the messages of a closed stream; every one of them takes at least one octet. -/
def readAll (octets : List UInt8) : List Json × Ending := readUpTo (octets.length + 1) octets

end AnalyzerClient.Protocol.Frame
