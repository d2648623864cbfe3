import Succession.Program

/-!
# Relaying a successor's output

The output of a successor is handed to the host's logger line by line. A line ends at a newline,
with a carriage return before it left out; the last line of a stream need not end. A stream is
relayed up to its first line that is no text, or up to the first line on which the logger panics.

* `Relay.lines`     the lines of a stream;
* `Relay.texts`     those in front of the first that is no text;
* `Relay.relay`     both streams of a successor.
-/

namespace Succession.Relay

def newline : UInt8 := 0x0A
def carriageReturn : UInt8 := 0x0D

/-- a line without the carriage return at its end -/
def chomp (line : Bytes) : Bytes :=
  if line.getLast? = some carriageReturn then line.dropLast else line

/-- the lines of a stream whose current line has begun with `begun`, in reverse order -/
def linesFrom (begun : Bytes) : Bytes → List Bytes
  | [] => if begun = [] then [] else [begun.reverse]
  | b :: rest =>
    if b = newline then chomp begun.reverse :: linesFrom [] rest
    else linesFrom (b :: begun) rest

def lines (stream : Bytes) : List Bytes := linesFrom [] stream

/-- the lines in front of the first that is no text -/
def textsOf : List Bytes → List String
  | [] => []
  | line :: rest => match Bytes.text? line with
    | none => []
    | some text => text :: textsOf rest

def texts (stream : Bytes) : List String := textsOf (lines stream)

open Program in
/-- hands lines to the logger until it panics -/
def pump : List String → Program Unit
  | [] => return ()
  | line :: rest => do
    if ← request (.log line) then pump rest else return ()

/-- both streams to their ends, whatever becomes of either -/
def relay (stdout stderr : Bytes) : Program Unit := do
  pump (texts stdout)
  pump (texts stderr)

/-- a successor's output, if both streams come back and there is a logger -/
def relayOutput (hasLogger : Bool) (launched : Launched) : Program Unit :=
  match launched.stdout, launched.stderr with
  | some stdout, some stderr => if hasLogger then relay stdout stderr else return ()
  | _, _ => return ()

end Succession.Relay
