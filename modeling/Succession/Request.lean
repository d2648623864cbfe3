import Succession.IoError
import Succession.Path
import Succession.Signal
import Succession.Handoff.Slot

/-!
# What a process asks of its system

A process of the library computes by itself and asks the system for everything else. Each question
is a `Request`, and `Request.Reply` is the type of its answers; whether the system refuses is part
of the answer. `Program` puts questions into order.

* `Handle`, `Socket`, `Resource`   what an open descriptor refers to;
* `LaunchPlan`, `Launched`         how a successor is started, and what is known of it then;
* `Request`, `Request.Reply`.
-/

namespace Succession

/-- an open file description: every duplicate of a descriptor shares it -/
abbrev Handle := Nat

/-- a listening socket with an internet address; duplicates of a descriptor are the same socket -/
structure Socket where
  id : Nat
  /-- the bound address in display form -/
  address : String
deriving DecidableEq, Repr

/-- what a descriptor refers to -/
inductive Resource where
  | file (handle : Handle)
  | socket (socket : Socket)
  /-- a socket without an internet address, such as one that is bound to a path -/
  | localSocket (id : Nat)
deriving DecidableEq, Repr

structure OpenMode where
  write : Bool
  append : Bool
  create : Bool
deriving DecidableEq, Repr

namespace OpenMode

/-- to look at what is there -/
def reading : OpenMode := ⟨false, false, false⟩
/-- to read and replace the content, the file being made if it is missing -/
def recording : OpenMode := ⟨true, false, true⟩
/-- to write behind the end, the file being made if it is missing -/
def appending : OpenMode := ⟨true, true, true⟩

end OpenMode

/-- where a standard stream of a successor comes from -/
inductive StdioSource where
  | inherit
  | null
  | piped
deriving DecidableEq, Repr

/-- everything that the start of a successor needs -/
structure LaunchPlan where
  executable : Path
  arguments : List Bytes
  /-- changes on top of the starting process's environment; `none` removes the variable -/
  env : List (String × Option String)
  stdin : StdioSource
  stdout : StdioSource
  stderr : StdioSource
  /-- placed at descriptors three, four, … in order -/
  descriptors : List Resource
  /-- the successor leads a session of its own -/
  newSession : Bool
deriving DecidableEq, Repr

/-- a successor that runs; a stream is all that it ever writes there, if it is piped back -/
structure Launched where
  pid : Nat
  stdout : Option Bytes
  stderr : Option Bytes
deriving DecidableEq, Repr

/-- fresh handles on a process's own standard output and error -/
structure StdioPipes where
  stdout : Resource
  stderr : Resource
deriving DecidableEq, Repr

inductive Request where
  | openFile (path : Path) (mode : OpenMode)
  /-- take the exclusive lock of the file, without waiting for it -/
  | lock (handle : Handle)
  | unlock (handle : Handle)
  | truncate (handle : Handle)
  | rewind (handle : Handle)
  /-- read from the position to the end, in one step: nobody writes in between -/
  | readAll (handle : Handle)
  | write (handle : Handle) (data : Bytes)
  /-- wait until what was written is on the medium -/
  | sync (handle : Handle)
  | close (handle : Handle)
  /-- another descriptor for the same thing -/
  | duplicate (resource : Resource)
  | processId
  | workDir
  /-- nanoseconds since the epoch -/
  | now
  /-- the kill call with a process number that fits it -/
  | kill (pid : Nat) (signal : Signal)
  /-- the file that this process runs -/
  | executable
  /-- the arguments behind the program's name -/
  | arguments
  | launch (plan : LaunchPlan)
  /-- take over the descriptor that was inherited at this number -/
  | adopt (descriptor : Descriptor)
  | enterWorkDir (path : Path)
  | clearUmask
  | stdioHandles
  | parentId
  /-- deliver a signal to a process -/
  | signal (pid : Nat) (signal : Signal)
  /-- hand a line to the host's logger -/
  | log (line : String)
deriving DecidableEq, Repr

namespace Request

abbrev Reply : Request → Type
  | openFile .. => Except IoError Handle
  | lock _ => Except IoError Unit
  | unlock _ => Unit
  | truncate _ => Except IoError Unit
  | rewind _ => Except IoError Unit
  | readAll _ => Except IoError Bytes
  | write .. => Except IoError Unit
  | sync _ => Except IoError Unit
  | close _ => Unit
  | duplicate _ => Except IoError Resource
  | processId => Nat
  | workDir => Except IoError Path
  | now => Int
  | kill .. => Except IoError Unit
  | executable => Except IoError Path
  | arguments => List Bytes
  | launch _ => Except IoError Launched
  | adopt _ => Except IoError Resource
  | enterWorkDir _ => Except IoError Unit
  | clearUmask => Unit
  | stdioHandles => Except IoError StdioPipes
  | parentId => Nat
  | signal .. => Except IoError Unit
  -- whether the logger came back
  | log _ => Bool

end Request
end Succession
