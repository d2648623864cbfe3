import Succession.Descriptor.Table
import Succession.FileSystem.Names
import Succession.FileSystem.Programs
import Succession.Handoff.Variables
import Succession.Shell.Script
import Succession.Shell.Text

/-!
# A child process

What a launched program can see and change: the file system, its descriptors, its variables and its
working directory. A shell is a child too, which runs one command after another.

* `Child`, `Flow`;
* `Child.write`, `Child.readAll`, `Child.readLine`, `Child.openFile`;
* `Child.say`, `Child.complain`     lines on standard output and error;
* `Child.protest`, `Child.abort`    complaints under its own name;
* `Child.capture`, `Child.feed`     a step whose output is caught, or whose input is given;
* `Child.apart`                     a step of a copy of the child.
-/

namespace Succession.Shell

/-- how a shell goes on behind a command -/
inductive Flow where
  | running
  /-- so many loops are left, or gone on with where `again` -/
  | leaving (loops : Nat) (again : Bool)
  /-- a function is left -/
  | returning
  | exited
  /-- a signal has ended it -/
  | killed (signal : Nat)
deriving DecidableEq, Repr

structure Child where
  fs : FileSystem
  workDir : Path
  pid : Nat
  parent : Nat
  umask : Nat
  /-- variables of the environment and of the script -/
  parameters : Environment
  /-- the names of the variables that programs are given -/
  exported : List String
  /-- the names of the variables that stay as they are -/
  fixed : List String
  functions : List (String × Command)
  /-- what the variables of a function that runs were before; nothing outside of functions -/
  saved : Option (List (String × Option String))
  /-- the name under which it runs -/
  name : String
  arguments : List String
  table : DescriptorTable Handle
  /-- the exit status of the last command -/
  status : Nat
  /-- the exit status of the last script whose output was caught -/
  caught : Option Nat
  /-- the line of a script that is run -/
  line : Option Nat
  /-- the text that is being matched -/
  subject : Option String
  /-- the status that was left to what is run at the end -/
  ending : Option Nat
  /-- the loops around the command that is run -/
  loops : Nat
  /-- the command of a script that complains -/
  speaker : String
  flow : Flow
  /-- the letters of the options that are on -/
  options : List Char
  /-- scripts that are run on signals, and at the end where the number is zero -/
  traps : List (Nat × String)
  /-- signals whose scripts are to be run -/
  pending : List Nat
  /-- what has been run in the background: process numbers and exit statuses -/
  jobs : List (Nat × Nat)

namespace Child

def finish (c : Child) (status : Nat) : Child := { c with status }

def exit (c : Child) (status : Nat) : Child := { c with status, flow := .exited }

def isRunning (c : Child) : Bool := c.flow = .running

/-- a command that fails ends the script -/
def failsFast (c : Child) : Bool := c.options.contains 'e'

/-- a variable that is unset ends the script -/
def demandsValues (c : Child) : Bool := c.options.contains 'u'

/-- the status as others see it -/
def outcome (c : Child) : Nat :=
  match c.flow with
  | .killed signal => 128 + signal
  | _ => c.status

def set (c : Child) (name value : String) : Child :=
  { c with parameters := c.parameters.set name value }

def unset (c : Child) (name : String) : Child :=
  { c with parameters := c.parameters.erase name
           exported := c.exported.filter (· ≠ name) }

def share (c : Child) (name : String) : Child :=
  { c with exported := if c.exported.contains name then c.exported else c.exported ++ [name] }

def restore (c : Child) (name : String) : Option String → Child
  | some value => c.set name value
  | none => c.unset name

def environment (c : Child) : Environment :=
  ⟨c.parameters.entries.filter fun e => c.exported.contains e.1⟩

/-! ## files -/

def handle? (c : Child) (descriptor : Nat) : Option Handle :=
  (c.table.get? descriptor).map (·.refersTo)

def withFs {α : Type} (c : Child) (answer : α × FileSystem) : α × Child :=
  (answer.1, { c with fs := answer.2 })

def write (c : Child) (descriptor : Nat) (data : Bytes) : Except IoError Unit × Child :=
  match c.handle? descriptor with
  | none => (.error (.os .badDescriptor), c)
  | some h => c.withFs (c.fs.write h data)

def readAll (c : Child) (descriptor : Nat) : Except IoError Bytes × Child :=
  match c.handle? descriptor with
  | none => (.error (.os .badDescriptor), c)
  | some h => c.withFs (c.fs.readAll h)

/-- a line without its end, and whether it has one; what is behind it is left to be read -/
def readLine (c : Child) (descriptor : Nat) : (Bytes × Bool) × Child :=
  match (c.handle? descriptor).bind fun h => (c.fs.description? h).map (h, ·) with
  | none => (([], false), c)
  | some (h, d) => match c.readAll descriptor with
    | (.error _, c) => (([], false), c)
    | (.ok data, c) =>
      let line := data.takeWhile (· ≠ 0x0A)
      let taken := min data.length (line.length + 1)
      ((line, line.length < data.length),
        { c with fs := c.fs.setPosition h d (d.position + taken) })

/-- the directory of the descriptors that are open -/
def descriptorDirectory? (c : Child) : Option NodeId :=
  match c.fs.lookup c.workDir (Path.ofText "/proc/self/fd") .target with
  | .ok (.node id) => some id
  | _ => none

/-- the system shows the descriptors that are open -/
def showDescriptors (c : Child) : Child :=
  match c.descriptorDirectory?.map fun id => (id, c.fs.node? id) with
  | some (id, some (.directory _ parent)) =>
    let entries : List (Bytes × NodeId) := c.table.filterMap fun (n, opening) =>
      (c.fs.description? opening.refersTo).map fun d => (Bytes.ofText (toString n), d.node)
    { c with fs := c.fs.setNode id (.directory entries parent) }
  | _ => c

/-- a node has a name, other than as an open descriptor -/
def isNamed (c : Child) (id : NodeId) : Bool :=
  let directory? := c.descriptorDirectory?
  c.fs.nodes.zipIdx.any fun (node, number) => match node with
    | .directory entries _ => directory? ≠ some number && entries.any (·.2 = id)
    | _ => false

/-- opens a file, and empties it if it has to be; what has no name is opened as it is -/
def openFile (c : Child) (path : String) (mode : OpenMode) (emptied : Bool) :
    Except IoError Handle × Child :=
  let c := c.showDescriptors
  let shared? := match c.fs.lookup c.workDir (toPath path) .target with
    | .ok (.node id) =>
      if c.isNamed id then none
      else (c.table.map (·.2.refersTo)).find? fun h => (c.fs.description? h).any (·.node = id)
    | _ => none
  match shared? with
  | some h => (.ok h, c)
  | none => match c.withFs (c.fs.openFile c.workDir (toPath path) mode) with
    | (.error e, c) => (.error e, c)
    | (.ok h, c) => (.ok h, if emptied then { c with fs := (c.fs.truncate h).2 } else c)

def readFile (c : Child) (path : String) : Except IoError Bytes × Child :=
  match c.openFile path .reading false with
  | (.error e, c) => (.error e, c)
  | (.ok h, c) => c.withFs (c.fs.readAll h)

def nodeAt (c : Child) (path : String) : Option Node :=
  match c.fs.lookup c.workDir (toPath path) .target with
  | .ok (.node id) => c.fs.node? id
  | _ => none

/-! ## standard streams -/

/-- a line on standard error, and the status that it leaves -/
def complain (c : Child) (status : Nat) (line : String) : Child :=
  (c.write 2 (toBytes (line ++ "\n"))).2.finish status

/-- who complains: a program, or a shell on one of its lines -/
def voice (c : Child) : String :=
  c.name ++ ": " ++ (match c.line with
    | some line => toString line ++ ": "
    | none => "") ++ c.speaker

def protest (c : Child) (status : Nat) (text : String) : Child :=
  c.complain status (c.voice ++ text)

/-- writes to standard output; a status of one tells that it could not be written -/
def print (c : Child) (text : String) : Child :=
  match c.write 1 (toBytes text) with
  | (.ok (), c) => c.finish 0
  | (.error e, c) => c.protest 1 (if c.line.isSome then c.speaker ++ "I/O error"
      else "write error: " ++ (e.errno?.map Errno.text).getD e.message)

def say (c : Child) (line : String) : Child := c.print (line ++ "\n")

/-- a complaint that ends the script -/
def abort (c : Child) (text : String) : Child := (c.protest 2 text).exit 2

/-- a command that complains under its own name -/
def speaking (c : Child) (name : String) (step : Child → Child) : Child :=
  { step { c with speaker := name ++ ": " } with speaker := c.speaker }

/-- sets a variable that may change -/
def assign (c : Child) (name value : String) : Child :=
  if c.fixed.contains name then c.abort (name ++ ": is read only")
  else if c.options.contains 'a' then (c.set name value).share name
  else c.set name value

/-! ## steps with other streams -/

/-- what a step writes to standard output, which stays as it was -/
def capture (c : Child) (step : Child → Child) : Bytes × Child :=
  let (id, fs) := c.fs.addNode (.file [])
  let (h, fs) := fs.describe id .appending
  let after := step { c with fs, table := c.table.put 1 ⟨h, false⟩ }
  let written := match after.fs.node? id with
    | some (.file content) => content
    | _ => []
  (written, { after with table := c.table })

def source (c : Child) (data : Bytes) : Handle × Child :=
  let (id, fs) := c.fs.addNode (.file data)
  c.withFs (fs.describe id .reading)

/-- a step that reads given data from standard input, which stays as it was -/
def feed (c : Child) (data : Bytes) (step : Child → Child) : Child :=
  let (h, c) := c.source data
  { step { c with table := c.table.put 0 ⟨h, false⟩ } with table := c.table }

/-- a step of a copy of the child, of which only what it did to files and its status are seen. The
process number is the child's own, so that a signal for it ends both -/
def apart (c : Child) (step : Child → Child) : Child :=
  let after := step { c with traps := c.traps.filter (·.2 = ""), jobs := [] }
  { c with fs := after.fs, status := after.outcome, flow := match after.flow with
    | .killed _ => after.flow
    | _ => c.flow }

end Child
end Succession.Shell
