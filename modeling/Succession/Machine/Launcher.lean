import Succession.Machine.Initial
import Succession.Shell.Run

/-!
# Launching programs

A process that launches the programs of its machine and waits for each of them. A program inherits
the environment with changes, and finds the descriptors that it was given behind its standard
streams. The programs are those of `Succession.Shell`, which the library does not contain itself,
and `/proc` is as much as they look at of it; no proof depends on either.

* `Launcher.launch`      a program runs to its end;
* `Launcher.adopt`       takes over an inherited descriptor;
-/

namespace Succession

structure Launcher where
  host : Host
  table : DescriptorTable Handle
  env : Environment

/-- what is known of a program that has ended; a stream is what came back through its pipe -/
structure Ended where
  /-- nothing if a signal ended it -/
  exit : Option Nat
  stdout : Option Bytes
  stderr : Option Bytes
deriving DecidableEq, Repr

namespace Launcher

def descriptorEntry (fs : FileSystem) (directory : Path) (n : Nat) (h : Handle) : FileSystem :=
  match fs.description? h, fs.lookup directory directory .target with
  | some d, .ok (.node id) => fs.addEntry id (Bytes.ofText (toString n)) d.node
  | _, _ => fs

/-- what the system tells about a process: the sixth field is the leader of its session -/
def showProcess (fs : FileSystem) (pid parent session : Nat) (table : DescriptorTable Handle) :
    FileSystem :=
  let directory := Path.ofText ("/proc/" ++ toString pid)
  let descriptors := directory.join (Path.ofText "fd")
  let this := Path.ofText "/proc/self"
  let fs := (fs.remove directory this).makeLink directory this directory
  let fs := (fs.makeDirectory directory directory).makeDirectory directory descriptors
  let fs := fs.put directory (directory.join (Path.ofText "stat")) (Bytes.ofText
    (" ".intercalate [toString pid, "(sh)", "S", toString parent, toString session,
      toString session, "0", "-1"] ++ "\n"))
  let fs := fs.put directory (directory.join (Path.ofText "comm")) (Bytes.ofText "sh\n")
  table.foldl (fun fs e => descriptorEntry fs descriptors e.1 e.2.refersTo) fs

/-- a process that can launch every program of its machine -/
def initial (host : Host) : Launcher :=
  let fs := Shell.Utility.names.foldl (fun fs name =>
    fs.makeProgram host.process.workDir (Path.ofText ("/usr/bin/" ++ name)) name) host.kernel.fs
  let fs := [("/dev/fd", "/proc/self/fd"), ("/dev/stdin", "/proc/self/fd/0"),
    ("/dev/stdout", "/proc/self/fd/1"), ("/dev/stderr", "/proc/self/fd/2")].foldl (fun fs link =>
      fs.makeLink host.process.workDir (Path.ofText link.1) (Path.ofText link.2)) fs
  let kernel := { host.kernel with fs }
  ⟨{ host with kernel }, [(0, ⟨kernel.stdout, false⟩), (1, ⟨kernel.stdout, false⟩),
    (2, ⟨kernel.stderr, false⟩)], .ofList [("PATH", "/usr/local/bin:/usr/bin:/bin")]⟩

def withFs (l : Launcher) (fs : FileSystem) : Launcher := { l with host := l.host.withFs fs }

def openFile (l : Launcher) (path : Path) (mode : OpenMode) : Except IoError Handle × Launcher :=
  let (r, fs) := l.host.kernel.fs.openFile l.host.process.workDir path mode
  (r, l.withFs fs)

/-- opens a file at the lowest free descriptor behind the standard streams -/
def openDescriptor (l : Launcher) (path : Path) (closeOnExec : Bool) :
    Except IoError Nat × Launcher :=
  match l.openFile path .appending with
  | (.error e, l) => (.error e, l)
  | (.ok h, l) =>
    let (n, table) := l.table.openFrom firstExtra.toNat ⟨h, closeOnExec⟩
    (.ok n, { l with table })

def openDescriptors (l : Launcher) : List Path → Except IoError (List Nat) × Launcher
  | [] => (.ok [], l)
  | path :: rest => match l.openDescriptor path true with
    | (.error e, l) => (.error e, l)
    | (.ok n, l) => match l.openDescriptors rest with
      | (.error e, l) => (.error e, l)
      | (.ok ns, l) => (.ok (n :: ns), l)

def stream (fs : FileSystem) (inherited : Handle) : StdioSource → Handle × FileSystem
  | .inherit => (inherited, fs)
  | .null => fs.openDevice (Path.ofText "/dev/null")
  | .piped =>
    let (id, fs) := fs.addNode (.file [])
    fs.describe id .appending

/-- what was written to a stream, if it comes back -/
def written (fs : FileSystem) (h : Handle) : StdioSource → Option Bytes
  | .inherit | .null => none
  | .piped => match (fs.description? h).bind fun d => fs.node? d.node with
    | some (.file content) => some content
    | _ => some []

/-- the bytes that a program is given for a variable -/
def assignment (e : String × String) : Bytes :=
  Bytes.ofText e.1 ++ 0x3D :: Bytes.ofText e.2

/-- a program is given no zero byte -/
def holdsZero (plan : LaunchPlan) (env : Environment) : Bool :=
  (plan.executable.bytes :: plan.arguments ++ env.entries.map assignment).any (·.contains 0)

/-- so many bytes take a string that a program is given, and all of them together -/
def maxString : Nat := 131072
def maxStrings : Nat := 2097152

/-- more than a program can be given: behind each string is a zero byte, and an address leads to
it -/
def isTooMuch (plan : LaunchPlan) (env : Environment) : Bool :=
  let lengths := (plan.executable.bytes :: plan.arguments ++ env.entries.map assignment).map
    fun b => b.length + 1
  lengths.any (maxString < ·) ||
    maxStrings < lengths.foldl (fun total length => total + length + 8) 0

/-- the variables that a shell finds: a name ends at the first equals sign -/
def shellVariables (env : Environment) : Environment :=
  .ofList ((env.entries.map assignment).mergeSort Bytes.le |>.map fun b =>
    (Shell.ofBytes (b.takeWhile (· ≠ 0x3D)), Shell.ofBytes ((b.dropWhile (· ≠ 0x3D)).drop 1)))

/-- the process number and the session of a new process, and what it runs -/
def child (l : Launcher) (plan : LaunchPlan) (fs : FileSystem) (table : DescriptorTable Handle) :
    Shell.Child :=
  let pid := l.host.kernel.nextPid
  let parent := l.host.process.pid
  let parameters := shellVariables (l.env.override plan.env)
  { fs := showProcess fs pid parent (if plan.newSession then pid else parent) table
    workDir := l.host.process.workDir
    pid, parent, table
    umask := l.host.process.umask
    parameters
    exported := parameters.entries.map fun e => e.1
    name := Shell.ofBytes plan.executable.bytes
    arguments := plan.arguments.map Shell.ofBytes
    flow := .running
    fixed := [], functions := [], saved := none, status := 0, caught := none, line := none
    loops := 0, speaker := "", subject := none, options := [], traps := [], pending := []
    jobs := [], ending := none }

/-- the program of a plan: a name is searched for in the program's own environment. A script that
names no interpreter is none -/
def runnable (l : Launcher) (plan : LaunchPlan) (env : Environment) : Except IoError Runnable := do
  let fs := l.host.kernel.fs
  let workDir := l.host.process.workDir
  let search := (env.get? "PATH").map Bytes.ofText
  match ← (fs.findProgram workDir search plan.executable).bind (fs.withInterpreter workDir) with
  | .script content =>
    if (Runnable.interpreter? content).isNone then throw (.os .noExecFormat)
    else return .script content
  | program => return program

/-- a program runs to its end with the descriptors `extra` behind its standard streams -/
def launch (l : Launcher) (plan : LaunchPlan) (extra : List Nat) :
    Except IoError Ended × Launcher :=
  let env := l.env.override plan.env
  if holdsZero plan env then (.error (.refused "nul byte found in provided data"), l)
  else match l.runnable plan env with
    | .error e => (.error e, l)
    | .ok program =>
      if isTooMuch plan env then (.error (.os .tooManyArguments), l)
      else match l.table.handOver extra with
      | none => (.error (.os .badDescriptor), l)
      | some table =>
        let kernel := l.host.kernel
        let (stdin, fs) := stream kernel.fs kernel.stdout plan.stdin
        let (stdout, fs) := stream fs kernel.stdout plan.stdout
        let (stderr, fs) := stream fs kernel.stderr plan.stderr
        let table := ((table.put 0 ⟨stdin, false⟩).put 1 ⟨stdout, false⟩).put 2 ⟨stderr, false⟩
        let c := (l.child plan fs table).run program (plan.arguments.map Shell.ofBytes)
        let l := l.withFs (c.fs.remove l.host.process.workDir
          (Path.ofText ("/proc/" ++ toString c.pid)))
        let exit := match c.flow with
          | .killed _ => none
          | _ => some (c.status % 256)
        (.ok ⟨exit, written c.fs stdout plan.stdout, written c.fs stderr plan.stderr⟩,
          { l with host := { l.host with kernel :=
            { l.host.kernel with nextPid := nextPidAfter c.pid } } })

/-- the program's descriptors are files that are opened for it, and closed when it has ended -/
def launchWith (l : Launcher) (plan : LaunchPlan) (paths : List Path) :
    Except IoError Ended × Launcher :=
  match l.openDescriptors paths with
  | (.error e, opened) => (.error e, { opened with table := l.table })
  | (.ok extra, opened) =>
    let (r, after) := opened.launch plan extra
    (r, { after with table := l.table })

def adopt (l : Launcher) (n : Descriptor) : Except IoError Handle × Launcher :=
  match l.table.adopt n with
  | none => (.error (.os .badDescriptor), l)
  | some (h, table) => (.ok h, { l with table })

/-- takes over an open descriptor of a file and writes through it; the answer is whether the next
program would find it closed, and the file's content -/
def adoptFile (l : Launcher) (path : Path) (data : Bytes) :
    Except IoError (Bool × Option Bytes) × Launcher :=
  match l.openDescriptor path false with
  | (.error e, l) => (.error e, l)
  | (.ok n, opened) => match opened.adopt n with
    | (.error e, opened) => (.error e, opened)
    | (.ok h, opened) =>
      let fs := (opened.host.kernel.fs.write h data).2
      (.ok (((opened.table.get? n).map (·.closeOnExec)).getD true,
        fs.content? opened.host.process.workDir path), { opened.withFs fs with table := l.table })

/-- whether what the host says about its process is so, and whether new handles on its standard
streams are new descriptors -/
def knowsItself (l : Launcher) : List (String × Bool) :=
  let told (q : Request) : q.Reply := (l.host.run (Program.request q)).1
  let (copy, _) := l.table.openFrom 0 ⟨l.host.kernel.stdout, true⟩
  [("args", told .arguments = l.host.process.arguments),
    ("exe", (told .executable).toOption = some l.host.process.executable),
    ("parent", told .parentId = l.host.process.parent),
    ("fresh_handles", (l.table.get? copy).isNone)]

/-- moves into a directory; the answer is its full name -/
def enterWorkDir (l : Launcher) (path : Path) : Except IoError Path × Launcher :=
  match l.host.moving.run (Program.request (.enterWorkDir path)) with
  | (.error e, host) => (.error e, { l with host })
  | (.ok (), host) => (.ok host.process.workDir, { l with host })

end Launcher
end Succession
