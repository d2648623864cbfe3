import Succession.FileSystem.Names
import Succession.Program

/-!
# A host for one process

A model of what answers a process's questions: the kernel that all processes share, and what the
kernel knows of this one. Every question may be made to fail.

* `Kernel`, `Process`, `Host`;
* `Faults`          the questions that fail from now on;
* `HostEvent`       what a host does on a process's behalf, recorded in order;
* `Host.handle`     the answer to every question.
-/

namespace Succession

/-- what becomes of a line that is handed to a host's logger -/
inductive LoggerKind where
  | absent
  | collecting
  | panicking
deriving DecidableEq, Repr

inductive HostEvent where
  | launch (pid : Nat) (plan : LaunchPlan)
  | workDir (path : Path)
  | clearUmask
  | stdioHandles
  | signal (signal : Signal) (pid : Nat)
deriving DecidableEq, Repr

/-- the questions to the host that fail, and how -/
structure Faults where
  executable : Option Errno
  launch : Option Errno
  adopt : Option Errno
  workDir : Option Errno
  stdio : Option Errno
  signal : Option Errno
deriving DecidableEq, Repr

def Faults.none : Faults := ⟨.none, .none, .none, .none, .none, .none⟩

/-- what all processes share -/
structure Kernel where
  fs : FileSystem
  /-- nanoseconds since the epoch -/
  now : Int
  nextPid : Nat
  /-- locking fails with this -/
  lockFault : Option Errno
  /-- killing fails with this -/
  killFault : Option Errno
  /-- every kill call so far -/
  kills : List (Nat × Signal)
  /-- what the standard streams of a daemon refer to -/
  stdout : Handle
  stderr : Handle
deriving Repr

structure Process where
  pid : Nat
  parent : Nat
  executable : Path
  arguments : List Bytes
  workDir : Path
  /-- entering the working directory moves the process there; else it is only recorded -/
  moves : Bool
  /-- inherited descriptors that have not been taken over yet -/
  inherited : List (Descriptor × Resource)
  faults : Faults
  logger : LoggerKind
  /-- all that the next successor writes to its standard output and error, if it is piped back -/
  output : Option Bytes × Option Bytes
  /-- what happened, oldest first -/
  events : List HostEvent
  /-- the lines of the log, newest first -/
  written : List String
  /-- successors that were launched and have not begun, oldest first -/
  launches : List (Nat × LaunchPlan)
deriving Repr

namespace Process

def record (p : Process) (event : HostEvent) : Process := { p with events := p.events ++ [event] }

/-- the permissions that files lack when the process makes them: the usual ones until it clears
them -/
def umask (p : Process) : Nat := if p.events.contains .clearUmask then 0 else 0o22

def write (p : Process) (line : String) : Process := { p with written := line :: p.written }

/-- the lines of the log, oldest first -/
def lines (p : Process) : List String := p.written.reverse

end Process

structure Host where
  kernel : Kernel
  process : Process
deriving Repr

/-- a host whose process moves into the working directories that it enters -/
def Host.moving (host : Host) : Host :=
  { host with process := { host.process with moves := true } }

/-- process numbers wrap around behind the greatest -/
def nextPidAfter (pid : Nat) : Nat := (pid + 1) % 4294967296

namespace Host

/-- an answer that is an error while a fault is set -/
def faulty {α : Type} (fault : Option Errno) (host : Host) (answer : Except IoError α × Host) :
    Except IoError α × Host :=
  match fault with
  | some errno => (.error (.os errno), host)
  | none => answer

def withFs (host : Host) (fs : FileSystem) : Host := { host with kernel := { host.kernel with fs } }

def record (host : Host) (event : HostEvent) : Host :=
  { host with process := host.process.record event }

def onFs {α : Type} (host : Host) (answer : α × FileSystem) : α × Host :=
  (answer.1, host.withFs answer.2)

def launch (host : Host) (plan : LaunchPlan) : Launched × Host :=
  let pid := host.kernel.nextPid
  let process := host.process.record (.launch pid plan)
  (⟨pid, process.output.1, process.output.2⟩,
    { kernel := { host.kernel with nextPid := nextPidAfter pid }
      process := { process with launches := process.launches ++ [(pid, plan)] } })

/-- an inherited descriptor is handed out once -/
def adopt (host : Host) (descriptor : Descriptor) : Except IoError Resource × Host :=
  match host.process.inherited.lookup descriptor with
  | none => (.error (.os .badDescriptor), host)
  | some resource =>
    (.ok resource, { host with process := { host.process with
      inherited := host.process.inherited.filter fun e => e.1 ≠ descriptor } })

def enterWorkDir (host : Host) (path : Path) : Except IoError Unit × Host :=
  if host.process.moves then
    match host.kernel.fs.enter host.process.workDir path with
    | .error e => (.error e, host)
    | .ok workDir =>
      (.ok (), { host with process := { host.process.record (.workDir path) with workDir } })
  else (.ok (), host.record (.workDir path))

def log (host : Host) (line : String) : Bool × Host :=
  match host.process.logger with
  | .absent => (true, host)
  | .collecting => (true, { host with process := host.process.write line })
  | .panicking => (false, host)

def handle : Handler Host
  | .openFile path mode, host =>
    host.onFs (host.kernel.fs.openFile host.process.workDir path mode)
  | .lock h, host =>
    faulty host.kernel.lockFault host (host.onFs (host.kernel.fs.lock h))
  | .unlock h, host => ((), host.withFs (host.kernel.fs.unlock h))
  | .truncate h, host => host.onFs (host.kernel.fs.truncate h)
  | .rewind h, host => host.onFs (host.kernel.fs.rewind h)
  | .readAll h, host => host.onFs (host.kernel.fs.readAll h)
  | .write h data, host => host.onFs (host.kernel.fs.write h data)
  | .sync _, host => (.ok (), host)
  | .close h, host => ((), host.withFs (host.kernel.fs.close h))
  | .duplicate resource, host => (.ok resource, host)
  | .processId, host => (host.process.pid, host)
  | .workDir, host => (.ok host.process.workDir, host)
  | .now, host => (host.kernel.now, host)
  | .kill pid signal, host =>
    let kernel := { host.kernel with kills := host.kernel.kills ++ [(pid, signal)] }
    let host := { host with kernel }
    faulty kernel.killFault host (.ok (), host)
  | .executable, host =>
    faulty host.process.faults.executable host (.ok host.process.executable, host)
  | .arguments, host => (host.process.arguments, host)
  | .launch plan, host =>
    faulty host.process.faults.launch host (.ok (host.launch plan).1, (host.launch plan).2)
  | .adopt descriptor, host => faulty host.process.faults.adopt host (host.adopt descriptor)
  | .enterWorkDir path, host => faulty host.process.faults.workDir host (host.enterWorkDir path)
  | .clearUmask, host => ((), host.record .clearUmask)
  | .stdioHandles, host =>
    faulty host.process.faults.stdio host
      (.ok ⟨.file host.kernel.stdout, .file host.kernel.stderr⟩, host.record .stdioHandles)
  | .parentId, host => (host.process.parent, host)
  | .signal pid signal, host =>
    faulty host.process.faults.signal host (.ok (), host.record (.signal signal pid))
  | .log line, host => host.log line

/-- the answer of a program, and the host behind it -/
def run {α : Type} (host : Host) (p : Program α) : α × Host := p.run handle host

end Host
end Succession
