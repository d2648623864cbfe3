import Succession.Daemon.Start
import Succession.Lifecycle.Executor
import Succession.Listener.Label
import Succession.Machine.Initial

/-!
# Many processes on one machine

Processes by label, each with the daemon that runs in it, on a kernel and a virtual clock that they
share. An operation runs a daemon's program from start to end and leaves the process behind it.

* `World`, `World.run`              a program of one process;
* `World.launchOf?`, `World.begin`  processes begin, afresh or as the successor of another;
* `Machine.begin`, `Machine.drop`   the same where a process may have to end first;
* `World.target`                    what a coordinator drives in one process;
* `Machine.signal`, `Machine.advance`   signals and time.
-/

namespace Succession

/-- a process and the daemon in it -/
structure Instance where
  /-- how many began before it: what waits in a process never finds the next one of its label -/
  age : Nat
  process : Process
  daemon : Daemon
  /-- a coordinator that is given its signals one by one -/
  direct : Option Coordinator
deriving Repr

structure World where
  kernel : Kernel
  /-- the directory in which processes begin -/
  home : Path
  instances : List (String × Instance)
  /-- how many processes have begun -/
  begun : Nat
  /-- open things by name -/
  resources : List (String × Resource)
  /-- the locks of others by name -/
  holds : List (String × Handle)
  /-- the exit code of the first process that ended by itself -/
  exited : Option Nat
deriving Repr

namespace World

def initial (home : Path) (now : Int) (nextPid : Nat) : World :=
  let kernel := Kernel.initial home now nextPid
  ⟨kernel, home, [], 0, [(fileName "stdout", .file kernel.stdout),
    (fileName "stderr", .file kernel.stderr)], [], none⟩

/-! ## operators and others -/

/-- an operator changes files, whose paths begin in the world's directory -/
def edit (w : World) (f : FileSystem → Path → FileSystem) : World :=
  { w with kernel := w.kernel.edit fun fs => f fs w.home }

/-- another process writes a file and takes its lock -/
def hold (w : World) (name : String) (path : Path) (data : Bytes) : World :=
  let w := w.edit (·.put · path data)
  match w.kernel.hold w.home path with
  | none => w
  | some (h, kernel) => { w with kernel, holds := (name, h) :: w.holds }

def unhold (w : World) (name : String) : World :=
  match w.holds.lookup name with
  | none => w
  | some h => { w with kernel := w.kernel.unhold h }

def shiftClock (w : World) (span : Int) : World :=
  { w with kernel := { w.kernel with now := w.kernel.now + span } }

/-! ## processes -/

def instance? (w : World) (label : String) : Option Instance := w.instances.lookup label

/-- the label of the process of an age, as long as it is there -/
def labelOf? (w : World) (age : Nat) : Option String :=
  (w.instances.find? fun e => e.2.age = age).map (·.1)

def setInstance (w : World) (label : String) (i : Instance) : World :=
  { w with instances := (label, i) :: w.instances.filter fun e => e.1 ≠ label }

def modify (w : World) (label : String) (f : Instance → Instance) : World :=
  match w.instance? label with
  | none => w
  | some i => w.setInstance label (f i)

def modifyDaemon (w : World) (label : String) (f : Daemon → Daemon) : World :=
  w.modify label fun i => { i with daemon := f i.daemon }

/-- what is done to the process of an age, as long as it is there -/
def atAge (w : World) (age : Nat) (f : String → World) : World := ((w.labelOf? age).map f).getD w

def modifyProcess (w : World) (label : String) (f : Process → Process) : World :=
  w.modify label fun i => { i with process := f i.process }

/-- runs a program of one process that changes its daemon -/
def run {α : Type} (w : World) (label : String) (i : Instance)
    (program : Daemon → Program (α × Daemon)) : α × World :=
  let ((a, daemon), host) := (⟨w.kernel, i.process⟩ : Host).run (program i.daemon)
  (a, { w with kernel := host.kernel }.setInstance label { i with process := host.process, daemon })

/-- runs a program of one process that leaves its daemon alone -/
def query {α : Type} (w : World) (label : String) (i : Instance)
    (program : Daemon → Program α) : α × World :=
  w.run label i fun d => do return (← program d, d)

def remove (w : World) (label : String) : World :=
  { w with instances := w.instances.filter fun e => e.1 ≠ label }

def closeLock (w : World) (d : Daemon) : World :=
  match d.pidLock with
  | some lock => { w with kernel := w.kernel.edit (·.close lock.handle) }
  | none => w

/-- what the most recent successor that has not begun starts from -/
structure Birth where
  pid : Nat
  parent : Nat
  env : Environment
  inherited : List (Descriptor × Resource)

def numberFrom (index : Descriptor) : List Resource → List (Descriptor × Resource)
  | [] => []
  | r :: rest => (index, r) :: numberFrom (index + 1) rest

/-- what the process of a launch starts from: its launcher's environment with the plan's changes,
and the plan's descriptors -/
def birth (parent : Nat) (env : Environment) (pid : Nat) (plan : LaunchPlan) : Birth :=
  ⟨pid, parent, env.override plan.env, numberFrom firstExtra plan.descriptors⟩

/-- what else a process begins with -/
structure Image where
  executable : Path
  arguments : List Bytes
  logger : LoggerKind
  faults : Faults
  config : DaemonConfig

/-- a process begins under a label that nobody has -/
def begin (w : World) (label : String) (birth : Birth) (image : Image) : World :=
  let process : Process :=
    { Process.initial birth.pid birth.parent image.executable image.arguments w.home with
      logger := image.logger, inherited := birth.inherited, faults := image.faults }
  { w with begun := w.begun + 1 }.setInstance label
    ⟨w.begun, process, .new image.config birth.env (image.logger ≠ LoggerKind.absent), none⟩

/-- takes the most recent launch of a process that has not begun -/
def launchOf? (w : World) (label : String) : Option (Birth × World) := do
  let i ← w.instance? label
  let (pid, plan) ← i.process.launches.getLast?
  return (birth i.process.pid i.daemon.env pid plan,
    w.modifyProcess label fun p => { p with launches := p.launches.dropLast })

/-! ## named things -/

def nameOf (w : World) (r : Resource) : String :=
  match w.resources.find? fun e => e.2 = r with
  | some (name, _) => name
  | none => ""

def name (w : World) (name : String) (r : Resource) : World :=
  { w with resources := w.resources ++ [(name, r)] }

def fileNode? (w : World) (r : Resource) : Option NodeId :=
  match r with
  | .socket _ | .localSocket _ => none
  | .file h => do
    let d ← w.kernel.fs.description? h
    match ← w.kernel.fs.node? d.node with
    | .file _ => some d.node
    | _ => none

/-- names a file that was opened at a path; a file that has a name keeps it -/
def nameFile (w : World) (path : Path) (r : Resource) : World :=
  let known := w.resources.find? fun e => (w.fileNode? r).isSome && w.fileNode? e.2 = w.fileNode? r
  w.name ((known.map (·.1)).getD (fileName path.display)) r

/-- a file opened for appending under a name, the same for the same name -/
def fileNamed (w : World) (name : String) : Resource × World :=
  match w.resources.lookup name with
  | some r => (r, w)
  | none =>
    let (id, fs) := w.kernel.fs.addNode (.file [])
    let (h, fs) := fs.describe id .appending
    (.file h, { w with kernel := { w.kernel with fs } }.name name (.file h))

/-- a bound socket under a name, the same for the same name -/
def socketNamed (w : World) (name address : String) : Resource × World :=
  match w.resources.lookup name with
  | some r => (r, w)
  | none =>
    let socket : Socket := ⟨w.resources.length, address⟩
    (.socket socket, w.name name (.socket socket))

/-- the thing of a name, which says whether it is a socket -/
def resourceNamed (w : World) (name : String) : Resource × World :=
  match listenerLabel? name with
  | some label => w.socketNamed name (labelAddress label)
  | none => w.fileNamed name

def listenerNamed (w : World) (label : String) : Resource × World :=
  w.socketNamed (listenerName label) (labelAddress label)

def knowsListener (w : World) (label : String) : Bool :=
  (w.resources.lookup (listenerName label)).isSome

def descriptors (w : World) :
    List (Descriptor × String) → List (Descriptor × Resource) × World
  | [] => ([], w)
  | (descriptor, name) :: rest =>
    let (r, w) := w.resourceNamed name
    let (more, w) := w.descriptors rest
    ((descriptor, r) :: more, w)

/-- writes through an open thing; only files take it -/
def append (w : World) (r : Resource) (data : Bytes) : World :=
  match r with
  | .file h => { w with kernel := { w.kernel with fs := (w.kernel.fs.write h data).2 } }
  | .socket _ | .localSocket _ => w

/-- the content behind an open thing, if it is a file -/
def contentOf (w : World) (r : Resource) : Option Bytes :=
  match r with
  | .socket _ | .localSocket _ => none
  | .file h => do
    let d ← w.kernel.fs.description? h
    match ← w.kernel.fs.node? d.node with
    | .file content => some content
    | _ => none

/-! ## news -/

/-- what happened so far is old news -/
def settleNews (w : World) : World :=
  { w with instances := w.instances.map fun (label, i) =>
      (label, { i with process := { i.process with events := [], written := [] } }) }

/-! ## what a coordinator drives -/

def reloadInstance (w : World) (label : String) : Bool × World :=
  match w.instance? label with
  | none => (false, w)
  | some i =>
    let (result, w) := w.run label i Daemon.reload
    (result.isOk, w)

/-- a graceful end begins; the connections that are in flight stay there -/
def beginShutdown (w : World) (label : String) : Course × World :=
  match w.instance? label with
  | none => (.never, w)
  | some i =>
    let w := w.modifyDaemon label fun d => { d with cancelled := true }
    match i.daemon.shutdown with
    | .plain none course => (course, w)
    | .plain (some line) course => (course, w.modifyProcess label (·.write line))
    | .drain limit =>
      let (course, pool) := i.daemon.pool.closeAndDrain limit []
      (course, w.modifyDaemon label fun d => { d with pool })

def logLine (w : World) (label line : String) : World :=
  w.modifyProcess label fun p => match p.logger with
    | .collecting => p.write line
    | .absent | .panicking => p

/-- the process of an age; what it does once it is gone leaves no trace but its exit -/
def target (age : Nat) : Target World where
  state w := (((w.labelOf? age).bind w.instance?).map (·.daemon.state)).getD .init
  setState state w := w.atAge age fun label => w.modifyDaemon label fun d => { d with state }
  hooks w := (((w.labelOf? age).bind w.instance?).map (·.daemon.hooks)).getD []
  runHook h signal w :=
    w.atAge age fun label => w.modifyProcess label (·.write (h.line signal))
  reload w := ((w.labelOf? age).map w.reloadInstance).getD (false, w)
  shutdown w := ((w.labelOf? age).map w.beginShutdown).getD (.never, w)
  exit code w := { w with exited := w.exited.or (some code) }
  log line w := w.atAge age fun label => w.logLine label line
  ended w := w.exited.isSome

end World

/-- the processes of a machine, and the tasks that wait in them; these belong to the process of an
age, so that a label that is given again does not hand them on -/
abbrev Machine := Running Nat World

namespace Machine

def ended (w : World) : Bool := w.exited.isSome

def settle (m : Machine) : Machine := Executor.settle World.target ended m

/-- `millis` milliseconds of the virtual clock go by -/
def advance (m : Machine) (millis : Nat) : Machine :=
  Executor.advance World.target ended millis m

/-- a process ends. Its lock goes with it, unless a forced end still waits for its deadline, which
keeps open what the process had open -/
def drop (m : Machine) (label : String) : Machine :=
  match m.1.instance? label with
  | none => m
  | some i =>
    let w := m.1.remove label
    (if m.2.isArmed i.age then w else w.closeLock i.daemon, m.2)

/-- a process begins under a label; whoever had the label ends -/
def begin (m : Machine) (label : String) (birth : World.Birth) (image : World.Image) : Machine :=
  let m := m.drop label
  (m.1.begin label birth image, m.2)

/-- gives a process a coordinator that is handed its signals one by one -/
def coordinateDirectly (m : Machine) (label : String) (i : Instance) : Machine :=
  (m.1.setInstance label
    { i with direct := some ⟨i.daemon.config.hammerTimeout, 0⟩ }, m.2)

/-- gives a process a coordinator that takes signals out of a queue; the process runs from now on -/
def coordinateDetached (m : Machine) (label : String) (i : Instance) : Machine :=
  (m.1.setInstance label { i with daemon := { i.daemon with state := .running } },
    m.2.setQueue i.age ⟨⟨i.daemon.config.hammerTimeout, 0⟩, [], true⟩)

/-- how a signal reached a coordinator -/
inductive Delivery where
  /-- it was handled; so many forced ends have been armed -/
  | handled (armed : Nat)
  | queued (accepted : Bool)
deriving DecidableEq, Repr

/-- a signal for one process: handled by its direct coordinator, or else put into its queue -/
def signal (m : Machine) (label : String) (i : Instance) (signal : Signal) :
    Option (Delivery × Machine) :=
  match i.direct with
  | some c =>
    let (_, h) := c.dispatch (World.target i.age) signal m.1
    let w := h.target.modify label fun i => { i with direct := some h.coordinator }
    some (.handled h.coordinator.armed,
      settle (w, m.2.spawn i.age c.hammerTimeout h.aftermath))
  | none => match m.2.queue? i.age with
    | none => none
    | some _ =>
      let (accepted, e) := m.2.send i.age signal
      some (.queued accepted, settle (m.1, e))

end Machine
end Succession
