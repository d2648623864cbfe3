import Mathlib.Logic.Function.Basic
import Mathlib.Logic.Relation
import Succession.Daemon.Start
import Succession.Proofs.FileSystem.Spares

/-!
# Processes around one PID file

Any number of processes of one machine, each with a daemon of its own, work on the PID file at one
path. A step is one question of one process, so the questions come in any order; a process may end
between any two of them. Everything else on the machine goes on as well, but leaves the file where it
is, and writes and locks it only while nobody has the lock.

* `Work`, `Work.program`      what a process may do with the PID file;
* `Member`, `Member.lock?`    a process, and the PID lock that it has;
* `Fleet.Step path s s'`      one step;
* `Fleet.Reaches path s s'`   any number of them.
-/

namespace Succession

open FileSystem

inductive Work where
  /-- a fresh start, or one stage of it, or the start of a reload successor -/
  | start
  /-- hands over to a successor -/
  | reload
  /-- looks at the configured PID file -/
  | status
  /-- an operator looks at the PID file -/
  | probe
  /-- an operator signals the running instance -/
  | command (signal : Signal)

inductive Result where
  | started (r : Except Failure Started)
  | reloaded (r : Except ReloadError Nat)
  | probed (r : Except IoError Status)
  | commanded (r : Except ControlError Nat)

/-- a process that has started another one instead ends -/
def Result.Exits : Result → Prop
  | started (.ok (.exit _)) => True
  | _ => False

def Work.Configured : Work → Prop
  | start | status => True
  | _ => False

def Work.program (path : Path) (d : Daemon) : Work → Program (Result × Daemon)
  | start => do
    let (r, d) ← d.makeDaemon
    return (.started r, d)
  | reload => do
    let (r, d) ← d.reload
    return (.reloaded r, d)
  | status => do return (.probed (← d.checkStatus), d)
  | probe => do return (.probed (← checkStatus path), d)
  | command signal => do return (.commanded (← Control.send ⟨path⟩ signal), d)

structure Member where
  process : Process
  /-- as the last finished program left it -/
  daemon : Daemon
  running : Option (Program (Result × Daemon))
  /-- the lock that it had when the running program began, until it is given up -/
  lock : Option PidLock
  /-- its open descriptions -/
  opened : List Handle

namespace Member

def new (process : Process) (daemon : Daemon) : Member := ⟨process, daemon, none, none, []⟩

/-- the PID lock that the process has: from the moment on at which the program that took it is done
-/
def lock? (m : Member) : Option PidLock :=
  match m.running with
  | some (.done (_, d)) => d.pidLock
  | _ => m.lock

def openedBy (opened : List Handle) : (q : Request) → q.Reply → List Handle
  | .openFile .., .ok h => h :: opened
  | .close h, _ => opened.filter (· ≠ h)
  | _, _ => opened

/-- a lock is given up when its description gives it up -/
def lockAfter (lock : Option PidLock) : Request → Option PidLock
  | .unlock h => lock.filter (·.handle ≠ h)
  | _ => lock

def answered (m : Member) (q : Request) (next : q.Reply → Program (Result × Daemon)) (r : q.Reply)
    (process : Process) : Member :=
  { m with
    process
    running := some (next r)
    lock := lockAfter m.lock q
    opened := openedBy m.opened q r }

def finished (m : Member) (d : Daemon) : Member :=
  { m with daemon := d, running := none, lock := d.pidLock }

end Member

structure Fleet where
  kernel : Kernel
  members : Nat → Option Member

namespace Fleet

def set (s : Fleet) (kernel : Kernel) (i : Nat) (member : Option Member) : Fleet :=
  ⟨kernel, Function.update s.members i member⟩

def openedOf (s : Fleet) (i : Nat) : List Handle := ((s.members i).map (·.opened)).getD []

def Opened (s : Fleet) (h : Handle) : Prop := ∃ i, h ∈ s.openedOf i

def closeAll (fs : FileSystem) (opened : List Handle) : FileSystem := opened.foldl close fs

inductive Step (path : Path) (s : Fleet) : Fleet → Prop where
  /-- a process begins with a fresh daemon -/
  | join (i : Nat) (process : Process) (config : DaemonConfig) (env : Environment)
      (hasLogger : Bool) (hfree : s.members i = none) :
      Step path s (s.set s.kernel i (some (.new process (.new config env hasLogger))))
  /-- a process does something that has nothing to do with the PID file -/
  | adjust {i : Nat} {m : Member} (process : Process) (d : Daemon) (hm : s.members i = some m)
      (hidle : m.running = none) (hpid : process.pid = m.process.pid)
      (hlock : d.pidLock = m.daemon.pidLock) :
      Step path s (s.set s.kernel i (some { m with process, daemon := d }))
  | begin {i : Nat} {m : Member} (work : Work) (hm : s.members i = some m)
      (hidle : m.running = none)
      (hpath : work.Configured → m.process.workDir.join m.daemon.config.pidFile = path) :
      Step path s (s.set s.kernel i (some { m with running := some (work.program path m.daemon) }))
  /-- the system answers one question -/
  | call {i : Nat} {m : Member} {q : Request} {next : q.Reply → Program (Result × Daemon)}
      (hm : s.members i = some m) (hrun : m.running = some (.ask q next)) {r : q.Reply}
      {host : Host} (h0 : Host.handle q ⟨s.kernel, m.process⟩ = (r, host)) :
      Step path s (s.set host.kernel i (some (m.answered q next r host.process)))
  | finish {i : Nat} {m : Member} {result : Result} {d : Daemon} (hm : s.members i = some m)
      (hrun : m.running = some (.done (result, d))) (hstays : ¬ result.Exits) :
      Step path s (s.set s.kernel i (some (m.finished d)))
  /-- a process ends: the system closes what it has open -/
  | exit {i : Nat} {m : Member} (hm : s.members i = some m) :
      Step path s (s.set { s.kernel with fs := closeAll s.kernel.fs m.opened } i none)
  /-- other processes go on -/
  | elsewhere (kernel : Kernel) (h : Spares s.Opened path s.kernel.fs kernel.fs) :
      Step path s { s with kernel }

abbrev Reaches (path : Path) : Fleet → Fleet → Prop := Relation.ReflTransGen (Step path)

end Fleet
end Succession
