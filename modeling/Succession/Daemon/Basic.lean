import Succession.Config.Daemon
import Succession.Daemon.Shutdown
import Succession.Daemon.Spawner
import Succession.PidFile.Control

/-!
# A daemon's state

Everything that one process of a daemon keeps: its configuration and environment, the listeners and
files that outlive it, the PID lock, and where it is in its life.

* `Daemon`, `Daemon.new`;
* `Daemon.pidFile`, `Daemon.checkStatus`, `Daemon.lockPidFile`;
* `Daemon.addFile`, `Daemon.fileNamed?`, `Daemon.fileNames`.
-/

namespace Succession

/-- present only in a successor that a reload started -/
def reloadVariable : String := "MOLT_RELOAD"

/-- the number of sockets behind the inherited files -/
def listenersVariable : String := "MOLT_LISTENERS"

structure Daemon where
  config : DaemonConfig
  env : Environment
  hasLogger : Bool
  pool : Pool
  files : List ExtraFile
  pidLock : Option PidLock
  hooks : Hooks
  shutdown : ShutdownCallback
  state : LifecycleState
  /-- the graceful end has begun: whoever accepts connections is to stop -/
  cancelled : Bool
deriving Repr

namespace Daemon

def new (config : DaemonConfig) (env : Environment) (hasLogger : Bool) : Daemon :=
  ⟨config, env, hasLogger, .empty, [], none, [], .default, .init, false⟩

instance : Inhabited Daemon := ⟨new .default .empty false⟩

def spawner (d : Daemon) : Spawner := ⟨d.env, d.hasLogger, d.config.daemonize, d.config.workDir⟩

/-- the stage of the start sequence that this process is in -/
def stage (d : Daemon) : Program Stage := d.spawner.currentStage

def isReload (d : Daemon) : Bool := (d.env.get? reloadVariable).isSome

/-! ## the PID file -/

open Program in
/-- the full path of the PID file: a relative one is read from the working directory of now -/
def pidFile (d : Daemon) : Program (Except IoError Path) := do
  if d.config.pidFile.isAbsolute then return .ok d.config.pidFile
  else match ← request .workDir with
    | .error e => return .error e
    | .ok workDir => return .ok (workDir.join d.config.pidFile)

/-- whether somebody holds the configured PID file -/
def checkStatus (d : Daemon) : Program (Except IoError Status) := do
  match ← d.pidFile with
  | .error e => return .error e
  | .ok path => Succession.checkStatus path

/-- gives up the lock, if the daemon holds it -/
def unlockPidFile (d : Daemon) : Program Daemon := do
  match d.pidLock with
  | none => return d
  | some lock =>
    lock.release
    return { d with pidLock := none }

/-- takes the lock of the PID file and keeps it, in the place of the one that was kept before -/
def lockPidFile (d : Daemon) (path : Path) : Program (Except LockError Unit × Daemon) := do
  match ← PidLock.acquire path with
  | .error e => return (.error e, d)
  | .ok lock => return (.ok (), { ← d.unlockPidFile with pidLock := some lock })

/-! ## files -/

def addFile (d : Daemon) (file : ExtraFile) : Daemon := { d with files := d.files ++ [file] }

def fileNamed? (d : Daemon) (name : Path) : Option ExtraFile := d.files.find? (·.name.same name)

open Program in
/-- a fresh descriptor for the kept file of this name -/
def cloneFile (d : Daemon) (name : Path) : Program (Except IoError (Option Resource)) := do
  match d.fileNamed? name with
  | none => return .ok none
  | some file => match ← request (.duplicate file.resource) with
    | .error e => return .error e
    | .ok resource => return .ok (some resource)

def fileNames (d : Daemon) : List Path := d.files.map (·.name)

/-! ## the start sequence -/

/-- duplicates of files, under the same names and numbers -/
def keepAll : List ExtraFile → Program (Except IoError (List ExtraFile))
  | [] => return .ok []
  | file :: rest => do
    match ← Program.request (.duplicate file.resource) with
    | .error e => return .error e
    | .ok resource => match ← keepAll rest with
      | .error e => return .error e
      | .ok files => return .ok ({ file with resource } :: files)

/-- runs one stage. The registered files are handed over to it; the final process keeps the ones
that it inherited -/
def spawn (d : Daemon) : Program (Except SpawnError SpawnOutcome × Daemon) := do
  let (outcome, env) ← d.spawner.spawn d.files
  let d := { d with env, files := [] }
  match outcome with
  | .error e => return (.error e, d)
  | .ok (.handoff pid) => return (.ok (.handoff pid), d)
  | .ok (.ready terminal) => match ← keepAll terminal.files with
    | .error source => return (.error (.terminal d.spawner.terminalStage source), d)
    | .ok kept => return (.ok (.ready terminal), { d with files := kept })

end Daemon
end Succession
