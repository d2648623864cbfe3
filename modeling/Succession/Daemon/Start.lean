import Succession.Daemon.Reload

/-!
# Becoming a daemon

* `Failure`              every way in which the life of a daemon may fail;
* `Daemon.makeDaemon`    brings a process into its final form: it takes over from a predecessor or
                         runs a stage of the start sequence, and ends up with the PID lock.
-/

namespace Succession

inductive Failure where
  | lock (error : LockError)
  | listener (error : ListenerError)
  | spawn (error : SpawnError)
  | reload (error : ReloadError)
  | control (error : ControlError)
  | io (error : IoError)
deriving DecidableEq, Repr

namespace Failure

/-- a failure shows as the error it wraps -/
def message : Failure → String
  | lock e => e.message
  | listener e => e.message
  | spawn e => e.message
  | reload e => e.message
  | control e => e.message
  | io e => e.message

def cause? : Failure → Option IoError
  | lock e => e.cause?
  | listener e => e.cause?
  | spawn e => some e.source
  | reload e => e.cause?
  | control e => e.cause?
  | io _ => none

end Failure

/-- what has become of a process that was to become a daemon -/
inductive Started where
  /-- this process is done, with an exit code -/
  | exit (code : Nat)
  /-- this is the daemon; a detached one has its standard streams -/
  | ready (stdio : Option StdioPipes)
deriving DecidableEq, Repr

namespace Daemon

/-- takes the PID lock; the process is a daemon once it has it -/
def finishStart (d : Daemon) (pidFile : Path) (stdio : Option StdioPipes) :
    Program (Except Failure Started × Daemon) := do
  match ← d.lockPidFile pidFile with
  | (.error e, d) => return (.error (.lock e), d)
  | (.ok (), d) => return (.ok (.ready stdio), d)

/-- in a reload successor -/
def startFromReload (d : Daemon) (pidFile : Path) : Program (Except Failure Started × Daemon) := do
  match ← d.takeOver with
  | (.error e, d) => return (.error (.reload e), d)
  | (.ok stdio, d) => d.finishStart pidFile stdio

/-- a fresh start goes on only if nobody runs -/
def refuseIfRunning (d : Daemon) (pidFile : Path) : Program (Except Failure Unit) := do
  if (← d.stage) = .parent then
    match ← Succession.checkStatus pidFile with
    | .error e => return .error (.io e)
    | .ok status =>
      return if status.running then .error (.lock (.alreadyLocked status.pid)) else .ok ()
  else return .ok ()

/-- a stage of the start sequence; what went wrong behind the redirected streams ends the process -/
def startFromStage (d : Daemon) (pidFile : Path) : Program (Except Failure Started × Daemon) := do
  match ← d.refuseIfRunning pidFile with
  | .error e => return (.error e, d)
  | .ok () => match ← d.spawn with
    | (.ok (.handoff _), d) => return (.ok (.exit 0), d)
    | (.ok (.ready terminal), d) => d.finishStart pidFile terminal.stdio
    | (.error e, d) => return if e.isFatal then (.ok (.exit 1), d) else (.error (.spawn e), d)

/-- the path of the PID file is made full first, because both ways lead through another directory -/
def makeDaemon (d : Daemon) : Program (Except Failure Started × Daemon) := do
  match ← d.pidFile with
  | .error e => return (.error (.io e), d)
  | .ok pidFile => if d.isReload then d.startFromReload pidFile else d.startFromStage pidFile

end Daemon
end Succession
