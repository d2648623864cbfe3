import Succession.PidFile.Lock

/-!
# Commands to a running instance

An operator names an instance by its PID file. `Control.stop` and `Control.reload` signal the
process that the file names while somebody holds its lock.
-/

namespace Succession

inductive ControlError where
  | notRunning (path : Path)
  | status (path : Path) (source : IoError)
  | signal (pid : Nat) (source : IoError)
deriving DecidableEq, Repr

namespace ControlError

def message : ControlError → String
  | notRunning path => "no running instance holds " ++ path.display
  | status path source => "failed to read status from " ++ path.display ++ ": " ++ source.message
  | signal pid source => "failed to signal pid " ++ toString pid ++ ": " ++ source.message

def cause? : ControlError → Option IoError
  | notRunning _ => none
  | status _ source | signal _ source => some source

end ControlError

def maxPid : Nat := 2147483647

open Program in
/-- signals a process, unless its number is none that the system has -/
def sendSignal (pid : Nat) (signal : Signal) : Program (Except IoError Unit) :=
  if maxPid < pid then return .error (.refused "pid out of range")
  else request (.kill pid signal)

structure Control where
  pidFile : Path

namespace Control

def status (c : Control) : Program (Except ControlError Status) := do
  match ← checkStatus c.pidFile with
  | .error source => return .error (.status c.pidFile source)
  | .ok status => return .ok status

/-- signals the running instance; the answer is the number of the signalled process -/
def send (c : Control) (signal : Signal) : Program (Except ControlError Nat) := do
  match ← c.status with
  | .error e => return .error e
  | .ok status =>
    if ¬ status.running then return .error (.notRunning c.pidFile)
    else match ← sendSignal status.pid signal with
      | .error source => return .error (.signal status.pid source)
      | .ok () => return .ok status.pid

def stop (c : Control) : Program (Except ControlError Nat) := c.send .terminate

/-- asks the instance to hand over to a fresh copy of itself -/
def reload (c : Control) : Program (Except ControlError Nat) := c.send .reload

end Control
end Succession
