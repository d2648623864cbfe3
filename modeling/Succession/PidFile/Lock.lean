import Succession.Program
import Succession.Text.Blank
import Succession.Text.Numeral

/-!
# The PID file's lock

Whoever holds the exclusive lock of the PID file is the running instance. The content only tells
which process that is, so a file that a dead process left behind means nothing.

* `PidLock.acquire`   opens or makes the file, locks it and records the own process number;
* `PidLock.release`;
* `checkStatus`       looks whether somebody holds the lock, and changes nothing;
* `LockError`         why the lock was not taken.
-/

namespace Succession

inductive LockError where
  /-- another description holds the lock; the number is zero if the content tells none -/
  | alreadyLocked (pid : Nat)
  | openFile (path : Path) (source : IoError)
  | lock (path : Path) (source : IoError)
  | write (path : Path) (source : IoError)
deriving DecidableEq, Repr

namespace LockError

def message : LockError → String
  | alreadyLocked pid => "already running (pid " ++ toString pid ++ ")"
  | openFile path source =>
    "failed to open PID file " ++ path.display ++ ": " ++ source.message
  | lock path source => "failed to lock PID file " ++ path.display ++ ": " ++ source.message
  | write path source => "failed to write PID file " ++ path.display ++ ": " ++ source.message

def cause? : LockError → Option IoError
  | alreadyLocked _ => none
  | openFile _ source | lock _ source | write _ source => some source

end LockError

/-! ## the recorded process number -/

/-- the process number that a PID file's content tells, zero if it tells none -/
def recordedPid (content : Bytes) : Nat :=
  match Bytes.text? content with
  | none => 0
  | some text => (Numeral.parse? Numeral.max32 (Blank.trim text.toList)).getD 0

def newline : Bytes := [0x0A]

def pidDigits (pid : Nat) : Bytes := Bytes.ofText (String.ofList (Numeral.render pid))

/-- what the holder of the lock records -/
def pidRecord (pid : Nat) : Bytes := pidDigits pid ++ newline

open Program in
/-- reads the number from the start of the file, zero if the content cannot be read -/
def readPid (h : Handle) : Program Nat := do
  match ← request (.rewind h) with
  | .error _ => return 0
  | .ok () => match ← request (.readAll h) with
    | .error _ => return 0
    | .ok content => return recordedPid content

open Program in
/-- replaces the content by the number and a newline, written one after the other -/
def writePid (h : Handle) (pid : Nat) : Program (Except IoError Unit) := do
  match ← request (.truncate h) with
  | .error e => return .error e
  | .ok () => match ← request (.rewind h) with
    | .error e => return .error e
    | .ok () => match ← request (.write h (pidDigits pid)) with
      | .error e => return .error e
      | .ok () => match ← request (.write h newline) with
        | .error e => return .error e
        | .ok () => request (.sync h)

/-! ## taking and giving up the lock -/

/-- an exclusive hold on a PID file -/
structure PidLock where
  path : Path
  handle : Handle
deriving DecidableEq, Repr

namespace PidLock

open Program in
/-- takes the lock without waiting; whatever fails, the description is closed and holds nothing -/
def acquire (path : Path) : Program (Except LockError PidLock) := do
  match ← request (.openFile path .recording) with
  | .error source => return .error (.openFile path source)
  | .ok h => match ← request (.lock h) with
    | .error source =>
      if source.isWouldBlock then
        let pid ← readPid h
        request (.close h)
        return .error (.alreadyLocked pid)
      else
        request (.close h)
        return .error (.lock path source)
    | .ok () =>
      let pid ← request .processId
      match ← writePid h pid with
      | .error source =>
        request (.close h)
        return .error (.write path source)
      | .ok () => return .ok ⟨path, h⟩

open Program in
def release (lock : PidLock) : Program Unit := do
  request (.unlock lock.handle)
  request (.close lock.handle)

end PidLock

/-! ## probing -/

/-- what a probe of a PID file says -/
structure Status where
  running : Bool
  /-- zero if it is not known -/
  pid : Nat
deriving DecidableEq, Repr

namespace Status

def stopped : Status := ⟨false, 0⟩

def render (s : Status) : String :=
  if ¬ s.running then "not running"
  else if s.pid = 0 then "running (pid unknown)"
  else "running (pid " ++ toString s.pid ++ ")"

end Status

open Program in
/-- nobody runs if the file is missing or its lock can be had; a lock that the probe got goes with
its description -/
def checkStatus (path : Path) : Program (Except IoError Status) := do
  match ← request (.openFile path .reading) with
  | .error e => return if e.isNotFound then .ok .stopped else .error e
  | .ok h => match ← request (.lock h) with
    | .ok () =>
      request (.close h)
      return .ok .stopped
    | .error e =>
      if e.isWouldBlock then
        let pid ← readPid h
        request (.close h)
        return .ok ⟨true, pid⟩
      else
        request (.close h)
        return .error e

end Succession
