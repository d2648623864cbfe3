import Succession.Machine.Initial
import Succession.PidFile.Control

/-!
# PID locks over time

A process that holds PID locks by name, beside others that hold the locks of files.
-/

namespace Succession

structure PidSession where
  host : Host
  locks : List (String × PidLock)
  holds : List (String × Handle)

namespace PidSession

def run {α : Type} (s : PidSession) (p : Program α) : α × PidSession :=
  let (a, host) := s.host.run p
  (a, { s with host })

/-- gives a lock up, if there is one by this name -/
def release (s : PidSession) (name : String) : PidSession :=
  match s.locks.lookup name with
  | none => s
  | some lock =>
    { (s.run lock.release).2 with locks := s.locks.filter fun l => l.1 ≠ name }

/-- takes a lock; the one that had its name is given up once it is taken -/
def acquire (s : PidSession) (name : String) (path : Path) :
    Except LockError PidLock × PidSession :=
  match s.run (PidLock.acquire path) with
  | (.error e, s) => (.error e, s)
  | (.ok lock, s) =>
    let s := s.release name
    (.ok lock, { s with locks := (name, lock) :: s.locks })

def hold (s : PidSession) (name : String) (path : Path) : PidSession :=
  match s.host.kernel.hold s.host.process.workDir path with
  | none => s
  | some (h, kernel) => { s with host := { s.host with kernel }, holds := (name, h) :: s.holds }

def unhold (s : PidSession) (name : String) : PidSession :=
  match s.holds.lookup name with
  | none => s
  | some h => { s with host := { s.host with kernel := s.host.kernel.unhold h } }

end PidSession
end Succession
