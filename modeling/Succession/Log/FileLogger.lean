import Succession.Program

/-!
# Lines in a log file

A log file is opened for appending. A line that cannot be written is lost, and nobody is told.
-/

namespace Succession

structure FileLogger where
  path : Path
  handle : Handle
deriving DecidableEq, Repr

namespace FileLogger

open Program in
def openFile (path : Path) : Program (Except IoError FileLogger) := do
  match ← request (.openFile path .appending) with
  | .error e => return .error e
  | .ok h => return .ok ⟨path, h⟩

open Program in
/-- the line and a newline, written one after the other; the newline only behind the line -/
def log (logger : FileLogger) (line : String) : Program Unit := do
  match ← request (.write logger.handle (Bytes.ofText line)) with
  | .error _ => return ()
  | .ok () =>
    let _ ← request (.write logger.handle [0x0A])
    return ()

end FileLogger
end Succession
