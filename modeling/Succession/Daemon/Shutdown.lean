import Succession.Lifecycle.Coordinator
import Succession.Listener.Pool

/-!
# Graceful ends

What a daemon does when it is told to end. A server closes its listeners, so that clients go
elsewhere, and waits for the connections that are still in flight.

* `ShutdownCallback`       what a host registers;
* `Pool.closeAndDrain`     how long a server's end takes.
-/

namespace Succession

inductive ShutdownCallback where
  /-- writes its line, if it has one, and goes on as told -/
  | plain (line : Option String) (course : Course)
  /-- closes every registered listener and waits up to a limit for the connections in flight -/
  | drain (limit : Duration)
deriving DecidableEq, Repr

/-- a second of grace -/
def ShutdownCallback.default : ShutdownCallback := .plain none (.after 1000)

/-- every registered listener is closed at once, and the end comes when the last connection has
gone or the limit is reached -/
def Pool.closeAndDrain (p : Pool) (limit : Duration) (departures : List Departure) :
    Course × Pool :=
  (.after (p.closeAll.drain limit.timerMillis departures).took, p.closeAll)

end Succession
