import Succession.Daemon.Shutdown
import Succession.Lifecycle.Executor

/-!
# The end of a server

A server with connections in flight, as its coordinator sees it. The connections go at times of
their own, and the server ends when they have gone, when it has waited long enough, or when it is
forced to.

* `Service`, `Service.target`;
* `Service.begin`        the server and the tasks that act on it;
* `Service.dispatch`, `Service.advance`   signals and time.
-/

namespace Succession

structure Service where
  state : LifecycleState
  pool : Pool
  drainTimeout : Duration
  /-- when connections go, in milliseconds from the beginning of the graceful end -/
  departures : List Departure
  cancelled : Bool
  /-- the number of successors that were asked for -/
  reloads : Nat
  /-- the exits so far; the process is gone with the first -/
  exits : List Nat
deriving Repr

namespace Service

/-- the graceful end: nobody is accepted any more, and the connections are waited for -/
def shutdown (s : Service) : Course × Service :=
  let (course, pool) := s.pool.closeAndDrain s.drainTimeout s.departures
  (course, { s with pool, cancelled := true })

def target : Target Service where
  state s := s.state
  setState state s := { s with state }
  hooks _ := []
  runHook _ _ s := s
  reload s := (true, { s with reloads := s.reloads + 1 })
  shutdown := shutdown
  exit code s := { s with exits := s.exits ++ [code] }
  log _ s := s
  ended _ := false

/-- a running server, the tasks that act on it, and its coordinator -/
structure Run where
  running : Running Unit Service
  coordinator : Coordinator

def Run.service (r : Run) : Service := r.running.1

def begin (pool : Pool) (drainTimeout : Duration) (departures : List Departure)
    (hammerTimeout : Duration) : Run :=
  ⟨(⟨.running, pool, drainTimeout, departures, false, 0, []⟩, .new), ⟨hammerTimeout, 0⟩⟩

namespace Run

/-- a signal is handled, and every task that can run does -/
def dispatch (r : Run) (signal : Signal) : Run :=
  let (_, h) := r.coordinator.dispatch target signal r.running.1
  ⟨Executor.settle (fun _ => target) (fun _ => false)
    (h.target, r.running.2.spawn () r.coordinator.hammerTimeout h.aftermath), h.coordinator⟩

def advance (r : Run) (millis : Nat) : Run :=
  { r with running := Executor.advance (fun _ => target) (fun _ => false) millis r.running }

end Run
end Service
end Succession
