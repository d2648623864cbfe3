import Succession.Listener.Pool

/-!
# Accepting connections

An accept looks whether the listener is closed, and then waits for a client or for the close. Where
both are there when it is polled, either may be taken.

* `AcceptPhase.poll`   one poll of an accept; `coin` decides where two ways are open.
-/

namespace Succession

inductive AcceptPhase where
  /-- not polled yet -/
  | starting
  | waiting
  /-- yielded the connection of a client -/
  | accepted (client : String)
  /-- failed because the listener is closed -/
  | refused
deriving DecidableEq, Repr

/-- what accepts of one listener share -/
structure Doorway where
  closed : Bool
  /-- clients that have connected and are not accepted yet -/
  backlog : List String
  /-- connections in flight -/
  tracker : Tracker
deriving Repr

namespace AcceptPhase

/-- a waiting accept takes the first client of the backlog, or notices that the listener is
closed -/
def pollWaiting (coin : Bool) (d : Doorway) : AcceptPhase × Doorway :=
  match d.backlog with
  | [] => (if d.closed then refused else waiting, d)
  | client :: rest =>
    if d.closed ∧ coin then (refused, d)
    else (accepted client, { d with backlog := rest, tracker := d.tracker.enter })

def poll (coin : Bool) (d : Doorway) : AcceptPhase → AcceptPhase × Doorway
  | starting => if d.closed then (refused, d) else pollWaiting coin d
  | waiting => pollWaiting coin d
  | phase => (phase, d)

end AcceptPhase

/-- the accepts of a listener that no client has reached: they wait until it is closed -/
def acceptUnreached (closed : Bool) (phase : AcceptPhase) : AcceptPhase :=
  (phase.poll false ⟨closed, [], .new⟩).1

end Succession
