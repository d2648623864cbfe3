import Succession.Drain.Traffic
import Succession.Listener.Accept
import Succession.Listener.Label

/-!
# A pool over time

A pool whose listeners, connections and guards have names. Listeners share a socket where one was
made on a duplicate of another's.

* `PoolSession.add`, `PoolSession.addSame`;
* `PoolSession.accept`, `PoolSession.finish`    an accept that is left waiting, and its result;
* `PoolSession.guard`, `PoolSession.unguard`    a connection in flight comes and goes.
-/

namespace Succession

structure PoolSession where
  pool : Pool
  /-- all listeners ever made, oldest first -/
  labels : List (String × ListenerId)
  guards : List (String × ListenerId)
  accepts : List (String × ListenerId × AcceptPhase)
deriving Repr

namespace PoolSession

def empty : PoolSession := ⟨.empty, [], [], []⟩

instance : Inhabited PoolSession := ⟨empty⟩

def listener? (s : PoolSession) (label : String) : Option ListenerId := s.labels.lookup label

def labelOf (s : PoolSession) (id : ListenerId) : String :=
  ((s.labels.find? fun l => l.2 = id).map (·.1)).getD ""

def withPool (s : PoolSession) (pool : Pool) : PoolSession := { s with pool }

def register (s : PoolSession) (label : String) (socket : Socket) : String × PoolSession :=
  let (id, pool) := s.pool.add socket
  (socket.address, { s with pool, labels := s.labels ++ [(label, id)] })

/-- a listener on a socket of its own; the answer is its address -/
def add (s : PoolSession) (label : String) : String × PoolSession :=
  s.register label ⟨s.labels.length, labelAddress label⟩

def addSame (s : PoolSession) (label twin : String) : Option (String × PoolSession) := do
  let id ← s.listener? twin
  let l ← s.pool.listener? id
  return s.register label l.socket

def settle (s : PoolSession) : PoolSession :=
  { s with accepts := s.accepts.map fun (conn, id, phase) =>
      (conn, id, acceptUnreached (s.pool.isClosed id) phase) }

def accept (s : PoolSession) (conn : String) (id : ListenerId) : PoolSession :=
  { s with accepts := (conn, id, .starting) :: s.accepts.filter fun a => a.1 ≠ conn }

/-- the error of a waiting accept, or nothing if it is still waiting; it is given up either way -/
def finish (s : PoolSession) (conn : String) : Option (Option ListenerError × PoolSession) := do
  let (id, phase) ← s.accepts.lookup conn
  let error := if phase = .refused then some (.closed ((s.pool.address id).getD "")) else none
  return (error, { s with accepts := s.accepts.filter fun a => a.1 ≠ conn })

def traffic (s : PoolSession) : Traffic := ⟨s.pool.trackers, s.guards⟩

def withTraffic (s : PoolSession) (t : Traffic) : PoolSession :=
  { s with pool := { s.pool with trackers := t.trackers.settle }, guards := t.guards }

def guard (s : PoolSession) (name : String) (id : ListenerId) : PoolSession :=
  s.withTraffic (s.traffic.enter name id)

def unguard (s : PoolSession) (name : String) : PoolSession := s.withTraffic (s.traffic.leave name)

def after (s : PoolSession) (returned : WaitOutcome × Traffic) : WaitOutcome × PoolSession :=
  (returned.1, s.withTraffic returned.2)

def drain (s : PoolSession) (limit : Nat) (drops : List Drop) : WaitOutcome × PoolSession :=
  s.after (s.traffic.drain s.pool.snapshot limit drops)

def wait (s : PoolSession) (ids : List ListenerId) (limit : Option Nat) (drops : List Drop) :
    WaitOutcome × PoolSession :=
  s.after (s.traffic.wait ids limit drops)

end PoolSession
end Succession
