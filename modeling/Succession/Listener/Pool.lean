import Succession.Drain.Waiting
import Succession.IoError
import Succession.Request

/-!
# The listener pool

The pool owns every listening socket of a daemon. Each registered listener has a slot, and the order
of the slots is the order of the sockets in a successor's descriptor table. Removing a listener
leaves a hole that the next one fills, so the others keep their places.

* `Listener`                         a socket, and whether it is closed;
* `Pool.add`, `Pool.find?`, `Pool.remove`, `Pool.closeAll`, `Pool.snapshot`;
* `Pool.enter`, `Pool.drop`          a connection comes and goes;
* `Pool.drain`, `Pool.waitIdle`      waiting until nothing is in flight.
-/

namespace Succession

inductive ListenerError where
  | notFound (address : String)
  | closed (address : String)
  | io (source : IoError)
deriving DecidableEq, Repr

namespace ListenerError

def message : ListenerError → String
  | notFound address => "no listener bound to " ++ address
  | closed address => "listener " ++ address ++ " is closed"
  | io source => "listener I/O error: " ++ source.message

def cause? : ListenerError → Option IoError
  | io source => some source
  | _ => none

end ListenerError

structure Listener where
  socket : Socket
  closed : Bool
deriving DecidableEq, Repr

/-- listeners are numbered by their age -/
abbrev ListenerId := Nat

structure Pool where
  /-- every listener ever made, also those that have left the pool -/
  listeners : List Listener
  /-- the connections in flight on each listener -/
  trackers : Trackers
  /-- the registered listeners; a hole is a slot that was freed -/
  slots : List (Option ListenerId)
deriving Repr

namespace Pool

def empty : Pool := ⟨[], [], []⟩

instance : Inhabited Pool := ⟨empty⟩

def listener? (p : Pool) (id : ListenerId) : Option Listener := p.listeners[id]?

def address (p : Pool) (id : ListenerId) : Option String := (p.listener? id).map (·.socket.address)

def inFlight (p : Pool) (id : ListenerId) : Nat := p.trackers.active id

def isClosed (p : Pool) (id : ListenerId) : Bool := ((p.listener? id).map (·.closed)).getD false

/-- the registered listeners in the order of their slots -/
def snapshot (p : Pool) : List ListenerId := p.slots.filterMap fun slot => slot

/-- the sockets of the registered listeners in the order of their slots -/
def sockets (p : Pool) : List Socket :=
  p.snapshot.filterMap fun id => (p.listener? id).map (·.socket)

/-! ## registering -/

/-- a value in the first hole, or behind the last slot -/
def fill {α : Type} (a : α) : List (Option α) → List (Option α)
  | [] => [some a]
  | none :: rest => some a :: rest
  | some b :: rest => some b :: fill a rest

/-- a listener on a bound socket, in the first free slot -/
def add (p : Pool) (socket : Socket) : ListenerId × Pool :=
  let id := p.listeners.length
  (id, ⟨p.listeners ++ [⟨socket, false⟩], p.trackers ++ [.new], fill id p.slots⟩)

/-! ## looking up and closing -/

/-- the listener in the lowest slot that is bound to the address -/
def find? (p : Pool) (address : String) : Option ListenerId :=
  p.snapshot.find? fun id => p.address id == some address

def get (p : Pool) (address : String) : Except ListenerError ListenerId :=
  match p.find? address with
  | none => .error (.notFound address)
  | some id => .ok id

/-- stops accepting; the answer is whether the listener was open -/
def closeOne (p : Pool) (id : ListenerId) : Bool × Pool :=
  match p.listener? id with
  | none => (false, p)
  | some l => (¬ l.closed, { p with listeners := p.listeners.set id { l with closed := true } })

/-- frees the lowest slot whose listener satisfies the test -/
def vacate (test : ListenerId → Bool) : List (Option ListenerId) → List (Option ListenerId)
  | [] => []
  | none :: rest => none :: vacate test rest
  | some id :: rest => if test id then none :: rest else some id :: vacate test rest

/-- closes the listener in the lowest slot that is bound to the address, and frees that slot -/
def remove (p : Pool) (address : String) : Except ListenerError Unit × Pool :=
  match p.find? address with
  | none => (.error (.notFound address), p)
  | some id =>
    let slots := vacate (fun id => p.address id == some address) p.slots
    (.ok (), { (p.closeOne id).2 with slots })

/-- closes every registered listener; the slots stay as they are -/
def closeAll (p : Pool) : Pool := p.snapshot.foldl (fun p id => (p.closeOne id).2) p

/-! ## connections in flight -/

def enter (p : Pool) (id : ListenerId) : Pool := { p with trackers := p.trackers.enter id }

/-- a connection goes, and every waiter runs until it blocks -/
def drop (p : Pool) (id : ListenerId) : Pool := { p with trackers := p.trackers.depart ⟨0, id⟩ }

/-- waits up to `limit` milliseconds for every registered listener to be idle -/
def drain (p : Pool) (limit : Nat) (departures : List Departure) : WaitOutcome :=
  drainIdle p.snapshot limit departures p.trackers

/-- waits until every registered listener has been idle -/
def waitIdle (p : Pool) (limit : Option Nat) (departures : List Departure) : WaitOutcome :=
  Succession.waitIdle p.snapshot limit departures p.trackers

end Pool
end Succession
