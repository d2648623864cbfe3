import Succession.Server.Network

/-!
# Taking listeners over or binding them

A server has one listener for each address of its configuration. An inherited socket that is bound
to the address is taken over; only what is missing is bound.

* `takeOrBind`    the listener of one address;
* `listenAll`     the listeners of a configuration, up to the first address that cannot be served.
-/

namespace Succession

inductive ServeError where
  /-- the access log cannot be had -/
  | accessLog (path : Path) (source : IoError)
  | resolve (address : String) (source : IoError)
  | bind (address : String) (source : IoError)
deriving DecidableEq, Repr

namespace ServeError

def message : ServeError → String
  | accessLog path _ => "Failed to reopen access log " ++ path.display
  | resolve address _ => "Failed to resolve " ++ address
  | bind address _ => "Failed to bind " ++ address

def cause : ServeError → IoError
  | accessLog _ source | resolve _ source | bind _ source => source

end ServeError

namespace Pool

/-- the registered listener of the first address that has one -/
def findFirst? (p : Pool) : List String → Option ListenerId
  | [] => none
  | address :: rest => match p.find? address with
    | some id => some id
    | none => p.findFirst? rest

/-- a number that no socket of the pool has -/
def freshSocket (p : Pool) : Nat :=
  (p.listeners.map fun l => l.socket.id + 1).foldl max p.listeners.length

end Pool

/-- the listener of an address; whatever fails, the pool stays as it is -/
def takeOrBind (net : Network) (p : Pool) (address : String) :
    Except ServeError (ListenerId × Pool) :=
  match net.resolve address with
  | .error e => .error (.resolve address e)
  | .ok addresses => match p.findFirst? addresses with
    | some id => .ok (id, p)
    | none => match net.bind p addresses with
      | .error e => .error (.bind address e)
      | .ok bound => .ok (p.add ⟨p.freshSocket, bound⟩)

/-- the listeners of some addresses in order; what was bound before a failure stays -/
def listenAll (net : Network) (p : Pool) :
    List String → Except ServeError (List ListenerId) × Pool
  | [] => (.ok [], p)
  | address :: rest => match takeOrBind net p address with
    | .error e => (.error e, p)
    | .ok (id, p) => match listenAll net p rest with
      | (.error e, p) => (.error e, p)
      | (.ok ids, p) => (.ok (id :: ids), p)

end Succession
