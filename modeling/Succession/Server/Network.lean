import Succession.Address.Resolve
import Succession.Listener.Pool

/-!
# The network that a server listens on

A server asks its network for two things: the addresses that a text stands for, and a new socket on
the first of some addresses that can be had.

* `Network`              any answers to these questions;
* `Network.isolated`     a machine that is connected to nothing.
-/

namespace Succession

structure Network where
  resolve : String → Except IoError (List String)
  /-- the address of a new socket beside those of a pool, for the first address that can be had -/
  bind : Pool → List String → Except IoError String

namespace Network

/-- where the ports begin that a machine gives to sockets that ask for none -/
def firstFreePort : Nat := 32768

def freePort (p : Pool) : Nat := firstFreePort + p.listeners.length

/-- the host that a socket is bound to. No interface has hosts of the sixth version, and nothing
says which hosts of the fourth are elsewhere, so that all of these can be had -/
def boundHost? (host : Ip) : Option Ip :=
  match host.unmapped with
  | .v4 _ => some (host.onInterface 0)
  | .v6 .. => if host.isUnspecified then some (host.onInterface 0) else none

/-- two sockets of one port cannot both be bound if their hosts have one in common -/
def collides (a b : SocketAddress) : Bool :=
  let (h, g) := (a.host.unmapped, b.host.unmapped)
  a.port = b.port && (h = g || h.isUnspecified || g.isUnspecified)

def taken (others : List String) (p : Pool) : List SocketAddress :=
  (others ++ p.listeners.map (·.socket.address)).filterMap fun a => SocketAddress.parse? a.toList

/-- binds one address; `others` are bound by somebody else -/
def bindOne (others : List String) (p : Pool) (a : SocketAddress) : Except IoError String :=
  match boundHost? a.host with
  | none => .error (.os .addressNotAvailable)
  | some host =>
    if a.port = 0 then .ok (SocketAddress.render ⟨host, freePort p⟩)
    else if (taken others p).any (collides ⟨host, a.port⟩) then .error (.os .addressInUse)
    else .ok (SocketAddress.render ⟨host, a.port⟩)

/-- the first address that can be bound, or why the last could not -/
def bindFirst (others : List String) (p : Pool) (failure : IoError) :
    List String → Except IoError String
  | [] => .error failure
  | text :: rest => match SocketAddress.parse? text.toList with
    | none => bindFirst others p (.refused "invalid socket address") rest
    | some a => match bindOne others p a with
      | .ok bound => .ok bound
      | .error e => bindFirst others p e rest

/-- a machine that is connected to nothing, where somebody else listens on `others` -/
def isolated (others : List String) : Network where
  resolve address := (Succession.resolve address).map fun found => found.map SocketAddress.render
  bind p addresses := bindFirst others p (.refused "could not resolve to any addresses") addresses

end Network
end Succession
