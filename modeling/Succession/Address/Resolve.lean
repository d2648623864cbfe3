import Succession.Address.Ip
import Succession.IoError

/-!
# Resolving addresses

An address names a host and a port. A host is numeric, or a name that the machine itself knows: no
other machine is asked.

* `hosts`     the hosts of a name or a numeric form;
* `resolve`   the addresses that a text stands for, in the order in which they are tried.
-/

namespace Succession

/-- the hosts of the names that every machine knows -/
def knownHosts : List (String × List Ip) := [("localhost", [.v4 [127, 0, 0, 1]])]

/-- the number of the interface that every machine has -/
def loopbackInterface : String × Nat := ("lo", 1)

/-- an interface by number, or by name for a host that only means something there -/
def interface? (ip : Ip) (text : List Char) : Option Nat :=
  if ip.isLinkLocal ∧ String.ofList text = loopbackInterface.1 then some loopbackInterface.2
  else SocketAddress.interfaceNumber? text

def unknownHost : IoError :=
  .refused "failed to lookup address information: Name or service not known"

/-- the hosts of a name, whose letters may be of either case, or of a numeric form -/
def hosts (name : List Char) : Except IoError (List Ip) :=
  match Ip.parseLoose? name, SocketAddress.scoped? interface? name,
      knownHosts.lookup (String.ofList (name.map Char.toLower)) with
  | some ip, _, _ => .ok [ip]
  | none, some ip, _ => .ok [ip]
  | none, none, some ips => .ok ips
  | none, none, none => .error unknownHost

/-- a numeric address stands for itself; else the port is behind the last colon, and the host in
front of it is looked up -/
def resolve (address : String) : Except IoError (List SocketAddress) :=
  match SocketAddress.parse? address.toList with
  | some a => .ok [a]
  | none => match SocketAddress.splitLast ':' address.toList with
    | none => .error (.refused "invalid socket address")
    | some (host, port) => match Numeral.parse? Numeral.max16 port with
      | none => .error (.refused "invalid port value")
      | some port => (hosts host).map fun ips => ips.map (⟨·, port⟩)

end Succession
