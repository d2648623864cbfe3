import Succession.Text.Numeral

/-!
# Internet addresses

The numeric forms of hosts and sockets. Four decimal numbers make a host of the fourth version;
groups of hexadecimal digits, of which one run of zeros may be left out, make one of the sixth.

* `Ip.parse4?`, `Ip.parse6?`     the strict forms;
* `Ip.parseLoose?`               one to four numbers in base ten, eight or sixteen;
* `SocketAddress.parse?`         a host in its strict form with a port;
* `SocketAddress.scoped?`        a host of the sixth version with its interface;
* `SocketAddress.render`.
-/

namespace Succession

inductive Ip where
  /-- four numbers below 256 -/
  | v4 (octets : List Nat)
  /-- eight numbers below 65536, and the interface's number -/
  | v6 (groups : List Nat) (scope : Nat)
deriving DecidableEq, Repr

structure SocketAddress where
  host : Ip
  port : Nat
deriving DecidableEq, Repr

namespace Ip

def dot : Char := '.'

/-- a run of digits without a leading zero, at most 255 -/
def octet? (digits : List Char) : Option Nat :=
  if digits.length ≤ 3 ∧ (digits.head? ≠ some '0' ∨ digits = ['0']) then
    Numeral.digits? Numeral.max8 digits
  else none

def split (separator : Char) (cs : List Char) : List (List Char) :=
  cs.foldr (fun c pieces => match pieces with
    | [] => [[c]]
    | piece :: rest => if c = separator then [] :: piece :: rest else (c :: piece) :: rest) [[]]

def parse4? (cs : List Char) : Option Ip := do
  let octets ← (split dot cs).mapM octet?
  if octets.length = 4 then return v4 octets else none

/-! ## the sixth version -/

def hexValue? (c : Char) : Option Nat :=
  if c.isDigit then some (c.toNat - '0'.toNat)
  else if 'a' ≤ c ∧ c ≤ 'f' then some (c.toNat - 'a'.toNat + 10)
  else if 'A' ≤ c ∧ c ≤ 'F' then some (c.toNat - 'A'.toNat + 10)
  else none

/-- the value of a run of digits in a base, if there is one -/
def inBase? (base : Nat) (digits : List Char) : Option Nat := do
  if digits = [] then none
  let values ← digits.mapM hexValue?
  if values.all (· < base) then return values.foldl (fun n v => n * base + v) 0 else none

def group? (digits : List Char) : Option Nat :=
  if digits.length ≤ 4 then inBase? 16 digits else none

/-- the groups of a text; the last piece may be a host of the fourth version, which makes two -/
def groups? (cs : List Char) : Option (List Nat) :=
  if cs = [] then some []
  else
    let pieces := split ':' cs
    match pieces.getLast?.bind parse4? with
    | some (v4 [a, b, c, d]) => do
      return (← pieces.dropLast.mapM group?) ++ [a * 256 + b, c * 256 + d]
    | _ => pieces.mapM group?

/-- the text in front of the first pair of colons, and the text behind it -/
def atDoubleColon : List Char → List Char → Option (List Char × List Char)
  | before, ':' :: ':' :: rest => some (before.reverse, rest)
  | before, c :: rest => atDoubleColon (c :: before) rest
  | _, [] => none

/-- eight groups; the pair of colons stands for at least one group of zeros -/
def parse6? (cs : List Char) : Option Ip :=
  match atDoubleColon [] cs with
  | none => do
    let groups ← groups? cs
    if groups.length = 8 then return v6 groups 0 else none
  | some (before, after) => do
    let front ← groups? before
    let back ← groups? after
    -- a host of the fourth version ends the text
    if front.length + back.length < 8 ∧ ¬ before.contains dot then
      return v6 (front ++ List.replicate (8 - front.length - back.length) 0 ++ back) 0
    else none

/-! ## the loose form -/

/-- a number in base ten, eight behind a zero, or sixteen behind a zero and an x -/
def looseNumber? (digits : List Char) : Option Nat :=
  match digits with
  | '0' :: 'x' :: rest | '0' :: 'X' :: rest => inBase? 16 rest
  | '0' :: [] => some 0
  | '0' :: rest => inBase? 8 rest
  | digits => inBase? 10 digits

/-- the octets of a number, the most significant first -/
def octetsOf (count : Nat) (n : Nat) : List Nat :=
  (List.range count).map fun i => n / Nat.pow 256 (count - 1 - i) % 256

/-- one to four numbers, the last of which fills what the others leave -/
def parseLoose? (cs : List Char) : Option Ip := do
  let numbers ← (split dot cs).mapM looseNumber?
  let last ← numbers.getLast?
  let front := numbers.dropLast
  if front.length ≤ 3 ∧ front.all (· < 256) ∧ last < Nat.pow 256 (4 - front.length) then
    return v4 (front ++ octetsOf (4 - front.length) last)
  else none

/-! ## writing -/

def hexGroup (n : Nat) : String := String.ofList (Nat.toDigits 16 n)

/-- how many zeros a list begins with -/
def zerosAt (groups : List Nat) : Nat := (groups.takeWhile (· = 0)).length

/-- where the first of the longest runs of zeros begins, and its length -/
def longestZeros (groups : List Nat) : Nat × Nat :=
  (List.range groups.length).foldl (fun best i =>
    if best.2 < zerosAt (groups.drop i) then (i, zerosAt (groups.drop i)) else best) (0, 0)

def renderGroups (groups : List Nat) : String := ":".intercalate (groups.map hexGroup)

def renderOctets (octets : List Nat) : String := ".".intercalate (octets.map toString)

/-- the longest run of at least two zeros is left out; a host of the fourth version behind zeros
and a group of ones shows as such -/
def render6 (groups : List Nat) : String :=
  match groups with
  | [0, 0, 0, 0, 0, 0xFFFF, a, b] =>
    "::ffff:" ++ renderOctets [a / 256, a % 256, b / 256, b % 256]
  | groups =>
    let (start, length) := longestZeros groups
    if length < 2 then renderGroups groups
    else renderGroups (groups.take start) ++ "::" ++ renderGroups (groups.drop (start + length))

/-- the host of the fourth version that one of the sixth stands for, if it does -/
def unmapped : Ip → Ip
  | v6 [0, 0, 0, 0, 0, 0xFFFF, a, b] _ => v4 [a / 256, a % 256, b / 256, b % 256]
  | ip => ip

/-- a host that only means something on one interface: one of the sixth version that begins like
`fe80` or `ff02` -/
def isLinkLocal : Ip → Bool
  | v6 (first :: _) _ => first / 64 = 0xFE80 / 64 || (first / 256 = 0xFF && first % 16 = 2)
  | _ => false

def onInterface (interface : Nat) : Ip → Ip
  | v6 groups _ => v6 groups interface
  | ip => ip

def isUnspecified : Ip → Bool
  | v4 octets => octets.all (· = 0)
  | v6 groups _ => groups.all (· = 0)

def v6Bracketed (groups : List Nat) (scope : Nat) : String :=
  "[" ++ render6 groups ++ (if scope = 0 then "" else "%" ++ toString scope) ++ "]"

end Ip

namespace SocketAddress

def render (a : SocketAddress) : String :=
  (match a.host with
  | .v4 octets => Ip.renderOctets octets
  | .v6 groups scope => Ip.v6Bracketed groups scope) ++ ":" ++ toString a.port

/-- the text in front of the last separator, and the text behind it -/
def splitLast (separator : Char) (cs : List Char) : Option (List Char × List Char) :=
  let behind := (cs.reverse.takeWhile (· ≠ separator)).reverse
  match cs.take (cs.length - behind.length) with
  | [] => none
  | front => some (front.dropLast, behind)

/-- a host of the sixth version with the number of its interface, which is zero if it has none;
`interface` reads the text behind a percent sign -/
def scoped? (interface : Ip → List Char → Option Nat) (cs : List Char) : Option Ip :=
  match Ip.split '%' cs with
  | [host] => Ip.parse6? host
  | [host, scope] => do
    let ip ← Ip.parse6? host
    return ip.onInterface (← interface ip scope)
  | _ => none

def interfaceNumber? (digits : List Char) : Option Nat := Numeral.digits? Numeral.max32 digits

/-- a host in its strict form, one of the sixth version in brackets, and a port behind a colon -/
def parse? (cs : List Char) : Option SocketAddress := do
  let (host, port) ← splitLast ':' cs
  let port ← Numeral.digits? Numeral.max16 port
  match host with
  | '[' :: rest =>
    if rest.getLast? = some ']' then
      return ⟨← scoped? (fun _ => interfaceNumber?) rest.dropLast, port⟩
    else none
  | host => return ⟨← Ip.parse4? host, port⟩

end SocketAddress
end Succession
