import Succession.Handoff.Slot

/-!
# Descriptor tables

The open descriptors of one process. A launcher first copies what it hands over out of the way, and
its child then moves every copy to its place behind the standard streams.

* `DescriptorTable.duplicateFrom`   a copy at the lowest free number from a bound on;
* `DescriptorTable.copyOnto`        a copy at a number, whatever was there;
* `DescriptorTable.adopt`           an inherited descriptor is taken over;
* `DescriptorTable.stage`           the launcher's part;
* `DescriptorTable.place`           the child's part;
* `DescriptorTable.afterExec`       what a new program finds.
-/

namespace Succession

structure Opening (α : Type) where
  refersTo : α
  /-- closed when the process becomes another program -/
  closeOnExec : Bool
deriving DecidableEq, Repr

/-- every number occurs once -/
abbrev DescriptorTable (α : Type) := List (Nat × Opening α)

/-- copies are put here or above, out of the way of the numbers that they are meant for -/
def stagingBase : Nat := 100

namespace DescriptorTable

variable {α : Type}

/-- what a number refers to, closed if it is not there -/
def get? (t : DescriptorTable α) (n : Nat) : Option (Opening α) := t.lookup n

def put (t : DescriptorTable α) (n : Nat) (o : Opening α) : DescriptorTable α :=
  (n, o) :: t.filter fun e => e.1 ≠ n

/-- the lowest number from `bound` on that is free, among `count` of them -/
def lowestFrom (t : DescriptorTable α) (bound : Nat) : Nat → Nat
  | 0 => bound
  | count + 1 => if (t.get? bound).isNone then bound else lowestFrom t (bound + 1) count

/-- the lowest free number from `bound` on: as many as are open cannot all be taken -/
def lowestFree (t : DescriptorTable α) (bound : Nat) : Nat := lowestFrom t bound t.length

/-- a new descriptor at the lowest free number from `bound` on -/
def openFrom (t : DescriptorTable α) (bound : Nat) (o : Opening α) : Nat × DescriptorTable α :=
  (t.lowestFree bound, t.put (t.lowestFree bound) o)

/-- a copy that the next program will not have; nothing if there is nothing to copy -/
def duplicateFrom (t : DescriptorTable α) (source bound : Nat) :
    Option (Nat × DescriptorTable α) :=
  (t.get? source).map fun o => t.openFrom bound ⟨o.refersTo, true⟩

/-- a copy at the number `target` that the next program will have; a descriptor copied onto itself
stays what it is -/
def copyOnto (t : DescriptorTable α) (source target : Nat) : Option (DescriptorTable α) :=
  (t.get? source).map fun o => if source = target then t else t.put target ⟨o.refersTo, false⟩

/-- copies descriptors out of the way; the answer are the numbers of the copies -/
def stage (t : DescriptorTable α) : List Nat → Option (List Nat × DescriptorTable α)
  | [] => some ([], t)
  | n :: rest => do
    let (copy, t) ← t.duplicateFrom n stagingBase
    let (copies, t) ← stage t rest
    return (copy :: copies, t)

/-- copies descriptors onto the numbers from `target` on -/
def place (t : DescriptorTable α) (target : Nat) : List Nat → Option (DescriptorTable α)
  | [] => some t
  | n :: rest => do
    let t ← t.copyOnto n target
    place t (target + 1) rest

/-- takes over the descriptor at a number: the next program will not have it -/
def adopt (t : DescriptorTable α) (n : Descriptor) : Option (α × DescriptorTable α) :=
  if n < 0 then none
  else (t.get? n.toNat).map fun o => (o.refersTo, t.put n.toNat ⟨o.refersTo, true⟩)

def afterExec (t : DescriptorTable α) : DescriptorTable α := t.filter fun e => ¬ e.2.closeOnExec

/-- the child's table when it becomes a new program with some of the launcher's descriptors -/
def handOver (t : DescriptorTable α) (descriptors : List Nat) : Option (DescriptorTable α) := do
  let (copies, t) ← t.stage descriptors
  return afterExec (← t.place firstExtra.toNat copies)

end DescriptorTable
end Succession
