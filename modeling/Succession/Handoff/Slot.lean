import Succession.Path
import Succession.Handoff.Variables
import Succession.Text.Hex
import Succession.Text.Chain

/-!
# Inherited file slots

A successor finds the files of its predecessor at the descriptors from three on. The variable of a
descriptor holds the file's name in hexadecimal, with the value that the variable had before
chained behind it: `<hex name>[:<previous value>]`.

* `Slot.encode`, `Slot.decode?`   a slot and the value of its variable;
* `readSlots`                     the run of slots from the first descriptor up to the first
                                  variable that holds none.
-/

namespace Succession

abbrev Descriptor := Int

/-- the first descriptor behind the standard streams -/
def firstExtra : Descriptor := 3

/-- the variable that describes an inherited descriptor -/
def descriptorVariable (index : Descriptor) : String := "MOLT_FD_" ++ toString index

structure Slot where
  index : Descriptor
  name : Path
  /-- the value of the variable before the slot was written over it -/
  previous : Option String
deriving DecidableEq, Repr

namespace Slot

def encode (slot : Slot) : String :=
  String.ofList (Chain.join ':' (Hex.encode slot.name.bytes) (slot.previous.map String.toList))

/-- the slot that a value encodes, if it encodes one -/
def decode? (index : Descriptor) (raw : String) : Option Slot :=
  let (name, previous) := Chain.split ':' raw.toList
  (Hex.decode name).map fun bytes => ⟨index, ⟨bytes⟩, previous.map String.ofList⟩

end Slot

/-- the run of slots from `index` on, of at most `limit` -/
def readSlotsFrom (env : Environment) (index : Descriptor) : Nat → List Slot
  | 0 => []
  | limit + 1 =>
    match (env.get? (descriptorVariable index)).bind (Slot.decode? index) with
    | none => []
    | some slot => slot :: readSlotsFrom env (index + 1) limit

/-- the run of slots from the first extra descriptor on: every slot has a variable of its own, so
the number of variables bounds the run -/
def readSlots (env : Environment) : List Slot := readSlotsFrom env firstExtra env.entries.length

end Succession
