import Succession.Program

/-!
# Files kept across successors

A file that a daemon keeps open has a name of the host's choosing. In a process that inherited it,
it also has the number at which it was inherited.

* `ExtraFile`;
* `slotChanges`     the variables that describe files in a successor's environment;
* `adoptSlots`      takes over the descriptors of slots, in order, up to the first failure;
* `duplicateAll`    fresh descriptors for a successor.
-/

namespace Succession

structure ExtraFile where
  name : Path
  resource : Resource
  /-- the number it was inherited at, if it was inherited -/
  index : Option Descriptor
deriving DecidableEq, Repr

namespace ExtraFile

def ofSlot (slot : Slot) (resource : Resource) : ExtraFile := ⟨slot.name, resource, some slot.index⟩

open Program in
/-- opens a file for appending, and makes it if it is missing -/
def openFile (path : Path) : Program (Except IoError ExtraFile) := do
  match ← request (.openFile path .appending) with
  | .error e => return .error e
  | .ok h => return .ok ⟨path, .file h, none⟩

end ExtraFile

/-- the slot of a file at a number, chained before what the environment has there -/
def slotOf (env : Environment) (index : Descriptor) (file : ExtraFile) : Slot :=
  ⟨index, file.name, env.get? (descriptorVariable index)⟩

/-- the changes that describe files from `index` on to a successor -/
def slotChangesFrom (env : Environment) (index : Descriptor) :
    List ExtraFile → List (String × Option String)
  | [] => []
  | file :: rest =>
    (descriptorVariable index, some (slotOf env index file).encode) ::
      slotChangesFrom env (index + 1) rest

def slotChanges (env : Environment) (files : List ExtraFile) : List (String × Option String) :=
  slotChangesFrom env firstExtra files

/-- gives every slot's variable its previous value back -/
def restoreSlots (env : Environment) (slots : List Slot) : Environment :=
  slots.foldl (fun env slot => env.restore (descriptorVariable slot.index) slot.previous) env

open Program in
/-- the files that slots describe, or the number of the first that is not there and why -/
def adoptSlots : List Slot → Program (Except (Descriptor × IoError) (List ExtraFile))
  | [] => return .ok []
  | slot :: rest => do
    match ← request (.adopt slot.index) with
    | .error source => return .error (slot.index, source)
    | .ok resource => match ← adoptSlots rest with
      | .error e => return .error e
      | .ok files => return .ok (.ofSlot slot resource :: files)

open Program in
def duplicateAll : List Resource → Program (Except IoError (List Resource))
  | [] => return .ok []
  | resource :: rest => do
    match ← request (.duplicate resource) with
    | .error source => return .error source
    | .ok copy => match ← duplicateAll rest with
      | .error e => return .error e
      | .ok copies => return .ok (copy :: copies)

end Succession
