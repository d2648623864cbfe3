/-!
# Stages of the start sequence

A process becomes a daemon by starting fresh copies of itself. The stage is the position of a
process in that chain.

* `Stage.index`, `Stage.ofIndex?`  the number that travels in the stage marker;
* `Stage.next?`                    the stage of a successor.
-/

namespace Succession

inductive Stage where
  /-- the process that the user started -/
  | parent
  /-- the first copy; the last one in the foreground -/
  | firstChild
  /-- the second copy, detached from the session; the last one of a daemon -/
  | daemon
deriving DecidableEq, Repr, Inhabited

namespace Stage

def index : Stage → Nat
  | parent => 0
  | firstChild => 1
  | daemon => 2

def ofIndex? : Nat → Option Stage
  | 0 => some parent
  | 1 => some firstChild
  | 2 => some daemon
  | _ => none

/-- the stage that a successor started from this one runs in -/
def next? (s : Stage) : Option Stage := ofIndex? (s.index + 1)

def name : Stage → String
  | parent => "Parent"
  | firstChild => "FirstChild"
  | daemon => "Daemon"

/-- stages are ordered by their place in the chain -/
instance : LT Stage := ⟨fun a b => a.index < b.index⟩

instance (a b : Stage) : Decidable (a < b) := inferInstanceAs (Decidable (a.index < b.index))

theorem ofIndex?_index (s : Stage) : ofIndex? s.index = some s := by cases s <;> rfl

end Stage
end Succession
