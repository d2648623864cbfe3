/-!
# Log events

What the library reports about itself: a message with named fields. All events here are
informational.
-/

namespace Succession

/-- the value of a field: numbers and truth values as such, everything else as text -/
inductive EventValue where
  | text (value : String)
  | number (value : Nat)
  | flag (value : Bool)
deriving DecidableEq, Repr

structure Event where
  message : String
  fields : List (String × EventValue)
deriving DecidableEq, Repr

namespace Event

def level (_ : Event) : String := "INFO"

/-- a line that a host's logger forwards as it is -/
def ofLine (line : String) : Event := ⟨line, []⟩

end Event
end Succession
