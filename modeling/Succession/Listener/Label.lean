/-!
# Labels of listeners

A listener that is known by a label is bound to an address that shows the label.
-/

namespace Succession

/-- the address of the socket that is bound for a label -/
def labelAddress (label : String) : String := "<" ++ label ++ ">"

def addressLabel (address : String) : String := String.ofList (address.toList.drop 1).dropLast

/-- the name of such a socket among other open things -/
def listenerName (label : String) : String := "listener:" ++ label

def fileName (label : String) : String := "file:" ++ label

/-- the label in the name of a socket; the name of a file has none -/
def listenerLabel? (name : String) : Option String :=
  if name.startsWith "listener:" then some (String.ofList (name.toList.drop 9)) else none

end Succession
