import Succession.Signal

/-!
# Signal hooks

Callbacks that run before or after the built-in handling of a signal, in the order in which they
were registered. A callback that panics ends the run it is part of.

* `Hooks.matching`   the callbacks of a phase and a signal, in order;
* `Hooks.describe`   how many callbacks there are of each kind.
-/

namespace Succession

inductive HookPhase where
  | pre
  | post
deriving DecidableEq, Repr

def HookPhase.name : HookPhase → String
  | pre => "Pre"
  | post => "Post"

structure Hook where
  phase : HookPhase
  signal : Signal
  /-- what it writes in front of the signal's name -/
  tag : String
  panics : Bool
deriving DecidableEq, Repr

namespace Hook

def line (h : Hook) (signal : Signal) : String := h.tag ++ " " ++ signal.name

def panicMessage (h : Hook) : String := "hook " ++ h.tag

end Hook

abbrev Hooks := List Hook

namespace Hooks

def matching (hooks : Hooks) (phase : HookPhase) (signal : Signal) : Hooks :=
  hooks.filter fun h => h.phase = phase ∧ h.signal = signal

/-- the kinds that have callbacks, in the order of their first registration -/
def kinds (hooks : Hooks) : List (HookPhase × Signal) :=
  hooks.foldl (fun kinds h =>
    if kinds.contains (h.phase, h.signal) then kinds else kinds ++ [(h.phase, h.signal)]) []

def describe (hooks : Hooks) : String :=
  let kind (k : HookPhase × Signal) : String :=
    "(" ++ k.1.name ++ ", " ++ k.2.name ++ "): " ++ toString (hooks.matching k.1 k.2).length
  "SignalHooks \x7b hooks: \x7b" ++ ", ".intercalate (hooks.kinds.map kind) ++ "\x7d \x7d"

end Hooks
end Succession
