/-!
# Lifecycle signals

The three signals that drive a daemon: one asks it to hand over to a successor, two ask it to end.
-/

namespace Succession

inductive Signal where
  /-- hand over to a fresh successor -/
  | reload
  /-- end gracefully; sent by a successor to its predecessor -/
  | interrupt
  /-- end gracefully; sent by an operator -/
  | terminate
deriving DecidableEq, Repr

namespace Signal

/-- every signal, in the order of subscription -/
def all : List Signal := [reload, interrupt, terminate]

def number : Signal → Nat
  | reload => 1
  | interrupt => 2
  | terminate => 15

def name : Signal → String
  | reload => "Reload"
  | interrupt => "Interrupt"
  | terminate => "Terminate"

theorem mem_all (s : Signal) : s ∈ all := by cases s <;> decide

theorem number_injective {s t : Signal} (h : s.number = t.number) : s = t := by
  cases s <;> cases t <;> first | rfl | exact absurd h (by decide)

end Signal
end Succession
