import Succession.Drain.Waiting

/-!
# Named guards

Guards by name at some trackers, and the calls that wait while they go.

* `Traffic.enter`, `Traffic.leave`      a guard comes and goes;
* `Traffic.wait`, `Traffic.drain`       a call that waits, and the guards that go meanwhile;
* `Traffic.pass`                        time that goes by.
-/

namespace Succession

/-- a guard by this name is to go so many milliseconds into a call -/
abbrev Drop := Nat × String

structure Traffic where
  trackers : Trackers
  /-- live guards by name, with the number of their tracker -/
  guards : List (String × Nat)
deriving Repr

namespace Traffic

/-- a guard goes; whoever waited for it goes on later -/
def leave (t : Traffic) (name : String) : Traffic :=
  match t.guards.lookup name with
  | none => t
  | some i => ⟨t.trackers.drop i, t.guards.filter fun g => g.1 ≠ name⟩

/-- a new guard; the one that had its name goes after it has come -/
def enter (t : Traffic) (name : String) (tracker : Nat) : Traffic :=
  let t := leave { t with trackers := t.trackers.enter tracker } name
  { t with guards := (name, tracker) :: t.guards }

def leaveAll (t : Traffic) : Traffic := t.guards.foldl (fun t g => t.leave g.1) t

def settle (t : Traffic) : Traffic := { t with trackers := t.trackers.settle }

/-- the departures that drops in order of time lead to; a guard goes once -/
def departures (guards : List (String × Nat)) : List Drop → List Departure
  | [] => []
  | (time, name) :: rest => match guards.lookup name with
    | none => departures guards rest
    | some tracker => ⟨time, tracker⟩ :: departures (guards.filter fun g => g.1 ≠ name) rest

/-- the guards whose names are not dropped -/
def spared (guards : List (String × Nat)) (drops : List Drop) : List (String × Nat) :=
  guards.filter fun g => ¬ drops.any fun d => d.2 = g.1

def byTime (drops : List Drop) : List Drop := drops.mergeSort fun a b => a.1 ≤ b.1

/-- the end of a call: the guards that are left to go do so at once -/
def returned (t : Traffic) (drops : List Drop) (o : WaitOutcome) : WaitOutcome × Traffic :=
  (o, ⟨departAll o.trackers o.remaining, spared t.guards drops⟩)

def wait (t : Traffic) (targets : List Nat) (limit : Option Nat) (drops : List Drop) :
    WaitOutcome × Traffic :=
  t.returned drops (waitIdle targets limit (departures t.guards (byTime drops)) t.trackers)

def drain (t : Traffic) (targets : List Nat) (limit : Nat) (drops : List Drop) :
    WaitOutcome × Traffic :=
  t.returned drops (drainIdle targets limit (departures t.guards (byTime drops)) t.trackers)

def pass (t : Traffic) (span : Nat) (drops : List Drop) : Traffic :=
  let (trackers, left) := passTime span (departures t.guards (byTime drops)) t.trackers
  ⟨departAll trackers left, spared t.guards drops⟩

end Traffic
end Succession
