/-!
# Connections in flight

A tracker counts the guards of one listener's connections. Whoever waits for the count to reach
zero registers for the notification first and reads the count afterwards, so that a guard that goes
in between is not missed.

* `Tracker.enter`, `Tracker.leave`, `Tracker.notifyAll`   the atomic steps of guards;
* `Tracker.join`, `Tracker.stepWaiter`                    the atomic steps of waiters;
* `Tracker.drop`, `Tracker.settle`                        whole drops, and runs up to the next wait.
-/

namespace Succession

inductive WaiterPhase where
  /-- about to register -/
  | starting
  /-- registered, and about to read the count -/
  | registered (notified : Bool)
  /-- read a count above zero, and sleeps until it is notified -/
  | asleep (notified : Bool)
  /-- read a count of zero -/
  | finished
  /-- gave up -/
  | cancelled
deriving DecidableEq, Repr

namespace WaiterPhase

/-- one atomic step of a waiter while the count is `active` -/
def step (active : Nat) : WaiterPhase → WaiterPhase
  | starting => registered false
  | registered notified => if active = 0 then finished else asleep notified
  | asleep true => starting
  | asleep false => asleep false
  | finished => finished
  | cancelled => cancelled

/-- a notification reaches everybody who has registered -/
def notify : WaiterPhase → WaiterPhase
  | registered _ => registered true
  | asleep _ => asleep true
  | phase => phase

/-- steps until the waiter blocks: from any phase it does so after four at most -/
def settle (active : Nat) (phase : WaiterPhase) : WaiterPhase :=
  step active (step active (step active (step active phase)))

end WaiterPhase

structure Tracker where
  /-- the number of live guards -/
  active : Nat
  waiters : List WaiterPhase
deriving DecidableEq, Repr

namespace Tracker

def new : Tracker := ⟨0, []⟩

instance : Inhabited Tracker := ⟨new⟩

/-! ## guards -/

def enter (t : Tracker) : Tracker := { t with active := t.active + 1 }

/-- a guard goes; the answer tells whether it was the last and has to notify -/
def leave (t : Tracker) : Bool × Tracker := (t.active = 1, { t with active := t.active - 1 })

def notifyAll (t : Tracker) : Tracker := { t with waiters := t.waiters.map .notify }

/-- a guard goes, and notifies if it was the last -/
def drop (t : Tracker) : Tracker :=
  let (last, t) := t.leave
  if last then t.notifyAll else t

/-! ## waiters -/

def join (t : Tracker) : Nat × Tracker :=
  (t.waiters.length, { t with waiters := t.waiters ++ [.starting] })

def stepWaiter (t : Tracker) (i : Nat) : Tracker :=
  { t with waiters := t.waiters.modify i (·.step t.active) }

def abandon (t : Tracker) (i : Nat) : Tracker :=
  { t with waiters := t.waiters.modify i fun p => if p = .finished then p else .cancelled }

/-- every waiter runs until it blocks -/
def settle (t : Tracker) : Tracker := { t with waiters := t.waiters.map (·.settle t.active) }

def isFinished (t : Tracker) (i : Nat) : Bool := t.waiters[i]? == some .finished

end Tracker
end Succession
