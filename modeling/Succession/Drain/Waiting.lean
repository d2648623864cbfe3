import Succession.Drain.Tracker

/-!
# Waiting for idle trackers

A call waits until each of some trackers has been idle once, up to a limit, on a clock that moves
only while it waits. Meanwhile guards go at given times into the call.

* `Departure`         a guard that goes at some millisecond;
* `waitIdle`          the wait of one call, and how it ended;
* `passTime`          time that goes by while guards go.
-/

namespace Succession

/-- a guard of the tracker with number `tracker` goes `time` milliseconds into a call -/
structure Departure where
  time : Nat
  tracker : Nat
deriving DecidableEq, Repr

abbrev Trackers := List Tracker

namespace Trackers

def active (ts : Trackers) (i : Nat) : Nat := (ts[i]?.getD .new).active

def enter (ts : Trackers) (i : Nat) : Trackers := ts.modify i Tracker.enter

def drop (ts : Trackers) (i : Nat) : Trackers := ts.modify i Tracker.drop

def settle (ts : Trackers) : Trackers := ts.map Tracker.settle

/-- a guard goes, and every waiter runs until it blocks -/
def depart (ts : Trackers) (d : Departure) : Trackers := (ts.drop d.tracker).settle

end Trackers

structure Wait where
  tracker : Nat
  waiter : Nat
deriving DecidableEq, Repr

namespace Wait

def isFinished (ts : Trackers) (w : Wait) : Bool := (ts[w.tracker]?.getD .new).isFinished w.waiter

def abandon (ts : Trackers) (w : Wait) : Trackers := ts.modify w.tracker (·.abandon w.waiter)

end Wait

def joinOne (ts : Trackers) (i : Nat) : Trackers × Wait :=
  let (waiter, t) := (ts[i]?.getD .new).join
  (ts.set i t, ⟨i, waiter⟩)

def joinAll (ts : Trackers) : List Nat → Trackers × List Wait
  | [] => (ts, [])
  | i :: rest =>
    let (ts, wait) := joinOne ts i
    let (ts, waits) := joinAll ts rest
    (ts, wait :: waits)

structure WaitOutcome where
  /-- every tracker was idle at some time before the limit -/
  idle : Bool
  /-- milliseconds from the call to its return -/
  took : Nat
  trackers : Trackers
  /-- the guards that have not gone yet -/
  remaining : List Departure
deriving Repr

def giveUp (waits : List Wait) (ts : Trackers) : Trackers :=
  waits.foldl Wait.abandon ts

/-- the waiters of a call while the guards go, `now` milliseconds into it -/
def awaitAll (waits : List Wait) (limit : Option Nat) (now : Nat) (ts : Trackers) :
    List Departure → WaitOutcome
  | [] =>
    if waits.all (·.isFinished ts) then ⟨true, now, ts, []⟩
    else ⟨false, limit.getD now, giveUp waits ts, []⟩
  | d :: rest =>
    if waits.all (·.isFinished ts) then ⟨true, now, ts, d :: rest⟩
    else if limit.any (· ≤ d.time) then ⟨false, limit.getD now, giveUp waits ts, d :: rest⟩
    else awaitAll waits limit d.time (ts.depart d) rest

def byTime (departures : List Departure) : List Departure :=
  departures.mergeSort fun a b => a.time ≤ b.time

/-- waits for the trackers numbered `targets`, each of which counts once it has been idle -/
def waitIdle (targets : List Nat) (limit : Option Nat) (departures : List Departure)
    (ts : Trackers) : WaitOutcome :=
  let (ts, waits) := joinAll ts targets
  awaitAll waits limit 0 ts.settle (byTime departures)

/-- waits up to `limit` milliseconds for the trackers that have guards now; the others count at
once -/
def drainIdle (targets : List Nat) (limit : Nat) (departures : List Departure)
    (ts : Trackers) : WaitOutcome :=
  waitIdle (targets.filter fun i => ts.active i ≠ 0) (some limit) departures ts

/-- `span` milliseconds go by; what is left of the guards stays -/
def passTime (span : Nat) (departures : List Departure) (ts : Trackers) :
    Trackers × List Departure :=
  let due := (byTime departures).takeWhile (·.time ≤ span)
  (due.foldl Trackers.depart ts, (byTime departures).drop due.length)

def departAll (ts : Trackers) (departures : List Departure) : Trackers :=
  departures.foldl Trackers.depart ts

end Succession
