import Succession.Drain.Traffic

/-!
# One tracker over time

A tracker with its guards and waiters by name, and the milliseconds that have gone by.
-/

namespace Succession

structure DrainSession where
  traffic : Traffic
  /-- tasks that wait, oldest first -/
  waiters : List (String × Wait)
  /-- milliseconds since the start -/
  time : Nat
deriving Repr

namespace DrainSession

def new : DrainSession := ⟨⟨[.new], []⟩, [], 0⟩

instance : Inhabited DrainSession := ⟨new⟩

def active (s : DrainSession) : Nat := s.traffic.trackers.active 0

/-- which waiters are done -/
def finished (s : DrainSession) : List (String × Bool) :=
  s.waiters.map fun w => (w.1, w.2.isFinished s.traffic.trackers)

def onTraffic (s : DrainSession) (f : Traffic → Traffic) : DrainSession :=
  { s with traffic := f s.traffic }

def guard (s : DrainSession) (name : String) : DrainSession := s.onTraffic (·.enter name 0)

def drop (s : DrainSession) (name : String) : DrainSession := s.onTraffic (·.leave name)

def dropAll (s : DrainSession) : DrainSession := s.onTraffic (·.leaveAll)

def settle (s : DrainSession) : DrainSession := s.onTraffic (·.settle)

def after (s : DrainSession) (returned : WaitOutcome × Traffic) : Bool × DrainSession :=
  (returned.1.idle, { s with traffic := returned.2, time := s.time + returned.1.took })

def drain (s : DrainSession) (limit : Nat) (drops : List Drop) : Bool × DrainSession :=
  s.after (s.traffic.drain [0] limit drops)

def wait (s : DrainSession) (drops : List Drop) : DrainSession :=
  (s.after (s.traffic.wait [0] none drops)).2

def pass (s : DrainSession) (span : Nat) (drops : List Drop) : DrainSession :=
  { s with traffic := s.traffic.pass span drops, time := s.time + span }

def spawnWait (s : DrainSession) (name : String) : DrainSession :=
  let (trackers, w) := joinOne s.traffic.trackers 0
  settle { s with
    traffic := { s.traffic with trackers }
    waiters := s.waiters ++ [(name, w)] }

end DrainSession
end Succession
