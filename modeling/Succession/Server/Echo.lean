import Succession.Drain.Waiting
import Succession.Text.Bytes

/-!
# Echoing connections

The task of a connection copies what the client sends back to it. When the copying has ended it
takes the access log's lock, writes a line piece by piece, gives the lock up, and lets the
connection go. The tasks of many connections take their steps in any order.

* `EchoStage`, `EchoPhase`   where a task is;
* `EchoHall.accept`          a new connection;
* `EchoHall.endCopy`         the copying of a task ends;
* `EchoHall.step`            one step of a task behind its copying;
* `EchoHall.drop`            where nothing is logged, the connection goes when the copying has ended.
-/

namespace Succession

/-- how a task's copying may end -/
inductive CopyEnd where
  | bytes (count : Nat)
  | failed
deriving DecidableEq, Repr

def CopyEnd.counted : CopyEnd → Nat
  | bytes count => count
  | failed => 0

/-- what a task does when its copying has ended -/
inductive EchoStage where
  /-- waits for the log's lock -/
  | waiting
  /-- holds the lock, and has this left to write of its line -/
  | writing (rest : Bytes)
  /-- has given the lock up -/
  | finished
  /-- the connection has gone -/
  | gone
deriving DecidableEq, Repr

inductive EchoPhase where
  | copying
  | ended (copied : CopyEnd) (stage : EchoStage)
deriving DecidableEq, Repr

structure EchoTask where
  /-- the client's address -/
  peer : String
  /-- the number of the listener that accepted the connection -/
  listener : Nat
  phase : EchoPhase
deriving DecidableEq, Repr

def accessLine (peer : String) (bytes : Nat) : Bytes :=
  Bytes.ofText (peer ++ " " ++ toString bytes ++ "\n")

/-- the line of a connection, once it is known -/
def EchoTask.line (t : EchoTask) : Bytes :=
  match t.phase with
  | .copying => []
  | .ended copied _ => accessLine t.peer copied.counted

/-- the tasks of a process, and what they share -/
structure EchoHall where
  tasks : List EchoTask
  trackers : Trackers
  /-- the task that holds the log's lock -/
  holder : Option Nat
  log : Bytes
deriving Repr

namespace EchoHall

/-- a listener accepts a connection: it counts as in flight from now on -/
def accept (hall : EchoHall) (listener : Nat) (peer : String) : EchoHall :=
  { hall with
    tasks := hall.tasks ++ [⟨peer, listener, .copying⟩]
    trackers := hall.trackers.enter listener }

def setPhase (hall : EchoHall) (i : Nat) (phase : EchoPhase) : EchoHall :=
  { hall with tasks := hall.tasks.modify i fun t => { t with phase } }

def endCopy (hall : EchoHall) (i : Nat) (copied : CopyEnd) : EchoHall :=
  match hall.tasks[i]? with
  | some ⟨_, _, .copying⟩ => hall.setPhase i (.ended copied .waiting)
  | _ => hall

def leave (hall : EchoHall) (i : Nat) (copied : CopyEnd) (listener : Nat) : EchoHall :=
  { hall.setPhase i (.ended copied .gone) with trackers := hall.trackers.drop listener }

/-- the next step of a task whose copying has ended; a task that waits for the lock stays where
it is while another holds it, and of a line the system takes `size` bytes at once -/
def step (hall : EchoHall) (i size : Nat) : EchoHall :=
  match hall.tasks[i]? with
  | none => hall
  | some t => match t.phase with
    | .copying | .ended _ .gone => hall
    | .ended copied .waiting =>
      if hall.holder.isSome then hall
      else { hall.setPhase i (.ended copied (.writing t.line)) with holder := some i }
    | .ended copied (.writing []) =>
      { hall.setPhase i (.ended copied .finished) with holder := none }
    | .ended copied (.writing (b :: rest)) =>
      { hall.setPhase i (.ended copied (.writing ((b :: rest).drop size))) with
        log := hall.log ++ (b :: rest).take size }
    | .ended copied .finished => hall.leave i copied t.listener

/-- without an access log, a task whose copying has ended lets its connection go -/
def drop (hall : EchoHall) (i : Nat) : EchoHall :=
  match hall.tasks[i]? with
  | some ⟨_, listener, .ended copied .waiting⟩ => hall.leave i copied listener
  | _ => hall

end EchoHall
end Succession
