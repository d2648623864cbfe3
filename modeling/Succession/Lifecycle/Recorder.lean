import Succession.Lifecycle.Executor
import Succession.Machine.Host

/-!
# A target that only records

Everything that a coordinator asks of it becomes a line or an exit code, and nothing else happens.

* `Recorder`, `Recorder.target`;
* `Recording`   a recorder with the tasks that act on it, and its coordinator.
-/

namespace Succession

structure Recorder where
  state : LifecycleState
  hooks : Hooks
  /-- how its graceful end goes on -/
  course : Course
  reloadFails : Bool
  logger : LoggerKind
  /-- oldest first -/
  lines : List String
  exits : List Nat
deriving Repr

namespace Recorder

def write (r : Recorder) (line : String) : Recorder := { r with lines := r.lines ++ [line] }

def target : Target Recorder where
  state r := r.state
  setState state r := { r with state }
  hooks r := r.hooks
  runHook h signal r := r.write (h.line signal)
  reload r := (¬ r.reloadFails, r.write "reload")
  shutdown r := (r.course, r.write "shutdown")
  exit code r := { r with exits := r.exits ++ [code] }
  log line r := match r.logger with
    | .collecting => r.write line
    | .absent | .panicking => r
  ended _ := false

end Recorder

/-- a recorder, the tasks that act on it, and its coordinator as long as that is driven directly -/
structure Recording where
  running : Running Unit Recorder
  direct : Option Coordinator

namespace Recording

def recorder (r : Recording) : Recorder := r.running.1

def modify (r : Recording) (f : Recorder → Recorder) : Recording :=
  { r with running := (f r.running.1, r.running.2) }

def settle (r : Recording) : Recording :=
  { r with running := Executor.settle (fun _ => Recorder.target) (fun _ => false) r.running }

def advance (r : Recording) (millis : Nat) : Recording :=
  { r with
    running := Executor.advance (fun _ => Recorder.target) (fun _ => false) millis r.running }

/-- a coordinator over a recorder, not started yet -/
def start (recorder : Recorder) (hammerTimeout : Duration) : Recording :=
  ⟨(recorder, .new), some ⟨hammerTimeout, 0⟩⟩

/-- the coordinator takes its signals out of a queue from now on -/
def detach (r : Recording) : Recording :=
  match r.direct with
  | none => r
  | some c =>
    ⟨({ r.running.1 with state := .running }, r.running.2.setQueue () ⟨c, [], true⟩), none⟩

/-- handles a signal directly; the answer is the message of the callback that panicked -/
def dispatch (r : Recording) (signal : Signal) : Option String × Recording :=
  match r.direct with
  | none => (none, r)
  | some c =>
    let (panic, h) := c.dispatch Recorder.target signal r.running.1
    (panic, settle ⟨(h.target, r.running.2.spawn () c.hammerTimeout h.aftermath),
      some h.coordinator⟩)

/-- queues signals one after another; the answers tell which were accepted -/
def enqueue (r : Recording) : List Signal → List Bool × Recording
  | [] => ([], r)
  | signal :: rest =>
    let (accepted, e) := r.running.2.send () signal
    let (more, r) := enqueue { r with running := (r.running.1, e) } rest
    (accepted :: more, r)

def send (r : Recording) (signals : List Signal) : List Bool × Recording :=
  let (accepted, r) := r.enqueue signals
  (accepted, r.settle)

def abort (r : Recording) : Recording :=
  { r with running := (r.running.1, r.running.2.abort ()) }

def fire (r : Recording) (phase : HookPhase) (signal : Signal) : Option String × Recording :=
  let (panic, recorder) := runHooks Recorder.target signal
    (r.recorder.hooks.matching phase signal) r.recorder
  (panic, { r with running := (recorder, r.running.2) })

end Recording
end Succession
