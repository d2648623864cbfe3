import Succession.Lifecycle.Hooks
import Succession.Time.Duration

/-!
# The coordinator of lifecycle signals

A signal is handled in three parts: the callbacks before it, the built-in action, the callbacks
behind it. A reload asks the target for a successor; the first signal to end begins the graceful
end. Either way a forced end ("hammer") is armed.

* `LifecycleState`, `Course`   where a process is, and how a graceful end goes on;
* `Target`                     what the coordinator drives;
* `dispatch`                   one signal, and the tasks that it leaves behind;
* `hammerLine`                 what is logged when an end is forced.
-/

namespace Succession

inductive LifecycleState where
  | init
  | running
  | shuttingDown
  | terminate
deriving DecidableEq, Repr

namespace LifecycleState

def name : LifecycleState → String
  | init => "Init"
  | running => "Running"
  | shuttingDown => "ShuttingDown"
  | terminate => "Terminate"

end LifecycleState

/-- how a graceful end goes on -/
inductive Course where
  /-- it is done so many milliseconds after it began -/
  | after (millis : Nat)
  | never
  | panics
deriving DecidableEq, Repr

def Course.immediate : Course := .after 0

/-- what a coordinator drives, kept in a state of type `σ` -/
structure Target (σ : Type) where
  state : σ → LifecycleState
  setState : LifecycleState → σ → σ
  hooks : σ → Hooks
  /-- a callback writes its line -/
  runHook : Hook → Signal → σ → σ
  /-- start a successor; the answer is whether that worked -/
  reload : σ → Bool × σ
  /-- begin the graceful end -/
  shutdown : σ → Course × σ
  /-- end the process -/
  exit : Nat → σ → σ
  /-- hand a line to the host's logger, if there is one; a logger that panics writes nothing -/
  log : String → σ → σ
  /-- the process has ended: nothing of it runs any more -/
  ended : σ → Bool

/-- a task that handling a signal leaves behind, until it is polled for the first time -/
inductive Aftermath where
  /-- forces the end after the coordinator's timeout -/
  | hammer (reason : Signal)
  /-- the graceful end, and whoever waits for it -/
  | graceful (course : Course)
deriving DecidableEq, Repr

structure Coordinator where
  hammerTimeout : Duration
  /-- the number of forced ends armed so far -/
  armed : Nat
deriving DecidableEq, Repr

def hammerExitCode : Nat := 1

def hammerLine (reason : Signal) (timeout : Duration) : String :=
  reason.name ++ " did not finish within " ++ timeout.render ++ ", forcing exit"

/-- what handling a signal has led to so far -/
structure Handling (σ : Type) where
  coordinator : Coordinator
  target : σ
  /-- in the order of spawning -/
  aftermath : List Aftermath

/-- runs callbacks in order up to the first that panics; the answer is its message -/
def runHooks {σ : Type} (T : Target σ) (signal : Signal) : Hooks → σ → Option String × σ
  | [], s => (none, s)
  | h :: rest, s =>
    let s := T.runHook h signal s
    if h.panics then (some h.panicMessage, s) else runHooks T signal rest s

namespace Coordinator

def arm (c : Coordinator) : Coordinator := { c with armed := c.armed + 1 }

variable {σ : Type}

def onReload (T : Target σ) (c : Coordinator) (s : σ) : Handling σ :=
  ⟨c.arm, (T.reload s).2, [.hammer .reload]⟩

/-- only a running process begins to end -/
def onShutdown (T : Target σ) (c : Coordinator) (signal : Signal) (s : σ) : Handling σ :=
  if T.state s ≠ .running then ⟨c, s, []⟩
  else
    let (course, s) := T.shutdown (T.setState .shuttingDown s)
    ⟨c.arm, s, [.hammer signal, .graceful course]⟩

def act (T : Target σ) (c : Coordinator) (signal : Signal) (s : σ) : Handling σ :=
  match signal with
  | .reload => onReload T c s
  | .interrupt | .terminate => onShutdown T c signal s

/-- handles one signal; the answer is the message of the callback that panicked, if one did -/
def dispatch (T : Target σ) (c : Coordinator) (signal : Signal) (s : σ) :
    Option String × Handling σ :=
  let (panic, s) := runHooks T signal ((T.hooks s).matching .pre signal) s
  if panic.isSome then (panic, ⟨c, s, []⟩)
  else
    let handling := act T c signal s
    let (panic, s) := runHooks T signal ((T.hooks handling.target).matching .post signal)
      handling.target
    (panic, { handling with target := s })

end Coordinator
end Succession
