import Succession.Lifecycle.Coordinator

/-!
# Tasks on a virtual clock

Tasks that can run do so in the order in which they became ready. A timer makes its task ready when
the clock reaches its deadline; timers of one deadline do so in the order of their making. The clock
moves only while somebody waits on it, in milliseconds.

* `Executor.settle`     every task that can run does run;
* `Executor.advance`    the clock moves on, and timers fire at their deadlines;
* `Executor.spawn`      the tasks that handling a signal left behind;
* `SignalQueue`         the queue of a detached coordinator.
-/

namespace Succession

/-- a task of the process `owner` -/
inductive Task (ι : Type) where
  /-- takes the signals out of the owner's queue -/
  | consume (owner : ι)
  /-- begins to wait for the forced end -/
  | hammer (owner : ι) (reason : Signal) (timeout : Duration)
  /-- forces the end -/
  | strike (owner : ι) (reason : Signal) (timeout : Duration)
  /-- begins the graceful end with this number -/
  | graceful (ending : Nat) (course : Course)
  /-- the graceful end is done -/
  | complete (ending : Nat)
  /-- ends the process once the graceful end is done -/
  | watch (owner : ι) (ending : Nat)
deriving DecidableEq, Repr

structure Timer (ι : Type) where
  deadline : Nat
  task : Task ι
deriving DecidableEq, Repr

/-- the queue of a coordinator that takes signals by itself -/
structure SignalQueue where
  coordinator : Coordinator
  signals : List Signal
  /-- its task has neither been stopped nor panicked -/
  running : Bool
deriving DecidableEq, Repr

structure Executor (ι : Type) where
  clock : Nat
  ready : List (Task ι)
  /-- by deadline, and by age within a deadline -/
  timers : List (Timer ι)
  queues : List (ι × SignalQueue)
  /-- the number of graceful ends begun so far -/
  endings : Nat
  /-- the graceful ends that are done -/
  completed : List Nat
  /-- who waits for a graceful end -/
  watching : List (Nat × ι)
deriving Repr

/-- the state of the targets beside the tasks that act on them -/
abbrev Running (ι σ : Type) := σ × Executor ι

namespace Executor

variable {ι σ : Type} [DecidableEq ι]

def new : Executor ι := ⟨0, [], [], [], 0, [], []⟩

instance : Inhabited (Executor ι) := ⟨new⟩

def wake (e : Executor ι) (task : Task ι) : Executor ι := { e with ready := e.ready ++ [task] }

/-- a timer goes behind those of the same deadline -/
def insertTimer (timer : Timer ι) : List (Timer ι) → List (Timer ι)
  | [] => [timer]
  | t :: rest => if t.deadline ≤ timer.deadline then t :: insertTimer timer rest
      else timer :: t :: rest

/-- the task becomes ready after so many milliseconds, and is ready at once after none -/
def sleep (e : Executor ι) (millis : Nat) (task : Task ι) : Executor ι :=
  { e with timers := insertTimer ⟨e.clock + millis, task⟩ e.timers }

/-- the tasks that handling a signal left behind, in order -/
def spawn (owner : ι) (timeout : Duration) (e : Executor ι) : List Aftermath → Executor ι
  | [] => e
  | .hammer reason :: rest => spawn owner timeout (e.wake (.hammer owner reason timeout)) rest
  | .graceful course :: rest =>
    let ending := e.endings
    let e := { e with endings := ending + 1 }.wake (.graceful ending course)
    spawn owner timeout (e.wake (.watch owner ending)) rest

/-- a forced end of the owner waits for its deadline -/
def isArmed (e : Executor ι) (owner : ι) : Bool :=
  e.timers.any fun t => match t.task with
    | .strike of _ _ => of = owner
    | _ => false

/-! ## queues -/

def queue? (e : Executor ι) (owner : ι) : Option SignalQueue := e.queues.lookup owner

def setQueue (e : Executor ι) (owner : ι) (q : SignalQueue) : Executor ι :=
  { e with queues := (owner, q) :: e.queues.filter fun p => p.1 ≠ owner }

/-- puts a signal into the owner's queue; the answer is whether there is somebody to take it out -/
def send (e : Executor ι) (owner : ι) (signal : Signal) : Bool × Executor ι :=
  match e.queue? owner with
  | none => (false, e)
  | some q =>
    if q.running then
      (true, (e.setQueue owner { q with signals := q.signals ++ [signal] }).wake (.consume owner))
    else (false, e)

/-- stops the task that takes signals out of the owner's queue -/
def abort (e : Executor ι) (owner : ι) : Executor ι :=
  match e.queue? owner with
  | none => e
  | some q => e.setQueue owner { q with signals := [], running := false }

/-- handles queued signals in order, up to the first whose callback panics -/
def consume (T : Target σ) (owner : ι) (c : Coordinator) (s : σ) (e : Executor ι) :
    List Signal → Coordinator × Bool × Running ι σ
  | [] => (c, true, s, e)
  | signal :: rest =>
    let (panic, h) := c.dispatch T signal s
    let e := e.spawn owner c.hammerTimeout h.aftermath
    if panic.isSome then (h.coordinator, false, h.target, e)
    else consume T owner h.coordinator h.target e rest

/-! ## running tasks -/

/-- forces the end: a line for the logger, and the exit whatever became of it -/
def strike (T : Target σ) (reason : Signal) (timeout : Duration) (s : σ) : σ :=
  T.exit hammerExitCode (T.log (hammerLine reason timeout) s)

/-- the graceful end is done: the state says so before the process exits -/
def finish (T : Target σ) (s : σ) : σ := T.exit 0 (T.setState .terminate s)

def poll (targets : ι → Target σ) (task : Task ι) : Running ι σ → Running ι σ
  | (s, e) => match task with
    | .consume owner => match e.queue? owner with
      | none => (s, e)
      | some q =>
        if ¬ q.running then (s, e)
        else
          let (coordinator, running, s, e) :=
            consume (targets owner) owner q.coordinator s e q.signals
          (s, e.setQueue owner ⟨coordinator, [], running⟩)
    | .hammer owner reason timeout =>
      if timeout.timerMillis = 0 then (strike (targets owner) reason timeout s, e)
      else (s, e.sleep timeout.timerMillis (.strike owner reason timeout))
    | .strike owner reason timeout => (strike (targets owner) reason timeout s, e)
    | .graceful ending course => match course with
      | .after 0 => (s, { e with completed := ending :: e.completed })
      | .after millis => (s, e.sleep millis (.complete ending))
      | .never | .panics => (s, e)
    | .complete ending =>
      let e := { e with completed := ending :: e.completed }
      match e.watching.lookup ending with
      | none => (s, e)
      | some owner => (s, e.wake (.watch owner ending))
    | .watch owner ending =>
      if e.completed.contains ending then (finish (targets owner) s, e)
      else (s, { e with watching := (ending, owner) :: e.watching })

/-- runs ready tasks in order, at most `limit` of them, as long as no process has ended -/
def runReady (targets : ι → Target σ) (ended : σ → Bool) : Nat → Running ι σ → Running ι σ
  | 0, r => r
  | limit + 1, (s, e) =>
    if ended s then (s, e)
    else match e.ready with
      | [] => (s, e)
      | task :: rest =>
        runReady targets ended limit (poll targets task (s, { e with ready := rest }))

/-- how many polls the ready tasks can lead to: a queued signal leaves three tasks, and a task that
completes wakes one more -/
def pollBound (e : Executor ι) : Nat :=
  e.queues.foldl (fun n q => n + 4 * q.2.signals.length) (2 * e.ready.length)

/-- every task that can run does run -/
def settle (targets : ι → Target σ) (ended : σ → Bool) (r : Running ι σ) : Running ι σ :=
  runReady targets ended r.2.pollBound r

/-! ## the clock -/

/-- the timers of the next deadline make their tasks ready, and these run -/
def fireNext (targets : ι → Target σ) (ended : σ → Bool) (r : Running ι σ) (deadline : Nat) :
    Running ι σ :=
  let (s, e) := r
  let due := e.timers.takeWhile fun t => t.deadline ≤ deadline
  settle targets ended (s, { e with
    clock := deadline
    timers := e.timers.drop due.length
    ready := e.ready ++ due.map (·.task) })

/-- the clock moves to `target`, and stops at deadlines on its way, at most `limit` of them -/
def advanceTo (targets : ι → Target σ) (ended : σ → Bool) (target : Nat) :
    Nat → Running ι σ → Running ι σ
  | 0, r => r
  | limit + 1, (s, e) =>
    if ended s then (s, e)
    else match e.timers with
      | [] => (s, { e with clock := target })
      | t :: _ =>
        if target < t.deadline then (s, { e with clock := target })
        else advanceTo targets ended target limit
          (fireNext targets ended (s, e) t.deadline)

def advance (targets : ι → Target σ) (ended : σ → Bool) (millis : Nat) (r : Running ι σ) :
    Running ι σ :=
  advanceTo targets ended (r.2.clock + millis) (r.2.timers.length + 1) r

end Executor
end Succession
