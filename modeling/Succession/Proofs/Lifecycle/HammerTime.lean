import Succession.Lifecycle.Recorder
import Succession.Proofs.Lifecycle.Armory

/-!
# Every forced end comes, and comes once

A coordinator is given signals, and time goes by. Its target is free to do what it likes: callbacks
panic, successors do not start, a graceful end is done early, late or never, and the logger may be
missing or panic. A forced end that is armed strikes at its deadline all the same.

* `Target.heard`         a target that notes the lines of its logger and its exits;
* `Target.arms`          which signals arm a forced end;
* `Cue`, `Drill`         signals and time, in any order;
* `Drill.Keeps`          the invariant: the forced ends that struck are the ones that were noted;
* `Drill.hammer_time`    what was noted, at any time.
-/

namespace Succession

inductive Note where
  | line (text : String)
  | exit (code : Nat)
deriving DecidableEq, Repr

structure Heard (σ : Type) where
  base : σ
  notes : List Note

def Heard.forced {σ : Type} (s : Heard σ) : List Note := s.notes.filter fun n => n ≠ .exit 0

variable {σ : Type}

/-- an exit is noted and ends nothing, so that those behind the first are noted as well -/
def Target.heard (T : Target σ) (logger : LoggerKind) : Target (Heard σ) where
  state s := T.state s.base
  setState state s := ⟨T.setState state s.base, s.notes⟩
  hooks s := T.hooks s.base
  runHook h signal s := ⟨T.runHook h signal s.base, s.notes⟩
  reload s := ((T.reload s.base).1, ⟨(T.reload s.base).2, s.notes⟩)
  shutdown s := ((T.shutdown s.base).1, ⟨(T.shutdown s.base).2, s.notes⟩)
  exit code s := ⟨T.exit code s.base, s.notes ++ [.exit code]⟩
  log line s := match logger with
    | .collecting => ⟨T.log line s.base, s.notes ++ [.line line]⟩
    | .panicking => ⟨T.log line s.base, s.notes⟩
    | .absent => s
  ended _ := false

/-- what is noted of a forced end that strikes -/
def Arming.blow (timeout : Duration) (logger : LoggerKind) (x : Arming) : List Note :=
  match logger with
  | .collecting => [.line (hammerLine x.reason timeout), .exit hammerExitCode]
  | .absent | .panicking => [.exit hammerExitCode]

/-! ## drills -/

inductive Cue where
  | dispatch (signal : Signal)
  /-- so many milliseconds go by, once nothing is ready any more -/
  | pass (millis : Nat)
deriving DecidableEq, Repr

def elapsed : List Cue → Nat
  | [] => 0
  | .dispatch _ :: rest => elapsed rest
  | .pass millis :: rest => millis + elapsed rest

/-- a reload arms a forced end, and so does a signal to end that meets a running process, unless a
callback before it panics -/
def Target.arms (T : Target σ) (signal : Signal) (s : σ) : Bool :=
  let before := runHooks T signal ((T.hooks s).matching .pre signal) s
  before.1.isNone && (signal = .reload || T.state before.2 = .running)

/-- a target, the tasks that act on it, its coordinator, and the forced ends that were armed -/
structure Drill (σ : Type) where
  target : σ
  tasks : Executor Unit
  coordinator : Coordinator
  armings : List Arming

namespace Drill

def dispatch (T : Target σ) (signal : Signal) (r : Drill σ) : Drill σ :=
  let handling := (r.coordinator.dispatch T signal r.target).2
  ⟨handling.target,
    r.tasks.spawn () r.coordinator.hammerTimeout handling.aftermath,
    handling.coordinator,
    r.armings ++ if T.arms signal r.target then [⟨r.tasks.clock, signal⟩] else []⟩

def resume (r : Drill σ) (running : Running Unit σ) : Drill σ :=
  { r with target := running.1, tasks := running.2 }

def settle (T : Target σ) (r : Drill σ) : Drill σ :=
  r.resume (Executor.settle (fun _ => T) T.ended (r.target, r.tasks))

def pass (T : Target σ) (millis : Nat) (r : Drill σ) : Drill σ :=
  r.resume (Executor.advance (fun _ => T) T.ended millis (r.target, r.tasks))

def obey (T : Target σ) (r : Drill σ) : Cue → Drill σ
  | .dispatch signal => r.dispatch T signal
  | .pass millis => (r.settle T).pass T millis

def begin (s : σ) (timeout : Duration) : Drill σ := ⟨s, .new, ⟨timeout, 0⟩, []⟩

def run (T : Target σ) (r : Drill σ) (cues : List Cue) : Drill σ :=
  cues.foldl (obey T) r

end Drill

/-! ## what handling a signal arms -/

section
variable {T : Target σ} {logger : LoggerKind}

/-- **Handling a signal** arms a forced end in the signal's name, and counts it, or none. -/
theorem dispatch_arms (T : Target σ) (c : Coordinator) (signal : Signal) (s : σ) (clock : Nat) :
    armedBy clock (c.dispatch T signal s).2.aftermath =
        (if T.arms signal s then [⟨clock, signal⟩] else []) ∧
      (c.dispatch T signal s).2.coordinator = if T.arms signal s then c.arm else c := by
  unfold Coordinator.dispatch Target.arms
  generalize runHooks T signal ((T.hooks s).matching .pre signal) s = before
  obtain ⟨panic, s⟩ := before
  cases panic with
  | some message => exact ⟨rfl, rfl⟩
  | none =>
    have hend : armedBy clock (Coordinator.onShutdown T c signal s).aftermath =
          (if decide (T.state s = .running) then [⟨clock, signal⟩] else []) ∧
        (Coordinator.onShutdown T c signal s).coordinator =
          if decide (T.state s = .running) then c.arm else c := by
      unfold Coordinator.onShutdown
      by_cases hrunning : T.state s = .running
      · rw [if_neg (not_not.mpr hrunning), decide_eq_true hrunning]
        exact ⟨rfl, rfl⟩
      · rw [if_pos hrunning, decide_eq_false hrunning]
        exact ⟨rfl, rfl⟩
    cases signal with
    | reload => exact ⟨rfl, rfl⟩
    | interrupt => exact hend
    | terminate => exact hend

theorem dispatch_hammerTimeout (T : Target σ) (c : Coordinator) (signal : Signal) (s : σ) :
    (c.dispatch T signal s).2.coordinator.hammerTimeout = c.hammerTimeout := by
  rw [(dispatch_arms T c signal s 0).2]
  split <;> rfl

theorem runHooks_notes (T : Target σ) (logger : LoggerKind) (signal : Signal) (hooks : Hooks)
    (s : Heard σ) : (runHooks (T.heard logger) signal hooks s).2.notes = s.notes := by
  induction hooks generalizing s with
  | nil => rfl
  | cons h hooks ih =>
    unfold runHooks
    dsimp only
    split
    · rfl
    · exact ih _

theorem dispatch_notes (T : Target σ) (logger : LoggerKind) (c : Coordinator) (signal : Signal)
    (s : Heard σ) : (c.dispatch (T.heard logger) signal s).2.target.notes = s.notes := by
  have hend (s : Heard σ) :
      (Coordinator.onShutdown (T.heard logger) c signal s).target.notes = s.notes := by
    unfold Coordinator.onShutdown
    split <;> rfl
  have hact (s : Heard σ) : (c.act (T.heard logger) signal s).target.notes = s.notes := by
    cases signal with
    | reload => rfl
    | interrupt => exact hend s
    | terminate => exact hend s
  unfold Coordinator.dispatch
  dsimp only
  split
  · exact runHooks_notes ..
  · exact (runHooks_notes ..).trans ((hact _).trans (runHooks_notes ..))

/-! ## ends -/

theorem forced_finish (T : Target σ) (logger : LoggerKind) (s : Heard σ) :
    (Executor.finish (T.heard logger) s).forced = s.forced := by
  show (s.notes ++ [Note.exit 0]).filter _ = s.notes.filter _
  rw [List.filter_append]
  exact List.append_nil _

theorem forced_strike (T : Target σ) (logger : LoggerKind) (timeout : Duration) (s : Heard σ)
    (x : Arming) :
    (Executor.strike (T.heard logger) x.reason timeout s).forced =
      s.forced ++ x.blow timeout logger := by
  cases logger with
  | collecting =>
    show ((s.notes ++ [Note.line _]) ++ [Note.exit 1]).filter _ = s.notes.filter _ ++ _
    rw [List.append_assoc, List.filter_append]
    rfl
  | absent | panicking =>
    show (s.notes ++ [Note.exit 1]).filter _ = s.notes.filter _ ++ _
    rw [List.filter_append]
    rfl

end

namespace Drill

variable {T : Target σ} {logger : LoggerKind} {timeout : Duration} {a : Armory}
  {r : Drill (Heard σ)}

/-- the forced ends are those that were armed, and what struck is what was noted -/
structure Keeps (logger : LoggerKind) (timeout : Duration) (a : Armory) (r : Drill (Heard σ)) :
    Prop where
  all : a.all = r.armings
  holds : a.Holds timeout r.tasks
  constant : r.coordinator.hammerTimeout = timeout
  armed : r.armings.length = r.coordinator.armed
  forced : r.target.forced = a.struck.flatMap (·.blow timeout logger)

namespace Keeps

theorem begin (logger : LoggerKind) (s : σ) (timeout : Duration) :
    Keeps logger timeout .empty (begin ⟨s, []⟩ timeout) :=
  ⟨rfl, Armory.holds_new timeout, rfl, rfl, rfl⟩

theorem dispatch (k : Keeps logger timeout a r) (signal : Signal) :
    ∃ a' : Armory, Keeps logger timeout a' (r.dispatch (T.heard logger) signal) := by
  obtain ⟨harms, hcoordinator⟩ :=
    dispatch_arms (T.heard logger) r.coordinator signal r.target r.tasks.clock
  have htimeout := dispatch_hammerTimeout (T.heard logger) r.coordinator signal r.target
  have hnotes := dispatch_notes T logger r.coordinator signal r.target
  have hspawn := k.holds.spawn
    (r.coordinator.dispatch (T.heard logger) signal r.target).2.aftermath
  rw [harms] at hspawn
  have holds : (a.add (if (T.heard logger).arms signal r.target then
      [⟨r.tasks.clock, signal⟩] else [])).Holds timeout
        (r.dispatch (T.heard logger) signal).tasks := by
    show Armory.Holds timeout _ (r.tasks.spawn () r.coordinator.hammerTimeout _)
    rw [k.constant]
    exact hspawn
  refine ⟨_, ?_, holds, htimeout.trans k.constant, ?_, ?_⟩
  · rw [Armory.all_add, k.all]
    rfl
  · have harmed := k.armed
    show (r.armings ++ _).length =
      (r.coordinator.dispatch (T.heard logger) signal r.target).2.coordinator.armed
    rw [hcoordinator, List.length_append]
    split
    · exact congrArg (· + 1) harmed
    · exact harmed
  · have hforced : (r.dispatch (T.heard logger) signal).target.forced = r.target.forced :=
      congrArg (List.filter _) hnotes
    exact hforced.trans k.forced

/-- a forced end is noted as it strikes -/
theorem blow {running : Running Unit (Heard σ)} (k : Keeps logger timeout a r)
    (hblow : Armory.Blow (T.heard logger) timeout a r.target running) :
    ∃ a' : Armory, Keeps logger timeout a' (r.resume running) := by
  cases hblow with
  | @wait a' _ hall hstruck holds =>
    refine ⟨a', hall.trans k.all, holds, k.constant, k.armed, ?_⟩
    rw [hstruck]
    exact k.forced
  | @strike a' _ x hall hstruck holds =>
    refine ⟨a', hall.trans k.all, holds, k.constant, k.armed, ?_⟩
    rw [hstruck, List.flatMap_append, List.flatMap_singleton, ← k.forced]
    exact forced_strike T logger timeout r.target x

theorem act {ended : Heard σ → Bool} {running : Running Unit (Heard σ)}
    (k : Keeps logger timeout a r)
    (hact : Executor.Act (fun _ => T.heard logger) ended (r.target, r.tasks) running) :
    ∃ a' : Armory, Keeps logger timeout a' (r.resume running) := by
  obtain ⟨s, e, c, armings⟩ := r
  cases hact with
  | @poll _ _ task rest _ hready =>
    have haside (hhammers : task.hammers = false) (hstrikes : task.strikes = false) :
        Keeps logger timeout a (resume ⟨s, e, c, armings⟩
          (Executor.poll (fun _ => T.heard logger) task (s, { e with ready := rest }))) := by
      refine ⟨k.all, k.holds.poll_aside hready hhammers hstrikes, k.constant, k.armed, ?_⟩
      have htarget := Executor.poll_target (fun _ => T.heard logger) s
        (e := { e with ready := rest }) k.holds.queues hhammers hstrikes
      show Heard.forced (Executor.poll (fun _ => T.heard logger) task _).1 = _
      obtain htarget | htarget := htarget
      · rw [htarget]
        exact k.forced
      · rw [htarget]
        exact (forced_finish T logger s).trans k.forced
    cases task with
    | hammer => exact k.blow (k.holds.hammer hready)
    | strike => exact k.blow (k.holds.strike hready)
    | consume | graceful | complete | watch => exact ⟨a, haside rfl rfl⟩
  | fire hready htimers =>
    obtain ⟨a', hall, hstruck, holds⟩ := k.holds.fire hready htimers
    refine ⟨a', hall.trans k.all, holds, k.constant, k.armed, ?_⟩
    rw [hstruck]
    exact k.forced
  | tick clock hready hle hnext =>
    exact ⟨a, k.all, k.holds.tick hready hle hnext, k.constant, k.armed, k.forced⟩

theorem acts {ended : Heard σ → Bool} {running : Running Unit (Heard σ)}
    (k : Keeps logger timeout a r)
    (hacts : Executor.Acts (fun _ => T.heard logger) ended (r.target, r.tasks) running) :
    ∃ a' : Armory, Keeps logger timeout a' (r.resume running) := by
  induction hacts with
  | refl => exact ⟨a, k⟩
  | tail _ hact ih =>
    obtain ⟨a', k'⟩ := ih
    exact k'.act hact

theorem settle (k : Keeps logger timeout a r) :
    (∃ a' : Armory, Keeps logger timeout a' (r.settle (T.heard logger))) ∧
      (r.settle (T.heard logger)).tasks.ready = [] ∧
      (r.settle (T.heard logger)).tasks.clock = r.tasks.clock := by
  obtain ⟨hacts, hquiet⟩ := Executor.settle_acts (fun _ => T.heard logger)
    (T.heard logger).ended (r.target, r.tasks)
  exact ⟨k.acts hacts, hquiet.resolve_left Bool.false_ne_true, Executor.clock_runReady ..⟩

theorem pass (k : Keeps logger timeout a r) (hready : r.tasks.ready = []) (millis : Nat) :
    (∃ a' : Armory, Keeps logger timeout a' (r.pass (T.heard logger) millis)) ∧
      (r.pass (T.heard logger) millis).tasks.clock = r.tasks.clock + millis := by
  obtain ⟨hacts, hend⟩ := Executor.advance_acts (r := (r.target, r.tasks))
    (fun _ => T.heard logger) (T.heard logger).ended k.holds.timely hready millis
  exact ⟨k.acts hacts, (hend.resolve_left Bool.false_ne_true).2⟩

/-- **A run** keeps the invariant, and takes as long as its cues say. -/
theorem run (k : Keeps logger timeout a r) (cues : List Cue) :
    (∃ a' : Armory, Keeps logger timeout a' (r.run (T.heard logger) cues)) ∧
      (r.run (T.heard logger) cues).tasks.clock = r.tasks.clock + elapsed cues := by
  induction cues generalizing a r with
  | nil => exact ⟨⟨a, k⟩, rfl⟩
  | cons cue cues ih =>
    cases cue with
    | dispatch signal =>
      obtain ⟨a', k'⟩ := k.dispatch (T := T) signal
      obtain ⟨hkeeps, hclock⟩ := ih k'
      exact ⟨hkeeps, hclock.trans (congrArg (· + _) (Executor.timers_spawn ..).2)⟩
    | pass millis =>
      obtain ⟨⟨a', k'⟩, hready, hstill⟩ := k.settle (T := T)
      obtain ⟨⟨a'', k''⟩, hmoved⟩ := k'.pass (T := T) hready millis
      obtain ⟨hkeeps, hclock⟩ := ih k''
      refine ⟨hkeeps, hclock.trans ?_⟩
      show ((r.settle (T.heard logger)).pass (T.heard logger) millis).tasks.clock + _ =
        r.tasks.clock + (millis + elapsed cues)
      rw [hmoved, hstill, Nat.add_assoc]

end Keeps

end Drill
end Succession
