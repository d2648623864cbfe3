import Succession.Proofs.Lifecycle.Acts

/-!
# The conduct of a coordinator

One coordinator and the tasks that its signals leave behind. Signals are handed to it one by one, or
through its queue once it has been started; tasks are polled one at a time, and the clock moves while
nothing is ready. What it has handled so far is its history.

* `Handled`, `History`         a signal, with the clock and the state that it met;
* `Conducted T timeout s h r`  `r` is reached from the target's state `s`, with the history `h`;
* `Conducted.onward`           the executor's own runs are made of these steps, and end.
-/

namespace Succession

structure Handled where
  clock : Nat
  state : LifecycleState
  signal : Signal
deriving DecidableEq, Repr

abbrev History := List Handled

namespace Handled

def begins (h : Handled) : Bool := h.state = .running ∧ h.signal ≠ .reload

def isReload (h : Handled) : Bool := h.signal = .reload

end Handled

variable {σ : Type}

/-- what is handled when signals are taken out of a queue -/
def handledFrom (T : Target σ) (clock : Nat) (c : Coordinator) (s : σ) : List Signal → History
  | [] => []
  | signal :: rest =>
    let handling := (c.dispatch T signal s).2
    ⟨clock, T.state s, signal⟩ ::
      handledFrom T clock handling.coordinator handling.target rest

def handledBy (T : Target σ) (s : σ) (e : Executor Unit) : Task Unit → History
  | .consume _ => match e.queue? () with
    | some q => if q.running then handledFrom T e.clock q.coordinator s q.signals else []
    | none => []
  | _ => []

/-- a target, the tasks that act on it, and the coordinator until it is started -/
structure Conduct (σ : Type) where
  target : σ
  tasks : Executor Unit
  direct : Option Coordinator

namespace Conduct

def armed (r : Conduct σ) : Nat :=
  match r.direct with
  | some c => c.armed
  | none => ((r.tasks.queue? ()).map (·.coordinator.armed)).getD 0

def settle (T : Target σ) (r : Conduct σ) : Conduct σ :=
  let after := Executor.settle (fun _ => T) T.ended (r.target, r.tasks)
  ⟨after.1, after.2, r.direct⟩

def advance (T : Target σ) (millis : Nat) (r : Conduct σ) : Conduct σ :=
  let after := Executor.advance (fun _ => T) T.ended millis (r.target, r.tasks)
  ⟨after.1, after.2, r.direct⟩

end Conduct

inductive Conducted (T : Target σ) (timeout : Duration) (s₀ : σ) : History → Conduct σ → Prop where
  | begin : Conducted T timeout s₀ [] ⟨s₀, .new, some ⟨timeout, 0⟩⟩
  /-- a signal is handed to the coordinator -/
  | dispatch {h : History} {s : σ} {e : Executor Unit} {c : Coordinator} (signal : Signal)
      (prior : Conducted T timeout s₀ h ⟨s, e, some c⟩) :
      Conducted T timeout s₀ (h ++ [⟨e.clock, T.state s, signal⟩])
        ⟨(c.dispatch T signal s).2.target,
          e.spawn () c.hammerTimeout (c.dispatch T signal s).2.aftermath,
          some (c.dispatch T signal s).2.coordinator⟩
  /-- the coordinator takes its signals out of a queue from now on -/
  | start {h : History} {s : σ} {e : Executor Unit} {c : Coordinator}
      (prior : Conducted T timeout s₀ h ⟨s, e, some c⟩)
      (hstate : T.state s = .init ∨ T.state s = .running) :
      Conducted T timeout s₀ h ⟨T.setState .running s, e.setQueue () ⟨c, [], true⟩, none⟩
  | send {h : History} {s : σ} {e : Executor Unit} (signal : Signal)
      (prior : Conducted T timeout s₀ h ⟨s, e, none⟩) :
      Conducted T timeout s₀ h ⟨s, (e.send () signal).2, none⟩
  /-- the queue is given up -/
  | abort {h : History} {s : σ} {e : Executor Unit} (prior : Conducted T timeout s₀ h ⟨s, e, none⟩) :
      Conducted T timeout s₀ h ⟨s, e.abort (), none⟩
  | poll {h : History} {s : σ} {e : Executor Unit} {direct : Option Coordinator} {task : Task Unit}
      {rest : List (Task Unit)} (prior : Conducted T timeout s₀ h ⟨s, e, direct⟩)
      (hlive : T.ended s = false) (hready : e.ready = task :: rest) :
      Conducted T timeout s₀ (h ++ handledBy T s e task)
        ⟨(Executor.poll (fun _ => T) task (s, { e with ready := rest })).1,
          (Executor.poll (fun _ => T) task (s, { e with ready := rest })).2, direct⟩
  /-- the clock reaches the next deadline -/
  | fire {h : History} {s : σ} {e : Executor Unit} {direct : Option Coordinator} {t : Timer Unit}
      {rest : List (Timer Unit)} (prior : Conducted T timeout s₀ h ⟨s, e, direct⟩)
      (hready : e.ready = []) (htimers : e.timers = t :: rest) :
      Conducted T timeout s₀ h ⟨s, e.due t.deadline, direct⟩
  /-- the clock moves on without reaching it -/
  | tick {h : History} {s : σ} {e : Executor Unit} {direct : Option Coordinator} (clock : Nat)
      (prior : Conducted T timeout s₀ h ⟨s, e, direct⟩) (hready : e.ready = [])
      (hle : e.clock ≤ clock) (hnext : ∀ t ∈ e.timers, clock < t.deadline) :
      Conducted T timeout s₀ h ⟨s, { e with clock }, direct⟩

/-! ## whole runs -/

variable {T : Target σ} {timeout : Duration} {s₀ s : σ} {h : History} {e : Executor Unit}
  {direct : Option Coordinator} {r : Conduct σ}

/-- what tasks do by themselves goes on a run -/
theorem Conducted.acts {r r' : Running Unit σ}
    (prior : Conducted T timeout s₀ h ⟨r.1, r.2, direct⟩)
    (hacts : Executor.Acts (fun _ => T) T.ended r r') :
    ∃ more, Conducted T timeout s₀ (h ++ more) ⟨r'.1, r'.2, direct⟩ := by
  induction hacts with
  | refl => exact ⟨[], (List.append_nil h).symm ▸ prior⟩
  | tail _ hact ih =>
    obtain ⟨more, hmore⟩ := ih
    cases hact with
    | poll hlive hready =>
      have hpoll := hmore.poll hlive hready
      rw [List.append_assoc] at hpoll
      exact ⟨_, hpoll⟩
    | fire hready htimers => exact ⟨more, hmore.fire hready htimers⟩
    | tick clock hready hle hnext => exact ⟨more, hmore.tick clock hready hle hnext⟩

/-- every task that can run does run, and is at its end then -/
theorem Conducted.settle (prior : Conducted T timeout s₀ h r) :
    (∃ more, Conducted T timeout s₀ (h ++ more) (r.settle T)) ∧
      (T.ended (r.settle T).target = true ∨ (r.settle T).tasks.ready = []) := by
  have hsettle := Executor.settle_acts (fun _ => T) T.ended (r.target, r.tasks)
  exact ⟨prior.acts hsettle.1, hsettle.2⟩

theorem Conducted.timely (hr : Conducted T timeout s₀ h r) : r.tasks.Timely := by
  induction hr with
  | begin => exact Executor.timely_new
  | dispatch signal _ ih => exact ih.of_eq (Executor.timers_spawn ..)
  | start _ _ ih => exact ih.of_eq ⟨rfl, rfl⟩
  | send signal _ ih =>
    refine ih.of_eq ?_
    unfold Executor.send
    split
    · exact ⟨rfl, rfl⟩
    · split <;> exact ⟨rfl, rfl⟩
  | abort _ ih =>
    refine ih.of_eq ?_
    unfold Executor.abort
    split <;> exact ⟨rfl, rfl⟩
  | @poll h s e direct task rest _ _ _ ih =>
    have hrest : ({ e with ready := rest } : Executor Unit).Timely := ih.of_eq ⟨rfl, rfl⟩
    exact hrest.poll (fun _ => T) task s
  | fire _ _ _ ih => exact ih.due _
  | tick clock _ _ _ hnext ih => exact ih.tick hnext

/-- **Time goes by**: all of it, unless the process ends on the way. -/
theorem Conducted.advance (prior : Conducted T timeout s₀ h r) (hready : r.tasks.ready = [])
    (millis : Nat) :
    (∃ more, Conducted T timeout s₀ (h ++ more) (r.advance T millis)) ∧
      (T.ended (r.advance T millis).target = true ∨ (r.advance T millis).tasks.ready = [] ∧
        (r.advance T millis).tasks.clock = r.tasks.clock + millis) := by
  have hadvance := Executor.advance_acts (r := (r.target, r.tasks)) (fun _ => T) T.ended
    prior.timely hready millis
  exact ⟨prior.acts hadvance.1, hadvance.2⟩

/-- a run goes on, whatever is left of it: what can run does run to its end, and time goes by, unless
the process ends -/
structure Onward (T : Target σ) (timeout : Duration) (s₀ : σ) (h : History) (r : Conduct σ) :
    Prop where
  settles : (∃ more, Conducted T timeout s₀ (h ++ more) (r.settle T)) ∧
    (T.ended (r.settle T).target = true ∨ (r.settle T).tasks.ready = [])
  advances : r.tasks.ready = [] → ∀ millis,
    (∃ more, Conducted T timeout s₀ (h ++ more) (r.advance T millis)) ∧
      (T.ended (r.advance T millis).target = true ∨ (r.advance T millis).tasks.ready = [] ∧
        (r.advance T millis).tasks.clock = r.tasks.clock + millis)

theorem Conducted.onward (prior : Conducted T timeout s₀ h r) : Onward T timeout s₀ h r :=
  ⟨prior.settle, fun hready millis => prior.advance hready millis⟩

end Succession
