import Succession.Proofs.Lifecycle.Life

/-!
# Polls, deadlines and the life of a process

A poll and a deadline lead from one stage of the graceful end to the next, and leave the life of the
process in order. What is polled beside the graceful end leaves its stage alone.

* `Life.pollEnding`   a task of the graceful end;
* `Life.consume`      the signals of a queue;
* `Life.due`, `Life.tick`   the clock.
-/

namespace Succession

variable {σ : Type} {T : Target σ} {ok : Traced σ → Prop} {first : LifecycleState} {h : History}
  {armed : Nat} {s s' : Traced σ} {e e' : Executor Unit}

/-! ## the graceful end -/

theorem Life.pend (hl : Life T ok first h armed s e) (htimely : e'.Timely)
    (hending : Ending T h s e') : Life T ok first h armed s e' :=
  ⟨hl.ok, htimely, hl.moves, hl.last, hl.armed, hl.reloads, hl.exits, hending⟩

/-- the graceful end is done: the state says so, and the process exits -/
theorem Life.finish (hT : T.traced.Lawful ok) (hl : Life T ok first h armed s e)
    {entry : Handled} {course : Course} {millis : Nat} {watching : List (Nat × Unit)}
    (hcourses : s.courses = [course]) (hbegins : h.filter Handled.begins = [entry])
    (hstate : T.state s.base = .shuttingDown) (hcourse : course = .after millis)
    (hdue : entry.clock + millis ≤ e'.clock) (htimely : e'.Timely)
    (hpending : e'.pending = ⟨[], [], [0], watching⟩) :
    Life T ok first h armed (Executor.finish T.traced s) e' := by
  obtain ⟨hok, hset⟩ := hT.setState .terminate s hl.ok
  obtain ⟨hok', hstays⟩ := hT.exit 0 _ hok
  have hstate' : T.state (Executor.finish T.traced s).base = .terminate := hstays.trans hset
  have hcalls : (Executor.finish T.traced s).calls =
      s.calls ++ [.state .terminate, .exit 0] := List.append_assoc ..
  have hstates : (Executor.finish T.traced s).states = s.states ++ [.terminate] :=
    states_eq hcalls
  have hcourses' : (Executor.finish T.traced s).courses = s.courses := by
    rw [courses_eq hcalls]
    exact List.append_nil _
  obtain ⟨hmoves, hlast⟩ := moves_on hl.moves (hstate ▸ hl.last) .finish
  have hnone : .exit 0 ∉ s.calls := by
    have hx := hl.exits
    unfold ExitsWell at hx
    rwa [hstate, if_neg (by decide)] at hx
  refine ⟨hok', htimely, ?_, ?_, ?_, ?_, ?_,
    .during entry course (hcourses'.trans hcourses) hbegins ?_⟩
  · rw [hstates]
    exact hmoves
  · rw [hstates, hstate']
    exact hlast
  · rw [hcourses']
    exact hl.armed
  · rw [hcalls, List.count_append, hl.reloads]
    rfl
  · unfold ExitsWell
    rw [if_pos hstate', hcalls]
    exact ⟨s.calls, [], rfl, hnone, nofun⟩
  · rw [hpending, hstate']
    exact .finished hcourse hdue watching

namespace Executor

variable {τ : Type} (targets : Unit → Target τ) (x : τ)

theorem poll_watch_pending (h : e.completed = []) :
    poll targets (.watch () 0) (x, e) = (x, { e with watching := (0, ()) :: e.watching }) := by
  have hnone : ¬ e.completed.contains 0 = true := by simp [h]
  unfold poll
  dsimp only
  rw [if_neg hnone]

theorem poll_watch_done (h : e.completed = [0]) :
    poll targets (.watch () 0) (x, e) = (finish (targets ()) x, e) := by
  have hdone : e.completed.contains 0 = true := by simp [h]
  unfold poll
  dsimp only
  rw [if_pos hdone]

theorem poll_complete (h : e.watching = [(0, ())]) :
    poll targets (.complete 0) (x, e) =
      (x, ({ e with completed := 0 :: e.completed } : Executor Unit).wake (.watch () 0)) := by
  unfold poll
  dsimp only
  rw [h]
  rfl

theorem pending_watch (h : e.ready.filter Task.ends = []) :
    (e.wake (.watch () 0)).pending = { e.pending with ready := [.watch () 0] } := by
  unfold pending wake
  rw [List.filter_append, h]
  rfl

end Executor

/-- what a poll of a task leads to: the next stage, or the end of the process -/
inductive Phase.Next (course : Course) (began : Nat) (e : Executor Unit) (state : LifecycleState)
    {τ : Type} (target : Target τ) (x : τ) : Running Unit τ → Prop where
  | stage {e' : Executor Unit} (hphase : Phase course began e'.clock e'.pending state) :
      Next course began e state target x (x, e')
  | finish {millis : Nat} {watching : List (Nat × Unit)} (hcourse : course = .after millis)
      (hdue : began + millis ≤ e.clock) (hstate : state = .shuttingDown)
      (hpending : e.pending = ⟨[], [], [0], watching⟩) :
      Next course began e state target x (Executor.finish target x, e)

theorem Phase.poll_graceful {course : Course} {τ : Type} (targets : Unit → Target τ) (x : τ)
    (hpending : e.pending = ⟨[.watch () 0], [], [], []⟩) :
    Phase.Next course e.clock e .shuttingDown (targets ()) x
      (Executor.poll targets (.graceful 0 course) (x, e)) := by
  have hlost (hcourse : ∀ millis, course ≠ .after millis) :
      Phase course e.clock e.clock e.pending .shuttingDown := by
    rw [hpending]
    exact .lost hcourse
  have hcompleted : e.completed = [] := congrArg Pending.completed hpending
  cases course with
  | after millis =>
    cases millis with
    | zero =>
      have hdone : ({ e with completed := 0 :: e.completed } : Executor Unit).pending =
          ⟨[.watch () 0], [], [0], []⟩ := by
        show ({ e.pending with completed := 0 :: e.completed } : Pending) = _
        rw [hpending, hcompleted]
      have hdue : e.clock + 0 ≤ e.clock := Nat.le_refl _
      refine .stage ?_
      rw [hdone]
      exact .done rfl hdue []
    | succ millis =>
      have hends : (Task.complete 0 : Task Unit).ends = true := rfl
      have htimers := Executor.timers_sleep_ending hends (congrArg Pending.timers hpending)
        (millis + 1)
      have hasleep : (e.sleep (millis + 1) (.complete 0)).pending =
          ⟨[.watch () 0], [⟨e.clock + (millis + 1), .complete 0⟩], [], []⟩ := by
        show ({ e.pending with timers := (e.sleep _ _).pending.timers } : Pending) = _
        rw [hpending, htimers]
      refine .stage ?_
      rw [hasleep]
      exact .asleep rfl
  | never => exact .stage (hlost nofun)
  | panics => exact .stage (hlost nofun)

/-- **A poll of one of its tasks** brings the graceful end one stage further. -/
theorem Phase.poll {course : Course} {began : Nat} {state : LifecycleState} {task : Task Unit}
    {τ : Type} (targets : Unit → Target τ) (x : τ)
    (hphase : Phase course began e.clock { e.pending with ready := task :: e.pending.ready } state) :
    Phase.Next course began e state (targets ()) x (Executor.poll targets task (x, e)) := by
  generalize hr : e.pending = pending at hphase
  obtain ⟨ready, timers, completed, watching⟩ := pending
  dsimp only at hphase
  have hwatch (hnone : completed = [])
      (hphase : Phase course began e.clock ⟨ready, timers, completed, (0, ()) :: watching⟩ state) :
      Phase.Next course began e state (targets ()) x
        (Executor.poll targets (.watch () 0) (x, e)) := by
    rw [Executor.poll_watch_pending targets x ((congrArg Pending.completed hr).trans hnone)]
    refine .stage ?_
    show Phase _ _ e.clock { e.pending with watching := (0, ()) :: e.pending.watching } _
    rw [hr]
    exact hphase
  cases hphase with
  | begun hbegan =>
    subst hbegan
    exact Phase.poll_graceful targets x hr
  | asleep hcourse => exact hwatch rfl (.waiting hcourse)
  | lost hcourse => exact hwatch rfl (.endless hcourse)
  | due hcourse hdue =>
    have hready : e.ready.filter Task.ends = [] := congrArg Pending.ready hr
    have hdone : (({ e with completed := 0 :: e.completed } : Executor Unit).wake
        (.watch () 0)).pending = ⟨[.watch () 0], [], [0], [(0, ())]⟩ := by
      rw [Executor.pending_watch (e := { e with completed := 0 :: e.completed }) hready]
      show Pending.mk _ e.pending.timers (0 :: e.pending.completed) e.pending.watching = _
      rw [hr]
    rw [Executor.poll_complete targets x (congrArg Pending.watching hr)]
    refine .stage ?_
    rw [hdone]
    exact .done hcourse hdue _
  | done hcourse hdue watching =>
    rw [Executor.poll_watch_done targets x (congrArg Pending.completed hr)]
    exact .finish hcourse hdue rfl hr

theorem Life.pollEnding {task : Task Unit} {rest : List (Task Unit)} (hT : T.traced.Lawful ok)
    (hl : Life T ok first h armed s e) (hready : e.ready = task :: rest)
    (hends : task.ends = true) :
    Life T ok first h armed
      (Executor.poll (fun _ => T.traced) task (s, { e with ready := rest })).1
      (Executor.poll (fun _ => T.traced) task (s, { e with ready := rest })).2 := by
  have hp := Executor.pending_rest hready
  rw [if_pos hends] at hp
  have htimely : ({ e with ready := rest } : Executor Unit).Timely := hl.timely.of_eq ⟨rfl, rfl⟩
  have hpoll := htimely.poll (fun _ => T.traced) task s
  cases hl.ending with
  | before _ _ _ hnone =>
    rw [hnone] at hp
    cases congrArg Pending.ready hp
  | during entry course hcourses hbegins hphase =>
    rw [hp] at hphase
    have hnext := Phase.poll (e := { e with ready := rest }) (fun _ => T.traced) s hphase
    generalize Executor.poll (fun _ => T.traced) task (s, { e with ready := rest }) = polled
      at hnext hpoll
    cases hnext with
    | stage hphase => exact hl.pend hpoll (.during entry course hcourses hbegins hphase)
    | finish hcourse hdue hstate hpending =>
      exact hl.finish hT hcourses hbegins hstate hcourse hdue hpoll hpending

/-! ## other tasks -/

theorem Life.aside {task : Task Unit} {rest : List (Task Unit)}
    (hl : Life T ok first h armed s e) (hready : e.ready = task :: rest)
    (hends : task.ends = false) : Life T ok first h armed s { e with ready := rest } := by
  have hp := Executor.pending_rest hready
  rw [if_neg (by simp [hends])] at hp
  exact hl.tasks (hl.timely.of_eq ⟨rfl, rfl⟩) hp.symm rfl rfl

theorem Life.pollHammer (hT : T.traced.Lawful ok) (hl : Life T ok first h armed s e)
    (reason : Signal) (timeout : Duration) :
    Life T ok first h armed
      (Executor.poll (fun _ => T.traced) (.hammer () reason timeout) (s, e)).1
      (Executor.poll (fun _ => T.traced) (.hammer () reason timeout) (s, e)).2 := by
  unfold Executor.poll
  dsimp only
  split
  · exact hl.strike hT reason timeout
  · next hm => exact hl.tasks (hl.timely.sleep hm trivial) (Executor.pending_sleep rfl _) rfl rfl

/-- **The signals of a queue** are handled one after another, all of them. -/
theorem Life.consume {c : Coordinator} (hT : T.traced.Lawful ok)
    (hl : Life T ok first h c.armed s e) (signals : List Signal) :
    Life T ok first (h ++ handledFrom T.traced e.clock c s signals)
      (Executor.consume T.traced () c s e signals).1.armed
      (Executor.consume T.traced () c s e signals).2.2.1
      (Executor.consume T.traced () c s e signals).2.2.2 := by
  induction signals generalizing h c s e with
  | nil =>
    unfold handledFrom
    rw [List.append_nil]
    exact hl
  | cons signal signals ih =>
    obtain ⟨hnone, -, -⟩ := dispatch_handles hT hl.ok c signal
    have hnext := ih (hl.dispatch hT signal)
    rw [(Executor.timers_spawn ..).2, List.append_assoc] at hnext
    unfold Executor.consume
    dsimp only
    rw [hnone, if_neg (by decide)]
    exact hnext

/-! ## the clock -/

theorem Life.tick (hl : Life T ok first h armed s e) (hready : e.ready = []) {clock : Nat}
    (hle : e.clock ≤ clock) (hnext : ∀ t ∈ e.timers, clock < t.deadline) :
    Life T ok first h armed s { e with clock } := by
  refine hl.pend (hl.timely.tick hnext) ?_
  cases hl.ending with
  | before hstate hcourses hbegins hpending hendings =>
    exact .before hstate hcourses hbegins hpending hendings
  | during entry course hcourses hbegins hphase =>
    have hnone : e.pending.ready = [] := by simp [Executor.pending, hready]
    exact .during entry course hcourses hbegins (hphase.tick hnone hle)

/-- **A deadline**: what waited for it is ready, and a graceful end may be done. -/
theorem Life.due (hl : Life T ok first h armed s e) (hready : e.ready = []) {deadline : Nat}
    (hle : e.clock ≤ deadline) : Life T ok first h armed s (e.due deadline) := by
  refine hl.pend (hl.timely.due deadline) ?_
  have hp := Executor.pending_due hl.timely deadline
  cases hl.ending with
  | before hstate hcourses hbegins hpending hendings =>
    refine .before hstate hcourses hbegins ?_ hendings
    rw [hp, hpending]
    rfl
  | during entry course hcourses hbegins hphase =>
    refine .during entry course hcourses hbegins ?_
    rw [hp]
    have hnone : e.pending.ready = [] := by simp [Executor.pending, hready]
    exact hphase.reach hnone hle

end Succession
