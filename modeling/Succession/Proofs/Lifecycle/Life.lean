import Mathlib.Data.List.Chain
import Succession.Proofs.Lifecycle.Conduct
import Succession.Proofs.Lifecycle.Trace

/-!
# The life of a process under its coordinator

The graceful end is one task after another, and each stage of it is seen from what is ready and what
waits. Together with the calls so far this is an invariant, which a signal keeps.

* `Executor.pending`   what is pending of a graceful end;
* `Phase`              how far the graceful end has come;
* `Life`               the invariant of a coordinator, its target and its tasks;
* `Life.keep`, `Life.dispatch`   calls that leave the end alone, and a signal.
-/

namespace Succession

def Task.ends : Task Unit → Bool
  | .graceful .. | .complete _ | .watch .. => true
  | _ => false

structure Pending where
  ready : List (Task Unit)
  timers : List (Timer Unit)
  completed : List Nat
  watching : List (Nat × Unit)

namespace Executor

variable {e : Executor Unit} {task : Task Unit}

def pending (e : Executor Unit) : Pending :=
  ⟨e.ready.filter Task.ends, e.timers.filter (Task.ends ·.task), e.completed, e.watching⟩

theorem pending_wake (h : task.ends = false) : (e.wake task).pending = e.pending := by
  unfold pending wake
  rw [List.filter_append, List.filter_cons_of_neg (by simp [h]), List.filter_nil, List.append_nil]

theorem pending_sleep (h : task.ends = false) (millis : Nat) :
    (e.sleep millis task).pending = e.pending := by
  obtain ⟨before, after, he, hi⟩ := insertTimer_split ⟨e.clock + millis, task⟩ e.timers
  unfold pending sleep
  rw [hi, he, List.filter_append, List.filter_append, List.filter_cons_of_neg (by simp [h])]

theorem timers_sleep_ending (h : task.ends = true) (hnone : e.pending.timers = []) (millis : Nat) :
    (e.sleep millis task).pending.timers = [⟨e.clock + millis, task⟩] := by
  obtain ⟨before, after, he, hi⟩ := insertTimer_split ⟨e.clock + millis, task⟩ e.timers
  replace hnone : e.timers.filter _ = [] := hnone
  rw [he, List.filter_append, List.append_eq_nil_iff] at hnone
  show (insertTimer ⟨e.clock + millis, task⟩ e.timers).filter _ = _
  rw [hi, List.filter_append, List.filter_cons_of_pos (by simpa using h), hnone.1, hnone.2]
  rfl

theorem pending_due (h : e.Timely) (deadline : Nat) :
    (e.due deadline).pending = { e.pending with
      ready := e.pending.ready ++
        (e.pending.timers.filter fun t => t.deadline ≤ deadline).map (·.task)
      timers := e.pending.timers.filter fun t => deadline < t.deadline } := by
  have hcomm (p : Timer Unit → Bool) :
      (e.timers.filter p).filter (Task.ends ·.task) =
        (e.timers.filter (Task.ends ·.task)).filter p := List.filter_comm ..
  show Pending.mk ((e.due deadline).ready.filter _) ((e.due deadline).timers.filter _) _ _ = _
  rw [h.ready_due, h.timers_due, List.filter_append, List.filter_map, hcomm]
  show Pending.mk (_ ++ ((e.timers.filter _).filter (Task.ends ·.task)).map _) _ _ _ = _
  rw [hcomm]
  rfl

theorem pending_begin (hpending : e.pending = ⟨[], [], [], []⟩) (hendings : e.endings = 0)
    (timeout : Duration) (reason : Signal) (course : Course) :
    (e.spawn () timeout [.hammer reason, .graceful course]).pending =
      ⟨[.graceful 0 course, .watch () 0], [], [], []⟩ := by
  have hready : e.ready.filter Task.ends = [] := congrArg Pending.ready hpending
  have htimers : e.timers.filter (Task.ends ·.task) = [] := congrArg Pending.timers hpending
  have hcompleted : e.completed = [] := congrArg Pending.completed hpending
  have hwatching : e.watching = [] := congrArg Pending.watching hpending
  show Pending.mk
    ((((e.ready ++ [Task.hammer () reason timeout]) ++ [Task.graceful e.endings course]) ++
      [Task.watch () e.endings]).filter Task.ends)
    (e.timers.filter (Task.ends ·.task)) e.completed e.watching = _
  rw [List.filter_append, List.filter_append, List.filter_append, hready, htimers, hcompleted,
    hwatching, hendings]
  rfl

theorem pending_rest {rest : List (Task Unit)} (hready : e.ready = task :: rest) :
    e.pending = { ({ e with ready := rest } : Executor Unit).pending with
      ready := if task.ends then
          task :: ({ e with ready := rest } : Executor Unit).pending.ready
        else ({ e with ready := rest } : Executor Unit).pending.ready } := by
  unfold pending
  rw [hready, List.filter_cons]

end Executor

/-- how far the graceful end has come that began at a time, by a clock -/
inductive Phase (course : Course) (began clock : Nat) : Pending → LifecycleState → Prop where
  | begun (hclock : clock = began) :
      Phase course began clock ⟨[.graceful 0 course, .watch () 0], [], [], []⟩ .shuttingDown
  | asleep {millis : Nat} (hcourse : course = .after millis) :
      Phase course began clock ⟨[.watch () 0], [⟨began + millis, .complete 0⟩], [], []⟩
        .shuttingDown
  | waiting {millis : Nat} (hcourse : course = .after millis) :
      Phase course began clock ⟨[], [⟨began + millis, .complete 0⟩], [], [(0, ())]⟩ .shuttingDown
  | due {millis : Nat} (hcourse : course = .after millis) (hdue : began + millis ≤ clock) :
      Phase course began clock ⟨[.complete 0], [], [], [(0, ())]⟩ .shuttingDown
  | done {millis : Nat} (hcourse : course = .after millis) (hdue : began + millis ≤ clock)
      (watching : List (Nat × Unit)) :
      Phase course began clock ⟨[.watch () 0], [], [0], watching⟩ .shuttingDown
  | finished {millis : Nat} (hcourse : course = .after millis) (hdue : began + millis ≤ clock)
      (watching : List (Nat × Unit)) :
      Phase course began clock ⟨[], [], [0], watching⟩ .terminate
  /-- the graceful end never comes back -/
  | lost (hcourse : ∀ millis, course ≠ .after millis) :
      Phase course began clock ⟨[.watch () 0], [], [], []⟩ .shuttingDown
  | endless (hcourse : ∀ millis, course ≠ .after millis) :
      Phase course began clock ⟨[], [], [], [(0, ())]⟩ .shuttingDown

theorem Phase.state_ne {course : Course} {began clock : Nat} {pending : Pending}
    {state : LifecycleState} (h : Phase course began clock pending state) :
    state ≠ .init ∧ state ≠ .running := by
  cases h <;> exact ⟨nofun, nofun⟩

/-- a graceful end that is between its tasks waits for its deadline or for nothing -/
theorem Phase.tick {course : Course} {began clock clock' : Nat} {pending : Pending}
    {state : LifecycleState} (h : Phase course began clock pending state)
    (hready : pending.ready = []) (hle : clock ≤ clock') :
    Phase course began clock' pending state := by
  cases h with
  | waiting hcourse => exact .waiting hcourse
  | finished hcourse hdue watching => exact .finished hcourse (Nat.le_trans hdue hle) watching
  | endless hcourse => exact .endless hcourse
  | begun | asleep | due | done | lost => cases hready

theorem Phase.reach {course : Course} {began clock deadline : Nat} {pending : Pending}
    {state : LifecycleState} (h : Phase course began clock pending state)
    (hready : pending.ready = []) (hle : clock ≤ deadline) :
    Phase course began deadline
      { pending with
        ready := pending.ready ++
          (pending.timers.filter fun t => t.deadline ≤ deadline).map (·.task)
        timers := pending.timers.filter fun t => deadline < t.deadline } state := by
  cases h with
  | @waiting millis hcourse =>
    by_cases hd : began + millis ≤ deadline
    · have hn : ¬ deadline < began + millis := by omega
      rw [List.filter_cons_of_pos (by simpa using hd), List.filter_cons_of_neg (by simpa using hn)]
      exact .due hcourse hd
    · have hn : deadline < began + millis := by omega
      rw [List.filter_cons_of_neg (by simpa using hd), List.filter_cons_of_pos (by simpa using hn)]
      exact .waiting hcourse
  | finished hcourse hdue watching => exact .finished hcourse (Nat.le_trans hdue hle) watching
  | endless hcourse => exact .endless hcourse
  | begun | asleep | due | done | lost => cases hready

/-- a process runs, and then it ends -/
inductive Moves : LifecycleState → LifecycleState → Prop where
  | run {state : LifecycleState} (hstate : state = .init ∨ state = .running) : Moves state .running
  | stop : Moves .running .shuttingDown
  | finish : Moves .shuttingDown .terminate

/-- a process exits well once, right after its state says so -/
def ExitsWell (state : LifecycleState) (calls : List Call) : Prop :=
  if state = .terminate then
    ∃ before after, calls = before ++ .state .terminate :: .exit 0 :: after ∧
      .exit 0 ∉ before ∧ .exit 0 ∉ after
  else .exit 0 ∉ calls

variable {σ : Type} {T : Target σ} {ok : Traced σ → Prop} {first : LifecycleState} {h : History}
  {armed : Nat} {s s' : Traced σ} {e e' : Executor Unit}

/-- no graceful end so far, or one, at some stage -/
inductive Ending (T : Target σ) (h : History) (s : Traced σ) (e : Executor Unit) : Prop where
  | before (hstate : T.state s.base = .init ∨ T.state s.base = .running)
      (hcourses : s.courses = []) (hbegins : h.filter Handled.begins = [])
      (hpending : e.pending = ⟨[], [], [], []⟩) (hendings : e.endings = 0)
  | during (entry : Handled) (course : Course) (hcourses : s.courses = [course])
      (hbegins : h.filter Handled.begins = [entry])
      (hphase : Phase course entry.clock e.clock e.pending (T.state s.base))

structure Life (T : Target σ) (ok : Traced σ → Prop) (first : LifecycleState) (h : History)
    (armed : Nat) (s : Traced σ) (e : Executor Unit) : Prop where
  ok : ok s
  timely : e.Timely
  moves : (first :: s.states).IsChain Moves
  last : (first :: s.states).getLast? = some (T.state s.base)
  armed : armed = h.countP Handled.isReload + s.courses.length
  reloads : s.calls.count .reload = h.countP Handled.isReload
  exits : ExitsWell (T.state s.base) s.calls
  ending : Ending T h s e

theorem states_eq {calls : List Call} (hc : s'.calls = s.calls ++ calls) :
    s'.states = s.states ++ calls.filterMap Call.state? := by
  unfold Traced.states
  rw [hc, List.filterMap_append]

theorem courses_eq {calls : List Call} (hc : s'.calls = s.calls ++ calls) :
    s'.courses = s.courses ++ calls.filterMap Call.course? := by
  unfold Traced.courses
  rw [hc, List.filterMap_append]

theorem moves_on {states : List LifecycleState} {state state' : LifecycleState}
    (hmoves : (first :: states).IsChain Moves) (hlast : (first :: states).getLast? = some state)
    (hmove : Moves state state') :
    (first :: (states ++ [state'])).IsChain Moves ∧
      (first :: (states ++ [state'])).getLast? = some state' := by
  rw [← List.cons_append]
  refine ⟨List.isChain_append.mpr ⟨hmoves, List.isChain_singleton _, ?_⟩, List.getLast?_concat⟩
  intro x hx y hy
  rw [hlast] at hx
  obtain rfl := Option.some.inj hx
  obtain rfl := Option.some.inj hy
  exact hmove

theorem ExitsWell.append {state state' : LifecycleState} {calls more : List Call}
    (hx : ExitsWell state calls) (hsame : state' = .terminate ↔ state = .terminate)
    (hmore : .exit 0 ∉ more) : ExitsWell state' (calls ++ more) := by
  unfold ExitsWell at hx ⊢
  by_cases hs : state = .terminate
  · rw [if_pos hs] at hx
    rw [if_pos (hsame.mpr hs)]
    obtain ⟨before, after, he, hbefore, hafter⟩ := hx
    refine ⟨before, after ++ more, ?_, hbefore, ?_⟩
    · rw [he, List.append_assoc]
      rfl
    · rw [List.mem_append]
      exact fun hm => hm.elim hafter hmore
  · rw [if_neg hs] at hx
    rw [if_neg fun h => hs (hsame.mp h), List.mem_append]
    exact fun hm => hm.elim hx hmore

/-! ## what leaves the graceful end alone -/

theorem Ending.keep {more : List Call} {entries : History} (he : Ending T h s e)
    (hstate : T.state s'.base = T.state s.base) (hcalls : s'.calls = s.calls ++ more)
    (hcourses : more.filterMap Call.course? = []) (hbegins : entries.filter Handled.begins = [])
    (hpending : e'.pending = e.pending) (hendings : e'.endings = e.endings)
    (hclock : e'.clock = e.clock) : Ending T (h ++ entries) s' e' := by
  have hc : s'.courses = s.courses := by rw [courses_eq hcalls, hcourses, List.append_nil]
  have hb : (h ++ entries).filter Handled.begins = h.filter Handled.begins := by
    rw [List.filter_append, hbegins, List.append_nil]
  cases he with
  | before hs hcs hbs hp hn =>
    exact .before (by rw [hstate]; exact hs) (hc.trans hcs) (hb.trans hbs) (hpending.trans hp)
      (hendings.trans hn)
  | during entry course hcs hbs hphase =>
    refine .during entry course (hc.trans hcs) (hb.trans hbs) ?_
    rw [hclock, hpending, hstate]
    exact hphase

/-- calls that neither change the state nor have to do with the end, and signals that do not begin
it -/
theorem Life.keep {armed' : Nat} (more : List Call) (entries : History)
    (hl : Life T ok first h armed s e) (hok : ok s') (htimely : e'.Timely)
    (hstate : T.state s'.base = T.state s.base) (hcalls : s'.calls = s.calls ++ more)
    (hstates : more.filterMap Call.state? = []) (hcourses : more.filterMap Call.course? = [])
    (hexit : .exit 0 ∉ more) (hbegins : entries.filter Handled.begins = [])
    (hreloads : more.count .reload = entries.countP Handled.isReload)
    (harmed : armed' = armed + entries.countP Handled.isReload)
    (hpending : e'.pending = e.pending) (hendings : e'.endings = e.endings)
    (hclock : e'.clock = e.clock) : Life T ok first (h ++ entries) armed' s' e' := by
  have hs : s'.states = s.states := by rw [states_eq hcalls, hstates, List.append_nil]
  have hc : s'.courses = s.courses := by rw [courses_eq hcalls, hcourses, List.append_nil]
  refine ⟨hok, htimely, ?_, ?_, ?_, ?_, ?_, ?_⟩
  · rw [hs]
    exact hl.moves
  · rw [hs, hstate]
    exact hl.last
  · rw [harmed, hl.armed, hc, List.countP_append]
    omega
  · rw [hcalls, List.count_append, hl.reloads, hreloads, List.countP_append]
  · rw [hcalls]
    exact hl.exits.append (by rw [hstate]) hexit
  · exact hl.ending.keep hstate hcalls hcourses hbegins hpending hendings hclock

theorem Life.tasks (hl : Life T ok first h armed s e) (htimely : e'.Timely)
    (hpending : e'.pending = e.pending) (hendings : e'.endings = e.endings)
    (hclock : e'.clock = e.clock) : Life T ok first h armed s e' := by
  have hk : Life T ok first (h ++ []) armed s e' := hl.keep [] [] hl.ok htimely rfl
    (List.append_nil _).symm rfl rfl nofun rfl rfl rfl hpending hendings hclock
  rwa [List.append_nil] at hk

theorem Life.strike (hT : T.traced.Lawful ok) (hl : Life T ok first h armed s e)
    (reason : Signal) (timeout : Duration) :
    Life T ok first h armed (Executor.strike T.traced reason timeout s) e := by
  obtain ⟨hok, hstate⟩ := hT.log (hammerLine reason timeout) s hl.ok
  obtain ⟨hok', hstate'⟩ := hT.exit hammerExitCode _ hok
  have hk : Life T ok first (h ++ []) armed (Executor.strike T.traced reason timeout s) e :=
    hl.keep [.exit 1] [] hok' hl.timely (hstate'.trans hstate) rfl rfl rfl (by decide) rfl rfl rfl
      rfl rfl rfl
  rwa [List.append_nil] at hk

/-! ## a signal -/

/-- **A signal** is counted, and at most begins the graceful end. -/
theorem Life.dispatch {c : Coordinator} (hT : T.traced.Lawful ok)
    (hl : Life T ok first h c.armed s e) (signal : Signal) :
    Life T ok first (h ++ [⟨e.clock, T.state s.base, signal⟩])
      (c.dispatch T.traced signal s).2.coordinator.armed (c.dispatch T.traced signal s).2.target
      (e.spawn () c.hammerTimeout (c.dispatch T.traced signal s).2.aftermath) := by
  obtain ⟨-, hok, hhandles⟩ := dispatch_handles hT hl.ok c signal
  generalize (c.dispatch T.traced signal s).2 = handling at hok hhandles
  have htimely (aftermath : List Aftermath) : (e.spawn () c.hammerTimeout aftermath).Timely :=
    hl.timely.of_eq (Executor.timers_spawn ..)
  cases hhandles with
  | reload hsignal hstate hcalls =>
    subst hsignal
    refine hl.keep [.reload] [_] hok (htimely _) hstate hcalls rfl rfl (by decide) ?_ rfl rfl
      (Executor.pending_wake rfl) rfl rfl
    simp [Handled.begins]
  | ignore hsignal hrunning hstate hcalls =>
    refine hl.keep [] [_] hok hl.timely hstate (hcalls.trans (List.append_nil _).symm) rfl rfl nofun
      ?_ ?_ ?_ rfl rfl rfl
    · simp [Handled.begins, hrunning]
    · simp [Handled.isReload, hsignal]
    · simp [Handled.isReload, hsignal]
  | @begin s' hsignal hrunning course hstate hcalls =>
    have hbefore : s.courses = [] ∧ h.filter Handled.begins = [] ∧
        e.pending = ⟨[], [], [], []⟩ ∧ e.endings = 0 := by
      cases hl.ending with
      | before _ hcs hbs hp hn => exact ⟨hcs, hbs, hp, hn⟩
      | during _ _ _ _ hphase => exact absurd hrunning hphase.state_ne.2
    obtain ⟨hcs, hbs, hp, hn⟩ := hbefore
    have hstates : s'.states = s.states ++ [.shuttingDown] := states_eq hcalls
    have hcourses : s'.courses = [course] := by
      rw [courses_eq hcalls, hcs]
      rfl
    have hnot : Handled.isReload ⟨e.clock, T.state s.base, signal⟩ = false := by
      simp [Handled.isReload, hsignal]
    have hbegins : Handled.begins ⟨e.clock, T.state s.base, signal⟩ = true := by
      simp [Handled.begins, hsignal, hrunning]
    obtain ⟨hmoves, hlast⟩ := moves_on hl.moves (hrunning ▸ hl.last) .stop
    refine ⟨hok, htimely _, ?_, ?_, ?_, ?_, ?_,
      .during ⟨e.clock, T.state s.base, signal⟩ course hcourses ?_ ?_⟩
    · rw [hstates]
      exact hmoves
    · rw [hstates, hstate]
      exact hlast
    · show c.armed + 1 = _
      rw [hl.armed, hcs, hcourses, List.countP_append, List.countP_singleton, hnot]
      rfl
    · rw [hcalls, List.count_append, hl.reloads, List.countP_append, List.countP_singleton, hnot]
      rfl
    · rw [hcalls]
      refine hl.exits.append ?_ (by simp)
      rw [hstate, hrunning]
      decide
    · rw [List.filter_append, hbs, List.filter_cons_of_pos hbegins]
      rfl
    · rw [Executor.pending_begin hp hn, hstate]
      exact .begun rfl

end Succession
