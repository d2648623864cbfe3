import Succession.Proofs.Lifecycle.OneWay
import Succession.Proofs.Lifecycle.Tale

/-!
# Signals through a queue, and what runs in between

A coordinator is started with a queue, or is driven directly. Signals are sent at any time, and taken
out of the queue one by one; between two of them any task that is ready may be polled.

* `Scheduled T timeout s₀ sent r`  `r` is reached from the target's state `s₀`, with these signals sent;
* `Posted`, `Told`                 the invariant of such a run;
* `Scheduled.settle`               the executor's own run is one of them.
-/

namespace Succession

/-- the signals sent so far, and whether each was accepted -/
abbrev Post := List (Signal × Bool)

variable {σ : Type}

namespace Executor

/-- A task that may be polled now. To take a signal out of a queue is a step of its own. Who waits for
a graceful end notices nothing of it before the end's own task is polled, and stays ready. -/
def Free (e : Executor Unit) : Task Unit → Prop
  | .consume _ => ∀ q, e.queue? () = some q → q.running = true → q.signals = []
  | .watch _ ending => ∀ course, .graceful ending course ∉ e.ready
  | .hammer .. | .strike .. | .graceful .. | .complete _ => True

/-- one signal is taken out of the queue, and nobody takes the others if a callback panics -/
def take (T : Target σ) (q : SignalQueue) (signal : Signal) (rest : List Signal) (s : σ)
    (e : Executor Unit) : Running Unit σ :=
  let (panic, h) := q.coordinator.dispatch T signal s
  (h.target, (e.spawn () q.coordinator.hammerTimeout h.aftermath).setQueue ()
    ⟨h.coordinator, if panic.isSome then [] else rest, !panic.isSome⟩)

end Executor

inductive Scheduled (T : Target σ) (timeout : Duration) (s₀ : σ) : Post → Conduct σ → Prop where
  /-- the coordinator of a running process is driven directly -/
  | direct (hrunning : T.state s₀ = .running) :
      Scheduled T timeout s₀ [] ⟨s₀, .new, some ⟨timeout, 0⟩⟩
  /-- the coordinator takes its signals out of a queue -/
  | start : Scheduled T timeout s₀ []
      ⟨T.setState .running s₀, Executor.new.setQueue () ⟨⟨timeout, 0⟩, [], true⟩, none⟩
  | dispatch {sent : Post} {s : σ} {e : Executor Unit} {c : Coordinator} (signal : Signal)
      (prior : Scheduled T timeout s₀ sent ⟨s, e, some c⟩) :
      Scheduled T timeout s₀ (sent ++ [(signal, true)])
        ⟨(c.dispatch T signal s).2.target,
          e.spawn () c.hammerTimeout (c.dispatch T signal s).2.aftermath,
          some (c.dispatch T signal s).2.coordinator⟩
  | send {sent : Post} {s : σ} {e : Executor Unit} (signal : Signal)
      (prior : Scheduled T timeout s₀ sent ⟨s, e, none⟩) :
      Scheduled T timeout s₀ (sent ++ [(signal, (e.send () signal).1)])
        ⟨s, (e.send () signal).2, none⟩
  | take {sent : Post} {s : σ} {e : Executor Unit} {q : SignalQueue} {signal : Signal}
      {rest : List Signal} (prior : Scheduled T timeout s₀ sent ⟨s, e, none⟩)
      (hqueue : e.queue? () = some q) (hrunning : q.running = true)
      (hsignals : q.signals = signal :: rest) :
      Scheduled T timeout s₀ sent
        ⟨(Executor.take T q signal rest s e).1, (Executor.take T q signal rest s e).2, none⟩
  | poll {sent : Post} {s : σ} {e : Executor Unit} {direct : Option Coordinator}
      {task : Task Unit} (before : List (Task Unit)) {after : List (Task Unit)}
      (prior : Scheduled T timeout s₀ sent ⟨s, e, direct⟩)
      (hready : e.ready = before ++ task :: after) (hfree : e.Free task) :
      Scheduled T timeout s₀ sent
        ⟨(Executor.poll (fun _ => T) task (s, { e with ready := before ++ after })).1,
          (Executor.poll (fun _ => T) task (s, { e with ready := before ++ after })).2, direct⟩
  /-- the clock reaches the next deadline -/
  | fire {sent : Post} {s : σ} {e : Executor Unit} {direct : Option Coordinator}
      {t : Timer Unit} {rest : List (Timer Unit)}
      (prior : Scheduled T timeout s₀ sent ⟨s, e, direct⟩) (hready : e.ready = [])
      (htimers : e.timers = t :: rest) : Scheduled T timeout s₀ sent ⟨s, e.due t.deadline, direct⟩
  /-- the clock moves on without reaching it -/
  | tick {sent : Post} {s : σ} {e : Executor Unit} {direct : Option Coordinator} (clock : Nat)
      (prior : Scheduled T timeout s₀ sent ⟨s, e, direct⟩) (hready : e.ready = [])
      (hle : e.clock ≤ clock) (hnext : ∀ t ∈ e.timers, clock < t.deadline) :
      Scheduled T timeout s₀ sent ⟨s, { e with clock }, direct⟩

/-! ## the executor's own steps -/

namespace Executor

variable {e : Executor Unit} {q : SignalQueue}

def holding (e : Executor Unit) (q : SignalQueue) : Executor Unit :=
  { e with ready := .consume () :: e.ready, queues := [((), q)] }

theorem spawn_holding (e : Executor Unit) (q : SignalQueue) (timeout : Duration)
    (aftermath : List Aftermath) :
    (e.holding q).spawn () timeout aftermath = (e.spawn () timeout aftermath).holding q := by
  induction aftermath generalizing e with
  | nil => rfl
  | cons next aftermath ih =>
    cases next with
    | hammer reason => exact ih (e.wake _)
    | graceful course =>
      exact ih (({ e with endings := e.endings + 1 }.wake (.graceful e.endings course)).wake _)

theorem setQueue_holding (e : Executor Unit) (q q' : SignalQueue) :
    (e.holding q).setQueue () q' = e.holding q' := by
  have hqueues := (e.holding q).queues_setQueue q'
  show { e.holding q with queues := ((e.holding q).setQueue () q').queues } = _
  rw [hqueues]
  rfl

/-- a poll for a queue that is empty, or given up, does nothing -/
theorem poll_consume_idle (T : Target σ) (s : σ) (hq : e.queues = [((), q)])
    (hidle : q.running = true → q.signals = []) :
    poll (fun _ => T) (.consume ()) (s, e) = (s, e) := by
  have hset : e.setQueue () q = e := by
    show { e with queues := (e.setQueue () q).queues } = e
    rw [queues_setQueue, ← hq]
  unfold poll
  dsimp only
  rw [queue?_eq hq]
  by_cases hrunning : q.running = true
  · obtain ⟨c, signals, running⟩ := q
    obtain rfl : signals = [] := hidle hrunning
    obtain rfl : running = true := hrunning
    exact congrArg (Prod.mk s) hset
  · dsimp only
    rw [if_pos hrunning]

end Executor

variable {T : Target σ} {timeout : Duration} {s₀ : σ} {sent : Post}

/-- **All the signals of a queue** are taken one by one when its task is polled. -/
theorem Scheduled.drain {c : Coordinator} {s : σ} {e : Executor Unit} {signals : List Signal}
    (hr : Scheduled T timeout s₀ sent ⟨s, e.holding ⟨c, signals, true⟩, none⟩) :
    let out := Executor.consume T () c s e signals
    Scheduled T timeout s₀ sent ⟨out.2.2.1, out.2.2.2.holding ⟨out.1, [], out.2.1⟩, none⟩ := by
  induction signals generalizing c s e with
  | nil => exact hr
  | cons signal signals ih =>
    have htake := hr.take (Executor.queue?_eq rfl) rfl rfl
    unfold Executor.take at htake
    dsimp only at htake
    rw [Executor.spawn_holding, Executor.setQueue_holding] at htake
    unfold Executor.consume
    dsimp only
    cases hpanic : (c.dispatch T signal s).1 with
    | some message =>
      rw [hpanic] at htake
      exact htake
    | none =>
      rw [hpanic] at htake
      exact ih htake

/-! ## the invariant -/

/-- where the signals of a queue are: those that were accepted have been handled, or wait, or are
lost with a queue whose callback has panicked -/
structure Posted (hooks : Hooks) (sent : Post) (handled : List Signal) (e : Executor Unit)
    (q : SignalQueue) : Prop where
  queues : e.queues = [((), q)]
  running : q.running = !handled.any hooks.breaks
  calm : ∀ signal ∈ handled.dropLast, hooks.breaks signal = false
  sent : ∃ lost refused, sent = (handled ++ q.signals ++ lost).map (·, true) ++
    refused.map (·, false) ∧ (q.running = true → lost = [] ∧ refused = [])
  stopped : q.running = false → q.signals = []
  wakes : q.signals ≠ [] → .consume () ∈ e.ready

inductive Manned (hooks : Hooks) (sent : Post) (handled : List Signal) : Conduct σ → Prop where
  | direct {s : σ} {e : Executor Unit} {c : Coordinator} (hqueues : e.queues = [])
      (hsent : sent = handled.map (·, true)) : Manned hooks sent handled ⟨s, e, some c⟩
  | queued {s : σ} {e : Executor Unit} {q : SignalQueue}
      (posted : Posted hooks sent handled e q) : Manned hooks sent handled ⟨s, e, none⟩

structure Told (T : Target σ) (ok : Chronicled σ → Prop) (hooks : Hooks) (sent : Post)
    (handled : List Signal) (r : Conduct (Chronicled σ)) : Prop where
  tale : Tale T ok hooks handled r.armed r.target r.tasks
  manned : Manned hooks sent handled r

section
variable {ok : Chronicled σ → Prop} {hooks : Hooks} {handled : List Signal} {s s' : Chronicled σ}
  {e e' : Executor Unit} {direct : Option Coordinator} {c : Coordinator} {q : SignalQueue}

theorem Tale.queued (hq : e.queues = [((), q)]) :
    Tale T ok hooks handled (Conduct.armed ⟨s, e, none⟩) s e ↔
      Tale T ok hooks handled q.coordinator.armed s e := by
  rw [Conduct.armed_queued hq]

theorem Told.keep (ht : Told T ok hooks sent handled ⟨s, e, direct⟩)
    (htale : Tale T ok hooks handled (Conduct.armed ⟨s, e, direct⟩) s' e')
    (hqueues : e'.queues = e.queues) (hwakes : .consume () ∈ e.ready → .consume () ∈ e'.ready ∨
      ∀ q, e.queues = [((), q)] → q.running = true → q.signals = []) :
    Told T ok hooks sent handled ⟨s', e', direct⟩ := by
  have harmed : Conduct.armed ⟨s', e', direct⟩ = Conduct.armed ⟨s, e, direct⟩ :=
    Conduct.armed_eq hqueues
  rw [← harmed] at htale
  refine ⟨htale, ?_⟩
  -- a signal that waits needs the queue's task to be ready, and none waits where nobody takes it
  cases ht.manned with
  | direct hnone hsent => exact .direct (hqueues.trans hnone) hsent
  | @queued _ _ q posted =>
    refine .queued ⟨hqueues.trans posted.queues, posted.running, posted.calm, posted.sent,
      posted.stopped, fun hsignals => ?_⟩
    obtain hmem | hnil := hwakes (posted.wakes hsignals)
    · exact hmem
    · have hrunning : q.running ≠ false := fun h => hsignals (posted.stopped h)
      exact absurd (hnil q posted.queues (by simpa using hrunning)) hsignals

theorem Told.begin (s : σ) (hs : ok ⟨s, [], []⟩) (hrunning : T.state s = .running) :
    Told T ok hooks [] [] ⟨⟨s, [], []⟩, .new, some ⟨timeout, 0⟩⟩ :=
  ⟨⟨Executor.timely_new, rfl, rfl, rfl, .running hrunning nofun rfl rfl, hs⟩, .direct rfl rfl⟩

theorem Told.start (hT : T.chronicled.Steady ok hooks) (s : σ) (hs : ok ⟨s, [], []⟩) :
    Told T ok hooks [] [] ⟨T.chronicled.setState .running ⟨s, [], []⟩,
      Executor.new.setQueue () ⟨⟨timeout, 0⟩, [], true⟩, none⟩ := by
  obtain ⟨hok, hset⟩ := hT.setState .running ⟨s, [], []⟩ hs
  exact ⟨⟨Executor.timely_new.of_eq ⟨rfl, rfl⟩, rfl, rfl, rfl, .running hset nofun rfl rfl, hok⟩,
    .queued ⟨rfl, rfl, nofun, ⟨[], [], rfl, fun _ => ⟨rfl, rfl⟩⟩, fun _ => rfl, nofun⟩⟩

theorem Told.dispatch (hT : T.chronicled.Steady ok hooks)
    (ht : Told T ok hooks sent handled ⟨s, e, some c⟩) (signal : Signal) :
    Told T ok hooks (sent ++ [(signal, true)]) (handled ++ [signal])
      ⟨(c.dispatch T.chronicled signal s).2.target,
        e.spawn () c.hammerTimeout (c.dispatch T.chronicled signal s).2.aftermath,
        some (c.dispatch T.chronicled signal s).2.coordinator⟩ := by
  refine ⟨ht.tale.dispatch hT signal, ?_⟩
  cases ht.manned with
  | direct hqueues hsent =>
    refine .direct ((Executor.queues_spawn ..).trans hqueues) ?_
    rw [hsent, List.map_append]
    rfl

theorem Told.send (ht : Told T ok hooks sent handled ⟨s, e, none⟩) (signal : Signal) :
    Told T ok hooks (sent ++ [(signal, (e.send () signal).1)]) handled
      ⟨s, (e.send () signal).2, none⟩ := by
  cases ht.manned with
  | @queued _ _ q posted =>
    obtain ⟨lost, refused, hsent, hnone⟩ := posted.sent
    have htale := (Tale.queued posted.queues).mp ht.tale
    unfold Executor.send
    rw [Executor.queue?_eq posted.queues]
    dsimp only
    by_cases hrunning : q.running = true
    · obtain ⟨rfl, rfl⟩ := hnone hrunning
      rw [if_pos hrunning]
      have hqueues : ((e.setQueue () { q with signals := q.signals ++ [signal] }).wake
          (.consume ())).queues = [((), { q with signals := q.signals ++ [signal] })] :=
        e.queues_setQueue _
      refine ⟨(Tale.queued hqueues).mpr ?_,
        .queued ⟨hqueues, posted.running, posted.calm, ⟨[], [], ?_, hnone⟩, ?_, ?_⟩⟩
      · exact htale.tasks (htale.timely.of_eq ⟨rfl, rfl⟩) (Executor.forced_wake ..)
          (Executor.pending_wake rfl) rfl rfl
      · simp [hsent]
      · simp [hrunning]
      · simp [Executor.wake]
    · rw [if_neg hrunning]
      refine ⟨ht.tale, .queued ⟨posted.queues, posted.running, posted.calm,
        ⟨lost, refused ++ [signal], ?_, fun h => absurd h hrunning⟩, posted.stopped,
        posted.wakes⟩⟩
      simp [hsent]

theorem Executor.mem_ready_spawn {task : Task Unit} (hmem : task ∈ e.ready) (timeout : Duration)
    (aftermath : List Aftermath) : task ∈ (e.spawn () timeout aftermath).ready := by
  induction aftermath generalizing e with
  | nil => exact hmem
  | cons next aftermath ih =>
    cases next with
    | hammer => exact ih (List.mem_append_left _ hmem)
    | graceful => exact ih (List.mem_append_left _ (List.mem_append_left _ hmem))

theorem Told.take (hT : T.chronicled.Steady ok hooks)
    (ht : Told T ok hooks sent handled ⟨s, e, none⟩) {signal : Signal} {rest : List Signal}
    (hqueue : e.queue? () = some q) (hrunning : q.running = true)
    (hsignals : q.signals = signal :: rest) :
    Told T ok hooks sent (handled ++ [signal]) ⟨(Executor.take T.chronicled q signal rest s e).1,
      (Executor.take T.chronicled q signal rest s e).2, none⟩ := by
  cases ht.manned with
  | @queued _ _ q' posted =>
    rw [Executor.queue?_eq posted.queues] at hqueue
    obtain rfl := Option.some.inj hqueue
    obtain ⟨lost, refused, hsent, hnone⟩ := posted.sent
    obtain ⟨rfl, rfl⟩ := hnone hrunning
    have hcalm := posted.running
    rw [hrunning] at hcalm
    have hall : ∀ x ∈ handled, hooks.breaks x = false := by simpa using hcalm
    have htale := (Tale.queued posted.queues).mp ht.tale
    have hbreaks := (dispatch_served hT ht.tale.ok q'.coordinator signal).1
    have hnext := htale.dispatch hT signal
    unfold Executor.take
    dsimp only at hnext ⊢
    rw [hbreaks]
    generalize (q'.coordinator.dispatch T.chronicled signal s).2 = handling at *
    have hqueues := (e.spawn () q'.coordinator.hammerTimeout handling.aftermath).queues_setQueue
      ⟨handling.coordinator, if hooks.breaks signal then [] else rest, !hooks.breaks signal⟩
    refine ⟨(Tale.queued hqueues).mpr ?_, .queued ⟨hqueues, ?_, ?_, ?_, ?_, ?_⟩⟩
    · exact hnext.tasks (hnext.timely.of_eq ⟨rfl, rfl⟩) rfl rfl rfl rfl
    · simp [List.any_append, List.any_eq_false.mpr (by simpa using hall)]
    · rw [List.dropLast_concat]
      exact hall
    · cases hooks.breaks signal with
      | true => exact ⟨rest, [], by simp [hsent, hsignals], nofun⟩
      | false => exact ⟨[], [], by simp [hsent, hsignals], fun _ => ⟨rfl, rfl⟩⟩
    · cases hooks.breaks signal with
      | true => exact fun _ => rfl
      | false => exact nofun
    · intro _
      exact Executor.mem_ready_spawn (posted.wakes (by simp [hsignals])) ..

theorem Executor.mem_ready_poll (targets : Unit → Target σ) {task task' : Task Unit}
    (hother : task ≠ .consume ()) (x : σ) (hmem : task' ∈ e.ready) :
    task' ∈ (poll targets task (x, e)).2.ready := by
  cases task with
  | consume => exact absurd rfl hother
  | strike => exact hmem
  | hammer | graceful | watch =>
    unfold poll
    dsimp only
    split <;> exact hmem
  | complete =>
    unfold poll
    dsimp only
    split
    · exact hmem
    · exact List.mem_append_left _ hmem

variable {task : Task Unit} {before after rest : List (Task Unit)}

theorem Told.idle (ht : Told T ok hooks sent handled ⟨s, e, direct⟩)
    (hready : e.ready = before ++ .consume () :: after) (hfree : e.Free (.consume ())) :
    Executor.poll (fun _ => T.chronicled) (.consume ())
        (s, { e with ready := before ++ after }) = (s, { e with ready := before ++ after }) ∧
      Told T ok hooks sent handled ⟨s, { e with ready := before ++ after }, direct⟩ := by
  refine ⟨?_, ht.keep (ht.tale.aside hready rfl rfl) rfl fun _ => .inr fun q hq hrunning =>
    hfree q (Executor.queue?_eq hq) hrunning⟩
  cases ht.manned with
  | direct hnone => exact Executor.poll_consume_none _ s hnone
  | queued posted =>
    exact Executor.poll_consume_idle _ s posted.queues
      (hfree _ (Executor.queue?_eq posted.queues))

theorem Told.poll (hT : T.chronicled.Steady ok hooks)
    (ht : Told T ok hooks sent handled ⟨s, e, direct⟩)
    (hready : e.ready = before ++ task :: after) (hfree : e.Free task) :
    Told T ok hooks sent handled
      ⟨(Executor.poll (fun _ => T.chronicled) task (s, { e with ready := before ++ after })).1,
        (Executor.poll (fun _ => T.chronicled) task (s, { e with ready := before ++ after })).2,
        direct⟩ := by
  by_cases hother : task = .consume ()
  · subst hother
    obtain ⟨hsame, hrest⟩ := ht.idle hready hfree
    rw [hsame]
    exact hrest
  · have hwatch : task = .watch () 0 → ∀ course, .graceful 0 course ∉ e.ready := by
      rintro rfl
      exact hfree
    refine ht.keep (ht.tale.poll hT hready hother hwatch)
      (Executor.queues_poll _ (fun _ => hother) ..) fun hmem => .inl ?_
    refine Executor.mem_ready_poll _ hother _ ?_
    rw [hready, List.mem_append, List.mem_cons] at hmem
    rw [List.mem_append]
    exact hmem.imp_right fun h => h.resolve_left (Ne.symm hother)

theorem Told.fire (ht : Told T ok hooks sent handled ⟨s, e, direct⟩) (hready : e.ready = [])
    {t : Timer Unit} {timers : List (Timer Unit)} (htimers : e.timers = t :: timers) :
    Told T ok hooks sent handled ⟨s, e.due t.deadline, direct⟩ := by
  have hle : e.clock ≤ t.deadline :=
    Nat.le_of_lt (ht.tale.timely.ahead t (htimers ▸ List.mem_cons_self))
  refine ht.keep (ht.tale.due hready hle) rfl fun hmem => ?_
  rw [hready] at hmem
  cases hmem

theorem Told.tick (ht : Told T ok hooks sent handled ⟨s, e, direct⟩) (hready : e.ready = [])
    {clock : Nat} (hle : e.clock ≤ clock) (hnext : ∀ t ∈ e.timers, clock < t.deadline) :
    Told T ok hooks sent handled ⟨s, { e with clock }, direct⟩ :=
  ht.keep (ht.tale.tick hready hle hnext) rfl .inl

end

/-- **The invariant of every run.** -/
theorem Scheduled.told {ok : Chronicled σ → Prop} {hooks : Hooks} {r : Conduct (Chronicled σ)}
    (hT : T.chronicled.Steady ok hooks) (hs : ok ⟨s₀, [], []⟩)
    (hr : Scheduled T.chronicled timeout ⟨s₀, [], []⟩ sent r) :
    ∃ handled, Told T ok hooks sent handled r := by
  induction hr with
  | direct hrunning => exact ⟨[], .begin s₀ hs hrunning⟩
  | start => exact ⟨[], .start hT s₀ hs⟩
  | dispatch signal _ ih =>
    obtain ⟨handled, ht⟩ := ih
    exact ⟨_, ht.dispatch hT signal⟩
  | send signal _ ih =>
    obtain ⟨handled, ht⟩ := ih
    exact ⟨handled, ht.send signal⟩
  | take _ hqueue hrunning hsignals ih =>
    obtain ⟨handled, ht⟩ := ih
    exact ⟨_, ht.take hT hqueue hrunning hsignals⟩
  | poll _ _ hready hfree ih =>
    obtain ⟨handled, ht⟩ := ih
    exact ⟨handled, ht.poll hT hready hfree⟩
  | fire _ hready htimers ih =>
    obtain ⟨handled, ht⟩ := ih
    exact ⟨handled, ht.fire hready htimers⟩
  | tick clock _ hready hle hnext ih =>
    obtain ⟨handled, ht⟩ := ih
    exact ⟨handled, ht.tick hready hle hnext⟩

/-! ## the executor's own run -/

theorem Phase.watch_alone {course : Course} {began clock : Nat} {pending : Pending}
    {state : LifecycleState} (hphase : Phase course began clock pending state) {ending : Nat}
    {rest : List (Task Unit)} (hready : pending.ready = .watch () ending :: rest)
    (course' : Course) : .graceful ending course' ∉ pending.ready := by
  cases hphase with
  | begun | waiting | due | finished | endless => cases hready
  | asleep | done | lost => simp

theorem Told.head {ok : Chronicled σ → Prop} {hooks : Hooks} {handled : List Signal}
    {r : Conduct (Chronicled σ)} (ht : Told T ok hooks sent handled r) {task : Task Unit}
    {rest : List (Task Unit)} (hother : task ≠ .consume ()) (hready : r.tasks.ready = task :: rest) :
    r.tasks.Free task := by
  cases task with
  | consume => exact absurd rfl hother
  | hammer | strike | graceful | complete => trivial
  | watch owner ending =>
    intro course hmem
    have hmem' : .graceful ending course ∈ r.tasks.pending.ready := List.mem_filter.mpr ⟨hmem, rfl⟩
    have hfirst : r.tasks.pending.ready = .watch owner ending :: rest.filter Task.ends := by
      show r.tasks.ready.filter _ = _
      rw [hready]
      rfl
    cases ht.tale.bearing with
    | running _ _ hpending _ =>
      rw [hpending] at hmem'
      cases hmem'
    | ending _ _ _ _ _ _ hphase => exact hphase.watch_alone hfirst course hmem'

section
variable {s : σ} {e : Executor Unit} {q : SignalQueue} {rest : List (Task Unit)}

theorem Executor.poll_consume_running (T : Target σ) (s : σ) (hq : e.queues = [((), q)])
    (hrunning : q.running = true) :
    let out := consume T () q.coordinator s e q.signals
    poll (fun _ => T) (.consume ()) (s, e) =
      (out.2.2.1, out.2.2.2.setQueue () ⟨out.1, [], out.2.1⟩) := by
  unfold poll
  dsimp only
  rw [queue?_eq hq]
  dsimp only
  rw [if_neg (not_not_intro hrunning)]

theorem Scheduled.consume (hr : Scheduled T timeout s₀ sent ⟨s, e, none⟩)
    (hq : e.queues = [((), q)]) (hready : e.ready = .consume () :: rest)
    (hrunning : q.running = true) :
    let out := Executor.poll (fun _ => T) (.consume ()) (s, { e with ready := rest })
    Scheduled T timeout s₀ sent ⟨out.1, out.2, none⟩ := by
  have hholding : e = ({ e with ready := rest } : Executor Unit).holding q := by
    unfold Executor.holding
    rw [← hready, ← hq]
  obtain ⟨c, signals, running⟩ := q
  obtain rfl : running = true := hrunning
  rw [hholding] at hr
  have hdrained := hr.drain
  rw [Executor.poll_consume_running T s (e := { e with ready := rest }) hq rfl]
  dsimp only at hdrained ⊢
  generalize Executor.consume T () c s { e with ready := rest } signals = out at hdrained ⊢
  obtain ⟨c', running, s', e'⟩ := out
  have hpoll := Scheduled.poll [] hdrained rfl fun q hq _ => by
    rw [Executor.queue?_eq (q := ⟨c', [], running⟩) rfl] at hq
    exact (Option.some.inj hq) ▸ rfl
  rw [Executor.poll_consume_idle (q := ⟨c', [], running⟩) T s' rfl fun _ => rfl] at hpoll
  have hset : e'.setQueue () ⟨c', [], running⟩ =
      { e' with queues := [((), ⟨c', [], running⟩)] } := by
    rw [← e'.queues_setQueue]
    rfl
  dsimp only
  rw [hset]
  exact hpoll

end

theorem Scheduled.act {ok : Chronicled σ → Prop} {hooks : Hooks} {direct : Option Coordinator}
    {running running' : Running Unit (Chronicled σ)} (hT : T.chronicled.Steady ok hooks)
    (hs : ok ⟨s₀, [], []⟩)
    (hr : Scheduled T.chronicled timeout ⟨s₀, [], []⟩ sent ⟨running.1, running.2, direct⟩)
    (hact : Executor.Act (fun _ => T.chronicled) T.chronicled.ended running running') :
    Scheduled T.chronicled timeout ⟨s₀, [], []⟩ sent ⟨running'.1, running'.2, direct⟩ := by
  obtain ⟨handled, ht⟩ := hr.told hT hs
  cases hact with
  | fire hready htimers => exact hr.fire hready htimers
  | tick clock hready hle hnext => exact hr.tick clock hready hle hnext
  | @poll s e task rest _ hready =>
    by_cases hother : task = .consume ()
    · subst hother
      cases ht.manned with
      | direct hnone =>
        refine .poll [] hr hready fun q hq => ?_
        unfold Executor.queue? at hq
        rw [hnone] at hq
        cases hq
      | @queued _ _ q posted =>
        by_cases hrunning : q.running = true
        · exact hr.consume posted.queues hready hrunning
        · refine .poll [] hr hready fun q' hq' hrunning' => ?_
          rw [Executor.queue?_eq posted.queues] at hq'
          exact absurd (Option.some.inj hq' ▸ hrunning') hrunning
    · exact .poll [] hr hready (ht.head hother hready)

/-- **Every task that can run does run**, and is at its end then. -/
theorem Scheduled.settle {ok : Chronicled σ → Prop} {hooks : Hooks} {r : Conduct (Chronicled σ)}
    (hT : T.chronicled.Steady ok hooks) (hs : ok ⟨s₀, [], []⟩)
    (hr : Scheduled T.chronicled timeout ⟨s₀, [], []⟩ sent r) :
    Scheduled T.chronicled timeout ⟨s₀, [], []⟩ sent (r.settle T.chronicled) ∧
      (T.ended (r.settle T.chronicled).target.base = true ∨
        (r.settle T.chronicled).tasks.ready = []) := by
  obtain ⟨hacts, hquiet⟩ := Executor.settle_acts (fun _ => T.chronicled) T.chronicled.ended
    (r.target, r.tasks)
  refine ⟨?_, hquiet⟩
  unfold Conduct.settle
  dsimp only
  generalize Executor.settle (fun _ => T.chronicled) T.chronicled.ended (r.target, r.tasks) = after
    at hacts
  induction hacts with
  | refl => exact hr
  | tail _ hact ih => exact ih.act hT hs hact

end Succession
