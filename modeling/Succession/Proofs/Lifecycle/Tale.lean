import Succession.Proofs.Lifecycle.Armory
import Succession.Proofs.Lifecycle.Chronicle
import Succession.Proofs.Lifecycle.Turns

/-!
# The tale of the signals handled so far

What a host saw, how many forced ends were armed, and whether the process still runs, all follow from
the signals that have been handled. This is an invariant of handling one signal more, of a poll of
any task that is ready, and of the moves of the clock.

* `Executor.forced`        the forced ends that are to come;
* `Bearing`                whether the process runs, and how far its graceful end is;
* `Tale`                   the invariant;
* `Tale.dispatch`          one signal more;
* `Tale.poll`              a poll, in any order that the graceful end allows;
* `Tale.due`, `Tale.tick`  the clock.
-/

namespace Succession

def Task.forces {ι : Type} (task : Task ι) : Bool := task.hammers || task.strikes

namespace Executor

variable {σ : Type} {e : Executor Unit} {task : Task Unit} {before after : List (Task Unit)}

/-- how many forced ends are to come -/
def forced (e : Executor Unit) : Nat :=
  e.ready.countP Task.forces + e.timers.countP (·.task.forces)

theorem forced_wake (e : Executor Unit) (task : Task Unit) :
    (e.wake task).forced = e.forced + if task.forces then 1 else 0 := by
  show (e.ready ++ [task]).countP _ + e.timers.countP _ = _ + _ + _
  rw [List.countP_append, List.countP_singleton]
  omega

theorem forced_sleep (e : Executor Unit) (millis : Nat) (task : Task Unit) :
    (e.sleep millis task).forced = e.forced + if task.forces then 1 else 0 := by
  obtain ⟨before, after, he, hi⟩ := insertTimer_split ⟨e.clock + millis, task⟩ e.timers
  show e.ready.countP _ + (insertTimer _ e.timers).countP _ = e.ready.countP _ + _ + _
  rw [hi, he, List.countP_append, List.countP_append, List.countP_cons]
  dsimp only
  omega

theorem forced_taken (hready : e.ready = before ++ task :: after) :
    e.forced = ({ e with ready := before ++ after } : Executor Unit).forced +
      if task.forces then 1 else 0 := by
  show _ = (before ++ after).countP _ + e.timers.countP _ + _
  unfold forced
  rw [hready, List.countP_append, List.countP_cons, List.countP_append]
  omega

theorem forced_aside (hready : e.ready = before ++ task :: after) (hforces : task.forces = false) :
    ({ e with ready := before ++ after } : Executor Unit).forced = e.forced := by
  rw [forced_taken hready, hforces]
  rfl

theorem pending_taken (hready : e.ready = before ++ task :: after) (hends : task.ends = true) :
    e.pending = { ({ e with ready := before ++ after } : Executor Unit).pending with
      ready := before.filter Task.ends ++ task :: after.filter Task.ends } := by
  unfold pending
  rw [hready, List.filter_append, List.filter_cons_of_pos hends]

theorem pending_aside (hready : e.ready = before ++ task :: after) (hends : task.ends = false) :
    ({ e with ready := before ++ after } : Executor Unit).pending = e.pending := by
  unfold pending
  rw [hready, List.filter_append, List.filter_append, List.filter_cons_of_neg (by simp [hends])]

theorem forced_due (h : e.Timely) (deadline : Nat) : (e.due deadline).forced = e.forced := by
  have hsplit := congrArg (List.countP (·.task.forces)) (filter_append_sorted h.sorted deadline)
  rw [List.countP_append] at hsplit
  unfold forced
  rw [h.ready_due, h.timers_due, List.countP_append, List.countP_map, ← hsplit, Nat.add_assoc]
  rfl

theorem forced_poll_ending (targets : Unit → Target σ) (hends : task.ends = true) (s : σ)
    (e : Executor Unit) : (poll targets task (s, e)).2.forced = e.forced := by
  cases task with
  | consume | hammer | strike => cases hends
  | graceful =>
    unfold poll
    dsimp only
    split
    · rfl
    · exact forced_sleep ..
    · rfl
    · rfl
  | complete =>
    unfold poll
    dsimp only
    split
    · rfl
    · exact forced_wake ..
  | watch =>
    unfold poll
    dsimp only
    split <;> rfl

end Executor

/-- of the tasks of a graceful end, the one in front is polled first, unless somebody waits for it
before it has been polled at all -/
theorem Phase.first {course : Course} {began clock : Nat} {pending : Pending}
    {state : LifecycleState} {task : Task Unit} {before after : List (Task Unit)}
    (hphase : Phase course began clock pending state)
    (hready : pending.ready = before ++ task :: after)
    (hfree : task = .watch () 0 → ∀ course, .graceful 0 course ∉ pending.ready) : before = [] := by
  cases before with
  | nil => rfl
  | cons first before =>
    cases hphase with
    | begun =>
      -- the only stage with two tasks, of which the second is the one that waits
      obtain ⟨rfl, hrest⟩ := List.cons.inj hready
      obtain ⟨rfl, rfl⟩ : before = [] ∧ task = .watch () 0 := by
        cases before with
        | nil => exact ⟨rfl, (List.cons.inj hrest).1.symm⟩
        | cons second before => simp at hrest
      exact absurd List.mem_cons_self (hfree rfl course)
    | asleep | due | done | lost => simp at hready
    | waiting | finished | endless => cases hready

theorem Phase.taken {course : Course} {began : Nat} {state : LifecycleState} {task : Task Unit}
    {before after : List (Task Unit)} {e : Executor Unit}
    (hphase : Phase course began e.clock e.pending state)
    (hready : e.ready = before ++ task :: after) (hends : task.ends = true)
    (hfree : task = .watch () 0 → ∀ course, .graceful 0 course ∉ e.ready) :
    let rest : Executor Unit := { e with ready := before ++ after }
    Phase course began rest.clock { rest.pending with ready := task :: rest.pending.ready }
      state := by
  have hpending := Executor.pending_taken hready hends
  have hfirst : before.filter Task.ends = [] := by
    refine hphase.first (congrArg Pending.ready hpending) fun hwatch course hmem => ?_
    exact hfree hwatch course (List.mem_filter.mp hmem).1
  have hrest : (before ++ after).filter Task.ends = after.filter Task.ends := by
    rw [List.filter_append, hfirst, List.nil_append]
  rw [hpending, hfirst, List.nil_append, ← hrest] at hphase
  exact hphase

variable {σ : Type} {T : Target σ} {ok : Chronicled σ → Prop} {hooks : Hooks}
  {handled : List Signal} {armed : Nat} {s s' : Chronicled σ} {e e' : Executor Unit}
  {task : Task Unit} {before after : List (Task Unit)}

/-- the process runs, or has begun to end and come to some stage of it -/
inductive Bearing (T : Target σ) (ok : Chronicled σ → Prop) (s : Chronicled σ)
    (e : Executor Unit) : Prop where
  | running (hstate : T.state s.base = .running) (hnone : .shutdown ∉ s.entries)
      (hpending : e.pending = ⟨[], [], [], []⟩) (hendings : e.endings = 0)
  | ending (course : Course) (began : Nat) (hbegan : began ≤ e.clock) {before after : List Entry}
      (hentries : s.entries = before ++ .shutdown :: after) (hbefore : .shutdown ∉ before)
      (hcourse : T.Takes ok course before)
      (hphase : Phase course began e.clock e.pending (T.state s.base))

namespace Bearing

theorem running_iff (hb : Bearing T ok s e) :
    T.state s.base = .running ↔ .shutdown ∉ s.entries := by
  cases hb with
  | running hstate hnone => exact iff_of_true hstate hnone
  | ending course began hbegan hentries hbefore hcourse hphase =>
    refine iff_of_false hphase.state_ne.2 (not_not_intro ?_)
    rw [hentries]
    exact List.mem_append_right _ List.mem_cons_self

theorem state_cases (hb : Bearing T ok s e) :
    if .shutdown ∈ s.entries then T.state s.base = .shuttingDown ∨ T.state s.base = .terminate
    else T.state s.base = .running := by
  have hiff := hb.running_iff
  split
  · next hmem =>
    cases hb with
    | running hstate hnone => exact absurd hmem hnone
    | ending _ _ _ _ _ _ hphase =>
      generalize T.state s.base = state at *
      cases state with
      | init => exact absurd rfl hphase.state_ne.1
      | running => exact absurd rfl hphase.state_ne.2
      | shuttingDown => exact .inl rfl
      | terminate => exact .inr rfl
  · next hmem => exact hiff.mpr hmem

theorem keep (hb : Bearing T ok s e) (hstate : T.state s'.base = T.state s.base)
    (hentries : s'.entries = s.entries) (hpending : e'.pending = e.pending)
    (hendings : e'.endings = e.endings) (hclock : e'.clock = e.clock) : Bearing T ok s' e' := by
  cases hb with
  | running hs hnone hp hn =>
    exact .running (hstate.trans hs) (hentries ▸ hnone) (hpending.trans hp) (hendings.trans hn)
  | ending course began hbegan he hbefore hcourse hphase =>
    refine .ending course began (hclock ▸ hbegan) (hentries.trans he) hbefore hcourse ?_
    rw [hclock, hpending, hstate]
    exact hphase

/-- calls behind those so far, none of which begins the graceful end -/
theorem append {calls : List Entry} (hb : Bearing T ok s e)
    (hstate : T.state s'.base = T.state s.base) (hentries : s'.entries = s.entries ++ calls)
    (hnone : .shutdown ∉ calls) (hpending : e'.pending = e.pending)
    (hendings : e'.endings = e.endings) (hclock : e'.clock = e.clock) : Bearing T ok s' e' := by
  cases hb with
  | running hs hn hp hcount =>
    refine .running (hstate.trans hs) ?_ (hpending.trans hp) (hendings.trans hcount)
    rw [hentries, List.mem_append]
    exact not_or_intro hn hnone
  | @ending course began hbegan first last he hbefore hcourse hphase =>
    have hall : s'.entries = first ++ .shutdown :: (last ++ calls) := by
      rw [hentries, he, List.append_assoc]
      rfl
    refine .ending course began (hclock ▸ hbegan) hall hbefore hcourse ?_
    rw [hclock, hpending, hstate]
    exact hphase

end Bearing

/-- what the signals handled so far have led to -/
structure Tale (T : Target σ) (ok : Chronicled σ → Prop) (hooks : Hooks) (handled : List Signal)
    (armed : Nat) (s : Chronicled σ) (e : Executor Unit) : Prop where
  timely : e.Timely
  entries : s.entries = hooks.script true handled
  counted : armed = s.entries.countP Entry.arms
  /-- each forced end has come or is to come -/
  comes : armed = s.exits.count hammerExitCode + e.forced
  bearing : Bearing T ok s e
  ok : ok s

namespace Tale

theorem bear (ht : Tale T ok hooks handled armed s e) (hok : ok s')
    (hentries : s'.entries = s.entries)
    (hforced : s'.exits.count hammerExitCode + e'.forced =
      s.exits.count hammerExitCode + e.forced)
    (htimely : e'.Timely) (hbearing : Bearing T ok s' e') : Tale T ok hooks handled armed s' e' := by
  refine ⟨htimely, hentries.trans ht.entries, ?_, ht.comes.trans hforced.symm, hbearing, hok⟩
  rw [hentries]
  exact ht.counted

/-- what has to do with neither kind of end -/
theorem tasks (ht : Tale T ok hooks handled armed s e) (htimely : e'.Timely)
    (hforced : e'.forced = e.forced) (hpending : e'.pending = e.pending)
    (hendings : e'.endings = e.endings) (hclock : e'.clock = e.clock) :
    Tale T ok hooks handled armed s e' :=
  ht.bear ht.ok rfl (congrArg _ hforced) htimely
    (ht.bearing.keep rfl rfl hpending hendings hclock)

/-! ## a signal -/

/-- **A signal** does what the table of callbacks says, in the process as it is. -/
theorem dispatch {c : Coordinator} (hT : T.chronicled.Steady ok hooks)
    (ht : Tale T ok hooks handled c.armed s e) (signal : Signal) :
    let handling := (c.dispatch T.chronicled signal s).2
    Tale T ok hooks (handled ++ [signal]) handling.coordinator.armed handling.target
      (e.spawn () c.hammerTimeout handling.aftermath) := by
  obtain ⟨-, hentries, hexits, hserves, hok⟩ := dispatch_served hT ht.ok c signal
  dsimp only
  have hrunning : (T.state s.base = .running) = (.shutdown ∉ s.entries) :=
    propext ht.bearing.running_iff
  have hscript : s.entries ++ hooks.entries (T.state s.base = .running) signal =
      hooks.script true (handled ++ [signal]) := by
    simp only [hrunning]
    rw [Hooks.script_concat, ← ht.entries, Bool.true_and]
  have hcount := congrArg (List.countP Entry.arms) hentries
  rw [List.countP_append, ← ht.counted] at hcount
  have hcomes := ht.comes
  generalize (c.dispatch T.chronicled signal s).2 = handling at *
  generalize hooks.entries (T.state s.base = .running) signal = calls at *
  cases hserves with
  | aside hstate harms hshutdown =>
    refine ⟨ht.timely, hentries.trans hscript, ?_, ?_,
      ht.bearing.append hstate hentries hshutdown rfl rfl rfl, hok⟩
    · rw [hcount, harms]
      rfl
    · rw [hexits]
      exact hcomes
  | @reload s' hstate harms hshutdown =>
    have hmore : (e.wake (.hammer () .reload c.hammerTimeout)).forced = e.forced + 1 :=
      Executor.forced_wake ..
    refine ⟨ht.timely.of_eq ⟨rfl, rfl⟩, hentries.trans hscript, ?_, ?_,
      ht.bearing.append hstate hentries hshutdown (Executor.pending_wake rfl) rfl rfl, hok⟩
    · show c.armed + 1 = _
      rw [hcount, harms]
    · show c.armed + 1 = _ + (e.wake _).forced
      rw [hexits, hmore]
      omega
  | @begin s' before after hmet hstate harms hcalls hbefore course hcourse =>
    have hmore : (e.spawn () c.hammerTimeout [.hammer signal, .graceful course]).forced =
        e.forced + 1 := by
      have hhammer := Executor.forced_wake e (.hammer () signal c.hammerTimeout)
      have hgraceful := Executor.forced_wake
        { e.wake (.hammer () signal c.hammerTimeout) with endings := e.endings + 1 }
        (.graceful e.endings course)
      exact (Executor.forced_wake ..).trans (hgraceful.trans hhammer)
    refine ⟨ht.timely.of_eq (Executor.timers_spawn ..), hentries.trans hscript, ?_, ?_, ?_, hok⟩
    · show c.armed + 1 = _
      rw [hcount, harms]
    · show c.armed + 1 = _
      rw [hexits, hmore]
      omega
    · cases ht.bearing with
      | ending _ _ _ _ _ _ hphase => exact absurd hmet hphase.state_ne.2
      | running _ hnone hpending hendings =>
        have hall : s'.entries = (s.entries ++ before) ++ .shutdown :: after := by
          rw [hentries, hcalls, List.append_assoc]
        have hfirst : .shutdown ∉ s.entries ++ before := by
          rw [List.mem_append]
          exact not_or_intro hnone hbefore
        refine .ending course e.clock (Nat.le_refl _) hall hfirst hcourse ?_
        rw [Executor.pending_begin hpending hendings, hstate]
        exact .begun rfl

/-! ## polls -/

/-- a task of neither kind of end may be left out -/
theorem aside (ht : Tale T ok hooks handled armed s e) (hready : e.ready = before ++ task :: after)
    (hends : task.ends = false) (hforces : task.forces = false) :
    Tale T ok hooks handled armed s { e with ready := before ++ after } := by
  have hforced := Executor.forced_aside hready hforces
  exact ht.tasks (ht.timely.of_eq ⟨rfl, rfl⟩) hforced (Executor.pending_aside hready hends) rfl rfl

/-- a forced end comes -/
theorem strike (hT : T.chronicled.Steady ok hooks) (ht : Tale T ok hooks handled armed s e)
    (hready : e.ready = before ++ task :: after) (hends : task.ends = false)
    (hforces : task.forces = true) (reason : Signal) (timeout : Duration) :
    Tale T ok hooks handled armed (Executor.strike T.chronicled reason timeout s)
      { e with ready := before ++ after } := by
  obtain ⟨hok, hstate⟩ := hT.log (hammerLine reason timeout) s ht.ok
  obtain ⟨hok', hstate'⟩ := hT.exit hammerExitCode _ hok
  refine ht.bear hok' rfl ?_ (ht.timely.of_eq ⟨rfl, rfl⟩) (ht.bearing.keep (hstate'.trans hstate)
    rfl (Executor.pending_aside hready hends) rfl rfl)
  show (s.exits ++ [hammerExitCode]).count hammerExitCode + _ = _
  rw [List.count_append, List.count_singleton_self, Executor.forced_taken hready, hforces,
    if_pos rfl]
  omega

theorem hammer (hT : T.chronicled.Steady ok hooks) (ht : Tale T ok hooks handled armed s e)
    {reason : Signal} {timeout : Duration}
    (hready : e.ready = before ++ .hammer () reason timeout :: after) :
    let r := Executor.poll (fun _ => T.chronicled) (.hammer () reason timeout)
      (s, { e with ready := before ++ after })
    Tale T ok hooks handled armed r.1 r.2 := by
  unfold Executor.poll
  dsimp only
  split
  · exact ht.strike hT hready rfl rfl reason timeout
  · next hm =>
    have hpending := Executor.pending_aside hready rfl
    have hforced := Executor.forced_taken hready
    have htimely : ({ e with ready := before ++ after } : Executor Unit).Timely :=
      ht.timely.of_eq ⟨rfl, rfl⟩
    refine ht.tasks (htimely.sleep hm trivial) ((Executor.forced_sleep ..).trans hforced.symm) ?_
      rfl rfl
    exact (Executor.pending_sleep rfl _).trans hpending

/-- the graceful end is done: the state says so, and the process exits -/
theorem finish (hT : T.chronicled.Steady ok hooks) (ht : Tale T ok hooks handled armed s e)
    (htimely : e'.Timely) (hforced : e'.forced = e.forced)
    (hbearing : ∀ s' : Chronicled σ, s'.entries = s.entries → T.state s'.base = .terminate →
      Bearing T ok s' e') :
    Tale T ok hooks handled armed (Executor.finish T.chronicled s) e' := by
  obtain ⟨hok, hset⟩ := hT.setState .terminate s ht.ok
  obtain ⟨hok', hstate⟩ := hT.exit 0 _ hok
  refine ht.bear hok' rfl ?_ htimely (hbearing _ rfl (hstate.trans hset))
  show (s.exits ++ [0]).count hammerExitCode + _ = _
  rw [List.count_append, hforced]
  rfl

theorem pollEnding (hT : T.chronicled.Steady ok hooks) (ht : Tale T ok hooks handled armed s e)
    (hready : e.ready = before ++ task :: after) (hends : task.ends = true)
    (hfree : task = .watch () 0 → ∀ course, .graceful 0 course ∉ e.ready) :
    let r := Executor.poll (fun _ => T.chronicled) task (s, { e with ready := before ++ after })
    Tale T ok hooks handled armed r.1 r.2 := by
  have hforces : task.forces = false := by
    cases task with
    | consume | hammer | strike => cases hends
    | graceful | complete | watch => rfl
  have hrest := Executor.forced_aside hready hforces
  have htimely : ({ e with ready := before ++ after } : Executor Unit).Timely :=
    ht.timely.of_eq ⟨rfl, rfl⟩
  have hpoll := htimely.poll (fun _ => T.chronicled) task s
  have hclock := Executor.clock_poll (fun _ => T.chronicled) task s
    { e with ready := before ++ after }
  have hforced := Executor.forced_poll_ending (fun _ => T.chronicled) hends s
    { e with ready := before ++ after }
  cases ht.bearing with
  | running _ _ hnone _ =>
    have hnil := congrArg Pending.ready (hnone.symm.trans (Executor.pending_taken hready hends))
    simp at hnil
  | ending course began hbegan hentries hbefore hcourse hphase =>
    have hnext := Phase.poll (e := { e with ready := before ++ after }) (fun _ => T.chronicled) s
      (hphase.taken hready hends hfree)
    generalize Executor.poll (fun _ => T.chronicled) task
      (s, { e with ready := before ++ after }) = polled at *
    cases hnext with
    | stage hphase =>
      exact ht.bear ht.ok rfl (congrArg _ (hforced.trans hrest)) hpoll
        (.ending course began (hclock.symm ▸ hbegan) hentries hbefore hcourse hphase)
    | finish hdone hdue hstate hpending =>
      refine ht.finish hT hpoll (hforced.trans hrest) fun s' hsame hterminate =>
        .ending course began hbegan (hsame.trans hentries) hbefore hcourse ?_
      rw [hpending, hterminate]
      exact .finished hdone hdue _

/-- **A poll** of any task that is ready, if it does not take signals out of a queue, and does not
wait for a graceful end that has not been polled at all. -/
theorem poll (hT : T.chronicled.Steady ok hooks) (ht : Tale T ok hooks handled armed s e)
    (hready : e.ready = before ++ task :: after) (hother : task ≠ .consume ())
    (hfree : task = .watch () 0 → ∀ course, .graceful 0 course ∉ e.ready) :
    let r := Executor.poll (fun _ => T.chronicled) task (s, { e with ready := before ++ after })
    Tale T ok hooks handled armed r.1 r.2 := by
  cases task with
  | consume => exact absurd rfl hother
  | hammer => exact ht.hammer hT hready
  | strike owner reason timeout => exact ht.strike hT hready rfl rfl reason timeout
  | graceful | complete | watch => exact ht.pollEnding hT hready rfl hfree

/-! ## the clock -/

/-- **A deadline**: what waited for it is ready. -/
theorem due (ht : Tale T ok hooks handled armed s e) (hready : e.ready = []) {deadline : Nat}
    (hle : e.clock ≤ deadline) : Tale T ok hooks handled armed s (e.due deadline) := by
  have hp := Executor.pending_due ht.timely deadline
  refine ht.bear ht.ok rfl (congrArg _ (Executor.forced_due ht.timely deadline))
    (ht.timely.due deadline) ?_
  cases ht.bearing with
  | running hstate hnone hpending hendings =>
    refine .running hstate hnone ?_ hendings
    rw [hp, hpending]
    rfl
  | ending course began hbegan hentries hbefore hcourse hphase =>
    refine .ending course began (Nat.le_trans hbegan hle) hentries hbefore hcourse ?_
    rw [hp]
    have hnone : e.pending.ready = [] := by simp [Executor.pending, hready]
    exact hphase.reach hnone hle

theorem tick (ht : Tale T ok hooks handled armed s e) (hready : e.ready = []) {clock : Nat}
    (hle : e.clock ≤ clock) (hnext : ∀ t ∈ e.timers, clock < t.deadline) :
    Tale T ok hooks handled armed s { e with clock } := by
  refine ht.bear ht.ok rfl rfl (ht.timely.tick hnext) ?_
  cases ht.bearing with
  | running hstate hnone hpending hendings => exact .running hstate hnone hpending hendings
  | ending course began hbegan hentries hbefore hcourse hphase =>
    have hnone : e.pending.ready = [] := by simp [Executor.pending, hready]
    exact .ending course began (Nat.le_trans hbegan hle) hentries hbefore hcourse
      (hphase.tick hnone hle)

end Tale

end Succession
