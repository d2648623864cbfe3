import Succession.Proofs.Lifecycle.Turns

/-!
# A life goes one way

Whatever signals come, and however the clock moves between them, a process runs, shuts down and
terminates, each at most once. Its coordinator and what it asked of its target tell the same story.

* `Conducted.lives`   the invariant of `Life` at every point of every run;
* `Orderly`           what can be seen of it;
* `Idle`              a signal that meets a process that does not run.
-/

namespace Succession

section
variable {ι σ : Type} [DecidableEq ι]

theorem Executor.queues_poll (targets : ι → Target σ) {task : Task ι}
    (h : ∀ owner, task ≠ .consume owner) (s : σ) (e : Executor ι) :
    (poll targets task (s, e)).2.queues = e.queues := by
  cases task with
  | consume owner => exact absurd rfl (h owner)
  | strike => rfl
  | hammer | graceful | complete | watch =>
    unfold poll
    dsimp only
    split <;> rfl

end

theorem Executor.queues_setQueue (e : Executor Unit) (q : SignalQueue) :
    (e.setQueue () q).queues = [((), q)] := by
  have hnone : (e.queues.filter fun p => p.1 ≠ ()) = [] := by simp
  show ((), q) :: e.queues.filter _ = _
  rw [hnone]

theorem Executor.queue?_eq {e : Executor Unit} {q : SignalQueue} (h : e.queues = [((), q)]) :
    e.queue? () = some q := by
  unfold queue?
  rw [h]
  rfl

variable {σ : Type} {T : Target σ} {ok : Traced σ → Prop} {first : LifecycleState} {h : History}
  {timeout : Duration}

namespace Conduct

variable {s s' : σ} {e e' : Executor Unit} {direct : Option Coordinator} {q : SignalQueue}

/-- the coordinator is driven directly, or has the only queue -/
def Staffed (r : Conduct σ) : Prop :=
  match r.direct with
  | some _ => r.tasks.queues = []
  | none => ∃ q, r.tasks.queues = [((), q)]

theorem armed_eq (he : e'.queues = e.queues) :
    armed ⟨s', e', direct⟩ = armed ⟨s, e, direct⟩ := by
  unfold armed Executor.queue?
  rw [he]

theorem armed_queued (he : e.queues = [((), q)]) : armed ⟨s, e, none⟩ = q.coordinator.armed := by
  unfold armed
  dsimp only
  rw [Executor.queue?_eq he]
  rfl

theorem Staffed.of_eq (hr : Staffed ⟨s, e, direct⟩) (he : e'.queues = e.queues) :
    Staffed ⟨s', e', direct⟩ := by
  unfold Staffed at hr ⊢
  rwa [he]

end Conduct

structure Lives (T : Target σ) (ok : Traced σ → Prop) (first : LifecycleState) (h : History)
    (r : Conduct (Traced σ)) : Prop where
  life : Life T ok first h r.armed r.target r.tasks
  staffed : r.Staffed

namespace Lives

variable {s : Traced σ} {e e' : Executor Unit} {direct : Option Coordinator} {c : Coordinator}

theorem tasks (hl : Lives T ok first h ⟨s, e, direct⟩)
    (he : Life T ok first h (Conduct.armed ⟨s, e, direct⟩) s e') (hq : e'.queues = e.queues) :
    Lives T ok first h ⟨s, e', direct⟩ := by
  refine ⟨?_, hl.staffed.of_eq hq⟩
  rw [Conduct.armed_eq (s := s) hq]
  exact he

theorem queue {q q' : SignalQueue} (hl : Lives T ok first h ⟨s, e, none⟩)
    (hq : e.queues = [((), q)]) (hc : q'.coordinator.armed = q.coordinator.armed) :
    Lives T ok first h ⟨s, e.setQueue () q', none⟩ := by
  have hq' := e.queues_setQueue q'
  refine ⟨?_, q', hq'⟩
  rw [Conduct.armed_queued hq', hc, ← Conduct.armed_queued (s := s) hq]
  exact hl.life.tasks (hl.life.timely.of_eq ⟨rfl, rfl⟩) rfl rfl rfl

theorem dispatch (hT : T.traced.Lawful ok) (hl : Lives T ok first h ⟨s, e, some c⟩)
    (signal : Signal) :
    Lives T ok first (h ++ [⟨e.clock, T.state s.base, signal⟩])
      ⟨(c.dispatch T.traced signal s).2.target,
        e.spawn () c.hammerTimeout (c.dispatch T.traced signal s).2.aftermath,
        some (c.dispatch T.traced signal s).2.coordinator⟩ :=
  ⟨hl.life.dispatch hT signal, (Executor.queues_spawn ..).trans hl.staffed⟩

theorem start (hT : T.traced.Lawful ok) (hl : Lives T ok first h ⟨s, e, some c⟩)
    (hstate : T.state s.base = .init ∨ T.state s.base = .running) :
    Lives T ok first h ⟨T.traced.setState .running s, e.setQueue () ⟨c, [], true⟩, none⟩ := by
  have hq := e.queues_setQueue ⟨c, [], true⟩
  obtain ⟨hok, hset⟩ := hT.setState .running s hl.life.ok
  refine ⟨?_, _, hq⟩
  rw [Conduct.armed_queued hq]
  have hcalls : (T.traced.setState .running s).calls = s.calls ++ [.state .running] := rfl
  have hstates := states_eq hcalls
  have hcourses := courses_eq hcalls
  obtain ⟨hmoves, hlast⟩ := moves_on hl.life.moves hl.life.last (.run hstate)
  cases hl.life.ending with
  | during _ _ _ _ hphase =>
    obtain ⟨hinit, hrunning⟩ := hphase.state_ne
    exact absurd hstate (not_or_intro hinit hrunning)
  | before _ hcs hbegins hpending hendings =>
    have hnone : (T.traced.setState .running s).courses = [] := by
      rw [hcourses, hcs]
      rfl
    refine ⟨hok, hl.life.timely.of_eq ⟨rfl, rfl⟩, ?_, ?_, ?_, ?_, ?_,
      .before (.inr hset) hnone hbegins hpending hendings⟩
    · rw [hstates]
      exact hmoves
    · rw [hstates]
      exact hlast.trans (congrArg some hset.symm)
    · rw [hnone, ← hcs]
      exact hl.life.armed
    · rw [hcalls, List.count_append, hl.life.reloads]
      rfl
    · rw [hcalls]
      refine hl.life.exits.append (iff_of_false ?_ ?_) (by decide)
      · rw [show T.state (T.traced.setState .running s).base = .running from hset]
        decide
      · obtain hs | hs := hstate <;>
        · rw [hs]
          decide

theorem send (hl : Lives T ok first h ⟨s, e, none⟩) (signal : Signal) :
    Lives T ok first h ⟨s, (e.send () signal).2, none⟩ := by
  obtain ⟨q, hq⟩ : ∃ q, e.queues = [((), q)] := hl.staffed
  unfold Executor.send
  rw [Executor.queue?_eq hq]
  dsimp only
  split
  · have hqueue : Lives T ok first h
        ⟨s, e.setQueue () { q with signals := q.signals ++ [signal] }, none⟩ := hl.queue hq rfl
    exact hqueue.tasks (hqueue.life.tasks (hqueue.life.timely.of_eq ⟨rfl, rfl⟩)
      (Executor.pending_wake rfl) rfl rfl) rfl
  · exact hl

theorem abort (hl : Lives T ok first h ⟨s, e, none⟩) :
    Lives T ok first h ⟨s, e.abort (), none⟩ := by
  obtain ⟨q, hq⟩ : ∃ q, e.queues = [((), q)] := hl.staffed
  unfold Executor.abort
  rw [Executor.queue?_eq hq]
  exact hl.queue hq rfl

theorem consume {rest : List (Task Unit)} (hT : T.traced.Lawful ok)
    (hl : Lives T ok first h ⟨s, e, direct⟩) (hready : e.ready = .consume () :: rest) :
    Lives T ok first (h ++ handledBy T.traced s e (.consume ()))
      ⟨(Executor.poll (fun _ => T.traced) (.consume ()) (s, { e with ready := rest })).1,
        (Executor.poll (fun _ => T.traced) (.consume ()) (s, { e with ready := rest })).2,
        direct⟩ := by
  have haside : Lives T ok first h ⟨s, { e with ready := rest }, direct⟩ :=
    hl.tasks (hl.life.aside hready rfl) rfl
  have hstay : Lives T ok first (h ++ []) ⟨s, { e with ready := rest }, direct⟩ := by
    rwa [List.append_nil]
  unfold handledBy Executor.poll
  dsimp only
  rw [show ({ e with ready := rest } : Executor Unit).queue? () = e.queue? () from rfl]
  cases hlookup : e.queue? () with
  | none => exact hstay
  | some q =>
    by_cases hrunning : q.running = true
    · dsimp only
      rw [if_pos hrunning, if_neg (not_not_intro hrunning)]
      cases direct with
      | some c =>
        have hnone : e.queues = [] := hl.staffed
        unfold Executor.queue? at hlookup
        rw [hnone] at hlookup
        cases hlookup
      | none =>
        obtain ⟨q', hq⟩ : ∃ q', e.queues = [((), q')] := hl.staffed
        rw [Executor.queue?_eq hq] at hlookup
        obtain rfl := Option.some.inj hlookup
        have hlife := haside.life
        rw [show Conduct.armed ⟨s, { e with ready := rest }, none⟩ = q'.coordinator.armed from
          Conduct.armed_queued hq] at hlife
        have hnext := hlife.consume hT q'.signals
        generalize Executor.consume T.traced () q'.coordinator s { e with ready := rest }
          q'.signals = consumed at hnext
        obtain ⟨c, running, s', e'⟩ := consumed
        have hq' := e'.queues_setQueue ⟨c, [], running⟩
        refine ⟨?_, _, hq'⟩
        rw [Conduct.armed_queued hq']
        exact hnext.tasks (hnext.timely.of_eq ⟨rfl, rfl⟩) rfl rfl rfl
    · dsimp only
      rw [if_neg hrunning, if_pos hrunning]
      exact hstay

theorem poll {task : Task Unit} {rest : List (Task Unit)} (hT : T.traced.Lawful ok)
    (hl : Lives T ok first h ⟨s, e, direct⟩) (hready : e.ready = task :: rest) :
    Lives T ok first (h ++ handledBy T.traced s e task)
      ⟨(Executor.poll (fun _ => T.traced) task (s, { e with ready := rest })).1,
        (Executor.poll (fun _ => T.traced) task (s, { e with ready := rest })).2, direct⟩ := by
  have hother (hnone : handledBy T.traced s e task = [])
      (hconsume : ∀ owner, task ≠ .consume owner)
      (hlife : Life T ok first h (Conduct.armed ⟨s, e, direct⟩)
        (Executor.poll (fun _ => T.traced) task (s, { e with ready := rest })).1
        (Executor.poll (fun _ => T.traced) task (s, { e with ready := rest })).2) :
      Lives T ok first (h ++ handledBy T.traced s e task)
        ⟨(Executor.poll (fun _ => T.traced) task (s, { e with ready := rest })).1,
          (Executor.poll (fun _ => T.traced) task (s, { e with ready := rest })).2, direct⟩ := by
    have hq := Executor.queues_poll (fun _ => T.traced) hconsume s { e with ready := rest }
    rw [hnone, List.append_nil]
    refine ⟨?_, hl.staffed.of_eq hq⟩
    rw [Conduct.armed_eq (s := s) hq]
    exact hlife
  cases task with
  | consume => exact hl.consume hT hready
  | hammer owner reason timeout =>
    exact hother rfl nofun ((hl.life.aside hready rfl).pollHammer hT reason timeout)
  | strike owner reason timeout =>
    exact hother rfl nofun ((hl.life.aside hready rfl).strike hT reason timeout)
  | graceful | complete | watch => exact hother rfl nofun (hl.life.pollEnding hT hready rfl)

end Lives

/-- **The invariant of every run.** -/
theorem Conducted.lives {s₀ : σ} {r : Conduct (Traced σ)} (hT : T.traced.Lawful ok)
    (hs : ok ⟨s₀, []⟩) (hstate : T.state s₀ = .init ∨ T.state s₀ = .running)
    (hr : Conducted T.traced timeout ⟨s₀, []⟩ h r) : Lives T ok (T.state s₀) h r := by
  induction hr with
  | begin =>
    refine ⟨⟨hs, Executor.timely_new, List.isChain_singleton _, rfl, rfl, rfl, ?_,
      .before hstate rfl rfl rfl rfl⟩, rfl⟩
    show ExitsWell (T.state s₀) []
    unfold ExitsWell
    rw [if_neg (by obtain hs | hs := hstate <;> rw [hs] <;> decide)]
    exact nofun
  | dispatch signal _ ih => exact ih.dispatch hT signal
  | start _ hstate ih => exact ih.start hT hstate
  | send signal _ ih => exact ih.send signal
  | abort _ ih => exact ih.abort
  | poll _ _ hready ih => exact ih.poll hT hready
  | @fire h s e direct t rest _ hready htimers ih =>
    have hle : e.clock ≤ t.deadline := by
      have hmem : t ∈ e.timers := by
        rw [htimers]
        exact List.mem_cons_self
      exact Nat.le_of_lt (ih.life.timely.ahead t hmem)
    exact ih.tasks (ih.life.due hready hle) rfl
  | tick clock _ hready hle hnext ih => exact ih.tasks (ih.life.tick hready hle hnext) rfl

/-! ## what can be seen of it -/

section
variable {r : Conduct (Traced σ)}

/-- the graceful end that a signal began has come back normally -/
def Returned (h : History) (r : Conduct (Traced σ)) : Prop :=
  ∃ entry ∈ h, entry.begins = true ∧
    ∃ millis, .shutdown (.after millis) ∈ r.target.calls ∧ entry.clock + millis ≤ r.tasks.clock

structure Orderly (T : Target σ) (first : LifecycleState) (h : History)
    (r : Conduct (Traced σ)) : Prop where
  moves : (first :: r.target.states).IsChain Moves
  last : (first :: r.target.states).getLast? = some (T.state r.target.base)
  once : r.target.courses.length = if h.any Handled.begins then 1 else 0
  armed : r.armed = h.countP Handled.isReload + r.target.courses.length
  reloads : r.target.calls.count .reload = h.countP Handled.isReload
  terminated : T.state r.target.base = .terminate → Returned h r
  returned : r.tasks.ready = [] → Returned h r → T.state r.target.base = .terminate
  exits : ExitsWell (T.state r.target.base) r.target.calls

theorem mem_courses {s : Traced σ} {course : Course} :
    course ∈ s.courses ↔ .shutdown course ∈ s.calls := by
  unfold Traced.courses
  rw [List.mem_filterMap]
  constructor
  · rintro ⟨call, hmem, hcourse⟩
    cases call with
    | shutdown course' =>
      obtain rfl := Option.some.inj hcourse
      exact hmem
    | state | reload | exit => cases hcourse
  · exact fun hmem => ⟨_, hmem, rfl⟩

theorem Life.once {armed : Nat} {s : Traced σ} {e : Executor Unit}
    (hl : Life T ok first h armed s e) :
    s.courses.length = if h.any Handled.begins then 1 else 0 := by
  cases hl.ending with
  | before _ hcourses hbegins _ _ =>
    have hnone : ¬ h.any Handled.begins = true := by
      rw [List.any_eq_true]
      rintro ⟨entry, hmem, hentry⟩
      exact List.filter_eq_nil_iff.mp hbegins entry hmem hentry
    rw [if_neg hnone, hcourses]
    rfl
  | during entry course hcourses hbegins _ =>
    have hmem : entry ∈ h.filter Handled.begins := by
      rw [hbegins]
      exact List.mem_cons_self
    have hsome : h.any Handled.begins = true :=
      List.any_eq_true.mpr ⟨entry, List.mem_filter.mp hmem⟩
    rw [if_pos hsome, hcourses]
    rfl

theorem Life.terminated (hl : Life T ok first h r.armed r.target r.tasks)
    (hstate : T.state r.target.base = .terminate) : Returned h r := by
  cases hl.ending with
  | before hs _ _ _ _ =>
    rw [hstate] at hs
    obtain hs | hs := hs <;> cases hs
  | during entry course hcourses hbegins hphase =>
    have hmem : entry ∈ h.filter Handled.begins := by
      rw [hbegins]
      exact List.mem_cons_self
    obtain ⟨hentry, hb⟩ := List.mem_filter.mp hmem
    have hcall : course ∈ r.target.courses := by
      rw [hcourses]
      exact List.mem_cons_self
    rw [hstate] at hphase
    generalize r.tasks.pending = pending at hphase
    cases hphase with
    | finished hcourse hdue watching =>
      subst hcourse
      exact ⟨entry, hentry, hb, _, mem_courses.mp hcall, hdue⟩

theorem Life.returned (hl : Life T ok first h r.armed r.target r.tasks)
    (hready : r.tasks.ready = []) (hr : Returned h r) :
    T.state r.target.base = .terminate := by
  obtain ⟨entry', hmem, hb, millis', hcall, hle⟩ := hr
  cases hl.ending with
  | before _ _ hbegins _ _ => exact absurd hb (List.filter_eq_nil_iff.mp hbegins entry' hmem)
  | during entry course hcourses hbegins hphase =>
    have hsame : entry' = entry := by
      have hin : entry' ∈ h.filter Handled.begins := List.mem_filter.mpr ⟨hmem, hb⟩
      rw [hbegins] at hin
      exact List.mem_singleton.mp hin
    have hcourse : .after millis' = course := by
      have hin := mem_courses.mpr hcall
      rw [hcourses] at hin
      exact List.mem_singleton.mp hin
    subst hsame hcourse
    have hnone : r.tasks.pending.ready = [] := by simp [Executor.pending, hready]
    have hahead : ∀ t ∈ r.tasks.pending.timers, r.tasks.clock < t.deadline :=
      fun t ht => hl.timely.ahead t (List.mem_filter.mp ht).1
    generalize r.tasks.pending = pending at hphase hnone hahead
    generalize hst : T.state r.target.base = state at hphase ⊢
    cases hphase with
    | finished => rfl
    | @waiting millis hcourse =>
      obtain rfl : millis' = millis := Course.after.inj hcourse
      have := hahead _ List.mem_cons_self
      dsimp only at this
      omega
    | endless hcourse => exact absurd rfl (hcourse millis')
    | begun | asleep | due | done | lost => cases hnone

theorem Lives.orderly (hl : Lives T ok first h r) : Orderly T first h r :=
  ⟨hl.life.moves, hl.life.last, hl.life.once, hl.life.armed, hl.life.reloads, hl.life.terminated,
    hl.life.returned, hl.life.exits⟩

end

/-- a signal that meets a process that does not run: a reload asks for a successor and arms a forced
end, and any other does nothing -/
structure Idle (T : Target σ) (c : Coordinator) (signal : Signal) (s : Traced σ)
    (handling : Handling (Traced σ)) : Prop where
  state : T.state handling.target.base = T.state s.base
  calls : handling.target.calls = s.calls ++ if signal = .reload then [.reload] else []
  armed : handling.coordinator.armed = c.armed + if signal = .reload then 1 else 0
  aftermath : handling.aftermath = if signal = .reload then [.hammer .reload] else []

theorem dispatch_idle {s : Traced σ} (hT : T.traced.Lawful ok) (hs : ok s) (c : Coordinator)
    (signal : Signal) (hstate : T.state s.base ≠ .running) :
    Idle T c signal s (c.dispatch T.traced signal s).2 := by
  obtain ⟨-, -, hhandles⟩ := dispatch_handles hT hs c signal
  generalize (c.dispatch T.traced signal s).2 = handling at hhandles
  cases hhandles with
  | reload hsignal hsame hcalls =>
    subst hsignal
    exact ⟨hsame, hcalls, rfl, rfl⟩
  | begin hsignal hrunning => exact absurd hrunning hstate
  | ignore hsignal _ hsame hcalls =>
    refine ⟨hsame, ?_, ?_, ?_⟩
    · rw [if_neg hsignal, List.append_nil, hcalls]
    · rw [if_neg hsignal]
      rfl
    · rw [if_neg hsignal]

end Succession
