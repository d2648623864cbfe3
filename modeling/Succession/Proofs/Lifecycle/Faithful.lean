import Succession.Proofs.Lifecycle.Heed

/-!
# A queue is faithful to what is sent

Where no callback panics, all signals are accepted, and handled in the order of sending. Whatever runs
between them, a queue leads to the same calls as the signals handed over directly, and at the same
time to the same state.

* `Hooks.rite`           the calls of a list of signals, one after the other;
* `Bearing.state_eq`     the state, by the calls so far and the clock;
* `Faithful`             what a queue and a direct coordinator have in common;
* `Scheduled.faithful`   they do after every two runs.
-/

namespace Succession

namespace Hooks

variable {hooks : Hooks}

/-- the callbacks before a signal, its action, the callbacks behind it, and then the next signal -/
def rite (hooks : Hooks) : Bool → List Signal → List Entry
  | _, [] => []
  | running, signal :: rest =>
    (hooks.due .pre signal).map (.hook · signal) ++ signal.action running ++
      (hooks.due .post signal).map (.hook · signal) ++
      hooks.rite (running && signal = .reload) rest

theorem called_calm (hcalm : ∀ h ∈ hooks, h.panics = false) : hooks.called = hooks := by
  induction hooks with
  | nil => rfl
  | cons h rest ih =>
    have hp : h.panics = false := hcalm h List.mem_cons_self
    have hrest := ih fun h' hm => hcalm h' (List.mem_cons_of_mem _ hm)
    simp [called, hp, hrest]

theorem panic_calm (hcalm : ∀ h ∈ hooks, h.panics = false) : hooks.panic = false := by
  simpa [panic] using hcalm

section
variable (hcalm : ∀ h ∈ hooks, h.panics = false)
include hcalm

theorem due_calm (phase : HookPhase) (signal : Signal) :
    ∀ h ∈ hooks.due phase signal, h.panics = false :=
  fun h hm => hcalm h (mem_of_mem_due hm)

theorem breaks_calm (signal : Signal) : hooks.breaks signal = false := by
  have hpre := panic_calm (due_calm hcalm .pre signal)
  have hpost := panic_calm (due_calm hcalm .post signal)
  simp [breaks, lets, hpre, hpost]

theorem entries_calm (running : Bool) (signal : Signal) :
    hooks.entries running signal = (hooks.due .pre signal).map (.hook · signal) ++
      signal.action running ++ (hooks.due .post signal).map (.hook · signal) := by
  have hpre := due_calm hcalm .pre signal
  have hpost := due_calm hcalm .post signal
  simp [entries, calls, lets, panic_calm hpre, called_calm hpre, called_calm hpost]

theorem script_calm (running : Bool) (signals : List Signal) :
    hooks.script running signals = hooks.rite running signals := by
  induction signals generalizing running with
  | nil => rfl
  | cons signal rest ih =>
    have hnext : (running && decide (.shutdown ∉ hooks.entries running signal)) =
        (running && decide (signal = .reload)) := by
      rw [entries_calm hcalm]
      cases signal <;> cases running <;> simp [Signal.action]
    rw [script_cons, hnext, ih, entries_calm hcalm]
    rfl

end
end Hooks

/-! ## the state -/

def Course.doneBy (began clock : Nat) : Course → Bool
  | .after millis => began + millis ≤ clock
  | .never | .panics => false

theorem Phase.quiet {course : Course} {began clock : Nat} {pending : Pending}
    {state : LifecycleState} (hphase : Phase course began clock pending state)
    (hready : pending.ready = []) (hahead : ∀ t ∈ pending.timers, clock < t.deadline) :
    state = if course.doneBy began clock then .terminate else .shuttingDown := by
  cases hphase with
  | begun | asleep | due | done | lost => cases hready
  | @waiting millis hcourse =>
    have hlt : clock < began + millis := hahead _ List.mem_cons_self
    have hnot : ¬ began + millis ≤ clock := by omega
    simp [hcourse, Course.doneBy, hnot]
  | finished hcourse hdue => simp [hcourse, Course.doneBy, hdue]
  | endless hcourse =>
    cases course with
    | after millis => exact absurd rfl (hcourse millis)
    | never | panics => rfl

theorem Entry.takeWhile_shutdown {before after : List Entry} (hbefore : shutdown ∉ before) :
    (before ++ shutdown :: after).takeWhile (· ≠ shutdown) = before := by
  have hall : ∀ entry ∈ before, decide (entry ≠ shutdown) = true := by
    intro entry hmem
    exact decide_eq_true (ne_of_mem_of_not_mem hmem hbefore)
  rw [List.takeWhile_append_of_pos hall, List.takeWhile_cons_of_neg (by simp), List.append_nil]

variable {σ : Type} {T : Target σ} {ok : Chronicled σ → Prop} {hooks : Hooks}

/-- the course of the graceful end follows from the calls before it -/
def Target.Planned (T : Target σ) (ok : Chronicled σ → Prop) : Prop :=
  ∀ s s', ok s → ok s' → s.entries = s'.entries → (T.shutdown s.base).1 = (T.shutdown s'.base).1

theorem Target.Planned.takes (hplan : T.Planned ok) {course course' : Course}
    {before : List Entry} (h : T.Takes ok course before) (h' : T.Takes ok course' before) :
    course = course' := by
  obtain ⟨s, hs, rfl, rfl⟩ := h
  obtain ⟨s', hs', hsame, rfl⟩ := h'
  exact hplan s s' hs hs' hsame.symm

section
variable {s s' : Chronicled σ} {e e' : Executor Unit}

/-- **After the same calls**, with nothing left to run and no time gone by, the state is the same. -/
theorem Bearing.state_eq (hplan : T.Planned ok) (hb : Bearing T ok s e) (hb' : Bearing T ok s' e')
    (ht : e.Timely) (ht' : e'.Timely) (hready : e.ready = []) (hready' : e'.ready = [])
    (hclock : e.clock = 0) (hclock' : e'.clock = 0) (hentries : s.entries = s'.entries) :
    T.state s.base = T.state s'.base := by
  have hquiet {e : Executor Unit} (hready : e.ready = []) : e.pending.ready = [] := by
    simp [Executor.pending, hready]
  have hahead {e : Executor Unit} (ht : e.Timely) :
      ∀ t ∈ e.pending.timers, e.clock < t.deadline :=
    fun t hmem => ht.ahead t (List.mem_filter.mp hmem).1
  have hiff : T.state s.base = .running ↔ T.state s'.base = .running := by
    rw [hb.running_iff, hb'.running_iff, hentries]
  cases hb with
  | running hstate => exact hstate.trans (hiff.mp hstate).symm
  | ending course began hbegan hcalls hbefore hcourse hphase =>
    cases hb' with
    | running hstate => exact (hiff.mpr hstate).trans hstate.symm
    | ending course' began' hbegan' hcalls' hbefore' hcourse' hphase' =>
      have hsame := congrArg (List.takeWhile (· ≠ .shutdown)) hentries
      rw [hcalls, hcalls', Entry.takeWhile_shutdown hbefore, Entry.takeWhile_shutdown hbefore']
        at hsame
      subst hsame
      obtain rfl := hplan.takes hcourse hcourse'
      obtain rfl : began = began' := by omega
      rw [hphase.quiet (hquiet hready) (hahead ht), hphase'.quiet (hquiet hready') (hahead ht'),
        hclock, hclock']

end

/-! ## a queue and a direct coordinator -/

variable {timeout timeout' : Duration} {s₁ s₂ : σ} {sent sent' : Post}
  {r d : Conduct (Chronicled σ)}

/-- a queue to which these signals were sent, and a coordinator that they were handed to -/
structure Faithful (T : Target σ) (hooks : Hooks) (sent : Post) (r d : Conduct (Chronicled σ)) :
    Prop where
  accepted : ∀ post ∈ sent, post.2 = true
  /-- at any time, those handled so far are the first of those sent -/
  inOrder : ∃ handled, handled <+: sent.map (·.1) ∧ r.target.entries = hooks.rite true handled
  directly : d.target.entries = hooks.rite true (sent.map (·.1))
  calls : r.tasks.ready = [] → r.target.entries = d.target.entries ∧ r.armed = d.armed
  state : r.tasks.ready = [] → d.tasks.ready = [] → r.tasks.clock = 0 → d.tasks.clock = 0 →
    T.state r.target.base = T.state d.target.base

/-- **A queue is faithful** to the signals sent to it, and gets to the end of them. -/
theorem Scheduled.faithful (hT : T.chronicled.Steady ok hooks)
    (hcalm : ∀ h ∈ hooks, h.panics = false) (hplan : T.Planned ok) (hs₁ : ok ⟨s₁, [], []⟩)
    (hs₂ : ok ⟨s₂, [], []⟩) (hr : Scheduled T.chronicled timeout ⟨s₁, [], []⟩ sent r)
    (hd : Scheduled T.chronicled timeout' ⟨s₂, [], []⟩ sent' d) (hqueue : r.direct = none)
    (hdirect : d.direct.isSome = true) (hsame : sent.map (·.1) = sent'.map (·.1)) :
    Faithful T hooks sent r d ∧
      Scheduled T.chronicled timeout ⟨s₁, [], []⟩ sent (r.settle T.chronicled) ∧
      (T.ended (r.settle T.chronicled).target.base = true ∨
        (r.settle T.chronicled).tasks.ready = []) := by
  refine ⟨?_, hr.settle hT hs₁⟩
  obtain ⟨handled, ht⟩ := hr.told hT hs₁
  obtain ⟨handled', ht'⟩ := hd.told hT hs₂
  have hunbroken (signals : List Signal) : signals.any hooks.breaks = false := by
    simp [Hooks.breaks_calm hcalm]
  have hheeded := ht.heeds hqueue
  obtain ⟨waiting, refused, hanswers, hnone⟩ := hheeded.answers
  obtain rfl := hnone (hunbroken handled)
  have hsent : sent.map (·.1) = handled ++ waiting := by
    rw [hanswers]
    simp [Function.comp_def]
  have hdirectly : handled' = sent.map (·.1) := by
    cases ht'.manned with
    | queued => cases hdirect
    | direct _ hsent' =>
      rw [hsame, hsent']
      simp [Function.comp_def]
  have hcalls : d.target.entries = hooks.rite true (sent.map (·.1)) := by
    rw [ht'.tale.entries, hdirectly, Hooks.script_calm hcalm]
  have hentries (hready : r.tasks.ready = []) : r.target.entries = d.target.entries := by
    have hall := congrArg (List.map (·.1)) (hheeded.quiet hready (hunbroken handled))
    rw [hheeded.entries, hcalls, hall, Hooks.script_calm hcalm]
    simp [Function.comp_def]
  refine ⟨?_, ⟨handled, ?_, ?_⟩, hcalls, fun hready => ⟨hentries hready, ?_⟩, ?_⟩
  · rw [hanswers]
    simp
  · rw [hsent]
    exact List.prefix_append _ _
  · rw [hheeded.entries, Hooks.script_calm hcalm]
  · rw [ht.tale.counted, ht'.tale.counted, hentries hready]
  · intro hready hready' hclock hclock'
    exact ht.tale.bearing.state_eq hplan ht'.tale.bearing ht.tale.timely ht'.tale.timely hready
      hready' hclock hclock' (hentries hready)

/-- a reload and an end with callbacks around them, through a queue and handed over directly -/
theorem Scheduled.faithful_recorder :
    let T := Recorder.target.chronicled
    let hooks : Hooks := [⟨.post, .interrupt, "a", false⟩, ⟨.pre, .reload, "b", false⟩]
    let start : Chronicled Recorder :=
      { Recorder.idle hooks .immediate with base.state := .running }
    let sent : Post := [(.reload, true), (.interrupt, true)]
    let r := (Recorder.queued hooks .immediate (.ofMillis 5) [.reload, .interrupt]).settle T
    Scheduled T (.ofMillis 5) (Recorder.idle hooks .immediate) sent r ∧
      r.target.entries = [.hook ⟨.pre, .reload, "b", false⟩ .reload, .reload, .shutdown,
        .hook ⟨.post, .interrupt, "a", false⟩ .interrupt] ∧ T.state r.target = .terminate ∧
      ∃ d : Conduct (Chronicled Recorder), Scheduled T (.ofMillis 5) start sent d ∧
        d.direct.isSome = true ∧ Faithful Recorder.target hooks sent r d := by
  intro T hooks start sent r
  have hT := Recorder.steady_target hooks .immediate
  have hcalm : ∀ h ∈ hooks, h.panics = false := by decide
  have hs : (Recorder.idle hooks .immediate).base.hooks = hooks ∧
    (Recorder.idle hooks .immediate).base.course = .immediate := ⟨rfl, rfl⟩
  have hs' : start.base.hooks = hooks ∧ start.base.course = .immediate := ⟨rfl, rfl⟩
  have hsent : Scheduled T (.ofMillis 5) (Recorder.idle hooks .immediate) sent
      (Recorder.queued hooks .immediate (.ofMillis 5) [.reload, .interrupt]) :=
    .send .interrupt (.send .reload .start)
  have hr := (hsent.settle hT hs).1
  have hd : Scheduled T (.ofMillis 5) start sent _ :=
    .dispatch .interrupt (.dispatch .reload (.direct rfl))
  refine ⟨hr, by decide, by decide, _, hd, rfl, ?_⟩
  exact (Scheduled.faithful hT hcalm (fun _ _ h h' _ => h.2.trans h'.2.symm) hs hs' hr hd rfl rfl
    rfl).1

end Succession
