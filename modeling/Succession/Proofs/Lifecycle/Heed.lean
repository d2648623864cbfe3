import Succession.Lifecycle.Recorder
import Succession.Proofs.Lifecycle.Schedule

/-!
# How far a queue heeds its signals

A queue's task is ended by the first callback that panics. Up to there each signal is acted on, as the
table of callbacks says, and behind it none is: those that wait are lost, and no more are accepted.
A callback that panics in front of the action leaves that out as well.

* `Recorder.steady_target`   a recorder's table of callbacks stays as it is;
* `Heeded`                   where a queue is, by the signals that it has handled;
* `Scheduled.heeded`         it is there after every run.
-/

namespace Succession

/-! ## a target that only records -/

namespace Recorder

theorem steady_target (hooks : Hooks) (course : Course) :
    target.chronicled.Steady (fun s => s.base.hooks = hooks ∧ s.base.course = course) hooks where
  hooks _ hs := hs.1
  setState _ _ hs := ⟨hs, rfl⟩
  runHook _ _ _ hs := ⟨hs, rfl⟩
  reload _ hs := ⟨hs, rfl⟩
  shutdown _ hs := ⟨hs, rfl⟩
  exit _ _ hs := ⟨hs, rfl⟩
  log line s hs := by
    obtain ⟨r, entries, exits⟩ := s
    unfold Target.chronicled target Target.Stays
    dsimp only
    cases r.logger <;> exact ⟨hs, rfl⟩

def queued (hooks : Hooks) (course : Course) (timeout : Duration) (signals : List Signal) :
    Conduct (Chronicled Recorder) :=
  ⟨⟨⟨.running, hooks, course, false, .absent, [], []⟩, [], []⟩,
    signals.foldl (fun e signal => (e.send () signal).2)
      (Executor.new.setQueue () ⟨⟨timeout, 0⟩, [], true⟩), none⟩

def idle (hooks : Hooks) (course : Course) : Chronicled Recorder :=
  ⟨⟨.init, hooks, course, false, .absent, [], []⟩, [], []⟩

end Recorder

/-! ## where a queue is -/

variable {σ : Type} {T : Target σ} {hooks : Hooks} {timeout : Duration} {s₀ : σ} {sent : Post}

structure Heeded (T : Target σ) (hooks : Hooks) (sent : Post) (handled : List Signal)
    (r : Conduct (Chronicled σ)) : Prop where
  /-- of the signals handled, at most the last met a callback that panics -/
  calm : ∀ signal ∈ handled.dropLast, hooks.breaks signal = false
  entries : r.target.entries = hooks.script true handled
  armed : r.armed = (hooks.script true handled).countP Entry.arms
  /-- each forced end that was armed has come or is to come -/
  comes : r.armed = r.target.exits.count hammerExitCode + r.tasks.forced
  state : if .shutdown ∈ hooks.script true handled then
      T.state r.target.base = .shuttingDown ∨ T.state r.target.base = .terminate
    else T.state r.target.base = .running
  answers : ∃ waiting refused, sent = (handled ++ waiting).map (·, true) ++ refused.map (·, false) ∧
    (handled.any hooks.breaks = false → refused = [])
  accepts : ∀ signal, (r.tasks.send () signal).1 = !handled.any hooks.breaks
  /-- none is left over, unless one has met a callback that panics -/
  quiet : r.tasks.ready = [] → handled.any hooks.breaks = false → sent = handled.map (·, true)

theorem Posted.accepts {handled : List Signal} {e : Executor Unit} {q : SignalQueue}
    (posted : Posted hooks sent handled e q) (signal : Signal) :
    (e.send () signal).1 = !handled.any hooks.breaks := by
  rw [← posted.running]
  unfold Executor.send
  rw [Executor.queue?_eq posted.queues]
  dsimp only
  cases q.running <;> rfl

theorem Posted.quiet {handled : List Signal} {e : Executor Unit} {q : SignalQueue}
    (posted : Posted hooks sent handled e q) (hready : e.ready = [])
    (hcalm : handled.any hooks.breaks = false) : sent = handled.map (·, true) := by
  obtain ⟨lost, refused, hsent, hnone⟩ := posted.sent
  have hrunning : q.running = true := by rw [posted.running, hcalm]; rfl
  obtain ⟨rfl, rfl⟩ := hnone hrunning
  have hsignals : q.signals = [] := by
    by_contra hsome
    have hmem := posted.wakes hsome
    rw [hready] at hmem
    cases hmem
  simpa [hsignals] using hsent

theorem Told.heeds {ok : Chronicled σ → Prop} {handled : List Signal}
    {r : Conduct (Chronicled σ)} (ht : Told T ok hooks sent handled r) (hqueue : r.direct = none) :
    Heeded T hooks sent handled r := by
  have hentries := ht.tale.entries
  have hstate := ht.tale.bearing.state_cases
  have harmed := ht.tale.counted
  rw [hentries] at hstate harmed
  cases ht.manned with
  | direct => cases hqueue
  | @queued s e q posted =>
    refine ⟨posted.calm, hentries, harmed, ht.tale.comes, hstate, ?_, posted.accepts,
      posted.quiet⟩
    obtain ⟨lost, refused, hsent, hnone⟩ := posted.sent
    refine ⟨q.signals ++ lost, refused, ?_, fun hcalm => ?_⟩
    · rw [hsent, List.append_assoc]
    · exact (hnone (by rw [posted.running, hcalm]; rfl)).2

/-- **A queue heeds its signals** in order, up to the first whose callback panics, and no others. -/
theorem Scheduled.heeded {ok : Chronicled σ → Prop} {r : Conduct (Chronicled σ)}
    (hT : T.chronicled.Steady ok hooks) (hs : ok ⟨s₀, [], []⟩)
    (hr : Scheduled T.chronicled timeout ⟨s₀, [], []⟩ sent r) (hqueue : r.direct = none) :
    (∃ handled, Heeded T hooks sent handled r) ∧
      Scheduled T.chronicled timeout ⟨s₀, [], []⟩ sent (r.settle T.chronicled) ∧
      (T.ended (r.settle T.chronicled).target.base = true ∨
        (r.settle T.chronicled).tasks.ready = []) := by
  obtain ⟨handled, ht⟩ := hr.told hT hs
  exact ⟨⟨handled, ht.heeds hqueue⟩, hr.settle hT hs⟩

/-- the callback before an end panics: the end does not begin, and the reload behind it is lost -/
theorem Scheduled.heeded_pre :
    let T := Recorder.target.chronicled
    let hooks : Hooks := [⟨.pre, .interrupt, "h", true⟩]
    let signals : List Signal := [.reload, .interrupt, .reload]
    let r := (Recorder.queued hooks .never (.ofMillis 5) signals).settle T
    Scheduled T (.ofMillis 5) (Recorder.idle hooks .never) (signals.map (·, true)) r ∧
      r.direct = none ∧
      ∃ handled, Heeded Recorder.target hooks (signals.map (·, true)) handled r := by
  intro T hooks signals r
  have hT := Recorder.steady_target hooks .never
  have hs : (Recorder.idle hooks .never).base.hooks = hooks ∧
    (Recorder.idle hooks .never).base.course = .never := ⟨rfl, rfl⟩
  have hsent : Scheduled T (.ofMillis 5) (Recorder.idle hooks .never) (signals.map (·, true))
      (Recorder.queued hooks .never (.ofMillis 5) signals) :=
    .send .reload (.send .interrupt (.send .reload .start))
  have hr := (hsent.settle hT hs).1
  exact ⟨hr, rfl, (Scheduled.heeded hT hs hr rfl).1⟩

/-- the callback behind a reload panics: the signal to end that follows is not even accepted -/
theorem Scheduled.heeded_post :
    let T := Recorder.target.chronicled
    let hook : Hook := ⟨.post, .reload, "h", true⟩
    let stopped := (Recorder.queued [hook] .never (.ofMillis 5) [.reload]).settle T
    let r : Conduct (Chronicled Recorder) :=
      ⟨stopped.target, (stopped.tasks.send () .terminate).2, none⟩
    Scheduled T (.ofMillis 5) (Recorder.idle [hook] .never)
        [(.reload, true), (.terminate, false)] r ∧
      r.tasks.ready = [] ∧ r.target.entries = [.reload, .hook hook .reload] ∧ r.armed = 1 ∧
      T.state r.target = .running := by
  intro T hook stopped r
  have hs : (Recorder.idle [hook] .never).base.hooks = [hook] ∧
    (Recorder.idle [hook] .never).base.course = .never := ⟨rfl, rfl⟩
  have hsent : Scheduled T (.ofMillis 5) (Recorder.idle [hook] .never) [(.reload, true)]
      (Recorder.queued [hook] .never (.ofMillis 5) [.reload]) := .send .reload .start
  have hstopped := (hsent.settle (Recorder.steady_target [hook] .never) hs).1
  exact ⟨.send .terminate hstopped, by decide, by decide, by decide, by decide⟩

end Succession
