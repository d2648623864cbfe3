import Succession.Lifecycle.Coordinator

/-!
# What a coordinator asks of its target

A target can be watched: every call that matters to its life is noted behind the others, and handed
on. So a run of a coordinator leaves a word of calls, whatever the target is.

* `Target.traced`            a target that notes what it is asked;
* `Target.Lawful T ok`       nothing but `setState` changes the state, and no callback panics;
* `Handles T c signal s`     all that handling one signal may do, and `dispatch_handles`.
-/

namespace Succession

inductive Call where
  | state (state : LifecycleState)
  | reload
  | shutdown (course : Course)
  | exit (code : Nat)
deriving DecidableEq, Repr

namespace Call

def state? : Call → Option LifecycleState
  | .state st => some st
  | _ => none

def course? : Call → Option Course
  | .shutdown course => some course
  | _ => none

end Call

/-- a target and the calls that it got, oldest first -/
structure Traced (σ : Type) where
  base : σ
  calls : List Call

namespace Traced

variable {σ : Type}

def states (s : Traced σ) : List LifecycleState := s.calls.filterMap Call.state?

def courses (s : Traced σ) : List Course := s.calls.filterMap Call.course?

end Traced

variable {σ : Type}

def Target.traced (T : Target σ) : Target (Traced σ) where
  state s := T.state s.base
  setState state s := ⟨T.setState state s.base, s.calls ++ [.state state]⟩
  hooks s := T.hooks s.base
  runHook h signal s := ⟨T.runHook h signal s.base, s.calls⟩
  reload s := ((T.reload s.base).1, ⟨(T.reload s.base).2, s.calls ++ [.reload]⟩)
  shutdown s := ((T.shutdown s.base).1,
    ⟨(T.shutdown s.base).2, s.calls ++ [.shutdown (T.shutdown s.base).1]⟩)
  exit code s := ⟨T.exit code s.base, s.calls ++ [.exit code]⟩
  log line s := ⟨T.log line s.base, s.calls⟩
  ended s := T.ended s.base

namespace Target

def Stays (T : Target σ) (ok : σ → Prop) (s s' : σ) : Prop := ok s' ∧ T.state s' = T.state s

/-- on the states in `ok`, which no operation leaves, the lifecycle state is what was set last, and
no callback panics -/
structure Lawful (T : Target σ) (ok : σ → Prop) : Prop where
  calm : ∀ s, ok s → ∀ h ∈ T.hooks s, h.panics = false
  setState : ∀ state s, ok s → ok (T.setState state s) ∧ T.state (T.setState state s) = state
  runHook : ∀ h signal s, ok s → T.Stays ok s (T.runHook h signal s)
  reload : ∀ s, ok s → T.Stays ok s (T.reload s).2
  shutdown : ∀ s, ok s → T.Stays ok s (T.shutdown s).2
  exit : ∀ code s, ok s → T.Stays ok s (T.exit code s)
  log : ∀ line s, ok s → T.Stays ok s (T.log line s)

theorem Lawful.traced {T : Target σ} {ok : σ → Prop} (hT : T.Lawful ok) :
    T.traced.Lawful fun s => ok s.base :=
  ⟨fun s hs => hT.calm s.base hs, fun state s hs => hT.setState state s.base hs,
    fun h signal s hs => hT.runHook h signal s.base hs, fun s hs => hT.reload s.base hs,
    fun s hs => hT.shutdown s.base hs, fun code s hs => hT.exit code s.base hs,
    fun line s hs => hT.log line s.base hs⟩

end Target

variable {T : Target σ} {ok : Traced σ → Prop} {c : Coordinator} {signal : Signal} {s : Traced σ}

/-- callbacks that do not panic all run, and are noticed by nobody else -/
theorem runHooks_calm (hT : T.traced.Lawful ok) (hooks : Hooks)
    (hcalm : ∀ h ∈ hooks, h.panics = false) (hs : ok s) :
    (runHooks T.traced signal hooks s).1 = none ∧
      T.traced.Stays ok s (runHooks T.traced signal hooks s).2 ∧
      (runHooks T.traced signal hooks s).2.calls = s.calls := by
  induction hooks generalizing s with
  | nil => exact ⟨rfl, ⟨hs, rfl⟩, rfl⟩
  | cons h hooks ih =>
    obtain ⟨hok, hstate⟩ := hT.runHook h signal s hs
    obtain ⟨hnone, ⟨hok', hstate'⟩, hcalls⟩ :=
      ih (fun h' hm => hcalm h' (List.mem_cons_of_mem _ hm)) hok
    have hp : h.panics = false := hcalm h List.mem_cons_self
    have he : runHooks T.traced signal (h :: hooks) s =
        runHooks T.traced signal hooks (T.traced.runHook h signal s) := by
      show (if h.panics then _ else _) = _
      rw [hp]
      rfl
    rw [he]
    exact ⟨hnone, ⟨hok', hstate'.trans hstate⟩, hcalls⟩

/-- handling a signal asks for a successor, or begins the graceful end, or does nothing -/
inductive Handles (T : Target σ) (c : Coordinator) (signal : Signal) (s : Traced σ) :
    Handling (Traced σ) → Prop where
  | reload {s' : Traced σ} (hsignal : signal = .reload)
      (hstate : T.state s'.base = T.state s.base) (hcalls : s'.calls = s.calls ++ [.reload]) :
      Handles T c signal s ⟨c.arm, s', [.hammer .reload]⟩
  | begin {s' : Traced σ} (hsignal : signal ≠ .reload) (hrunning : T.state s.base = .running)
      (course : Course) (hstate : T.state s'.base = .shuttingDown)
      (hcalls : s'.calls = s.calls ++ [.state .shuttingDown, .shutdown course]) :
      Handles T c signal s ⟨c.arm, s', [.hammer signal, .graceful course]⟩
  | ignore {s' : Traced σ} (hsignal : signal ≠ .reload) (hrunning : T.state s.base ≠ .running)
      (hstate : T.state s'.base = T.state s.base) (hcalls : s'.calls = s.calls) :
      Handles T c signal s ⟨c, s', []⟩

theorem act_handles (hT : T.traced.Lawful ok) (hs : ok s) (c : Coordinator) (signal : Signal) :
    ok (c.act T.traced signal s).target ∧ Handles T c signal s (c.act T.traced signal s) := by
  have hend (hsignal : signal ≠ .reload) (he : c.act T.traced signal s =
      Coordinator.onShutdown T.traced c signal s) :
      ok (c.act T.traced signal s).target ∧ Handles T c signal s (c.act T.traced signal s) := by
    rw [he]
    unfold Coordinator.onShutdown
    split
    · next hrunning => exact ⟨hs, .ignore hsignal hrunning rfl rfl⟩
    · next hrunning =>
      obtain ⟨hok, hset⟩ := hT.setState .shuttingDown s hs
      obtain ⟨hok', hstate⟩ := hT.shutdown _ hok
      refine ⟨hok', .begin hsignal (Classical.not_not.mp hrunning) _ (hstate.trans hset) ?_⟩
      show (s.calls ++ [_]) ++ [_] = _
      rw [List.append_assoc]
      rfl
  cases signal with
  | reload =>
    obtain ⟨hok, hstate⟩ := hT.reload s hs
    exact ⟨hok, .reload rfl hstate rfl⟩
  | interrupt => exact hend nofun rfl
  | terminate => exact hend nofun rfl

/-- the callbacks around it change nothing of this -/
theorem Handles.around {before after : Traced σ} {handling : Handling (Traced σ)}
    (h : Handles T c signal before handling) (hstate : T.state before.base = T.state s.base)
    (hcalls : before.calls = s.calls)
    (hstate' : T.state after.base = T.state handling.target.base)
    (hcalls' : after.calls = handling.target.calls) :
    Handles T c signal s { handling with target := after } := by
  cases h with
  | reload hsignal hs hc =>
    exact .reload hsignal (hstate'.trans (hs.trans hstate)) (by rw [hcalls', hc, hcalls])
  | begin hsignal hrunning course hs hc =>
    exact .begin hsignal (hstate ▸ hrunning) course (hstate'.trans hs) (by rw [hcalls', hc, hcalls])
  | ignore hsignal hrunning hs hc =>
    exact .ignore hsignal (hstate ▸ hrunning) (hstate'.trans (hs.trans hstate))
      (hcalls'.trans (hc.trans hcalls))

/-- **Handling a signal** comes to its end, and does one of three things. -/
theorem dispatch_handles (hT : T.traced.Lawful ok) (hs : ok s) (c : Coordinator)
    (signal : Signal) :
    (c.dispatch T.traced signal s).1 = none ∧ ok (c.dispatch T.traced signal s).2.target ∧
      Handles T c signal s (c.dispatch T.traced signal s).2 := by
  have hmatching (phase : HookPhase) {s : Traced σ} (hs : ok s) :
      ∀ h ∈ (T.traced.hooks s).matching phase signal, h.panics = false :=
    fun h hm => hT.calm s hs h (List.mem_filter.mp hm).1
  let before := runHooks T.traced signal ((T.traced.hooks s).matching .pre signal) s
  let acted := c.act T.traced signal before.2
  let after := runHooks T.traced signal ((T.traced.hooks acted.target).matching .post signal)
    acted.target
  obtain ⟨hnone, ⟨hok, hstate⟩, hcalls⟩ : before.1 = none ∧ _ :=
    runHooks_calm hT _ (hmatching .pre hs) hs
  obtain ⟨hok', hact⟩ := act_handles hT hok c signal
  obtain ⟨hnone', ⟨hok'', hstate'⟩, hcalls'⟩ : after.1 = none ∧ _ :=
    runHooks_calm hT _ (hmatching .post hok') hok'
  have he : c.dispatch T.traced signal s = (after.1, { acted with target := after.2 }) := by
    show (if before.1.isSome then _ else _) = _
    rw [hnone]
    rfl
  rw [he]
  exact ⟨hnone', hok'', hact.around hstate hcalls hstate' hcalls'⟩

end Succession
