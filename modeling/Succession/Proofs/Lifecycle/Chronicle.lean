import Succession.Proofs.Lifecycle.Trace

/-!
# What a host sees of its signals

A host sees its callbacks called, a successor asked for, and its graceful end begun. A callback may
panic: then those behind it are not called, and if it was called before the action, there is no
action either.

* `Target.chronicled`        a target that notes these calls, and its exits;
* `Target.Steady T ok hooks` the callbacks stay the same, and only the coordinator sets the state;
* `Hooks.due`                the callbacks of a phase and a signal, by the order of registration;
* `Hooks.entries`            what a signal leads to, by the table of callbacks;
* `Hooks.script`             what a list of signals leads to, one after the other;
* `dispatch_served`          handling a signal does what the table says.
-/

namespace Succession

/-! ## calls -/

inductive Entry where
  | hook (hook : Hook) (signal : Signal)
  | reload
  | shutdown
deriving DecidableEq, Repr

def Entry.arms : Entry → Bool
  | .hook .. => false
  | .reload | .shutdown => true

structure Chronicled (σ : Type) where
  base : σ
  /-- oldest first -/
  entries : List Entry
  exits : List Nat

variable {σ : Type}

def Target.chronicled (T : Target σ) : Target (Chronicled σ) where
  state s := T.state s.base
  setState state s := ⟨T.setState state s.base, s.entries, s.exits⟩
  hooks s := T.hooks s.base
  runHook h signal s := ⟨T.runHook h signal s.base, s.entries ++ [.hook h signal], s.exits⟩
  reload s := ((T.reload s.base).1, ⟨(T.reload s.base).2, s.entries ++ [.reload], s.exits⟩)
  shutdown s := ((T.shutdown s.base).1,
    ⟨(T.shutdown s.base).2, s.entries ++ [.shutdown], s.exits⟩)
  exit code s := ⟨T.exit code s.base, s.entries, s.exits ++ [code]⟩
  log line s := ⟨T.log line s.base, s.entries, s.exits⟩
  ended s := T.ended s.base

/-- on the states in `ok`, which no operation leaves, the callbacks are always the same ones, and
the lifecycle state is what was set last -/
structure Target.Steady (T : Target σ) (ok : σ → Prop) (hooks : Hooks) : Prop where
  hooks : ∀ s, ok s → T.hooks s = hooks
  setState : ∀ state s, ok s → ok (T.setState state s) ∧ T.state (T.setState state s) = state
  runHook : ∀ h signal s, ok s → T.Stays ok s (T.runHook h signal s)
  reload : ∀ s, ok s → T.Stays ok s (T.reload s).2
  shutdown : ∀ s, ok s → T.Stays ok s (T.shutdown s).2
  exit : ∀ code s, ok s → T.Stays ok s (T.exit code s)
  log : ∀ line s, ok s → T.Stays ok s (T.log line s)

/-! ## what the table of callbacks says -/

namespace Hooks

/-- the callbacks that were registered for a phase and a signal, one after the other -/
def due (phase : HookPhase) (signal : Signal) : Hooks → Hooks
  | [] => []
  | h :: later =>
    if (h.phase, h.signal) = (phase, signal) then h :: due phase signal later
    else due phase signal later

theorem matching_eq_due (hooks : Hooks) (phase : HookPhase) (signal : Signal) :
    hooks.matching phase signal = hooks.due phase signal := by
  induction hooks with
  | nil => rfl
  | cons h later ih =>
    unfold due
    by_cases hd : (h.phase, h.signal) = (phase, signal)
    · rw [if_pos hd, ← ih]
      exact List.filter_cons_of_pos (decide_eq_true (Prod.mk.inj hd))
    · rw [if_neg hd, ← ih]
      refine List.filter_cons_of_neg fun h => hd ?_
      obtain ⟨hphase, hsignal⟩ := of_decide_eq_true h
      exact Prod.ext hphase hsignal

theorem mem_of_mem_due {hooks : Hooks} {phase : HookPhase} {signal : Signal} {h : Hook}
    (hm : h ∈ hooks.due phase signal) : h ∈ hooks := by
  rw [← matching_eq_due] at hm
  exact (List.mem_filter.mp hm).1

/-- those that are called: all up to the first that panics -/
def called : Hooks → Hooks
  | [] => []
  | h :: rest => if h.panics then [h] else h :: called rest

def panic (hooks : Hooks) : Bool := hooks.any (·.panics)

def calls (hooks : Hooks) (phase : HookPhase) (signal : Signal) : List Entry :=
  (hooks.due phase signal).called.map (.hook · signal)

/-- a callback before the action does not panic, so that the signal is acted on -/
def lets (hooks : Hooks) (signal : Signal) : Bool := !(hooks.due .pre signal).panic

def breaks (hooks : Hooks) (signal : Signal) : Bool :=
  !hooks.lets signal || (hooks.due .post signal).panic

end Hooks

/-- the action itself, in a process that runs or does not -/
def Signal.action (running : Bool) : Signal → List Entry
  | .reload => [.reload]
  | .interrupt | .terminate => if running then [.shutdown] else []

namespace Hooks

/-- all that a signal leads to, in a process that runs or does not -/
def entries (hooks : Hooks) (running : Bool) (signal : Signal) : List Entry :=
  hooks.calls .pre signal ++
    if hooks.lets signal then signal.action running ++ hooks.calls .post signal else []

def script (hooks : Hooks) : Bool → List Signal → List Entry
  | _, [] => []
  | running, signal :: rest =>
    hooks.entries running signal ++
      hooks.script (running && .shutdown ∉ hooks.entries running signal) rest

theorem script_cons (hooks : Hooks) (running : Bool) (signal : Signal) (rest : List Signal) :
    hooks.script running (signal :: rest) = hooks.entries running signal ++
      hooks.script (running && .shutdown ∉ hooks.entries running signal) rest := rfl

/-- one signal more, which a process meets that runs unless it has begun to end -/
theorem script_concat (hooks : Hooks) (running : Bool) (signals : List Signal) (signal : Signal) :
    hooks.script running (signals ++ [signal]) = hooks.script running signals ++
      hooks.entries (running && .shutdown ∉ hooks.script running signals) signal := by
  induction signals generalizing running with
  | nil => simp [script]
  | cons first signals ih =>
    rw [List.cons_append, script_cons, ih, script_cons, List.append_assoc, Bool.and_assoc]
    simp only [List.mem_append, not_or, Bool.decide_and]

theorem arms_calls (hooks : Hooks) (phase : HookPhase) (signal : Signal) :
    (hooks.calls phase signal).countP Entry.arms = 0 := by
  rw [List.countP_eq_zero]
  intro entry hentry
  obtain ⟨h, -, rfl⟩ := List.mem_map.mp hentry
  exact Bool.false_ne_true

theorem shutdown_not_mem_calls (hooks : Hooks) (phase : HookPhase) (signal : Signal) :
    .shutdown ∉ hooks.calls phase signal := by
  intro hentry
  obtain ⟨h, -, he⟩ := List.mem_map.mp hentry
  cases he

end Hooks

/-! ## handling a signal -/

variable {T : Target σ} {ok : Chronicled σ → Prop} {hooks : Hooks} {c : Coordinator}
  {signal : Signal} {s : Chronicled σ}

theorem runHooks_chronicled (hT : T.chronicled.Steady ok hooks) (signal : Signal) (called : Hooks)
    (hs : ok s) :
    let out := runHooks T.chronicled signal called s
    out.1.isSome = called.panic ∧ T.chronicled.Stays ok s out.2 ∧
      out.2.entries = s.entries ++ called.called.map (.hook · signal) ∧
      out.2.exits = s.exits := by
  induction called generalizing s with
  | nil => exact ⟨rfl, ⟨hs, rfl⟩, (List.append_nil _).symm, rfl⟩
  | cons h rest ih =>
    obtain ⟨hok, hstate⟩ := hT.runHook h signal s hs
    dsimp only
    unfold runHooks
    by_cases hp : h.panics = true
    · dsimp only
      rw [if_pos hp]
      refine ⟨?_, ⟨hok, hstate⟩, ?_, rfl⟩
      · simp [Hooks.panic, hp]
      · simp [Hooks.called, hp, Target.chronicled]
    · dsimp only
      rw [if_neg hp]
      obtain ⟨hpanic, ⟨hok', hstate'⟩, hentries, hexits⟩ :=
        ih (s := T.chronicled.runHook h signal s) hok
      refine ⟨?_, ⟨hok', hstate'.trans hstate⟩, ?_, hexits⟩
      · simpa [Hooks.panic, hp] using hpanic
      · rw [hentries]
        simp [Hooks.called, hp, Target.chronicled]

/-- the graceful end takes this course if it begins behind these calls -/
def Target.Takes (T : Target σ) (ok : Chronicled σ → Prop) (course : Course)
    (before : List Entry) : Prop :=
  ∃ s : Chronicled σ, ok s ∧ s.entries = before ∧ (T.shutdown s.base).1 = course

/-- a signal is not acted on, or asks for a successor, or begins the graceful end -/
inductive Serves (T : Target σ) (ok : Chronicled σ → Prop) (c : Coordinator) (signal : Signal)
    (s : Chronicled σ) (calls : List Entry) : Handling (Chronicled σ) → Prop where
  | aside {s' : Chronicled σ} (hstate : T.state s'.base = T.state s.base)
      (harms : calls.countP Entry.arms = 0) (hshutdown : .shutdown ∉ calls) :
      Serves T ok c signal s calls ⟨c, s', []⟩
  | reload {s' : Chronicled σ} (hstate : T.state s'.base = T.state s.base)
      (harms : calls.countP Entry.arms = 1) (hshutdown : .shutdown ∉ calls) :
      Serves T ok c signal s calls ⟨c.arm, s', [.hammer .reload]⟩
  | begin {s' : Chronicled σ} (before after : List Entry) (hrunning : T.state s.base = .running)
      (hstate : T.state s'.base = .shuttingDown) (harms : calls.countP Entry.arms = 1)
      (hcalls : calls = before ++ .shutdown :: after) (hbefore : .shutdown ∉ before)
      (course : Course) (hcourse : T.Takes ok course (s.entries ++ before)) :
      Serves T ok c signal s calls ⟨c.arm, s', [.hammer signal, .graceful course]⟩

/-- what has come of a signal, with the calls that it led to -/
structure Served (T : Target σ) (ok : Chronicled σ → Prop) (c : Coordinator) (signal : Signal)
    (s : Chronicled σ) (calls : List Entry) (handling : Handling (Chronicled σ)) : Prop where
  entries : handling.target.entries = s.entries ++ calls
  exits : handling.target.exits = s.exits
  serves : Serves T ok c signal s calls handling
  ok : ok handling.target

theorem onShutdown_served (hT : T.chronicled.Steady ok hooks) (hs : ok s) (c : Coordinator)
    (signal : Signal) :
    Served T ok c signal s (if decide (T.state s.base = .running) then [.shutdown] else [])
      (Coordinator.onShutdown T.chronicled c signal s) := by
  have hsame : T.chronicled.state s = T.state s.base := rfl
  unfold Coordinator.onShutdown
  rw [hsame]
  by_cases hrunning : T.state s.base = .running
  · rw [if_neg (not_not_intro hrunning), if_pos (decide_eq_true hrunning)]
    obtain ⟨hok, hset⟩ := hT.setState .shuttingDown s hs
    obtain ⟨hok', hstate⟩ := hT.shutdown _ hok
    exact ⟨rfl, rfl, .begin [] [] hrunning (hstate.trans hset) rfl rfl nofun
      _ ⟨_, hok, (List.append_nil _).symm, rfl⟩, hok'⟩
  · rw [if_pos hrunning, if_neg (by simpa using hrunning)]
    exact ⟨(List.append_nil _).symm, rfl, .aside rfl rfl nofun, hs⟩

theorem act_served (hT : T.chronicled.Steady ok hooks) (hs : ok s) (c : Coordinator)
    (signal : Signal) :
    Served T ok c signal s (signal.action (T.state s.base = .running))
      (c.act T.chronicled signal s) := by
  cases signal with
  | reload =>
    obtain ⟨hok, hstate⟩ := hT.reload s hs
    exact ⟨rfl, rfl, .reload hstate rfl (by simp [Signal.action]), hok⟩
  | interrupt | terminate => exact onShutdown_served hT hs c _

/-- callbacks before the action and behind it change nothing of what it does -/
theorem Serves.around {before after : Chronicled σ} {calls : List Entry}
    {handling : Handling (Chronicled σ)} (h : Serves T ok c signal before calls handling)
    (hooks : Hooks) (hentries : before.entries = s.entries ++ hooks.calls .pre signal)
    (hstate : T.state before.base = T.state s.base)
    (hstate' : T.state after.base = T.state handling.target.base) :
    Serves T ok c signal s (hooks.calls .pre signal ++ (calls ++ hooks.calls .post signal))
      { handling with target := after } := by
  have hpre := Hooks.shutdown_not_mem_calls hooks .pre signal
  have hpost := Hooks.shutdown_not_mem_calls hooks .post signal
  have hcount : (hooks.calls .pre signal ++ (calls ++ hooks.calls .post signal)).countP
      Entry.arms = calls.countP Entry.arms := by
    simp [List.countP_append, Hooks.arms_calls]
  have hnone (hshutdown : .shutdown ∉ calls) :
      .shutdown ∉ hooks.calls .pre signal ++ (calls ++ hooks.calls .post signal) := by
    simp [hpre, hpost, hshutdown]
  cases h with
  | aside hs harms hshutdown =>
    exact .aside (hstate'.trans (hs.trans hstate)) (hcount.trans harms) (hnone hshutdown)
  | reload hs harms hshutdown =>
    exact .reload (hstate'.trans (hs.trans hstate)) (hcount.trans harms) (hnone hshutdown)
  | begin first last hrunning hs harms hcalls hbefore course hcourse =>
    rw [hentries, List.append_assoc] at hcourse
    refine .begin _ (last ++ hooks.calls .post signal) (hstate ▸ hrunning)
      (hstate'.trans hs) (hcount.trans harms) ?_ ?_ course hcourse
    · simp [hcalls]
    · simp [hpre, hbefore]

/-- **Handling a signal** does what the table of callbacks says, and panics if one of them does. -/
theorem dispatch_served (hT : T.chronicled.Steady ok hooks) (hs : ok s) (c : Coordinator)
    (signal : Signal) :
    (c.dispatch T.chronicled signal s).1.isSome = hooks.breaks signal ∧
      Served T ok c signal s (hooks.entries (T.state s.base = .running) signal)
        (c.dispatch T.chronicled signal s).2 := by
  have hhooks {s : Chronicled σ} (hs : ok s) : T.chronicled.hooks s = hooks := hT.hooks s hs
  unfold Coordinator.dispatch
  simp only [Hooks.matching_eq_due]
  rw [hhooks hs]
  obtain ⟨hpanic, ⟨hok, hstate⟩, hentries, hexits⟩ :=
    runHooks_chronicled hT signal (hooks.due .pre signal) hs
  generalize runHooks T.chronicled signal (hooks.due .pre signal) s = before at *
  obtain ⟨panic, before⟩ := before
  dsimp only at hpanic hok hstate hentries hexits ⊢
  by_cases hp : (hooks.due .pre signal).panic = true
  · have hlets : hooks.lets signal = false := by simp [Hooks.lets, hp]
    have hbreaks : hooks.breaks signal = true := by simp [Hooks.breaks, hlets]
    have hnone : hooks.entries (T.state s.base = .running) signal = hooks.calls .pre signal := by
      simp [Hooks.entries, hlets]
    rw [hp] at hpanic
    rw [if_pos hpanic, hnone]
    refine ⟨hpanic.trans hbreaks.symm, hentries, hexits, ?_, hok⟩
    exact .aside hstate (Hooks.arms_calls ..) (Hooks.shutdown_not_mem_calls _ _ _)
  · have hlets : hooks.lets signal = true := by simpa [Hooks.lets] using hp
    have hbreaks : hooks.breaks signal = (hooks.due .post signal).panic := by
      simp [Hooks.breaks, hlets]
    obtain ⟨hdone, hsame, hserves, hok'⟩ := act_served hT hok c signal
    generalize c.act T.chronicled signal before = handling at *
    rw [hpanic, if_neg hp, hhooks hok', hbreaks]
    obtain ⟨hpanic', ⟨hok'', hstate'⟩, hentries', hexits'⟩ :=
      runHooks_chronicled hT signal (hooks.due .post signal) hok'
    generalize runHooks T.chronicled signal (hooks.due .post signal) handling.target = after at *
    have hmet : T.state before.base = T.state s.base := hstate
    have hall : hooks.entries (T.state s.base = .running) signal =
        hooks.calls .pre signal ++ (signal.action (T.state before.base = .running) ++
          hooks.calls .post signal) := by
      rw [hmet]
      simp [Hooks.entries, hlets]
    rw [hall]
    refine ⟨hpanic', ?_, hexits'.trans (hsame.trans hexits),
      hserves.around hooks hentries hstate hstate', hok''⟩
    show after.2.entries = _
    rw [hentries', hdone, hentries, List.append_assoc, List.append_assoc]
    rfl

end Succession
