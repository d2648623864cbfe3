import Succession.Lifecycle.Recorder
import Succession.Machine.World
import Succession.Proofs.Lifecycle.Token
import Succession.Proofs.Program.Asks

/-!
# A daemon as the target of its coordinator

What a coordinator asks of a daemon is done to the process in which the daemon is, and changes of its
life only what it is meant to change.

* `Daemon.gives_reload`   a reload gives up the PID lock, and nothing else;
* `World.Hosts`           the process of an age and its label;
* `World.lawful_target`, `World.cancels_target`   a daemon is a lawful target, and cancels its token;
* `Conducted.one_way`     the life of a process, and of a daemon with its token.
-/

namespace Succession

namespace Daemon

/-- the same daemon, with or without the PID lock -/
def Kept (d d' : Daemon) : Prop := d' = d ∨ d' = { d with pidLock := none }

theorem gives_unlockPidFile (d : Daemon) : d.unlockPidFile.Gives d.Kept := by
  unfold unlockPidFile
  split
  · exact .inl rfl
  · exact Program.gives_after _ fun _ => .inr rfl

theorem gives_reload (d : Daemon) : d.reload.Gives fun p => d.Kept p.2 := by
  unfold reload
  refine Program.gives_after _ fun r => ?_
  cases r with
  | error source => exact .inl rfl
  | ok executable =>
  refine Program.gives_after _ fun r => ?_
  cases r with
  | error source => exact .inl rfl
  | ok descriptors =>
  refine Program.gives_bind d.gives_unlockPidFile fun d' hd => ?_
  refine Program.gives_after _ fun arguments => ?_
  refine Program.gives_after _ fun r => ?_
  cases r with
  | error source => exact hd
  | ok launched => exact hd

end Daemon

namespace World

/-- the process of an age, under its label -/
structure Hosts (w : World) (age : Nat) (label : String) (i : Instance) : Prop where
  named : w.labelOf? age = some label
  found : w.instance? label = some i
  aged : i.age = age

def cancelled (age : Nat) (w : World) : Bool :=
  (((w.labelOf? age).bind w.instance?).map (·.daemon.cancelled)).getD false

/-- the process of an age is there, and no callback of its daemon panics -/
def Calm (age : Nat) (w : World) : Prop :=
  ∃ label i, w.Hosts age label i ∧ ∀ h ∈ i.daemon.hooks, h.panics = false

namespace Hosts

variable {w : World} {age : Nat} {label : String} {i i' : Instance}

theorem state (hw : w.Hosts age label i) : (target age).state w = i.daemon.state := by
  show (((w.labelOf? age).bind w.instance?).map _).getD _ = _
  rw [hw.named, Option.bind_some, hw.found]
  rfl

theorem hooks (hw : w.Hosts age label i) : (target age).hooks w = i.daemon.hooks := by
  show (((w.labelOf? age).bind w.instance?).map _).getD _ = _
  rw [hw.named, Option.bind_some, hw.found]
  rfl

theorem cancelled_eq (hw : w.Hosts age label i) : w.cancelled age = i.daemon.cancelled := by
  unfold cancelled
  rw [hw.named, Option.bind_some, hw.found]
  rfl

theorem atAge (hw : w.Hosts age label i) (f : String → World) : w.atAge age f = f label := by
  unfold World.atAge
  rw [hw.named]
  rfl

theorem setInstance (hw : w.Hosts age label i) (hage : i'.age = i.age) :
    (w.setInstance label i').Hosts age label i' := by
  have hage' : i'.age = age := hage.trans hw.aged
  refine ⟨?_, List.lookup_cons_self, hage'⟩
  show (List.find? _ ((label, i') :: _)).map _ = _
  rw [List.find?_cons_of_pos (by simpa using hage')]
  rfl

theorem modify (hw : w.Hosts age label i) {f : Instance → Instance} (hage : (f i).age = i.age) :
    (w.modify label f).Hosts age label (f i) := by
  unfold World.modify
  rw [hw.found]
  exact hw.setInstance hage

theorem modifyDaemon (hw : w.Hosts age label i) (f : Daemon → Daemon) :
    (w.modifyDaemon label f).Hosts age label { i with daemon := f i.daemon } := hw.modify rfl

theorem modifyProcess (hw : w.Hosts age label i) (f : Process → Process) :
    (w.modifyProcess label f).Hosts age label { i with process := f i.process } := hw.modify rfl

theorem reload (hw : w.Hosts age label i) :
    ∃ process daemon, i.daemon.Kept daemon ∧
      ((target age).reload w).2.Hosts age label { i with process, daemon } := by
  have hkept := i.daemon.gives_reload.run Host.handle (⟨w.kernel, i.process⟩ : Host)
  have he : ((target age).reload w).2 = (w.run label i Daemon.reload).2 := by
    show (((w.labelOf? age).map w.reloadInstance).getD (false, w)).2 = _
    rw [hw.named]
    show (w.reloadInstance label).2 = _
    unfold reloadInstance
    rw [hw.found]
  rw [he]
  have hkernel (kernel : Kernel) : ({ w with kernel } : World).Hosts age label i :=
    ⟨hw.named, hw.found, hw.aged⟩
  exact ⟨_, _, hkept, (hkernel _).setInstance rfl⟩

theorem shutdown (hw : w.Hosts age label i) :
    ∃ process pool, ((target age).shutdown w).2.Hosts age label
      { i with process, daemon := { i.daemon with cancelled := true, pool } } := by
  have he : (target age).shutdown w = w.beginShutdown label := by
    show ((w.labelOf? age).map w.beginShutdown).getD _ = _
    rw [hw.named]
    rfl
  have hcancel := hw.modifyDaemon fun d => { d with cancelled := true }
  rw [he]
  unfold beginShutdown
  rw [hw.found]
  dsimp only
  split
  · exact ⟨_, _, hcancel⟩
  · next line _ _ => exact ⟨_, _, hcancel.modifyProcess (·.write line)⟩
  · next limit _ =>
    exact ⟨_, _, hcancel.modifyDaemon fun d =>
      { d with pool := (i.daemon.pool.closeAndDrain limit []).2 }⟩

theorem exit (hw : w.Hosts age label i) (code : Nat) :
    ((target age).exit code w).Hosts age label i := ⟨hw.named, hw.found, hw.aged⟩

theorem log (hw : w.Hosts age label i) (line : String) :
    ∃ process, ((target age).log line w).Hosts age label { i with process } := by
  have he : (target age).log line w = w.logLine label line := hw.atAge _
  rw [he]
  exact ⟨_, hw.modifyProcess _⟩

end Hosts

variable {age : Nat} {w w' : World} {label : String} {i i' : Instance}

theorem stays (hw : w.Hosts age label i) (hcalm : ∀ h ∈ i.daemon.hooks, h.panics = false)
    (hw' : w'.Hosts age label i') (hhooks : i'.daemon.hooks = i.daemon.hooks)
    (hstate : i'.daemon.state = i.daemon.state) : (target age).Stays (Calm age) w w' := by
  refine ⟨⟨label, i', hw', hhooks ▸ hcalm⟩, ?_⟩
  rw [hw'.state, hw.state, hstate]

theorem lawful_target (age : Nat) : (target age).Lawful (Calm age) where
  calm := by
    rintro w ⟨label, i, hw, hcalm⟩
    rw [hw.hooks]
    exact hcalm
  setState := by
    rintro state w ⟨label, i, hw, hcalm⟩
    have he : (target age).setState state w = _ := hw.atAge _
    rw [he]
    have hw' := hw.modifyDaemon fun d => { d with state }
    exact ⟨⟨label, _, hw', hcalm⟩, hw'.state⟩
  runHook := by
    rintro h signal w ⟨label, i, hw, hcalm⟩
    have he : (target age).runHook h signal w = _ := hw.atAge _
    rw [he]
    exact stays hw hcalm (hw.modifyProcess _) rfl rfl
  reload := by
    rintro w ⟨label, i, hw, hcalm⟩
    obtain ⟨process, daemon, hkept, hw'⟩ := hw.reload
    obtain rfl | rfl := hkept <;> exact stays hw hcalm hw' rfl rfl
  shutdown := by
    rintro w ⟨label, i, hw, hcalm⟩
    obtain ⟨process, pool, hw'⟩ := hw.shutdown
    exact stays hw hcalm hw' rfl rfl
  exit := by
    rintro code w ⟨label, i, hw, hcalm⟩
    exact stays hw hcalm (hw.exit code) rfl rfl
  log := by
    rintro line w ⟨label, i, hw, hcalm⟩
    obtain ⟨process, hw'⟩ := hw.log line
    exact stays hw hcalm hw' rfl rfl

theorem cancels_target (age : Nat) : (target age).Cancels (Calm age) (cancelled age) where
  setState := by
    rintro state w ⟨label, i, hw, -⟩
    have he : (target age).setState state w = _ := hw.atAge _
    rw [he, (hw.modifyDaemon _).cancelled_eq, hw.cancelled_eq]
  runHook := by
    rintro h signal w ⟨label, i, hw, -⟩
    have he : (target age).runHook h signal w = _ := hw.atAge _
    rw [he, (hw.modifyProcess _).cancelled_eq, hw.cancelled_eq]
  reload := by
    rintro w ⟨label, i, hw, -⟩
    obtain ⟨process, daemon, hkept, hw'⟩ := hw.reload
    rw [hw'.cancelled_eq, hw.cancelled_eq]
    obtain rfl | rfl := hkept <;> rfl
  shutdown := by
    rintro w ⟨label, i, hw, -⟩
    obtain ⟨process, pool, hw'⟩ := hw.shutdown
    exact hw'.cancelled_eq
  exit := by
    rintro code w ⟨label, i, hw, -⟩
    rw [(hw.exit code).cancelled_eq, hw.cancelled_eq]
  log := by
    rintro line w ⟨label, i, hw, -⟩
    obtain ⟨process, hw'⟩ := hw.log line
    rw [hw'.cancelled_eq, hw.cancelled_eq]

end World

/-- **The life of a process** goes one way, whatever signals come and however the clock moves
between them, and a daemon's token tells of it. -/
theorem Conducted.one_way (timeout : Duration) :
    (∀ {σ : Type} {T : Target σ} {ok : σ → Prop} {s₀ : σ} {h : History}
        {r : Conduct (Traced σ)}, T.Lawful ok → ok s₀ →
        (T.state s₀ = .init ∨ T.state s₀ = .running) →
        Conducted T.traced timeout ⟨s₀, []⟩ h r →
      Orderly T (T.state s₀) h r ∧ Onward T.traced timeout ⟨s₀, []⟩ h r ∧
        (T.state r.target.base ≠ .running → ∀ c signal,
          Idle T c signal r.target (c.dispatch T.traced signal r.target).2)) ∧
    ∀ {age : Nat} {w₀ : World} {h : History} {r : Conduct (Traced World)}, w₀.Calm age →
        w₀.cancelled age = false →
        ((World.target age).state w₀ = .init ∨ (World.target age).state w₀ = .running) →
        Conducted (World.target age).traced timeout ⟨w₀, []⟩ h r →
      Orderly (World.target age) ((World.target age).state w₀) h r ∧
        (r.target.base.cancelled age = true ↔
          (World.target age).state r.target.base = .shuttingDown ∨
            (World.target age).state r.target.base = .terminate) := by
  constructor
  · intro σ T ok s₀ h r hT hs hstate hr
    have hlives := hr.lives hT.traced hs hstate
    refine ⟨hlives.orderly, hr.onward, ?_⟩
    intro hidle c signal
    exact dispatch_idle hT.traced hlives.life.ok c signal hidle
  · intro age w₀ h r hcalm hfresh hstate hr
    have hT := World.lawful_target age
    refine ⟨(hr.lives hT.traced hcalm hstate).orderly, ?_⟩
    exact hr.cancelled_iff hT (World.cancels_target age) hcalm hfresh hstate

theorem Recorder.lawful_target :
    Recorder.target.Lawful fun r => ∀ h ∈ r.hooks, h.panics = false where
  calm _ hs := hs
  setState _ _ hs := ⟨hs, rfl⟩
  runHook _ _ _ hs := ⟨hs, rfl⟩
  reload _ hs := ⟨hs, rfl⟩
  shutdown _ hs := ⟨hs, rfl⟩
  exit _ _ hs := ⟨hs, rfl⟩
  log line r hs := by
    obtain ⟨state, hooks, course, reloadFails, logger, lines, exits⟩ := r
    cases logger <;> exact ⟨hs, rfl⟩

namespace Lifelike

/-- its graceful end takes five milliseconds, and no successor ever starts -/
def recorder : Recorder :=
  ⟨.init, [⟨.pre, .terminate, "last words on", false⟩], .after 5, true, .absent, [], []⟩

/-- a daemon that has not begun to handle signals -/
def world : World :=
  ⟨⟨⟨[.directory [] 0], [], [], []⟩, 0, 5000, none, none, [], 0, 0⟩, .ofText "/",
    [("daemon", ⟨0, .initial 7 1 (.ofText "/app") [] (.ofText "/"),
      .new .default .empty false, none⟩)], 1, [], [], none⟩

end Lifelike

theorem one_way_terminates :
    (∃ h, ∃ r : Conduct (Traced Recorder), Recorder.target.state Lifelike.recorder = .init ∧
      Conducted Recorder.target.traced (.ofMillis 40) ⟨Lifelike.recorder, []⟩ h r ∧
      Orderly Recorder.target .init h r ∧ r.target.base.state = .terminate ∧ r.armed = 2 ∧
      r.target.base.exits = [0]) ∧
    ∃ h, ∃ r : Conduct (Traced World), Lifelike.world.Calm 0 ∧
      Conducted (World.target 0).traced (.ofMillis 40) ⟨Lifelike.world, []⟩ h r ∧
      Orderly (World.target 0) .init h r ∧ r.armed = 1 ∧ r.target.base.cancelled 0 = true := by
  constructor
  · have hbegin : Conducted Recorder.target.traced (.ofMillis 40) ⟨Lifelike.recorder, []⟩ [] _ :=
      .begin
    have hsend := ((hbegin.start (.inl rfl)).send .reload).send .terminate
    obtain ⟨⟨more, hsettle⟩, -⟩ := hsend.settle
    obtain ⟨⟨more', hr⟩, -⟩ := hsettle.advance rfl 20
    have hcalm : ∀ h ∈ Lifelike.recorder.hooks, h.panics = false := by decide
    have horderly :=
      ((Conducted.one_way (.ofMillis 40)).1 Recorder.lawful_target hcalm (.inl rfl) hr).1
    exact ⟨_, _, rfl, hr, horderly, rfl, rfl, rfl⟩
  · have hbegin : Conducted (World.target 0).traced (.ofMillis 40) ⟨Lifelike.world, []⟩ [] _ :=
      .begin
    have hsend := (hbegin.start (.inl rfl)).send .terminate
    have hr := hsend.poll rfl rfl
    have hcalm : Lifelike.world.Calm 0 := ⟨"daemon", _, ⟨rfl, rfl, rfl⟩, nofun⟩
    obtain ⟨horderly, htoken⟩ :=
      (Conducted.one_way (.ofMillis 40)).2 hcalm rfl (.inl rfl) hr
    exact ⟨_, _, hcalm, hr, horderly, rfl, htoken.mpr (.inl rfl)⟩

end Succession
