import Succession.Daemon.Start
import Succession.Proofs.Handoff.Questions
import Succession.Proofs.PidFile.Stance

/-!
# Programs that abide by their stance

Whatever the system answers, each program that touches the PID file makes nothing but moves, and
ends in the stance that its result tells.

* `Program.abides_bind`, `Program.abides_ask`, `Program.abides_quiet`   one part after the other;
* `abides_acquire`, `abides_checkStatus`, `abides_release`              the PID file's own programs;
* `Daemon.gives_takeOver`, `Daemon.gives_spawn`   what leaves the lock and the configuration alone;
* `Daemon.abides_makeDaemon`, `Daemon.abides_reload`, `Control.abides_send`   the ones around them.
-/

namespace Succession

open FileSystem

variable {α β : Type} {pid : Nat} {path : Path} {st : Stance} {kept : Option Handle} {h : Handle}

namespace Program

theorem abides_bind {mid : α → Stance → Prop} {post : β → Stance → Prop} {p : Program α}
    {f : α → Program β} (hp : p.Abides pid path mid st)
    (hf : ∀ a st', mid a st' → (f a).Abides pid path post st') :
    (p >>= f).Abides pid path post st := by
  induction p generalizing st with
  | done a => exact hf a st hp
  | ask q next ih =>
    intro r hr
    obtain ⟨st', hm, hn⟩ := hp r hr
    exact ⟨st', hm, ih r hn⟩

theorem abides_ask {post : α → Stance → Prop} {q : Request} {f : q.Reply → Program α}
    (h : ∀ r, Fits pid st q r →
      ∃ st', Move pid path st q r st' ∧ (f r).Abides pid path post st') :
    (request q >>= f).Abides pid path post st := h

/-- quiet questions leave the stance as it is -/
theorem abides_quiet {post : β → Stance → Prop} {p : Program α} {f : α → Program β}
    (hp : p.Asks Request.Quiet) (hf : ∀ a, (f a).Abides pid path post st) :
    (p >>= f).Abides pid path post st := by
  induction p with
  | done a => exact hf a
  | ask q next ih => exact fun r _ => ⟨st, .quiet hp.1 r, ih r (hp.2 r)⟩

/-- a program of quiet questions ends in the stance in which it has begun -/
theorem Asks.abides {post : α → Stance → Prop} {p : Program α} (hp : p.Asks Request.Quiet)
    (hpost : p.Gives fun a => post a st) : p.Abides pid path post st := by
  induction p with
  | done a => exact hpost
  | ask q next ih => exact fun r _ => ⟨st, .quiet hp.1 r, ih r (hp.2 r) (hpost r)⟩

/-- a program that begins with the question where the process is, unless it knows the path already,
and abides by the stance from then on -/
def Resolves (pid : Nat) (path workDir : Path) (post : α → Stance → Prop) (p : Program α)
    (st : Stance) : Prop :=
  p.Abides pid path post st ∨
    ∃ next, p = .ask .workDir next ∧ (next (.ok workDir)).Abides pid path post st

theorem Resolves.bind {mid : α → Stance → Prop} {post : β → Stance → Prop} {workDir : Path}
    {p : Program α} {f : α → Program β} (hp : p.Resolves pid path workDir mid st)
    (hf : ∀ a st', mid a st' → (f a).Abides pid path post st') :
    (p >>= f).Resolves pid path workDir post st := by
  obtain hp | ⟨next, rfl, hp⟩ := hp
  · exact .inl (abides_bind hp hf)
  · exact .inr ⟨_, rfl, abides_bind hp hf⟩

theorem Asks.quiet_of_ordinary {p : Program α} (hp : p.Asks Request.Ordinary) :
    p.Asks Request.Quiet := by
  refine hp.mono fun q hq => ?_
  obtain hq | rfl := hq
  · cases q with
    | duplicate | executable | arguments | launch | adopt | enterWorkDir | clearUmask
    | stdioHandles | log => trivial
    | _ => exact hq.elim
  · trivial

theorem Asks.quiet {p : Program α} (hp : p.Asks Request.Plain) : p.Asks Request.Quiet :=
  hp.ordinary.quiet_of_ordinary

end Program

open Program

/-! ## the PID file's own programs -/

/-- looking at the content changes nothing for the process -/
theorem abides_readPid : (readPid h).Abides pid path (fun _ st => st = .opened kept h)
    (.opened kept h) := by
  refine abides_ask fun r _ => ⟨_, .restart r, ?_⟩
  cases r with
  | error e => rfl
  | ok _ =>
    refine abides_ask fun r _ => ⟨_, .read r, ?_⟩
    cases r <;> rfl

/-- how an attempt to write the record ends -/
def Wrote (h : Handle) : Except IoError Unit → Stance → Prop
  | .ok (), st => st = .idle (some h)
  | .error _, st => st = .locked h .fresh

theorem abides_writePid :
    (writePid h pid).Abides pid path (Wrote h) (.locked h .fresh) := by
  refine abides_ask fun r _ => ?_
  cases r with
  | error e => exact ⟨_, .notCleared e, rfl⟩
  | ok _ =>
    refine ⟨_, .clear, abides_ask fun r _ => ?_⟩
    cases r with
    | error e => exact ⟨_, .notRewound e, rfl⟩
    | ok _ =>
      refine ⟨_, .rewind, abides_ask fun r _ => ?_⟩
      cases r with
      | error e => exact ⟨_, .notWritten e, rfl⟩
      | ok _ =>
        refine ⟨_, .digits, abides_ask fun r _ => ?_⟩
        cases r with
        | error e => exact ⟨_, .notWritten e, rfl⟩
        | ok _ =>
          refine ⟨_, .newline, fun r _ => ?_⟩
          cases r with
          | error e => exact ⟨_, .notSynced e, rfl⟩
          | ok _ => exact ⟨_, .sync, rfl⟩

/-- how an attempt to take the lock ends: it succeeds only for a process that does not keep it -/
def Acquired (kept : Option Handle) : Except LockError PidLock → Stance → Prop
  | .ok lock, st => kept = none ∧ st = .idle (some lock.handle)
  | .error _, st => st = .idle kept

theorem abides_acquire :
    (PidLock.acquire path).Abides pid path (Acquired kept) (.idle kept) := by
  refine abides_ask fun r _ => ?_
  cases r with
  | error e => exact ⟨_, .missing e, rfl⟩
  | ok h =>
    refine ⟨_, .openFile rfl h, abides_ask fun r hr => ?_⟩
    cases r with
    | error e =>
      refine ⟨_, .refused e, ?_⟩
      dsimp only
      split
      · refine abides_bind abides_readPid fun told st' hst => ?_
        obtain rfl := hst
        exact abides_ask fun _ _ => ⟨_, .close, rfl⟩
      · exact abides_ask fun _ _ => ⟨_, .close, rfl⟩
    | ok _ =>
      obtain rfl : kept = none := by
        cases kept with
        | none => rfl
        | some k => exact absurd rfl (hr k rfl)
      refine ⟨_, .lock, abides_ask fun number hn => ⟨_, .quiet (q := .processId) trivial number, ?_⟩⟩
      obtain rfl : number = pid := hn
      refine abides_bind abides_writePid fun written st' hst => ?_
      cases written with
      | error e =>
        obtain rfl := hst
        exact abides_ask fun _ _ => ⟨_, .abandon, rfl⟩
      | ok _ => exact ⟨rfl, hst⟩

/-- a probe gives up whatever it got -/
theorem abides_checkStatus :
    (checkStatus path).Abides pid path (fun _ st => st = .idle kept) (.idle kept) := by
  refine abides_ask fun r _ => ?_
  cases r with
  | error e => exact ⟨_, .missing e, rfl⟩
  | ok h =>
    refine ⟨_, .openFile rfl h, abides_ask fun r hr => ?_⟩
    cases r with
    | ok _ =>
      obtain rfl : kept = none := by
        cases kept with
        | none => rfl
        | some k => exact absurd rfl (hr k rfl)
      exact ⟨_, .lock, abides_ask fun _ _ => ⟨_, .abandon, rfl⟩⟩
    | error e =>
      refine ⟨_, .refused e, ?_⟩
      dsimp only
      split
      · refine abides_bind abides_readPid fun told st' hst => ?_
        obtain rfl := hst
        exact abides_ask fun _ _ => ⟨_, .close, rfl⟩
      · exact abides_ask fun _ _ => ⟨_, .close, rfl⟩

theorem abides_release (lock : PidLock) :
    lock.release.Abides pid path (fun _ st => st = .idle none) (.idle (some lock.handle)) :=
  abides_ask fun _ _ => ⟨_, .unlock, fun _ _ => ⟨_, .close, rfl⟩⟩

theorem Control.abides_send (c : Control) (signal : Signal) :
    (c.send signal).Abides pid c.pidFile (fun _ st => st = .idle kept) (.idle kept) := by
  have hstatus : c.status.Abides pid c.pidFile (fun _ st => st = .idle kept) (.idle kept) := by
    refine abides_bind abides_checkStatus fun r st' hst => ?_
    cases r <;> exact hst
  refine abides_bind hstatus fun r st' hst => ?_
  obtain rfl := hst
  cases r with
  | error e => rfl
  | ok status =>
    dsimp only
    split
    · rfl
    · refine abides_quiet ?_ fun r => ?_
      · unfold sendSignal
        split
        · exact asks_pure _ _
        · exact asks_request trivial
      · cases r <;> rfl

/-! ## the daemon's programs -/

namespace Daemon

variable {d : Daemon}

def Alike (d d' : Daemon) : Prop := d'.config = d.config ∧ d'.pidLock = d.pidLock

theorem alike_refl (d : Daemon) : d.Alike d := ⟨rfl, rfl⟩

theorem gives_daemonStdio (d : Daemon) : d.daemonStdio.Gives fun p => d.Alike p.2 := by
  unfold daemonStdio
  split
  · refine gives_after _ fun r => ?_
    cases r <;> exact d.alike_refl
  · exact d.alike_refl

theorem gives_takeOver (d : Daemon) : d.takeOver.Gives fun p => d.Alike p.2 := by
  unfold takeOver
  split
  · exact d.alike_refl
  refine gives_after _ fun r => ?_
  cases r with
  | error e => exact d.alike_refl
  | ok files =>
  refine gives_after _ fun r => ?_
  cases r with
  | error e => exact d.alike_refl
  | ok sockets =>
  refine gives_after _ fun r => ?_
  cases r with
  | error e => exact d.alike_refl
  | ok _ =>
  refine gives_after _ fun _ => gives_after _ fun parent => gives_after _ fun r => ?_
  cases r with
  | error e => exact ⟨rfl, rfl⟩
  | ok _ =>
    let settled : Daemon := { d with env := restoreSlots (unmark d.env) (readSlots d.env) }
    exact (settled.register files sockets).gives_daemonStdio

theorem gives_spawn (d : Daemon) : d.spawn.Gives fun p => d.Alike p.2 := by
  refine gives_after _ fun r => ?_
  obtain ⟨outcome, env⟩ := r
  cases outcome with
  | error e => exact ⟨rfl, rfl⟩
  | ok outcome =>
    cases outcome with
    | handoff number => exact ⟨rfl, rfl⟩
    | ready terminal =>
      refine gives_after _ fun r => ?_
      cases r <;> exact ⟨rfl, rfl⟩

theorem quiet_takeOver (d : Daemon) : d.takeOver.Asks Request.Quiet := by
  refine (Succession.asks_takeOver d).mono fun q hq => ?_
  cases q with
  | openFile | lock | unlock | truncate | rewind | readAll | write | sync | close | workDir =>
    obtain h | h | ⟨_, _, h⟩ := hq <;> cases h
  | _ => trivial

theorem quiet_spawn (d : Daemon) : d.spawn.Asks Request.Quiet := by
  refine asks_bind (asks_spawn _ _).quiet_of_ordinary fun r => ?_
  obtain ⟨outcome, env⟩ := r
  cases outcome with
  | error e => exact asks_pure _ _
  | ok outcome =>
    cases outcome with
    | handoff number => exact asks_pure _ _
    | ready terminal =>
      exact asks_try (asks_keepAll _).quiet (fun _ => asks_pure _ _) fun _ => asks_pure _ _

/-- between two programs, a daemon has nothing but the lock that it keeps -/
def stance (d : Daemon) : Stance := .idle (d.pidLock.map (·.handle))

theorem stance_eq {d' : Daemon} (h : d'.pidLock = d.pidLock) : d.stance = d'.stance := by
  unfold stance
  rw [h]

theorem abides_unlockPidFile (d : Daemon) :
    d.unlockPidFile.Abides pid path
      (fun d' st => d' = { d with pidLock := none } ∧ st = .idle none) d.stance := by
  unfold unlockPidFile stance
  cases hlock : d.pidLock with
  | none =>
    refine ⟨?_, rfl⟩
    rw [← hlock]
  | some lock => exact abides_bind (abides_release lock) fun _ st' hst => ⟨rfl, hst⟩

/-- how a part of the start ends -/
def Locked : Except LockError Unit × Daemon → Stance → Prop
  | (r, d), st => st = d.stance ∧ (r = .ok () → d.pidLock ≠ none)

theorem abides_lockPidFile (d : Daemon) :
    (d.lockPidFile path).Abides pid path Locked d.stance := by
  refine abides_bind abides_acquire fun r st' hst => ?_
  cases r with
  | error e => exact ⟨hst, nofun⟩
  | ok lock =>
    -- a daemon that kept a lock before does not get this far
    obtain ⟨hkept, rfl⟩ := hst
    have hnone : d.pidLock = none := Option.map_eq_none_iff.mp hkept
    dsimp only
    unfold unlockPidFile
    rw [hnone]
    exact ⟨rfl, fun _ => nofun⟩

/-- how a start ends: a daemon keeps the lock -/
def Begun : Except Failure Started × Daemon → Stance → Prop
  | (r, d), st => st = d.stance ∧ ∀ stdio, r = .ok (.ready stdio) → d.pidLock ≠ none

theorem abides_finishStart (d : Daemon) (stdio : Option StdioPipes) :
    (d.finishStart path stdio).Abides pid path Begun d.stance := by
  refine abides_bind (abides_lockPidFile d) fun r st' hst => ?_
  obtain ⟨r, d'⟩ := r
  cases r with
  | error e => exact ⟨hst.1, nofun⟩
  | ok _ => exact ⟨hst.1, fun _ _ => hst.2 rfl⟩

def Undisturbed {ε : Type} (d : Daemon) (p : ε × Daemon) (st : Stance) : Prop :=
  p.2.pidLock = d.pidLock ∧ st = d.stance

theorem abides_takeOver (d : Daemon) :
    d.takeOver.Abides pid path d.Undisturbed d.stance :=
  d.quiet_takeOver.abides (d.gives_takeOver.mono fun _ h => ⟨h.2, rfl⟩)

theorem abides_startFromReload (d : Daemon) :
    (d.startFromReload path).Abides pid path Begun d.stance := by
  refine abides_bind (abides_takeOver d) fun r st' hst => ?_
  obtain ⟨r, d'⟩ := r
  obtain ⟨hlock, rfl⟩ := hst
  rw [stance_eq hlock]
  cases r with
  | error e => exact ⟨rfl, nofun⟩
  | ok stdio => exact abides_finishStart d' stdio

/-! ### a stage of the start sequence -/

theorem abides_refuseIfRunning (d : Daemon) :
    (d.refuseIfRunning path).Abides pid path (fun _ st => st = d.stance) d.stance := by
  have hstage : d.stage.Asks Request.Quiet :=
    asks_bind (asks_marker _).quiet_of_ordinary fun _ => asks_pure _ _
  refine abides_quiet hstage fun stage => ?_
  split
  · refine abides_bind abides_checkStatus fun r st' hst => ?_
    cases r <;> exact hst
  · rfl

theorem abides_spawn (d : Daemon) : d.spawn.Abides pid path d.Undisturbed d.stance :=
  d.quiet_spawn.abides (d.gives_spawn.mono fun _ h => ⟨h.2, rfl⟩)

theorem abides_startFromStage (d : Daemon) :
    (d.startFromStage path).Abides pid path Begun d.stance := by
  refine abides_bind (abides_refuseIfRunning d) fun r st' hst => ?_
  obtain rfl := hst
  cases r with
  | error e => exact ⟨rfl, nofun⟩
  | ok _ =>
    refine abides_bind (abides_spawn d) fun r st' hst => ?_
    obtain ⟨r, d'⟩ := r
    obtain ⟨hlock, rfl⟩ := hst
    rw [stance_eq hlock]
    cases r with
    | error e =>
      dsimp only
      split
      · exact ⟨rfl, nofun⟩
      · exact ⟨rfl, nofun⟩
    | ok outcome =>
      cases outcome with
      | handoff number => exact ⟨rfl, nofun⟩
      | ready terminal => exact abides_finishStart d' terminal.stdio

/-! ### starting and reloading -/

/-- only the full path of the PID file depends on where the process is -/
theorem resolves_pidFile {post : α → Stance → Prop} {workDir : Path} {d : Daemon}
    {f : Except IoError Path → Program α} (hpath : workDir.join d.config.pidFile = path)
    (hf : (f (.ok path)).Abides pid path post st) :
    (d.pidFile >>= f).Resolves pid path workDir post st := by
  unfold pidFile
  split
  · next ha =>
    left
    obtain rfl : d.config.pidFile = path := by rw [← hpath, Path.join, if_pos ha]
    exact hf
  · right
    refine ⟨_, rfl, ?_⟩
    rw [← hpath] at hf ⊢
    exact hf

theorem resolves_makeDaemon {workDir : Path} {d : Daemon}
    (hpath : workDir.join d.config.pidFile = path) :
    d.makeDaemon.Resolves pid path workDir Begun d.stance := by
  refine resolves_pidFile hpath ?_
  dsimp only
  split
  · exact abides_startFromReload d
  · exact abides_startFromStage d

theorem resolves_checkStatus {workDir : Path} {d : Daemon}
    (hpath : workDir.join d.config.pidFile = path) :
    d.checkStatus.Resolves pid path workDir (fun _ st => st = d.stance) d.stance :=
  resolves_pidFile hpath abides_checkStatus

theorem abides_reload (d : Daemon) :
    d.reload.Abides pid path (fun p st => st = p.2.stance) d.stance := by
  refine abides_quiet (asks_request trivial) fun r => ?_
  cases r with
  | error e => rfl
  | ok executable =>
  refine abides_quiet (asks_duplicateAll _).quiet fun r => ?_
  cases r with
  | error e => rfl
  | ok descriptors =>
  refine abides_bind (abides_unlockPidFile d) fun d' st' hst => ?_
  obtain ⟨rfl, rfl⟩ := hst
  refine abides_quiet (asks_request trivial) fun arguments => ?_
  refine abides_quiet (asks_request trivial) fun r => ?_
  cases r <;> rfl

end Daemon
end Succession
