import Succession.Proofs.Handoff.Questions
import Succession.Proofs.PidFile.Fleet

/-!
# What a command learns before it signals

A command asks for the lock, is refused, looks at the content and then signals. What it may ask next
depends on what it has learned so far, and not on who answers. Nothing else ever signals the process
that a PID file names.

* `Knowledge`, `Lesson k q r k'`   what is known, and what the answer `r` to `q` teaches;
* `Program.Learns post p k`        whatever it is told, `p` asks only what it knows enough for;
* `Request.Harmless`, `asks_makeDaemon`, `asks_reload`   daemons signal nobody by a PID file;
* `Work.learns_program`            a process begins every piece of work without any knowledge.
-/

namespace Succession

open Program

/-! ## knowledge -/

/-- what a process has found out about the instance that has the lock -/
inductive Knowledge where
  | nothing
  /-- the lock was refused to a description -/
  | refused (h : Handle)
  /-- the description is at the start of the file -/
  | rewound (h : Handle)
  /-- this is the number that was found -/
  | told (h : Handle) (pid : Nat)

/-- a question that signals nobody by a number -/
def Request.Harmless : Request → Prop
  | .kill .. => False
  | _ => True

inductive Lesson : Knowledge → (q : Request) → q.Reply → Knowledge → Prop where
  | other {q : Request} (hq : q.Harmless) (r : q.Reply) : Lesson .nothing q r .nothing
  | refused {h : Handle} (e : IoError) (he : e.isWouldBlock = true) :
      Lesson .nothing (.lock h) (.error e) (.refused h)
  | rewound {h : Handle} : Lesson (.refused h) (.rewind h) (.ok ()) (.rewound h)
  | unwound {h : Handle} (e : IoError) : Lesson (.refused h) (.rewind h) (.error e) (.told h 0)
  | read {h : Handle} (content : Bytes) :
      Lesson (.rewound h) (.readAll h) (.ok content) (.told h (recordedPid content))
  | unread {h : Handle} (e : IoError) : Lesson (.rewound h) (.readAll h) (.error e) (.told h 0)
  | close {h : Handle} {pid : Nat} : Lesson (.told h pid) (.close h) () (.told h pid)
  /-- whoever is signalled is whom the file named -/
  | kill {h : Handle} {pid : Nat} {signal : Signal} (r : Except IoError Unit) :
      Lesson (.told h pid) (.kill pid signal) r .nothing

namespace Program

variable {α β : Type} {k : Knowledge}

/-- whatever it is told, the program asks only what it knows enough for, and ends with this much -/
def Learns (post : α → Knowledge → Prop) : Program α → Knowledge → Prop
  | .done a, k => post a k
  | .ask q next, k => ∀ r, ∃ k', Lesson k q r k' ∧ (next r).Learns post k'

theorem learns_bind {mid : α → Knowledge → Prop} {post : β → Knowledge → Prop} {p : Program α}
    {f : α → Program β} (hp : p.Learns mid k) (hf : ∀ a k', mid a k' → (f a).Learns post k') :
    (p >>= f).Learns post k := by
  induction p generalizing k with
  | done a => exact hf a k hp
  | ask q next ih =>
    intro r
    obtain ⟨k', hl, hn⟩ := hp r
    exact ⟨k', hl, ih r hn⟩

theorem learns_ask {post : α → Knowledge → Prop} {q : Request} {f : q.Reply → Program α}
    (h : ∀ r, ∃ k', Lesson k q r k' ∧ (f r).Learns post k') :
    (request q >>= f).Learns post k := h

theorem learns_other {post : α → Knowledge → Prop} {q : Request} {f : q.Reply → Program α}
    (hq : q.Harmless) (hf : ∀ r, (f r).Learns post .nothing) :
    (request q >>= f).Learns post .nothing := fun r => ⟨_, .other hq r, hf r⟩

theorem learns_harmless {p : Program α} (hp : p.Asks Request.Harmless) :
    p.Learns (fun _ k => k = .nothing) .nothing := by
  induction p with
  | done a => rfl
  | ask q next ih => exact fun r => ⟨.nothing, .other hp.1 r, ih r (hp.2 r)⟩

theorem Learns.mono {post post' : α → Knowledge → Prop} {p : Program α} (hp : p.Learns post k)
    (hle : ∀ a k', post a k' → post' a k') : p.Learns post' k := by
  induction p generalizing k with
  | done a => exact hle a k hp
  | ask q next ih =>
    intro r
    obtain ⟨k', hl, hn⟩ := hp r
    exact ⟨k', hl, ih r hn⟩

theorem Asks.harmless_of_ordinary {p : Program α} (hp : p.Asks Request.Ordinary) :
    p.Asks Request.Harmless := by
  refine hp.mono fun q hq => ?_
  cases q with
  | kill => obtain hq | hq := hq <;> cases hq
  | _ => trivial

theorem Asks.harmless {p : Program α} (hp : p.Asks Request.Plain) : p.Asks Request.Harmless :=
  hp.ordinary.harmless_of_ordinary

end Program

/-! ## a command -/

/-- who has been refused the lock knows the number that it reads -/
theorem learns_readPid (h : Handle) :
    (readPid h).Learns (fun pid k => k = .told h pid) (.refused h) := by
  refine learns_ask fun r => ?_
  cases r with
  | error e => exact ⟨_, .unwound e, rfl⟩
  | ok _ =>
    refine ⟨_, .rewound, learns_ask fun r => ?_⟩
    cases r with
    | error e => exact ⟨_, .unread e, rfl⟩
    | ok content => exact ⟨_, .read content, rfl⟩

/-- a probe that finds an instance has been told its number -/
def Probed : Except IoError Status → Knowledge → Prop
  | .ok ⟨true, pid⟩, k => ∃ h, k = .told h pid
  | _, _ => True

theorem learns_checkStatus (path : Path) : (checkStatus path).Learns Probed .nothing := by
  refine learns_other trivial fun r => ?_
  cases r with
  | error e =>
    dsimp only
    split <;> trivial
  | ok h =>
    refine learns_ask fun r => ?_
    cases r with
    | ok _ =>
      refine ⟨.nothing, .other (q := .lock h) trivial _, ?_⟩
      exact learns_other trivial fun _ => trivial
    | error e =>
      by_cases he : e.isWouldBlock = true
      · refine ⟨_, .refused e he, ?_⟩
        dsimp only
        rw [if_pos he]
        refine learns_bind (learns_readPid h) fun pid k hk => ?_
        obtain rfl := hk
        exact learns_ask fun _ => ⟨_, .close, h, rfl⟩
      · refine ⟨.nothing, .other (q := .lock h) trivial _, ?_⟩
        dsimp only
        rw [if_neg he]
        exact learns_other trivial fun _ => trivial

theorem Control.learns_send (c : Control) (signal : Signal) :
    (c.send signal).Learns (fun _ _ => True) .nothing := by
  have hstatus : c.status.Learns
      (fun r k => ∀ status, r = .ok status → Probed (.ok status) k) .nothing := by
    refine learns_bind (learns_checkStatus c.pidFile) fun r k hk => ?_
    cases r with
    | error e => exact nofun
    | ok status => rintro _ ⟨⟩; exact hk
  refine learns_bind hstatus fun r k hk => ?_
  cases r with
  | error e => trivial
  | ok status =>
    obtain ⟨running, pid⟩ := status
    cases running with
    | false => trivial
    | true =>
      obtain ⟨h, rfl⟩ := hk _ rfl
      have hsend : (sendSignal pid signal).Learns (fun _ _ => True) (.told h pid) := by
        unfold sendSignal
        split
        · trivial
        · exact fun r => ⟨_, .kill r, trivial⟩
      refine learns_bind hsend fun r k' _ => ?_
      cases r <;> trivial

/-! ## everything else -/

theorem asks_readPid (h : Handle) : (readPid h).Asks Request.Harmless :=
  asks_try (asks_request trivial) (fun _ => asks_pure _ _) fun _ =>
    asks_try (asks_request trivial) (fun _ => asks_pure _ _) fun _ => asks_pure _ _

theorem asks_writePid (h : Handle) (pid : Nat) : (writePid h pid).Asks Request.Harmless :=
  asks_try (asks_request trivial) (fun _ => asks_pure _ _) fun _ =>
    asks_try (asks_request trivial) (fun _ => asks_pure _ _) fun _ =>
      asks_try (asks_request trivial) (fun _ => asks_pure _ _) fun _ =>
        asks_try (asks_request trivial) (fun _ => asks_pure _ _) fun _ => asks_request trivial

theorem asks_acquire (path : Path) : (PidLock.acquire path).Asks Request.Harmless := by
  refine asks_try (asks_request trivial) (fun _ => asks_pure _ _) fun h => ?_
  refine asks_try (asks_request trivial) (fun e => ?_) fun _ => ?_
  · dsimp only
    split
    · refine asks_bind (asks_readPid h) fun _ => ?_
      exact asks_bind (asks_request trivial) fun _ => asks_pure _ _
    · exact asks_bind (asks_request trivial) fun _ => asks_pure _ _
  · refine asks_bind (asks_request trivial) fun pid => ?_
    refine asks_try (asks_writePid h pid) (fun _ => ?_) fun _ => asks_pure _ _
    exact asks_bind (asks_request trivial) fun _ => asks_pure _ _

theorem asks_checkStatus (path : Path) : (checkStatus path).Asks Request.Harmless := by
  refine asks_try (asks_request trivial) (fun e => ?_) fun h => ?_
  · dsimp only
    split <;> exact asks_pure _ _
  · refine asks_try (asks_request trivial) (fun e => ?_) fun _ => ?_
    · dsimp only
      split
      · refine asks_bind (asks_readPid h) fun _ => ?_
        exact asks_bind (asks_request trivial) fun _ => asks_pure _ _
      · exact asks_bind (asks_request trivial) fun _ => asks_pure _ _
    · exact asks_bind (asks_request trivial) fun _ => asks_pure _ _

namespace Daemon

theorem asks_unlockPidFile (d : Daemon) : d.unlockPidFile.Asks Request.Harmless := by
  unfold unlockPidFile
  split
  · exact asks_pure _ _
  · refine asks_bind ?_ fun _ => asks_pure _ _
    exact asks_bind (asks_request trivial) fun _ => asks_request trivial

theorem asks_finishStart (d : Daemon) (path : Path) (stdio : Option StdioPipes) :
    (d.finishStart path stdio).Asks Request.Harmless := by
  refine asks_bind (asks_try (asks_acquire path) (fun _ => asks_pure _ _) fun _ => ?_) fun r => ?_
  · exact asks_bind (asks_unlockPidFile d) fun _ => asks_pure _ _
  · obtain ⟨r, d⟩ := r
    cases r <;> exact asks_pure _ _

theorem asks_takeOver (d : Daemon) : d.takeOver.Asks Request.Harmless := by
  refine (Succession.asks_takeOver d).mono fun q hq => ?_
  cases q with
  | kill => obtain h | h | ⟨_, _, h⟩ := hq <;> cases h
  | _ => trivial

theorem asks_startFromReload (d : Daemon) (path : Path) :
    (d.startFromReload path).Asks Request.Harmless := by
  refine asks_bind (asks_takeOver d) fun r => ?_
  obtain ⟨r, d⟩ := r
  cases r with
  | error e => exact asks_pure _ _
  | ok stdio => exact asks_finishStart d path stdio

theorem asks_spawn_files (d : Daemon) : d.spawn.Asks Request.Harmless := by
  have hspawner := (asks_spawn d.spawner d.files).harmless_of_ordinary
  refine asks_bind hspawner fun r => ?_
  obtain ⟨outcome, env⟩ := r
  cases outcome with
  | error e => exact asks_pure _ _
  | ok outcome =>
    cases outcome with
    | handoff number => exact asks_pure _ _
    | ready terminal =>
      exact asks_try (asks_keepAll _).harmless (fun _ => asks_pure _ _) fun _ => asks_pure _ _

theorem asks_startFromStage (d : Daemon) (path : Path) :
    (d.startFromStage path).Asks Request.Harmless := by
  have hrefuse : (d.refuseIfRunning path).Asks Request.Harmless := by
    refine asks_bind (asks_bind (asks_marker _).harmless_of_ordinary fun _ => asks_pure _ _) ?_
    intro stage
    split
    · exact asks_try (asks_checkStatus path) (fun _ => asks_pure _ _) fun _ => asks_pure _ _
    · exact asks_pure _ _
  refine asks_try hrefuse (fun _ => asks_pure _ _) fun _ => ?_
  refine asks_bind (asks_spawn_files d) fun r => ?_
  obtain ⟨r, d⟩ := r
  cases r with
  | error e =>
    dsimp only
    split <;> exact asks_pure _ _
  | ok outcome =>
    cases outcome with
    | handoff number => exact asks_pure _ _
    | ready terminal => exact asks_finishStart d path terminal.stdio

theorem asks_pidFile (d : Daemon) : d.pidFile.Asks Request.Harmless := by
  unfold pidFile
  split
  · exact asks_pure _ _
  · exact asks_try (asks_request trivial) (fun _ => asks_pure _ _) fun _ => asks_pure _ _

theorem asks_makeDaemon (d : Daemon) : d.makeDaemon.Asks Request.Harmless := by
  refine asks_try (asks_pidFile d) (fun _ => asks_pure _ _) fun path => ?_
  dsimp only
  split
  · exact asks_startFromReload d path
  · exact asks_startFromStage d path

theorem asks_reload (d : Daemon) : d.reload.Asks Request.Harmless := by
  refine asks_try (asks_request trivial) (fun _ => asks_pure _ _) fun executable => ?_
  refine asks_try (asks_duplicateAll _).harmless (fun _ => asks_pure _ _) fun descriptors => ?_
  refine asks_bind (asks_unlockPidFile d) fun d => ?_
  refine asks_bind (asks_request trivial) fun arguments => ?_
  exact asks_try (asks_request trivial) (fun _ => asks_pure _ _) fun _ => asks_pure _ _

end Daemon

/-- **A process that begins a piece of work knows nothing**, and signals nobody before it has been
refused the lock and told a number. -/
theorem Work.learns_program (path : Path) (d : Daemon) (work : Work) :
    (work.program path d).Learns (fun _ _ => True) .nothing := by
  have hharmless {p : Program (Result × Daemon)} (hp : p.Asks Request.Harmless) :
      p.Learns (fun _ _ => True) .nothing := (learns_harmless hp).mono fun _ _ _ => trivial
  cases work with
  | start => exact hharmless (asks_bind d.asks_makeDaemon fun _ => asks_pure _ _)
  | reload => exact hharmless (asks_bind d.asks_reload fun _ => asks_pure _ _)
  | status =>
    refine hharmless (asks_bind ?_ fun _ => asks_pure _ _)
    exact asks_try d.asks_pidFile (fun _ => asks_pure _ _) fun path => asks_checkStatus path
  | probe => exact hharmless (asks_bind (asks_checkStatus path) fun _ => asks_pure _ _)
  | command signal => exact learns_bind (Control.learns_send ⟨path⟩ signal) fun _ _ _ => trivial

end Succession
