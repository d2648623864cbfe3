import Succession.Proofs.PidFile.Lessons
import Succession.Proofs.PidFile.Record
import Succession.Proofs.PidFile.Turn

/-!
# Whom a command signals

A command is refused the lock in one moment, looks at the file in another, and signals in a third,
while everybody else goes on. So it signals the process whose PID lock is there while it looks. But
it may have been refused because of a probe, or of a process that has not replaced the old content
yet, and then it signals whatever number it finds.

* `Fleet.Has s pid lock`                    a process has a PID lock;
* `Fleet.Meanwhile`, `Refused`, `Looks`     what happens around one process while it is at work;
* `Fleet.Backing`, `Reaches.informed`       whatever a process knows, it came to know so;
* `Reaches.signals_holder`                  whom a command signals, in every order of the questions;
* `signals_stale`                           a command that signals a number out of an old file.
-/

namespace Succession

open FileSystem Program

variable {path : Path} {fs fs' : FileSystem} {h : Handle}

/-! ## a file through a description -/

namespace FileSystem

variable {d : Description}

theorem node?_of_content? {workDir : Path} {id : NodeId} {content : Bytes}
    (hl : LeadsTo fs path id) (hc : fs.content? workDir path = some content) :
    fs.node? id = some (.file content) := by
  unfold content? at hc
  rw [show fs.lookup workDir path .target = .ok (.node id) from hl workDir] at hc
  dsimp only at hc
  split at hc
  · next content' hn =>
    cases hc
    exact hn
  · cases hc

theorem rewind_file {content : Bytes} (hd : fs.description? h = some d)
    (hn : fs.node? d.node = some (.file content)) : (fs.rewind h).1 = .ok () := by
  unfold rewind
  rw [hd]
  dsimp only
  rw [hn]

theorem readAll_file {content : Bytes} (hd : fs.description? h = some d)
    (hn : fs.node? d.node = some (.file content)) :
    (fs.readAll h).1 = .ok (content.drop d.position) := by
  unfold readAll
  rw [hd]
  dsimp only
  rw [hn]

theorem lock_refused {e : IoError} (hd : fs.description? h = some d)
    (h0 : fs.lock h = (.error e, fs')) : ∃ other, other ≠ h ∧ fs.holder? d.node = some other := by
  unfold lock at h0
  rw [hd] at h0
  dsimp only at h0
  split at h0
  · cases h0
  · next other hother =>
    split at h0
    · cases h0
    · next hne => exact ⟨other, hne, hother⟩

end FileSystem

namespace Fleet

variable {s₀ s₁ s s' : Fleet} {i pid : Nat} {m m' : Member} {k k' : Knowledge} {q : Request}
  {r : q.Reply}

/-! ## moments of a run -/

def Has (s : Fleet) (pid : Nat) (lock : PidLock) : Prop :=
  ∃ i m, s.members i = some m ∧ m.lock? = some lock ∧ m.process.pid = pid

/-- steps during which the process goes on with its piece of work -/
def Meanwhile (path : Path) (i : Nat) : Fleet → Fleet → Prop :=
  Relation.ReflTransGen fun s s' =>
    Step path s s' ∧ ∃ m p, s'.members i = some m ∧ m.running = some p

def Hears (s s' : Fleet) (i : Nat) (q : Request) (r : q.Reply) : Prop :=
  ∃ m next host, s.members i = some m ∧ m.running = some (.ask q next) ∧
    Host.handle q ⟨s.kernel, m.process⟩ = (r, host) ∧
    s' = s.set host.kernel i (some (m.answered q next r host.process))

theorem Hears.step (h : Hears s s' i q r) : Step path s s' := by
  obtain ⟨m, next, host, hm, hrun, h0, rfl⟩ := h
  exact .call hm hrun h0

/-- on the way from `s₀` to `s`, and at `s₁`, the process was refused the lock of its description
because it would have had to wait, and it has been at the same work since -/
def Refused (path : Path) (s₀ s₁ s : Fleet) (i : Nat) (h : Handle) : Prop :=
  ∃ s₁' e, Reaches path s₀ s₁ ∧ Hears s₁ s₁' i (.lock h) (.error e) ∧ e.isWouldBlock = true ∧
    Meanwhile path i s₁' s

/-- the process is about to look at the file through its description, and what it is told then is
the number of the content that the file has now, if it is a regular file -/
structure Looks (path : Path) (s : Fleet) (i : Nat) (h : Handle) (pid : Nat) : Prop where
  asks : ∃ m q next, s.members i = some m ∧ m.running = some (.ask q next) ∧
    (q = .rewind h ∨ q = .readAll h)
  tells : ∀ workDir content, s.kernel.fs.content? workDir path = some content →
    pid = recordedPid content

/-- how a process came to know what it knows -/
def Backing (path : Path) (s₀ s : Fleet) (i : Nat) (m : Member) : Knowledge → Prop
  | .nothing => True
  | .refused h => ∃ s₁, Refused path s₀ s₁ s i h
  | .rewound h => (∃ s₁, Refused path s₀ s₁ s i h) ∧ h ∈ m.opened ∧
      ∃ id, LeadsTo s.kernel.fs path id ∧ s.kernel.fs.description? h = some ⟨id, 0, false⟩
  | .told h pid =>
    ∃ s₁ s₂, Refused path s₀ s₁ s₂ i h ∧ Looks path s₂ i h pid ∧ Meanwhile path i s₂ s

section
variable {p : Program (Result × Daemon)}

theorem Meanwhile.later (h : Meanwhile path i s₁ s) (hstep : Step path s s')
    (hm : s'.members i = some m) (hrun : m.running = some p) : Meanwhile path i s₁ s' :=
  h.tail ⟨hstep, m, p, hm, hrun⟩

theorem Meanwhile.reaches (h : Meanwhile path i s s') : Reaches path s s' :=
  Relation.ReflTransGen.mono (fun _ _ hstep => hstep.1) _ _ h

theorem Refused.later (hr : Refused path s₀ s₁ s i h) (hstep : Step path s s')
    (hm : s'.members i = some m) (hrun : m.running = some p) : Refused path s₀ s₁ s' i h := by
  obtain ⟨s₁', e, h₁, hhears, he, hrest⟩ := hr
  exact ⟨s₁', e, h₁, hhears, he, hrest.later hstep hm hrun⟩

theorem Refused.between (hr : Refused path s₀ s₁ s i h) :
    Reaches path s₀ s₁ ∧ Reaches path s₁ s := by
  obtain ⟨s₁', e, h₁, hhears, -, hrest⟩ := hr
  exact ⟨h₁, .head hhears.step hrest.reaches⟩

theorem Refused.since (hreach : Reaches path s₀ s) (hr : Refused path s s₁ s' i h) :
    Refused path s₀ s₁ s' i h := by
  obtain ⟨s₁', e, h₁, hhears, he, hrest⟩ := hr
  exact ⟨s₁', e, hreach.trans h₁, hhears, he, hrest⟩

theorem Backing.later (hb : Backing path s₀ s i m k) (hstep : Step path s s')
    (hspares : Spares (· ∈ m.opened) path s.kernel.fs s'.kernel.fs)
    (hm : s'.members i = some m) (hrun : m.running = some p) : Backing path s₀ s' i m k := by
  cases k with
  | nothing => trivial
  | refused h =>
    obtain ⟨s₁, hr⟩ := hb
    exact ⟨s₁, hr.later hstep hm hrun⟩
  | rewound h =>
    obtain ⟨⟨s₁, hr⟩, hmem, id, hl, hd⟩ := hb
    exact ⟨⟨s₁, hr.later hstep hm hrun⟩, hmem, id, hspares.leads id hl,
      (hspares.descriptions h hmem).trans hd⟩
  | told h pid =>
    obtain ⟨s₁, s₂, hr, hlook, hrest⟩ := hb
    exact ⟨s₁, s₂, hr, hlook, hrest.later hstep hm hrun⟩

end

/-- **An answer backs what it teaches.** -/
theorem Backing.taught {next : q.Reply → Program (Result × Daemon)} {host : Host}
    (h₀ : Reaches path s₀ s) (hs : s.Sound path) (hm : s.members i = some m)
    (hrun : m.running = some (.ask q next)) (h0 : Host.handle q ⟨s.kernel, m.process⟩ = (r, host))
    (hb : Backing path s₀ s i m k) (hl : Lesson k q r k') :
    Backing path s₀ (s.set host.kernel i (some (m.answered q next r host.process))) i
      (m.answered q next r host.process) k' := by
  have hhears : Hears s _ i q r := ⟨m, next, host, hm, hrun, h0, rfl⟩
  have hstep : Step path s _ := hhears.step
  have hgoes : Meanwhile path i s _ := .single ⟨hstep, _, _, members_set_self, rfl⟩
  have hsound := hs.members i m hm
  cases hl with
  | other | kill => trivial
  | refused e he => exact ⟨s, _, e, h₀, hhears, he, .refl⟩
  | @rewound h =>
    obtain ⟨s₁, hr⟩ := hb
    obtain ⟨⟨id, position, hleads, hd⟩, hmem⟩ := hsound.onPath hrun h0 rfl
    refine ⟨⟨s₁, hr.later hstep members_set_self rfl⟩, hmem, id, ?_⟩
    -- the position is the process's own, so what is read later is the whole content
    have hrewind := Host.onFs_eq h0
    obtain ⟨-, hfs⟩ | ⟨e, he, -⟩ := rewind_cases hd hrewind
    · show LeadsTo host.kernel.fs path id ∧ host.kernel.fs.description? h = _
      rw [hfs, description?_setPosition hd, if_pos rfl]
      exact ⟨hleads.keep (keeps_of_nodes_eq rfl), rfl⟩
    · cases he
  | @unwound h e =>
    obtain ⟨s₁, hr⟩ := hb
    obtain ⟨⟨id, position, hleads, hd⟩, -⟩ := hsound.onPath hrun h0 rfl
    refine ⟨s₁, s, hr, ⟨⟨m, _, next, hm, hrun, .inl rfl⟩, fun workDir content hc => ?_⟩,
      hgoes⟩
    have hok := rewind_file hd (node?_of_content? hleads hc)
    rw [Host.onFs_eq h0] at hok
    cases hok
  | @read h content =>
    obtain ⟨⟨s₁, hr⟩, -, id, hleads, hd⟩ := hb
    refine ⟨s₁, s, hr, ⟨⟨m, _, next, hm, hrun, .inr rfl⟩, fun workDir content' hc => ?_⟩,
      hgoes⟩
    have hok := readAll_file hd (node?_of_content? hleads hc)
    rw [Host.onFs_eq h0, List.drop_zero] at hok
    rw [Except.ok.inj hok]
  | @unread h e =>
    obtain ⟨⟨s₁, hr⟩, -, id, hleads, hd⟩ := hb
    refine ⟨s₁, s, hr, ⟨⟨m, _, next, hm, hrun, .inr rfl⟩, fun workDir content hc => ?_⟩,
      hgoes⟩
    have hok := readAll_file hd (node?_of_content? hleads hc)
    rw [Host.onFs_eq h0] at hok
    cases hok
  | close =>
    obtain ⟨s₁, s₂, hr, hlook, hrest⟩ := hb
    exact ⟨s₁, s₂, hr, hlook, hrest.later hstep members_set_self rfl⟩

/-! ## what a process knows -/

/-- whatever a process runs, it asks only what it knows enough for, and came to know that -/
def Informed (path : Path) (s₀ s : Fleet) (i : Nat) (m : Member) : Prop :=
  ∀ p, m.running = some p → ∃ k, p.Learns (fun _ _ => True) k ∧ Backing path s₀ s i m k

theorem Step.informed (ha : path.isAbsolute = true) (h : Step path s s') (h₀ : Reaches path s₀ s)
    (hs : s.Sound path) (hi : ∀ m, s.members i = some m → Informed path s₀ s i m)
    (hm' : s'.members i = some m') : Informed path s₀ s' i m' := by
  intro p hp
  have ht := h.turn ha hs i
  rw [hm'] at ht
  generalize hm : s.members i = before at ht
  generalize hafter : some m' = after at ht
  cases ht with
  | absent | exit => cases hafter
  | join hrun =>
    obtain rfl := Option.some.inj hafter
    rw [hrun] at hp
    cases hp
  | rest hrun =>
    obtain rfl := Option.some.inj hafter
    rw [hrun] at hp
    cases hp
  | begin work =>
    obtain rfl := Option.some.inj hafter
    obtain rfl := Option.some.inj hp
    exact ⟨.nothing, work.learns_program path _, trivial⟩
  | @hear m q next r host hrun h0 =>
    obtain rfl := Option.some.inj hafter
    obtain rfl := Option.some.inj hp
    obtain ⟨k, hlearns, hb⟩ := hi m hm _ hrun
    obtain ⟨k', hl, hrest⟩ := hlearns r
    exact ⟨k', hrest, hb.taught h₀ hs hm hrun h0 hl⟩
  | stay hspares =>
    obtain rfl := Option.some.inj hafter
    obtain ⟨k, hlearns, hb⟩ := hi m' hm p hp
    exact ⟨k, hlearns, hb.later h hspares hm' hp⟩

theorem Reaches.informed (ha : path.isAbsolute = true) (h₀ : ∀ i, s₀.members i = none)
    (h : Reaches path s₀ s) : ∀ i m, s.members i = some m → Informed path s₀ s i m := by
  induction h with
  | refl =>
    intro i m hm
    rw [h₀ i] at hm
    cases hm
  | tail hreach hstep ih =>
    intro i m hm
    exact hstep.informed ha hreach (Reaches.sound ha hreach (sound_of_vacant h₀)) (ih i) hm

/-! ## whom a command signals -/

/-- whoever looks while somebody has the PID lock is told who that is -/
theorem Looks.owner {owner : Nat} {lock : PidLock} (hlook : Looks path s i h pid)
    (hs : s.Sound path) (hhas : s.Has owner lock) (hmax : owner ≤ Numeral.max32) :
    pid = owner := by
  obtain ⟨j, m, hm, hlock, rfl⟩ := hhas
  obtain ⟨st, hst⟩ := hs.members j m hm
  obtain ⟨⟨id, hleads, -, position, a⟩, -⟩ := hst.holding hlock
  rw [hlook.tells path _ (content?_eq hleads a.file path), recordedPid_pidRecord hmax]

theorem Refused.had (ha : path.isAbsolute = true) (hr : Refused path s₀ s₁ s i h)
    (h₀ : s₀.Sound path) (hfault : s₁.kernel.lockFault = none) :
    ∃ id other, LeadsTo s₁.kernel.fs path id ∧ s₁.kernel.fs.holder? id = some other ∧
      other ≠ h := by
  obtain ⟨s₁', e, hreach, ⟨m, next, host, hm, hrun, h0, -⟩, -, -⟩ := hr
  have hsound := (Reaches.sound ha hreach h₀).members i m hm
  obtain ⟨⟨id, position, hleads, hd⟩, -⟩ := hsound.onPath hrun h0 rfl
  have hlock : Host.faulty s₁.kernel.lockFault ⟨s₁.kernel, m.process⟩
      ((Host.mk s₁.kernel m.process).onFs (s₁.kernel.fs.lock h)) = (.error e, host) := h0
  rw [hfault] at hlock
  obtain ⟨other, hne, hother⟩ := lock_refused hd (Host.onFs_eq hlock)
  exact ⟨id, other, hleads, hother, hne⟩

/-- **Whom a command signals.** Before any signal, in every order of the questions, the process was
refused the lock in a moment in which another description had it, and looked at the file in a later
moment. It signals the process that has the PID lock in that later moment, if there is one; so it
signals the one that had the PID lock when its own attempt was refused, as long as that process does
not give it up before the file is looked at. -/
theorem Reaches.signals_holder {signal : Signal}
    {next : Except IoError Unit → Program (Result × Daemon)} (ha : path.isAbsolute = true)
    (h₀ : ∀ i, s₀.members i = none) (hreach : Reaches path s₀ s) (hm : s.members i = some m)
    (hrun : m.running = some (.ask (.kill pid signal) next)) :
    ∃ h s₁ s₂, Refused path s₀ s₁ s₂ i h ∧ Looks path s₂ i h pid ∧ Meanwhile path i s₂ s ∧
      (s₁.kernel.lockFault = none → ∃ id other, LeadsTo s₁.kernel.fs path id ∧
        s₁.kernel.fs.holder? id = some other ∧ other ≠ h) ∧
      (∀ owner lock, s₂.Has owner lock → owner ≤ Numeral.max32 → pid = owner) ∧
      (∀ owner lock, s₁.Has owner lock →
        (∃ owner' lock', s₂.Has owner' lock' ∧ lock'.handle = lock.handle) →
        owner ≤ Numeral.max32 → pid = owner) := by
  have hs₀ : s₀.Sound path := sound_of_vacant h₀
  obtain ⟨k, hlearns, hb⟩ := Reaches.informed ha h₀ hreach i m hm _ hrun
  obtain ⟨k', hlesson, -⟩ := hlearns (.ok ())
  cases hlesson with
  | other hq => cases hq
  | @kill h =>
    obtain ⟨s₁, s₂, hr, hlook, hrest⟩ := hb
    obtain ⟨hreach₁, hbetween⟩ := hr.between
    have hs₁ := Reaches.sound ha hreach₁ hs₀
    have hs₂ := Reaches.sound ha hbetween hs₁
    refine ⟨h, s₁, s₂, hr, hlook, hrest, hr.had ha hs₀, ?_, ?_⟩
    · exact fun owner lock hhas hmax => hlook.owner hs₂ hhas hmax
    · -- one description belongs to one process, so the owner is still the same
      rintro owner lock ⟨j, holder, hm, hlock, rfl⟩ ⟨owner', lock', hhas, hsame⟩ hmax
      obtain ⟨j', holder', hm', hlock', rfl⟩ := id hhas
      rw [← Reaches.same_holder ha hbetween hs₁ hm hlock hm' hlock' hsame] at hmax ⊢
      exact hlook.owner hs₂ hhas hmax

end Fleet

/-! ## one command -/

namespace Commanding

open Fleet

/-- a PID file whose lock somebody has -/
def held (content : Bytes) (position : Nat) : FileSystem where
  nodes := [.directory [(Bytes.ofText "molt.pid", 1)] 0, .file content]
  descriptions := [⟨1, position, false⟩]
  locks := [(1, 0)]
  runnable := []

def operator : Process := .initial 6002 41 (.ofText "/app") [] (.ofText "/")

def idle : Member := .new operator (.new .default .empty false)

def commanding : Member :=
  { idle with running := some (Work.program Lone.pidFile idle.daemon (.command .terminate)) }

def watched (content : Bytes) (position own : Nat) : FileSystem :=
  { held content position with descriptions := [⟨1, position, false⟩, ⟨1, own, false⟩] }

theorem openFile_held (content : Bytes) (position : Nat) :
    (held content position).openFile (.ofText "/") Lone.pidFile .reading =
      (.ok 1, watched content position 0) := by cbv

/-- **An operator that comes while somebody has the lock** is refused it, whoever that is, and comes
to signal the number in the file. -/
theorem comes_to_kill {s : Fleet} {pid position : Nat} (hvacant : s.members 1 = none)
    (hfs : s.kernel.fs = held (pidRecord pid) position) (hfault : s.kernel.lockFault = none)
    (hpid : pid ≤ maxPid) :
    ∃ k₁ m₁ k₂ m₂ next, Refused Lone.pidFile s (s.set k₁ 1 (some m₁)) (s.set k₂ 1 (some m₂)) 1 1 ∧
      m₁.lock? = none ∧ m₂.running = some (.ask (.kill pid .terminate) next) ∧
      k₂.kills = s.kernel.kills ∧ k₂.killFault = s.kernel.killFault := by
  let k (fs : FileSystem) : Kernel := { s.kernel with fs }
  let content := pidRecord pid
  have hopen : Host.handle (.openFile Lone.pidFile .reading) ⟨s.kernel, operator⟩ =
      (.ok 1, ⟨k (watched content position 0), operator⟩) := by
    show Host.onFs _ (s.kernel.fs.openFile (.ofText "/") Lone.pidFile .reading) = _
    rw [hfs, openFile_held]
    rfl
  have hlock : Host.handle (.lock 1) ⟨k (watched content position 0), operator⟩ =
      (.error (.os .wouldBlock), ⟨k (watched content position 0), operator⟩) := by
    show Host.faulty s.kernel.lockFault _ _ = _
    rw [hfault]
    rfl
  have hrewind : Host.handle (.rewind 1) ⟨k (watched content position 0), operator⟩ =
      (.ok (), ⟨k (watched content position 0), operator⟩) := rfl
  have hread : Host.handle (.readAll 1) ⟨k (watched content position 0), operator⟩ =
      (.ok content, ⟨k (watched content position content.length), operator⟩) := rfl
  have hclose : Host.handle (.close 1) ⟨k (watched content position content.length), operator⟩ =
      ((), ⟨k (watched content position content.length), operator⟩) := rfl
  have hsend (f : Except IoError Unit → Program (Except ControlError Nat))
      (g : Except ControlError Nat → Program (Result × Daemon)) :
      sendSignal (recordedPid content) .terminate >>= f >>= g =
        .ask (.kill pid .terminate) fun r => f r >>= g := by
    rw [recordedPid_pidRecord (Nat.le_trans hpid (by decide))]
    unfold sendSignal
    rw [if_neg (Nat.not_lt.mpr hpid)]
    rfl
  have hbegun : Reaches Lone.pidFile s (s.set s.kernel 1 (some commanding)) :=
    reaches_begun (.command .terminate) hvacant False.elim
  have hopened := hbegun.tail (.hear rfl hopen)
  have hrefused : Refused Lone.pidFile s _ _ 1 1 :=
    ⟨_, _, hopened, ⟨_, _, _, members_set_self, rfl, hlock, rfl⟩, rfl, .refl⟩
  rw [set_set] at hrefused
  have hrewound := hrefused.later (.hear rfl hrewind) members_set_self rfl
  have hlooked := hrewound.later (.hear rfl hread) members_set_self rfl
  have hasking := hlooked.later (.hear rfl hclose) members_set_self rfl
  exact ⟨_, _, _, _, _, hasking, rfl, congrArg some (hsend _ _), rfl, rfl⟩

/-- a probe that has the lock of a file that a dead process left behind -/
theorem reaches_probing :
    ∃ k m, Reaches Lone.pidFile Lone.vacant (Lone.vacant.set k 0 (some m)) ∧ m.lock? = none ∧
      k.fs = held (pidRecord 7) 0 ∧ k.lockFault = none ∧ k.kills = [] ∧ k.killFault = none := by
  let opened : FileSystem := { held (pidRecord 7) 0 with locks := [] }
  have hopen : Host.handle (.openFile Lone.pidFile .reading) ⟨Reloading.kernel, Lone.prober⟩ =
      (.ok 0, ⟨{ Reloading.kernel with fs := opened }, Lone.prober⟩) := by cbv
  have hlock : Host.handle (.lock 0) ⟨{ Reloading.kernel with fs := opened }, Lone.prober⟩ =
      (.ok (), ⟨{ Reloading.kernel with fs := held (pidRecord 7) 0 }, Lone.prober⟩) := rfl
  have hbegun : Reaches Lone.pidFile Lone.vacant
      (Lone.vacant.set Reloading.kernel 0 (some Lone.probing)) :=
    reaches_begun .probe rfl False.elim
  have hlocked := (hbegun.tail (.hear rfl hopen)).tail (.hear rfl hlock)
  exact ⟨_, _, hlocked, rfl, rfl, rfl, rfl, rfl⟩

def ended : (Result × Daemon) × Host :=
  (Host.mk Reloading.kernel Lone.process).run (Work.start.program Lone.pidFile Lone.daemon)

theorem pidLock_ended : ended.1.2.pidLock = some ⟨Lone.pidFile, 0⟩ := by cbv

theorem pid_ended : ended.2.process.pid = 5000 := by cbv

theorem fs_ended : ended.2.kernel.fs = held (pidRecord 5000) 5 := by cbv

theorem lockFault_ended : ended.2.kernel.lockFault = none := by cbv

/-- a daemon that runs, and has the lock -/
theorem reaches_running :
    ∃ k m lock, Reaches Lone.pidFile Lone.vacant (Lone.vacant.set k 0 (some m)) ∧
      m.lock? = some lock ∧ m.process.pid = 5000 ∧ k.fs = held (pidRecord 5000) 5 ∧
      k.lockFault = none := by
  have hbegun : Reaches Lone.pidFile Lone.vacant
      (Lone.vacant.set Reloading.kernel 0 (some Lone.starting)) :=
    reaches_begun .start rfl fun _ => by decide
  obtain ⟨m, hrun, hdone, hprocess⟩ := reaches_run Lone.pidFile
    (s := Lone.vacant.set Reloading.kernel 0 (some Lone.starting)) members_set_self rfl
  rw [set_set] at hrun
  refine ⟨_, m, ⟨Lone.pidFile, 0⟩, hbegun.trans hrun, ?_, ?_, fs_ended, lockFault_ended⟩
  · unfold Member.lock?
    rw [hdone]
    exact pidLock_ended
  · rw [hprocess]
    exact pid_ended

end Commanding

theorem signals_holder_running : Lone.pidFile.isAbsolute = true ∧
    (∀ i, Lone.vacant.members i = none) ∧
    ∃ s m next lock, Fleet.Reaches Lone.pidFile Lone.vacant s ∧ s.members 1 = some m ∧
      m.running = some (.ask (.kill 5000 .terminate) next) ∧ s.Has 5000 lock ∧
      ∃ h s₁ s₂, Fleet.Refused Lone.pidFile Lone.vacant s₁ s₂ 1 h ∧
        Fleet.Looks Lone.pidFile s₂ 1 h 5000 := by
  have ha : Lone.pidFile.isAbsolute = true := by decide
  have hvacant (i : Nat) : Lone.vacant.members i = none := rfl
  obtain ⟨k, holder, lock, hreach, hlock, hpid, hfs, hfault⟩ := Commanding.reaches_running
  obtain ⟨k₁, m₁, k₂, m, next, hr, -, hrun, -⟩ :=
    Commanding.comes_to_kill (s := Lone.vacant.set k 0 (some holder)) rfl hfs hfault (by decide)
  have hall := hreach.trans (hr.between.1.trans hr.between.2)
  have hholder : ((Lone.vacant.set k 0 (some holder)).set k₂ 1 (some m)).members 0 =
      some holder := by
    rw [Fleet.members_set_of_ne (by decide)]
    exact Fleet.members_set_self
  obtain ⟨h, s₁, s₂, hrefused, hlook, -⟩ :=
    Fleet.Reaches.signals_holder ha hvacant hall Fleet.members_set_self hrun
  exact ⟨ha, hvacant, _, m, next, lock, hall, Fleet.members_set_self, hrun,
    ⟨0, holder, hholder, hlock, hpid⟩, h, s₁, s₂, hrefused, hlook⟩

/-- a probe has the lock, so a command signals the number that a dead process left behind, although
nobody has the PID lock -/
theorem signals_stale : ∃ s₁ s₂ s, Fleet.Refused Lone.pidFile Lone.vacant s₁ s₂ 1 1 ∧
    (∀ pid lock, ¬ s₁.Has pid lock) ∧ Fleet.Hears s₂ s 1 (.kill 7 .terminate) (.ok ()) ∧
    Lone.vacant.kernel.kills = [] ∧ s.kernel.kills = [(7, .terminate)] := by
  obtain ⟨k, m, hreach, hlock, hfs, hfault, hkills, hkillFault⟩ := Commanding.reaches_probing
  obtain ⟨k₁, m₁, k₂, m₂, next, hr, hlock₁, hrun, hsame, hsameFault⟩ :=
    Commanding.comes_to_kill (s := Lone.vacant.set k 0 (some m)) rfl hfs hfault (by decide)
  have hkills₂ : k₂.kills = [] := hsame.trans hkills
  have hfault₂ : k₂.killFault = none := hsameFault.trans hkillFault
  have hkill : Host.handle (.kill 7 .terminate) ⟨k₂, m₂.process⟩ =
      (.ok (), ⟨{ k₂ with kills := k₂.kills ++ [(7, .terminate)] }, m₂.process⟩) := by
    show Host.faulty k₂.killFault _ _ = _
    unfold Host.faulty
    split
    · next errno herrno =>
      rw [hfault₂] at herrno
      cases herrno
    · rfl
  refine ⟨_, _, _, Fleet.Refused.since hreach hr, ?_,
    ⟨_, _, _, Fleet.members_set_self, hrun, hkill, rfl⟩, rfl,
    congrArg (· ++ [(7, Signal.terminate)]) hkills₂⟩
  rintro pid lock ⟨j, m', hm', hhas, -⟩
  by_cases h1 : j = 1
  · subst h1
    rw [Fleet.members_set_self] at hm'
    obtain rfl := Option.some.inj hm'
    rw [hlock₁] at hhas
    cases hhas
  · rw [Fleet.members_set_of_ne h1] at hm'
    by_cases h0 : j = 0
    · subst h0
      rw [Fleet.members_set_self] at hm'
      obtain rfl := Option.some.inj hm'
      rw [hlock] at hhas
      cases hhas
    · rw [Fleet.members_set_of_ne h0] at hm'
      cases hm'

end Succession
