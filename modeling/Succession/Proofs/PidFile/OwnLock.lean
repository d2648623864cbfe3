import Succession.Proofs.Handoff.Marker
import Succession.Proofs.PidFile.Abides
import Succession.Proofs.PidFile.Taking

/-!
# A daemon and its own lock

A start makes the path of the PID file full, changes into the working directory, and takes the lock
of the file behind that path. A daemon that asks for its own state makes the path full once more,
from the directory that it is in by then. It finds itself wherever this leads to the file that it
has locked: everywhere if the path is absolute, and else where it was when the start began.

* `Host.run_pidFile`, `Attempts.pidFile`   the path is read from the directory of now;
* `Daemon.Approaches`                      what a start does in front of the lock;
* `Daemon.Owns`                            a daemon that has the lock of its file;
* `Daemon.finds_own_lock`                  every start ends with one, or not as a daemon;
* `Daemon.misses_own_lock`                 a relative path, another directory.
-/

namespace Succession

open FileSystem Program

/-! ## the full path -/

theorem Path.isAbsolute_join {base : Path} (hb : base.isAbsolute = true) (p : Path) :
    (base.join p).isAbsolute = true := by
  obtain ⟨first, rest, hbytes⟩ : ∃ first rest, base.bytes = first :: rest := by
    cases hbytes : base.bytes with
    | nil =>
      unfold isAbsolute at hb
      rw [hbytes] at hb
      cases hb
    | cons first rest => exact ⟨first, rest, rfl⟩
  unfold join
  split
  · assumption
  unfold isAbsolute at hb ⊢
  split
  all_goals
    rw [hbytes] at hb ⊢
    exact hb

namespace Host

variable {host mid host' : Host} {d : Daemon} {xs : List Exchange}

theorem run_pidFile (host : Host) (d : Daemon) :
    host.run d.pidFile = (.ok (host.process.workDir.join d.config.pidFile), host) := by
  unfold Daemon.pidFile
  split
  · next ha =>
    unfold Path.join
    rw [if_pos ha]
    rfl
  · rfl

/-- a daemon looks where its path leads from the directory that it is in -/
theorem run_checkStatus_own (host : Host) (d : Daemon) :
    host.run d.checkStatus =
      host.run (checkStatus (host.process.workDir.join d.config.pidFile)) := by
  unfold Daemon.checkStatus
  rw [run_bind_of_eq _ (run_pidFile host d)]

/-- nothing has happened once the path is full -/
theorem Attempts.pidFile {α : Type} {a : α} {f : Except IoError Path → Program α}
    (ha : host.Attempts xs host') (ht : (d.pidFile >>= f).Takes xs a) :
    ∃ r ys, (f r).Takes ys a ∧ host.Attempts ys host' ∧
      ∀ path, r = .ok path → path = host.process.workDir.join d.config.pidFile := by
  obtain ⟨ys, zs, r, mid, rfl, hp, hys, hf, hzs⟩ := ha.bind ht
  unfold Daemon.pidFile at hp
  split at hp
  · next habs =>
    obtain ⟨rfl, rfl⟩ := hp.done_inv
    obtain rfl := hys.nil_inv
    refine ⟨_, zs, hf, hzs, ?_⟩
    rintro path ⟨⟩
    exact (if_pos habs).symm
  · obtain ⟨answer, mid', ws, rfl, hdir, hp', hws⟩ := hys.ask hp
    cases answer with
    | error e =>
      obtain ⟨rfl, rfl⟩ := hp'.done_inv
      obtain rfl := hws.nil_inv
      have hsame : mid = host := by
        cases hdir with
        | failed e hr => rfl
      exact ⟨_, zs, hf, hsame ▸ hzs, nofun⟩
    | ok workDir =>
      obtain ⟨rfl, rfl⟩ := hp'.done_inv
      obtain rfl := hws.nil_inv
      cases hdir.truly (by rintro ⟨e, he⟩; cases he) nofun
      refine ⟨_, zs, hf, hzs, ?_⟩
      rintro path ⟨⟩
      rfl

end Host

/-! ## in front of the lock -/

namespace Daemon

variable {d d' e : Daemon} {host mid host' : Host} {xs : List Exchange} {path : Path}
  {stdio : Option StdioPipes}

/-- a start has come up to the lock, as the daemon `e` on the host `mid` -/
structure Approaches (d : Daemon) (host : Host) (e : Daemon) (mid : Host) : Prop where
  alike : d.Alike e
  peeked : Peeked host.kernel.fs mid.kernel.fs
  pid : mid.process.pid = host.process.pid

def Finishes (d : Daemon) (host : Host) (path : Path) (stdio : Option StdioPipes) (d' : Daemon)
    (host' : Host) : Prop :=
  ∃ e mid opened ys, d.Approaches host e mid ∧
    (e.finishStart path opened).Takes ys (.ok (.ready stdio), d') ∧ mid.Attempts ys host'

theorem finishes_startFromReload (ha : host.Attempts xs host')
    (ht : (d.startFromReload path).Takes xs (.ok (.ready stdio), d')) :
    d.Finishes host path stdio d' host' := by
  obtain ⟨ys, zs, ⟨r, e⟩, mid, rfl, htake, hys, hrest, hzs⟩ := ha.bind ht
  have hfs := hys.fs_of_quiet (htake.asked d.quiet_takeOver)
  cases r with
  | error failure => cases hrest.done_inv.2
  | ok opened =>
    refine ⟨e, mid, opened, zs, ⟨htake.gives d.gives_takeOver, ?_, hys.pid_eq⟩, hrest, hzs⟩
    rw [hfs]
    exact peeked_refl _

theorem peeked_refuseIfRunning {r : Except Failure Unit} (ho : host.kernel.fs.Orderly)
    (ha : host.Attempts xs host') (ht : (d.refuseIfRunning path).Takes xs r) :
    Peeked host.kernel.fs host'.kernel.fs := by
  have hstage : d.stage.Asks Request.Quiet :=
    asks_bind (asks_marker _).quiet_of_ordinary fun _ => asks_pure _ _
  obtain ⟨ys, zs, stage, mid, rfl, hstages, hys, hrest, hzs⟩ := ha.bind ht
  have hfs := hys.fs_of_quiet (hstages.asked hstage)
  rw [← hfs] at ho ⊢
  split at hrest
  · obtain ⟨ys', zs', answer, mid', rfl, hprobe, hys', hlast, hzs'⟩ := hzs.bind hrest
    have hp := Host.checkStatus_peeked hys' hprobe ho
    have hdone : zs' = [] := by
      cases answer <;> exact hlast.done_inv.1
    subst hdone
    rwa [hzs'.nil_inv]
  · obtain ⟨rfl, -⟩ := hrest.done_inv
    rw [hzs.nil_inv]
    exact peeked_refl _

theorem finishes_startFromStage (ho : host.kernel.fs.Orderly) (ha : host.Attempts xs host')
    (ht : (d.startFromStage path).Takes xs (.ok (.ready stdio), d')) :
    d.Finishes host path stdio d' host' := by
  obtain ⟨ys, zs, r, mid, rfl, hrefuse, hys, hrest, hzs⟩ := ha.bind ht
  have hp := peeked_refuseIfRunning ho hys hrefuse
  cases r with
  | error failure => cases hrest.done_inv.2
  | ok =>
    obtain ⟨ys', zs', ⟨outcome, e⟩, mid', rfl, hspawn, hys', hrest', hzs'⟩ := hzs.bind hrest
    have hfs := hys'.fs_of_quiet (hspawn.asked d.quiet_spawn)
    cases outcome with
    | error failure =>
      dsimp only at hrest'
      split at hrest' <;> cases hrest'.done_inv.2
    | ok outcome =>
      cases outcome with
      | handoff number => cases hrest'.done_inv.2
      | ready terminal =>
        refine ⟨e, mid', terminal.stdio, zs', ⟨hspawn.gives d.gives_spawn, ?_, ?_⟩, hrest', hzs'⟩
        · rw [hfs]
          exact hp
        · exact hys'.pid_eq.trans hys.pid_eq

/-- both ways of a start lock the file behind the path that was made full first -/
theorem finishes_makeDaemon (ho : host.kernel.fs.Orderly) (ha : host.Attempts xs host')
    (ht : d.makeDaemon.Takes xs (.ok (.ready stdio), d')) :
    d.Finishes host (host.process.workDir.join d.config.pidFile) stdio d' host' := by
  obtain ⟨r, ys, hrest, hys, hpath⟩ := ha.pidFile ht
  cases r with
  | error e => cases hrest.done_inv.2
  | ok path =>
    obtain rfl := hpath path rfl
    dsimp only at hrest
    split at hrest
    · exact finishes_startFromReload hys hrest
    · exact finishes_startFromStage ho hys hrest

end Daemon

/-! ## behind the lock -/

section
variable {host host' : Host} {xs : List Exchange} {h : Handle} {id : NodeId}

/-- whoever gives up a lock leaves every other one as it is, and every file -/
theorem PidLock.released_later {old : PidLock} (ha : host.Attempts xs host')
    (ht : old.release.Takes xs ()) (hne : old.handle ≠ h) :
    Later h id host.kernel.fs host'.kernel.fs ∧ host'.kernel.fs.nodes = host.kernel.fs.nodes := by
  obtain ⟨mid, hunlock, hclose⟩ := old.releases ha ht
  have hkept : mid.kernel.fs.nodes = host.kernel.fs.nodes :=
    hunlock.fs_ind (P := fun fs => fs.nodes = host.kernel.fs.nodes) rfl rfl nofun
  refine ⟨.tail (.single (.asked hunlock hne not_false)) (.asked hclose hne not_false), ?_⟩
  rw [hclose.closed]
  exact hkept

end

namespace Daemon

variable {d d' e : Daemon} {host mid host' : Host} {xs : List Exchange} {path : Path}
  {stdio : Option StdioPipes} {lock : PidLock} {id : NodeId}

/-- a lock that was kept before is given up for the new one, which is another -/
theorem unlockPidFile_later {h : Handle} (ha : host.Attempts xs host')
    (ht : e.unlockPidFile.Takes xs d') (hother : ∀ old, e.pidLock = some old → old.handle ≠ h) :
    Later h id host.kernel.fs host'.kernel.fs ∧ host'.kernel.fs.nodes = host.kernel.fs.nodes ∧
      d'.config = e.config := by
  unfold unlockPidFile at ht
  split at ht
  · obtain ⟨rfl, rfl⟩ := ht.done_inv
    rw [ha.nil_inv]
    exact ⟨.refl, rfl, rfl⟩
  · next old hold =>
    obtain ⟨ys, zs, u, mid, rfl, hrelease, hys, hrest, hzs⟩ := ha.bind ht
    obtain ⟨rfl, rfl⟩ := hrest.done_inv
    rw [hzs.nil_inv]
    obtain ⟨hlater, hnodes⟩ := PidLock.released_later hys hrelease (hother old hold)
    exact ⟨hlater, hnodes, rfl⟩

/-- the last part of a start -/
theorem finishStart_taken (ho : host.kernel.fs.Orderly) (hpid : host.process.pid ≤ Numeral.max32)
    (hold : ∀ old, e.pidLock = some old → old.handle < host.kernel.fs.descriptions.length)
    {opened : Option StdioPipes} (ha : host.Attempts xs host')
    (ht : (e.finishStart path opened).Takes xs (.ok (.ready stdio), d')) :
    ∃ lock id mid, PidLock.Taken host mid path lock id ∧ d'.pidLock = some lock ∧
      d'.config = e.config ∧ Later lock.handle id mid.kernel.fs host'.kernel.fs ∧
      host'.kernel.fs.nodes = mid.kernel.fs.nodes := by
  obtain ⟨ys, zs, ⟨r, f⟩, mid, rfl, hlock, hys, hrest, hzs⟩ := ha.bind ht
  cases r with
  | error failure => cases hrest.done_inv.2
  | ok =>
    obtain ⟨rfl, ⟨⟩⟩ := hrest.done_inv
    rw [hzs.nil_inv]
    obtain ⟨ys', zs', r, locked, rfl, hacquire, hys', hrest', hzs'⟩ := hys.bind hlock
    cases r with
    | error failure => cases hrest'.done_inv.2
    | ok lock =>
      obtain ⟨id, htaken⟩ := PidLock.taken_of_takes ho hpid hys' hacquire
      have hother : ∀ old, e.pidLock = some old → old.handle ≠ lock.handle := by
        intro old hkept
        rw [htaken.own]
        exact Nat.ne_of_lt (hold old hkept)
      obtain ⟨ys'', zs'', f', last, rfl, hunlock, hys'', hdone, hzs''⟩ := hzs'.bind hrest'
      obtain ⟨rfl, ⟨⟩⟩ := hdone.done_inv
      rw [hzs''.nil_inv]
      obtain ⟨hlater, hnodes, hconfig⟩ := unlockPidFile_later hys'' hunlock hother
      exact ⟨lock, id, locked, htaken, rfl, hconfig, hlater, hnodes⟩

/-- from the directory that the process is in, the configured path leads to the file -/
def Names (d : Daemon) (host : Host) (id : NodeId) : Prop :=
  Leads host.kernel.fs host.process.workDir (host.process.workDir.join d.config.pidFile) id

/-- a start has made the daemon `d'` of `d`, which has the lock of the file `id` -/
structure Owns (d d' : Daemon) (host host' : Host) (lock : PidLock) (id : NodeId) : Prop where
  kept : d'.pidLock = some lock
  config : d'.config = d.config
  holds : host'.kernel.fs.holder? id = some lock.handle
  /-- the configured path led to the file where the start began -/
  leads : Leads host'.kernel.fs host.process.workDir
    (host.process.workDir.join d.config.pidFile) id
  /-- until the lock is released or the file written, the daemon finds itself, with the number of
  its process, wherever its path leads to that file -/
  finds : ∀ now : Host, Later lock.handle id host'.kernel.fs now.kernel.fs →
    now.kernel.lockFault = none → d'.Names now id →
    (now.run d'.checkStatus).1 = .ok ⟨true, host.process.pid⟩
  /-- while names are kept, that is everywhere for an absolute path, and for any other one in the
  directory in which the start began -/
  names : ∀ now : Host, Keeps host'.kernel.fs now.kernel.fs →
    d.config.pidFile.isAbsolute = true ∨ now.process.workDir = host.process.workDir →
    d'.Names now id

/-- **A daemon finds its own lock**, however its start went and whatever the directories are, as
long as its path leads to the file that it has locked. -/
theorem finds_own_lock (ho : host.kernel.fs.Orderly) (hpid : host.process.pid ≤ Numeral.max32)
    (hhome : host.process.workDir.isAbsolute = true)
    (hold : ∀ old, d.pidLock = some old → old.handle < host.kernel.fs.descriptions.length)
    (ha : host.Attempts xs host') (ht : d.makeDaemon.Takes xs (.ok (.ready stdio), d')) :
    ∃ lock id, d.Owns d' host host' lock id := by
  obtain ⟨e, mid, opened, ys, happ, hfinish, hys⟩ := finishes_makeDaemon ho ha ht
  have hold' : ∀ old, e.pidLock = some old → old.handle < mid.kernel.fs.descriptions.length := by
    intro old hkept
    rw [happ.alike.2] at hkept
    obtain ⟨x, hx⟩ : ∃ x, host.kernel.fs.description? old.handle = some x :=
      ⟨_, List.getElem?_eq_getElem (hold old hkept)⟩
    obtain ⟨y, hy, -⟩ := happ.peeked.grows.descriptions _ x hx
    exact (List.getElem?_eq_some_iff.mp hy).1
  have hpid' : mid.process.pid ≤ Numeral.max32 := by rwa [happ.pid]
  obtain ⟨lock, id, locked, htaken, hkept, hconfig, hlater, hnodes⟩ :=
    finishStart_taken (happ.peeked.orderly ho) hpid' hold' hys hfinish
  have hsame : d'.config = d.config := hconfig.trans happ.alike.1
  have habs := Path.isAbsolute_join hhome d.config.pidFile
  have hleads : Leads host'.kernel.fs host.process.workDir
      (host.process.workDir.join d.config.pidFile) id := by
    have hl := htaken.leads.keep (keeps_of_nodes_eq hnodes)
    unfold Leads at hl ⊢
    rwa [lookup_of_isAbsolute habs _ mid.process.workDir]
  refine ⟨lock, id, hkept, hsame, (htaken.lasts _ hlater).holder, hleads,
    fun now hnow hfault hnames => ?_, fun now hkeeps hwhere => ?_⟩
  · have hfound := htaken.lasts now.kernel.fs (hlater.trans hnow)
    rw [Host.run_checkStatus_own, ← happ.pid]
    exact hfound.reported now _ rfl hfault hnames
  · have hl := hleads.keep hkeeps
    unfold Names
    rw [hsame]
    obtain hfile | hdir := hwhere
    · have hjoin (base : Path) : base.join d.config.pidFile = d.config.pidFile := if_pos hfile
      rw [hjoin] at hl ⊢
      unfold Leads at hl ⊢
      rwa [lookup_of_isAbsolute hfile _ host.process.workDir]
    · rwa [hdir]

/-- a successor locks its PID file, and finds itself -/
theorem finds_own_lock_heir : PidLock.heir.kernel.fs.Orderly ∧
    PidLock.heir.process.pid ≤ Numeral.max32 ∧ PidLock.heir.process.workDir.isAbsolute = true ∧
    (∀ old, Lone.daemon.pidLock = some old →
      old.handle < PidLock.heir.kernel.fs.descriptions.length) ∧
    ∃ xs d host lock id, PidLock.heir.Attempts xs host ∧
      Lone.daemon.makeDaemon.Takes xs (.ok (.ready none), d) ∧
      Lone.daemon.Owns d PidLock.heir host lock id ∧
      (host.run d.checkStatus).1 = .ok ⟨true, 5000⟩ := by
  have ho : PidLock.heir.kernel.fs.Orderly := ⟨List.nodup_nil, nofun, nofun⟩
  have hpid : PidLock.heir.process.pid ≤ Numeral.max32 := by decide
  have hhome : PidLock.heir.process.workDir.isAbsolute = true := by decide
  have hold : ∀ old, Lone.daemon.pidLock = some old →
      old.handle < PidLock.heir.kernel.fs.descriptions.length := nofun
  refine ⟨ho, hpid, hhome, hold, ?_⟩
  obtain ⟨d, host, hrun, -, hfault⟩ := Lone.run_makeDaemon
  obtain ⟨xs, ht, ha⟩ := Host.attempts_run Lone.daemon.makeDaemon PidLock.heir
  have hrun' : PidLock.heir.run Lone.daemon.makeDaemon = ((.ok (.ready none), d), host) := hrun
  rw [hrun'] at ht ha
  obtain ⟨lock, id, howns⟩ := finds_own_lock ho hpid hhome hold ha ht
  have hnames : d.Names host id := howns.names host (keeps_of_nodes_eq rfl) (.inl (by decide))
  exact ⟨xs, d, host, lock, id, ha, ht, howns, howns.finds host .refl hfault hnames⟩

end Daemon

/-! ## a daemon in another directory -/

namespace Strayed

def kernel : Kernel :=
  ⟨⟨[.directory [(Bytes.ofText "srv", 1)] 0, .directory [] 0], [], [], []⟩, 0, 5000, none, none, [],
    0, 0⟩

/-- a process that was started in `/srv` -/
def host : Host := Host.moving ⟨kernel, .initial 5000 41 (.ofText "/app") [] (.ofText "/srv")⟩

/-- the last process of a start, with the default configuration: the PID file is `molt.pid`, and the
working directory is `/` -/
def daemon : Daemon :=
  .new .default ⟨[(stageVariable, StageMarker.encode .firstChild none 0)]⟩ false

def pidFile : Path := .ofText "/srv/molt.pid"

def settled : Host :=
  { host with process := { (host.process.record (.workDir (.ofText "/"))).record .clearUmask with
    workDir := .ofText "/" } }

/-- the daemon behind its start, and its host -/
def started : Daemon := { Daemon.new .default .empty false with pidLock := some ⟨pidFile, 0⟩ }
def locked : Host := (settled.run (PidLock.acquire pidFile)).2

theorem run_enterWorkDir : host.run (request (.enterWorkDir (.ofText "/"))) =
    (.ok (), { host with process := { host.process.record (.workDir (.ofText "/")) with
      workDir := .ofText "/" } }) := by
  have henter : host.kernel.fs.enter host.process.workDir (.ofText "/") = .ok (.ofText "/") := by
    cbv
  show host.enterWorkDir (.ofText "/") = _
  unfold Host.enterWorkDir
  rw [henter]
  rfl

theorem run_marker :
    host.run (Spawner.marker daemon.spawner.env) = (⟨.firstChild, none, true⟩, host) := by
  have hmark := @StageMarker.decode_encode .firstChild none 0 0 (by decide) (by decide) (by decide)
    (by decide)
  show (StageMarker.decode (some (StageMarker.encode .firstChild none 0)) 0, host) = _
  rw [hmark]

theorem run_spawn : host.run daemon.spawn =
    ((.ok (.ready ⟨none, []⟩), { daemon with env := .empty }), settled) := by
  have hfiles : host.run (daemon.spawner.stageFiles .firstChild []) = (.ok [], host) := rfl
  have hfinish : host.run (daemon.spawner.finish .firstChild none []) =
      ((.ok (.ready ⟨none, []⟩), .empty), settled) := by
    unfold Spawner.finish
    show host.run (request (.enterWorkDir (.ofText "/")) >>= _) = _
    rw [Host.run_bind_of_eq _ run_enterWorkDir]
    rfl
  have hspawn : host.run (daemon.spawner.spawn []) =
      ((.ok (.ready ⟨none, []⟩), .empty), settled) := by
    unfold Spawner.spawn
    rw [Host.run_bind_of_eq _ run_marker]
    show host.run (daemon.spawner.stageFiles .firstChild [] >>= _) = _
    rw [Host.run_bind_of_eq _ hfiles]
    exact hfinish
  show host.run (daemon.spawner.spawn [] >>= _) = _
  rw [Host.run_bind_of_eq _ hspawn]
  rfl

theorem run_makeDaemon :
    host.run daemon.makeDaemon = ((.ok (.ready none), started), locked) := by
  have hpath : host.process.workDir.join daemon.config.pidFile = pidFile := by
    show Path.join (.ofText "/srv") (.ofText "molt.pid") = _
    cbv
  have hfresh : daemon.isReload = false := by decide
  have hrefuse : host.run (daemon.refuseIfRunning pidFile) = (.ok (), host) := by
    have hstage : host.run daemon.stage = (.firstChild, host) := by
      show host.run (Spawner.marker _ >>= _) = _
      rw [Host.run_bind_of_eq _ run_marker]
      rfl
    unfold Daemon.refuseIfRunning
    rw [Host.run_bind_of_eq _ hstage]
    rfl
  have hacquire : settled.run (PidLock.acquire pidFile) = (.ok ⟨pidFile, 0⟩, locked) := by
    have hlock : (settled.run (PidLock.acquire pidFile)).1 = .ok ⟨pidFile, 0⟩ := by cbv
    exact Prod.ext hlock rfl
  unfold Daemon.makeDaemon
  rw [Host.run_bind_of_eq _ (Host.run_pidFile host daemon), hpath]
  dsimp only
  rw [hfresh]
  show host.run (daemon.startFromStage pidFile) = _
  unfold Daemon.startFromStage
  rw [Host.run_bind_of_eq _ hrefuse]
  show host.run (daemon.spawn >>= _) = _
  rw [Host.run_bind_of_eq _ run_spawn]
  show settled.run ((PidLock.acquire pidFile >>= _) >>= _) = _
  rw [Host.run_bind, Host.run_bind_of_eq _ hacquire]
  rfl

end Strayed

namespace Lone

/-- a daemon and its host, after a start that a reload has begun -/
def started : (Except Failure Started × Daemon) × Host := PidLock.heir.run daemon.makeDaemon

def overwritten : Host :=
  started.2.withFs (started.2.kernel.fs.put (.ofText "/") pidFile (Bytes.ofText "77\n"))

def failing : Host :=
  { started.2 with kernel := { started.2.kernel with lockFault := some ⟨37⟩ } }

end Lone

/-- **A daemon may miss its own lock** while it has it. With the default configuration, and started
elsewhere than in its working directory, it has locked the file in the one directory and looks for
it in the other. It finds another number where somebody has written one, and an error where locking
fails. -/
theorem Daemon.misses_own_lock :
    (Strayed.host.run Strayed.daemon.makeDaemon =
        ((.ok (.ready none), Strayed.started), Strayed.locked) ∧
      Strayed.started.pidLock = some ⟨Strayed.pidFile, 0⟩ ∧
      Strayed.locked.kernel.fs.holder? 2 = some 0 ∧
      (Strayed.locked.run Strayed.started.checkStatus).1 = .ok .stopped) ∧
    Lone.started.1.1 = .ok (.ready none) ∧ Lone.started.1.2.pidLock = some ⟨Lone.pidFile, 0⟩ ∧
    (Lone.overwritten.kernel.fs.holder? 1 = some 0 ∧
      (Lone.overwritten.run Lone.started.1.2.checkStatus).1 = .ok ⟨true, 77⟩) ∧
    Lone.failing.kernel.fs.holder? 1 = some 0 ∧
      (Lone.failing.run Lone.started.1.2.checkStatus).1 = .error (.os ⟨37⟩) := by
  refine ⟨⟨Strayed.run_makeDaemon, rfl, ?_, ?_⟩, ?_, ?_, ⟨?_, ?_⟩, ?_, ?_⟩
  all_goals cbv

end Succession
