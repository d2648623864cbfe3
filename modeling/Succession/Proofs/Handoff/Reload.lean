import Mathlib
import Succession.Proofs.Handoff.Successor
import Succession.Proofs.Listener.Pool
import Succession.Proofs.PidFile.Acquire
import Succession.Daemon.Start

/-!
# Reloading loses nothing

A running daemon describes its files and sockets to a successor, and the successor takes them over.
The two sides agree on the layout of the descriptors, on the counts, on the names, and on the values
that are put back.

* `Host.run_reload`            what a reload launches when it succeeds;
* `Host.run_takeOver`          a successor takes over what it was described;
* `Daemon.SucceededBy`         a daemon goes on in another process;
* `reload_hands_over`          the daemon goes on in the process that its reload launched.
-/

namespace Succession

open FileSystem

/-! ## the predecessor -/

namespace Host

variable {old old' : Host} {d d' : Daemon} {pid : Nat}

theorem run_unlockPidFile (host : Host) (d : Daemon) :
    ∃ fs, host.run d.unlockPidFile = ({ d with pidLock := none }, host.withFs fs) := by
  unfold Daemon.unlockPidFile
  cases hp : d.pidLock with
  | none =>
    refine ⟨host.kernel.fs, ?_⟩
    show (d, host) = (_, host)
    rw [← hp]
  | some lock => exact ⟨(host.kernel.fs.unlock lock.handle).close lock.handle, rfl⟩

/-- **What a reload launches when it succeeds**: a fresh copy, with the descriptions of everything
that is handed over. -/
theorem run_reload (h : old.run d.reload = ((.ok pid, d'), old')) :
    ∃ plan : LaunchPlan, old'.process.launches = old.process.launches ++ [(pid, plan)] ∧
      plan.env = d.reloadChanges ∧ plan.descriptors = d.handedOver := by
  have hx : handle .executable old =
      faulty old.process.faults.executable old (.ok old.process.executable, old) := rfl
  unfold Daemon.reload at h
  rw [run_bind, run_request, hx] at h
  cases he : old.process.faults.executable with
  | some errno =>
    rw [he] at h
    cases h
  | none =>
    rw [he] at h
    obtain ⟨fs, hu⟩ := run_unlockPidFile old d
    change old.run (duplicateAll d.handedOver >>= _) = _ at h
    rw [run_bind_of_eq _ (run_duplicateAll old d.handedOver)] at h
    change old.run (d.unlockPidFile >>= _) = _ at h
    rw [run_bind_of_eq _ hu, run_bind, run_request] at h
    change (old.withFs fs).run (Program.request (.launch _) >>= _) = _ at h
    rw [run_bind, run_request] at h
    have hl (plan : LaunchPlan) : handle (.launch plan) (old.withFs fs) =
        faulty old.process.faults.launch (old.withFs fs)
          (.ok ((old.withFs fs).launch plan).1, ((old.withFs fs).launch plan).2) := rfl
    rw [hl] at h
    cases hf : old.process.faults.launch with
    | some errno =>
      rw [hf] at h
      cases h
    | none =>
      rw [hf] at h
      cases h
      exact ⟨_, rfl, rfl, rfl⟩

end Host

/-! ## the environment in between -/

namespace Daemon

variable {d : Daemon}

/-- what the successor of a reload sees -/
def seenByReload (d : Daemon) : Environment := d.env.override d.reloadChanges

/-- outside of the slots, a reload changes its two marks and nothing else -/
theorem get?_seenByReload {name : String}
    (h : name ∉ slotNames (slotsFrom d.env firstExtra d.files)) :
    d.seenByReload.get? name =
      if name = listenersVariable then some (toString d.pool.snapshot.length)
      else if name = reloadVariable then some reloadMark else d.env.get? name := by
  unfold seenByReload reloadChanges
  rw [Variables.override_cons, Variables.override_cons, get?_override_slotChanges _ _ _ h,
    Variables.get?_restore, Variables.get?_restore]

theorem isReload_seenByReload : (d.seenByReload.get? reloadVariable).isSome = true := by
  rw [get?_seenByReload (not_mem_slotNames _ (by decide)), if_neg (by decide), if_pos rfl]
  rfl

theorem listenerCount_seenByReload (h : d.pool.snapshot.length ≤ Numeral.max64) :
    listenerCount d.seenByReload = .ok d.pool.snapshot.length := by
  unfold listenerCount
  rw [get?_seenByReload (not_mem_slotNames _ (by decide)), if_pos rfl]
  dsimp only
  rw [show (toString d.pool.snapshot.length).toList = Numeral.render d.pool.snapshot.length from
    String.toList_ofList, Numeral.parse?_render h]

theorem readSlots_seenByReload
    (hend : NoSlotAt d.env (firstExtra + d.files.length)) :
    readSlots d.seenByReload = slotsFrom d.env firstExtra d.files := by
  refine readSlots_eq (holds_override _ _ _) ?_
  unfold NoSlotAt
  rw [get?_seenByReload (end_not_mem_slotNames d.env (by decide) d.files),
    if_neg (descriptorVariable_ne _ (by decide)), if_neg (descriptorVariable_ne _ (by decide))]
  exact hend

/-- what the successor of a reload makes of it -/
def restoredByReload (d : Daemon) : Environment :=
  restoreSlots (unmark d.seenByReload) (slotsFrom d.env firstExtra d.files)

/-- **Without its marks and with the previous values, the environment of the successor is the one
that the reload began with.** -/
theorem get?_restoredByReload (hmark : d.env.get? reloadVariable = none)
    (hcount : d.env.get? listenersVariable = none) (name : String) :
    d.restoredByReload.get? name = d.env.get? name := by
  unfold restoredByReload
  apply get?_restoreSlots
  intro hout
  unfold unmark
  rw [Variables.get?_erase, Variables.get?_erase, get?_seenByReload hout]
  by_cases hl : name = listenersVariable
  · rw [if_pos hl, hl, hcount]
  · rw [if_neg hl, if_neg hl]
    by_cases hr : name = reloadVariable
    · rw [if_pos hr, hr, hmark]
    · rw [if_neg hr, if_neg hr]

end Daemon

/-! ## the successor -/

namespace Host

variable {new : Host} {d e : Daemon}

theorem run_daemonStdio (hf : new.process.faults = .none) (e : Daemon) :
    ∃ stdio, new.run e.daemonStdio = ((.ok stdio, e), new.happened new.process.workDir
        (if e.config.daemonize then [.stdioHandles] else [])) ∧
      stdio.isSome = e.config.daemonize := by
  unfold Daemon.daemonStdio
  cases hd : e.config.daemonize with
  | false =>
    refine ⟨none, ?_, rfl⟩
    show ((_, e), new) = ((_, e), new.happened _ ([] : List HostEvent))
    unfold happened
    rw [List.append_nil]
  | true =>
    obtain ⟨pipes, hr⟩ := handle_stdioHandles hf
    refine ⟨some pipes, ?_, rfl⟩
    show new.run (Program.request .stdioHandles >>= _) = _
    rw [run_bind, run_request, hr]
    rfl

/-- what a successor leaves in the events of its process when it has taken over -/
def settledEvents (config : DaemonConfig) (parent : Nat) : List HostEvent :=
  [.workDir config.workDir, .clearUmask, .signal .interrupt parent] ++
    if config.daemonize then [.stdioHandles] else []

/-- the last steps of a successor: one signal, and everything is registered -/
theorem run_settleIn (ho : new.Obliging e.config.workDir) (slots : List Slot)
    (files : List ExtraFile) (sockets : List Socket) :
    ∃ stdio here, new.run (e.settleIn slots files sockets) =
        ((.ok stdio,
          { e with env := restoreSlots (Daemon.unmark e.env) slots }.register files sockets),
          new.happened here (settledEvents e.config new.process.parent)) ∧
      stdio.isSome = e.config.daemonize := by
  let settled : Daemon :=
    { e with env := restoreSlots (Daemon.unmark e.env) slots }.register files sockets
  obtain ⟨here, he⟩ := handle_enterWorkDir ho
  let entered := new.happened here [.workDir e.config.workDir]
  let cleared := entered.record .clearUmask
  let signalled := cleared.record (.signal .interrupt new.process.parent)
  have hsignal : handle (.signal new.process.parent .interrupt) cleared = (.ok (), signalled) := by
    show faulty new.process.faults.signal _ _ = _
    rw [ho.faults]
    rfl
  have hf : signalled.process.faults = .none := ho.faults
  obtain ⟨stdio, hs, hi⟩ := run_daemonStdio hf settled
  refine ⟨stdio, here, ?_, hi⟩
  unfold Daemon.settleIn
  rw [run_bind, run_request, he]
  show entered.run (Program.request .clearUmask >>= _) = _
  rw [run_bind, run_request]
  show cleared.run (Program.request .parentId >>= _) = _
  rw [run_bind, run_request]
  show cleared.run (Program.request (.signal new.process.parent .interrupt) >>= _) = _
  rw [run_bind, run_request, hsignal]
  show signalled.run settled.daemonStdio = _
  rw [hs]
  show (_, ((entered.record _).record _).happened here _) = _
  rw [record_happened, record_happened, happened_happened]
  rfl

/-- **A successor takes over what it was described.** -/
theorem run_takeOver (hpool : d.pool.Sound) (hcount : d.pool.snapshot.length ≤ Numeral.max64)
    (hend : NoSlotAt d.env (firstExtra + d.files.length))
    (henv : e.env = d.seenByReload) (ho : new.Obliging e.config.workDir)
    (hi : new.process.inherited = World.numberFrom firstExtra d.handedOver) :
    ∃ stdio here, new.run e.takeOver =
        ((.ok stdio, { e with env := d.restoredByReload }.register
            (renumbered firstExtra d.files) d.pool.sockets),
          (new.withInherited []).happened here (settledEvents e.config new.process.parent)) ∧
      stdio.isSome = e.config.daemonize := by
  let slots := slotsFrom d.env firstExtra d.files
  let behindFiles := new.withInherited
    (World.numberFrom (firstExtra + d.files.length) (d.pool.sockets.map .socket))
  have hfiles : new.run (adoptSlots slots) =
      (.ok (renumbered firstExtra d.files), behindFiles) := run_adoptSlots ho.faults hi
  have hsockets : behindFiles.run (Daemon.adoptSockets (firstExtra + slots.length)
      d.pool.snapshot.length) = (.ok d.pool.sockets, behindFiles.withInherited []) := by
    rw [length_slotsFrom, ← hpool.length_sockets]
    exact run_adoptSockets ho.faults rfl
  obtain ⟨stdio, here, hs, hd⟩ := run_settleIn ((ho.withInherited _).withInherited []) slots
    (renumbered firstExtra d.files) d.pool.sockets
  refine ⟨stdio, here, ?_, hd⟩
  unfold Daemon.takeOver
  rw [henv, Daemon.listenerCount_seenByReload hcount, Daemon.readSlots_seenByReload hend]
  show new.run (adoptSlots slots >>= _) = _
  rw [run_bind_of_eq _ hfiles]
  show behindFiles.run (Daemon.adoptSockets (firstExtra + slots.length) d.pool.snapshot.length
    >>= _) = _
  rw [run_bind_of_eq _ hsockets]
  show (behindFiles.withInherited []).run (e.settleIn _ _ _) = _
  rw [hs, henv]
  rfl

theorem run_lockPidFile {path : Path} (hp : e.pidLock = none)
    (hl : new.kernel.lockFault = none) (hfree : new.kernel.fs.LockFree new.process.workDir path) :
    ∃ lock fs', new.run (e.lockPidFile path) =
        ((.ok (), { e with pidLock := some lock }), new.withFs fs') ∧
      lock.path = path ∧ lock.Held fs' new.process.pid := by
  obtain ⟨lock, fs', hr, hpath, hheld⟩ := PidLock.run_acquire hl hfree
  refine ⟨lock, fs', ?_, hpath, hheld⟩
  have hu : (new.withFs fs').run e.unlockPidFile = (e, new.withFs fs') := by
    unfold Daemon.unlockPidFile
    rw [hp]
    rfl
  unfold Daemon.lockPidFile
  rw [run_bind_of_eq _ hr]
  show (new.withFs fs').run (e.unlockPidFile >>= _) = _
  rw [run_bind_of_eq _ hu]
  rfl

theorem run_finishStart {path : Path} (hp : e.pidLock = none)
    (hl : new.kernel.lockFault = none) (hfree : new.kernel.fs.LockFree new.process.workDir path)
    (stdio : Option StdioPipes) :
    ∃ lock fs', new.run (e.finishStart path stdio) =
        ((.ok (.ready stdio), { e with pidLock := some lock }), new.withFs fs') ∧
      lock.path = path ∧ lock.Held fs' new.process.pid := by
  obtain ⟨lock, fs', hr, hpath, hheld⟩ := run_lockPidFile hp hl hfree
  refine ⟨lock, fs', ?_, hpath, hheld⟩
  unfold Daemon.finishStart
  rw [run_bind_of_eq _ hr]
  rfl

end Host

/-! ## a daemon goes on -/

/-- a daemon goes on in another process, which began as `new` and is `new'` now -/
structure Daemon.SucceededBy (d : Daemon) (old new new' : Host) (e : Daemon)
    (stdio : Option StdioPipes) : Prop where
  /-- the same sockets in the same order, and all of them open -/
  listeners : e.pool.snapshot.map e.pool.listener? =
    d.pool.snapshot.map fun id => (d.pool.listener? id).map fun l => ⟨l.socket, false⟩
  idle : ∀ id, e.pool.inFlight id = 0
  files : e.files = renumbered firstExtra d.files
  env : ∀ name, e.env.get? name = d.env.get? name
  stdio : stdio.isSome = d.config.daemonize
  /-- one signal, to the old process -/
  events : new'.process.events = [.workDir d.config.workDir, .clearUmask,
    .signal .interrupt old.process.pid] ++ if d.config.daemonize then [.stdioHandles] else []
  kills : new'.kernel.kills = new.kernel.kills
  /-- every descriptor has been taken over, each of them once -/
  inherited : new'.process.inherited = []
  pid : new'.process.pid = new.process.pid
  lock : ∃ lock, e.pidLock = some lock ∧ lock.path = d.config.pidFile ∧
    lock.Held new'.kernel.fs new.process.pid

/-- **A reload loses nothing, duplicates nothing and reorders nothing.** Whenever a reload succeeds,
the daemon goes on in the process of its launch, on any host that refuses nothing. -/
theorem reload_hands_over {old old' : Host} {d d' : Daemon} {pid : Nat} (hpool : d.pool.Sound)
    (hcount : d.pool.snapshot.length ≤ Numeral.max64)
    (hmark : d.env.get? reloadVariable = none) (hlist : d.env.get? listenersVariable = none)
    (hend : NoSlotAt d.env (firstExtra + d.files.length))
    (habs : d.config.pidFile.isAbsolute = true)
    (hreload : old.run d.reload = ((.ok pid, d'), old')) :
    ∃ plan, old'.process.launches = old.process.launches ++ [(pid, plan)] ∧
      ∀ (new : Host) (hasLogger : Bool),
        new.Begins (World.birth old.process.pid d.env pid plan) →
        new.Obliging d.config.workDir → new.kernel.lockFault = none →
        new.kernel.fs.LockFree new.process.workDir d.config.pidFile →
        ∃ stdio e new',
          new.run (Daemon.new d.config (d.env.override plan.env) hasLogger).makeDaemon =
            ((.ok (.ready stdio), e), new') ∧
          d.SucceededBy old new new' e stdio := by
  obtain ⟨plan, hlaunch, henv, hdesc⟩ := Host.run_reload hreload
  refine ⟨plan, hlaunch, ?_⟩
  intro new hasLogger hbegins ho hl hfree
  let fresh := Daemon.new d.config d.seenByReload hasLogger
  have hinherited : new.process.inherited = World.numberFrom firstExtra d.handedOver := by
    rw [hbegins.inherited]
    show World.numberFrom firstExtra plan.descriptors = _
    rw [hdesc]
  have henv' : fresh.env = d.seenByReload := rfl
  obtain ⟨stdio, here, htake, hstdio⟩ :=
    Host.run_takeOver hpool hcount hend henv' ho hinherited
  let taken := { fresh with env := d.restoredByReload }.register (renumbered firstExtra d.files)
    d.pool.sockets
  let settled := (new.withInherited []).happened here
    (Host.settledEvents d.config new.process.parent)
  have hfree' : settled.kernel.fs.LockFree here d.config.pidFile := hfree.move habs here
  have hp : taken.pidLock = none := rfl
  have hl' : settled.kernel.lockFault = none := hl
  obtain ⟨lock, fs', hfinish, hpath, hheld⟩ := Host.run_finishStart hp hl' hfree' stdio
  refine ⟨stdio, { taken with pidLock := some lock }, settled.withFs fs', ?_, ?_⟩
  · rw [henv]
    show new.run fresh.makeDaemon = _
    unfold Daemon.makeDaemon Daemon.pidFile
    rw [show fresh.config.pidFile.isAbsolute = true from habs, if_pos rfl]
    show new.run (if fresh.isReload then fresh.startFromReload d.config.pidFile else _) = _
    rw [show fresh.isReload = true from d.isReload_seenByReload, if_pos rfl]
    unfold Daemon.startFromReload
    rw [Host.run_bind_of_eq _ htake]
    exact hfinish
  · refine ⟨?_, Pool.inFlight_addAll d.pool.sockets, ?_, ?_, hstdio, ?_, rfl, rfl, rfl, lock, rfl,
      hpath, hheld⟩
    · rw [← hpool.reopened_eq]
      exact Pool.listeners_addAll d.pool.sockets
    · exact List.nil_append _
    · exact Daemon.get?_restoredByReload hmark hlist
    · show new.process.events ++ Host.settledEvents d.config new.process.parent = _
      rw [hbegins.events, hbegins.parent, List.nil_append]
      rfl

/-! ## one reload -/

namespace Reloading

/-- a detached daemon with two files, a closed listener, a hole and an open listener, in an
environment that has used the first slot for something else -/
def daemon : Daemon :=
  { Daemon.new ⟨true, .ofText "/molt.pid", .ofText "/", 10⟩
      ⟨[("MOLT_FD_3", "taken"), ("PATH", "/bin")]⟩ false with
    pool := ⟨[⟨⟨0, "127.0.0.1:80"⟩, true⟩, ⟨⟨1, "127.0.0.1:81"⟩, true⟩, ⟨⟨2, "127.0.0.1:82"⟩, false⟩],
      [⟨1, []⟩, ⟨0, []⟩, ⟨2, []⟩], [some 0, none, some 2]⟩
    files := [⟨.ofText "a", .file 4, none⟩, ⟨.ofText "b", .file 7, some 3⟩] }

/-- a machine with nothing but a PID file that a dead process left behind -/
def kernel : Kernel :=
  ⟨⟨[.directory [(Bytes.ofText "molt.pid", 1)] 0, .file (pidRecord 7)], [], [], []⟩, 0, 5000, none,
    none, [], 0, 0⟩

def predecessor : Host :=
  ⟨kernel, .initial 41 1 (.ofText "/app") [] (.ofText "/")⟩

def successor (plan : LaunchPlan) : Host :=
  ⟨kernel, { Process.initial 5000 41 (.ofText "/app") [] (.ofText "/") with
    inherited := World.numberFrom firstExtra plan.descriptors }⟩

theorem begins (plan : LaunchPlan) :
    (successor plan).Begins (World.birth predecessor.process.pid daemon.env 5000 plan) :=
  ⟨rfl, rfl, rfl, rfl⟩

theorem obliging (plan : LaunchPlan) : (successor plan).Obliging daemon.config.workDir :=
  ⟨rfl, fun h => Bool.noConfusion h⟩

theorem lockFree : kernel.fs.LockFree (.ofText "/") (.ofText "/molt.pid") := by
  have ho : kernel.fs.openFile (.ofText "/") (.ofText "/molt.pid") .recording =
      (.ok 0, { kernel.fs with descriptions := [⟨1, 0, false⟩] }) := by cbv
  exact ⟨0, _, ⟨1, 0, false⟩, pidRecord 7, ho, rfl, rfl, rfl⟩

theorem sound : daemon.pool.Sound := by
  show ∀ id ∈ ([0, 2] : List Nat), id < 3
  decide

end Reloading

theorem reload_hands_over_daemon :
    Reloading.daemon.pool.Sound ∧
    Reloading.daemon.pool.snapshot.length ≤ Numeral.max64 ∧
    Reloading.daemon.env.get? reloadVariable = none ∧
    Reloading.daemon.env.get? listenersVariable = none ∧
    NoSlotAt Reloading.daemon.env 5 ∧
    Reloading.daemon.config.pidFile.isAbsolute = true ∧
    (Reloading.predecessor.run Reloading.daemon.reload).1.1 = .ok 5000 ∧
    ∃ plan, (Reloading.predecessor.run Reloading.daemon.reload).2.process.launches =
        [] ++ [(5000, plan)] ∧
      ∃ stdio e new',
        (Reloading.successor plan).run (Daemon.new Reloading.daemon.config
            (Reloading.daemon.env.override plan.env) false).makeDaemon =
          ((.ok (.ready stdio), e), new') ∧
        Reloading.daemon.SucceededBy Reloading.predecessor (Reloading.successor plan) new' e
          stdio := by
  have hcount : Reloading.daemon.pool.snapshot.length ≤ Numeral.max64 := by decide
  have hmark : Reloading.daemon.env.get? reloadVariable = none := by decide
  have hlist : Reloading.daemon.env.get? listenersVariable = none := by decide
  have hend : NoSlotAt Reloading.daemon.env 5 := by
    decide
  have habs : Reloading.daemon.config.pidFile.isAbsolute = true := by decide
  have hreload : (Reloading.predecessor.run Reloading.daemon.reload).1.1 = .ok 5000 := rfl
  refine ⟨Reloading.sound, hcount, hmark, hlist, hend, habs, hreload, ?_⟩
  obtain ⟨plan, hplan, hands⟩ := reload_hands_over Reloading.sound hcount hmark hlist hend habs
    (show Reloading.predecessor.run Reloading.daemon.reload = ((.ok 5000, _), _) from rfl)
  exact ⟨plan, hplan, hands (Reloading.successor plan) false (Reloading.begins plan)
    (Reloading.obliging plan) rfl Reloading.lockFree⟩

end Succession
