import Succession.Proofs.Handoff.Inheritance
import Succession.Proofs.Listener.Pool
import Succession.Proofs.PidFile.Release

/-!
# Reloading on every path

A reload fails before it has changed anything, or it gives up the PID lock and then launches, once.
The daemon itself stays as it is; the successor gets duplicates of its files and sockets in order,
and the variables that describe them.

* `Daemon.Equips d xs plan`     what is launched;
* `Daemon.Stays`, `Daemon.Leaves`   the two ways that a reload may go;
* `Daemon.reload_took`          a reload, on any host and among any other processes.
-/

namespace Succession

open Program

theorem slotNames_slotsFrom (env : Environment) (index : Int) (files : List ExtraFile) :
    slotNames (slotsFrom env index files) =
      (numbersFrom index files.length).map descriptorVariable := by
  induction files generalizing index with
  | nil => rfl
  | cons file rest ih =>
    rw [List.length_cons, numbersFrom_succ, List.map_cons, ← ih]
    rfl

theorem All.quiet {xs : List Exchange} (h : All .duplicate xs) : ∀ x ∈ xs, x.question.Quiet := by
  intro x hx
  have hkind := h x hx
  obtain ⟨q, r⟩ := x
  cases q with
  | duplicate resource => trivial
  | _ => cases hkind

namespace Daemon

variable {d d' : Daemon} {xs : List Exchange} {result : Except ReloadError Nat}

/-! ## what is launched -/

/-- duplicates of the files in their order, and of the sockets in the order of their slots, with the
variables that describe them -/
structure Equips (d : Daemon) (xs : List Exchange) (plan : LaunchPlan) : Prop where
  originals : (copied xs).map (fun copy => some copy.1) =
    d.files.map (fun file => some file.resource) ++
      d.pool.snapshot.map fun id => (d.pool.listener? id).map fun l => .socket l.socket
  duplicates : plan.descriptors = (copied xs).map (·.2)
  number : plan.descriptors.length = d.files.length + d.pool.snapshot.length
  /-- these variables are changed, and no others -/
  names : plan.env.map (·.1) = reloadVariable :: listenersVariable ::
    (numbersFrom firstExtra d.files.length).map descriptorVariable
  distinct : (plan.env.map (·.1)).Nodup
  mark : (reloadVariable, some reloadMark) ∈ plan.env
  count : (listenersVariable, some (toString d.pool.snapshot.length)) ∈ plan.env
  slots : ∀ i file, d.files[i]? = some file → ∃ raw,
    (descriptorVariable (firstExtra + (i : Nat)), some raw) ∈ plan.env ∧
      Slot.decode? (firstExtra + (i : Nat)) raw = some ⟨firstExtra + (i : Nat), file.name,
        d.env.get? (descriptorVariable (firstExtra + (i : Nat)))⟩

theorem names_reloadChanges (d : Daemon) : d.reloadChanges.map (·.1) = reloadVariable ::
    listenersVariable :: (numbersFrom firstExtra d.files.length).map descriptorVariable := by
  unfold reloadChanges slotChanges
  rw [List.map_cons, List.map_cons, keys_slotChangesFrom, slotNames_slotsFrom]

theorem nodup_reloadChanges (d : Daemon) : (d.reloadChanges.map (·.1)).Nodup := by
  have hslots : (slotNames (slotsFrom d.env firstExtra d.files)).Nodup :=
    slotNames_nodup d.env (by decide) d.files
  rw [names_reloadChanges, ← slotNames_slotsFrom d.env]
  refine List.nodup_cons.mpr ⟨fun hm => ?_, List.nodup_cons.mpr ⟨?_, hslots⟩⟩
  · obtain he | hm := List.mem_cons.mp hm
    · exact absurd he (by decide)
    · exact not_mem_slotNames _ (by decide) hm
  · exact not_mem_slotNames _ (by decide)

theorem exists_slotChange {i : Nat} {file : ExtraFile} (hi : d.files[i]? = some file) : ∃ raw,
    (descriptorVariable (firstExtra + i), some raw) ∈ slotChanges d.env d.files ∧
      Slot.decode? (firstExtra + i) raw = some ⟨firstExtra + i, file.name,
        d.env.get? (descriptorVariable (firstExtra + i))⟩ := by
  let slot : Slot :=
    ⟨firstExtra + i, file.name, d.env.get? (descriptorVariable (firstExtra + i))⟩
  refine ⟨slot.encode, ?_, slot.decode?_encode⟩
  unfold slotChanges
  rw [slotChangesFrom_eq, slotsFrom_eq_mapIdx]
  refine List.mem_map.mpr ⟨slot, List.mem_iff_getElem?.mpr ⟨i, ?_⟩, rfl⟩
  rw [List.getElem?_mapIdx, hi]
  rfl

/-- duplicates of everything that is handed over, with the changes of a reload -/
theorem equips_of_copied {plan : LaunchPlan} (hpool : d.pool.Sound)
    (henv : plan.env = d.reloadChanges) (horiginals : (copied xs).map (·.1) = d.handedOver)
    (hduplicates : (copied xs).map (·.2) = plan.descriptors) : d.Equips xs plan := by
  refine ⟨?_, hduplicates.symm, ?_, ?_, ?_, ?_, ?_, fun i file hi => ?_⟩
  · have hsome := congrArg (List.map some) horiginals
    unfold handedOver at hsome
    rw [List.map_map, List.map_append, List.map_map, List.map_map] at hsome
    refine hsome.trans (congrArg (_ ++ ·) ?_)
    have hsockets := congrArg (List.map (Option.map Resource.socket)) hpool.sockets_eq
    rw [List.map_map, List.map_map] at hsockets
    refine hsockets.trans (List.map_congr_left fun id _ => ?_)
    exact Option.map_map ..
  · have hlength := congrArg List.length horiginals
    unfold handedOver at hlength
    rw [List.length_map, List.length_append, List.length_map, List.length_map,
      hpool.length_sockets] at hlength
    rw [← hduplicates, List.length_map, hlength]
  · rw [henv, names_reloadChanges]
  · rw [henv]
    exact d.nodup_reloadChanges
  · rw [henv]
    exact List.mem_cons_self
  · rw [henv]
    exact List.mem_cons_of_mem _ List.mem_cons_self
  · obtain ⟨raw, hmem, hdecode⟩ := exists_slotChange hi
    rw [henv]
    exact ⟨raw, List.mem_cons_of_mem _ (List.mem_cons_of_mem _ hmem), hdecode⟩

/-! ## the two ways of a reload -/

def relaunched : Except IoError Launched → Except ReloadError Nat
  | .ok launched => .ok launched.pid
  | .error source => .error (.launch source)

/-- nothing is launched, and a lock that is held stays held -/
structure Stays (d d' : Daemon) (xs : List Exchange) (result : Except ReloadError Nat) : Prop where
  failed : ∃ source, result = .error (.executable source) ∨ result = .error (.duplicate source)
  launches : launches xs = []
  same : d' = d
  lock : ∀ lock, d.pidLock = some lock → KeepsLock lock.handle xs

/-- the last thing that is asked for is the launch, and by then the lock has been given up -/
structure Leaves (d d' : Daemon) (xs : List Exchange) (result : Except ReloadError Nat) :
    Prop where
  launches : ∃ before plan r, xs = before ++ [⟨.launch plan, r⟩] ∧ launches xs = [(plan, r)] ∧
    result = relaunched r ∧ d.Equips xs plan ∧
      ∀ lock, d.pidLock = some lock → GivesUp lock.handle before
  same : d' = { d with pidLock := none }
  lock : ∀ lock, d.pidLock = some lock → GivesUp lock.handle xs

def unlocking (d : Daemon) : List Exchange :=
  match d.pidLock with
  | none => []
  | some lock => [⟨.unlock lock.handle, ()⟩, ⟨.close lock.handle, ()⟩]

theorem mem_unlocking {x : Exchange} (hx : x ∈ d.unlocking) :
    ∃ k, x.question = .unlock k ∨ x.question = .close k := by
  unfold unlocking at hx
  split at hx
  · cases hx
  · obtain rfl | hx := List.mem_cons.mp hx
    · exact ⟨_, .inl rfl⟩
    · rw [List.mem_singleton.mp hx]
      exact ⟨_, .inr rfl⟩

theorem kind_unlocking (d : Daemon) : All .other d.unlocking := by
  intro x hx
  obtain ⟨k, he | he⟩ := mem_unlocking hx
  · rw [he]
    rfl
  · rw [he]
    rfl

theorem unlockPidFile_took (h : d.unlockPidFile.Takes xs d') :
    d' = { d with pidLock := none } ∧ xs = d.unlocking := by
  unfold unlockPidFile at h
  unfold unlocking
  cases hlock : d.pidLock with
  | none =>
    rw [hlock] at h
    obtain ⟨rfl, rfl⟩ := h.done_inv
    refine ⟨?_, rfl⟩
    rw [← hlock]
  | some lock =>
    rw [hlock] at h
    obtain ⟨⟨⟩, ys, rfl, hclose⟩ := h.ask_inv
    obtain ⟨⟨⟩, zs, rfl, hdone⟩ := hclose.ask_inv
    obtain ⟨rfl, rfl⟩ := hdone.done_inv
    exact ⟨rfl, rfl⟩

/-- the executable and the copies, the lock, the arguments, and then the launch -/
def leaving (d : Daemon) (executable : Path) (ds : List Exchange) (arguments : List Bytes)
    (plan : LaunchPlan) (r : Except IoError Launched) : List Exchange :=
  (⟨.executable, .ok executable⟩ :: ds) ++ d.unlocking ++ [⟨.arguments, arguments⟩] ++
    [⟨.launch plan, r⟩]

section
variable {executable : Path} {ds : List Exchange} {arguments : List Bytes} {plan : LaunchPlan}
  {r : Except IoError Launched}

theorem copied_leaving : copied (d.leaving executable ds arguments plan r) = copied ds := by
  unfold leaving
  rw [copied_append, copied_append, copied_append,
    copied_eq_nil (d.kind_unlocking.ne (by decide))]
  show copied ds ++ [] ++ [] ++ [] = _
  rw [List.append_nil, List.append_nil, List.append_nil]

theorem launches_leaving (hds : All .duplicate ds) :
    launches (d.leaving executable ds arguments plan r) = [(plan, r)] := by
  unfold leaving
  rw [launches_append, launches_append, launches_append,
    launches_eq_nil (d.kind_unlocking.ne (by decide))]
  show launches ds ++ [] ++ [] ++ [(plan, r)] = _
  rw [launches_eq_nil (hds.ne (by decide))]
  rfl

theorem unwritten_leaving (hds : All .duplicate ds) :
    Unwritten (d.leaving executable ds arguments plan r) := by
  refine unwritten_of_quiet fun x hx => ?_
  unfold leaving at hx
  simp only [List.mem_append, List.mem_cons, List.not_mem_nil, or_false] at hx
  obtain (((rfl | hx) | hx) | rfl) | rfl := hx
  · exact .inl trivial
  · exact .inl (hds.quiet x hx)
  · exact .inr (mem_unlocking hx)
  · exact .inl trivial
  · exact .inl trivial

theorem leaves_leaving (hpool : d.pool.Sound) (hds : All .duplicate ds)
    (henv : plan.env = d.reloadChanges) (horiginals : (copied ds).map (·.1) = d.handedOver)
    (hduplicates : (copied ds).map (·.2) = plan.descriptors) :
    d.Leaves { d with pidLock := none } (d.leaving executable ds arguments plan r)
      (relaunched r) := by
  have hfirst : ∀ x ∈ (⟨.executable, .ok executable⟩ :: ds : List Exchange), x.question.Quiet :=
    List.forall_mem_cons.mpr ⟨trivial, hds.quiet⟩
  have hbefore : ∀ lock, d.pidLock = some lock → GivesUp lock.handle
      ((⟨.executable, .ok executable⟩ :: ds) ++ d.unlocking ++ [⟨.arguments, arguments⟩]) := by
    intro lock hlock
    unfold unlocking
    rw [hlock]
    exact (givesUp_released hfirst).append (List.forall_mem_singleton.mpr trivial)
  have hequips : d.Equips (d.leaving executable ds arguments plan r) plan := by
    refine equips_of_copied hpool henv ?_ ?_
    · rw [copied_leaving, horiginals]
    · rw [copied_leaving, hduplicates]
  refine ⟨⟨_, plan, r, rfl, launches_leaving hds, rfl, hequips, hbefore⟩, rfl, fun lock hlock => ?_⟩
  exact (hbefore lock hlock).append (List.forall_mem_singleton.mpr trivial)

end

/-- the executable or the copies are missing, and nothing else has been asked for; or it comes to
the launch -/
theorem reload_cases (h : d.reload.Takes xs (result, d')) :
    ((∃ source, result = .error (.executable source) ∨ result = .error (.duplicate source)) ∧
      launches xs = [] ∧ d' = d ∧ ∀ x ∈ xs, x.question.Quiet) ∨
    ∃ executable ds arguments plan r, xs = d.leaving executable ds arguments plan r ∧
      All .duplicate ds ∧ plan.env = d.reloadChanges ∧ (copied ds).map (·.1) = d.handedOver ∧
      (copied ds).map (·.2) = plan.descriptors ∧ result = relaunched r ∧
      d' = { d with pidLock := none } := by
  unfold reload at h
  obtain ⟨found, ys, rfl, hfound⟩ := h.ask_inv
  cases found with
  | error source =>
    obtain ⟨rfl, hr⟩ := hfound.done_inv
    cases hr
    exact .inl ⟨⟨source, .inl rfl⟩, rfl, rfl, List.forall_mem_singleton.mpr trivial⟩
  | ok executable =>
    obtain ⟨ds, rest, copies, rfl, hcopies, hcopied⟩ := hfound.bind_inv
    obtain ⟨hds, hall⟩ := duplicateAll_took hcopies
    cases copies with
    | error source =>
      obtain ⟨rfl, hr⟩ := hcopied.done_inv
      cases hr
      rw [List.append_nil]
      refine .inl ⟨⟨source, .inr rfl⟩, ?_, rfl, List.forall_mem_cons.mpr ⟨trivial, hds.quiet⟩⟩
      exact launches_eq_nil (List.forall_mem_cons.mpr ⟨nofun, hds.ne (by decide)⟩)
    | ok copies =>
      obtain ⟨horiginals, hduplicates⟩ := hall copies rfl
      obtain ⟨us, zs, unlocked, rfl, hunlock, hunlocked⟩ := hcopied.bind_inv
      obtain ⟨rfl, rfl⟩ := unlockPidFile_took hunlock
      obtain ⟨arguments, ws, rfl, harguments⟩ := hunlocked.ask_inv
      obtain ⟨r, vs, rfl, hlast⟩ := harguments.ask_inv
      have hlast : vs = [] ∧ (result, d') = (relaunched r, { d with pidLock := none }) := by
        cases r <;> exact hlast.done_inv
      obtain ⟨rfl, hr⟩ := hlast
      cases hr
      let plan : LaunchPlan :=
        ⟨executable, arguments, d.reloadChanges, .inherit, .inherit, .inherit, copies, false⟩
      refine .inr ⟨executable, ds, arguments, plan, r, ?_, hds, rfl, horiginals, hduplicates, rfl,
        rfl⟩
      unfold leaving
      rw [List.append_assoc, List.append_assoc]
      rfl

/-- **A reload changes nothing, or it gives up the lock and launches**, whatever the host refuses,
and whatever other processes do in between. -/
theorem reload_took (hpool : d.pool.Sound) (h : d.reload.Takes xs (result, d')) :
    d' = { d with pidLock := d'.pidLock } ∧ (launches xs).length ≤ 1 ∧ Unwritten xs ∧
      (d.Stays d' xs result ∨ d.Leaves d' xs result) := by
  obtain ⟨hfailed, hnone, rfl, hq⟩ |
    ⟨executable, ds, arguments, plan, r, rfl, hds, henv, horiginals, hduplicates, rfl, rfl⟩ :=
    reload_cases h
  · refine ⟨rfl, ?_, unwritten_of_quiet fun x hx => .inl (hq x hx),
      .inl ⟨hfailed, hnone, rfl, fun _ _ => keepsLock_of_quiet hq⟩⟩
    rw [hnone]
    exact Nat.zero_le 1
  · refine ⟨rfl, ?_, unwritten_leaving hds,
      .inr (leaves_leaving hpool hds henv horiginals hduplicates)⟩
    rw [launches_leaving hds]
    exact Nat.le_refl 1

/-! ## a launch that is refused -/

namespace Relaunching

/-- a running daemon with a file, a hole and a listener, which has its PID file open -/
def daemon : Daemon :=
  { Daemon.new ⟨true, .ofText "/molt.pid", .ofText "/", 10⟩ ⟨[("MOLT_FD_3", "taken")]⟩ false with
    pool := ⟨[⟨⟨0, "127.0.0.1:80"⟩, false⟩], [⟨0, []⟩], [none, some 0]⟩
    files := [⟨.ofText "a", .file 4, none⟩]
    pidLock := some ⟨.ofText "/molt.pid", 0⟩ }

/-- its machine, where no process can be started any more -/
def host : Host :=
  ⟨⟨⟨[.directory [(Bytes.ofText "molt.pid", 1)] 0, .file (pidRecord 41)], [⟨1, 3, false⟩],
      [(1, 0)], []⟩, 0, 5000, none, none, [], 0, 0⟩,
    { Process.initial 41 1 (.ofText "/app") [] (.ofText "/") with
      faults := { Faults.none with launch := some .wouldBlock } }⟩

theorem sound : daemon.pool.Sound := by
  show ∀ id ∈ ([0] : List Nat), id < 1
  decide

end Relaunching

theorem reload_took_refused : ∃ xs, Relaunching.daemon.pool.Sound ∧
    Relaunching.daemon.reload.Takes xs (.error (.launch (.os .wouldBlock)),
      { Relaunching.daemon with pidLock := none }) ∧
    (∃ plan r, launches xs = [(plan, r)] ∧ Relaunching.daemon.Equips xs plan) ∧
    Relaunching.host.kernel.fs.holder? 1 = some 0 ∧
    (Relaunching.host.run Relaunching.daemon.reload).2.kernel.fs.holder? 1 = none := by
  obtain ⟨xs, htook, hanswers⟩ :=
    takes_run Host.handle Relaunching.daemon.reload Relaunching.host
  have hrun : (Relaunching.daemon.reload.run Host.handle Relaunching.host).1 =
      (.error (.launch (.os .wouldBlock)), { Relaunching.daemon with pidLock := none }) := rfl
  rw [hrun] at htook
  refine ⟨xs, Relaunching.sound, htook, ?_⟩
  obtain ⟨-, -, -, hstays | hleaves⟩ := reload_took Relaunching.sound htook
  · obtain ⟨source, hr | hr⟩ := hstays.failed
    · cases hr
    · cases hr
  · obtain ⟨before, plan, r, -, hlaunches, -, hequips, -⟩ := hleaves.launches
    refine ⟨⟨plan, r, hlaunches, hequips⟩, rfl, ?_⟩
    have hone : Relaunching.host.kernel.fs.Exclusive := List.nodup_singleton 1
    have hfreed := hleaves.lock _ rfl (fun _ _ => False) _ _ 1 hone (fun _ _ => False.elim)
      (amid_of_answers hanswers) rfl
    exact hfreed.2 fun _ _ => False.elim

end Daemon
end Succession
