import Succession.Proofs.Handoff.Reload
import Succession.Proofs.PidFile.Acquire
import Succession.Proofs.PidFile.Member

/-!
# A single instance

However the questions of the processes around a PID file come, every process stays sound. So there is
one PID lock at a time, and while it lasts the file holds the record of the process that has it.

* `Fleet.Sound path s`      every process is sound, with descriptions of its own;
* `Fleet.Step.sound`        one step keeps it;
* `Fleet.Reaches.single`    what holds after any number of steps.
-/

namespace Succession

open FileSystem Program

variable {path : Path} {fs fs' : FileSystem} {mine : Handle → Prop} {m : Member}

/-! ## all processes -/

namespace Fleet

structure Sound (path : Path) (s : Fleet) : Prop where
  members : ∀ i m, s.members i = some m → m.Sound path s.kernel.fs
  opened : ∀ i, ∀ h ∈ s.openedOf i, h < s.kernel.fs.descriptions.length
  disjoint : ∀ i j, ∀ h ∈ s.openedOf i, h ∈ s.openedOf j → i = j

variable {s s' : Fleet} {i : Nat} {kernel : Kernel} {member : Option Member}

theorem openedOf_eq (hm : s.members i = some m) : s.openedOf i = m.opened := by
  unfold openedOf
  rw [hm]
  rfl

theorem members_set_self : (s.set kernel i member).members i = member :=
  Function.update_self ..

theorem members_set_of_ne {j : Nat} (hne : j ≠ i) :
    (s.set kernel i member).members j = s.members j := Function.update_of_ne hne ..

theorem openedOf_set_of_ne {j : Nat} (hne : j ≠ i) :
    (s.set kernel i member).openedOf j = s.openedOf j := by
  unfold openedOf
  rw [members_set_of_ne hne]

/-- what a change of one process must keep, for all of them to be sound -/
theorem Sound.set (hs : s.Sound path)
    (hmember : ∀ m, member = some m → m.Sound path kernel.fs ∧
      ∀ h ∈ m.opened, h < kernel.fs.descriptions.length ∧
        (h ∈ s.openedOf i ∨ s.kernel.fs.descriptions.length ≤ h))
    (hspares : Spares (fun h => h < s.kernel.fs.descriptions.length ∧ h ∉ s.openedOf i) path
      s.kernel.fs kernel.fs) : (s.set kernel i member).Sound path := by
  have hnew : ∀ h ∈ (s.set kernel i member).openedOf i, h < kernel.fs.descriptions.length ∧
      (h ∈ s.openedOf i ∨ s.kernel.fs.descriptions.length ≤ h) := by
    intro h hh
    unfold openedOf at hh
    rw [members_set_self] at hh
    cases member with
    | none => cases hh
    | some m => exact (hmember m rfl).2 h hh
  have hapart : ∀ j, j ≠ i → ∀ h ∈ s.openedOf j, h ∉ (s.set kernel i member).openedOf i := by
    intro j hne h hh hh'
    obtain ⟨-, hold | hge⟩ := hnew h hh'
    · exact hne (hs.disjoint j i h hh hold)
    · exact absurd (hs.opened j h hh) (Nat.not_lt.mpr hge)
  refine ⟨fun j m hm => ?_, fun j h hh => ?_, fun j k h hj hk => ?_⟩
  · by_cases hne : j = i
    · subst hne
      rw [members_set_self] at hm
      exact (hmember m hm).1
    · rw [members_set_of_ne hne] at hm
      refine (hs.members j m hm).spared hspares fun h hh => ?_
      rw [← openedOf_eq hm] at hh
      exact ⟨hs.opened j h hh, fun hh' => hne (hs.disjoint j i h hh hh')⟩
  · by_cases hne : j = i
    · subst hne
      exact (hnew h hh).1
    · rw [openedOf_set_of_ne hne] at hh
      exact Nat.lt_of_lt_of_le (hs.opened j h hh) hspares.grows
  · by_cases hji : j = i
    · by_cases hki : k = i
      · rw [hji, hki]
      · rw [openedOf_set_of_ne hki] at hk
        exact absurd (hji ▸ hj) (hapart k hki h hk)
    · rw [openedOf_set_of_ne hji] at hj
      by_cases hki : k = i
      · exact absurd (hki ▸ hk) (hapart j hji h hj)
      · rw [openedOf_set_of_ne hki] at hk
        exact hs.disjoint j k h hj hk

theorem Sound.set_idle (hs : s.Sound path) {m' : Member} (hm : s.members i = some m)
    (hopened : m'.opened = m.opened) (hsound : m'.Sound path s.kernel.fs) :
    (s.set s.kernel i (some m')).Sound path := by
  refine hs.set (fun m'' hm' => ?_) (spares_refl _ path _)
  obtain rfl := Option.some.inj hm'
  refine ⟨hsound, fun h hh => ?_⟩
  rw [hopened, ← openedOf_eq hm] at hh
  exact ⟨hs.opened i h hh, .inl hh⟩

theorem spares_closeAll {opened : List Handle} (path : Path) (fs : FileSystem)
    (hmine : ∀ h ∈ opened, ¬ mine h) : Spares mine path fs (closeAll fs opened) := by
  induction opened generalizing fs with
  | nil => exact spares_refl mine path fs
  | cons h opened ih =>
    have hh : Spares mine path fs (fs.unlock h) := spares_unlock fs (hmine h List.mem_cons_self)
    exact hh.trans (ih _ fun k hk => hmine k (List.mem_cons_of_mem _ hk))

/-- **One step keeps every process where it stands.** -/
theorem Step.sound (ha : path.isAbsolute = true) (h : Step path s s') (hs : s.Sound path) :
    s'.Sound path := by
  cases h with
  | join i process config env hasLogger hfree =>
    refine hs.set (fun m hm => ?_) (spares_refl _ path _)
    obtain rfl := Option.some.inj hm
    exact ⟨Member.sound_new path _ process config env hasLogger, nofun⟩
  | @adjust i m process d hm hidle hpid hlock =>
    refine hs.set_idle hm rfl ?_
    obtain ⟨st, hst⟩ := hs.members i m hm
    have hstands := hst.stands
    unfold Member.Stands at hstands
    rw [hidle] at hstands
    refine ⟨st, ?_, ?_, hst.owns⟩
    · unfold Member.Stands
      dsimp only
      rw [hidle]
      exact ⟨hstands.1.trans (Daemon.stance_eq hlock), hstands.2.trans hlock.symm⟩
    · show st.Backed process.pid path s.kernel.fs
      rw [hpid]
      exact hst.backed
  | @begin i m work hm hidle hpath =>
    refine hs.set_idle hm rfl ?_
    obtain ⟨st, hst⟩ := hs.members i m hm
    have hstands := hst.stands
    unfold Member.Stands at hstands
    rw [hidle] at hstands
    obtain ⟨rfl, hlock⟩ := hstands
    refine ⟨_, ⟨work.resolves_program m.process.pid hpath, fun lock hl => ?_⟩, hst.backed, hst.owns⟩
    show m.daemon.pidLock.map _ = _
    rw [← hlock, show m.lock = some lock from hl]
    rfl
  | @call i m q next hm hrun r host h0 =>
    have hmine : ∀ h ∈ m.opened, ¬ (h < s.kernel.fs.descriptions.length ∧ h ∉ s.openedOf i) := by
      rw [openedOf_eq hm]
      exact fun h hh hh' => hh'.2 hh
    obtain ⟨hsound, hspares⟩ :=
      (hs.members i m hm).answered ha hrun h0 (fun h hh => hh.1) hmine
    refine hs.set (fun m' hm' => ?_) hspares
    obtain rfl := Option.some.inj hm'
    refine ⟨hsound, fun h hh => ?_⟩
    have hopen : ∀ h ∈ m.opened, h < s.kernel.fs.descriptions.length := by
      rw [← openedOf_eq hm]
      exact hs.opened i
    rw [openedOf_eq hm]
    exact mem_openedBy h0 hopen hspares.grows h hh
  | @finish i m result d hm hrun hstays =>
    refine hs.set_idle hm rfl ?_
    obtain ⟨st, hst⟩ := hs.members i m hm
    exact ⟨st, ⟨(hst.done hrun).1, rfl⟩, hst.backed, hst.owns⟩
  | @exit i m hm =>
    have hmine : ∀ h ∈ m.opened, ¬ (h < s.kernel.fs.descriptions.length ∧ h ∉ s.openedOf i) := by
      rw [openedOf_eq hm]
      exact fun h hh hh' => hh'.2 hh
    have hspares := spares_closeAll path s.kernel.fs hmine
    exact hs.set (fun m' hm' => nomatch hm') hspares
  | elsewhere kernel h =>
    refine ⟨fun i m hm => ?_, fun i k hk => Nat.lt_of_lt_of_le (hs.opened i k hk) h.grows,
      hs.disjoint⟩
    replace hm : s.members i = some m := hm
    refine (hs.members i m hm).spared h fun k hk => ⟨i, ?_⟩
    rw [openedOf_eq hm]
    exact hk

theorem Reaches.sound (ha : path.isAbsolute = true) (h : Reaches path s s')
    (hs : s.Sound path) : s'.Sound path := by
  induction h with
  | refl => exact hs
  | tail _ hstep ih => exact hstep.sound ha ih

theorem sound_of_vacant (h : ∀ i, s.members i = none) : s.Sound path := by
  have hopened (i : Nat) : s.openedOf i = [] := by
    unfold openedOf
    rw [h i]
    rfl
  refine ⟨fun i m hm => ?_, fun i k hk => ?_, fun i j k hk => ?_⟩
  · rw [h i] at hm
    cases hm
  · rw [hopened i] at hk
    cases hk
  · rw [hopened i] at hk
    cases hk

/-! ## the one that has the lock -/

theorem content?_eq {id : NodeId} {content : Bytes} (hl : LeadsTo fs path id)
    (hn : fs.node? id = some (.file content)) (workDir : Path) :
    fs.content? workDir path = some content := by
  unfold content?
  rw [show fs.lookup workDir path .target = .ok (.node id) from hl workDir]
  dsimp only
  rw [hn]

/-- a lock that a process had when it began what it runs is still there when that is done -/
theorem lock?_of_lock {st : Stance} {p : Program (Result × Daemon)} {lock : PidLock}
    (h : m.SoundIn path fs st) (hrun : m.running = some p) (hlock : m.lock = some lock) :
    ∃ lock', m.lock? = some lock' ∧ lock'.handle = lock.handle := by
  have hs := h.stands
  unfold Member.Stands at hs
  rw [hrun] at hs
  have hk := hs.2 lock hlock
  unfold Member.lock?
  rw [hrun]
  cases p with
  | done o =>
    obtain ⟨result, d⟩ := o
    obtain ⟨rfl, -⟩ := h.done hrun
    exact Option.map_eq_some_iff.mp hk
  | ask q next => exact ⟨lock, hlock, rfl⟩

/-- what becomes of a lock in one step: the process ends, or is at giving it up, or has it still -/
def Lasts (s' : Fleet) (i : Nat) (m : Member) (lock : PidLock) : Prop :=
  s'.members i = none ∨ (∃ next, m.running = some (.ask (.unlock lock.handle) next)) ∨
    ∃ m' lock', s'.members i = some m' ∧ m'.lock? = some lock' ∧ lock'.handle = lock.handle

theorem Step.lasts {lock : PidLock} (h : Step path s s') (hs' : s'.Sound path)
    (hm : s.members i = some m) (hlock : m.lock? = some lock) : Lasts s' i m lock := by
  have hother {j : Nat} {kernel : Kernel} {member : Option Member} (hne : i ≠ j) :
      Lasts (s.set kernel j member) i m lock :=
    .inr (.inr ⟨m, lock, (members_set_of_ne hne).trans hm, hlock, rfl⟩)
  cases h with
  | @join j process config env hasLogger hfree =>
    refine hother ?_
    rintro rfl
    rw [hm] at hfree
    cases hfree
  | @adjust j m' process d hm' hidle hpid hsame =>
    by_cases hne : i = j
    · subst hne
      obtain rfl := Option.some.inj (hm.symm.trans hm')
      exact .inr (.inr ⟨_, lock, members_set_self, hlock, rfl⟩)
    · exact hother hne
  | @begin j m' work hm' hidle hpath =>
    by_cases hne : i = j
    · subst hne
      obtain rfl := Option.some.inj (hm.symm.trans hm')
      obtain ⟨st, hst⟩ := hs'.members i _ members_set_self
      unfold Member.lock? at hlock
      rw [hidle] at hlock
      obtain ⟨lock', hlock', he⟩ := lock?_of_lock hst rfl hlock
      exact .inr (.inr ⟨_, lock', members_set_self, hlock', he⟩)
    · exact hother hne
  | @call j m' q next hm' hrun r host h0 =>
    by_cases hne : i = j
    · subst hne
      obtain rfl := Option.some.inj (hm.symm.trans hm')
      unfold Member.lock? at hlock
      rw [hrun] at hlock
      by_cases hq : q = .unlock lock.handle
      · subst hq
        exact .inr (.inl ⟨next, hrun⟩)
      · have hkept : Member.lockAfter m.lock q = some lock := by
          cases q with
          | unlock h =>
            have hne : lock.handle ≠ h := fun e => hq (e ▸ rfl)
            refine Option.filter_eq_some_iff.mpr ⟨hlock, ?_⟩
            exact decide_eq_true hne
          | _ => exact hlock
        obtain ⟨st, hst⟩ := hs'.members i _ members_set_self
        obtain ⟨lock', hlock', he⟩ := lock?_of_lock hst rfl hkept
        exact .inr (.inr ⟨_, lock', members_set_self, hlock', he⟩)
    · exact hother hne
  | @finish j m' result d hm' hrun hstays =>
    by_cases hne : i = j
    · subst hne
      obtain rfl := Option.some.inj (hm.symm.trans hm')
      unfold Member.lock? at hlock
      rw [hrun] at hlock
      exact .inr (.inr ⟨_, lock, members_set_self, hlock, rfl⟩)
    · exact hother hne
  | @exit j m' hm' =>
    by_cases hne : i = j
    · subst hne
      exact .inl members_set_self
    · exact hother hne
  | elsewhere kernel h => exact .inr (.inr ⟨m, lock, hm, hlock, rfl⟩)

theorem set_self (hm : s.members i = some m) : s.set s.kernel i (some m) = s := by
  unfold set
  rw [← hm, Function.update_eq_self]

theorem set_set {kernel' : Kernel} {member' : Option Member} :
    (s.set kernel i member).set kernel' i member' = s.set kernel' i member' := by
  unfold set
  rw [Function.update_idem]

/-- a process joins, and begins with a piece of work -/
theorem reaches_begun {process : Process} {config : DaemonConfig} {env : Environment}
    {hasLogger : Bool} (work : Work) (hfree : s.members i = none)
    (hpath : work.Configured → process.workDir.join config.pidFile = path) :
    Reaches path s (s.set s.kernel i (some { Member.new process (.new config env hasLogger) with
      running := some (work.program path (.new config env hasLogger)) })) := by
  let idle : Member := .new process (.new config env hasLogger)
  have hjoin : Step path s (s.set s.kernel i (some idle)) := .join i _ _ _ _ hfree
  have hidle : (s.set s.kernel i (some idle)).members i = some idle := members_set_self
  have hbegin : Step path _ _ := .begin work hidle rfl hpath
  rw [set_set] at hbegin
  exact .head hjoin (Relation.ReflTransGen.single hbegin)

/-- a process that nobody disturbs runs its program to the end, question by question -/
theorem reaches_run {p : Program (Result × Daemon)} (path : Path) (hm : s.members i = some m)
    (hrun : m.running = some p) :
    ∃ m', Reaches path s (s.set ((Host.mk s.kernel m.process).run p).2.kernel i (some m')) ∧
      m'.running = some (.done ((Host.mk s.kernel m.process).run p).1) ∧
      m'.process = ((Host.mk s.kernel m.process).run p).2.process := by
  induction p generalizing s m with
  | done o =>
    refine ⟨m, ?_, hrun, rfl⟩
    show Reaches path s (s.set s.kernel i (some m))
    rw [set_self hm]
  | ask q next ih =>
    let answer := Host.handle q ⟨s.kernel, m.process⟩
    let m₁ := m.answered q next answer.1 answer.2.process
    obtain ⟨m', hreach, hdone⟩ := ih answer.1 (s := s.set answer.2.kernel i (some m₁)) (m := m₁)
      members_set_self rfl
    refine ⟨m', .head (.call hm hrun rfl) ?_, hdone⟩
    rw [set_set] at hreach
    exact hreach

/-- the system answers the next question of a process, if it has one -/
def turn (s : Fleet) (i : Nat) : Fleet :=
  match s.members i with
  | none => s
  | some m => match m.running with
    | some (.ask q next) =>
      let answer := Host.handle q ⟨s.kernel, m.process⟩
      s.set answer.2.kernel i (some (m.answered q next answer.1 answer.2.process))
    | _ => s

def turns (s : Fleet) (order : List Nat) : Fleet := order.foldl turn s

end Fleet

namespace Lone

def pidFile : Path := .ofText "/molt.pid"

/-- the successor of a reload that has nothing to take over -/
def daemon : Daemon :=
  .new ⟨false, pidFile, .ofText "/", 10⟩ ⟨[(reloadVariable, reloadMark)]⟩ false

def process : Process := .initial 5000 41 (.ofText "/app") [] (.ofText "/")

def vacant : Fleet := ⟨Reloading.kernel, fun _ => none⟩

theorem run_makeDaemon : ∃ d host,
    (Host.mk Reloading.kernel process).run daemon.makeDaemon = ((.ok (.ready none), d), host) ∧
      host.process.pid = 5000 ∧ host.kernel.lockFault = none := by
  let host : Host := ⟨Reloading.kernel, process⟩
  obtain ⟨e, settled, htake, hlock, hkernel, hpid, hdir⟩ : ∃ e settled,
      host.run daemon.takeOver = ((.ok none, e), settled) ∧ e.pidLock = none ∧
        settled.kernel = Reloading.kernel ∧ settled.process.pid = 5000 ∧
        settled.process.workDir = .ofText "/" := ⟨_, _, rfl, rfl, rfl, rfl, rfl⟩
  have hfree : settled.kernel.fs.LockFree settled.process.workDir pidFile := by
    rw [hkernel, hdir]
    exact Reloading.lockFree
  have hfault : settled.kernel.lockFault = none := by
    rw [hkernel]
    rfl
  obtain ⟨lock, fs', hfinish, -⟩ := Host.run_finishStart hlock hfault hfree none
  refine ⟨{ e with pidLock := some lock }, settled.withFs fs', ?_, hpid, hfault⟩
  show host.run (daemon.startFromReload pidFile) = _
  unfold Daemon.startFromReload
  rw [Host.run_bind_of_eq _ htake]
  exact hfinish

def starting : Member :=
  { Member.new process daemon with running := some (Work.start.program pidFile daemon) }

def prober : Process := .initial 6001 41 (.ofText "/app") [] (.ofText "/")

def probing : Member :=
  { Member.new prober (.new .default .empty false) with
    running := some (Work.probe.program pidFile (.new .default .empty false)) }

/-- a daemon starts, and somebody else looks at the PID file -/
def both : Fleet :=
  (vacant.set Reloading.kernel 0 (some starting)).set Reloading.kernel 1 (some probing)

end Lone

end Succession
