import Succession.Proofs.PidFile.Abides
import Succession.Proofs.PidFile.Fleet
import Succession.Proofs.PidFile.Moves

/-!
# A process around a PID file

A process stands where its program and its answers have brought it, and the file system bears that
out. An answer that it gets keeps this, and spares the descriptions of everybody else.

* `Member.Stands`, `Member.Sound path fs m`   the stance of one process;
* `Move.owns`, `Move.kept`                    what a question changes of what it has open;
* `Member.Sound.answered`                     one question, and its answer.
-/

namespace Succession

open FileSystem Program

variable {path : Path} {fs fs' : FileSystem} {mine : Handle → Prop} {m : Member}

/-! ## one process -/

def Work.Ended : Result × Daemon → Stance → Prop
  | (result, d), st => st = d.stance ∧
      ∀ stdio, result = .started (.ok (.ready stdio)) → d.pidLock ≠ none

theorem Work.resolves_program (pid : Nat) {d : Daemon} {workDir : Path} (work : Work)
    (hpath : work.Configured → workDir.join d.config.pidFile = path) :
    (work.program path d).Resolves pid path workDir Ended d.stance := by
  cases work with
  | start =>
    refine (Daemon.resolves_makeDaemon (hpath trivial)).bind fun r st hst => ?_
    obtain ⟨hst, hready⟩ := hst
    refine ⟨hst, fun stdio hr => hready stdio ?_⟩
    injection hr
  | reload =>
    refine .inl (abides_bind (Daemon.abides_reload d) fun r st hst => ?_)
    exact ⟨hst, nofun⟩
  | status =>
    refine (Daemon.resolves_checkStatus (hpath trivial)).bind fun r st hst => ?_
    exact ⟨hst, nofun⟩
  | probe =>
    refine .inl (abides_bind abides_checkStatus fun r st hst => ?_)
    exact ⟨hst, nofun⟩
  | command signal =>
    refine .inl (abides_bind (Control.abides_send ⟨path⟩ signal) fun r st hst => ?_)
    exact ⟨hst, nofun⟩

/-- where a process stands, by what it runs -/
def Member.Stands (path : Path) (m : Member) (st : Stance) : Prop :=
  match m.running with
  | none => st = m.daemon.stance ∧ m.lock = m.daemon.pidLock
  | some p => p.Resolves m.process.pid path m.process.workDir Work.Ended st ∧
      ∀ lock, m.lock = some lock → st.kept = some lock.handle

structure Member.SoundIn (path : Path) (fs : FileSystem) (m : Member) (st : Stance) : Prop where
  stands : m.Stands path st
  backed : st.Backed m.process.pid path fs
  owns : ∀ h, st.Owns h → h ∈ m.opened

def Member.Sound (path : Path) (fs : FileSystem) (m : Member) : Prop := ∃ st, m.SoundIn path fs st

namespace Member

theorem sound_new (path : Path) (fs : FileSystem) (process : Process) (config : DaemonConfig)
    (env : Environment) (hasLogger : Bool) :
    (new process (.new config env hasLogger)).Sound path fs :=
  ⟨.idle none, ⟨rfl, rfl⟩, nofun, nofun⟩

theorem Sound.spared (h : m.Sound path fs) (s : Spares mine path fs fs')
    (hmine : ∀ h ∈ m.opened, mine h) : m.Sound path fs' := by
  obtain ⟨st, hst⟩ := h
  exact ⟨st, hst.stands, hst.backed.spared s fun h ho => hmine h (hst.owns h ho), hst.owns⟩

theorem SoundIn.done {st : Stance} {result : Result} {d : Daemon} (h : m.SoundIn path fs st)
    (hrun : m.running = some (.done (result, d))) : Work.Ended (result, d) st := by
  have hs := h.stands
  unfold Stands at hs
  rw [hrun] at hs
  obtain ⟨hs | ⟨next, hask, -⟩, -⟩ := hs
  · exact hs
  · cases hask

theorem SoundIn.kept {st : Stance} {lock : PidLock} (h : m.SoundIn path fs st)
    (hlock : m.lock? = some lock) : st.kept = some lock.handle := by
  unfold lock? at hlock
  split at hlock
  · next result d hrun =>
    obtain ⟨rfl, -⟩ := h.done hrun
    show d.pidLock.map _ = _
    rw [hlock]
    rfl
  · have hs := h.stands
    unfold Stands at hs
    split at hs
    · obtain ⟨rfl, he⟩ := hs
      show m.daemon.pidLock.map _ = _
      rw [← he, hlock]
      rfl
    · exact hs.2 lock hlock

theorem SoundIn.holding {st : Stance} {lock : PidLock} (h : m.SoundIn path fs st)
    (hlock : m.lock? = some lock) :
    Holding m.process.pid path fs lock.handle .recorded ∧ lock.handle ∈ m.opened := by
  have hk := h.kept hlock
  have hb := h.backed
  have ho := h.owns
  cases st with
  | idle kept => exact ⟨hb _ hk, ho _ hk⟩
  | opened kept other => exact ⟨(hb.1 _ hk).2, ho _ (.inl hk)⟩
  | locked other progress => cases hk

end Member

/-! ## one question -/

section
variable {pid : Nat} {st st' : Stance} {q : Request} {r : q.Reply} {host host' : Host}

theorem Move.owns {opened : List Handle} (hm : Move pid path st q r st')
    (hb : st.Backed pid path fs) (ho : ∀ h, st.Owns h → h ∈ opened) :
    ∀ h, st'.Owns h → h ∈ Member.openedBy opened q r := by
  intro h hh
  cases hm with
  | quiet hq =>
    cases q with
    | openFile | close => exact hq.elim
    | _ => exact ho h hh
  | openFile hmode k =>
    obtain hk | rfl := hh
    · exact List.mem_cons_of_mem _ (ho h hk)
    · exact List.mem_cons_self
  | @close kept k =>
    refine List.mem_filter.mpr ⟨ho h (.inl hh), ?_⟩
    exact decide_eq_true (hb.1 h hh).1
  | lock => exact ho h (.inr hh)
  | abandon => cases hh
  | sync => exact ho h (Option.some.inj hh).symm
  | unlock =>
    obtain hk | rfl := hh
    · cases hk
    · exact ho h rfl
  | _ => exact ho h hh

theorem Move.kept {lock : Option PidLock} (hm : Move pid path st q r st')
    (hk : ∀ l, lock = some l → st.kept = some l.handle) :
    ∀ l, Member.lockAfter lock q = some l → st'.kept = some l.handle := by
  intro l hl
  cases hm with
  | quiet hq =>
    cases q with
    | unlock => exact hq.elim
    | _ => exact hk l hl
  | @unlock k =>
    obtain ⟨hl, hne⟩ := Option.filter_eq_some_iff.mp hl
    have he : k = l.handle := Option.some.inj (hk l hl)
    simp only [he, ne_eq, not_true, decide_false, Bool.false_eq_true] at hne
  | sync => cases hk l hl
  | _ => exact hk l hl

theorem mem_openedBy {opened : List Handle} (h0 : Host.handle q host = (r, host'))
    (hopen : ∀ h ∈ opened, h < host.kernel.fs.descriptions.length)
    (hgrows : host.kernel.fs.descriptions.length ≤ host'.kernel.fs.descriptions.length) :
    ∀ h ∈ Member.openedBy opened q r, h < host'.kernel.fs.descriptions.length ∧
      (h ∈ opened ∨ host.kernel.fs.descriptions.length ≤ h) := by
  intro h hh
  have hold (hh : h ∈ opened) : h < host'.kernel.fs.descriptions.length ∧
      (h ∈ opened ∨ host.kernel.fs.descriptions.length ≤ h) :=
    ⟨Nat.lt_of_lt_of_le (hopen h hh) hgrows, .inl hh⟩
  cases q with
  | openFile path mode =>
    cases r with
    | error e => exact hold hh
    | ok k =>
      obtain ⟨-, hnew⟩ := opened_openFile (Host.onFs_eq h0)
      obtain ⟨he, hlt, -⟩ := hnew k rfl
      obtain rfl | hh := List.mem_cons.mp hh
      · exact ⟨hlt, .inr (Nat.le_of_eq he.symm)⟩
      · exact hold hh
  | close k => exact hold (List.mem_filter.mp hh).1
  | _ => exact hold hh

/-- a process that gets its answer stands where the answer has brought it, and nobody else notices -/
theorem Member.Sound.answered {kernel : Kernel} {next : q.Reply → Program (Result × Daemon)}
    (ha : path.isAbsolute = true) (h : m.Sound path kernel.fs)
    (hrun : m.running = some (.ask q next)) (h0 : Host.handle q ⟨kernel, m.process⟩ = (r, host))
    (hopen : ∀ h, mine h → h < kernel.fs.descriptions.length)
    (hmine : ∀ h ∈ m.opened, ¬ mine h) :
    (m.answered q next r host.process).Sound path host.kernel.fs ∧
      Spares mine path kernel.fs host.kernel.fs := by
  obtain ⟨st, hst⟩ := h
  have hpid : host.process.pid = m.process.pid := by
    have hp := Host.pid_handle q ⟨kernel, m.process⟩
    rw [h0] at hp
    exact hp
  have hs := hst.stands
  unfold Stands at hs
  rw [hrun] at hs
  obtain ⟨habides | ⟨next', hask, habides⟩, hlock⟩ := hs
  · have hb : st.Backed m.process.pid path (Host.mk kernel m.process).kernel.fs := hst.backed
    obtain ⟨st', hm, hnext⟩ := habides r (hb.fits h0)
    have hb' := hb.move ha hm h0
    rw [← hpid] at hb' hnext
    refine ⟨⟨st', ⟨.inl hnext, hm.kept hlock⟩, hb', hm.owns hb hst.owns⟩, ?_⟩
    exact hm.spares hb h0 hopen fun h ho => hmine h (hst.owns h ho)
  · -- the process learns where it is, and nothing else happens
    cases hask
    cases h0
    exact ⟨⟨st, ⟨.inl habides, hlock⟩, hst.backed, hst.owns⟩, spares_refl mine path _⟩

end

end Succession
