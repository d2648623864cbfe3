import Succession.PidFile.Lock
import Succession.Proofs.FileSystem.Views
import Succession.Proofs.Program.Asks

/-!
# Taking a PID lock that is free

Where the PID file opens as a regular file whose lock nobody holds, and nothing is in between, the
lock is taken and the file holds the record of the process.

* `FileSystem.LockFree fs workDir path`   the lock of the file at `path` can be had;
* `PidLock.Held fs lock pid`              the lock is held, and its file holds the record of `pid`;
* `PidLock.run_acquire`                   from the one to the other.
-/

namespace Succession

open FileSystem

/-- the path opens as a regular file whose lock nobody holds -/
def FileSystem.LockFree (fs : FileSystem) (workDir path : Path) : Prop :=
  ∃ h fs' d content, fs.openFile workDir path .recording = (.ok h, fs') ∧
    fs'.description? h = some d ∧ fs'.node? d.node = some (.file content) ∧
    fs'.holder? d.node = none

theorem FileSystem.LockFree.move {fs : FileSystem} {here path : Path}
    (hfree : fs.LockFree here path) (ha : path.isAbsolute = true) (there : Path) :
    fs.LockFree there path := by
  obtain ⟨h, fs', d, content, ho, hrest⟩ := hfree
  exact ⟨h, fs', d, content, openFile_of_isAbsolute ha here there _ ▸ ho, hrest⟩

/-- the lock's description holds the lock of its file, whose content is the record of a process -/
def PidLock.Held (fs : FileSystem) (lock : PidLock) (pid : Nat) : Prop :=
  ∃ d, fs.description? lock.handle = some d ∧ fs.holder? d.node = some lock.handle ∧
    fs.node? d.node = some (.file (pidRecord pid))

variable {host : Host} {h : Handle} {id : NodeId} {position : Nat} {content : Bytes}

theorem Host.run_writePid (a : host.kernel.fs.At h id position content) (pid : Nat) :
    ∃ fs', host.run (writePid h pid) = (.ok (), host.withFs fs') ∧
      (∃ position, fs'.At h id position (pidRecord pid)) ∧ fs'.locks = host.kernel.fs.locks := by
  obtain ⟨fs₁, e₁, a₁, l₁⟩ := a.truncate
  obtain ⟨fs₂, e₂, a₂, l₂⟩ := a₁.rewind
  have a₂ : fs₂.At h id ([] : Bytes).length [] := a₂
  obtain ⟨fs₃, e₃, a₃, l₃⟩ := a₂.write (pidDigits pid)
  rw [List.nil_append] at a₃
  obtain ⟨fs₄, e₄, a₄, l₄⟩ := a₃.write newline
  refine ⟨fs₄, ?_, ⟨_, a₄⟩, by rw [l₄, l₃, l₂, l₁]⟩
  have r₁ : host.run (.request (.truncate h)) = (.ok (), host.withFs fs₁) :=
    congrArg host.onFs e₁
  have r₂ : (host.withFs fs₁).run (.request (.rewind h)) = (.ok (), host.withFs fs₂) :=
    congrArg host.onFs e₂
  have r₃ : (host.withFs fs₂).run (.request (.write h (pidDigits pid))) =
      (.ok (), host.withFs fs₃) := congrArg host.onFs e₃
  have r₄ : (host.withFs fs₃).run (.request (.write h newline)) = (.ok (), host.withFs fs₄) :=
    congrArg host.onFs e₄
  unfold writePid
  rw [Host.run_bind_of_eq _ r₁]
  show (host.withFs fs₁).run (Program.request (.rewind h) >>= _) = _
  rw [Host.run_bind_of_eq _ r₂]
  show (host.withFs fs₂).run (Program.request (.write h (pidDigits pid)) >>= _) = _
  rw [Host.run_bind_of_eq _ r₃]
  show (host.withFs fs₃).run (Program.request (.write h newline) >>= _) = _
  rw [Host.run_bind_of_eq _ r₄]
  rfl

/-- **A free lock is taken**, and the file holds the record of the process. -/
theorem PidLock.run_acquire {path : Path} (hl : host.kernel.lockFault = none)
    (hfree : host.kernel.fs.LockFree host.process.workDir path) :
    ∃ lock fs', host.run (PidLock.acquire path) = (.ok lock, host.withFs fs') ∧
      lock.path = path ∧ lock.Held fs' host.process.pid := by
  obtain ⟨h, fs₁, d, content, e₁, hd, hc, hn⟩ := hfree
  obtain ⟨id, hd'⟩ := description?_openFile e₁
  rw [hd] at hd'
  obtain rfl := Option.some.inj hd'
  have a₁ : fs₁.At h id 0 content := ⟨hd, hc⟩
  let fs₂ : FileSystem := { fs₁ with locks := (id, h) :: fs₁.locks }
  have a₂ : (host.withFs fs₂).kernel.fs.At h id 0 content := ⟨hd, hc⟩
  obtain ⟨fs₃, r₃, ⟨position, a₃⟩, l₃⟩ := Host.run_writePid a₂ host.process.pid
  refine ⟨⟨path, h⟩, fs₃, ?_, rfl, _, a₃.opens, ?_, a₃.file⟩
  · have r₁ : host.run (.request (.openFile path .recording)) = (.ok h, host.withFs fs₁) :=
      congrArg host.onFs e₁
    have r₂ : (host.withFs fs₁).run (.request (.lock h)) = (.ok (), host.withFs fs₂) := by
      show Host.faulty host.kernel.lockFault _ ((host.withFs fs₁).onFs (fs₁.lock h)) = _
      rw [hl, a₁.lock hn]
      rfl
    unfold PidLock.acquire
    rw [Host.run_bind_of_eq _ r₁]
    show (host.withFs fs₁).run (Program.request (.lock h) >>= _) = _
    rw [Host.run_bind_of_eq _ r₂]
    show (host.withFs fs₂).run (Program.request .processId >>= fun pid => writePid h pid >>= _) = _
    rw [Host.run_bind, Host.run_request]
    show (host.withFs fs₂).run (writePid h host.process.pid >>= _) = _
    rw [Host.run_bind_of_eq _ r₃]
    rfl
  · show fs₃.locks.lookup id = _
    rw [l₃]
    show ((id, h) :: fs₁.locks).lookup id = _
    rw [List.lookup_cons_self]

end Succession
