import Succession.PidFile.Control
import Succession.Proofs.FileSystem.Spares
import Succession.Proofs.Program.Asks

/-!
# Where a process stands with a PID file

A process has at most two descriptions on a PID file: one through which it keeps the lock, and one
that it has just opened. Every question moves it from one stance to the next, and each stance says
what the file system looks like: this survives whatever other processes do through descriptions of
their own.

* `Stance`, `Progress`                   what a process has, and how far its record has come;
* `Stance.Backed pid path st fs`         the file system bears the stance out;
* `Move pid path st q r st'`             the question `q`, answered by `r`, leads from `st` to `st'`;
* `Backed.move`, `Move.spares`           a host's answer keeps the new stance backed, and spares
                                         everybody else;
* `Program.Abides pid path post p st`    whatever fitting answers it gets, `p` moves from `st` to an
                                         end that satisfies `post`.
-/

namespace Succession

open FileSystem

/-- how far the record has come, since the lock was taken -/
inductive Progress where
  | fresh
  | cleared
  | rewound
  | digits
  | recorded
deriving DecidableEq, Repr

inductive Stance where
  /-- nothing is open, but for the lock that is kept -/
  | idle (kept : Option Handle)
  /-- the file has been opened, and nothing is known of its lock -/
  | opened (kept : Option Handle) (h : Handle)
  /-- the lock has been taken -/
  | locked (h : Handle) (progress : Progress)
deriving DecidableEq, Repr

namespace Stance

def kept : Stance → Option Handle
  | idle kept => kept
  | opened kept _ => kept
  | locked .. => none

def Owns : Stance → Handle → Prop
  | idle kept, h => kept = some h
  | opened kept h', h => kept = some h ∨ h = h'
  | locked h' _, h => h = h'

end Stance

variable {pid : Nat} {path : Path} {fs fs' : FileSystem} {h k : Handle} {id : NodeId}
  {progress : Progress} {st st' : Stance} {mine : Handle → Prop}

/-! ## what a stance says of the file system -/

def OnPath (fs : FileSystem) (path : Path) (h : Handle) : Prop :=
  ∃ id position, LeadsTo fs path id ∧ fs.description? h = some ⟨id, position, false⟩

/-- what the file and the description show of the progress -/
def Progress.Shows (pid : Nat) (fs : FileSystem) (h : Handle) (id : NodeId) : Progress → Prop
  | fresh => ∃ position, fs.description? h = some ⟨id, position, false⟩
  | cleared => ∃ position, fs.At h id position []
  | rewound => fs.At h id 0 []
  | digits => fs.At h id (pidDigits pid).length (pidDigits pid)
  | recorded => ∃ position, fs.At h id position (pidRecord pid)

/-- a description holds the lock of the file at a path, and the record has come so far -/
def Holding (pid : Nat) (path : Path) (fs : FileSystem) (h : Handle) (progress : Progress) : Prop :=
  ∃ id, LeadsTo fs path id ∧ fs.holder? id = some h ∧ progress.Shows pid fs h id

def Stance.Backed (pid : Nat) (path : Path) (fs : FileSystem) : Stance → Prop
  | idle kept => ∀ k, kept = some k → Holding pid path fs k .recorded
  | opened kept h => (∀ k, kept = some k → k ≠ h ∧ Holding pid path fs k .recorded) ∧
      OnPath fs path h
  | locked h progress => Holding pid path fs h progress

theorem Progress.Shows.opens (hs : progress.Shows pid fs h id) :
    ∃ position, fs.description? h = some ⟨id, position, false⟩ := by
  cases progress with
  | fresh => exact hs
  | cleared =>
    obtain ⟨position, a⟩ := hs
    exact ⟨position, a.opens⟩
  | rewound => exact ⟨_, hs.opens⟩
  | digits => exact ⟨_, hs.opens⟩
  | recorded =>
    obtain ⟨position, a⟩ := hs
    exact ⟨position, a.opens⟩

theorem Progress.Shows.keep (hs : progress.Shows pid fs h id)
    (hd : fs'.description? h = fs.description? h) (hn : fs'.node? id = fs.node? id) :
    progress.Shows pid fs' h id := by
  have hat {position : Nat} {content : Bytes} (a : fs.At h id position content) :
      fs'.At h id position content := ⟨hd.trans a.opens, hn.trans a.file⟩
  cases progress with
  | fresh =>
    obtain ⟨position, ho⟩ := hs
    exact ⟨position, hd.trans ho⟩
  | cleared =>
    obtain ⟨position, a⟩ := hs
    exact ⟨position, hat a⟩
  | rewound => exact hat hs
  | digits => exact hat hs
  | recorded =>
    obtain ⟨position, a⟩ := hs
    exact ⟨position, hat a⟩

theorem Holding.onPath (hh : Holding pid path fs h progress) : OnPath fs path h := by
  obtain ⟨id, hl, -, hs⟩ := hh
  obtain ⟨position, ho⟩ := hs.opens
  exact ⟨id, position, hl, ho⟩

theorem Holding.fresh (hh : Holding pid path fs h progress) : Holding pid path fs h .fresh := by
  obtain ⟨id, hl, hheld, hs⟩ := hh
  exact ⟨id, hl, hheld, hs.opens⟩

theorem Holding.unique {pid' : Nat} {progress' : Progress} (hh : Holding pid path fs h progress)
    (hk : Holding pid' path fs k progress') : h = k := by
  obtain ⟨id, hl, hheld, -⟩ := hh
  obtain ⟨id', hl', hheld', -⟩ := hk
  rw [hl.unique hl'] at hheld
  exact Option.some.inj (hheld.symm.trans hheld')

theorem OnPath.lt (ho : OnPath fs path h) : h < fs.descriptions.length := by
  obtain ⟨id, position, -, hd⟩ := ho
  exact (List.getElem?_eq_some_iff.mp hd).1

theorem OnPath.spared (ho : OnPath fs path h) (s : Spares mine path fs fs') (hm : mine h) :
    OnPath fs' path h := by
  obtain ⟨id, position, hl, hd⟩ := ho
  exact ⟨id, position, s.leads id hl, (s.descriptions h hm).trans hd⟩

theorem Holding.spared (hh : Holding pid path fs h progress) (s : Spares mine path fs fs')
    (hm : mine h) : Holding pid path fs' h progress := by
  obtain ⟨id, hl, hheld, hs⟩ := hh
  obtain ⟨hheld', hn⟩ := s.locked id h hl hm hheld
  exact ⟨id, s.leads id hl, hheld', hs.keep (s.descriptions h hm) hn⟩

/-- a stance survives what spares the descriptions that it has -/
theorem Stance.Backed.spared (hb : st.Backed pid path fs) (s : Spares mine path fs fs')
    (hm : ∀ h, st.Owns h → mine h) : st.Backed pid path fs' := by
  cases st with
  | idle kept => exact fun k hk => (hb k hk).spared s (hm k hk)
  | opened kept h =>
    refine ⟨fun k hk => ⟨(hb.1 k hk).1, (hb.1 k hk).2.spared s (hm k (.inl hk))⟩, ?_⟩
    exact hb.2.spared s (hm h (.inr rfl))
  | locked h progress => exact Holding.spared hb s (hm h rfl)

theorem Stance.Backed.onPath (hb : st.Backed pid path fs) (ho : st.Owns h) : OnPath fs path h := by
  cases st with
  | idle kept => exact (hb h ho).onPath
  | opened kept h' =>
    obtain hk | rfl := ho
    · exact (hb.1 h hk).2.onPath
    · exact hb.2
  | locked h' progress =>
    obtain rfl := ho
    exact Holding.onPath hb

/-! ## moves -/

def Request.Quiet : Request → Prop
  | .openFile .. | .lock _ | .unlock _ | .truncate _ | .rewind _ | .readAll _ | .write .. | .sync _
  | .close _ | .workDir => False
  | _ => True

inductive Move (pid : Nat) (path : Path) : Stance → (q : Request) → q.Reply → Stance → Prop where
  | quiet {st : Stance} {q : Request} (hq : q.Quiet) (r : q.Reply) : Move pid path st q r st
  | openFile {kept : Option Handle} {mode : OpenMode} (hmode : mode.append = false) (h : Handle) :
      Move pid path (.idle kept) (.openFile path mode) (.ok h) (.opened kept h)
  | missing {kept : Option Handle} {mode : OpenMode} (e : IoError) :
      Move pid path (.idle kept) (.openFile path mode) (.error e) (.idle kept)
  | lock {h : Handle} :
      Move pid path (.opened none h) (.lock h) (.ok ()) (.locked h .fresh)
  | refused {kept : Option Handle} {h : Handle} (e : IoError) :
      Move pid path (.opened kept h) (.lock h) (.error e) (.opened kept h)
  | restart {kept : Option Handle} {h : Handle} (r : Except IoError Unit) :
      Move pid path (.opened kept h) (.rewind h) r (.opened kept h)
  | read {kept : Option Handle} {h : Handle} (r : Except IoError Bytes) :
      Move pid path (.opened kept h) (.readAll h) r (.opened kept h)
  | close {kept : Option Handle} {h : Handle} :
      Move pid path (.opened kept h) (.close h) () (.idle kept)
  | clear {h : Handle} :
      Move pid path (.locked h .fresh) (.truncate h) (.ok ()) (.locked h .cleared)
  | rewind {h : Handle} :
      Move pid path (.locked h .cleared) (.rewind h) (.ok ()) (.locked h .rewound)
  | digits {h : Handle} :
      Move pid path (.locked h .rewound) (.write h (pidDigits pid)) (.ok ()) (.locked h .digits)
  | newline {h : Handle} :
      Move pid path (.locked h .digits) (.write h newline) (.ok ()) (.locked h .recorded)
  /-- the lock is kept from here on -/
  | sync {h : Handle} :
      Move pid path (.locked h .recorded) (.sync h) (.ok ()) (.idle (some h))
  | notCleared {h : Handle} {progress : Progress} (e : IoError) :
      Move pid path (.locked h progress) (.truncate h) (.error e) (.locked h .fresh)
  | notRewound {h : Handle} {progress : Progress} (e : IoError) :
      Move pid path (.locked h progress) (.rewind h) (.error e) (.locked h .fresh)
  | notWritten {h : Handle} {progress : Progress} {data : Bytes} (e : IoError) :
      Move pid path (.locked h progress) (.write h data) (.error e) (.locked h .fresh)
  | notSynced {h : Handle} {progress : Progress} (e : IoError) :
      Move pid path (.locked h progress) (.sync h) (.error e) (.locked h .fresh)
  | abandon {h : Handle} {progress : Progress} :
      Move pid path (.locked h progress) (.close h) () (.idle none)
  | unlock {h : Handle} :
      Move pid path (.idle (some h)) (.unlock h) () (.opened none h)

/-- what a host may answer: its own number, and no lock to whoever keeps it already -/
def Fits (pid : Nat) (st : Stance) : (q : Request) → q.Reply → Prop
  | .processId, r => r = pid
  | .lock h, r => ∀ k, st = .opened (some k) h → r ≠ .ok ()
  | _, _ => True

/-- whatever fitting answers it gets, the program moves from the stance to an end of this kind -/
def Program.Abides {α : Type} (pid : Nat) (path : Path) (post : α → Stance → Prop) :
    Program α → Stance → Prop
  | .done a, st => post a st
  | .ask q next, st => ∀ r, Fits pid st q r →
      ∃ st', Move pid path st q r st' ∧ (next r).Abides pid path post st'

end Succession
