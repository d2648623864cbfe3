import Succession.Machine.Operator
import Succession.Proofs.PidFile.Command

/-!
# What number a command signals

A command that is refused the lock signals the number in the file, whatever that number is. Nothing
but the upper end of the range is looked at, so a file that tells no number is taken for one that
tells zero, and a signal to zero goes to the sender's own group.

* `FileSystem.toldPid`       the number that a file tells, zero if it tells none;
* `Kernel.Refuses`           the lock of a file would have to be waited for;
* `run_checkStatus`          what a probe comes to, for every file and every answer to its locking;
* `Asks.kills`               a program without a kill call adds none;
* `Addressed`, `Control.addressee`   whom a command signals, and what it says;
* `Control.addressee_group`  a command that signals its own group.
-/

namespace Succession

open FileSystem Program

/-! ## the number that a file tells -/

namespace FileSystem

/-- zero unless the path leads to a regular file that has a number in it -/
def toldPid (fs : FileSystem) (workDir path : Path) : Nat :=
  match fs.content? workDir path with
  | some content => recordedPid content
  | none => 0

def toldAt (fs : FileSystem) (id : NodeId) : Nat :=
  match fs.node? id with
  | some (.file content) => recordedPid content
  | _ => 0

variable {fs fs' : FileSystem} {workDir path : Path} {id : NodeId} {h : Handle}

theorem toldPid_of_lookup (hl : fs.lookup workDir path .target = .ok (.node id)) :
    fs.toldPid workDir path = fs.toldAt id := by
  unfold toldPid content? toldAt
  rw [hl]
  dsimp only
  cases fs.node? id with
  | none => rfl
  | some node => cases node <;> rfl

/-- what has been opened to look at it was there, and is as it was -/
theorem openFile_reading (h0 : fs.openFile workDir path .reading = (.ok h, fs')) :
    ∃ id, fs.lookup workDir path .target = .ok (.node id) ∧ h = fs.descriptions.length ∧
      fs' = { fs with descriptions := fs.descriptions ++ [⟨id, 0, false⟩] } := by
  unfold openFile at h0
  split at h0
  · cases h0
  · next id hl =>
    obtain ⟨rfl, rfl⟩ := openNode_ok h0
    exact ⟨id, hl, rfl, rfl⟩
  · cases h0

theorem openFile_reading_of_lookup (hl : fs.lookup workDir path .target = .ok (.node id)) :
    ∃ h fs', fs.openFile workDir path .reading = (.ok h, fs') := by
  unfold openFile
  rw [show fs.lookup workDir path (if OpenMode.reading.create then .creation else .target) =
    .ok (.node id) from hl]
  dsimp only
  unfold openNode
  split <;> exact ⟨_, _, rfl⟩

end FileSystem

/-! ## the lock of a file -/

/-- whoever opens the file now would have to wait for its lock: another description has it, or
locking fails like that -/
def Kernel.Refuses (k : Kernel) (workDir path : Path) : Prop :=
  ∃ id, k.fs.lookup workDir path .target = .ok (.node id) ∧
    (k.lockFault = some .wouldBlock ∨
      k.lockFault = none ∧ ∃ other, k.fs.holder? id = some other ∧
        other ≠ k.fs.descriptions.length)

theorem Kernel.refuses_iff {k : Kernel} {workDir path : Path} {id : NodeId}
    (hl : k.fs.lookup workDir path .target = .ok (.node id)) :
    k.Refuses workDir path ↔ k.lockFault = some .wouldBlock ∨ k.lockFault = none ∧
      ∃ other, k.fs.holder? id = some other ∧ other ≠ k.fs.descriptions.length := by
  constructor
  · rintro ⟨id', hl', h⟩
    rw [hl] at hl'
    cases hl'
    exact h
  · exact fun h => ⟨id, hl, h⟩

namespace Host

variable {host host' : Host} {path : Path} {id : NodeId} {h : Handle} {d : Description}

/-- whoever reads a file from its start is told its number -/
theorem run_readPid (hd : host.kernel.fs.description? h = some d) :
    (host.run (readPid h)).1 = host.kernel.fs.toldAt d.node := by
  unfold toldAt
  have hrewind : handle (.rewind h) host = host.onFs (host.kernel.fs.rewind h) := rfl
  unfold FileSystem.rewind at hrewind
  rw [hd] at hrewind
  dsimp only at hrewind
  split at hrewind
  · -- a pipe has no start
    next hn =>
    rw [hn]
    rw [readPid, run_bind_of_eq _ ((run_request host _).trans hrewind)]
    rfl
  next hpipe =>
  let start := host.kernel.fs.setPosition h d 0
  have hd' : start.description? h = some { d with position := 0 } := by
    rw [description?_setPosition hd, if_pos rfl]
  have hread : handle (.readAll h) (host.withFs start) =
      (host.withFs start).onFs (start.readAll h) := rfl
  have hnode : start.node? d.node = host.kernel.fs.node? d.node := rfl
  unfold FileSystem.readAll at hread
  rw [hd'] at hread
  dsimp only at hread
  rw [hnode] at hread
  rw [readPid, run_bind_of_eq _ ((run_request host _).trans hrewind)]
  show ((host.withFs start).run (request (.readAll h) >>= _)).1 = _
  split at hread
  · next content hn =>
    rw [run_bind_of_eq _ ((run_request _ _).trans hread), hn]
    rfl
  · next hn =>
    rw [run_bind_of_eq _ ((run_request _ _).trans hread), hn]
    rfl
  · next hfile hdirectory =>
    rw [run_bind_of_eq _ ((run_request _ _).trans hread)]
    show recordedPid [] = _
    split
    · next content hn => exact absurd hn (hfile content)
    · rfl

/-- a lock is had, or refused without a change; it would have to be waited for if another description
has it, or if locking fails like that -/
theorem lock_answer (hd : host.kernel.fs.description? h = some d) :
    (∃ host', handle (.lock h) host = (.ok (), host') ∧ host.kernel.lockFault = none ∧
        ∀ other, host.kernel.fs.holder? d.node = some other → other = h) ∨
      ∃ e, handle (.lock h) host = (.error e, host) ∧
        (e.isWouldBlock = true ↔ host.kernel.lockFault = some .wouldBlock ∨
          host.kernel.lockFault = none ∧
            ∃ other, host.kernel.fs.holder? d.node = some other ∧ other ≠ h) := by
  have hlock : handle (.lock h) host =
      faulty host.kernel.lockFault host (host.onFs (host.kernel.fs.lock h)) := rfl
  cases hfault : host.kernel.lockFault with
  | some errno =>
    rw [hfault] at hlock
    refine .inr ⟨.os errno, hlock, ?_⟩
    show decide (errno = .wouldBlock) = true ↔ _
    rw [decide_eq_true_iff]
    constructor
    · rintro rfl
      exact .inl rfl
    · rintro (he | ⟨he, -⟩)
      · exact Option.some.inj he
      · cases he
  | none =>
    rw [hfault] at hlock
    unfold FileSystem.lock at hlock
    rw [hd] at hlock
    dsimp only [faulty] at hlock
    split at hlock
    · next hfree => exact .inl ⟨_, hlock, rfl, fun other ho => by cases hfree.symm.trans ho⟩
    · next other hother =>
      split at hlock
      · next hmine =>
        refine .inl ⟨_, hlock, rfl, fun other' ho => ?_⟩
        rw [hother] at ho
        exact (Option.some.inj ho).symm.trans hmine
      · next hne =>
        exact .inr ⟨_, hlock, fun _ => .inr ⟨rfl, other, hother, hne⟩, fun _ => rfl⟩

/-- **What a probe comes to.** It finds an instance if the lock is refused, and then has the number
that the file tells. -/
theorem run_checkStatus (host : Host) (path : Path) :
    (host.kernel.Refuses host.process.workDir path → (host.run (checkStatus path)).1 =
      .ok ⟨true, host.kernel.fs.toldPid host.process.workDir path⟩) ∧
    (¬ host.kernel.Refuses host.process.workDir path →
      (host.run (checkStatus path)).1 = .ok .stopped ∨
        ∃ e, (host.run (checkStatus path)).1 = .error e) := by
  have hopen : host.run (request (.openFile path .reading)) =
      host.onFs (host.kernel.fs.openFile host.process.workDir path .reading) := rfl
  cases hanswer : host.kernel.fs.openFile host.process.workDir path .reading with
  | mk r fs =>
  rw [hanswer] at hopen
  cases r with
  | error e =>
    constructor
    · rintro ⟨id, hl, -⟩
      obtain ⟨h, fs', hok⟩ := openFile_reading_of_lookup hl
      rw [hanswer] at hok
      cases hok
    · intro _
      rw [checkStatus, run_bind_of_eq _ hopen]
      dsimp only
      split
      · exact .inl rfl
      · exact .inr ⟨e, rfl⟩
  | ok h =>
    obtain ⟨id, hl, rfl, rfl⟩ := openFile_reading hanswer
    let fs := host.kernel.fs
    let opened := host.withFs { fs with descriptions := fs.descriptions ++ [⟨id, 0, false⟩] }
    have hd : opened.kernel.fs.description? fs.descriptions.length = some ⟨id, 0, false⟩ :=
      List.getElem?_concat_length
    have hopened : host.run (request (.openFile path .reading)) =
        (.ok fs.descriptions.length, opened) := hopen
    rw [Kernel.refuses_iff hl, checkStatus, run_bind_of_eq _ hopened]
    dsimp only
    obtain ⟨host', hlock, hfault, hfree⟩ | ⟨e, hlock, hiff⟩ := lock_answer hd
    · -- nobody else has the lock
      rw [run_bind_of_eq _ ((run_request _ _).trans hlock)]
      refine ⟨?_, fun _ => .inl rfl⟩
      rintro (he | ⟨-, other, hother, hne⟩)
      · cases (show host.kernel.lockFault = none from hfault).symm.trans he
      · exact absurd (hfree other hother) hne
    · rw [run_bind_of_eq _ ((run_request _ _).trans hlock)]
      dsimp only
      by_cases he : e.isWouldBlock = true
      · rw [if_pos he, run_bind, run_readPid hd]
        refine ⟨fun _ => ?_, fun hnot => absurd (hiff.mp he) hnot⟩
        rw [toldPid_of_lookup hl]
        rfl
      · rw [if_neg he]
        exact ⟨fun h' => absurd (hiff.mpr h') he, fun _ => .inr ⟨e, rfl⟩⟩

end Host

/-! ## kill calls -/

/-- a question without a kill call adds none, and leaves what becomes of the next -/
theorem Request.Harmless.kills {q : Request} (hq : q.Harmless) (host : Host) :
    (Host.handle q host).2.kernel.kills = host.kernel.kills ∧
      (Host.handle q host).2.kernel.killFault = host.kernel.killFault := by
  have hfaulty {α : Type} (fault : Option Errno) (answer : Except IoError α × Host)
      (h : answer.2.kernel.kills = host.kernel.kills ∧
        answer.2.kernel.killFault = host.kernel.killFault) :
      (Host.faulty fault host answer).2.kernel.kills = host.kernel.kills ∧
        (Host.faulty fault host answer).2.kernel.killFault = host.kernel.killFault :=
    Host.faulty_snd (fun after => after.kernel.kills = host.kernel.kills ∧
      after.kernel.killFault = host.kernel.killFault) ⟨rfl, rfl⟩ h
  cases q with
  | kill => cases hq
  | lock | executable | launch | stdioHandles | signal => exact hfaulty _ _ ⟨rfl, rfl⟩
  | adopt descriptor =>
    refine hfaulty _ _ ?_
    unfold Host.adopt
    split <;> exact ⟨rfl, rfl⟩
  | enterWorkDir path =>
    refine hfaulty _ _ ?_
    unfold Host.enterWorkDir
    split
    · split <;> exact ⟨rfl, rfl⟩
    · exact ⟨rfl, rfl⟩
  | log line =>
    show (host.log line).2.kernel.kills = _ ∧ (host.log line).2.kernel.killFault = _
    unfold Host.log
    split <;> exact ⟨rfl, rfl⟩
  | _ => exact ⟨rfl, rfl⟩

theorem Program.Asks.kills {α : Type} {p : Program α} (hp : p.Asks Request.Harmless)
    (host : Host) : (host.run p).2.kernel.kills = host.kernel.kills ∧
      (host.run p).2.kernel.killFault = host.kernel.killFault := by
  induction p generalizing host with
  | done a => exact ⟨rfl, rfl⟩
  | ask q next ih =>
    obtain ⟨hkills, hfault⟩ := hp.1.kills host
    obtain ⟨hkills', hfault'⟩ := ih _ (hp.2 _) (Host.handle q host).2
    exact ⟨hkills'.trans hkills, hfault'.trans hfault⟩

theorem Host.handle_kill (pid : Nat) (signal : Signal) (host : Host) :
    ∃ after : Host, after.kernel.kills = host.kernel.kills ++ [(pid, signal)] ∧
      handle (.kill pid signal) host = faulty host.kernel.killFault after (.ok (), after) :=
  ⟨_, rfl, rfl⟩

/-! ## whom a command signals -/

/-- what a command says once it has made its kill call -/
def ControlError.reported (pid : Nat) : Option Errno → Except ControlError Nat
  | none => .ok pid
  | some errno => .error (.signal pid (.os errno))

/-- whom a command on the file at `path` signals, and what it comes to -/
structure Addressed (host : Host) (path : Path) (signal : Signal)
    (result : Except ControlError Nat × Host) : Prop where
  /-- nobody while the lock is not refused -/
  free : ¬ host.kernel.Refuses host.process.workDir path →
    result.2.kernel.kills = host.kernel.kills ∧
      (result.1 = .error (.notRunning path) ∨ ∃ e, result.1 = .error (.status path e))
  /-- the number that the file tells, once; that is the sender's own group if it tells none -/
  told : host.kernel.Refuses host.process.workDir path →
    ∀ pid, pid = host.kernel.fs.toldPid host.process.workDir path → pid ≤ maxPid →
      result.2.kernel.kills = host.kernel.kills ++ [(pid, signal)] ∧
        result.1 = ControlError.reported pid host.kernel.killFault
  /-- nobody by a number that no process has -/
  unfit : host.kernel.Refuses host.process.workDir path →
    ∀ pid, pid = host.kernel.fs.toldPid host.process.workDir path → maxPid < pid →
      result.2.kernel.kills = host.kernel.kills ∧
        result.1 = .error (.signal pid (.refused "pid out of range"))

/-- a probe that has come to its result, and what follows it -/
theorem Control.run_send_of_probe {c : Control} {signal : Signal} {host probed : Host}
    {r : Except IoError Status} (h : host.run (checkStatus c.pidFile) = (r, probed)) :
    host.run (c.send signal) =
      match r with
      | .error source => (.error (.status c.pidFile source), probed)
      | .ok status => probed.run (if ¬ status.running then pure (.error (.notRunning c.pidFile))
        else sendSignal status.pid signal >>= fun
          | .error source => pure (.error (.signal status.pid source))
          | .ok () => pure (.ok status.pid)) := by
  cases r with
  | error source =>
    have hstatus : host.run c.status = (.error (.status c.pidFile source), probed) :=
      Host.run_bind_of_eq _ h
    exact Host.run_bind_of_eq _ hstatus
  | ok status =>
    have hstatus : host.run c.status = (.ok status, probed) := Host.run_bind_of_eq _ h
    exact Host.run_bind_of_eq _ hstatus

/-- **A command signals nobody unless the lock is refused, and then only the number that the file
tells.** -/
theorem Control.run_send (c : Control) (signal : Signal) (host : Host) :
    Addressed host c.pidFile signal (host.run (c.send signal)) := by
  obtain ⟨hrefused, hfree⟩ := Host.run_checkStatus host c.pidFile
  obtain ⟨hkills, hfault⟩ := (asks_checkStatus c.pidFile).kills host
  cases h : host.run (checkStatus c.pidFile) with
  | mk r probed =>
  rw [h] at hrefused hfree hkills hfault
  rw [run_send_of_probe h]
  constructor
  · intro hnot
    obtain rfl | ⟨e, rfl⟩ := hfree hnot
    · exact ⟨hkills, .inl rfl⟩
    · exact ⟨hkills, .inr ⟨e, rfl⟩⟩
  · rintro hlock pid rfl hfits
    obtain rfl := hrefused hlock
    dsimp only
    rw [if_neg (not_not.mpr rfl), sendSignal, if_neg (Nat.not_lt.mpr hfits)]
    generalize host.kernel.fs.toldPid host.process.workDir c.pidFile = pid
    obtain ⟨after, hafter, hkill⟩ := Host.handle_kill pid signal probed
    rw [hfault] at hkill
    rw [← hkills, ← hafter]
    cases hkf : host.kernel.killFault with
    | none =>
      rw [hkf] at hkill
      rw [Host.run_bind_of_eq _ ((Host.run_request _ _).trans hkill)]
      exact ⟨rfl, rfl⟩
    | some errno =>
      rw [hkf] at hkill
      rw [Host.run_bind_of_eq _ ((Host.run_request _ _).trans hkill)]
      exact ⟨rfl, rfl⟩
  · rintro hlock pid rfl hunfit
    obtain rfl := hrefused hlock
    dsimp only
    rw [if_neg (not_not.mpr rfl), sendSignal, if_pos hunfit]
    exact ⟨hkills, rfl⟩

/-- **Whom an operator's commands signal**, for every file and every answer to the locking and to
the kill call. -/
theorem Control.addressee (path : Path) (host : Host) :
    Addressed host path .terminate (host.run (Control.stop ⟨path⟩)) ∧
      Addressed host path .reload (host.run (Control.reload ⟨path⟩)) :=
  ⟨Control.run_send ⟨path⟩ .terminate host, Control.run_send ⟨path⟩ .reload host⟩

namespace Commanding

/-- an operator beside a file that somebody has locked, and whose content is no number -/
def puzzled : Host :=
  ⟨{ Reloading.kernel with fs := held (Bytes.ofText "not a pid") 0 }, operator⟩

end Commanding

open Commanding in
/-- the file tells no number, and the command signals the operator's own group and reports the
process number zero -/
theorem Control.addressee_group :
    puzzled.kernel.Refuses puzzled.process.workDir Lone.pidFile ∧
      puzzled.kernel.fs.content? puzzled.process.workDir Lone.pidFile =
        some (Bytes.ofText "not a pid") ∧
      puzzled.kernel.kills = [] ∧
      (puzzled.run (Control.stop ⟨Lone.pidFile⟩)).1 = .ok ownGroup ∧
      (puzzled.run (Control.stop ⟨Lone.pidFile⟩)).2.kernel.kills = [(ownGroup, .terminate)] := by
  have hl : puzzled.kernel.fs.lookup puzzled.process.workDir Lone.pidFile .target =
      .ok (.node 1) := by cbv
  refine ⟨⟨1, hl, .inr ⟨rfl, 0, rfl, by decide⟩⟩, ?_, rfl, by cbv, by cbv⟩
  unfold content?
  rw [hl]
  rfl

end Succession
