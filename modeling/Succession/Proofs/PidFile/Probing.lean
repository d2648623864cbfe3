import Succession.Proofs.PidFile.Taking

/-!
# A probe and an attempt on the same file

A probe opens the PID file to look at it, and an attempt to take the lock opens it to write it and
makes it where it is missing. So one of them may be let in where the other is not, but what they
find behind the door is the same.

* `Barriers`            what the system refuses: opening in a mode, and reading what was opened;
* `Finding`             what somebody finds who opens a file and asks for its lock;
* `Barriers.meets`      what the lock of a node answers to a new description;
* `run_checkStatus_finding`, `run_acquire_finding`   both programs tell what they find;
* `Agreement`, `probing_agrees`                      so they agree, and a probe changes nothing.
-/

namespace Succession

open FileSystem Program

/-- what the system refuses, as long as nothing changes -/
structure Barriers where
  opening : OpenMode → Option IoError
  reading : Option IoError

namespace Barriers

variable (b : Barriers)

def barred {α : Type} (barrier : Option IoError) (host : Host)
    (answer : Except IoError α × Host) : Except IoError α × Host :=
  match barrier with
  | some e => (.error e, host)
  | none => answer

def handle : Handler Host
  | .openFile path mode, host =>
    barred (b.opening mode) host (Host.handle (.openFile path mode) host)
  | .readAll h, host => barred b.reading host (Host.handle (.readAll h) host)
  | q, host => Host.handle q host

/-- whoever may read and write a file may read it -/
def Lawful : Prop := b.opening .recording = none → b.opening .reading = none

/-- the number that a file tells whoever is let in -/
def told (fs : FileSystem) (id : NodeId) : Nat :=
  match b.reading with
  | some _ => 0
  | none => fs.toldAt id

end Barriers

/-- what somebody finds who opens a file and asks for its lock -/
inductive Finding where
  /-- locking fails, and not because somebody has the lock -/
  | faulty (errno : Errno)
  /-- another description has the lock -/
  | busy (pid : Nat)
  | free
deriving DecidableEq, Repr

namespace Finding

def probed : Finding → Except IoError Status
  | faulty errno => .error (.os errno)
  | busy pid => .ok ⟨true, pid⟩
  | free => .ok .stopped

/-- what an attempt to take the lock makes of it -/
def Attempted (path : Path) : Finding → Except LockError PidLock → Prop
  | faulty errno, r => r = .error (.lock path (.os errno))
  | busy pid, r => r = .error (.alreadyLocked pid)
  | free, r => ∀ pid, r ≠ .error (.alreadyLocked pid)

end Finding

/-- what the lock of a node answers to a new description -/
def Barriers.meets (b : Barriers) (host : Host) (id : NodeId) : Finding :=
  match host.kernel.lockFault with
  | some errno => .faulty errno
  | none => match host.kernel.fs.holder? id with
    | some _ => .busy (b.told host.kernel.fs id)
    | none => .free

theorem Program.run_bind_of_eq {α β σ : Type} {handler : Handler σ} {p : Program α} {s s' : σ}
    {a : α} (f : α → Program β) (h : p.run handler s = (a, s')) :
    (p >>= f).run handler s = (f a).run handler s' := by
  rw [run_bind, h]

namespace Barriers

variable {b : Barriers} {host : Host} {h : Handle} {d : Description} {path : Path}

/-! ## reading the number -/

/-- a program that the barriers do not concern -/
theorem run_eq {α : Type} {p : Program α}
    (hp : p.Asks fun q => ∀ host, b.handle q host = Host.handle q host) (host : Host) :
    p.run b.handle host = host.run p := by
  induction p generalizing host with
  | done a => rfl
  | ask q next ih =>
    have hq := hp.1 host
    show (next (b.handle q host).1).run b.handle (b.handle q host).2 = _
    rw [hq]
    exact ih _ (hp.2 _) _

theorem run_readPid (hd : host.kernel.fs.description? h = some d) :
    ((readPid h).run b.handle host).1 = b.told host.kernel.fs d.node := by
  unfold told
  cases hb : b.reading with
  | none =>
    rw [run_eq ((looks_readPid h).mono fun q hq host => ?_), Host.run_readPid hd]
    cases q with
    | rewind k => rfl
    | readAll k =>
      show barred b.reading host _ = _
      rw [hb]
      rfl
    | _ => exact hq.elim
  | some e =>
    unfold readPid
    rw [run_bind]
    split
    · rfl
    · rw [run_bind, run_request]
      have hread (host : Host) : b.handle (.readAll h) host = (.error e, host) := by
        show barred b.reading host _ = _
        rw [hb]
        rfl
      rw [hread]
      rfl

/-! ## behind the door -/

theorem isWouldBlock_eq_false {errno : Errno} (hne : errno ≠ .wouldBlock) :
    ¬ (IoError.os errno).isWouldBlock = true :=
  fun he => hne (of_decide_eq_true he)

/-- a new description is told what the lock of its node answers -/
theorem run_lock (b : Barriers) (hd : host.kernel.fs.description? h = some d)
    (hi : host.kernel.fs.Lockless h) :
    (∃ errno, host.kernel.lockFault = some errno ∧ b.meets host d.node = .faulty errno ∧
        (request (.lock h)).run b.handle host = (.error (.os errno), host)) ∨
      (b.meets host d.node = .busy (b.told host.kernel.fs d.node) ∧
        (request (.lock h)).run b.handle host = (.error (.os .wouldBlock), host)) ∨
      b.meets host d.node = .free ∧
        ∃ after, (request (.lock h)).run b.handle host = (.ok (), after) := by
  have hlock : (request (.lock h)).run b.handle host =
      Host.faulty host.kernel.lockFault host (host.onFs (host.kernel.fs.lock h)) := rfl
  rw [hlock]
  unfold meets
  cases hfault : host.kernel.lockFault with
  | some errno => exact .inl ⟨errno, rfl, rfl, rfl⟩
  | none =>
    refine .inr ?_
    cases hanswer : host.kernel.fs.lock h with
    | mk r fs =>
    unfold FileSystem.lock at hanswer
    rw [hd] at hanswer
    dsimp only at hanswer
    cases hholder : host.kernel.fs.holder? d.node with
    | none =>
      rw [hholder] at hanswer
      cases hanswer
      exact .inr ⟨rfl, _, rfl⟩
    | some other =>
      have hne : other ≠ h := hi _ (mem_locks_of_holder? hholder)
      rw [hholder] at hanswer
      dsimp only at hanswer
      rw [if_neg hne] at hanswer
      cases hanswer
      exact .inl ⟨rfl, rfl⟩

variable {after : Host}

/-- **What a probe tells** of a file that it has opened is what it finds. -/
theorem run_checkStatus_opened
    (hopen : (request (.openFile path .reading)).run b.handle host = (.ok h, after))
    (hb : after.kernel.lockFault ≠ some .wouldBlock)
    (hd : after.kernel.fs.description? h = some d) (hi : after.kernel.fs.Lockless h) :
    ((checkStatus path).run b.handle host).1 = (b.meets after d.node).probed := by
  unfold checkStatus
  rw [run_bind_of_eq _ hopen]
  dsimp only
  obtain ⟨errno, hfault, hmeets, hlock⟩ | ⟨hmeets, hlock⟩ | ⟨hmeets, locked, hlock⟩ :=
    b.run_lock hd hi
  · rw [run_bind_of_eq _ hlock, hmeets]
    dsimp only
    rw [if_neg (isWouldBlock_eq_false fun he => hb (he ▸ hfault))]
    rfl
  · rw [run_bind_of_eq _ hlock, hmeets]
    dsimp only
    rw [if_pos (show (IoError.os .wouldBlock).isWouldBlock = true from rfl), run_bind,
      run_readPid hd]
    rfl
  · rw [run_bind_of_eq _ hlock, hmeets]
    rfl

/-- **What an attempt tells** of a file that it has opened is what it finds. -/
theorem run_acquire_opened
    (hopen : (request (.openFile path .recording)).run b.handle host = (.ok h, after))
    (hb : after.kernel.lockFault ≠ some .wouldBlock)
    (hd : after.kernel.fs.description? h = some d) (hi : after.kernel.fs.Lockless h) :
    (b.meets after d.node).Attempted path ((PidLock.acquire path).run b.handle host).1 := by
  unfold PidLock.acquire
  rw [run_bind_of_eq _ hopen]
  dsimp only
  obtain ⟨errno, hfault, hmeets, hlock⟩ | ⟨hmeets, hlock⟩ | ⟨hmeets, locked, hlock⟩ :=
    b.run_lock hd hi
  · rw [run_bind_of_eq _ hlock, hmeets]
    dsimp only
    rw [if_neg (isWouldBlock_eq_false fun he => hb (he ▸ hfault))]
    rfl
  · rw [run_bind_of_eq _ hlock, hmeets]
    dsimp only
    rw [if_pos (show (IoError.os .wouldBlock).isWouldBlock = true from rfl), run_bind,
      run_readPid hd]
    rfl
  · rw [run_bind_of_eq _ hlock, hmeets]
    -- nothing that follows says that somebody has the lock
    refine Gives.run ?_ b.handle locked
    refine gives_after _ fun pid => gives_after _ fun r => ?_
    cases r with
    | error e => exact gives_after _ fun _ => nofun
    | ok _ => exact nofun

/-! ## the two doors -/

theorem run_openFile (b : Barriers) (host : Host) (path : Path) (mode : OpenMode) :
    (∃ e, ((request (.openFile path mode)).run b.handle host).1 = .error e) ∨
      ∃ h fs, b.opening mode = none ∧
        host.kernel.fs.openFile host.process.workDir path mode = (.ok h, fs) ∧
        (request (.openFile path mode)).run b.handle host = (.ok h, host.withFs fs) := by
  have hopen : (request (.openFile path mode)).run b.handle host =
      barred (b.opening mode) host
        (host.onFs (host.kernel.fs.openFile host.process.workDir path mode)) := rfl
  cases hb : b.opening mode with
  | some e =>
    rw [hb] at hopen
    exact .inl ⟨e, congrArg Prod.fst hopen⟩
  | none =>
    rw [hb] at hopen
    cases hanswer : host.kernel.fs.openFile host.process.workDir path mode with
    | mk r fs =>
    rw [hanswer] at hopen
    cases r with
    | error e => exact .inl ⟨e, congrArg Prod.fst hopen⟩
    | ok h => exact .inr ⟨h, fs, rfl, rfl, hopen⟩

theorem run_openFile_let {fs : FileSystem} {mode : OpenMode} (b : Barriers)
    (hb : b.opening mode = none)
    (h0 : host.kernel.fs.openFile host.process.workDir path mode = (.ok h, fs)) :
    ((request (.openFile path mode)).run b.handle host).1 = .ok h := by
  have hopen : (request (.openFile path mode)).run b.handle host =
      barred (b.opening mode) host
        (host.onFs (host.kernel.fs.openFile host.process.workDir path mode)) := rfl
  rw [hopen, hb, h0]
  rfl

/-- what is opened to be written is what is there, or else it has been made -/
theorem openFile_recording {fs fs' : FileSystem} {workDir : Path}
    (h0 : fs.openFile workDir path .recording = (.ok h, fs')) :
    (∃ id, Leads fs workDir path id ∧ Peeked fs fs' ∧ fs'.description? h = some ⟨id, 0, false⟩) ∨
      (∀ id, ¬ Leads fs workDir path id) ∧
        fs'.description? h = some ⟨fs.nodes.length, 0, false⟩ := by
  have hp {id : NodeId} (hl : Leads fs workDir path id) : Peeked fs (fs.openNode id .recording).2 :=
    peeked_openNode hl.lt .recording
  unfold openFile at h0
  split at h0
  · cases h0
  · next id hl =>
    have hleads : Leads fs workDir path id := target_of_creation hl
    have hpeeked := hp hleads
    rw [h0] at hpeeked
    obtain ⟨rfl, rfl⟩ := openNode_ok h0
    exact .inl ⟨id, hleads, hpeeked, List.getElem?_concat_length⟩
  · next directory name slash hl =>
    replace h0 : (fs.create directory name (.file [])).2.openNode fs.nodes.length .recording =
      (.ok h, fs') := h0
    obtain ⟨rfl, rfl⟩ := openNode_ok h0
    refine .inr ⟨fun id hleads => ?_, List.getElem?_concat_length⟩
    have hmissing := target_of_creation hl
    cases hmissing.symm.trans hleads

theorem meets_of_peeked {fs : FileSystem} (b : Barriers) (p : Peeked host.kernel.fs fs)
    (id : NodeId) : b.meets (host.withFs fs) id = b.meets host id := by
  have htold : b.told fs id = b.told host.kernel.fs id := by
    unfold told toldAt
    rw [p.node? id]
  show (match host.kernel.lockFault with
    | some errno => Finding.faulty errno
    | none => match fs.holder? id with
      | some _ => .busy (b.told fs id)
      | none => .free) = _
  rw [holder?_of_locks_eq p.locks, htold]
  rfl

variable (ho : host.kernel.fs.Orderly) (hblock : host.kernel.lockFault ≠ some .wouldBlock)
include ho hblock

/-- a probe is not let in, or tells what the node answers where the path leads -/
theorem run_checkStatus_cases (b : Barriers) (path : Path) :
    (∃ e, ((request (.openFile path .reading)).run b.handle host).1 = .error e ∧
        ((checkStatus path).run b.handle host).1 =
          if e.isNotFound then .ok .stopped else .error e) ∨
      ∃ id, Leads host.kernel.fs host.process.workDir path id ∧
        ((checkStatus path).run b.handle host).1 = (b.meets host id).probed := by
  obtain ⟨e, he⟩ | ⟨h, fs, -, h0, hopen⟩ := b.run_openFile host path .reading
  · refine .inl ⟨e, he, ?_⟩
    unfold checkStatus
    rw [run_bind, he]
    rfl
  · obtain ⟨id, hl, rfl, rfl⟩ := openFile_reading h0
    have hp := peeked_describe (Leads.lt hl) .reading
    have htold := run_checkStatus_opened hopen hblock List.getElem?_concat_length
      (hp.lockless ho.lockless)
    exact .inr ⟨id, hl, htold.trans (congrArg Finding.probed (b.meets_of_peeked hp id))⟩

/-- an attempt is not let in, or tells what the node answers where the path leads, or there was no
such node -/
theorem run_acquire_cases (b : Barriers) (path : Path) :
    (∃ e, ((request (.openFile path .recording)).run b.handle host).1 = .error e ∧
        ((PidLock.acquire path).run b.handle host).1 = .error (.openFile path e)) ∨
      (∃ id, b.opening .recording = none ∧ Leads host.kernel.fs host.process.workDir path id ∧
        (b.meets host id).Attempted path ((PidLock.acquire path).run b.handle host).1) ∨
      (∀ id, ¬ Leads host.kernel.fs host.process.workDir path id) ∧
        ∀ pid, ((PidLock.acquire path).run b.handle host).1 ≠ .error (.alreadyLocked pid) := by
  obtain ⟨e, he⟩ | ⟨h, fs, hb, h0, hopen⟩ := b.run_openFile host path .recording
  · refine .inl ⟨e, he, ?_⟩
    unfold PidLock.acquire
    rw [run_bind, he]
    rfl
  · refine .inr ?_
    have hcalm := calm_openFile host.kernel.fs host.process.workDir path .recording
    rw [h0] at hcalm
    have hlockless : fs.Lockless h := by
      rw [(openFile_ok h0).1]
      unfold Lockless
      rw [hcalm.locks]
      exact ho.lockless
    obtain ⟨id, hl, hp, hd⟩ | ⟨hnone, hd⟩ := openFile_recording h0
    · have htold := run_acquire_opened hopen hblock hd hlockless
      rw [b.meets_of_peeked hp id] at htold
      exact .inl ⟨id, hb, hl, htold⟩
    · refine .inr ⟨hnone, fun pid he => ?_⟩
      have htold := run_acquire_opened hopen hblock hd hlockless
      rw [he] at htold
      have hholder : fs.holder? host.kernel.fs.nodes.length = none := by
        rw [holder?_of_locks_eq hcalm.locks]
        cases hh : host.kernel.fs.holder? host.kernel.fs.nodes.length with
        | none => rfl
        | some other => exact absurd (ho.node_lt hh) (Nat.lt_irrefl _)
      unfold meets at htold
      split at htold
      · cases htold
      · replace htold : (match fs.holder? host.kernel.fs.nodes.length with
          | some _ => Finding.busy (b.told fs host.kernel.fs.nodes.length)
          | none => .free).Attempted path (.error (.alreadyLocked pid)) := htold
        rw [hholder] at htold
        exact htold pid rfl

end Barriers

/-! ## agreement -/

/-- how the answers of a probe and of an attempt go together -/
structure Agreement (b : Barriers) (host : Host) (path : Path) (probe : Except IoError Status)
    (attempt : Except LockError PidLock) : Prop where
  refused : ∀ pid, attempt = .error (.alreadyLocked pid) → probe = .ok ⟨true, pid⟩
  running : ∀ pid, probe = .ok ⟨true, pid⟩ →
    attempt = .error (.alreadyLocked pid) ∨ ∃ e, attempt = .error (.openFile path e)
  stopped : ∀ status, probe = .ok status → status.running = false →
    ∀ pid, attempt ≠ .error (.alreadyLocked pid)
  /-- whoever is let in is told of an error that locking gives -/
  faulty : ∀ errno, host.kernel.lockFault = some errno →
    (∀ mode, mode = .reading ∨ mode = .recording →
      ∃ h, ((request (.openFile path mode)).run b.handle host).1 = .ok h) →
    probe = .error (.os errno) ∧ attempt = .error (.lock path (.os errno))

def Untouched (host after : Host) : Prop :=
  after.kernel.fs.nodes = host.kernel.fs.nodes ∧ after.kernel.fs.locks = host.kernel.fs.locks

variable {b : Barriers} {host host' after : Host} {path : Path} {xs : List Exchange}

theorem Barriers.agreement (ho : host.kernel.fs.Orderly) (hlaw : b.Lawful)
    (hblock : host.kernel.lockFault ≠ some .wouldBlock) (path : Path) :
    Agreement b host path ((checkStatus path).run b.handle host).1
      ((PidLock.acquire path).run b.handle host).1 := by
  have hprobe := run_checkStatus_cases ho hblock b path
  have hattempt := run_acquire_cases ho hblock b path
  generalize ((checkStatus path).run b.handle host).1 = probe at hprobe ⊢
  generalize ((PidLock.acquire path).run b.handle host).1 = attempt at hattempt ⊢
  have hdoor (id : NodeId) (hb : b.opening .recording = none)
      (hl : Leads host.kernel.fs host.process.workDir path id) :
      probe = (b.meets host id).probed := by
    obtain ⟨e, he, -⟩ | ⟨id', hl', htold⟩ := hprobe
    · obtain ⟨h, fs, hopen⟩ := openFile_reading_of_lookup hl
      have hlet := b.run_openFile_let (hlaw hb) hopen
      cases he.symm.trans hlet
    · rw [hl.unique hl']
      exact htold
  have hrefused : ∀ pid, attempt = .error (.alreadyLocked pid) → probe = .ok ⟨true, pid⟩ := by
    rintro pid rfl
    obtain ⟨e, -, he⟩ | ⟨id, hb, hl, htold⟩ | ⟨-, hnot⟩ := hattempt
    · cases he
    · rw [hdoor id hb hl]
      cases hm : b.meets host id with
      | faulty errno =>
        rw [hm] at htold
        cases htold
      | busy pid' =>
        rw [hm] at htold
        cases htold
        rfl
      | free =>
        rw [hm] at htold
        exact absurd rfl (htold pid)
    · exact absurd rfl (hnot pid)
  refine ⟨hrefused, ?_, ?_, ?_⟩
  · rintro pid rfl
    obtain ⟨e, -, he⟩ | ⟨id, hl, htold⟩ := hprobe
    · split at he <;> cases he
    · have hbusy : b.meets host id = .busy pid := by
        cases hm : b.meets host id with
        | faulty errno =>
          rw [hm] at htold
          cases htold
        | busy pid' =>
          rw [hm] at htold
          cases htold
          rfl
        | free =>
          rw [hm] at htold
          cases htold
      obtain ⟨e, -, he⟩ | ⟨id', -, hl', hsame⟩ | ⟨hnone, -⟩ := hattempt
      · exact .inr ⟨e, he⟩
      · rw [← hl.unique hl', hbusy] at hsame
        exact .inl hsame
      · exact absurd hl (hnone id)
  · rintro status rfl hstopped pid hlocked
    obtain rfl := Except.ok.inj (hrefused pid hlocked)
    cases hstopped
  · intro errno hfault hopen
    have hmeets (id : NodeId) : b.meets host id = .faulty errno := by
      unfold Barriers.meets
      rw [hfault]
    obtain ⟨e, he, -⟩ | ⟨id, hl, htold⟩ := hprobe
    · obtain ⟨h, hlet⟩ := hopen .reading (.inl rfl)
      cases he.symm.trans hlet
    · rw [hmeets id] at htold
      refine ⟨htold, ?_⟩
      obtain ⟨e, he, -⟩ | ⟨id', -, -, hsame⟩ | ⟨hnone, -⟩ := hattempt
      · obtain ⟨h, hlet⟩ := hopen .recording (.inr rfl)
        cases he.symm.trans hlet
      · rwa [hmeets id'] at hsame
      · exact absurd hl (hnone id)

/-! ## what a probe leaves -/

theorem Control.status_peeked {c : Control} {r : Except ControlError Status}
    (ha : host.Attempts xs after) (ht : c.status.Takes xs r) (ho : host.kernel.fs.Orderly) :
    Peeked host.kernel.fs after.kernel.fs := by
  obtain ⟨ys, zs, probe, mid, rfl, hprobe, hys, ht', ha'⟩ := ha.bind ht
  obtain rfl : zs = [] := by
    cases probe <;> exact ht'.done_inv.1
  rw [ha'.nil_inv]
  exact Host.checkStatus_peeked hys hprobe ho

/-- what a host answers behind the barriers is the truth or a failure -/
theorem Barriers.attempts (ha : Answers b.handle host xs after) : host.Attempts xs after := by
  have hone (q : Request) (host : Host) :
      host.Attempt q (b.handle q host).1 (b.handle q host).2 := by
    cases q with
    | openFile path mode =>
      have hbarred : b.handle (.openFile path mode) host =
        barred (b.opening mode) host (Host.handle (.openFile path mode) host) := rfl
      rw [hbarred]
      cases b.opening mode with
      | some e => exact .failed e rfl
      | none => exact .answered _
    | readAll h =>
      have hbarred : b.handle (.readAll h) host =
        barred b.reading host (Host.handle (.readAll h) host) := rfl
      rw [hbarred]
      cases b.reading with
      | some e => exact .failed e rfl
      | none => exact .answered _
    | _ => exact .answered _
  induction ha with
  | nil host => exact .nil host
  | cons rest ih => exact .cons (hone _ _) ih

/-- the number that has been written is read -/
theorem readPid_writePid {h : Handle} {id : NodeId} {position pid : Nat} {content : Bytes}
    (hpid : pid ≤ Numeral.max32) (a : host.kernel.fs.At h id position content) :
    ∃ after, host.run (writePid h pid) = (.ok (), after) ∧ (after.run (readPid h)).1 = pid := by
  obtain ⟨fs, hrun, ⟨position', a'⟩, -⟩ := Host.run_writePid a pid
  refine ⟨host.withFs fs, hrun, ?_⟩
  have hread : ((host.withFs fs).run (readPid h)).1 = fs.toldAt id :=
    @Host.run_readPid (host.withFs fs) h _ a'.opens
  rw [hread]
  unfold toldAt
  rw [a'.file]
  exact recordedPid_pidRecord hpid

/-- **A probe and an attempt agree**, whatever the system refuses, and a probe changes nothing; and
the number that has been written is read. -/
theorem probing_agrees (ho : host.kernel.fs.Orderly) (hlaw : b.Lawful)
    (hblock : host.kernel.lockFault ≠ some .wouldBlock) (path : Path) :
    Agreement b host path ((checkStatus path).run b.handle host).1
        ((PidLock.acquire path).run b.handle host).1 ∧
      (∀ xs r after, (checkStatus path).Takes xs r → host.Attempts xs after →
        Untouched host after) ∧
      (∀ xs r after, (Control.status ⟨path⟩).Takes xs r → host.Attempts xs after →
        Untouched host after) ∧
      Untouched host ((checkStatus path).run b.handle host).2 ∧
      ∀ h id position content pid, pid ≤ Numeral.max32 →
        host.kernel.fs.At h id position content →
        ∃ after, host.run (writePid h pid) = (.ok (), after) ∧ (after.run (readPid h)).1 = pid := by
  refine ⟨Barriers.agreement ho hlaw hblock path, ?_, ?_, ?_, ?_⟩
  · intro xs r after ht ha
    have hp := Host.checkStatus_peeked ha ht ho
    exact ⟨hp.nodes, hp.locks⟩
  · intro xs r after ht ha
    have hp := Control.status_peeked ha ht ho
    exact ⟨hp.nodes, hp.locks⟩
  · obtain ⟨xs, ht, ha⟩ := takes_run b.handle (checkStatus path) host
    have hp := Host.checkStatus_peeked (Barriers.attempts ha) ht ho
    exact ⟨hp.nodes, hp.locks⟩
  · intro h id position content pid hpid a
    exact readPid_writePid hpid a

namespace Commanding

/-- an operator who may not write, beside a file whose lock somebody has -/
def watcher : Host := ⟨{ Reloading.kernel with fs := held (pidRecord 4) 0 }, operator⟩

def readOnly : Barriers := ⟨fun mode => if mode.write then some (.os .accessDenied) else none, none⟩

end Commanding

open Commanding in
theorem probing_agrees_readOnly : watcher.kernel.fs.Orderly ∧ readOnly.Lawful ∧
    watcher.kernel.lockFault ≠ some .wouldBlock ∧
    ((checkStatus Lone.pidFile).run readOnly.handle watcher).1 = .ok ⟨true, 4⟩ ∧
    ((PidLock.acquire Lone.pidFile).run readOnly.handle watcher).1 =
      .error (.openFile Lone.pidFile (.os .accessDenied)) ∧
    Agreement readOnly watcher Lone.pidFile
      ((checkStatus Lone.pidFile).run readOnly.handle watcher).1
      ((PidLock.acquire Lone.pidFile).run readOnly.handle watcher).1 ∧
    Untouched watcher ((checkStatus Lone.pidFile).run readOnly.handle watcher).2 := by
  have ho : watcher.kernel.fs.Orderly := by
    refine ⟨List.nodup_singleton _, ?_, ?_⟩
    · intro l hl
      obtain rfl := List.mem_singleton.mp hl
      exact ⟨⟨1, 0, false⟩, rfl, rfl⟩
    · intro d hd
      obtain rfl := List.mem_singleton.mp hd
      decide
  have hlaw : readOnly.Lawful := fun h => by cases h
  have hblock : watcher.kernel.lockFault ≠ some .wouldBlock := nofun
  obtain ⟨hagree, -, -, huntouched, -⟩ := probing_agrees ho hlaw hblock Lone.pidFile
  exact ⟨ho, hlaw, hblock, by cbv, rfl, hagree, huntouched⟩

end Succession
