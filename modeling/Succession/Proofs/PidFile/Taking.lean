import Succession.Proofs.PidFile.Addressee
import Succession.Proofs.PidFile.Lasting
import Succession.Proofs.PidFile.Record
import Succession.Proofs.PidFile.SingleInstance

/-!
# Taking the lock while calls may fail

Whoever takes the lock of a PID file makes up to nine calls, each of which may fail. On every way
out there is the lock with the record, or else the locks are what they were; a probe leaves every
lock and every node as it was, however it ends.

* `Attempts.peeked`, `Attempts.aside`   what comes of looking and of writing through a description;
* `Host.checkStatus_peeked`             a probe leaves no trace but descriptions;
* `Found fs h id pid`                   every probe finds the instance, and none takes its lock;
* `Taken`, `Refused`                    the ways out;
* `Bid`                                 how far an attempt comes before it takes one of them;
* `PidLock.acquire_ends`                there are no others;
* `PidLock.acquire_misreads`            a refusal may name no number although there is one.
-/

namespace Succession

open FileSystem Program

def Exchange.Failed (x : Exchange) : Prop := ∃ e, x.question.failure? e = some x.answer

def Request.Looks (h : Handle) : Request → Prop
  | .rewind k | .readAll k => k = h
  | _ => False

/-- the file is written through this description, or looked at -/
def Request.Through (h : Handle) : Request → Prop
  | .truncate k | .rewind k | .write k _ | .sync k => k = h
  | _ => False

theorem looks_readPid (h : Handle) : (readPid h).Asks (Request.Looks h) :=
  asks_try (asks_request rfl) (fun _ => asks_pure _ _) fun _ =>
    asks_try (asks_request rfl) (fun _ => asks_pure _ _) fun _ => asks_pure _ _

theorem through_writePid (h : Handle) (pid : Nat) :
    (writePid h pid).Asks (Request.Through h) :=
  asks_try (asks_request rfl) (fun _ => asks_pure _ _) fun _ =>
    asks_try (asks_request rfl) (fun _ => asks_pure _ _) fun _ =>
      asks_try (asks_request rfl) (fun _ => asks_pure _ _) fun _ =>
        asks_try (asks_request rfl) (fun _ => asks_pure _ _) fun _ => asks_request rfl

namespace Host

variable {host mid host' : Host} {q : Request} {r : q.Reply} {xs : List Exchange} {h : Handle}
  {id : NodeId} {d : Description}

/-! ## through one description -/

/-- what has not failed is what a host does -/
theorem Attempt.truly (ha : host.Attempt q r host') (hok : ¬ Exchange.Failed ⟨q, r⟩)
    (hunlock : ∀ h, q ≠ .unlock h) : handle q host = (r, host') := by
  cases ha with
  | answered => rfl
  | failed e hr => exact absurd ⟨e, hr⟩ hok
  | partly e => exact absurd ⟨e, rfl⟩ hok
  | unlocked h => exact absurd rfl (hunlock h)

theorem Attempt.peeked (ha : host.Attempt q r host') (hq : q.Looks h) :
    Peeked host.kernel.fs host'.kernel.fs := by
  refine ha.fs_ind (peeked_refl _) ?_ ?_
  · cases q with
    | rewind k => exact peeked_rewind _ k
    | readAll k => exact peeked_readAll _ k
    | _ => exact hq.elim
  · rintro k data written rfl
    exact hq.elim

theorem Attempts.peeked (ha : host.Attempts xs host') (hx : ∀ x ∈ xs, x.question.Looks h) :
    Peeked host.kernel.fs host'.kernel.fs := by
  refine ha.keeps (P := fun after => Peeked host.kernel.fs after.kernel.fs) ?_ (peeked_refl _)
  intro x hm before after hstep hp
  exact hp.trans (hstep.peeked (hx x hm))

end Host

namespace FileSystem

variable {fs fs' : FileSystem} {id : NodeId} {h : Handle} {d : Description}

def On (fs : FileSystem) (h : Handle) (id : NodeId) : Prop :=
  ∃ position, fs.description? h = some ⟨id, position, false⟩

theorem on_setPosition {position : Nat} (hd : fs.description? h = some ⟨id, position, false⟩)
    (position' : Nat) : (fs.setPosition h ⟨id, position, false⟩ position').On h id := by
  refine ⟨position', ?_⟩
  rw [description?_setPosition hd, if_pos rfl]

theorem on_truncate (ho : fs.On h id) : (fs.truncate h).2.On h id := by
  obtain ⟨position, hd⟩ := ho
  unfold truncate
  rw [hd]
  dsimp only
  split <;> exact ⟨position, hd⟩

theorem on_rewind (ho : fs.On h id) : (fs.rewind h).2.On h id := by
  obtain ⟨position, hd⟩ := ho
  unfold rewind
  rw [hd]
  dsimp only
  split
  · exact ⟨position, hd⟩
  · exact on_setPosition hd 0

theorem on_write (ho : fs.On h id) (data : Bytes) : (fs.write h data).2.On h id := by
  obtain ⟨position, hd⟩ := ho
  unfold write
  rw [hd]
  dsimp only
  split
  · exact on_setPosition hd _
  · exact ⟨position, hd⟩
  · exact ⟨position, hd⟩
  · exact ⟨position, hd⟩

end FileSystem

namespace Host

variable {host mid host' : Host} {q : Request} {r : q.Reply} {xs : List Exchange} {h : Handle}
  {id : NodeId} {d : Description}

theorem Attempt.aside (ha : host.Attempt q r host') (hq : q.Through h)
    (ho : host.kernel.fs.On h id) :
    Aside id host.kernel.fs host'.kernel.fs ∧ host'.kernel.fs.On h id := by
  have hsame : Aside id host.kernel.fs host.kernel.fs := (peeked_refl _).aside id
  obtain ⟨position, hd⟩ := ho
  refine ha.fs_ind (P := fun fs => Aside id host.kernel.fs fs ∧ fs.On h id)
    ⟨hsame, position, hd⟩ ?_ ?_
  · cases q with
    | truncate k =>
      obtain rfl : k = h := hq
      exact ⟨aside_truncate hd, on_truncate ⟨position, hd⟩⟩
    | rewind k =>
      obtain rfl : k = h := hq
      exact ⟨(peeked_rewind _ k).aside id, on_rewind ⟨position, hd⟩⟩
    | write k data =>
      obtain rfl : k = h := hq
      exact ⟨aside_write hd data, on_write ⟨position, hd⟩ data⟩
    | sync k => exact ⟨hsame, position, hd⟩
    | _ => exact hq.elim
  · rintro k data written rfl
    obtain rfl : k = h := hq
    exact ⟨aside_write hd written, on_write ⟨position, hd⟩ written⟩

theorem Attempts.aside (ha : host.Attempts xs host') (hx : ∀ x ∈ xs, x.question.Through h)
    (ho : host.kernel.fs.On h id) :
    Aside id host.kernel.fs host'.kernel.fs ∧ host'.kernel.fs.On h id := by
  refine ha.keeps (P := fun after => Aside id host.kernel.fs after.kernel.fs ∧
    after.kernel.fs.On h id) ?_ ⟨(peeked_refl _).aside id, ho⟩
  rintro x hm before after hstep ⟨haside, hon⟩
  obtain ⟨haside', hon'⟩ := hstep.aside (hx x hm) hon
  exact ⟨haside.trans haside', hon'⟩

end Host

/-! ## reading and writing the record -/

theorem FileSystem.readAll_told {fs fs' : FileSystem} {h : Handle} {d : Description}
    {content : Bytes} (hd : fs.description? h = some { d with position := 0 })
    (h0 : fs.readAll h = (.ok content, fs')) : recordedPid content = fs.toldAt d.node := by
  unfold FileSystem.readAll at h0
  rw [hd] at h0
  dsimp only at h0
  unfold toldAt
  split at h0
  · next hn =>
    cases h0
    rw [hn]
    rfl
  · cases h0
  · next hfile hdirectory =>
    cases h0
    show 0 = _
    split
    · next hn => exact absurd hn (hfile _)
    · rfl

namespace Host

variable {host mid host' : Host} {q : Request} {r : q.Reply} {xs : List Exchange} {h : Handle}
  {id : NodeId} {d : Description} {pid : Nat}

/-- whoever reads a file is told its number, or zero if the reading fails -/
theorem readPid_told (ha : host.Attempts xs host') (ht : (readPid h).Takes xs pid)
    (hd : host.kernel.fs.description? h = some d) :
    pid = host.kernel.fs.toldAt d.node ∨ pid = 0 ∧ ∃ x ∈ xs, x.question.Looks h ∧ x.Failed := by
  obtain ⟨r, mid, ys, rfl, hrewind, ht', ha'⟩ := ha.ask ht
  cases r with
  | error e => exact .inr ⟨ht'.done_inv.2, _, List.mem_cons_self, rfl, e, rfl⟩
  | ok u =>
    have h0 := Host.onFs_eq (hrewind.truly (by rintro ⟨e, he⟩; cases he) nofun)
    obtain ⟨-, hfs⟩ | ⟨e, he, -⟩ := rewind_cases hd h0
    · obtain ⟨r, mid', zs, rfl, hread, ht'', -⟩ := ha'.ask ht'
      cases r with
      | error e =>
        exact .inr ⟨ht''.done_inv.2, _, List.mem_cons_of_mem _ List.mem_cons_self, rfl, e, rfl⟩
      | ok content =>
        have h1 := Host.onFs_eq (hread.truly (by rintro ⟨e, he⟩; cases he) nofun)
        have hd' : mid.kernel.fs.description? h = some { d with position := 0 } := by
          rw [hfs, description?_setPosition hd, if_pos rfl]
        refine .inl (ht''.done_inv.2.trans ((readAll_told hd' h1).trans ?_))
        rw [hfs]
        rfl
    · cases he

/-- a call without which the record is not written -/
theorem Attempts.wrote {q : Request} {f : q.Reply → Program (Except IoError Unit)}
    (ha : host.Attempts xs host') (ht : (request q >>= f).Takes xs (.ok ()))
    (hfail : ∀ e r, q.failure? e = some r → f r = pure (.error e)) (hunlock : ∀ h, q ≠ .unlock h) :
    ∃ r mid ys, handle q host = (r, mid) ∧ (f r).Takes ys (.ok ()) ∧ mid.Attempts ys host' := by
  obtain ⟨r, mid, ys, -, hfirst, ht', ha'⟩ := ha.ask ht
  refine ⟨r, mid, ys, hfirst.truly ?_ hunlock, ht', ha'⟩
  rintro ⟨e, he⟩
  rw [hfail e r he] at ht'
  cases ht'.done_inv.2

/-- **What is written without a failure is the record**, whatever was there before. -/
theorem writePid_wrote (ha : host.Attempts xs host') (ht : (writePid h pid).Takes xs (.ok ()))
    (ho : host.kernel.fs.On h id) :
    ∃ position, host'.kernel.fs.At h id position (pidRecord pid) := by
  obtain ⟨position, hd⟩ := ho
  obtain ⟨r₁, host₁, ys₁, h₁, ht₁, ha₁⟩ := ha.wrote ht (fun e r he => by cases he; rfl) nofun
  obtain ⟨content, rfl, hn, -⟩ | ⟨e, rfl, -⟩ := truncate_cases hd (onFs_eq h₁)
  swap
  · cases ht₁.done_inv.2
  have a : host.kernel.fs.At h id position content := ⟨hd, hn⟩
  obtain ⟨fs₁, e₁, a₁, -⟩ := a.truncate
  obtain ⟨-, rfl⟩ := Prod.mk.inj ((onFs_eq h₁).symm.trans e₁)
  obtain ⟨r₂, host₂, ys₂, h₂, ht₂, ha₂⟩ := ha₁.wrote ht₁ (fun e r he => by cases he; rfl) nofun
  obtain ⟨fs₂, e₂, a₂, -⟩ := a₁.rewind
  obtain ⟨rfl, rfl⟩ := Prod.mk.inj ((onFs_eq h₂).symm.trans e₂)
  have a₂ : host₂.kernel.fs.At h id ([] : Bytes).length [] := a₂
  obtain ⟨r₃, host₃, ys₃, h₃, ht₃, ha₃⟩ := ha₂.wrote ht₂ (fun e r he => by cases he; rfl) nofun
  obtain ⟨fs₃, e₃, a₃, -⟩ := a₂.write (pidDigits pid)
  obtain ⟨rfl, rfl⟩ := Prod.mk.inj ((onFs_eq h₃).symm.trans e₃)
  rw [List.nil_append] at a₃
  obtain ⟨r₄, host₄, ys₄, h₄, ht₄, ha₄⟩ := ha₃.wrote ht₃ (fun e r he => by cases he; rfl) nofun
  obtain ⟨fs₄, e₄, a₄, -⟩ := a₃.write newline
  obtain ⟨rfl, rfl⟩ := Prod.mk.inj ((onFs_eq h₄).symm.trans e₄)
  replace ht₄ : (request (.sync h) >>= pure).Takes ys₄ (.ok ()) := ht₄
  obtain ⟨r₅, host₅, ys₅, h₅, ht₅, ha₅⟩ := ha₄.wrote ht₄ (fun e r he => by cases he; rfl) nofun
  obtain ⟨rfl, -⟩ := ht₅.done_inv
  obtain rfl := ha₅.nil_inv
  cases h₅
  exact ⟨_, a₄⟩

end Host

/-! ## probing -/

namespace FileSystem

variable {fs fs' : FileSystem} {id : NodeId} {h : Handle} {workDir path : Path}

def Lockless (fs : FileSystem) (h : Handle) : Prop := ∀ l ∈ fs.locks, l.2 ≠ h

theorem Orderly.lockless (ho : fs.Orderly) : fs.Lockless fs.descriptions.length :=
  fun _ hl => Nat.ne_of_lt (ho.lt_of_mem hl)

theorem Peeked.lockless (p : Peeked fs fs') (hi : fs.Lockless h) : fs'.Lockless h := by
  unfold Lockless
  rw [p.locks]
  exact hi

/-- whoever has just taken a lock gives up no other with it -/
theorem Lockless.unlock_locked (hi : fs.Lockless h) (id : NodeId) :
    FileSystem.unlock { fs with locks := (id, h) :: fs.locks } h = fs := by
  have hdrop : ((id, h) :: fs.locks).filter (fun l => l.2 ≠ h) =
      fs.locks.filter fun l => l.2 ≠ h := List.filter_cons_of_neg (by simp)
  have hsame := unlock_eq hi
  unfold FileSystem.unlock at hsame ⊢
  rw [hdrop]
  exact hsame

theorem peeked_openFile_reading (fs : FileSystem) (workDir path : Path) :
    Peeked fs (fs.openFile workDir path .reading).2 := by
  unfold openFile
  split
  · exact peeked_refl fs
  · next id hl => exact peeked_openNode (Leads.lt hl) .reading
  · exact peeked_refl fs

end FileSystem

namespace Host

variable {host mid host' : Host} {xs : List Exchange} {h : Handle} {path : Path} {mode : OpenMode}
  {d : Description}

/-- what has been opened is new, has no lock, and is where the path leads -/
theorem Attempt.opened {r : Except IoError Handle}
    (ha : host.Attempt (.openFile path mode) r host') (ho : host.kernel.fs.Orderly) :
    Calm host.kernel.fs host'.kernel.fs ∧ ∀ h, r = .ok h →
      h = host.kernel.fs.descriptions.length ∧ host'.kernel.fs.Lockless h ∧
      ∃ id, Leads host'.kernel.fs host.process.workDir path id ∧
        host'.kernel.fs.description? h = some ⟨id, 0, mode.append⟩ := by
  have hcalm : Calm host.kernel.fs host'.kernel.fs :=
    ha.fs_ind (calm_refl _) (calm_openFile _ host.process.workDir path mode) nofun
  refine ⟨hcalm, ?_⟩
  rintro h rfl
  have h0 := onFs_eq (ha.truly (by rintro ⟨e, he⟩; cases he) nofun)
  obtain ⟨-, hnew⟩ := opened_openFile h0
  obtain ⟨rfl, -, id, hl, hd⟩ := hnew h rfl
  refine ⟨rfl, ?_, id, hl, hd⟩
  unfold Lockless
  rw [hcalm.locks]
  exact ho.lockless

/-- a lock is had if nobody has it, or else the locks stay as they are -/
theorem Attempt.locked {r : Except IoError Unit} (ha : host.Attempt (.lock h) r host')
    (hd : host.kernel.fs.description? h = some d) (hi : host.kernel.fs.Lockless h) :
    r = .ok () ∧ host.kernel.fs.holder? d.node = none ∧
        host'.kernel.fs = { host.kernel.fs with locks := (d.node, h) :: host.kernel.fs.locks } ∨
      ∃ e, r = .error e ∧ host'.kernel.fs = host.kernel.fs := by
  cases ha with
  | answered =>
    have h0 : handle (.lock h) host = (_, _) := rfl
    obtain hl | ⟨he, hfs⟩ := handle_lock_cases h0
    · obtain hfree | ⟨-, hmine, -⟩ | hrefused := lock_cases hd hl
      · exact .inl hfree
      · exact absurd rfl (hi _ (mem_locks_of_holder? hmine))
      · exact .inr hrefused
    · obtain ⟨e, he⟩ := he
      exact .inr ⟨e, he, hfs⟩
  | failed e hr =>
    cases hr
    exact .inr ⟨e, rfl, rfl⟩

theorem Attempt.closed {r : Unit} (ha : host.Attempt (.close h) r host') :
    host'.kernel.fs = host.kernel.fs.unlock h := by
  cases ha with
  | answered => rfl
  | failed e hr => cases hr

/-- a description is closed, and has no lock by then -/
theorem Attempts.closes {α : Type} {a b : α} (ha : host.Attempts xs host')
    (ht : (request (.close h) >>= fun _ => pure a).Takes xs b) :
    host'.kernel.fs = host.kernel.fs.unlock h ∧ b = a := by
  obtain ⟨r, mid, ys, -, hclose, ht', ha'⟩ := ha.ask ht
  obtain ⟨rfl, rfl⟩ := ht'.done_inv
  rw [ha'.nil_inv]
  exact ⟨hclose.closed, rfl⟩

/-- the number is read, and then the description is closed -/
theorem Attempts.reads_closes {α : Type} {f : Nat → α} {b : α} (ha : host.Attempts xs host')
    (ht : (readPid h >>= fun pid => request (.close h) >>= fun _ => pure (f pid)).Takes xs b)
    (hd : host.kernel.fs.description? h = some d) (hi : host.kernel.fs.Lockless h) :
    Peeked host.kernel.fs host'.kernel.fs ∧ ∃ pid, b = f pid ∧
      (pid = host.kernel.fs.toldAt d.node ∨ pid = 0 ∧ ∃ x ∈ xs, x.question.Looks h ∧ x.Failed) := by
  obtain ⟨ys, zs, pid, mid, rfl, hread, hmid, ht', ha'⟩ := ha.bind ht
  have hp : Peeked host.kernel.fs mid.kernel.fs := hmid.peeked (hread.asked (looks_readPid h))
  obtain ⟨hclosed, rfl⟩ := ha'.closes ht'
  rw [unlock_eq (hp.lockless hi)] at hclosed
  rw [hclosed]
  refine ⟨hp, pid, rfl, ?_⟩
  obtain htold | ⟨hzero, x, hx, hfailed⟩ := readPid_told hmid hread hd
  · exact .inl htold
  · exact .inr ⟨hzero, x, List.mem_append_left _ hx, hfailed⟩

/-- **A probe leaves no trace** but descriptions, whatever it comes to and whatever fails. -/
theorem checkStatus_peeked {r : Except IoError Status} (ha : host.Attempts xs host')
    (ht : (checkStatus path).Takes xs r) (ho : host.kernel.fs.Orderly) :
    Peeked host.kernel.fs host'.kernel.fs := by
  obtain ⟨r₁, mid, ys, rfl, hopen, ht₁, ha₁⟩ := ha.ask ht
  have hp : Peeked host.kernel.fs mid.kernel.fs :=
    hopen.fs_ind (peeked_refl _) (peeked_openFile_reading _ host.process.workDir path) nofun
  cases r₁ with
  | error e =>
    obtain ⟨rfl, -⟩ := ht₁.done_inv
    rw [ha₁.nil_inv]
    exact hp
  | ok h =>
    obtain ⟨-, hnew⟩ := hopen.opened ho
    obtain ⟨-, hlockless, id, -, hd⟩ := hnew h rfl
    obtain ⟨r₂, mid', zs, rfl, hlock, ht₂, ha₂⟩ := ha₁.ask ht₁
    obtain ⟨rfl, -, hfs⟩ | ⟨e, rfl, hfs⟩ := hlock.locked hd hlockless
    · obtain ⟨hclosed, -⟩ := ha₂.closes ht₂
      rw [hfs, hlockless.unlock_locked] at hclosed
      rw [hclosed]
      exact hp
    · rw [← hfs] at hlockless hd
      dsimp only at ht₂
      split at ht₂
      · obtain ⟨hread, -⟩ := ha₂.reads_closes ht₂ hd hlockless
        rw [hfs] at hread
        exact hp.trans hread
      · obtain ⟨hclosed, -⟩ := ha₂.closes ht₂
        rw [unlock_eq hlockless, hfs] at hclosed
        rw [hclosed]
        exact hp

end Host

/-! ## a lock that is held -/

/-- the instance that has the lock of the file `id` through `h` -/
structure Found (fs : FileSystem) (h : Handle) (id : NodeId) (pid : Nat) : Prop where
  holder : fs.holder? id = some h
  file : fs.node? id = some (.file (pidRecord pid))
  /-- every probe finds it, under every name of the file, unless locking fails otherwise -/
  reported : ∀ (prober : Host) (path : Path), prober.kernel.fs = fs →
    prober.kernel.lockFault = none → Leads fs prober.process.workDir path id →
    (prober.run (checkStatus path)).1 = .ok ⟨true, pid⟩
  /-- no probe changes a lock or a node, whoever makes it and whatever fails -/
  undisturbed : ∀ (prober after : Host) (path : Path) (xs : List Exchange)
    (r : Except IoError Status), prober.kernel.fs = fs → (checkStatus path).Takes xs r →
    prober.Attempts xs after → after.kernel.fs.locks = fs.locks ∧ after.kernel.fs.nodes = fs.nodes
  /-- the lock is free once it is released, even if unlocking fails -/
  released : ∀ (owner after : Host) (lock : PidLock) (xs : List Exchange),
    owner.kernel.fs = fs → lock.handle = h → lock.release.Takes xs () →
    owner.Attempts xs after → after.kernel.fs.holder? id = none

section
variable {fs fs' : FileSystem} {id : NodeId} {h : Handle} {pid : Nat} {host host' : Host}
  {xs : List Exchange} {path : Path} {lock : PidLock}

/-- a lock is given up, and then its description -/
theorem PidLock.releases (ha : host.Attempts xs host') (ht : lock.release.Takes xs ()) :
    ∃ mid, host.Attempt (.unlock lock.handle) () mid ∧
      mid.Attempt (.close lock.handle) () host' := by
  obtain ⟨r, mid, ys, rfl, hunlock, ht', ha'⟩ := ha.ask ht
  replace ht' : (request (.close lock.handle) >>= fun _ => pure ()).Takes ys () := ht'
  obtain ⟨r', last, zs, rfl, hclose, ht'', ha''⟩ := ha'.ask ht'
  obtain ⟨rfl, -⟩ := ht''.done_inv
  obtain rfl := ha''.nil_inv
  exact ⟨mid, hunlock, hclose⟩

theorem PidLock.released_free (ha : host.Attempts xs host') (ht : lock.release.Takes xs ())
    (ho : host.kernel.fs.Orderly) (hh : host.kernel.fs.holder? id = some lock.handle) :
    host'.kernel.fs.holder? id = none := by
  obtain ⟨mid, hunlock, hclose⟩ := lock.releases ha ht
  rw [hclose.closed]
  cases hunlock with
  | answered =>
    have hfree : (host.kernel.fs.unlock lock.handle).holder? id = none :=
      holder?_unlock ho.exclusive hh
    have hne := holder?_unlock_ne host.kernel.fs lock.handle id
    exact (holder?_unlock_of_ne hne).trans hfree
  | failed e hr => cases hr
  | unlocked => exact holder?_unlock ho.exclusive hh

theorem FileSystem.Holds.found (hh : fs.Holds h id (pidRecord pid))
    (hpid : pid ≤ Numeral.max32) : Found fs h id pid := by
  refine ⟨hh.holder, hh.file, ?_, ?_, ?_⟩
  · rintro prober path rfl hfault hleads
    have hrefuses : prober.kernel.Refuses prober.process.workDir path :=
      ⟨id, hleads, .inr ⟨hfault, h, hh.holder, Nat.ne_of_lt (hh.orderly.lt hh.holder)⟩⟩
    have htold : prober.kernel.fs.toldAt id = pid := by
      unfold toldAt
      rw [hh.file]
      exact recordedPid_pidRecord hpid
    rw [(Host.run_checkStatus prober path).1 hrefuses, toldPid_of_lookup hleads, htold]
  · rintro prober after path xs r rfl ht ha
    have hp := Host.checkStatus_peeked ha ht hh.orderly
    exact ⟨hp.locks, hp.nodes⟩
  · rintro owner after lock xs rfl rfl ht ha
    exact lock.released_free ha ht hh.orderly hh.holder

end

/-! ## the ways out -/

namespace PidLock

structure Taken (host host' : Host) (path : Path) (lock : PidLock) (id : NodeId) : Prop where
  named : lock.path = path
  /-- the lock has a description of its own -/
  own : lock.handle = host.kernel.fs.descriptions.length
  leads : Leads host'.kernel.fs host.process.workDir path id
  /-- nobody had it -/
  free : host.kernel.fs.holder? id = none
  /-- and everybody keeps what they had -/
  locks : host'.kernel.fs.locks = (id, lock.handle) :: host.kernel.fs.locks
  others : ∀ other content, other ≠ id → host.kernel.fs.node? other = some (.file content) →
    host'.kernel.fs.node? other = some (.file content)
  /-- the instance is found until its lock is released or its file written -/
  lasts : ∀ fs, Later lock.handle id host'.kernel.fs fs → Found fs lock.handle id host.process.pid

/-- the lock has not been taken, and an error says why -/
inductive Refused (host host' : Host) (path : Path) (xs : List Exchange) : LockError → Prop where
  | openFile {e : IoError} (hasked : ⟨.openFile path .recording, .error e⟩ ∈ xs)
      (hcalm : Calm host.kernel.fs host'.kernel.fs) : Refused host host' path xs (.openFile path e)
  | lock {h : Handle} {e : IoError} (hasked : ⟨.lock h, .error e⟩ ∈ xs)
      (hother : e.isWouldBlock = false) (hcalm : Calm host.kernel.fs host'.kernel.fs) :
      Refused host host' path xs (.lock path e)
  /-- the number is the one in the file, or zero if looking at the file fails -/
  | alreadyLocked {h : Handle} {e : IoError} {id : NodeId} {pid : Nat}
      (hasked : ⟨.lock h, .error e⟩ ∈ xs) (hblock : e.isWouldBlock = true)
      (hcalm : Calm host.kernel.fs host'.kernel.fs)
      (hleads : Leads host'.kernel.fs host.process.workDir path id)
      (htold : pid = host'.kernel.fs.toldAt id ∨
        pid = 0 ∧ ∃ x ∈ xs, x.question.Looks h ∧ x.Failed) :
      Refused host host' path xs (.alreadyLocked pid)
  /-- at most the file whose lock was free has been written -/
  | write {id : NodeId} {e : IoError} (hfree : host.kernel.fs.holder? id = none)
      (hleads : Leads host'.kernel.fs host.process.workDir path id)
      (hothers : ∀ other content, other ≠ id → host.kernel.fs.node? other = some (.file content) →
        host'.kernel.fs.node? other = some (.file content)) :
      Refused host host' path xs (.write path e)

def Ends (host host' : Host) (path : Path) (xs : List Exchange) : Except LockError PidLock → Prop
  | .ok lock => ∃ id, Taken host host' path lock id
  | .error e => host'.kernel.fs.locks = host.kernel.fs.locks ∧
    (∀ h id, host.kernel.fs.descriptions.length ≤ h → host'.kernel.fs.holder? id ≠ some h) ∧
    Refused host host' path xs e

variable {host host' : Host} {xs : List Exchange} {path : Path}

/-- while the locks are as they were, no description that came since has one -/
theorem ends_error {e : LockError} (ho : host.kernel.fs.Orderly)
    (hlocks : host'.kernel.fs.locks = host.kernel.fs.locks)
    (hrefused : Refused host host' path xs e) : Ends host host' path xs (.error e) := by
  refine ⟨hlocks, fun h id hnew hh => ?_, hrefused⟩
  have hlt := ho.lt_of_mem (hlocks ▸ mem_locks_of_holder? hh)
  exact absurd hnew (Nat.not_le_of_lt hlt)

/-- the record is written, or the lock given up again -/
theorem records {r : Except LockError PidLock} {h : Handle} {id : NodeId} {mid : Host}
    (ha : mid.Attempts xs host')
    (ht : (request .processId >>= fun pid => writePid h pid >>= fun r => match r with
      | .error source => request (.close h) >>= fun _ => pure (.error (.write path source))
      | .ok () => pure (.ok ⟨path, h⟩)).Takes xs r) (ho : mid.kernel.fs.On h id) :
    (∃ fs, Aside id mid.kernel.fs fs ∧ host'.kernel.fs = fs.unlock h ∧
        ∃ e, r = .error (.write path e)) ∨
      Aside id mid.kernel.fs host'.kernel.fs ∧ r = .ok ⟨path, h⟩ ∧
        host'.kernel.fs.node? id = some (.file (pidRecord mid.process.pid)) := by
  obtain ⟨pid, mid', ys, rfl, hpid, ht₁, ha₁⟩ := ha.ask ht
  have hfs : mid'.kernel.fs = mid.kernel.fs := hpid.fs_of_quiet trivial
  obtain rfl : pid = mid.process.pid := by
    cases hpid with
    | answered => rfl
    | failed e hr => cases hr
  rw [← hfs] at ho ⊢
  obtain ⟨zs, ws, written, last, rfl, hwrite, hzs, ht₂, ha₂⟩ := ha₁.bind ht₁
  obtain ⟨haside, -⟩ := hzs.aside (hwrite.asked (through_writePid h mid.process.pid)) ho
  cases written with
  | error e =>
    obtain ⟨hclosed, rfl⟩ := ha₂.closes ht₂
    exact .inl ⟨_, haside, hclosed, e, rfl⟩
  | ok u =>
    obtain ⟨position, hat⟩ := Host.writePid_wrote hzs hwrite ho
    obtain ⟨rfl, rfl⟩ := ht₂.done_inv
    obtain rfl := ha₂.nil_inv
    exact .inr ⟨haside, rfl, hat.file⟩

/-- a description that has come by opening a path -/
structure Opening (host mid : Host) (path : Path) (h : Handle) (id : NodeId) : Prop where
  own : h = host.kernel.fs.descriptions.length
  calm : Calm host.kernel.fs mid.kernel.fs
  lockless : mid.kernel.fs.Lockless h
  leads : Leads mid.kernel.fs host.process.workDir path id
  there : mid.kernel.fs.description? h = some ⟨id, 0, false⟩

/-- how far a bid for the lock has come, and what is left of it -/
inductive Bid (host host' : Host) (path : Path) (xs : List Exchange)
    (r : Except LockError PidLock) : Prop where
  | closed {e : IoError} (hr : r = .error (.openFile path e))
      (hasked : ⟨.openFile path .recording, .error e⟩ ∈ xs)
      (hcalm : Calm host.kernel.fs host'.kernel.fs)
  | had {h : Handle} {id : NodeId} {mid locked : Host} {ys : List Exchange}
      (o : Opening host mid path h id) (hfree : mid.kernel.fs.holder? id = none)
      (hfs : locked.kernel.fs = { mid.kernel.fs with locks := (id, h) :: mid.kernel.fs.locks })
      (hsame : locked.process.pid = host.process.pid) (ha : locked.Attempts ys host')
      (ht : (request .processId >>= fun pid => writePid h pid >>= fun r => match r with
        | .error source => request (.close h) >>= fun _ => pure (.error (.write path source))
        | .ok () => pure (.ok ⟨path, h⟩)).Takes ys r)
  /-- another description has it -/
  | blocked {h : Handle} {id : NodeId} {e : IoError} {mid : Host} {ys : List Exchange}
      (o : Opening host mid path h id) (hasked : ⟨.lock h, .error e⟩ ∈ xs)
      (hblock : e.isWouldBlock = true) (hys : ∀ x ∈ ys, x ∈ xs) (ha : mid.Attempts ys host')
      (ht : (readPid h >>= fun pid => request (.close h) >>= fun _ =>
        pure (.error (.alreadyLocked pid))).Takes ys r)
  | failed {h : Handle} {id : NodeId} {e : IoError} {mid : Host} {ys : List Exchange}
      (o : Opening host mid path h id) (hasked : ⟨.lock h, .error e⟩ ∈ xs)
      (hother : e.isWouldBlock = false) (ha : mid.Attempts ys host')
      (ht : (request (.close h) >>= fun _ => pure (.error (.lock path e))).Takes ys r)

theorem bid_acquire {r : Except LockError PidLock} (ho : host.kernel.fs.Orderly)
    (ha : host.Attempts xs host') (ht : (PidLock.acquire path).Takes xs r) :
    Bid host host' path xs r := by
  obtain ⟨r₁, mid, ys, rfl, hopen, ht₁, ha₁⟩ := ha.ask ht
  obtain ⟨hcalm, hnew⟩ := hopen.opened ho
  cases r₁ with
  | error e =>
    obtain ⟨rfl, rfl⟩ := ht₁.done_inv
    obtain rfl := ha₁.nil_inv
    exact .closed rfl List.mem_cons_self hcalm
  | ok h =>
    obtain ⟨hown, hlockless, id, hleads, hd⟩ := hnew h rfl
    obtain ⟨r₂, locked, zs, rfl, hlock, ht₂, ha₂⟩ := ha₁.ask ht₁
    have hasked : ⟨.lock h, r₂⟩ ∈ (⟨.openFile path .recording, .ok h⟩ : Exchange) ::
        ⟨.lock h, r₂⟩ :: zs := List.mem_cons_of_mem _ List.mem_cons_self
    obtain ⟨rfl, hfree, hfs⟩ | ⟨e, rfl, hfs⟩ := hlock.locked hd hlockless
    · exact .had ⟨hown, hcalm, hlockless, hleads, hd⟩ hfree hfs (hlock.pid_eq.trans hopen.pid_eq)
        ha₂ ht₂
    · rw [← hfs] at hcalm hlockless hleads hd
      dsimp only at ht₂
      split at ht₂
      · next hblock =>
        exact .blocked ⟨hown, hcalm, hlockless, hleads, hd⟩ hasked hblock
          (fun x hx => List.mem_cons_of_mem _ (List.mem_cons_of_mem _ hx)) ha₂ ht₂
      · next hother =>
        exact .failed ⟨hown, hcalm, hlockless, hleads, hd⟩ hasked (by simpa using hother) ha₂ ht₂

/-- from a lock that was had -/
theorem Opening.ends_had {r : Except LockError PidLock} {h : Handle} {id : NodeId}
    {mid locked : Host} {ys : List Exchange} (o : Opening host mid path h id)
    (ho : host.kernel.fs.Orderly) (ho' : host'.kernel.fs.Orderly)
    (hpid : host.process.pid ≤ Numeral.max32) (hfree : mid.kernel.fs.holder? id = none)
    (hfs : locked.kernel.fs = { mid.kernel.fs with locks := (id, h) :: mid.kernel.fs.locks })
    (hsame : locked.process.pid = host.process.pid) (ha : locked.Attempts ys host')
    (ht : (request .processId >>= fun pid => writePid h pid >>= fun r => match r with
      | .error source => request (.close h) >>= fun _ => pure (.error (.write path source))
      | .ok () => pure (.ok ⟨path, h⟩)).Takes ys r) : Ends host host' path xs r := by
  have hon : locked.kernel.fs.On h id := ⟨0, by rw [hfs]; exact o.there⟩
  have hlocked : locked.kernel.fs.locks = (id, h) :: mid.kernel.fs.locks := by rw [hfs]
  have hkept : Keeps mid.kernel.fs locked.kernel.fs := keeps_of_nodes_eq (by rw [hfs])
  have hnode : ∀ other, locked.kernel.fs.node? other = mid.kernel.fs.node? other := by
    intro other
    rw [hfs]
    rfl
  rw [holder?_of_locks_eq o.calm.locks] at hfree
  obtain ⟨fs, haside, hclosed, e, rfl⟩ | ⟨haside, rfl, hfile⟩ := records ha ht hon
  · have hlocks : host'.kernel.fs.locks = mid.kernel.fs.locks := by
      rw [hclosed]
      show fs.locks.filter _ = _
      rw [haside.locks, hlocked]
      exact congrArg FileSystem.locks (o.lockless.unlock_locked id)
    refine ends_error ho (hlocks.trans o.calm.locks) (.write hfree ?_ ?_)
    · rw [hclosed]
      exact o.leads.keep (hkept.trans haside.keeps)
    · intro other content hne hn
      rw [hclosed]
      show fs.node? other = _
      rw [haside.node other hne, hnode other]
      exact o.calm.file other content hn
  · rw [hsame] at hfile
    have hlocks : host'.kernel.fs.locks = (id, h) :: host.kernel.fs.locks := by
      rw [haside.locks, hlocked, o.calm.locks]
    have hholder : host'.kernel.fs.holder? id = some h := by
      unfold holder?
      rw [hlocks]
      exact List.lookup_cons_self
    refine ⟨id, rfl, o.own, o.leads.keep (hkept.trans haside.keeps), hfree, hlocks, ?_, ?_⟩
    · intro other content hne hn
      rw [haside.node other hne, hnode other]
      exact o.calm.file other content hn
    · intro fs hlater
      have hholds : host'.kernel.fs.Holds h id (pidRecord host.process.pid) :=
        ⟨ho', hholder, hfile⟩
      exact (hlater.holds hholds).found hpid

/-- from a lock that was refused because another description has it -/
theorem Opening.ends_blocked {r : Except LockError PidLock} {h : Handle} {id : NodeId}
    {e : IoError} {mid : Host} {ys : List Exchange} (o : Opening host mid path h id)
    (ho : host.kernel.fs.Orderly) (hasked : ⟨.lock h, .error e⟩ ∈ xs)
    (hblock : e.isWouldBlock = true) (hys : ∀ x ∈ ys, x ∈ xs) (ha : mid.Attempts ys host')
    (ht : (readPid h >>= fun pid => request (.close h) >>= fun _ =>
      pure (.error (.alreadyLocked pid))).Takes ys r) : Ends host host' path xs r := by
  obtain ⟨hread, pid, rfl, htold⟩ := ha.reads_closes ht o.there o.lockless
  have hcalm := o.calm.trans hread.calm
  have hkept : Keeps mid.kernel.fs host'.kernel.fs := keeps_of_nodes_eq hread.nodes
  refine ends_error ho hcalm.locks (.alreadyLocked hasked hblock hcalm (o.leads.keep hkept) ?_)
  obtain rfl | ⟨rfl, x, hx, hfailed⟩ := htold
  · refine .inl ?_
    unfold toldAt
    rw [hread.node?]
  · exact .inr ⟨rfl, x, hys x hx, hfailed⟩

/-- what has been taken is there -/
theorem taken_of_takes {lock : PidLock} (ho : host.kernel.fs.Orderly)
    (hpid : host.process.pid ≤ Numeral.max32) (ha : host.Attempts xs host')
    (ht : (PidLock.acquire path).Takes xs (.ok lock)) : ∃ id, Taken host host' path lock id := by
  obtain ⟨⟨⟩, -, -⟩ | ⟨o, hfree, hfs, hsame, ha', ht'⟩ | ⟨o, -, -, -, ha', ht'⟩ |
    ⟨o, -, -, ha', ht'⟩ := bid_acquire ho ha ht
  · exact @Opening.ends_had _ _ xs _ _ _ _ _ _ _ o ho (ha.orderly ho) hpid hfree hfs hsame ha' ht'
  · obtain ⟨-, pid, ⟨⟩, -⟩ := ha'.reads_closes ht' o.there o.lockless
  · obtain ⟨-, ⟨⟩⟩ := ha'.closes ht'

/-- **Whatever fails, the lock is taken and recorded, or else every lock is as it was.** -/
theorem acquire_ends {r : Except LockError PidLock} (ho : host.kernel.fs.Orderly)
    (hpid : host.process.pid ≤ Numeral.max32) (ha : host.Attempts xs host')
    (ht : (PidLock.acquire path).Takes xs r) : Ends host host' path xs r := by
  cases bid_acquire ho ha ht with
  | closed hr hasked hcalm =>
    rw [hr]
    exact ends_error ho hcalm.locks (.openFile hasked hcalm)
  | had o hfree hfs hsame ha' ht' =>
    exact o.ends_had ho (ha.orderly ho) hpid hfree hfs hsame ha' ht'
  | blocked o hasked hblock hys ha' ht' => exact o.ends_blocked ho hasked hblock hys ha' ht'
  | failed o hasked hother ha' ht' =>
    obtain ⟨hclosed, rfl⟩ := ha'.closes ht'
    rw [unlock_eq o.lockless] at hclosed
    have hcalm := o.calm
    rw [← hclosed] at hcalm
    exact ends_error ho hcalm.locks (.lock hasked hother hcalm)

/-- a process on a machine where a dead one has left its PID file -/
def heir : Host := ⟨Reloading.kernel, Lone.process⟩

/-- the lock is taken, or the disk is full when one digit of the record has been written -/
theorem acquire_ends_heir : heir.kernel.fs.Orderly ∧ heir.process.pid ≤ Numeral.max32 ∧
    (∃ xs lock host', (acquire Lone.pidFile).Takes xs (.ok lock) ∧ heir.Attempts xs host' ∧
      Ends heir host' Lone.pidFile xs (.ok lock)) ∧
    ∃ xs host', (acquire Lone.pidFile).Takes xs (.error (.write Lone.pidFile (.os .noSpace))) ∧
      heir.Attempts xs host' ∧ host'.kernel.fs.node? 1 = some (.file [0x35]) ∧
      Ends heir host' Lone.pidFile xs (.error (.write Lone.pidFile (.os .noSpace))) := by
  have ho : heir.kernel.fs.Orderly := ⟨List.nodup_nil, nofun, nofun⟩
  have hpid : heir.process.pid ≤ Numeral.max32 := by decide
  refine ⟨ho, hpid, ?_, ?_⟩
  · obtain ⟨lock, fs', hrun, -⟩ := @PidLock.run_acquire heir Lone.pidFile rfl Reloading.lockFree
    obtain ⟨xs, ht, ha⟩ := Host.attempts_run (acquire Lone.pidFile) heir
    rw [hrun] at ht ha
    exact ⟨xs, lock, _, ht, ha, acquire_ends ho hpid ha ht⟩
  · let opened : Host := heir.withFs { heir.kernel.fs with descriptions := [⟨1, 0, false⟩] }
    have hopen : Host.handle (.openFile Lone.pidFile .recording) heir = (.ok 0, opened) := by
      have ho : heir.kernel.fs.openFile heir.process.workDir Lone.pidFile .recording =
          (.ok 0, opened.kernel.fs) := by cbv
      exact congrArg heir.onFs ho
    have hpart : [0x35] <+: pidDigits 5000 := ⟨[0x30, 0x30, 0x30], by decide⟩
    have ha := Host.Attempts.cons (Host.attempt_of_eq hopen)
      (.cons (.answered (.lock 0)) (.cons (.answered .processId) (.cons (.answered (.truncate 0))
        (.cons (.answered (.rewind 0)) (.cons (.partly (h := 0) (.os .noSpace) hpart)
          (.cons (.answered (.close 0)) (.nil _)))))))
    have ht : (acquire Lone.pidFile).Takes
        [⟨.openFile Lone.pidFile .recording, .ok 0⟩, ⟨.lock 0, .ok ()⟩, ⟨.processId, (5000 : Nat)⟩,
          ⟨.truncate 0, .ok ()⟩, ⟨.rewind 0, .ok ()⟩,
          ⟨.write 0 (pidDigits 5000), .error (.os .noSpace)⟩, ⟨.close 0, ()⟩]
        (.error (.write Lone.pidFile (.os .noSpace))) :=
      .ask _ (.ask _ (.ask _ (.ask _ (.ask _ (.ask _ (.ask _ (.done _)))))))
    exact ⟨_, _, ht, ha, rfl, acquire_ends ho hpid ha ht⟩

/-- a process on a machine where another one has the lock, and its number is in the file -/
def latecomer : Host where
  kernel := { Reloading.kernel with
    fs := ⟨[.directory [(Bytes.ofText "molt.pid", 1)] 0, .file [52, 10]], [⟨1, 2, false⟩], [(1, 0)],
      []⟩ }
  process := Lone.process

/-- the lock is refused, and then the device fails when the file is read: the number reported is
zero, and in the file there is another one -/
theorem acquire_misreads : ∃ xs host', latecomer.Attempts xs host' ∧
    (acquire Lone.pidFile).Takes xs (.error (.alreadyLocked 0)) ∧
    host'.kernel.fs.content? latecomer.process.workDir Lone.pidFile = some [52, 10] ∧
    recordedPid [52, 10] = 4 := by
  let opened : Host := latecomer.withFs
    { latecomer.kernel.fs with descriptions := [⟨1, 2, false⟩, ⟨1, 0, false⟩] }
  have hopen : Host.handle (.openFile Lone.pidFile .recording) latecomer = (.ok 1, opened) := by
    have ho : latecomer.kernel.fs.openFile latecomer.process.workDir Lone.pidFile .recording =
        (.ok 1, opened.kernel.fs) := by cbv
    exact congrArg latecomer.onFs ho
  have hlock : Host.handle (.lock 1) opened = (.error (.os .wouldBlock), opened) := rfl
  have ha := Host.Attempts.cons (Host.attempt_of_eq hopen)
    (.cons (Host.attempt_of_eq hlock) (.cons (.answered (.rewind 1))
      (.cons (.failed (q := .readAll 1) (.os ⟨5⟩) rfl) (.cons (.answered (.close 1)) (.nil _)))))
  have ht : (acquire Lone.pidFile).Takes
      [⟨.openFile Lone.pidFile .recording, .ok 1⟩, ⟨.lock 1, .error (.os .wouldBlock)⟩,
        ⟨.rewind 1, .ok ()⟩, ⟨.readAll 1, .error (.os ⟨5⟩)⟩, ⟨.close 1, ()⟩]
      (.error (.alreadyLocked 0)) := .ask _ (.ask _ (.ask _ (.ask _ (.ask _ (.done _)))))
  exact ⟨_, _, ha, ht, by cbv, by decide⟩

end PidLock
end Succession
