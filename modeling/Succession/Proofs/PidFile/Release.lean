import Mathlib.Data.List.Nodup
import Succession.Proofs.PidFile.Moves
import Succession.Proofs.Program.Exchanges

/-!
# Giving a lock up among other processes

A process asks its questions while others go on. What the others do through descriptions of their
own neither takes nor gives up its lock, so it keeps the lock until it asks for the release; from
then on the lock is free, until somebody else takes it.

* `FileSystem.Exclusive fs`        every node has one lock at most; `holder?_unlock`;
* `FileSystem.Bystands h fs fs'`   a change through other descriptions than `h`, with
                                   `bystands_handle` for everything that a host does;
* `Amid others fs xs fs'`          exchanges on a file system that others change in between;
* `KeepsLock`, `GivesUp`, `Unwritten`   what comes of a lock and of contents in the course of
                                   exchanges, with `givesUp_released` for a release.
-/

namespace Succession

namespace FileSystem

variable {fs fs' : FileSystem} {id : NodeId} {h k : Handle}

/-! ## one lock for each node -/

def Exclusive (fs : FileSystem) : Prop := (fs.locks.map (·.1)).Nodup

theorem holder?_of_locks_eq (hl : fs'.locks = fs.locks) (id : NodeId) :
    fs'.holder? id = fs.holder? id := by
  unfold holder?
  rw [hl]

theorem holder?_eq_none_iff : fs.holder? id = none ↔ ∀ k, (id, k) ∉ fs.locks := by
  unfold holder?
  rw [List.lookup_eq_none_iff]
  constructor
  · intro hnone k hk
    exact bne_iff_ne.mp (hnone (id, k) hk) rfl
  · rintro hnone ⟨node, k⟩ hk
    refine bne_iff_ne.mpr ?_
    rintro rfl
    exact hnone k hk

theorem mem_locks_of_holder? (hh : fs.holder? id = some h) : (id, h) ∈ fs.locks := by
  obtain ⟨before, after, hl, -⟩ := List.lookup_eq_some_iff.mp hh
  rw [hl]
  exact List.mem_append_right before List.mem_cons_self

/-- whatever a description held, it holds nothing any more -/
theorem holder?_unlock_ne (fs : FileSystem) (h : Handle) (id : NodeId) :
    (fs.unlock h).holder? id ≠ some h := by
  intro hh
  have hkept := (List.mem_filter.mp (mem_locks_of_holder? hh)).2
  exact of_decide_eq_true hkept rfl

theorem Exclusive.unlock (hx : fs.Exclusive) (h : Handle) : (fs.unlock h).Exclusive :=
  hx.sublist (List.filter_sublist.map _)

/-- **A lock that is given up is free.** -/
theorem holder?_unlock (hx : fs.Exclusive) (hh : fs.holder? id = some h) :
    (fs.unlock h).holder? id = none := by
  refine holder?_eq_none_iff.mpr fun k hk => ?_
  obtain ⟨hmem, hne⟩ := List.mem_filter.mp hk
  have hsame := List.inj_on_of_nodup_map hx hmem (mem_locks_of_holder? hh) rfl
  exact of_decide_eq_true hne (congrArg Prod.snd hsame)

/-! ## other processes -/

/-- somebody else's locks are neither taken nor given up -/
structure Bystands (h : Handle) (fs fs' : FileSystem) : Prop where
  exclusive : fs.Exclusive → fs'.Exclusive
  holder : fs.Exclusive → ∀ id, fs'.holder? id = some h ↔ fs.holder? id = some h

theorem bystands_of_locks_eq (hl : fs'.locks = fs.locks) : Bystands h fs fs' := by
  refine ⟨fun hx => ?_, fun _ id => ?_⟩
  · unfold Exclusive
    rwa [hl]
  · rw [holder?_of_locks_eq hl]

theorem bystands_unlock (fs : FileSystem) (hne : k ≠ h) : Bystands h fs (fs.unlock k) := by
  refine ⟨fun hx => hx.unlock k, fun hx id => ?_⟩
  by_cases hk : fs.holder? id = some k
  · rw [holder?_unlock hx hk, hk]
    simpa using hne
  · rw [holder?_unlock_of_ne hk]

theorem bystands_lock {r : Except IoError Unit} (hne : k ≠ h) (h0 : fs.lock k = (r, fs')) :
    Bystands h fs fs' := by
  cases hd : fs.description? k with
  | none =>
    unfold lock at h0
    rw [hd] at h0
    cases h0
    exact bystands_of_locks_eq rfl
  | some d =>
    obtain ⟨-, hfree, rfl⟩ | ⟨-, -, rfl⟩ | ⟨e, -, rfl⟩ := lock_cases hd h0
    · refine ⟨fun hx => ?_, fun _ id => ?_⟩
      · refine List.nodup_cons.mpr ⟨fun hm => ?_, hx⟩
        obtain ⟨⟨node, other⟩, hl, rfl⟩ := List.mem_map.mp hm
        exact holder?_eq_none_iff.mp hfree other hl
      · show ((d.node, k) :: fs.locks).lookup id = some h ↔ _
        rw [List.lookup_cons]
        by_cases hid : id = d.node
        · rw [hid, hfree, beq_self_eq_true]
          simpa using hne
        · rw [beq_eq_false_iff_ne.mpr hid]
          rfl
    · exact bystands_of_locks_eq rfl
    · exact bystands_of_locks_eq rfl

theorem locks_truncate (fs : FileSystem) (k : Handle) : (fs.truncate k).2.locks = fs.locks := by
  unfold truncate
  split
  · rfl
  · split <;> rfl

theorem locks_rewind (fs : FileSystem) (k : Handle) : (fs.rewind k).2.locks = fs.locks := by
  unfold rewind
  split
  · rfl
  · split <;> rfl

theorem locks_readAll (fs : FileSystem) (k : Handle) : (fs.readAll k).2.locks = fs.locks := by
  unfold readAll
  split
  · rfl
  · split <;> rfl

theorem locks_write (fs : FileSystem) (k : Handle) (data : Bytes) :
    (fs.write k data).2.locks = fs.locks := by
  unfold write
  split
  · rfl
  · split <;> rfl

end FileSystem

open FileSystem

def Request.Locks (h : Handle) : Request → Prop
  | .lock k | .unlock k | .close k => k = h
  | _ => False

/-- **Whatever a host does through other descriptions**, it bystands. -/
theorem Host.bystands_handle {q : Request} {h : Handle} (hq : ¬ q.Locks h) (host : Host) :
    Bystands h host.kernel.fs (handle q host).2.kernel.fs := by
  have hquiet (hquiet : q.Quiet) : Bystands h host.kernel.fs (handle q host).2.kernel.fs :=
    bystands_of_locks_eq (congrArg FileSystem.locks (fs_handle_of_quiet hquiet host))
  cases q with
  | openFile path mode =>
    have hopen : host.kernel.fs.openFile host.process.workDir path mode = (_, _) := rfl
    exact bystands_of_locks_eq (opened_openFile hopen).1.locks
  | lock k =>
    have hlock : handle (.lock k) host = (_, _) := rfl
    obtain hl | ⟨-, hfs⟩ := handle_lock_cases hlock
    · exact bystands_lock hq hl
    · exact bystands_of_locks_eq (congrArg FileSystem.locks hfs)
  | unlock k => exact bystands_unlock host.kernel.fs hq
  | close k => exact bystands_unlock host.kernel.fs hq
  | truncate k => exact bystands_of_locks_eq (locks_truncate host.kernel.fs k)
  | rewind k => exact bystands_of_locks_eq (locks_rewind host.kernel.fs k)
  | readAll k => exact bystands_of_locks_eq (locks_readAll host.kernel.fs k)
  | write k data => exact bystands_of_locks_eq (locks_write host.kernel.fs k data)
  | sync | workDir => exact bystands_of_locks_eq rfl
  | _ => exact hquiet trivial

theorem Host.exclusive_handle (q : Request) {host : Host} (hx : host.kernel.fs.Exclusive) :
    (handle q host).2.kernel.fs.Exclusive := by
  have hother : ∃ h, ¬ q.Locks h := by
    cases q with
    | lock k | unlock k | close k => exact ⟨k + 1, Nat.ne_of_lt (Nat.lt_succ_self k)⟩
    | _ => exact ⟨0, id⟩
  obtain ⟨h, hq⟩ := hother
  exact (bystands_handle hq host).exclusive hx

/-! ## exchanges among others -/

/-- a process asks its questions, each of which does to the file system what a host makes of it,
whatever is answered; in between others change it -/
inductive Amid (others : FileSystem → FileSystem → Prop) :
    FileSystem → List Exchange → FileSystem → Prop where
  | done (fs : FileSystem) : Amid others fs [] fs
  | elsewhere {fs fs' fs'' : FileSystem} {xs : List Exchange} (h : others fs fs')
      (rest : Amid others fs' xs fs'') : Amid others fs xs fs''
  | asked {x : Exchange} {xs : List Exchange} {fs' : FileSystem} (host : Host)
      (rest : Amid others (Host.handle x.question host).2.kernel.fs xs fs') :
      Amid others host.kernel.fs (x :: xs) fs'

variable {others : FileSystem → FileSystem → Prop} {fs fs' : FileSystem} {xs ys : List Exchange}
  {h : Handle}

/-- a host that has only one process -/
theorem amid_of_answers {host host' : Host} (ha : Program.Answers Host.handle host xs host') :
    Amid others host.kernel.fs xs host'.kernel.fs := by
  induction ha with
  | nil host => exact .done _
  | @cons q host host' xs rest ih => exact .asked host ih

/-- what the others keep, and every question keeps, is kept -/
theorem Amid.keeps {P : FileSystem → Prop} (hamid : Amid others fs xs fs')
    (hothers : ∀ s s', others s s' → P s → P s')
    (hasked : ∀ x ∈ xs, ∀ host : Host, P host.kernel.fs →
      P (Host.handle x.question host).2.kernel.fs) (hfs : P fs) : P fs' := by
  induction hamid with
  | done fs => exact hfs
  | elsewhere h rest ih => exact ih hasked (hothers _ _ h hfs)
  | asked host rest ih =>
    exact ih (fun x hx => hasked x (List.mem_cons_of_mem _ hx))
      (hasked _ List.mem_cons_self host hfs)

theorem Amid.append_inv (hamid : Amid others fs (xs ++ ys) fs') :
    ∃ mid, Amid others fs xs mid ∧ Amid others mid ys fs' := by
  generalize hzs : xs ++ ys = zs at hamid
  induction hamid generalizing xs with
  | done fs =>
    obtain ⟨rfl, rfl⟩ := List.append_eq_nil_iff.mp hzs
    exact ⟨fs, .done fs, .done fs⟩
  | elsewhere h rest ih =>
    obtain ⟨mid, hxs, hys⟩ := ih hzs
    exact ⟨mid, .elsewhere h hxs, hys⟩
  | @asked x zs fs' host rest ih =>
    cases xs with
    | nil =>
      obtain rfl := hzs
      exact ⟨_, .done _, .asked host rest⟩
    | cons x' xs =>
      obtain ⟨rfl, hrest⟩ := List.cons.inj hzs
      obtain ⟨mid, hxs, hys⟩ := ih hrest
      exact ⟨mid, .asked host hxs, hys⟩

/-- the others come first, and then the question -/
theorem Amid.cons_inv {x : Exchange} (hamid : Amid others fs (x :: xs) fs') :
    ∃ host : Host, Amid others fs [] host.kernel.fs ∧
      Amid others (Host.handle x.question host).2.kernel.fs xs fs' := by
  generalize hzs : x :: xs = zs at hamid
  induction hamid with
  | done => cases hzs
  | elsewhere h rest ih =>
    obtain ⟨host, hfirst, hrest⟩ := ih hzs
    exact ⟨host, .elsewhere h hfirst, hrest⟩
  | asked host rest =>
    cases hzs
    exact ⟨host, .done _, rest⟩

theorem Amid.exclusive (hamid : Amid others fs xs fs')
    (hothers : ∀ s s', others s s' → Bystands h s s') (hx : fs.Exclusive) : fs'.Exclusive :=
  hamid.keeps (fun s s' hs => (hothers s s' hs).exclusive)
    (fun x _ _ => Host.exclusive_handle x.question) hx

/-! ## what comes of a lock, and of contents -/

/-- whoever acts in between, but through this description, the lock is kept -/
def KeepsLock (h : Handle) (xs : List Exchange) : Prop :=
  ∀ others fs fs' id, fs.Exclusive → (∀ s s', others s s' → Bystands h s s') →
    Amid others fs xs fs' → fs.holder? id = some h → fs'.holder? id = some h

/-- the lock is not kept, and it is free as long as nobody else takes it -/
def GivesUp (h : Handle) (xs : List Exchange) : Prop :=
  ∀ others fs fs' id, fs.Exclusive → (∀ s s', others s s' → Bystands h s s') →
    Amid others fs xs fs' → fs.holder? id = some h → fs'.holder? id ≠ some h ∧
      ((∀ s s', others s s' → s.holder? id = none → s'.holder? id = none) →
        fs'.holder? id = none)

def Unwritten (xs : List Exchange) : Prop :=
  ∀ others fs fs' id, (∀ s s', others s s' → s'.node? id = s.node? id) →
    Amid others fs xs fs' → fs'.node? id = fs.node? id

theorem keepsLock_of_quiet (hq : ∀ x ∈ xs, x.question.Quiet) : KeepsLock h xs := by
  intro others fs fs' id hx hothers hamid hh
  have hkept : fs'.Exclusive ∧ fs'.holder? id = some h := by
    refine hamid.keeps (P := fun s => s.Exclusive ∧ s.holder? id = some h) ?_ ?_ ⟨hx, hh⟩
    · rintro s s' hs ⟨hx, hh⟩
      exact ⟨(hothers s s' hs).exclusive hx, ((hothers s s' hs).holder hx id).mpr hh⟩
    · intro x hm host hP
      rwa [Host.fs_handle_of_quiet (hq x hm)]
  exact hkept.2

/-- whoever has no lock gets none without asking for one, and takes none from the others -/
theorem Amid.stays_free {id : NodeId} (hamid : Amid others fs xs fs') (hx : fs.Exclusive)
    (hothers : ∀ s s', others s s' → Bystands h s s') (hq : ∀ x ∈ xs, x.question.Quiet)
    (hh : fs.holder? id ≠ some h) : fs'.holder? id ≠ some h ∧
      ((∀ s s', others s s' → s.holder? id = none → s'.holder? id = none) →
        fs.holder? id = none → fs'.holder? id = none) := by
  constructor
  · have hkept : fs'.Exclusive ∧ fs'.holder? id ≠ some h := by
      refine hamid.keeps (P := fun s => s.Exclusive ∧ s.holder? id ≠ some h) ?_ ?_ ⟨hx, hh⟩
      · rintro s s' hs ⟨hx, hh⟩
        exact ⟨(hothers s s' hs).exclusive hx, mt ((hothers s s' hs).holder hx id).mp hh⟩
      · intro x hm host hP
        rwa [Host.fs_handle_of_quiet (hq x hm)]
    exact hkept.2
  · intro hfree hnone
    refine hamid.keeps (P := fun s => s.holder? id = none) hfree ?_ hnone
    intro x hm host hP
    rwa [Host.fs_handle_of_quiet (hq x hm)]

theorem GivesUp.append (hxs : GivesUp h xs) (hys : ∀ y ∈ ys, y.question.Quiet) :
    GivesUp h (xs ++ ys) := by
  intro others fs fs' id hx hothers hamid hh
  obtain ⟨mid, hfirst, hrest⟩ := hamid.append_inv
  obtain ⟨hmid, hmid'⟩ := hxs others fs mid id hx hothers hfirst hh
  obtain ⟨hlast, hlast'⟩ := hrest.stays_free (hfirst.exclusive hothers hx) hothers hys hmid
  exact ⟨hlast, fun hfree => hlast' hfree (hmid' hfree)⟩

/-- **A lock that is released is given up.** -/
theorem givesUp_released (hxs : ∀ x ∈ xs, x.question.Quiet) :
    GivesUp h (xs ++ [⟨.unlock h, ()⟩, ⟨.close h, ()⟩]) := by
  intro others fs fs' id hx hothers hamid hh
  obtain ⟨before, hfirst, hrest⟩ := hamid.append_inv
  obtain ⟨held, hwait, hunlocked⟩ := hrest.cons_inv
  have hnone : ∀ x ∈ ([] : List Exchange), x.question.Quiet := List.forall_mem_nil _
  have hbefore : before.Exclusive := hfirst.exclusive hothers hx
  have hheld : held.kernel.fs.Exclusive := hwait.exclusive hothers hbefore
  have hstill : held.kernel.fs.holder? id = some h :=
    keepsLock_of_quiet hnone others _ _ id hbefore hothers hwait
      (keepsLock_of_quiet hxs others _ _ id hx hothers hfirst hh)
  -- now the lock is free, and closing the description changes nothing
  obtain ⟨freed, hwait', hclosed⟩ := hunlocked.cons_inv
  obtain ⟨hfreed, hfreed'⟩ := hwait'.stays_free (hheld.unlock h) hothers hnone
    (holder?_unlock_ne held.kernel.fs h id)
  have hx' : (freed.kernel.fs.unlock h).Exclusive :=
    (hwait'.exclusive hothers (hheld.unlock h)).unlock h
  obtain ⟨hlast, hlast'⟩ := hclosed.stays_free hx' hothers hnone
    (holder?_unlock_ne freed.kernel.fs h id)
  refine ⟨hlast, fun hfree => hlast' hfree ?_⟩
  show (freed.kernel.fs.unlock h).holder? id = none
  rw [holder?_unlock_of_ne hfreed]
  exact hfreed' hfree (holder?_unlock hheld hstill)

/-- nothing that is asked for writes -/
theorem unwritten_of_quiet
    (hq : ∀ x ∈ xs, x.question.Quiet ∨ ∃ k, x.question = .unlock k ∨ x.question = .close k) :
    Unwritten xs := by
  intro others fs fs' id hothers hamid
  refine hamid.keeps (P := fun s => s.node? id = fs.node? id) ?_ ?_ rfl
  · intro s s' hs hP
    exact (hothers s s' hs).trans hP
  · intro x hm host hP
    obtain hquiet | ⟨k, he | he⟩ := hq x hm
    · rwa [Host.fs_handle_of_quiet hquiet]
    · rw [he]
      exact hP
    · rw [he]
      exact hP

end Succession
