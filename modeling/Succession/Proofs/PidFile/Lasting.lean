import Mathlib.Logic.Relation
import Succession.Proofs.FileSystem.Quiet
import Succession.Proofs.Program.Attempts

/-!
# A lock that lasts

Whoever holds the lock of a file keeps it, and the file keeps its content, whatever anybody does, as
long as nobody releases that lock or writes that file. Calls may fail at any time, and an operator
may give the file other names, or take its names away.

* `Orderly fs`                each node has one lock at most, and a description on it has that;
* `Evolved.orderly`           so it is, whatever has been done;
* `Holds fs h id content`     the description `h` has the lock of the file `id`;
* `Elsewhere h id fs fs'`     one thing that somebody does, but for releasing and writing;
* `Later h id fs fs'`         any number of them, with `Later.holds`.
-/

namespace Succession

namespace FileSystem

variable {fs fs' : FileSystem} {id : NodeId} {h k : Handle} {content : Bytes}

/-! ## whose the locks are -/

structure Orderly (fs : FileSystem) : Prop where
  exclusive : fs.Exclusive
  /-- a lock goes with a description on its node -/
  described : ∀ l ∈ fs.locks, ∃ d, fs.description? l.2 = some d ∧ d.node = l.1
  based : fs.Based

theorem Orderly.lt_of_mem (ho : fs.Orderly) (hl : (id, h) ∈ fs.locks) :
    h < fs.descriptions.length := by
  obtain ⟨d, hd, -⟩ := ho.described _ hl
  exact (List.getElem?_eq_some_iff.mp hd).1

theorem Orderly.lt (ho : fs.Orderly) (hh : fs.holder? id = some h) :
    h < fs.descriptions.length :=
  ho.lt_of_mem (mem_locks_of_holder? hh)

/-- only nodes that are there have locks -/
theorem Orderly.node_lt (ho : fs.Orderly) (hh : fs.holder? id = some h) :
    id < fs.nodes.length := by
  obtain ⟨d, hd, rfl⟩ := ho.described _ (mem_locks_of_holder? hh)
  exact ho.based d (List.mem_of_getElem? hd)

theorem Orderly.of_locks_eq (ho : fs.Orderly) (hl : fs'.locks = fs.locks)
    (hg : Grows fs fs') : fs'.Orderly := by
  refine ⟨?_, fun l hm => ?_, hg.based ho.based⟩
  · unfold Exclusive
    rw [hl]
    exact ho.exclusive
  · rw [hl] at hm
    obtain ⟨d, hd, hn⟩ := ho.described l hm
    obtain ⟨d', hd', hn'⟩ := hg.descriptions l.2 d hd
    exact ⟨d', hd', hn'.trans hn⟩

theorem Peeked.orderly (p : Peeked fs fs') (ho : fs.Orderly) : fs'.Orderly :=
  ho.of_locks_eq p.locks p.grows

theorem Calm.orderly (c : Calm fs fs') (ho : fs.Orderly) : fs'.Orderly :=
  ho.of_locks_eq c.locks c.grows

theorem Aside.orderly (a : Aside id fs fs') (ho : fs.Orderly) : fs'.Orderly :=
  ho.of_locks_eq a.locks a.grows

theorem Orderly.unlock (ho : fs.Orderly) (k : Handle) : (fs.unlock k).Orderly :=
  ⟨ho.exclusive.unlock k, fun l hm => ho.described l (List.mem_filter.mp hm).1, ho.based⟩

/-- whoever has no lock has none to give up -/
theorem unlock_eq (hnone : ∀ l ∈ fs.locks, l.2 ≠ k) : fs.unlock k = fs := by
  have hl : fs.locks.filter (fun l => l.2 ≠ k) = fs.locks := by
    simpa [List.filter_eq_self] using hnone
  unfold FileSystem.unlock
  rw [hl]

/-! ## what an answer does to the locks -/

theorem Touches.orderly (t : Touches k fs fs') (ho : fs.Orderly) : fs'.Orderly := by
  obtain rfl | ⟨d, -, a⟩ := t
  · exact ho
  · exact a.orderly ho

theorem Orderly.lock (ho : fs.Orderly) (k : Handle) : (fs.lock k).2.Orderly := by
  have h0 : fs.lock k = (_, (fs.lock k).2) := rfl
  cases hd : fs.description? k with
  | none =>
    unfold FileSystem.lock
    rw [hd]
    exact ho
  | some d =>
    have hother : k ≠ k + 1 := Nat.ne_of_lt (Nat.lt_succ_self k)
    have hx := (bystands_lock hother h0).exclusive ho.exclusive
    obtain ⟨-, -, he⟩ | ⟨-, -, he⟩ | ⟨e, -, he⟩ := lock_cases hd h0
    · rw [he] at hx ⊢
      refine ⟨hx, fun l hm => ?_, ho.based⟩
      obtain rfl | hm := List.mem_cons.mp hm
      · exact ⟨d, hd, rfl⟩
      · exact ho.described l hm
    · rw [he]
      exact ho
    · rw [he]
      exact ho

theorem Orderly.put (ho : fs.Orderly) (workDir path : Path) (data : Bytes) :
    (fs.put workDir path data).Orderly := by
  obtain ⟨hlocks, hgrows⟩ := locks_put fs workDir path data
  exact ho.of_locks_eq hlocks hgrows

end FileSystem

open FileSystem

namespace Host

variable {host host' : Host} {q : Request} {r : q.Reply} {xs : List Exchange} {h k : Handle}
  {id : NodeId} {content : Bytes}

theorem orderly_handle (q : Request) {host : Host} (ho : host.kernel.fs.Orderly) :
    (handle q host).2.kernel.fs.Orderly := by
  have hquiet (hq : q.Quiet) : (handle q host).2.kernel.fs.Orderly := by
    rw [fs_handle_of_quiet hq host]
    exact ho
  cases q with
  | openFile path mode => exact (calm_openFile _ host.process.workDir path mode).orderly ho
  | lock k => exact faulty_snd (fun host => host.kernel.fs.Orderly) ho (ho.lock k)
  | unlock k | close k => exact ho.unlock k
  | truncate k => exact (touches_truncate _ k).orderly ho
  | rewind k => exact (peeked_rewind _ k).orderly ho
  | readAll k => exact (peeked_readAll _ k).orderly ho
  | write k data => exact (touches_write _ k data).orderly ho
  | sync | workDir => exact ho
  | _ => exact hquiet trivial

theorem Attempt.orderly (ha : host.Attempt q r host') (ho : host.kernel.fs.Orderly) :
    host'.kernel.fs.Orderly :=
  ha.fs_ind ho (orderly_handle q ho) fun h _ written _ => (touches_write _ h written).orderly ho

theorem Attempts.orderly (ha : host.Attempts xs host') (ho : host.kernel.fs.Orderly) :
    host'.kernel.fs.Orderly :=
  ha.keeps (P := fun host => host.kernel.fs.Orderly) (fun _ _ _ _ h => h.orderly) ho

end Host

/-- a file system that has come from the empty one by calls and by an operator's changes -/
inductive FileSystem.Evolved : FileSystem → Prop where
  | empty : Evolved .empty
  | asked {host host' : Host} {q : Request} {r : q.Reply} (h : Evolved host.kernel.fs)
      (ha : host.Attempt q r host') : Evolved host'.kernel.fs
  | edited {fs fs' : FileSystem} (h : Evolved fs) (he : Edit fs fs') : Evolved fs'
  | replaced {fs : FileSystem} (h : Evolved fs) (workDir path : Path) (data : Bytes) :
      Evolved (fs.put workDir path data)

/-- **Every file system is orderly**, whatever has been done to it, and whatever has failed. -/
theorem FileSystem.Evolved.orderly {fs : FileSystem} (h : fs.Evolved) : fs.Orderly := by
  induction h with
  | empty => exact ⟨List.nodup_nil, nofun, nofun⟩
  | asked h ha ih => exact ha.orderly ih
  | edited h he ih => exact he.calm.orderly ih
  | replaced h workDir path data ih => exact ih.put workDir path data

/-! ## what somebody does -/

def Request.Releases (h : Handle) : Request → Prop
  | .unlock k | .close k => k = h
  | _ => False

def Request.Writes (fs : FileSystem) (id : NodeId) : Request → Prop
  | .truncate k | .write k _ => ∃ d, fs.description? k = some d ∧ d.node = id
  | _ => False

namespace FileSystem

variable {fs fs' : FileSystem} {id : NodeId} {h k : Handle} {content : Bytes}

structure Holds (fs : FileSystem) (h : Handle) (id : NodeId) (content : Bytes) : Prop where
  orderly : fs.Orderly
  holder : fs.holder? id = some h
  file : fs.node? id = some (.file content)

/-- somebody's call, whether it fails or not, or an operator's change, that neither releases the
lock of `h` nor writes the file `id` -/
inductive Elsewhere (h : Handle) (id : NodeId) : FileSystem → FileSystem → Prop where
  | asked {host host' : Host} {q : Request} {r : q.Reply} (ha : host.Attempt q r host')
      (hkeeps : ¬ q.Releases h) (hspares : ¬ q.Writes host.kernel.fs id) :
      Elsewhere h id host.kernel.fs host'.kernel.fs
  | edited {fs fs' : FileSystem} (he : Edit fs fs') : Elsewhere h id fs fs'
  | replaced {fs : FileSystem} (workDir path : Path) (data : Bytes)
      (hother : ¬ Leads fs workDir path id) : Elsewhere h id fs (fs.put workDir path data)

abbrev Later (h : Handle) (id : NodeId) : FileSystem → FileSystem → Prop :=
  Relation.ReflTransGen (Elsewhere h id)

theorem Holds.calm (hh : fs.Holds h id content) (c : Calm fs fs') : fs'.Holds h id content :=
  ⟨c.orderly hh.orderly, (holder?_of_locks_eq c.locks id).trans hh.holder,
    c.file id content hh.file⟩

/-- nobody takes a lock that somebody has -/
theorem Holds.lock (hh : fs.Holds h id content) (k : Handle) :
    (fs.lock k).2.Holds h id content := by
  have h0 : fs.lock k = (_, (fs.lock k).2) := rfl
  cases hd : fs.description? k with
  | none =>
    unfold FileSystem.lock
    rw [hd]
    exact hh
  | some d =>
    have ho := hh.orderly.lock k
    obtain ⟨-, hfree, he⟩ | ⟨-, -, he⟩ | ⟨e, -, he⟩ := lock_cases hd h0
    · rw [he] at ho ⊢
      have hne : id ≠ d.node := by
        rintro rfl
        rw [hh.holder] at hfree
        cases hfree
      refine ⟨ho, ?_, hh.file⟩
      show ((d.node, k) :: fs.locks).lookup id = some h
      rw [List.lookup_cons, beq_eq_false_iff_ne.mpr hne]
      exact hh.holder
    · rw [he]
      exact hh
    · rw [he]
      exact hh

theorem Holds.unlock (hh : fs.Holds h id content) (hne : k ≠ h) :
    (fs.unlock k).Holds h id content := by
  have hother : fs.holder? id ≠ some k := by
    rw [hh.holder]
    intro he
    exact hne (Option.some.inj he).symm
  exact ⟨hh.orderly.unlock k, (holder?_unlock_of_ne hother).trans hh.holder, hh.file⟩

theorem Holds.touched (hh : fs.Holds h id content) (t : Touches k fs fs')
    (hspares : ∀ d, fs.description? k = some d → d.node ≠ id) : fs'.Holds h id content := by
  obtain rfl | ⟨d, hd, a⟩ := t
  · exact hh
  · exact ⟨a.orderly hh.orderly, (holder?_of_locks_eq a.locks id).trans hh.holder,
      (a.node id (hspares d hd).symm).trans hh.file⟩

theorem Holds.handle {host : Host} {q : Request} (hh : host.kernel.fs.Holds h id content)
    (hkeeps : ¬ q.Releases h) (hspares : ¬ q.Writes host.kernel.fs id) :
    (Host.handle q host).2.kernel.fs.Holds h id content := by
  have hquiet (hq : q.Quiet) : (Host.handle q host).2.kernel.fs.Holds h id content := by
    rw [Host.fs_handle_of_quiet hq host]
    exact hh
  cases q with
  | openFile path mode => exact hh.calm (calm_openFile _ host.process.workDir path mode)
  | lock k => exact Host.faulty_snd (fun host => host.kernel.fs.Holds h id content) hh (hh.lock k)
  | unlock k | close k => exact hh.unlock hkeeps
  | truncate k => exact hh.touched (touches_truncate _ k) fun d hd hn => hspares ⟨d, hd, hn⟩
  | rewind k => exact hh.calm (peeked_rewind _ k).calm
  | readAll k => exact hh.calm (peeked_readAll _ k).calm
  | write k data => exact hh.touched (touches_write _ k data) fun d hd hn => hspares ⟨d, hd, hn⟩
  | sync | workDir => exact hh
  | _ => exact hquiet trivial

theorem Holds.attempt {host host' : Host} {q : Request} {r : q.Reply}
    (hh : host.kernel.fs.Holds h id content) (ha : host.Attempt q r host')
    (hkeeps : ¬ q.Releases h) (hspares : ¬ q.Writes host.kernel.fs id) :
    host'.kernel.fs.Holds h id content := by
  refine ha.fs_ind (P := fun fs => fs.Holds h id content) hh (hh.handle hkeeps hspares) ?_
  rintro k data written rfl
  exact hh.touched (touches_write _ k written) fun d hd hn => hspares ⟨d, hd, hn⟩

/-- **One thing that somebody does** leaves the lock and the file as they are. -/
theorem Elsewhere.holds (hh : fs.Holds h id content) (he : Elsewhere h id fs fs') :
    fs'.Holds h id content := by
  cases he with
  | asked ha hkeeps hspares => exact hh.attempt ha hkeeps hspares
  | edited hedit => exact hh.calm hedit.calm
  | replaced workDir path data hother =>
    have ho := hh.orderly.put workDir path data
    have hlocks := (locks_put fs workDir path data).1
    exact ⟨ho, (holder?_of_locks_eq hlocks id).trans hh.holder, node?_put data hother hh.file⟩

/-- **A lock lasts** until it is released, and the content until it is written. -/
theorem Later.holds (hl : Later h id fs fs') (hh : fs.Holds h id content) :
    fs'.Holds h id content := by
  induction hl with
  | refl => exact hh
  | tail _ hstep ih => exact hstep.holds ih

end FileSystem
end Succession
