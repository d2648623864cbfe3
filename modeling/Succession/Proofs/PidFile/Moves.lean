import Succession.Proofs.PidFile.Stance

/-!
# What a host makes of a move

A host answers a question through the file system, and the stance that the answer leads to is what
the file system bears out then. No other process notices.

* `Holding.clear`, `Holding.rewind`, `Holding.writeDigits`, …   the lock's holder writes its record;
* `Stance.Backed.move`     the new stance is backed;
* `Move.spares`            everybody else is spared;
* `Stance.Backed.fits`     a host's answers fit.
-/

namespace Succession

open FileSystem

variable {pid : Nat} {path : Path} {fs fs' : FileSystem} {h k : Handle} {id : NodeId}
  {progress : Progress} {st st' : Stance} {mine : Handle → Prop} {host host' : Host} {q : Request}
  {kept : Option Handle}

/-! ## a host and its file system -/

namespace Host

theorem onFs_eq {α : Type} {answer : α × FileSystem} {r : α} (h0 : host.onFs answer = (r, host')) :
    answer = (r, host'.kernel.fs) := by
  cases h0
  rfl

theorem fs_handle_of_quiet (hq : q.Quiet) (host : Host) :
    (handle q host).2.kernel.fs = host.kernel.fs := by
  have hfaulty {α : Type} {fault : Option Errno} {answer : Except IoError α × Host}
      (h : answer.2.kernel.fs = host.kernel.fs) :
      (faulty fault host answer).2.kernel.fs = host.kernel.fs :=
    faulty_snd (fun host' => host'.kernel.fs = host.kernel.fs) rfl h
  cases q with
  | duplicate | processId | now | arguments | clearUmask | parentId => rfl
  | kill pid signal =>
    exact faulty_snd (fun host' => host'.kernel.fs = host.kernel.fs) rfl rfl
  | executable | launch | stdioHandles | signal => exact hfaulty rfl
  | adopt descriptor =>
    refine hfaulty ?_
    show (host.adopt descriptor).2.kernel.fs = _
    unfold Host.adopt
    split <;> rfl
  | enterWorkDir path =>
    refine hfaulty ?_
    show (host.enterWorkDir path).2.kernel.fs = _
    unfold Host.enterWorkDir
    split
    · split <;> rfl
    · rfl
  | log line =>
    show (host.log line).2.kernel.fs = _
    unfold Host.log
    split <;> rfl
  | _ => exact hq.elim

theorem pid_handle (q : Request) (host : Host) :
    (handle q host).2.process.pid = host.process.pid := (kin_handle q host).1

theorem handle_lock_cases {r : Except IoError Unit} (h0 : handle (.lock h) host = (r, host')) :
    host.kernel.fs.lock h = (r, host'.kernel.fs) ∨
      (∃ e, r = .error e) ∧ host'.kernel.fs = host.kernel.fs := by
  replace h0 : faulty host.kernel.lockFault host (host.onFs (host.kernel.fs.lock h)) = _ := h0
  unfold faulty at h0
  split at h0
  · cases h0
    exact .inr ⟨⟨_, rfl⟩, rfl⟩
  · exact .inl (onFs_eq h0)

end Host

/-! ## the holder writes its record -/

theorem Holding.clear (hh : Holding pid path fs h progress)
    (h0 : fs.truncate h = (.ok (), fs')) : Holding pid path fs' h .cleared := by
  obtain ⟨id, hl, hheld, hs⟩ := hh
  obtain ⟨position, ho⟩ := hs.opens
  obtain ⟨content, -, hn, rfl⟩ | ⟨e, he, -⟩ := truncate_cases ho h0
  · have a : fs.At h id position content := ⟨ho, hn⟩
    exact ⟨id, hl.keep (keeps_setNode hn []), hheld, position, a.setNode []⟩
  · cases he

theorem Holding.rewind (hh : Holding pid path fs h .cleared)
    (h0 : fs.rewind h = (.ok (), fs')) : Holding pid path fs' h .rewound := by
  obtain ⟨id, hl, hheld, position, a⟩ := hh
  obtain ⟨-, rfl⟩ | ⟨e, he, -⟩ := rewind_cases a.opens h0
  · exact ⟨id, hl.keep (keeps_of_nodes_eq rfl), hheld, a.setPosition 0⟩
  · cases he

theorem Holding.writeDigits (hh : Holding pid path fs h .rewound)
    (h0 : fs.write h (pidDigits pid) = (.ok (), fs')) : Holding pid path fs' h .digits := by
  obtain ⟨id, hl, hheld, a⟩ := hh
  replace a : fs.At h id ([] : Bytes).length [] := a
  obtain ⟨fs'', h1, a', hlocks⟩ := a.write (pidDigits pid)
  obtain ⟨-, rfl⟩ := Prod.mk.inj (h0.symm.trans h1)
  refine ⟨id, hl.keep (keeps_write a.opens h0), ?_, a'⟩
  show fs'.locks.lookup id = _
  rw [hlocks]
  exact hheld

theorem Holding.writeNewline (hh : Holding pid path fs h .digits)
    (h0 : fs.write h newline = (.ok (), fs')) : Holding pid path fs' h .recorded := by
  obtain ⟨id, hl, hheld, a⟩ := hh
  replace a : fs.At h id (pidDigits pid).length (pidDigits pid) := a
  obtain ⟨fs'', h1, a', hlocks⟩ := a.write newline
  obtain ⟨-, rfl⟩ := Prod.mk.inj (h0.symm.trans h1)
  refine ⟨id, hl.keep (keeps_write a.opens h0), ?_, _, a'⟩
  show fs'.locks.lookup id = _
  rw [hlocks]
  exact hheld

theorem fs_eq_of_error {e : IoError} (data : Bytes) (ho : OnPath fs path h)
    (h0 : fs.truncate h = (.error e, fs') ∨ fs.rewind h = (.error e, fs') ∨
      fs.write h data = (.error e, fs')) : fs' = fs := by
  obtain ⟨id, position, -, hd⟩ := ho
  obtain h0 | h0 | h0 := h0
  · obtain ⟨content, he, -⟩ | ⟨e', -, rfl⟩ := truncate_cases hd h0
    · cases he
    · rfl
  · obtain ⟨he, -⟩ | ⟨e', -, rfl⟩ := rewind_cases hd h0
    · cases he
    · rfl
  · obtain ⟨content, content', position, he, -⟩ | rfl := write_cases hd h0
    · cases he
    · rfl

/-! ## looking at the file -/

theorem OnPath.rewind {r : Except IoError Unit} (ho : OnPath fs path h)
    (h0 : fs.rewind h = (r, fs')) : OnPath fs' path h := by
  obtain ⟨id, position, hl, hd⟩ := ho
  obtain ⟨-, rfl⟩ | ⟨e, -, rfl⟩ := rewind_cases hd h0
  · refine ⟨id, 0, hl.keep (keeps_of_nodes_eq rfl), ?_⟩
    rw [description?_setPosition hd, if_pos rfl]
  · exact ⟨id, position, hl, hd⟩

theorem OnPath.readAll {r : Except IoError Bytes} (ho : OnPath fs path h)
    (h0 : fs.readAll h = (r, fs')) : OnPath fs' path h := by
  obtain ⟨id, position, hl, hd⟩ := ho
  obtain rfl | ⟨position', rfl⟩ := readAll_cases hd h0
  · exact ⟨id, position, hl, hd⟩
  · refine ⟨id, position', hl.keep (keeps_of_nodes_eq rfl), ?_⟩
    rw [description?_setPosition hd, if_pos rfl]

theorem OnPath.lock (ho : OnPath fs path h) (h0 : fs.lock h = (.ok (), fs')) :
    Holding pid path fs' h .fresh := by
  obtain ⟨id, position, hl, hd⟩ := ho
  obtain ⟨-, -, rfl⟩ | ⟨-, hheld, rfl⟩ | ⟨e, he, -⟩ := lock_cases hd h0
  · refine ⟨id, hl.keep (keeps_of_nodes_eq rfl), ?_, position, hd⟩
    show ((id, h) :: fs.locks).lookup id = _
    exact List.lookup_cons_self
  · exact ⟨id, hl, hheld, position, hd⟩
  · cases he

theorem onPath_openFile {workDir : Path} {mode : OpenMode} (ha : path.isAbsolute = true)
    (hmode : mode.append = false) (h0 : fs.openFile workDir path mode = (.ok h, fs')) :
    OnPath fs' path h ∧ h = fs.descriptions.length := by
  obtain ⟨-, hnew⟩ := opened_openFile h0
  obtain ⟨he, -, id, hl, hd⟩ := hnew h rfl
  rw [hmode] at hd
  exact ⟨⟨id, 0, leadsTo_of_leads ha hl, hd⟩, he⟩

/-! ## moves -/

theorem kept_spared (hk : ∀ k, kept = some k → k ≠ h ∧ Holding pid path fs k .recorded)
    (s : Spares (· ≠ h) path fs fs') :
    ∀ k, kept = some k → k ≠ h ∧ Holding pid path fs' k .recorded :=
  fun k e => ⟨(hk k e).1, (hk k e).2.spared s (hk k e).1⟩

/-- **The stance that a host's answer leads to is backed.** -/
theorem Stance.Backed.move {r : q.Reply} (ha : path.isAbsolute = true)
    (hb : st.Backed pid path host.kernel.fs) (hm : Move pid path st q r st')
    (h0 : Host.handle q host = (r, host')) : st'.Backed pid path host'.kernel.fs := by
  cases hm with
  | quiet hq =>
    have he := Host.fs_handle_of_quiet hq host
    rw [h0] at he
    rw [show host'.kernel.fs = host.kernel.fs from he]
    exact hb
  | openFile hmode h =>
    obtain ⟨ho, hnew⟩ := onPath_openFile ha hmode (Host.onFs_eq h0)
    refine ⟨fun k hk => ?_, ho⟩
    have hlt := (hb k hk).onPath.lt
    rw [hnew]
    exact ⟨Nat.ne_of_lt hlt,
      (hb k hk).spared (spares_openFile (fun _ hm => hm) (Host.onFs_eq h0)) hlt⟩
  | missing e =>
    intro k hk
    have hlt := (hb k hk).onPath.lt
    exact (hb k hk).spared (spares_openFile (fun _ hm => hm) (Host.onFs_eq h0)) hlt
  | lock =>
    obtain hlock | ⟨⟨e, he⟩, -⟩ := Host.handle_lock_cases h0
    · exact hb.2.lock hlock
    · cases he
  | refused e =>
    obtain ⟨id, position, -, hd⟩ := hb.2
    obtain hlock | ⟨-, he⟩ := Host.handle_lock_cases h0
    · obtain ⟨he, -⟩ | ⟨he, -⟩ | ⟨e', -, he⟩ := lock_cases hd hlock
      · cases he
      · cases he
      · rw [he]
        exact hb
    · rw [he]
      exact hb
  | restart r =>
    obtain ⟨id, position, -, hd⟩ := hb.2
    have hrewind := Host.onFs_eq h0
    exact ⟨kept_spared hb.1 (spares_rewind hd (fun hne => hne rfl) hrewind), hb.2.rewind hrewind⟩
  | read r =>
    obtain ⟨id, position, -, hd⟩ := hb.2
    have hread := Host.onFs_eq h0
    exact ⟨kept_spared hb.1 (spares_readAll hd (fun hne => hne rfl) hread), hb.2.readAll hread⟩
  | @close kept h =>
    cases h0
    have hs : Spares (· ≠ h) path host.kernel.fs (host.kernel.fs.unlock h) :=
      spares_unlock _ fun hne => hne rfl
    exact fun k hk => (kept_spared hb.1 hs k hk).2
  | clear => exact Holding.clear hb (Host.onFs_eq h0)
  | rewind => exact Holding.rewind hb (Host.onFs_eq h0)
  | digits => exact Holding.writeDigits hb (Host.onFs_eq h0)
  | newline => exact Holding.writeNewline hb (Host.onFs_eq h0)
  | sync =>
    cases h0
    intro k hk
    obtain rfl := Option.some.inj hk
    exact hb
  | notCleared e =>
    have he := fs_eq_of_error [] (Holding.onPath hb) (.inl (Host.onFs_eq h0))
    rw [he]
    exact Holding.fresh hb
  | notRewound e =>
    have he := fs_eq_of_error [] (Holding.onPath hb) (.inr (.inl (Host.onFs_eq h0)))
    rw [he]
    exact Holding.fresh hb
  | notWritten e =>
    have he := fs_eq_of_error _ (Holding.onPath hb) (.inr (.inr (Host.onFs_eq h0)))
    rw [he]
    exact Holding.fresh hb
  | notSynced e => cases h0
  | abandon =>
    intro k hk
    cases hk
  | @unlock h =>
    cases h0
    obtain ⟨id, position, hl, hd⟩ := (hb h rfl).onPath
    refine ⟨fun k hk => ?_, id, position, hl.keep (keeps_of_nodes_eq rfl), hd⟩
    cases hk

/-- **Whoever has other descriptions is spared.** -/
theorem Move.spares {r : q.Reply} (hm : Move pid path st q r st')
    (hb : st.Backed pid path host.kernel.fs) (h0 : Host.handle q host = (r, host'))
    (hopen : ∀ h, mine h → h < host.kernel.fs.descriptions.length)
    (hmine : ∀ h, st.Owns h → ¬ mine h) : Spares mine path host.kernel.fs host'.kernel.fs := by
  cases hm with
  | quiet hq =>
    have he := Host.fs_handle_of_quiet hq host
    rw [h0] at he
    rw [show host'.kernel.fs = host.kernel.fs from he]
    exact spares_refl mine path _
  | openFile | missing => exact spares_openFile hopen (Host.onFs_eq h0)
  | lock | refused =>
    obtain ⟨id, position, -, hd⟩ := hb.2
    obtain hlock | ⟨-, he⟩ := Host.handle_lock_cases h0
    · exact spares_lock hd hlock
    · rw [he]
      exact spares_refl mine path _
  | restart =>
    obtain ⟨id, position, -, hd⟩ := hb.2
    exact spares_rewind hd (hmine _ (.inr rfl)) (Host.onFs_eq h0)
  | read =>
    obtain ⟨id, position, -, hd⟩ := hb.2
    exact spares_readAll hd (hmine _ (.inr rfl)) (Host.onFs_eq h0)
  | close =>
    cases h0
    exact spares_unlock _ (hmine _ (.inr rfl))
  | abandon =>
    cases h0
    exact spares_unlock _ (hmine _ rfl)
  | unlock =>
    cases h0
    exact spares_unlock _ (hmine _ rfl)
  | clear | notCleared =>
    obtain ⟨id, -, hheld, hs⟩ := hb
    obtain ⟨position, hd⟩ := hs.opens
    exact spares_truncate hd hheld (hmine _ rfl) (Host.onFs_eq h0)
  | rewind | notRewound =>
    obtain ⟨id, -, hheld, hs⟩ := hb
    obtain ⟨position, hd⟩ := hs.opens
    exact spares_rewind hd (hmine _ rfl) (Host.onFs_eq h0)
  | digits | newline | notWritten =>
    obtain ⟨id, -, hheld, hs⟩ := hb
    obtain ⟨position, hd⟩ := hs.opens
    exact spares_write hd hheld (hmine _ rfl) (Host.onFs_eq h0)
  | sync =>
    cases h0
    exact spares_refl mine path _
  | notSynced => cases h0

/-- **A host's answers fit**: another description cannot have the lock that is kept. -/
theorem Stance.Backed.fits {r : q.Reply} (hb : st.Backed host.process.pid path host.kernel.fs)
    (h0 : Host.handle q host = (r, host')) : Fits host.process.pid st q r := by
  cases q with
  | processId =>
    cases h0
    rfl
  | lock h =>
    rintro k rfl rfl
    have hk := hb.1 k rfl
    obtain hlock | ⟨⟨e, he⟩, -⟩ := Host.handle_lock_cases h0
    · have hheld : Holding host.process.pid path host'.kernel.fs h .fresh := hb.2.lock hlock
      obtain ⟨id, position, -, hd⟩ := hb.2
      have hs : Spares (· = k) path host.kernel.fs host'.kernel.fs := spares_lock hd hlock
      exact hk.1 ((hk.2.spared hs rfl).unique hheld)
    · cases he
  | _ => trivial

end Succession
