import Succession.Proofs.FileSystem.Walk

/-!
# What others do

Processes share a file system, and each has descriptions of its own on one file. What one process
does through its descriptions leaves alone what the others rely on: where the path leads, their
descriptions, and the file's content and lock as long as one of them holds the lock.

* `LeadsTo fs path id`          a full path leads to a node, from wherever it is read;
* `Spares mine path fs fs'`     whoever has the descriptions `mine` on the file at `path` does not
                                notice the change, with `spares_refl` and `Spares.trans`;
* `truncate_cases`, `rewind_cases`, …   all that an operation on a description may do;
* `spares_truncate`, `spares_lock`, …   an operation through somebody else's description.
-/

namespace Succession

namespace FileSystem

variable {fs fs' fs'' : FileSystem} {mine : Handle → Prop} {path : Path} {id other : NodeId}
  {h : Handle} {d : Description}

def LeadsTo (fs : FileSystem) (path : Path) (id : NodeId) : Prop :=
  ∀ workDir, Leads fs workDir path id

theorem LeadsTo.unique (hid : LeadsTo fs path id) (hother : LeadsTo fs path other) :
    id = other :=
  (hid path).unique (hother path)

theorem LeadsTo.keep (hid : LeadsTo fs path id) (hk : Keeps fs fs') : LeadsTo fs' path id :=
  fun workDir => (hid workDir).keep hk

theorem leadsTo_of_leads {workDir : Path} (ha : path.isAbsolute = true)
    (h : Leads fs workDir path id) : LeadsTo fs path id := by
  intro there
  unfold Leads
  rw [lookup_of_isAbsolute ha there workDir]
  exact h

structure Spares (mine : Handle → Prop) (path : Path) (fs fs' : FileSystem) : Prop where
  leads : ∀ id, LeadsTo fs path id → LeadsTo fs' path id
  descriptions : ∀ h, mine h → fs'.description? h = fs.description? h
  locked : ∀ id h, LeadsTo fs path id → mine h → fs.holder? id = some h →
    fs'.holder? id = some h ∧ fs'.node? id = fs.node? id
  /-- a number is never used twice -/
  grows : fs.descriptions.length ≤ fs'.descriptions.length

theorem spares_refl (mine : Handle → Prop) (path : Path) (fs : FileSystem) :
    Spares mine path fs fs :=
  ⟨fun _ hl => hl, fun _ _ => rfl, fun _ _ _ _ hh => ⟨hh, rfl⟩, Nat.le_refl _⟩

theorem Spares.trans (s : Spares mine path fs fs') (s' : Spares mine path fs' fs'') :
    Spares mine path fs fs'' := by
  refine ⟨fun id hl => s'.leads id (s.leads id hl), fun h hm => ?_, fun id h hl hm hh => ?_,
    Nat.le_trans s.grows s'.grows⟩
  · rw [s'.descriptions h hm, s.descriptions h hm]
  · obtain ⟨hh', hn⟩ := s.locked id h hl hm hh
    obtain ⟨hh'', hn'⟩ := s'.locked id h (s.leads id hl) hm hh'
    exact ⟨hh'', hn'.trans hn⟩

theorem Spares.mono {fewer : Handle → Prop} (s : Spares mine path fs fs')
    (hle : ∀ h, fewer h → mine h) : Spares fewer path fs fs' :=
  ⟨s.leads, fun h hm => s.descriptions h (hle h hm),
    fun id h hl hm hh => s.locked id h hl (hle h hm) hh, s.grows⟩

/-! ## all that an operation may do -/

theorem truncate_cases {r : Except IoError Unit} (ho : fs.description? h = some d)
    (h0 : fs.truncate h = (r, fs')) :
    (∃ content, r = .ok () ∧ fs.node? d.node = some (.file content) ∧
        fs' = fs.setNode d.node (.file [])) ∨
      ∃ e, r = .error e ∧ fs' = fs := by
  unfold truncate at h0
  rw [ho] at h0
  dsimp only at h0
  split at h0
  · next content hn =>
    cases h0
    exact .inl ⟨content, rfl, hn, rfl⟩
  · cases h0
    exact .inr ⟨_, rfl, rfl⟩

theorem rewind_cases {r : Except IoError Unit} (ho : fs.description? h = some d)
    (h0 : fs.rewind h = (r, fs')) :
    r = .ok () ∧ fs' = fs.setPosition h d 0 ∨ ∃ e, r = .error e ∧ fs' = fs := by
  unfold rewind at h0
  rw [ho] at h0
  dsimp only at h0
  split at h0
  · cases h0
    exact .inr ⟨_, rfl, rfl⟩
  · cases h0
    exact .inl ⟨rfl, rfl⟩

theorem readAll_cases {r : Except IoError Bytes} (ho : fs.description? h = some d)
    (h0 : fs.readAll h = (r, fs')) :
    fs' = fs ∨ ∃ position, fs' = fs.setPosition h d position := by
  unfold readAll at h0
  rw [ho] at h0
  dsimp only at h0
  split at h0
  · cases h0
    exact .inr ⟨_, rfl⟩
  · cases h0
    exact .inl rfl
  · cases h0
    exact .inl rfl

theorem write_cases {r : Except IoError Unit} {data : Bytes} (ho : fs.description? h = some d)
    (h0 : fs.write h data = (r, fs')) :
    (∃ content content' position, r = .ok () ∧ fs.node? d.node = some (.file content) ∧
        fs' = (fs.setNode d.node (.file content')).setPosition h d position) ∨
      fs' = fs := by
  unfold write at h0
  rw [ho] at h0
  dsimp only at h0
  split at h0
  · next content hn =>
    cases h0
    exact .inl ⟨content, _, _, rfl, hn, rfl⟩
  all_goals
    cases h0
    exact .inr rfl

theorem keeps_write {r : Except IoError Unit} {data : Bytes} (ho : fs.description? h = some d)
    (h0 : fs.write h data = (r, fs')) : Keeps fs fs' := by
  obtain ⟨content, content', position, -, hn, rfl⟩ | rfl := write_cases ho h0
  · exact keeps_setNode hn content'
  · exact keeps_of_nodes_eq rfl

theorem lock_cases {r : Except IoError Unit} (ho : fs.description? h = some d)
    (h0 : fs.lock h = (r, fs')) :
    r = .ok () ∧ fs.holder? d.node = none ∧ fs' = { fs with locks := (d.node, h) :: fs.locks } ∨
      r = .ok () ∧ fs.holder? d.node = some h ∧ fs' = fs ∨ ∃ e, r = .error e ∧ fs' = fs := by
  unfold lock at h0
  rw [ho] at h0
  dsimp only at h0
  split at h0
  · next hn =>
    cases h0
    exact .inl ⟨rfl, hn, rfl⟩
  · next hn =>
    split at h0
    · next he =>
      cases h0
      exact .inr (.inl ⟨rfl, he ▸ hn, rfl⟩)
    · cases h0
      exact .inr (.inr ⟨_, rfl, rfl⟩)

/-! ## through somebody else's description -/

theorem spares_setNode {content : Bytes} (hn : fs.node? id = some (.file content))
    (hheld : ∀ h, fs.holder? id = some h → ¬ mine h) (content' : Bytes) :
    Spares mine path fs (fs.setNode id (.file content')) := by
  refine ⟨fun other hl => hl.keep (keeps_setNode hn content'), fun _ _ => rfl,
    fun other h hl hm hh => ⟨hh, ?_⟩, Nat.le_refl _⟩
  have hne : other ≠ id := by
    rintro rfl
    exact hheld h hh hm
  rw [node?_setNode, if_neg hne]

theorem spares_setPosition (ho : fs.description? h = some d) (hm : ¬ mine h) (position : Nat) :
    Spares mine path fs (fs.setPosition h d position) := by
  refine ⟨fun other hl => hl.keep (keeps_of_nodes_eq rfl), fun h' hm' => ?_,
    fun _ _ _ _ hh => ⟨hh, rfl⟩, Nat.le_of_eq (List.length_set ..).symm⟩
  have hne : h' ≠ h := by
    rintro rfl
    exact hm hm'
  rw [description?_setPosition ho, if_neg hne]

theorem spares_truncate {r : Except IoError Unit} (ho : fs.description? h = some d)
    (hheld : fs.holder? d.node = some h) (hm : ¬ mine h) (h0 : fs.truncate h = (r, fs')) :
    Spares mine path fs fs' := by
  obtain ⟨content, -, hn, rfl⟩ | ⟨e, -, rfl⟩ := truncate_cases ho h0
  · refine spares_setNode hn (fun h' hh => ?_) []
    obtain rfl := Option.some.inj (hheld.symm.trans hh)
    exact hm
  · exact spares_refl mine path _

theorem spares_rewind {r : Except IoError Unit} (ho : fs.description? h = some d)
    (hm : ¬ mine h) (h0 : fs.rewind h = (r, fs')) : Spares mine path fs fs' := by
  obtain ⟨-, rfl⟩ | ⟨e, -, rfl⟩ := rewind_cases ho h0
  · exact spares_setPosition ho hm 0
  · exact spares_refl mine path _

theorem spares_readAll {r : Except IoError Bytes} (ho : fs.description? h = some d)
    (hm : ¬ mine h) (h0 : fs.readAll h = (r, fs')) : Spares mine path fs fs' := by
  obtain rfl | ⟨position, rfl⟩ := readAll_cases ho h0
  · exact spares_refl mine path _
  · exact spares_setPosition ho hm position

theorem spares_write {r : Except IoError Unit} {data : Bytes} (ho : fs.description? h = some d)
    (hheld : fs.holder? d.node = some h) (hm : ¬ mine h) (h0 : fs.write h data = (r, fs')) :
    Spares mine path fs fs' := by
  obtain ⟨content, content', position, -, hn, rfl⟩ | rfl := write_cases ho h0
  · have hw : Spares mine path fs (fs.setNode d.node (.file content')) := by
      refine spares_setNode hn (fun h' hh => ?_) content'
      obtain rfl := Option.some.inj (hheld.symm.trans hh)
      exact hm
    have ho' : (fs.setNode d.node (.file content')).description? h = some d := ho
    exact hw.trans (spares_setPosition ho' hm position)
  · exact spares_refl mine path _

theorem spares_lock {r : Except IoError Unit} (ho : fs.description? h = some d)
    (h0 : fs.lock h = (r, fs')) : Spares mine path fs fs' := by
  obtain ⟨-, hn, rfl⟩ | ⟨-, -, rfl⟩ | ⟨e, -, rfl⟩ := lock_cases ho h0
  · refine ⟨fun other hl => hl.keep (keeps_of_nodes_eq rfl), fun _ _ => rfl,
      fun other h' hl hm hh => ⟨?_, rfl⟩, Nat.le_refl _⟩
    have hne : other ≠ d.node := by
      rintro rfl
      rw [hn] at hh
      cases hh
    show ((d.node, h) :: fs.locks).lookup other = some h'
    have hb : (other == d.node) = false := by simpa using hne
    rw [List.lookup_cons, hb]
    exact hh
  · exact spares_refl mine path _
  · exact spares_refl mine path _

theorem spares_unlock (fs : FileSystem) (hm : ¬ mine h) : Spares mine path fs (fs.unlock h) := by
  refine ⟨fun other hl => hl.keep (keeps_of_nodes_eq rfl), fun _ _ => rfl,
    fun other h' hl hm' hh => ⟨?_, rfl⟩, Nat.le_refl _⟩
  have hne : fs.holder? other ≠ some h := by
    intro e
    obtain rfl := Option.some.inj (hh.symm.trans e)
    exact hm hm'
  rw [holder?_unlock_of_ne hne]
  exact hh

/-- whoever opens the path makes a description of its own, and at most the file that was missing -/
theorem spares_openFile {workDir : Path} {mode : OpenMode} {r : Except IoError Handle}
    (hold : ∀ h, mine h → h < fs.descriptions.length)
    (h0 : fs.openFile workDir path mode = (r, fs')) : Spares mine path fs fs' := by
  obtain ⟨ho, -⟩ := opened_openFile h0
  refine ⟨fun id hl => hl.keep ho.keeps, fun h hm => ho.descriptions h (hold h hm),
    fun id h hl hm hh => ⟨?_, ho.file id (hl workDir)⟩, ho.grows⟩
  show fs'.locks.lookup id = _
  rw [ho.locks]
  exact hh

end FileSystem
end Succession
