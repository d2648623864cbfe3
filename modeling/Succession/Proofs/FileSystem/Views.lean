import Mathlib.Data.List.Basic
import Succession.Machine.Host

/-!
# Files through descriptions

What the operations on an open description do to the three views of a file system: the nodes, the
descriptions, and who holds the lock of a node.

* `FileSystem.node?_setNode`, `FileSystem.description?_setPosition`, …   one lemma a view;
* `FileSystem.At fs h id position content` a description on a regular file;
* `At.truncate`, `At.rewind`, `At.write`   what becomes of it when the file is changed through it;
* `FileSystem.openFile_ok`                 what has been opened is the newest description, at its
                                           start.
-/

namespace Succession

namespace FileSystem

variable {fs fs' : FileSystem} {id other : NodeId} {h : Handle} {content : Bytes}

/-! ## the views -/

theorem node?_setNode (fs : FileSystem) (id other : NodeId) (node : Node) :
    (fs.setNode id node).node? other =
      if other = id then (fs.node? id).map fun _ => node else fs.node? other := by
  show (fs.nodes.set id node)[other]? = _
  rw [List.getElem?_set]
  by_cases h : other = id
  · subst h
    rw [if_pos rfl, if_pos rfl]
    by_cases hl : other < fs.nodes.length
    · rw [if_pos hl]
      show _ = (fs.nodes[other]?).map _
      rw [List.getElem?_eq_getElem hl]
      rfl
    · rw [if_neg hl]
      show _ = (fs.nodes[other]?).map _
      rw [List.getElem?_eq_none (Nat.le_of_not_lt hl)]
      rfl
  · rw [if_neg (Ne.symm h), if_neg h]
    rfl

theorem description?_setPosition {d : Description} (hd : fs.description? h = some d)
    (position : Nat) (other : Handle) :
    (fs.setPosition h d position).description? other =
      if other = h then some { d with position } else fs.description? other := by
  show (fs.descriptions.set h { d with position })[other]? = _
  rw [List.getElem?_set]
  have hl : h < fs.descriptions.length := (List.getElem?_eq_some_iff.mp hd).1
  by_cases ho : other = h
  · subst ho
    rw [if_pos rfl, if_pos rfl, if_pos hl]
  · rw [if_neg (Ne.symm ho), if_neg ho]
    rfl

theorem holder?_unlock_of_ne (hne : fs.holder? id ≠ some h) :
    (fs.unlock h).holder? id = fs.holder? id := by
  unfold holder? unlock at *
  generalize fs.locks = locks at hne ⊢
  induction locks with
  | nil => rfl
  | cons l locks ih =>
    obtain ⟨node, holder⟩ := l
    rw [List.lookup_cons] at hne ⊢
    by_cases hn : id = node
    · have hb : (id == node) = true := by simpa using hn
      rw [hb] at hne ⊢
      have hh : holder ≠ h := fun e => hne (congrArg some e)
      rw [List.filter_cons_of_pos (by simpa using hh), List.lookup_cons, hb]
    · have hb : (id == node) = false := by simpa using hn
      rw [hb] at hne ⊢
      by_cases hh : holder = h
      · rw [List.filter_cons_of_neg (by simpa using hh)]
        exact ih hne
      · rw [List.filter_cons_of_pos (by simpa using hh), List.lookup_cons, hb]
        exact ih hne

/-! ## a file behind a description -/

/-- a description is on a regular file of this content, at a position, and does not write behind the
end by itself -/
structure At (fs : FileSystem) (h : Handle) (id : NodeId) (position : Nat) (content : Bytes) :
    Prop where
  opens : fs.description? h = some ⟨id, position, false⟩
  file : fs.node? id = some (.file content)

theorem At.setNode {position : Nat} (a : fs.At h id position content) (data : Bytes) :
    (fs.setNode id (.file data)).At h id position data := by
  refine ⟨a.opens, ?_⟩
  rw [node?_setNode, if_pos rfl, a.file]
  rfl

theorem At.setPosition {position : Nat} (a : fs.At h id position content) (position' : Nat) :
    (fs.setPosition h ⟨id, position, false⟩ position').At h id position' content := by
  refine ⟨?_, a.file⟩
  rw [description?_setPosition a.opens, if_pos rfl]

theorem At.lock {position : Nat} (a : fs.At h id position content) (hf : fs.holder? id = none) :
    fs.lock h = (.ok (), { fs with locks := (id, h) :: fs.locks }) := by
  simp only [FileSystem.lock, a.opens, hf]

theorem At.truncate {position : Nat} (a : fs.At h id position content) :
    ∃ fs', fs.truncate h = (.ok (), fs') ∧ fs'.At h id position [] ∧ fs'.locks = fs.locks := by
  refine ⟨fs.setNode id (.file []), ?_, a.setNode [], rfl⟩
  simp only [FileSystem.truncate, a.opens, a.file]

theorem At.rewind {position : Nat} (a : fs.At h id position content) :
    ∃ fs', fs.rewind h = (.ok (), fs') ∧ fs'.At h id 0 content ∧ fs'.locks = fs.locks := by
  refine ⟨fs.setPosition h ⟨id, position, false⟩ 0, ?_, a.setPosition 0, rfl⟩
  simp only [FileSystem.rewind, a.opens, a.file]

theorem overlay_length (content data : Bytes) :
    overlay content content.length data = content ++ data := by
  unfold overlay
  rw [List.take_length, Nat.sub_self, List.replicate_zero, List.append_nil,
    List.drop_eq_nil_of_le (by omega), List.append_nil]

theorem At.write (a : fs.At h id content.length content) (data : Bytes) :
    ∃ fs', fs.write h data = (.ok (), fs') ∧
      fs'.At h id (content ++ data).length (content ++ data) ∧ fs'.locks = fs.locks := by
  refine ⟨(fs.setNode id (.file (content ++ data))).setPosition h ⟨id, content.length, false⟩
    (content ++ data).length, ?_, (a.setNode (content ++ data)).setPosition _, rfl⟩
  simp only [FileSystem.write, a.opens, a.file, Bool.false_eq_true, if_false, overlay_length,
    List.length_append]

/-! ## opening -/

theorem lookup_of_isAbsolute {path : Path} (ha : path.isAbsolute = true) (here there : Path)
    (aim : Aim) : fs.lookup here path aim = fs.lookup there path aim := by
  unfold lookup Path.join
  rw [if_pos ha, if_pos ha]

theorem openFile_of_isAbsolute {path : Path} (ha : path.isAbsolute = true) (here there : Path)
    (mode : OpenMode) : fs.openFile here path mode = fs.openFile there path mode := by
  unfold openFile
  rw [lookup_of_isAbsolute ha here there]

theorem openNode_ok {mode : OpenMode} (h0 : fs.openNode id mode = (.ok h, fs')) :
    h = fs.descriptions.length ∧
      fs' = { fs with descriptions := fs.descriptions ++ [⟨id, 0, mode.append⟩] } := by
  unfold openNode at h0
  split at h0
  · split at h0
    · cases h0
    · cases h0
      exact ⟨rfl, rfl⟩
  · cases h0
    exact ⟨rfl, rfl⟩

theorem descriptions_create (fs : FileSystem) (directory : NodeId) (name : Bytes) (node : Node) :
    (fs.create directory name node).2.descriptions = fs.descriptions := by
  show (FileSystem.addEntry _ directory name _).descriptions = _
  unfold addEntry
  split <;> rfl

theorem locks_create (fs : FileSystem) (directory : NodeId) (name : Bytes) (node : Node) :
    (fs.create directory name node).2.locks = fs.locks := by
  show (FileSystem.addEntry _ directory name _).locks = _
  unfold addEntry
  split <;> rfl

/-- what has been opened is the newest description, at the start of its node; no lock changes -/
theorem openFile_ok {workDir path : Path} {mode : OpenMode}
    (h0 : fs.openFile workDir path mode = (.ok h, fs')) :
    h = fs.descriptions.length ∧ fs'.locks = fs.locks ∧
      ∃ id, fs'.descriptions = fs.descriptions ++ [⟨id, 0, mode.append⟩] := by
  unfold openFile at h0
  split at h0
  · cases h0
  · obtain ⟨rfl, rfl⟩ := openNode_ok h0
    exact ⟨rfl, rfl, _, rfl⟩
  · next directory name slash _ =>
    split at h0
    · obtain ⟨rfl, rfl⟩ := openNode_ok h0
      have hd := descriptions_create fs directory name (.file [])
      exact ⟨congrArg List.length hd, locks_create fs directory name (.file []), fs.nodes.length,
        congrArg (· ++ _) hd⟩
    · cases h0

theorem description?_openFile {workDir path : Path} {mode : OpenMode}
    (h0 : fs.openFile workDir path mode = (.ok h, fs')) :
    ∃ id, fs'.description? h = some ⟨id, 0, mode.append⟩ := by
  obtain ⟨rfl, -, id, hd⟩ := openFile_ok h0
  refine ⟨id, ?_⟩
  show fs'.descriptions[fs.descriptions.length]? = _
  rw [hd]
  exact List.getElem?_concat_length

end FileSystem
end Succession
