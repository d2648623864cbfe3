import Succession.Proofs.PidFile.Release

/-!
# What an operation leaves alone

Most operations touch one thing. Looking at a file moves a description; writing changes one node;
opening a path, and what an operator does to names, make nodes and change directories, but no
regular file that is there.

* `Grows fs fs'`      nodes and descriptions are never taken away;
* `Peeked fs fs'`     only descriptions may have moved or come;
* `Calm fs fs'`       the regular files that were there are as they were, and so are the locks;
* `Aside id fs fs'`   at most the content of the node `id` has changed;
* `Touches h fs fs'`  at most the content of the node of a description has changed;
* `peeked_rewind`, `calm_openFile`, `aside_write`, …   one operation each;
* `Edit fs fs'`       an operator's change to names, with `Edit.calm`.
-/

namespace Succession

namespace FileSystem

variable {fs fs' fs'' : FileSystem} {id other : NodeId} {h k : Handle} {d : Description}
  {workDir path : Path}

/-! ## numbers are kept -/

def Based (fs : FileSystem) : Prop := ∀ d ∈ fs.descriptions, d.node < fs.nodes.length

/-- nothing is taken away, and what comes is on a node -/
structure Grows (fs fs' : FileSystem) : Prop where
  nodes : fs.nodes.length ≤ fs'.nodes.length
  descriptions : ∀ h d, fs.description? h = some d →
    ∃ d', fs'.description? h = some d' ∧ d'.node = d.node
  based : fs.Based → fs'.Based

theorem grows_refl (fs : FileSystem) : Grows fs fs :=
  ⟨Nat.le_refl _, fun _ d hd => ⟨d, hd, rfl⟩, fun hb => hb⟩

theorem Grows.trans (g : Grows fs fs') (g' : Grows fs' fs'') : Grows fs fs'' := by
  refine ⟨Nat.le_trans g.nodes g'.nodes, fun h d hd => ?_, fun hb => g'.based (g.based hb)⟩
  obtain ⟨d', hd', hn⟩ := g.descriptions h d hd
  obtain ⟨d'', hd'', hn'⟩ := g'.descriptions h d' hd'
  exact ⟨d'', hd'', hn'.trans hn⟩

/-- more nodes, and the same descriptions -/
theorem grows_of_descriptions_eq (hn : fs.nodes.length ≤ fs'.nodes.length)
    (hd : fs'.descriptions = fs.descriptions) : Grows fs fs' := by
  refine ⟨hn, fun h d h0 => ⟨d, ?_, rfl⟩, fun hb d hm => ?_⟩
  · unfold description?
    rw [hd]
    exact h0
  · rw [hd] at hm
    exact Nat.lt_of_lt_of_le (hb d hm) hn

theorem grows_setPosition (hd : fs.description? h = some d) (position : Nat) :
    Grows fs (fs.setPosition h d position) := by
  refine ⟨Nat.le_refl _, fun k d' hk => ?_, fun hb d' hm => ?_⟩
  · rw [description?_setPosition hd]
    by_cases hkh : k = h
    · subst hkh
      obtain rfl := Option.some.inj (hd.symm.trans hk)
      exact ⟨_, if_pos rfl, rfl⟩
    · exact ⟨d', (if_neg hkh).trans hk, rfl⟩
  · obtain hm | rfl := List.mem_or_eq_of_mem_set hm
    · exact hb d' hm
    · exact hb d (List.mem_of_getElem? hd)

theorem grows_describe (hid : id < fs.nodes.length) (mode : OpenMode) :
    Grows fs (fs.describe id mode).2 := by
  refine ⟨Nat.le_refl _, fun h d hd => ⟨d, ?_, rfl⟩, fun hb d hm => ?_⟩
  · show (fs.descriptions ++ _)[h]? = _
    rw [List.getElem?_append_left (List.getElem?_eq_some_iff.mp hd).1]
    exact hd
  · obtain hm | hm := List.mem_append.mp hm
    · exact hb d hm
    · rw [List.mem_singleton.mp hm]
      exact hid

/-! ## nothing but descriptions -/

structure Peeked (fs fs' : FileSystem) : Prop where
  nodes : fs'.nodes = fs.nodes
  locks : fs'.locks = fs.locks
  grows : Grows fs fs'

theorem peeked_refl (fs : FileSystem) : Peeked fs fs := ⟨rfl, rfl, grows_refl fs⟩

theorem Peeked.trans (p : Peeked fs fs') (p' : Peeked fs' fs'') : Peeked fs fs'' :=
  ⟨p'.nodes.trans p.nodes, p'.locks.trans p.locks, p.grows.trans p'.grows⟩

theorem Peeked.node? (p : Peeked fs fs') (id : NodeId) : fs'.node? id = fs.node? id := by
  unfold FileSystem.node?
  rw [p.nodes]

theorem peeked_setPosition (hd : fs.description? h = some d) (position : Nat) :
    Peeked fs (fs.setPosition h d position) := ⟨rfl, rfl, grows_setPosition hd position⟩

theorem peeked_describe (hid : id < fs.nodes.length) (mode : OpenMode) :
    Peeked fs (fs.describe id mode).2 := ⟨rfl, rfl, grows_describe hid mode⟩

theorem peeked_rewind (fs : FileSystem) (h : Handle) : Peeked fs (fs.rewind h).2 := by
  unfold rewind
  split
  · exact peeked_refl fs
  · next hd =>
    split
    · exact peeked_refl fs
    · exact peeked_setPosition hd 0

theorem peeked_readAll (fs : FileSystem) (h : Handle) : Peeked fs (fs.readAll h).2 := by
  unfold readAll
  split
  · exact peeked_refl fs
  · next hd =>
    split
    · exact peeked_setPosition hd _
    · exact peeked_refl fs
    · exact peeked_refl fs

/-! ## no regular file -/

structure Calm (fs fs' : FileSystem) : Prop where
  file : ∀ id content, fs.node? id = some (.file content) → fs'.node? id = some (.file content)
  locks : fs'.locks = fs.locks
  grows : Grows fs fs'

theorem Peeked.calm (p : Peeked fs fs') : Calm fs fs' :=
  ⟨fun id _ hn => (p.node? id).trans hn, p.locks, p.grows⟩

theorem calm_refl (fs : FileSystem) : Calm fs fs := (peeked_refl fs).calm

theorem Calm.trans (c : Calm fs fs') (c' : Calm fs' fs'') : Calm fs fs'' :=
  ⟨fun id content hn => c'.file id content (c.file id content hn), c'.locks.trans c.locks,
    c.grows.trans c'.grows⟩

theorem grows_setNode (fs : FileSystem) (id : NodeId) (node : Node) :
    Grows fs (fs.setNode id node) :=
  grows_of_descriptions_eq (Nat.le_of_eq (List.length_set ..).symm) rfl

theorem calm_setNode {entries : List (Bytes × NodeId)} {parent : NodeId}
    (hd : fs.node? id = some (.directory entries parent)) (node : Node) :
    Calm fs (fs.setNode id node) := by
  refine ⟨fun other content hn => ?_, rfl, grows_setNode fs id node⟩
  have hne : other ≠ id := by
    rintro rfl
    rw [hd] at hn
    cases hn
  rw [node?_setNode, if_neg hne, hn]

theorem calm_addNode (fs : FileSystem) (node : Node) : Calm fs (fs.addNode node).2 := by
  have hlength : fs.nodes.length ≤ (fs.nodes ++ [node]).length := by
    rw [List.length_append]
    omega
  refine ⟨fun id content hn => ?_, rfl, grows_of_descriptions_eq hlength rfl⟩
  show (fs.nodes ++ [node])[id]? = _
  have hlt : id < fs.nodes.length := (List.getElem?_eq_some_iff.mp hn).1
  rw [List.getElem?_append_left hlt]
  exact hn

theorem calm_addEntry (fs : FileSystem) (directory : NodeId) (name : Bytes) (id : NodeId) :
    Calm fs (fs.addEntry directory name id) := by
  unfold addEntry
  split
  · next hd => exact calm_setNode hd _
  · exact calm_refl fs

theorem calm_create (fs : FileSystem) (directory : NodeId) (name : Bytes) (node : Node) :
    Calm fs (fs.create directory name node).2 :=
  (calm_addNode fs node).trans (calm_addEntry _ _ _ _)

theorem lt_create (fs : FileSystem) (directory : NodeId) (name : Bytes) (node : Node) :
    fs.nodes.length < (fs.create directory name node).2.nodes.length := by
  have hadded : (fs.addNode node).2.nodes.length = fs.nodes.length + 1 :=
    List.length_append
  have hkept := (calm_addEntry (fs.addNode node).2 directory name fs.nodes.length).grows.nodes
  exact Nat.lt_of_lt_of_le (by omega) hkept

theorem peeked_openNode (hid : id < fs.nodes.length) (mode : OpenMode) :
    Peeked fs (fs.openNode id mode).2 := by
  unfold openNode
  split
  · split
    · exact peeked_refl fs
    · exact peeked_describe hid mode
  · exact peeked_describe hid mode

/-- a path leads to a node that is there -/
theorem Leads.lt (hl : Leads fs workDir path id) : id < fs.nodes.length := by
  have hend {aim : Aim} {links : Nat} {here : NodeId} {names : List Bytes} {slash : Bool}
      {place : Place} (hw : Walks fs aim links here names slash place) :
      ∀ id, place = .node id → id < fs.nodes.length := by
    induction hw with
    | stay hnode =>
      rintro id ⟨⟩
      exact (List.getElem?_eq_some_iff.mp hnode).1
    | missing => nofun
    | dot _ _ ih | dotDot _ _ ih => exact ih
    | link _ _ _ _ ih | step _ _ _ _ ih => exact ih
  have hl' : fs.lookup workDir path .target = _ := hl
  unfold lookup at hl'
  split at hl'
  · cases hl'
  · split at hl'
    · cases hl'
    · split at hl'
      · cases hl'
      · exact hend (walks_of_walk (by decide) hl') id rfl

theorem lookup_lt {aim : Aim} (haim : aim ≠ .entry)
    (hl : fs.lookup workDir path aim = .ok (.node id)) : id < fs.nodes.length := by
  cases aim with
  | target => exact Leads.lt hl
  | creation => exact Leads.lt (target_of_creation hl)
  | entry => exact absurd rfl haim

theorem calm_openFile (fs : FileSystem) (workDir path : Path) (mode : OpenMode) :
    Calm fs (fs.openFile workDir path mode).2 := by
  unfold openFile
  split
  · exact calm_refl fs
  · next id hl =>
    have haim : (if mode.create then Aim.creation else .target) ≠ .entry := by
      split <;> decide
    exact (peeked_openNode (lookup_lt haim hl) mode).calm
  · next directory name slash hl =>
    split
    · have hcreated := calm_create fs directory name (.file [])
      exact hcreated.trans (peeked_openNode (lt_create fs directory name (.file [])) mode).calm
    · exact calm_refl fs

/-! ## one node -/

structure Aside (id : NodeId) (fs fs' : FileSystem) : Prop where
  keeps : Keeps fs fs'
  node : ∀ other, other ≠ id → fs'.node? other = fs.node? other
  locks : fs'.locks = fs.locks
  grows : Grows fs fs'

theorem Peeked.aside (p : Peeked fs fs') (id : NodeId) : Aside id fs fs' :=
  ⟨keeps_of_nodes_eq p.nodes, fun other _ => p.node? other, p.locks, p.grows⟩

theorem Aside.trans (a : Aside id fs fs') (a' : Aside id fs' fs'') : Aside id fs fs'' := by
  refine ⟨a.keeps.trans a'.keeps, fun other hne => ?_, a'.locks.trans a.locks,
    a.grows.trans a'.grows⟩
  rw [a'.node other hne, a.node other hne]

theorem aside_setNode {content : Bytes} (hn : fs.node? id = some (.file content))
    (content' : Bytes) : Aside id fs (fs.setNode id (.file content')) := by
  refine ⟨keeps_setNode hn content', fun other hne => ?_, rfl, grows_setNode fs id _⟩
  rw [node?_setNode, if_neg hne]

theorem aside_truncate (hd : fs.description? h = some d) :
    Aside d.node fs (fs.truncate h).2 := by
  have h0 : fs.truncate h = (_, (fs.truncate h).2) := rfl
  obtain ⟨content, -, hn, he⟩ | ⟨e, -, he⟩ := truncate_cases hd h0
  · rw [he]
    exact aside_setNode hn []
  · rw [he]
    exact (peeked_refl fs).aside d.node

theorem aside_write (hd : fs.description? h = some d) (data : Bytes) :
    Aside d.node fs (fs.write h data).2 := by
  have h0 : fs.write h data = (_, (fs.write h data).2) := rfl
  obtain ⟨content, content', position, -, hn, he⟩ | he := write_cases hd h0
  · rw [he]
    have hd' : (fs.setNode d.node (.file content')).description? h = some d := hd
    exact (aside_setNode hn content').trans ((peeked_setPosition hd' position).aside d.node)
  · rw [he]
    exact (peeked_refl fs).aside d.node

/-- somebody writes through a description, if there is one -/
def Touches (h : Handle) (fs fs' : FileSystem) : Prop :=
  fs' = fs ∨ ∃ d, fs.description? h = some d ∧ Aside d.node fs fs'

theorem touches_truncate (fs : FileSystem) (h : Handle) : Touches h fs (fs.truncate h).2 := by
  cases hd : fs.description? h with
  | none =>
    left
    unfold truncate
    rw [hd]
  | some d => exact .inr ⟨d, hd, aside_truncate hd⟩

theorem touches_write (fs : FileSystem) (h : Handle) (data : Bytes) :
    Touches h fs (fs.write h data).2 := by
  cases hd : fs.description? h with
  | none =>
    left
    unfold write
    rw [hd]
  | some d => exact .inr ⟨d, hd, aside_write hd data⟩

/-! ## names -/

/-- an operator makes, takes away or changes a name -/
inductive Edit (fs : FileSystem) : FileSystem → Prop where
  | make (workDir path : Path) (node : NodeId → Node) : Edit fs (fs.make workDir path node)
  | remove (workDir path : Path) : Edit fs (fs.remove workDir path)
  | rename (workDir path target : Path) : Edit fs (fs.rename workDir path target)

theorem calm_make (fs : FileSystem) (workDir path : Path) (node : NodeId → Node) :
    Calm fs (fs.make workDir path node) := by
  unfold make
  split
  · exact calm_create fs _ _ _
  · exact calm_refl fs

theorem calm_remove (fs : FileSystem) (workDir path : Path) :
    Calm fs (fs.remove workDir path) := by
  unfold remove
  split
  · exact calm_refl fs
  · split
    · next hd => exact calm_setNode hd _
    · exact calm_refl fs

theorem calm_attach (fs : FileSystem) (directory : NodeId) (name : Bytes) (id : NodeId) :
    Calm fs (fs.attach directory name id) := by
  unfold attach
  split
  · next hd => exact (calm_setNode hd _).trans (calm_addEntry _ _ _ _)
  · exact calm_addEntry fs _ _ _

theorem calm_rename (fs : FileSystem) (workDir path target : Path) :
    Calm fs (fs.rename workDir path target) := by
  unfold rename
  split
  · exact (calm_remove fs workDir path).trans (calm_attach _ _ _ _)
  · split
    · split
      · exact calm_refl fs
      · exact (calm_remove fs workDir path).trans (calm_attach _ _ _ _)
    · exact calm_refl fs
  · exact calm_refl fs

/-- **Names change no content**, and no lock: it is the node that has them. -/
theorem Edit.calm (e : Edit fs fs') : Calm fs fs' := by
  cases e with
  | make workDir path node => exact calm_make fs workDir path node
  | remove workDir path => exact calm_remove fs workDir path
  | rename workDir path target => exact calm_rename fs workDir path target

theorem locks_put (fs : FileSystem) (workDir path : Path) (data : Bytes) :
    (fs.put workDir path data).locks = fs.locks ∧ Grows fs (fs.put workDir path data) := by
  unfold put
  split
  · split
    · exact ⟨rfl, grows_setNode ..⟩
    · exact ⟨rfl, grows_refl fs⟩
  · have hc := calm_create fs
    exact ⟨(hc _ _ _).locks, (hc _ _ _).grows⟩
  · exact ⟨rfl, grows_refl fs⟩

/-- an operator who replaces a whole file changes no other -/
theorem node?_put {content : Bytes} (data : Bytes) (hother : ¬ Leads fs workDir path id)
    (hn : fs.node? id = some (.file content)) :
    (fs.put workDir path data).node? id = some (.file content) := by
  unfold put
  split
  · next target htarget =>
    split
    · have hne : id ≠ target := by
        rintro rfl
        exact hother htarget
      rw [node?_setNode, if_neg hne, hn]
    · exact hn
  · exact (calm_create fs _ _ _).file id content hn
  · exact hn

end FileSystem
end Succession
