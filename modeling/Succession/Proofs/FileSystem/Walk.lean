import Succession.Proofs.FileSystem.Views

/-!
# Walks that end

A walk that ends somewhere is a derivation: one rule for every name that it passes. What a walk has
passed tells what may change without leading it elsewhere.

* `Walks fs aim links here names slash place`   the derivation, with `walks_of_walk` and
                                                `walk_of_walks`;
* `Keeps fs fs'`            every node is still there, but that files may have been written and
                            directories may have got new names; `Walks.kept`;
* `Leads fs workDir path id`       a path leads to a node; `Leads.keep`, and `leads_create` for one
                                   that is made;
* `Opened fs fs' workDir path`     what opening a path does; `opened_openFile`.
-/

namespace Succession

namespace FileSystem

/-- a name on a walk that is looked up in a directory -/
structure Passes (fs : FileSystem) (aim : Aim) (here : NodeId) (name : Bytes) (rest : List Bytes)
    (slash : Bool) (entries : List (Bytes × NodeId)) : Prop where
  directory : ∃ parent, fs.node? here = some (.directory entries parent)
  notDot : name ≠ dot
  notDotDot : name ≠ dotDot
  allowed : ¬ (aim = .creation ∧ rest = [] ∧ slash = true)
  short : ¬ maxName < name.length

def isDirectory : Node → Bool
  | .directory .. => true
  | _ => false

inductive Walks (fs : FileSystem) (aim : Aim) :
    Nat → NodeId → List Bytes → Bool → Place → Prop where
  | stay {links : Nat} {here : NodeId} {slash : Bool} {node : Node}
      (hnode : fs.node? here = some node) (hslash : slash = true → isDirectory node = true) :
      Walks fs aim links here [] slash (.node here)
  | dot {links : Nat} {here : NodeId} {rest : List Bytes} {slash : Bool} {place : Place}
      {entries : List (Bytes × NodeId)} {parent : NodeId}
      (hnode : fs.node? here = some (.directory entries parent))
      (h : Walks fs aim links here rest slash place) :
      Walks fs aim links here (FileSystem.dot :: rest) slash place
  | dotDot {links : Nat} {here : NodeId} {rest : List Bytes} {slash : Bool} {place : Place}
      {entries : List (Bytes × NodeId)} {parent : NodeId}
      (hnode : fs.node? here = some (.directory entries parent))
      (h : Walks fs aim links parent rest slash place) :
      Walks fs aim links here (FileSystem.dotDot :: rest) slash place
  | missing {links : Nat} {here : NodeId} {name : Bytes} {slash : Bool}
      {entries : List (Bytes × NodeId)} (hpass : Passes fs aim here name [] slash entries)
      (hlookup : entries.lookup name = none) :
      Walks fs aim links here [name] slash (.missing here name slash)
  | link {links : Nat} {here id : NodeId} {name : Bytes} {rest : List Bytes} {slash : Bool}
      {entries : List (Bytes × NodeId)} {target : Path} {place : Place}
      (hpass : Passes fs aim here name rest slash entries) (hlookup : entries.lookup name = some id)
      (hnode : fs.node? id = some (.link target))
      (h : Walks fs aim links (if target.isAbsolute then root else here) (target.pieces ++ rest)
        (slash || (rest = [] && endsWithSlash target)) place) :
      Walks fs aim (links + 1) here (name :: rest) slash place
  | step {links : Nat} {here id : NodeId} {name : Bytes} {rest : List Bytes} {slash : Bool}
      {entries : List (Bytes × NodeId)} {place : Place}
      (hpass : Passes fs aim here name rest slash entries) (hlookup : entries.lookup name = some id)
      (hnode : ∀ target, fs.node? id ≠ some (.link target))
      (h : Walks fs aim links id rest slash place) :
      Walks fs aim links here (name :: rest) slash place

variable {fs fs' : FileSystem} {aim : Aim} {links : Nat} {here : NodeId} {names : List Bytes}
  {slash : Bool} {place : Place}

/-- a walk that follows every link, and ends, is a derivation -/
theorem walks_of_walk (haim : aim ≠ .entry)
    (h : fs.walk aim links here names slash = .ok place) :
    Walks fs aim links here names slash place := by
  fun_induction walk fs aim links here names slash
  case case1 hnode =>
    cases h
    exact .stay hnode fun _ => rfl
  case case3 hnode hslash =>
    cases h
    exact .stay hnode fun e => absurd e hslash
  case case5 hnode ih => exact .dot hnode (ih h)
  case case6 hnode _ ih => exact .dotDot hnode (ih h)
  case case9 hnode hdot hdotDot hshort hlookup hallowed =>
    cases h
    exact .missing ⟨⟨_, hnode⟩, hdot, hdotDot, hallowed, hshort⟩ hlookup
  case case11 hentry => exact absurd hentry.2.1 haim
  case case13 hnode hdot hdotDot hallowed hshort _ hlookup _ hlink _ _ ih =>
    exact .link ⟨⟨_, hnode⟩, hdot, hdotDot, hallowed, hshort⟩ hlookup hlink (ih h)
  case case14 hnode hdot hdotDot hallowed hshort _ hlookup hnone ih =>
    exact .step ⟨⟨_, hnode⟩, hdot, hdotDot, hallowed, hshort⟩ hlookup hnone (ih h)
  all_goals cases h

theorem walk_of_walks (haim : aim ≠ .entry) (h : Walks fs aim links here names slash place) :
    fs.walk aim links here names slash = .ok place := by
  induction h with
  | stay hnode hslash =>
    rw [walk, hnode]
    split
    · rfl
    · next node hnot he =>
      cases he
      split
      · next hs =>
        have hd := hslash hs
        unfold isDirectory at hd
        split at hd
        · exact absurd rfl (hnot _ _)
        · cases hd
      · rfl
    · next he => cases he
  | dot hnode h ih =>
    rw [walk, hnode]
    exact ih
  | dotDot hnode h ih =>
    rw [walk, hnode]
    exact ih
  | missing hpass hlookup =>
    obtain ⟨⟨parent, hnode⟩, hdot, hdotDot, hallowed, hshort⟩ := hpass
    rw [walk, hnode]
    dsimp only
    rw [if_neg hdot, if_neg hdotDot, if_neg hallowed, if_neg hshort, hlookup]
    rfl
  | link hpass hlookup hlink h ih =>
    obtain ⟨⟨parent, hnode⟩, hdot, hdotDot, hallowed, hshort⟩ := hpass
    rw [walk, hnode]
    dsimp only
    rw [if_neg hdot, if_neg hdotDot, if_neg hallowed, if_neg hshort, hlookup]
    dsimp only
    rw [hlink]
    dsimp only
    rw [if_neg fun e => haim e.2.1]
    exact ih
  | step hpass hlookup hnone h ih =>
    obtain ⟨⟨parent, hnode⟩, hdot, hdotDot, hallowed, hshort⟩ := hpass
    rw [walk, hnode]
    dsimp only
    rw [if_neg hdot, if_neg hdotDot, if_neg hallowed, if_neg hshort, hlookup]
    dsimp only
    split
    · next target hlink => exact absurd hlink (hnone target)
    · exact ih

/-! ## what may change -/

/-- what a node may become without leading a walk elsewhere: a file may be written, and a directory
may get new names -/
inductive Grown : Node → Node → Prop where
  | same (node : Node) : Grown node node
  | file (content content' : Bytes) : Grown (.file content) (.file content')
  | directory {entries entries' : List (Bytes × NodeId)} (parent : NodeId)
      (h : ∀ name id, entries.lookup name = some id → entries'.lookup name = some id) :
      Grown (.directory entries parent) (.directory entries' parent)

theorem Grown.trans {node node' node'' : Node} (h : Grown node node') (h' : Grown node' node'') :
    Grown node node'' := by
  cases h with
  | same => exact h'
  | file c c' =>
    cases h' with
    | same => exact .file c c'
    | file _ c'' => exact .file c c''
  | directory parent hsub =>
    cases h' with
    | same => exact .directory parent hsub
    | directory _ hsub' => exact .directory parent fun n i e => hsub' n i (hsub n i e)

/-- every node is still there, grown or not -/
def Keeps (fs fs' : FileSystem) : Prop :=
  ∀ id node, fs.node? id = some node → ∃ node', fs'.node? id = some node' ∧ Grown node node'

theorem Keeps.trans {fs'' : FileSystem} (h : Keeps fs fs') (h' : Keeps fs' fs'') :
    Keeps fs fs'' := by
  intro id node hn
  obtain ⟨node', hn', hg⟩ := h id node hn
  obtain ⟨node'', hn'', hg'⟩ := h' id node' hn'
  exact ⟨node'', hn'', hg.trans hg'⟩

theorem Keeps.directory (hk : Keeps fs fs') {id parent : NodeId}
    {entries : List (Bytes × NodeId)} (h : fs.node? id = some (.directory entries parent)) :
    ∃ entries', fs'.node? id = some (.directory entries' parent) ∧
      ∀ name id, entries.lookup name = some id → entries'.lookup name = some id := by
  obtain ⟨node', hn, hg⟩ := hk id _ h
  cases hg with
  | same => exact ⟨entries, hn, fun _ _ e => e⟩
  | directory _ hl => exact ⟨_, hn, hl⟩

theorem Keeps.link (hk : Keeps fs fs') {id : NodeId} {target : Path}
    (h : fs.node? id = some (.link target)) : fs'.node? id = some (.link target) := by
  obtain ⟨node', hn, hg⟩ := hk id _ h
  cases hg
  exact hn

theorem Keeps.not_link (hk : Keeps fs fs') {id : NodeId} {node : Node}
    (h : fs.node? id = some node) (hnone : ∀ target, fs.node? id ≠ some (.link target))
    (target : Path) : fs'.node? id ≠ some (.link target) := by
  obtain ⟨node', hn, hg⟩ := hk id _ h
  rw [hn]
  rintro e
  cases e
  cases hg
  exact hnone target h

theorem Keeps.passes (hk : Keeps fs fs') {name : Bytes} {rest : List Bytes}
    {entries : List (Bytes × NodeId)} (hp : Passes fs aim here name rest slash entries) :
    ∃ entries', Passes fs' aim here name rest slash entries' ∧
      ∀ name id, entries.lookup name = some id → entries'.lookup name = some id := by
  obtain ⟨⟨parent, hnode⟩, hdot, hdotDot, hallowed, hshort⟩ := hp
  obtain ⟨entries', hnode', hl⟩ := hk.directory hnode
  exact ⟨entries', ⟨⟨parent, hnode'⟩, hdot, hdotDot, hallowed, hshort⟩, hl⟩

theorem Walks.exists_node (h : Walks fs aim links here names slash place) :
    ∃ node, fs.node? here = some node := by
  cases h with
  | stay hnode _ => exact ⟨_, hnode⟩
  | dot hnode _ => exact ⟨_, hnode⟩
  | dotDot hnode _ => exact ⟨_, hnode⟩
  | missing hpass _ => exact ⟨_, hpass.directory.choose_spec⟩
  | link hpass _ _ _ => exact ⟨_, hpass.directory.choose_spec⟩
  | step hpass _ _ _ => exact ⟨_, hpass.directory.choose_spec⟩

/-- where nodes are kept, a walk goes the same way; at its end it finds what it found before, or
what has come where a name was missing -/
theorem Walks.kept {place' : Place} (hk : Keeps fs fs')
    (h : Walks fs aim links here names slash place)
    (hnode : ∀ id, place = .node id → place' = .node id)
    (hmissing : ∀ links directory name slash entries, place = .missing directory name slash →
      Passes fs aim directory name [] slash entries → entries.lookup name = none →
      Walks fs' aim links directory [name] slash place') :
    Walks fs' aim links here names slash place' := by
  induction h with
  | @stay links here slash node hn hslash =>
    rw [hnode here rfl]
    obtain ⟨node', hn', hg⟩ := hk here node hn
    refine .stay hn' fun e => ?_
    have hd := hslash e
    cases hg with
    | same => exact hd
    | file => cases hd
    | directory => rfl
  | dot hn h ih =>
    obtain ⟨entries', hn', -⟩ := hk.directory hn
    exact .dot hn' (ih hnode hmissing)
  | dotDot hn h ih =>
    obtain ⟨entries', hn', -⟩ := hk.directory hn
    exact .dotDot hn' (ih hnode hmissing)
  | missing hpass hlookup => exact hmissing _ _ _ _ _ rfl hpass hlookup
  | link hpass hlookup hlink h ih =>
    obtain ⟨entries', hpass', hl⟩ := hk.passes hpass
    exact .link hpass' (hl _ _ hlookup) (hk.link hlink) (ih hnode hmissing)
  | step hpass hlookup hnone h ih =>
    obtain ⟨entries', hpass', hl⟩ := hk.passes hpass
    obtain ⟨node, hn⟩ := h.exists_node
    exact .step hpass' (hl _ _ hlookup) (hk.not_link hn hnone) (ih hnode hmissing)

theorem Walks.target (h : Walks fs .creation links here names slash place) :
    Walks fs .target links here names slash place := by
  have hp {here : NodeId} {name : Bytes} {rest : List Bytes} {slash : Bool}
      {entries : List (Bytes × NodeId)} (hp : Passes fs .creation here name rest slash entries) :
      Passes fs .target here name rest slash entries :=
    ⟨hp.directory, hp.notDot, hp.notDotDot, fun e => absurd e.1 (by decide), hp.short⟩
  induction h with
  | stay hn hslash => exact .stay hn hslash
  | dot hn h ih => exact .dot hn ih
  | dotDot hn h ih => exact .dotDot hn ih
  | missing hpass hlookup => exact .missing (hp hpass) hlookup
  | link hpass hlookup hlink h ih => exact .link (hp hpass) hlookup hlink ih
  | step hpass hlookup hnone h ih => exact .step (hp hpass) hlookup hnone ih

/-- what a walk misses is missing in a directory -/
theorem Walks.passes_missing {directory : NodeId} {name : Bytes} {slash' : Bool}
    (h : Walks fs aim links here names slash (.missing directory name slash')) :
    ∃ entries, Passes fs aim directory name [] slash' entries ∧ entries.lookup name = none := by
  generalize hp : Place.missing directory name slash' = place at h
  induction h with
  | stay hn hslash => cases hp
  | dot hn h ih => exact ih hp
  | dotDot hn h ih => exact ih hp
  | missing hpass hlookup =>
    cases hp
    exact ⟨_, hpass, hlookup⟩
  | link hpass hlookup hlink h ih => exact ih hp
  | step hpass hlookup hnone h ih => exact ih hp

/-! ## changes that keep every node -/

theorem keeps_of_nodes_eq (h : fs'.nodes = fs.nodes) : Keeps fs fs' := by
  intro id node hn
  refine ⟨node, ?_, .same node⟩
  show fs'.nodes[id]? = _
  rw [h]
  exact hn

theorem keeps_setNode {id : NodeId} {content : Bytes} (h : fs.node? id = some (.file content))
    (content' : Bytes) : Keeps fs (fs.setNode id (.file content')) := by
  intro other node hn
  rw [node?_setNode]
  by_cases ho : other = id
  · rw [ho, h] at hn
    rw [if_pos ho, h]
    obtain rfl := Option.some.inj hn
    exact ⟨_, rfl, .file _ _⟩
  · rw [if_neg ho]
    exact ⟨node, hn, .same node⟩

theorem node?_create {directory parent : NodeId} {name : Bytes}
    {entries : List (Bytes × NodeId)} (node : Node)
    (hd : fs.node? directory = some (.directory entries parent)) (id : NodeId) :
    (fs.create directory name node).2.node? id =
      if id = directory then some (.directory ((name, fs.nodes.length) ::
        entries.filter fun e => e.1 ≠ name) parent)
      else if id = fs.nodes.length then some node else fs.node? id := by
  let added : FileSystem := { fs with nodes := fs.nodes ++ [node] }
  have hl : directory < fs.nodes.length := (List.getElem?_eq_some_iff.mp hd).1
  have hd' : added.node? directory = some (.directory entries parent) := by
    show (fs.nodes ++ [node])[directory]? = _
    rw [List.getElem?_append_left hl]
    exact hd
  show (added.addEntry directory name fs.nodes.length).node? id = _
  unfold addEntry
  rw [hd']
  show (added.setNode directory _).node? id = _
  rw [node?_setNode, hd']
  by_cases hi : id = directory
  · rw [if_pos hi, if_pos hi]
    rfl
  · rw [if_neg hi, if_neg hi]
    show (fs.nodes ++ [node])[id]? = _
    by_cases hn : id = fs.nodes.length
    · rw [if_pos hn, hn]
      exact List.getElem?_concat_length
    · rw [if_neg hn]
      by_cases hlt : id < fs.nodes.length
      · rw [List.getElem?_append_left hlt]
        rfl
      · have hgt : (fs.nodes ++ [node]).length ≤ id := by
          rw [List.length_append, List.length_singleton]
          exact Nat.lt_of_le_of_ne (Nat.le_of_not_lt hlt) (Ne.symm hn)
        rw [List.getElem?_eq_none hgt]
        exact (List.getElem?_eq_none (Nat.le_of_not_lt hlt)).symm

theorem keeps_create {directory parent : NodeId} {name : Bytes}
    {entries : List (Bytes × NodeId)} (node : Node)
    (hd : fs.node? directory = some (.directory entries parent))
    (hlookup : entries.lookup name = none) : Keeps fs (fs.create directory name node).2 := by
  intro id old hn
  rw [node?_create node hd]
  by_cases hi : id = directory
  · rw [hi, hd] at hn
    obtain rfl := Option.some.inj hn
    rw [if_pos hi]
    refine ⟨_, rfl, .directory parent ?_⟩
    intro name' id' hl
    have hne : name' ≠ name := by
      rintro rfl
      rw [hlookup] at hl
      cases hl
    have hb : (name' == name) = false := by simpa using hne
    rw [List.lookup_cons, hb]
    exact (Variables.lookup_filter_ne entries name name').trans ((if_neg hne).trans hl)
  · have hlt : id < fs.nodes.length := (List.getElem?_eq_some_iff.mp hn).1
    rw [if_neg hi, if_neg (Nat.ne_of_lt hlt)]
    exact ⟨old, hn, .same old⟩

/-! ## where a path leads -/

variable {workDir path : Path} {id : NodeId}

def Leads (fs : FileSystem) (workDir path : Path) (id : NodeId) : Prop :=
  fs.lookup workDir path .target = .ok (.node id)

theorem Leads.unique {other : NodeId} (h : Leads fs workDir path id)
    (h' : Leads fs workDir path other) : id = other := by
  have he := h.symm.trans h'
  injection he with he
  injection he

theorem lookup_mono {aim' : Aim} {place' : Place} (h : fs.lookup workDir path aim = .ok place)
    (hw : ∀ names slash, fs.walk aim maxLinks root names slash = .ok place →
      fs'.walk aim' maxLinks root names slash = .ok place') :
    fs'.lookup workDir path aim' = .ok place' := by
  unfold lookup at h ⊢
  split at h
  · cases h
  · next hzero =>
    rw [if_neg hzero]
    split at h
    · cases h
    · next hempty =>
      rw [if_neg hempty]
      split at h
      · cases h
      · next hlong =>
        rw [if_neg hlong]
        exact hw _ _ h

theorem Leads.keep (h : Leads fs workDir path id) (hk : Keeps fs fs') :
    Leads fs' workDir path id := by
  refine lookup_mono h fun names slash hw => ?_
  refine walk_of_walks (by decide) ((walks_of_walk (by decide) hw).kept hk (fun _ e => e) ?_)
  intro _ _ _ _ _ e
  cases e

theorem target_of_creation (h : fs.lookup workDir path .creation = .ok place) :
    fs.lookup workDir path .target = .ok place :=
  lookup_mono h fun _ _ hw => walk_of_walks (by decide) (walks_of_walk (by decide) hw).target

theorem missing_of_creation {directory : NodeId} {name : Bytes}
    (h : fs.lookup workDir path .creation = .ok (.missing directory name slash)) :
    ∃ entries, Passes fs .creation directory name [] slash entries ∧
      entries.lookup name = none := by
  unfold lookup at h
  split at h
  · cases h
  · split at h
    · cases h
    · split at h
      · cases h
      · exact (walks_of_walk (by decide) h).passes_missing

/-- **What was missing is found once it has been made.** -/
theorem leads_create {directory : NodeId} {name : Bytes} (content : Bytes)
    (h : fs.lookup workDir path .creation = .ok (.missing directory name slash)) :
    Keeps fs (fs.create directory name (.file content)).2 ∧
      Leads (fs.create directory name (.file content)).2 workDir path fs.nodes.length := by
  obtain ⟨entries, hpass, hnone⟩ := missing_of_creation h
  obtain ⟨parent, hd⟩ := hpass.directory
  have hk := keeps_create (.file content) hd hnone
  refine ⟨hk, target_of_creation (lookup_mono h fun names slash' hw => ?_)⟩
  have hwalk := walks_of_walk (by decide) hw
  refine walk_of_walks (by decide) (hwalk.kept hk (fun _ e => nomatch e) ?_)
  intro links directory' name' slash'' entries' e hpass' hnone'
  cases e
  have hnew : directory ≠ fs.nodes.length :=
    Nat.ne_of_lt (List.getElem?_eq_some_iff.mp hd).1
  have hfile : (fs.create directory name (.file content)).2.node? fs.nodes.length =
      some (.file content) := by
    rw [node?_create _ hd, if_neg (Ne.symm hnew), if_pos rfl]
  have hpass'' : Passes (fs.create directory name (.file content)).2 .creation directory name []
      slash ((name, fs.nodes.length) :: entries.filter fun e => e.1 ≠ name) := by
    refine ⟨⟨parent, ?_⟩, hpass.notDot, hpass.notDotDot, hpass.allowed, hpass.short⟩
    rw [node?_create _ hd, if_pos rfl]
  have hslash : slash ≠ true := fun e => hpass.allowed ⟨rfl, rfl, e⟩
  refine .step hpass'' List.lookup_cons_self ?_ (.stay hfile fun e => absurd e hslash)
  intro target e
  rw [hfile] at e
  cases e

/-! ## opening a path -/

/-- what opening a path does to the file behind it, and to everything else: nothing, but that a
missing file is made and a description is added -/
structure Opened (fs fs' : FileSystem) (workDir path : Path) : Prop where
  keeps : Keeps fs fs'
  locks : fs'.locks = fs.locks
  file : ∀ id, Leads fs workDir path id → fs'.node? id = fs.node? id
  descriptions : ∀ h, h < fs.descriptions.length → fs'.description? h = fs.description? h
  grows : fs.descriptions.length ≤ fs'.descriptions.length

theorem opened_refl (fs : FileSystem) (workDir path : Path) : Opened fs fs workDir path :=
  ⟨keeps_of_nodes_eq rfl, rfl, fun _ _ => rfl, fun _ _ => rfl, Nat.le_refl _⟩

theorem opened_describe (fs : FileSystem) (workDir path : Path) (id : NodeId) (mode : OpenMode) :
    Opened fs (fs.describe id mode).2 workDir path := by
  refine ⟨keeps_of_nodes_eq rfl, rfl, fun _ _ => rfl, fun h hl => ?_, ?_⟩
  · show (fs.descriptions ++ _)[h]? = _
    exact List.getElem?_append_left hl
  · show _ ≤ (fs.descriptions ++ _).length
    rw [List.length_append]
    exact Nat.le_add_right _ _

theorem opened_create {directory : NodeId} {name : Bytes}
    (h : fs.lookup workDir path .creation = .ok (.missing directory name slash)) :
    Opened fs (fs.create directory name (.file [])).2 workDir path := by
  have hd := descriptions_create fs directory name (.file [])
  refine ⟨(leads_create [] h).1, locks_create _ _ _ _, fun id hid => ?_, fun h' hl => ?_,
    Nat.le_of_eq (congrArg List.length hd).symm⟩
  · have ht := target_of_creation h
    rw [show fs.lookup workDir path .target = .ok (.node id) from hid] at ht
    cases ht
  · show (fs.create directory name (.file [])).2.descriptions[h']? = _
    rw [hd]
    rfl

theorem Opened.trans {fs'' : FileSystem} (h : Opened fs fs' workDir path)
    (h' : Opened fs' fs'' workDir path) : Opened fs fs'' workDir path := by
  refine ⟨h.keeps.trans h'.keeps, h'.locks.trans h.locks, fun id hid => ?_, fun d hd => ?_,
    Nat.le_trans h.grows h'.grows⟩
  · rw [h'.file id (hid.keep h.keeps), h.file id hid]
  · rw [h'.descriptions d (Nat.lt_of_lt_of_le hd h.grows), h.descriptions d hd]

theorem opened_openNode {mode : OpenMode} {r : Except IoError Handle}
    (hleads : Leads fs workDir path id) (h0 : fs.openNode id mode = (r, fs')) :
    Opened fs fs' workDir path ∧ ∀ h, r = .ok h → h = fs.descriptions.length ∧
      h < fs'.descriptions.length ∧
      ∃ id, Leads fs' workDir path id ∧ fs'.description? h = some ⟨id, 0, mode.append⟩ := by
  cases r with
  | error e =>
    unfold openNode at h0
    split at h0
    · split at h0 <;> cases h0
      exact ⟨opened_refl fs workDir path, by rintro _ ⟨⟩⟩
    · cases h0
  | ok h =>
    obtain ⟨rfl, rfl⟩ := openNode_ok h0
    have ho := opened_describe fs workDir path id mode
    refine ⟨ho, fun h' e => ?_⟩
    obtain rfl := Except.ok.inj e
    refine ⟨rfl, ?_, id, hleads.keep ho.keeps, List.getElem?_concat_length⟩
    rw [List.length_append]
    exact Nat.lt_succ_self _

/-- **Opening a path** changes nothing else, and what it opens is where the path leads. -/
theorem opened_openFile {mode : OpenMode} {r : Except IoError Handle}
    (h0 : fs.openFile workDir path mode = (r, fs')) :
    Opened fs fs' workDir path ∧ ∀ h, r = .ok h → h = fs.descriptions.length ∧
      h < fs'.descriptions.length ∧
      ∃ id, Leads fs' workDir path id ∧ fs'.description? h = some ⟨id, 0, mode.append⟩ := by
  unfold openFile at h0
  split at h0
  · cases h0
    exact ⟨opened_refl fs workDir path, nofun⟩
  · next id hid =>
    have hleads : Leads fs workDir path id := by
      split at hid
      · exact target_of_creation hid
      · exact hid
    exact opened_openNode hleads h0
  · next directory name slash hmissing =>
    split at h0
    · next hcreate =>
      rw [if_pos hcreate] at hmissing
      have hd := descriptions_create fs directory name (.file [])
      have hl := congrArg List.length hd
      obtain ⟨ho, hnew⟩ := opened_openNode (leads_create [] hmissing).2 h0
      refine ⟨(opened_create hmissing).trans ho, ?_⟩
      intro h hr
      obtain ⟨he, hlt, hrest⟩ := hnew h hr
      exact ⟨he.trans hl, hlt, hrest⟩
    · cases h0
      exact ⟨opened_refl fs workDir path, nofun⟩

end FileSystem
end Succession
