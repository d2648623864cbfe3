import Succession.Request

/-!
# File systems

A tree of named nodes, the open descriptions on its nodes, and the exclusive locks that open
descriptions hold. A lock belongs to a node, whatever names lead to it, and to one description.

* `FileSystem.openFile`, `readAll`, `write`, `truncate`, `rewind`   content through a description;
* `FileSystem.lock`, `unlock`, `close`                              locks;
* `FileSystem.holder?`                                              who holds a node's lock.

Nodes and descriptions are numbered by their age; a number is never used twice.
-/

namespace Succession

abbrev NodeId := Nat

inductive Node where
  | file (content : Bytes)
  | directory (entries : List (Bytes × NodeId)) (parent : NodeId)
  /-- a symbolic link -/
  | link (target : Path)
  | pipe
  /-- swallows what is written, or has no room for it -/
  | device (full : Bool)
  /-- a program of the machine, which can be run under its name -/
  | program (name : String)
deriving DecidableEq, Repr

structure Description where
  node : NodeId
  position : Nat
  /-- every write goes behind the end -/
  append : Bool
deriving DecidableEq, Repr

structure FileSystem where
  nodes : List Node
  descriptions : List Description
  /-- which description holds the lock of a node -/
  locks : List (NodeId × Handle)
  /-- the regular files that may be run -/
  runnable : List NodeId
deriving Repr

namespace FileSystem

def root : NodeId := 0

def empty : FileSystem := ⟨[.directory [] root], [], [], []⟩

instance : Inhabited FileSystem := ⟨empty⟩

def node? (fs : FileSystem) (id : NodeId) : Option Node := fs.nodes[id]?

def description? (fs : FileSystem) (h : Handle) : Option Description := fs.descriptions[h]?

def setNode (fs : FileSystem) (id : NodeId) (node : Node) : FileSystem :=
  { fs with nodes := fs.nodes.set id node }

def setPosition (fs : FileSystem) (h : Handle) (d : Description) (position : Nat) : FileSystem :=
  { fs with descriptions := fs.descriptions.set h { d with position } }

/-! ## content through a description -/

/-- the bytes from the position to the end -/
def readAll (fs : FileSystem) (h : Handle) : Except IoError Bytes × FileSystem :=
  match fs.description? h with
  | none => (.error (.os .badDescriptor), fs)
  | some d => match fs.node? d.node with
    | some (.file content) => (.ok (content.drop d.position), fs.setPosition h d content.length)
    | some (.directory ..) => (.error (.os .isDirectory), fs)
    | _ => (.ok [], fs)

/-- `data` laid over `content` from `position` on; a gap is filled with zeros -/
def overlay (content : Bytes) (position : Nat) (data : Bytes) : Bytes :=
  content.take position ++ List.replicate (position - content.length) 0 ++ data ++
    content.drop (position + data.length)

def write (fs : FileSystem) (h : Handle) (data : Bytes) : Except IoError Unit × FileSystem :=
  match fs.description? h with
  | none => (.error (.os .badDescriptor), fs)
  | some d => match fs.node? d.node with
    | some (.file content) =>
      let start := if d.append then content.length else d.position
      (.ok (), (fs.setNode d.node (.file (overlay content start data))).setPosition h d
        (start + data.length))
    | some (.directory ..) => (.error (.os .badDescriptor), fs)
    | some (.device true) => (if data.isEmpty then .ok () else .error (.os .noSpace), fs)
    | _ => (.ok (), fs)

/-- makes a regular file empty; nothing else has a length -/
def truncate (fs : FileSystem) (h : Handle) : Except IoError Unit × FileSystem :=
  match fs.description? h with
  | none => (.error (.os .badDescriptor), fs)
  | some d => match fs.node? d.node with
    | some (.file _) => (.ok (), fs.setNode d.node (.file []))
    | _ => (.error (.os .invalid), fs)

/-- back to the start; a pipe has none -/
def rewind (fs : FileSystem) (h : Handle) : Except IoError Unit × FileSystem :=
  match fs.description? h with
  | none => (.error (.os .badDescriptor), fs)
  | some d => match fs.node? d.node with
    | some .pipe => (.error (.os .illegalSeek), fs)
    | _ => (.ok (), fs.setPosition h d 0)

/-! ## locks -/

/-- the description that holds the lock of a node -/
def holder? (fs : FileSystem) (id : NodeId) : Option Handle := fs.locks.lookup id

/-- takes the exclusive lock of the description's node unless another description holds it -/
def lock (fs : FileSystem) (h : Handle) : Except IoError Unit × FileSystem :=
  match fs.description? h with
  | none => (.error (.os .badDescriptor), fs)
  | some d => match fs.holder? d.node with
    | none => (.ok (), { fs with locks := (d.node, h) :: fs.locks })
    | some other => if other = h then (.ok (), fs) else (.error (.os .wouldBlock), fs)

def unlock (fs : FileSystem) (h : Handle) : FileSystem :=
  { fs with locks := fs.locks.filter fun l => l.2 ≠ h }

/-- a closed description holds nothing -/
def close (fs : FileSystem) (h : Handle) : FileSystem := fs.unlock h

end FileSystem
end Succession
