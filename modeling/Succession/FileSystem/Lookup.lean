import Succession.FileSystem.Basic

/-!
# Where a path leads

A path is walked from the root or from the working directory, one name at a time. A link on the way
is replaced by its target; after forty of them the walk gives up.

* `FileSystem.lookup`     the node behind a path, or the directory that lacks its last name;
* `FileSystem.openFile`   a new description on the node, which is made where that was asked for.
-/

namespace Succession

namespace FileSystem

inductive Place where
  | node (id : NodeId)
  /-- everything but the last name is there; `slash`: the path asks for a directory -/
  | missing (directory : NodeId) (name : Bytes) (slash : Bool)
deriving DecidableEq, Repr

/-- what a path is walked for -/
inductive Aim where
  /-- the node it leads to -/
  | target
  /-- the entry itself: a link at the end is not followed -/
  | entry
  /-- a file that is made if it is missing: the path must not ask for a directory -/
  | creation
deriving DecidableEq, Repr

def maxLinks : Nat := 40
def maxName : Nat := 255
def maxPath : Nat := 4096

def names (path : Path) : List Bytes := path.pieces

/-- the path asks for a directory -/
def endsWithSlash (path : Path) : Bool := path.bytes.getLast? == some Path.separator

def dot : Bytes := [Path.dot]
def dotDot : Bytes := [Path.dot, Path.dot]

/-- walks `names` from the node `here`; `slash` says whether the end has to be a directory -/
def walk (fs : FileSystem) (aim : Aim) (links : Nat) (here : NodeId) (names : List Bytes)
    (slash : Bool) : Except IoError Place :=
  match names with
  | [] => match fs.node? here with
    | some (.directory ..) => .ok (.node here)
    | some _ => if slash then .error (.os .notDirectory) else .ok (.node here)
    | none => .error (.os .noEntry)
  | name :: rest =>
    match fs.node? here with
    | some (.directory entries parent) =>
      if name = dot then fs.walk aim links here rest slash
      else if name = dotDot then fs.walk aim links parent rest slash
      else if aim = .creation ∧ rest = [] ∧ slash then .error (.os .isDirectory)
      else if maxName < name.length then .error (.os .nameTooLong)
      else match entries.lookup name with
        | none => if rest = [] then .ok (.missing here name slash) else .error (.os .noEntry)
        | some id => match fs.node? id with
          | some (.link target) =>
            if rest = [] ∧ aim = .entry ∧ ¬ slash then .ok (.node id)
            else match links with
              | 0 => .error (.os .tooManyLinks)
              | links + 1 =>
                fs.walk aim links (if target.isAbsolute then root else here)
                  (target.pieces ++ rest) (slash || (rest = [] && endsWithSlash target))
          | _ => fs.walk aim links id rest slash
    | _ => .error (.os .notDirectory)
termination_by (links, names.length)

/-- where `path` leads from the working directory `workDir` -/
def lookup (fs : FileSystem) (workDir path : Path) (aim : Aim) : Except IoError Place :=
  if path.bytes.contains 0 then .error (.refused "file name contained an unexpected NUL byte")
  else if path.bytes = [] then .error (.os .noEntry)
  else if maxPath ≤ path.bytes.length then .error (.os .nameTooLong)
  else
    fs.walk aim maxLinks root (names (workDir.join path)) (endsWithSlash path)

/-! ## opening -/

def addNode (fs : FileSystem) (node : Node) : NodeId × FileSystem :=
  (fs.nodes.length, { fs with nodes := fs.nodes ++ [node] })

def addEntry (fs : FileSystem) (directory : NodeId) (name : Bytes) (id : NodeId) : FileSystem :=
  match fs.node? directory with
  | some (.directory entries parent) =>
    fs.setNode directory (.directory ((name, id) :: entries.filter fun e => e.1 ≠ name) parent)
  | _ => fs

def create (fs : FileSystem) (directory : NodeId) (name : Bytes) (node : Node) :
    NodeId × FileSystem :=
  let (id, fs) := fs.addNode node
  (id, fs.addEntry directory name id)

def describe (fs : FileSystem) (id : NodeId) (mode : OpenMode) : Handle × FileSystem :=
  (fs.descriptions.length,
    { fs with descriptions := fs.descriptions ++ [⟨id, 0, mode.append⟩] })

/-- a directory is opened only to look at it -/
def openNode (fs : FileSystem) (id : NodeId) (mode : OpenMode) :
    Except IoError Handle × FileSystem :=
  match fs.node? id with
  | some (.directory ..) =>
    if mode.write || mode.create then (.error (.os .isDirectory), fs)
    else let (h, fs) := fs.describe id mode; (.ok h, fs)
  | _ => let (h, fs) := fs.describe id mode; (.ok h, fs)

def openFile (fs : FileSystem) (workDir path : Path) (mode : OpenMode) :
    Except IoError Handle × FileSystem :=
  match fs.lookup workDir path (if mode.create then .creation else .target) with
  | .error e => (.error e, fs)
  | .ok (.node id) => fs.openNode id mode
  | .ok (.missing directory name _) =>
    if mode.create then
      let (id, fs) := fs.create directory name (.file [])
      fs.openNode id mode
    else (.error (.os .noEntry), fs)

end FileSystem
end Succession
