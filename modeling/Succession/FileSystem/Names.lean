import Succession.FileSystem.Lookup

/-!
# Names and contents of files

What an operator does to a file system from outside: reading and replacing whole files, and making,
moving and removing names.

* `FileSystem.content?`, `FileSystem.put`;
* `FileSystem.makeDirectory`, `makePipe`, `makeLink`, `makeProgram`, `rename`, `remove`;
* `FileSystem.enter`        the full name of a directory, for use as a working directory;
* `FileSystem.entryNames`   the sorted names in a directory.
-/

namespace Succession.FileSystem

/-- the content behind a path, if it leads to a regular file -/
def content? (fs : FileSystem) (workDir path : Path) : Option Bytes :=
  match fs.lookup workDir path .target with
  | .ok (.node id) => match fs.node? id with
    | some (.file content) => some content
    | _ => none
  | _ => none

def contains (fs : FileSystem) (workDir path : Path) : Bool :=
  match fs.lookup workDir path .target with
  | .ok (.node _) => true
  | _ => false

/-- replaces the content behind a path, the file being made if it is missing -/
def put (fs : FileSystem) (workDir path : Path) (data : Bytes) : FileSystem :=
  match fs.lookup workDir path .target with
  | .ok (.node id) => match fs.node? id with
    | some (.file _) => fs.setNode id (.file data)
    | _ => fs
  | .ok (.missing directory name false) => (fs.create directory name (.file data)).2
  | _ => fs

/-- a new node where the path's last name is missing -/
def make (fs : FileSystem) (workDir path : Path) (node : NodeId → Node) : FileSystem :=
  match fs.lookup workDir path .entry with
  | .ok (.missing directory name _) => (fs.create directory name (node directory)).2
  | _ => fs

def makeDirectory (fs : FileSystem) (workDir path : Path) : FileSystem :=
  fs.make workDir path fun parent => .directory [] parent

def makePipe (fs : FileSystem) (workDir path : Path) : FileSystem :=
  fs.make workDir path fun _ => .pipe

def makeLink (fs : FileSystem) (workDir path target : Path) : FileSystem :=
  fs.make workDir path fun _ => .link target

def makeDevice (fs : FileSystem) (workDir path : Path) (full : Bool) : FileSystem :=
  fs.make workDir path fun _ => .device full

def makeProgram (fs : FileSystem) (workDir path : Path) (name : String) : FileSystem :=
  fs.make workDir path fun _ => .program name

/-- the directory and the name under which a path's last name is found; the name itself may be a
link, and is not followed -/
def entryOf? (fs : FileSystem) (workDir path : Path) : Option (NodeId × Bytes × NodeId) := do
  let name ← path.pieces.getLast?
  let above : Path := ⟨(path.pieces.dropLast.flatMap fun p => p ++ [Path.separator])⟩
  let above : Path := if path.isAbsolute then ⟨Path.separator :: above.bytes⟩ else above
  let place := if above.bytes = [] then fs.lookup workDir ⟨[Path.dot]⟩ .target
    else fs.lookup workDir above .target
  match place with
  | .ok (.node directory) => match fs.node? directory with
    | some (.directory entries _) => (entries.lookup name).map (directory, name, ·)
    | _ => none
  | _ => none

/-- takes a name away; the node stays for those who have it open -/
def remove (fs : FileSystem) (workDir path : Path) : FileSystem :=
  match fs.entryOf? workDir path with
  | none => fs
  | some (directory, name, _) => match fs.node? directory with
    | some (.directory entries parent) =>
      fs.setNode directory (.directory (entries.filter fun e => e.1 ≠ name) parent)
    | _ => fs

/-- puts a node that has no name under a name; a directory is in the one that names it -/
def attach (fs : FileSystem) (directory : NodeId) (name : Bytes) (id : NodeId) : FileSystem :=
  match fs.node? id with
  | some (.directory entries _) =>
    (fs.setNode id (.directory entries directory)).addEntry directory name id
  | _ => fs.addEntry directory name id

/-- gives a node another name; what had that name loses it -/
def rename (fs : FileSystem) (workDir path target : Path) : FileSystem :=
  match fs.entryOf? workDir path, fs.lookup workDir target .entry with
  | some (_, _, id), .ok (.missing directory name _) =>
    (fs.remove workDir path).attach directory name id
  | some (_, _, id), .ok (.node _) => match fs.entryOf? workDir target with
    | some (directory, name, other) =>
      if other = id then fs else (fs.remove workDir path).attach directory name id
    | none => fs
  | _, _ => fs

/-! ## attempts -/

/-- why a path's last name is not there -/
def absence (fs : FileSystem) (workDir path : Path) : IoError :=
  match fs.lookup workDir path .entry with
  | .error e => e
  | .ok _ => .os .noEntry

def tryMakeDirectory (fs : FileSystem) (workDir path : Path) : Except IoError FileSystem :=
  match fs.lookup workDir path .entry with
  | .error e => .error e
  | .ok (.node _) => .error (.os .exists_)
  | .ok (.missing ..) => .ok (fs.makeDirectory workDir path)

def tryRemoveDirectory (fs : FileSystem) (workDir path : Path) : Except IoError FileSystem :=
  match (fs.entryOf? workDir path).bind fun e => fs.node? e.2.2 with
  | none => .error (fs.absence workDir path)
  | some (.directory [] _) => .ok (fs.remove workDir path)
  | some (.directory ..) => .error (.os .notEmpty)
  | some _ => .error (.os .notDirectory)

/-- takes a name away, with a directory's content only if `whole` -/
def tryRemove (fs : FileSystem) (workDir path : Path) (whole : Bool) : Except IoError FileSystem :=
  match (fs.entryOf? workDir path).bind fun e => fs.node? e.2.2 with
  | none => .error (fs.absence workDir path)
  | some (.directory ..) =>
    if whole then .ok (fs.remove workDir path) else .error (.os .isDirectory)
  | some _ => .ok (fs.remove workDir path)

/-! ## directories -/

/-- the names from the root down to a directory, with at most `fuel` of them -/
def trail (fs : FileSystem) (id : NodeId) : Nat → List Bytes
  | 0 => []
  | fuel + 1 =>
    if id = root then []
    else match fs.node? id with
      | some (.directory _ parent) => match fs.node? parent with
        | some (.directory entries _) =>
          let name := (entries.find? fun e => e.2 = id).map (·.1)
          fs.trail parent fuel ++ name.toList
        | _ => []
      | _ => []

/-- the full name of a directory; it is as deep as there are nodes at most -/
def fullName (fs : FileSystem) (id : NodeId) : Path :=
  match fs.trail id fs.nodes.length with
  | [] => ⟨[Path.separator]⟩
  | names => ⟨names.flatMap fun name => Path.separator :: name⟩

/-- the full name of the directory behind a path -/
def enter (fs : FileSystem) (workDir path : Path) : Except IoError Path :=
  match fs.lookup workDir path .target with
  | .error e => .error e
  | .ok (.missing ..) => .error (.os .noEntry)
  | .ok (.node id) => match fs.node? id with
    | some (.directory ..) => .ok (fs.fullName id)
    | _ => .error (.os .notDirectory)

def entryNames (fs : FileSystem) (workDir path : Path) : List Bytes :=
  match fs.lookup workDir path .target with
  | .ok (.node id) => match fs.node? id with
    | some (.directory entries _) => (entries.map (·.1)).mergeSort Bytes.le
    | _ => []
  | _ => []

end Succession.FileSystem
