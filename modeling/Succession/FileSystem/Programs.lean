import Succession.FileSystem.Lookup

/-!
# Finding programs

A path with a separator leads to a program; a name is searched for in some directories. Programs are
those of the machine, and regular files that may be run.

* `Runnable`
* `FileSystem.programAt`     the program at a path;
* `FileSystem.findProgram`   the program of a path or a name.
-/

namespace Succession

inductive Runnable where
  /-- a program of the machine -/
  | program (name : String)
  /-- a file that tells how it is to be run -/
  | script (content : Bytes)
deriving DecidableEq, Repr

/-- the interpreter that a script names on its first line, and one word for it; a shell reads a
script that names none -/
def Runnable.interpreter? (content : Bytes) : Option (Path × Option Bytes) :=
  match content with
  | 0x23 :: 0x21 :: rest =>
    let isBlank (b : UInt8) : Bool := b = 0x20 || b = 0x09
    let line := (rest.takeWhile (· ≠ 0x0A)).dropWhile isBlank
    let line := (line.reverse.dropWhile isBlank).reverse
    let name := line.takeWhile (!isBlank ·)
    let word := (line.drop name.length).dropWhile isBlank
    some (⟨name⟩, if word = [] then none else some word)
  | _ => none

namespace FileSystem

/-- the program at a path; what is no program may not be run -/
def programAt (fs : FileSystem) (workDir path : Path) : Except IoError Runnable :=
  match fs.lookup workDir path .target with
  | .error e => .error e
  | .ok (.missing ..) => .error (.os .noEntry)
  | .ok (.node id) => match fs.node? id with
    | some (.program name) => .ok (.program name)
    | some (.file content) =>
      if fs.runnable.contains id then .ok (.script content) else .error (.os .accessDenied)
    | _ => .error (.os .accessDenied)

/-- the search for a program goes on in the next directory -/
def isMissing (e : IoError) : Bool :=
  e = .os .noEntry || e = .os .notDirectory || e = .os .accessDenied

/-- the first program of a name in some directories. Where there is none, something that is no
program tells more than nothing at all, and else the last directory's answer counts -/
def searchProgram (fs : FileSystem) (workDir name : Path) (refusal : IoError) :
    List Path → Except IoError Runnable
  | [] => .error refusal
  | directory :: rest => match fs.programAt workDir (directory.join name) with
    | .ok program => .ok program
    | .error e =>
      if isMissing e then fs.searchProgram workDir name
        (if refusal = .os .accessDenied then refusal else e) rest
      else .error e

def colon : UInt8 := 0x3A

def searchPath (path : Bytes) : List Path :=
  (path.foldr (fun b pieces => match pieces with
    | [] => [[b]]
    | piece :: rest => if b = colon then [] :: piece :: rest else (b :: piece) :: rest) [[]]).map
      Path.mk

/-- where programs are searched for if nothing else is said -/
def usualPath : Bytes := Bytes.ofText "/bin:/usr/bin"

/-- a path with a separator leads to the program; a name is searched for on `path` -/
def findProgram (fs : FileSystem) (workDir : Path) (path : Option Bytes) (program : Path) :
    Except IoError Runnable :=
  if program.bytes = [] then .error (.os .noEntry)
  else if program.bytes.contains Path.separator then fs.programAt workDir program
  else fs.searchProgram workDir program (.os .noEntry) (searchPath (path.getD usualPath))

/-- a script whose interpreter is missing is none -/
def withInterpreter (fs : FileSystem) (workDir : Path) (program : Runnable) :
    Except IoError Runnable :=
  match program with
  | .program _ => .ok program
  | .script content => match Runnable.interpreter? content with
    | none => .ok program
    | some (interpreter, _) => (fs.programAt workDir interpreter).map fun _ => program

end FileSystem

end Succession
