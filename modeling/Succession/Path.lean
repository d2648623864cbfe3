import Succession.Text.Bytes

/-!
# Paths

A path is any byte string. Two paths are the same when their components are: repeated and trailing
separators and inner dots do not count, while a leading dot and every `..` do.

* `Path.components`, `Path.same`;
* `Path.isAbsolute`, `Path.join`;
* `Path.display`  the text shown for a path.
-/

namespace Succession

structure Path where
  bytes : Bytes
deriving DecidableEq, Repr, Inhabited

namespace Path

def separator : UInt8 := 0x2F
def dot : UInt8 := 0x2E

def ofText (s : String) : Path := ⟨Bytes.ofText s⟩

def display (p : Path) : String := Bytes.display p.bytes

def isAbsolute (p : Path) : Bool := p.bytes.head? == some separator

/-- the pieces between separators, empty ones left out -/
def pieces (p : Path) : List Bytes :=
  (p.bytes.splitBy fun a b => a != separator && b != separator).filter fun piece =>
    piece != [separator]

inductive Component where
  | root
  | here
  | normal (name : Bytes)
deriving DecidableEq, Repr

/-- a dot counts only where it leads a relative path -/
def components (p : Path) : List Component :=
  let names := p.pieces
  let inner := (names.filter fun n => n != [dot]).map Component.normal
  if p.isAbsolute then .root :: inner
  else if names.head? == some [dot] then .here :: inner
  else inner

/-- the same sequence of components -/
def same (p q : Path) : Bool := p.components == q.components

/-- `p` read from the directory `base`: an absolute path stays what it is -/
def join (base p : Path) : Path :=
  if p.isAbsolute then p
  else if base.bytes.isEmpty || base.bytes.getLast? == some separator then ⟨base.bytes ++ p.bytes⟩
  else ⟨base.bytes ++ separator :: p.bytes⟩

end Path
end Succession
