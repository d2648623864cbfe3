import Succession.Path

/-!
# Texts of a shell

A shell and its programs know bytes and no characters. Their texts have a character for every byte,
whose number is the byte, so that what is no UTF-8 passes through them unchanged.

The modules of `Succession.Shell` stand for programs that the library does not contain, the shell
and the small utilities beside it: `Machine.Launcher` runs them, so that a launch has somebody who
looks at what it was given. Nothing is proved about them, and no proof depends on them.

* `Shell.ofBytes`, `Shell.toBytes`   the text of a byte string, and back.
-/

namespace Succession.Shell

def ofBytes (b : Bytes) : String := String.ofList (b.map fun x => Char.ofNat x.toNat)

def toBytes (s : String) : Bytes := s.toList.map fun c => UInt8.ofNat c.toNat

def ofText (s : String) : String := ofBytes (Bytes.ofText s)

def toPath (s : String) : Path := ⟨toBytes s⟩

end Succession.Shell
