import Succession.FileSystem.Names
import Succession.Shell.Text

/-!
# Patterns

A pattern matches whole texts: a star stands for any text, a question mark for one character, and
brackets for one character of a set. A quoted character stands for itself.

* `Glyph`, `Pattern`;
* `Pattern.admits`   whether a pattern matches a text;
* `Pattern.trim`     a text without what a pattern matches at one of its ends;
* `Pattern.paths`    the files whose paths a pattern matches.
-/

namespace Succession.Shell

structure Glyph where
  char : Char
  quoted : Bool
deriving DecidableEq, Repr

abbrev Pattern := List Glyph

def glyphs (quoted : Bool) (text : List Char) : Pattern := text.map (⟨·, quoted⟩)

namespace Pattern

def star : Glyph := ⟨'*', false⟩
def closing : Glyph := ⟨']', false⟩

/-- the ranges of characters in a set, and the pattern behind it; every step takes a glyph -/
def ranges (first : Bool) : Nat → Pattern → Option (List (Char × Char) × Pattern)
  | 0, _ => none
  | _, [] => none
  | fuel + 1, g :: rest =>
    if g = closing ∧ ¬ first then some ([], rest)
    else match rest with
      | ⟨'-', false⟩ :: last :: more =>
        if last = closing then
          (ranges false fuel rest).map fun r => ((g.char, g.char) :: r.1, r.2)
        else (ranges false fuel more).map fun r => ((g.char, last.char) :: r.1, r.2)
      | rest => (ranges false fuel rest).map fun r => ((g.char, g.char) :: r.1, r.2)

/-- whether a set has a character, and the pattern behind the set -/
def set? (p : Pattern) (c : Char) : Option (Bool × Pattern) :=
  let (negated, p) := match p with
    | ⟨'!', false⟩ :: rest | ⟨'^', false⟩ :: rest => (true, rest)
    | p => (false, p)
  (ranges true p.length p).map fun r =>
    ((r.1.any fun range => range.1 ≤ c && c ≤ range.2) != negated, r.2)

/-- every step takes a glyph or a character -/
def admitsWithin : Nat → Pattern → List Char → Bool
  | 0, _, _ => false
  | _, [], cs => cs.isEmpty
  | fuel + 1, g :: p, cs =>
    if g = star then
      admitsWithin fuel p cs || match cs with
        | [] => false
        | _ :: cs => admitsWithin fuel (g :: p) cs
    else match cs with
      | [] => false
      | c :: cs =>
        if g = ⟨'?', false⟩ then admitsWithin fuel p cs
        else match if g = ⟨'[', false⟩ then set? p c else none with
          | some (admitted, rest) => admitted && admitsWithin fuel rest cs
          | none => g.char = c && admitsWithin fuel p cs

def admits (p : Pattern) (cs : List Char) : Bool := admitsWithin (p.length + cs.length + 1) p cs

/-- a text without the shortest or the longest part at its end, or at its beginning, that a pattern
matches -/
def trim (atEnd longest : Bool) (p : Pattern) (cs : List Char) : List Char :=
  let lengths := List.range (cs.length + 1)
  let matched := (if longest then lengths.reverse else lengths).find? fun n =>
    p.admits (if atEnd then cs.drop (cs.length - n) else cs.take n)
  match matched with
  | none => cs
  | some n => if atEnd then cs.take (cs.length - n) else cs.drop n

/-- some character has a meaning -/
def isActive (p : Pattern) : Bool := p.any fun g => !g.quoted && "*?[".toList.contains g.char

def chars (p : Pattern) : List Char := p.map (·.char)

def pieces (p : Pattern) : List Pattern :=
  p.foldr (fun g pieces => match pieces with
    | [] => [[g]]
    | piece :: rest => if g.char = '/' then [] :: piece :: rest else (g :: piece) :: rest) [[]]

/-- the paths that go on with a piece of a pattern; a dot in front of a name has to be asked for -/
def extend (fs : FileSystem) (workDir : Path) (piece : Pattern) (begun : List Char) :
    List (List Char) :=
  if ¬ isActive piece then [begun ++ piece.chars]
  else
    let directory := if begun = [] then "." else String.ofList begun
    let names := (fs.entryNames workDir (toPath directory)).map fun b => (ofBytes b).toList
    (names.filter fun name =>
      piece.admits name && (name.head? ≠ some '.' || (piece.head?.map (·.char)) = some '.')).map
        (begun ++ ·)

/-- the paths that go on with the pieces of a pattern -/
def extendAll (fs : FileSystem) (workDir : Path) (begun : List (List Char)) :
    List Pattern → List (List Char)
  | [] => begun
  | [piece] => begun.flatMap (extend fs workDir piece)
  | piece :: rest => extendAll fs workDir
      ((begun.flatMap (extend fs workDir piece)).map (· ++ ['/'])) rest

/-- the paths of the files that a pattern matches, or the pattern's own text if there are none -/
def paths (fs : FileSystem) (workDir : Path) (p : Pattern) : List (List Char) :=
  let found := if isActive p then
      (extendAll fs workDir [[]] p.pieces).filter fun path =>
        fs.contains workDir (toPath (String.ofList path))
    else []
  if found = [] then [p.chars] else found

end Pattern
end Succession.Shell
