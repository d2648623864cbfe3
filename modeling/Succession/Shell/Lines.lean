import Succession.Shell.Pattern
import Succession.Text.Hex
import Succession.Text.Numeral

/-!
# Texts of lines

What programs do with the lines of a text and the pieces of a line.

* `Lines.of`, `Lines.withEnds`     the lines of a text;
* `Lines.ranges?`                  a list of numbers and ranges;
* `Lines.fields`, `Lines.columns`  the pieces of a line with the numbers of a list;
* `Lines.characters`               a set of characters;
* `Lines.holds`                    lines with a pattern in them.
-/

namespace Succession.Shell.Lines

/-- the lines of a text, the last of which need not end -/
def of (text : String) : List String :=
  let parts := text.splitOn "\n"
  if parts.getLast? = some "" then parts.dropLast else parts

def withEnds (text : String) : List String :=
  let parts := text.splitOn "\n"
  parts.dropLast.map (· ++ "\n") ++ (if parts.getLast? = some "" then [] else parts.getLast?.toList)

def map (f : String → Option String) (text : String) : String :=
  String.join ((of text).filterMap fun line => (f line).map (· ++ "\n"))

def words (cs : List Char) : List (List Char) :=
  let (done, last) := cs.foldl (fun (done, last) c =>
    if c.isWhitespace then (if last = [] then done else done ++ [last], [])
    else (done, last ++ [c])) (([] : List (List Char)), ([] : List Char))
  if last = [] then done else done ++ [last]

/-! ## lists of numbers -/

abbrev Range := Nat × Option Nat

def number? (text : String) : Option Nat :=
  if text.toList.all Char.isDigit then text.toNat?.filter (0 < ·) else none

def range? (text : String) : Option Range :=
  match text.splitOn "-" with
  | [n] => (number? n).map fun n => (n, some n)
  | ["", last] => (number? last).map fun n => (1, some n)
  | [first, ""] => (number? first).map (·, none)
  | [first, last] => do
    let first ← number? first
    let last ← number? last
    if first ≤ last then return (first, some last) else none
  | _ => none

def ranges? (text : String) : Option (List Range) := (text.splitOn ",").mapM range?

def isIn (ranges : List Range) (n : Nat) : Bool :=
  ranges.any fun r => decide (r.1 ≤ n) && r.2.all (n ≤ ·)

/-- what has the numbers of a list, counted from one -/
def choose {α : Type} (ranges : List Range) (parts : List α) : List α :=
  (parts.zipIdx.filter fun p => isIn ranges (p.2 + 1)).map (·.1)

/-- pieces of a line; a line without delimiters is one piece, and nothing at all if `strict` -/
def fields (delimiter : Char) (strict : Bool) (ranges : List Range) (line : String) :
    Option String :=
  let separator := String.ofList [delimiter]
  match line.splitOn separator with
  | [whole] => if strict then none else some whole
  | parts => some (separator.intercalate (choose ranges parts))

def columns (ranges : List Range) (line : String) : String :=
  String.ofList (choose ranges line.toList)

/-! ## order -/

def leading (line : String) : Int :=
  match line.toList.dropWhile (· = ' ') with
  | '-' :: rest => -((Numeral.value (rest.takeWhile Char.isDigit) : Nat) : Int)
  | rest => (Numeral.value (rest.takeWhile Char.isDigit) : Nat)

def sort (numeric : Bool) (lines : List String) : List String :=
  lines.mergeSort fun a b =>
    if numeric ∧ leading a ≠ leading b then decide (leading a < leading b) else decide (a ≤ b)

/-- one line of each that repeats the one before it -/
def unrepeated : List String → List String
  | a :: b :: rest => if a = b then unrepeated (b :: rest) else a :: unrepeated (b :: rest)
  | lines => lines

/-! ## characters -/

/-- the characters from one to another -/
def between (first last : Char) : List Char :=
  (List.range (last.toNat + 1 - first.toNat)).map fun n => Char.ofNat (first.toNat + n)

def classes : List (String × List Char) :=
  [("upper", between 'A' 'Z'), ("lower", between 'a' 'z'), ("digit", between '0' '9'),
    ("alpha", between 'A' 'Z' ++ between 'a' 'z'),
    ("alnum", between '0' '9' ++ between 'A' 'Z' ++ between 'a' 'z'),
    ("space", ['\t', '\n', '\x0B', '\x0C', '\r', ' ']), ("blank", ['\t', ' '])]

/-- a set with ranges, classes and backslash sequences; every step takes a character -/
def charactersFrom : Nat → List Char → List Char
  | 0, _ => []
  | _, [] => []
  | fuel + 1, '[' :: ':' :: rest =>
    let name := rest.takeWhile (· ≠ ':')
    match classes.lookup (String.ofList name), rest.drop name.length with
    | some members, ':' :: ']' :: behind => members ++ charactersFrom fuel behind
    | _, _ => '[' :: charactersFrom fuel (':' :: rest)
  | fuel + 1, '\\' :: c :: rest =>
    (if c = 'n' then '\n' else if c = 't' then '\t' else if c = '0' then '\x00' else c) ::
      charactersFrom fuel rest
  | fuel + 1, first :: '-' :: last :: rest =>
    if first ≤ last then between first last ++ charactersFrom fuel rest
    else first :: charactersFrom fuel ('-' :: last :: rest)
  | fuel + 1, c :: rest => c :: charactersFrom fuel rest

def characters (text : String) : List Char := charactersFrom (text.length + 1) text.toList

/-- one character of each that repeats the one before it, for the characters of a set -/
def squeeze (set : List Char) : List Char → List Char
  | a :: b :: rest =>
    if a = b ∧ set.contains a then squeeze set (b :: rest) else a :: squeeze set (b :: rest)
  | cs => cs

/-! ## patterns -/

/-- one character of a pattern, and how often it stands there -/
structure Item where
  admits : Char → Bool
  least : Nat
  many : Bool

/-- the items of a pattern: a dot stands for any character, brackets for one of a set, and a star
for any number of what is in front of it. Every step takes a character -/
def items (extended : Bool) : Nat → List Char → List Item
  | 0, _ => []
  | _, [] => []
  | fuel + 1, c :: rest =>
    let (admits, rest) : (Char → Bool) × List Char := match c, rest with
      | '.', rest => (fun _ => true, rest)
      | '\\', c :: rest => ((· = c), rest)
      | '[', rest => match Pattern.set? (glyphs false rest) 'x' with
        | none => ((· = '['), rest)
        | some (_, behind) => (fun c => ((Pattern.set? (glyphs false rest) c).map (·.1)).getD false,
            Pattern.chars behind)
      | c, rest => ((· = c), rest)
    match rest with
    | '*' :: rest => ⟨admits, 0, true⟩ :: items extended fuel rest
    | '+' :: more =>
      if extended then ⟨admits, 1, true⟩ :: items extended fuel more
      else ⟨admits, 1, false⟩ :: items extended fuel rest
    | '?' :: more =>
      if extended then ⟨admits, 0, false⟩ :: items extended fuel more
      else ⟨admits, 1, false⟩ :: items extended fuel rest
    | rest => ⟨admits, 1, false⟩ :: items extended fuel rest

/-- whether a text begins with some items, and ends with them too if `ends` -/
def beginsWith (ends : Bool) : List Item → List Char → Bool
  | [], cs => !ends || cs.isEmpty
  | i :: rest, cs =>
    let longest := (cs.takeWhile i.admits).length
    (List.range (longest + 1)).any fun n =>
      i.least ≤ n && (i.many || n ≤ 1) && beginsWith ends rest (cs.drop n)

/-- whether a line has a pattern in it, or is one as a whole -/
def holds (whole literal extended : Bool) (pattern line : List Char) : Bool :=
  let (begins, pattern) := match pattern with
    | '^' :: rest => if literal then (whole, pattern) else (true, rest)
    | pattern => (whole, pattern)
  let (ends, pattern) := if !literal && pattern.getLast? = some '$' then (true, pattern.dropLast)
    else (whole, pattern)
  let parts := if literal then pattern.map fun c => ⟨(· = c), 1, false⟩
    else items extended (pattern.length + 1) pattern
  let starts := if begins then [line] else (List.range (line.length + 1)).map line.drop
  starts.any (beginsWith ends parts)

/-! ## bytes -/

/-- sixteen bytes a line -/
def hexadecimal (data : Bytes) : String :=
  String.join ((List.range ((data.length + 15) / 16)).map fun n =>
    String.join (((data.drop (16 * n)).take 16).map fun b =>
      " " ++ String.ofList (Hex.encode [b])) ++ "\n")

end Succession.Shell.Lines
