import Succession.Shell.Arithmetic
import Succession.Shell.Child
import Succession.Shell.Pattern

/-!
# Expansion of words

A word is expanded into fields. What comes of an expansion outside of quotes is split at blanks, and
a field with pattern characters stands for the paths that it matches.

* `Child.parameter?`     the value of a parameter;
* `Child.expand`         the parts of a word;
* `Child.expandText`     a word as one text;
* `Child.expandWords`    the fields of some words.
-/

namespace Succession.Shell

abbrev TextRunner := List Char → Child → Child

/-- fields, the last of which may still grow; nothing if there is none that grows -/
structure Fields where
  done : List Pattern
  last : Option Pattern
  /-- blanks have ended the last field that is done, and a separator may follow -/
  blank : Bool
  /-- what separates fields -/
  separators : List Char

namespace Fields

def empty (separators : List Char) : Fields := ⟨[], none, false, separators⟩

/-- text that is not split -/
def add (f : Fields) (text : Pattern) : Fields :=
  { f with last := some (f.last.getD [] ++ text), blank := false }

def cut (f : Fields) : Fields := { f with done := f.done ++ f.last.toList, last := none }

/-- the end of a field: blanks in a row end one field, and of other separators each does -/
def separate (f : Fields) (c : Char) : Fields :=
  if c = ' ' ∨ c = '\t' ∨ c = '\n' then
    if f.last.isSome then { f.cut with blank := true } else f
  else if f.last.isSome then { f.cut with blank := false }
  else if f.blank then { f with blank := false }
  else { f with done := f.done ++ [[]] }

/-- text that is split at separators -/
def addSplit (f : Fields) (text : List Char) : Fields :=
  text.foldl (fun f c => if f.separators.contains c then f.separate c else f.add [⟨c, false⟩]) f

def addValue (f : Fields) (quoted : Bool) (text : List Char) : Fields :=
  if quoted then f.add (glyphs true text) else f.addSplit text

def toList (f : Fields) : List Pattern := f.cut.done

def chars (f : Fields) : List Char := f.toList.flatMap Pattern.chars

end Fields

namespace Child

/-! ## parameters -/

def separators (c : Child) : List Char := ((c.parameters.get? "IFS").getD " \t\n").toList

/-- the value of a parameter; digits name the arguments -/
def parameter? (c : Child) (name : String) : Option String :=
  match name with
  | "$" => some (toString c.pid)
  | "?" => some (toString c.status)
  | "#" => some (toString c.arguments.length)
  | "@" => if c.arguments = [] then none else some (" ".intercalate c.arguments)
  | "*" =>
    if c.arguments = [] then none
    else some ((String.ofList (c.separators.take 1)).intercalate c.arguments)
  | "-" => some (String.ofList c.options)
  | "!" => c.jobs.head?.map fun job => toString job.1
  | "PPID" => some (toString c.parent)
  | name => match name.toNat? with
    | some 0 => some c.name
    | some (n + 1) => c.arguments[n]?
    | none => c.parameters.get? name

/-- the value of a variable in an arithmetic expression -/
def quantity (c : Child) (name : String) : Except String Int :=
  match (c.parameter? name).getD "" with
  | "" => .ok 0
  | text => match Expression.integer? text.toList with
    | some n => .ok n
    | none => .error ("Illegal number: " ++ text)

def trimNewlines (text : List Char) : List Char := (text.reverse.dropWhile (· = '\n')).reverse

/-- all arguments, each a field of its own; quotes around none of them are no field -/
def addArguments (f : Fields) (quoted : Bool) : List String → Fields
  | [] => if quoted ∧ f.last = some [] then { f with last := none } else f
  | [a] => f.addValue quoted a.toList
  | a :: rest => addArguments (f.addValue quoted a.toList).cut quoted rest

def output (run : TextRunner) (c : Child) (script : List Char) : List Char × Child :=
  let (data, after) := c.capture fun c => c.apart (run script)
  (trimNewlines (ofBytes data).toList,
    { c with fs := after.fs, caught := some after.status, flow := after.flow })

/-- the value of an arithmetic expression, which may set variables -/
def compute (c : Child) (text : List Char) : Option Int × Child :=
  let about (cause : String) : String :=
    "arithmetic expression: " ++ cause ++ ": \"" ++ String.ofList text ++ "\""
  match Expression.ofText text with
  | .error cause => (none, c.abort (about cause))
  | .ok e => match (e.value c.quantity).run [] with
    | .error cause =>
      (none, c.abort (if cause.startsWith "Illegal" then cause else about cause))
    | .ok (n, changes) =>
      (some n, changes.foldr (fun change c => c.assign change.1 (toString change.2)) c)

/-! ## words -/

/-- the value of a parameter is used as it is -/
def isThere (c : Child) (name : String) (orEmpty : Bool) : Bool :=
  match c.parameter? name with
  | none => false
  | some v => ¬ (orEmpty ∧ v = "")

def addParameter (c : Child) (name : String) (quoted : Bool) (f : Fields) : Fields × Child :=
  if name = "@" ∨ name = "*" ∧ ¬ quoted then (addArguments f quoted c.arguments, c)
  else match c.parameter? name with
    | some v => (f.addValue quoted v.toList, c)
    | none =>
      let c := if c.demandsValues ∧ name ≠ "*" ∧ name ≠ "!" then
          c.abort (name ++ ": parameter not set")
        else c
      (f.addValue quoted [], c)

/-- the parts of a word, added to some fields. `splits`: the word is part of an expansion, so that
its own text is split as well -/
def expand (run : TextRunner) (splits : Bool) : Word → Fields → Child → Fields × Child
  | .done, f, c => (f, c)
  | .literal text quoted rest, f, c =>
    expand run splits rest
      (if splits && !quoted then f.addSplit text else f.add (glyphs quoted text)) c
  | .output script quoted rest, f, c =>
    let (text, c) := c.output run script
    expand run splits rest (f.addValue quoted text) c
  | .number expression quoted rest, f, c =>
    let (inner, c) := expand run false expression (.empty []) c
    let (n?, c) := c.compute inner.chars
    let text := match n? with
      | some n => (toString n).toList
      | none => []
    expand run splits rest (f.addValue quoted text) c
  | .value name use inner quoted rest, f, c =>
    let (f, c) := match use with
      | .plain => c.addParameter name quoted f
      | .length =>
        (f.addValue quoted (toString ((c.parameter? name).getD "").length).toList, c)
      | .otherwise orEmpty =>
        if c.isThere name orEmpty then c.addParameter name quoted f
        else expand run (!quoted) inner f c
      | .alternative orEmpty =>
        if c.isThere name orEmpty then expand run (!quoted) inner f c
        else (if quoted then f.add [] else f, c)
      | .assign orEmpty =>
        if c.isThere name orEmpty then c.addParameter name quoted f
        else
          let (value, c) := expand run false inner (.empty []) c
          if name.toList.all Char.isDigit then (f, c.abort (name ++ ": bad variable name"))
          else (f.addValue quoted value.chars, c.assign name (String.ofList value.chars))
      | .demand orEmpty =>
        if c.isThere name orEmpty then c.addParameter name quoted f
        else
          let (value, c) := expand run false inner (.empty []) c
          let text := String.ofList value.chars
          (f, c.abort (name ++ ": " ++ (if text ≠ "" then text
            else "parameter not set" ++ if orEmpty then " or null" else "")))
      | .trim atEnd longest =>
        let (pattern, c) := expand run false inner (.empty []) c
        (f.addValue quoted (Pattern.trim atEnd longest pattern.toList.flatten
          ((c.parameter? name).getD "").toList), c)
    expand run splits rest f c

/-- a tilde in front of a word or of a path stands for a directory -/
def withHome (c : Child) (w : Word) : Word :=
  match c.parameters.get? "HOME", w with
  | some home, .literal ['~'] false .done => .literal home.toList true .done
  | some home, .literal ['~'] false (.literal ['/'] false rest) =>
    .literal home.toList true (.literal ['/'] false rest)
  | _, w => w

def expandPattern (run : TextRunner) (c : Child) (w : Word) : Pattern × Child :=
  let (f, c) := expand run false (unsplit (c.withHome w)) (.empty []) c
  (f.toList.flatten, c)
where
  /-- a word of which no part is split, and whose pattern characters stay what they are -/
  unsplit : Word → Word
    | .done => .done
    | .literal text quoted rest => .literal text quoted (unsplit rest)
    | .value name use inner _ rest => .value name use inner true (unsplit rest)
    | .output script _ rest => .output script true (unsplit rest)
    | .number expression _ rest => .number expression true (unsplit rest)

def expandText (run : TextRunner) (c : Child) (w : Word) : String × Child :=
  let (p, c) := c.expandPattern run w
  (String.ofList p.chars, c)

/-- the fields of some words, and the paths that they stand for -/
def expandWords (run : TextRunner) (c : Child) : List Word → List String × Child
  | [] => ([], c)
  | w :: rest =>
    let (f, c) := expand run false (c.withHome w) (.empty c.separators) c
    let fields := f.toList.flatMap fun p =>
      if c.options.contains 'f' then [String.ofList p.chars]
      else (p.paths c.fs c.workDir).map String.ofList
    let (more, c) := expandWords run c rest
    (fields ++ more, c)

end Child
end Succession.Shell
