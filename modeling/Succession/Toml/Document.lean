import Succession.Toml.Scalar

/-!
# TOML documents

A document is a run of lines: assignments, headers of tables, comments and blank lines. Arrays and
inline tables nest less than eighty deep, and a dotted key has less than eighty parts.

* `Toml.value`   one value;
* `Toml.parse`   the table that a document describes, if it is one.
-/

namespace Succession.Toml

/-! ## keys -/

def isBareKeyChar (c : Char) : Bool := c.isAlphanum || c = '-' || c = '_'

def simpleKey : Parser String := fun text =>
  match quotedLine text with
  | some r => some r
  | none =>
    let bare := text.takeWhile isBareKeyChar
    if bare = [] then none else some (String.ofList bare, text.drop bare.length)

/-- a key with the space around it -/
def spacedKey : Parser String := fun text => do
  let (key, rest) ← simpleKey (skipSpace text)
  return (key, skipSpace rest)

/-- depth at which nesting is refused -/
def maxDepth : Nat := 80

/-- a dotted key: the path, and the key at its end -/
def dottedKey : Parser (List String × String) := fun text => do
  let (first, rest) ← spacedKey text
  let next : Parser String := fun text => do
    let (_, rest) ← char '.' text
    spacedKey rest
  match many next rest with
  | (more, rest) =>
    let keys := first :: more
    if maxDepth ≤ keys.length then none
    else some ((keys.dropLast, keys.getLastD first), rest)

/-! ## values -/

/-- items between brackets, separated by commas, the last comma being free -/
def arrayItems (item : Parser Value) : Parser Value := fun text =>
  let spaced : Parser Value := fun text => do
    let (v, rest) ← item (skipLines text)
    return (v, skipLines rest)
  let next : Parser Value := fun text => do
    let (_, rest) ← char ',' text
    spaced rest
  let (items, rest) := match spaced text with
    | none => ([], text)
    | some (first, rest) => match many next rest with
      | (more, rest) => (first :: more, match rest with
        | ',' :: rest => rest
        | rest => rest)
  (char ']' (skipLines rest)).map fun r => (.array .inline items, r.2)

/-- assignments between braces, on one line, separated by commas -/
def inlineTable (item : Parser Value) : Parser Value := fun text => do
  let pair : Parser ((List String × String) × Value) := fun text => do
    let (key, rest) ← dottedKey text
    let (_, rest) ← char '=' rest
    let (v, rest) ← item (skipSpace rest)
    return ((key, v), skipSpace rest)
  let next : Parser ((List String × String) × Value) := fun text => do
    let (_, rest) ← char ',' text
    pair rest
  let (pairs, rest) := match pair text with
    | none => ([], text)
    | some (first, rest) => match many next rest with
      | (more, rest) => (first :: more, rest)
  let (_, rest) ← char '\x7d' (skipSpace rest)
  let t ← pairs.foldlM (fun (t : Table) (p : (List String × String) × Value) =>
    t.assign p.1.1 p.1.2 p.2) ⟨.inline, []⟩
  return (t.toValue, rest)

/-- a value with arrays and inline tables nested less than `depth` deep in it -/
def valueTo : Nat → Parser Value
  | 0, _ => none
  | depth + 1, text =>
    match text with
    | '[' :: rest => if depth = 0 then none else arrayItems (valueTo depth) rest
    | '\x7b' :: rest => if depth = 0 then none else inlineTable (valueTo depth) rest
    | _ => scalar text

def value : Parser Value := valueTo maxDepth

/-! ## lines -/

/-- the document so far, and the table that assignments go to -/
structure Progress where
  document : Table
  current : List String

def Progress.start : Progress := ⟨⟨.header, []⟩, []⟩

/-- `key = value` -/
def assignment (p : Progress) (text : List Char) : Option (Progress × List Char) := do
  let ((path, key), rest) ← dottedKey text
  let (_, rest) ← char '=' rest
  let (v, rest) ← value (skipSpace rest)
  let rest ← lineTrailing rest
  let document ← p.document.update .implicit (·.assign path key v) p.current
  return (⟨document, p.current⟩, rest)

/-- `[[key]]` -/
def arrayHeader (p : Progress) (text : List Char) : Option (Progress × List Char) := do
  let ((path, key), rest) ← dottedKey text
  let (_, rest) ← char ']' rest
  let (_, rest) ← char ']' rest
  let rest ← lineTrailing rest
  let document ← p.document.openArrayHeader path key
  return (⟨document, path ++ [key]⟩, rest)

/-- `[key]` -/
def header (p : Progress) (text : List Char) : Option (Progress × List Char) := do
  let ((path, key), rest) ← dottedKey text
  let (_, rest) ← char ']' rest
  let rest ← lineTrailing rest
  let document ← p.document.openHeader path key
  return (⟨document, path ++ [key]⟩, rest)

/-- one line, its leading space being gone -/
def line (p : Progress) (text : List Char) : Option (Progress × List Char) :=
  match text with
  | '#' :: _ => (lineEnd (skipComment text)).map fun r => (p, r.2)
  | '\n' :: _ | '\r' :: _ => (newline text).map fun r => (p, r.2)
  | '[' :: '[' :: rest => arrayHeader p rest
  | '[' :: rest => header p rest
  | _ => assignment p text

/-- the lines of a text, of which there are at most `limit` -/
def lines (p : Progress) : Nat → List Char → Option Table
  | 0, text => if skipSpace text = [] then some p.document else none
  | limit + 1, text =>
    match skipSpace text with
    | [] => some p.document
    | text => match line p text with
      | none => none
      | some (p, rest) => lines p limit rest

/-- the table that a document describes; a byte order mark in front is left out -/
def parse (text : String) : Option Table :=
  let chars := match text.toList with
    | '\uFEFF' :: rest => rest
    | chars => chars
  lines .start chars.length chars

end Succession.Toml
