import Succession.Text.Numeral

/-!
# Words of a script

A word is a sequence of parts: literal text, values of parameters, and what other scripts write. A
quoted part keeps its blanks and its pattern characters.

* `Word`            a word as it is written;
* `Word.scan`       the word that a text begins with, and what is behind it;
* `Word.ofText`     a text that is one word as a whole;
* `Word.plain?`     the text of a word that holds nothing but unquoted text.
-/

namespace Succession.Shell

/-- what is made of a parameter's value. A word of its own may stand in for a value that is unset,
or for one that is empty too if `orEmpty` -/
inductive Use where
  | plain
  | length
  | otherwise (orEmpty : Bool)
  /-- the parameter is set to the word as well -/
  | assign (orEmpty : Bool)
  /-- the word stands in for a value that is there -/
  | alternative (orEmpty : Bool)
  /-- the word is the complaint -/
  | demand (orEmpty : Bool)
  /-- the value without what the word matches at one of its ends -/
  | trim (atEnd longest : Bool)
deriving DecidableEq, Repr

/-- the pattern that is trimmed is quoted on its own -/
def Use.isTrim : Use → Bool
  | .trim .. => true
  | _ => false

inductive Word where
  | done
  | literal (text : List Char) (quoted : Bool) (rest : Word)
  | value (name : String) (use : Use) (inner : Word) (quoted : Bool) (rest : Word)
  /-- what another script writes to its standard output -/
  | output (script : List Char) (quoted : Bool) (rest : Word)
  /-- the value of an arithmetic expression -/
  | number (expression : Word) (quoted : Bool) (rest : Word)
deriving DecidableEq, Repr

/-- the message about a text that is no script, or what was read and the text behind it -/
abbrev Scanned (α : Type) := Except String (α × List Char)

def isNameStart (c : Char) : Bool := c.isAlpha || c = '_'
def isNamePart (c : Char) : Bool := c.isAlphanum || c = '_'

def isSpecial (c : Char) : Bool := c.isDigit || "$?#@*!-".toList.contains c

def endsWord (c : Char) : Bool := " \t\n;&|<>()".toList.contains c

def backquote : Char := '\x60'

/-- keeps its meaning between double quotes, so that a backslash takes it away -/
def escapable (c : Char) : Bool := c = backquote || "$\"\\".toList.contains c

/-! ## what is enclosed -/

/-- what quotes the characters that are being read -/
inductive Quoting where
  | none
  | single
  | double
deriving DecidableEq, Repr

/-- the text up to the character that closes it, and what is behind; the openings in between are
closed on their own, and what is quoted does not count -/
def enclosed (opening closing : Char) (quoting : Quoting) (depth : Nat) (inner : List Char) :
    List Char → Option (List Char × List Char)
  | [] => none
  | '\\' :: c :: rest =>
    if quoting = .single then
      enclosed opening closing (if c = '\x27' then .none else .single) depth (c :: '\\' :: inner)
        rest
    else enclosed opening closing quoting depth (c :: '\\' :: inner) rest
  | c :: rest => match quoting with
    | .single =>
      enclosed opening closing (if c = '\x27' then .none else .single) depth (c :: inner) rest
    | .double =>
      enclosed opening closing (if c = '\x22' then .none else .double) depth (c :: inner) rest
    | .none =>
      if c = closing ∧ depth = 0 then some (inner.reverse, rest)
      else
        enclosed opening closing
          (if c = '\x27' then .single else if c = '\x22' then .double else .none)
          (if c = closing then depth - 1 else if c = opening then depth + 1 else depth)
          (c :: inner) rest

/-- the script up to the closing backquote; a backslash in it guards a dollar sign, a backquote or
itself -/
def backquoted (script : List Char) : List Char → Option (List Char × List Char)
  | [] => none
  | '\\' :: c :: rest =>
    if c = backquote ∨ c = '$' ∨ c = '\\' then backquoted (c :: script) rest
    else backquoted (c :: '\\' :: script) rest
  | c :: rest =>
    if c = backquote then some (script.reverse, rest) else backquoted (c :: script) rest

/-! ## scanning -/

/-- how what stands between braces begins: the parameter's name, what is made of its value, and the
word that belongs to it -/
def braced (inner : List Char) : Option (String × Use × List Char) :=
  let name := match inner with
    | c :: rest =>
      if c.isDigit then c :: rest.takeWhile Char.isDigit
      else if isSpecial c then [c]
      else c :: rest.takeWhile isNamePart
    | [] => []
  let is (use : Use) (word : List Char) := some (String.ofList name, use, word)
  match inner.drop name.length with
  | [] => if name = [] then none else is .plain []
  | '-' :: word => is (.otherwise false) word
  | ':' :: '-' :: word => is (.otherwise true) word
  | '=' :: word => is (.assign false) word
  | ':' :: '=' :: word => is (.assign true) word
  | '+' :: word => is (.alternative false) word
  | ':' :: '+' :: word => is (.alternative true) word
  | '?' :: word => is (.demand false) word
  | ':' :: '?' :: word => is (.demand true) word
  | '#' :: '#' :: word => is (.trim false true) word
  | '#' :: word => is (.trim false false) word
  | '%' :: '%' :: word => is (.trim true true) word
  | '%' :: word => is (.trim true false) word
  | _ => none

/-- the length of a parameter's value is asked for by a hash in front of its name -/
def parameter? (inner : List Char) : Option (String × Use × List Char) :=
  match inner with
  | '#' :: c :: rest =>
    if isNameStart c ∧ rest.all isNamePart ∨ c.isDigit ∧ rest.all Char.isDigit ∨
        isSpecial c ∧ rest = [] then some (String.ofList (c :: rest), .length, [])
    else braced inner
  | inner => braced inner

def unterminated : String := "Syntax error: Unterminated quoted string"
def missingBrace : String := "Syntax error: Missing '\x7d'"
def badSubstitution : String := "Bad substitution"
def missingParenthesis : String := "Syntax error: end of file unexpected (expecting \")\")"
def missingParentheses : String := "Syntax error: Missing '))'"
def missingBackquote : String := "Syntax error: EOF in backquote substitution"

/-- the parts of a word, in or out of double quotes, and what is behind it. Only as a `whole` text
it holds blanks; every step takes a character, so that the text's length is fuel enough -/
def wordParts (whole doubled : Bool) : Nat → List Char → Scanned Word
  | 0, cs => .ok (.done, cs)
  | fuel + 1, cs =>
    let go (front : Word → Word) (doubled : Bool) (rest : List Char) : Scanned Word :=
      (wordParts whole doubled fuel rest).map fun r => (front r.1, r.2)
    match doubled, cs with
    | true, [] => .error unterminated
    | false, [] => .ok (.done, [])
    | doubled, '\\' :: '\n' :: rest => go id doubled rest
    | doubled, '$' :: '(' :: '(' :: rest => match enclosed '(' ')' .none 0 [] rest with
      | some (expression, ')' :: rest) =>
        (wordParts true true fuel (expression ++ ['\x22'])).bind fun inner =>
          go (.number inner.1 doubled) doubled rest
      | _ => .error missingParentheses
    | doubled, '$' :: '(' :: rest => match enclosed '(' ')' .none 0 [] rest with
      | none => .error missingParenthesis
      | some (script, rest) => go (.output script doubled) doubled rest
    | doubled, '$' :: '\x7b' :: rest => match enclosed '\x7b' '\x7d' .none 0 [] rest with
      | none => .error missingBrace
      | some (inner, rest) => match parameter? inner with
        | none => .error badSubstitution
        | some (name, use, word) =>
          let doubledInside := doubled && !use.isTrim
          (wordParts true doubledInside fuel
            (if doubledInside then word ++ ['\x22'] else word)).bind
              fun inner => go (.value name use inner.1 doubled) doubled rest
    | doubled, '$' :: c :: rest =>
      if isNameStart c then
        go (.value (String.ofList (c :: rest.takeWhile isNamePart)) .plain .done doubled) doubled
          (rest.dropWhile isNamePart)
      else if isSpecial c then go (.value (String.ofList [c]) .plain .done doubled) doubled rest
      else go (.literal ['$'] doubled) doubled (c :: rest)
    | true, '\x22' :: rest => go id false rest
    | false, '\x22' :: rest => go (.literal [] true) true rest
    | true, '\\' :: c :: rest =>
      go (.literal (if escapable c then [c] else ['\\', c]) true) true rest
    | false, '\\' :: c :: rest => go (.literal [c] true) false rest
    | false, '\x27' :: rest =>
      let quoted := rest.takeWhile (· ≠ '\x27')
      match rest.drop quoted.length with
      | [] => .error unterminated
      | _ :: rest => go (.literal quoted true) false rest
    | doubled, c :: rest =>
      if c = backquote then match backquoted [] rest with
        | none => .error missingBackquote
        | some (script, rest) => go (.output script doubled) doubled rest
      else if !whole && !doubled && endsWord c then .ok (.done, c :: rest)
      else go (.literal [c] doubled) doubled rest

namespace Word

def scan (cs : List Char) : Scanned Word := wordParts false false (cs.length + 1) cs

/-- a text as a word, between double quotes if it is `quoted` -/
def ofText (quoted : Bool) (cs : List Char) : Except String Word :=
  (wordParts true quoted (cs.length + 2) (if quoted then cs ++ ['\x22'] else cs)).map (·.1)

/-- the text of a word that holds nothing but unquoted text -/
def plain? : Word → Option (List Char)
  | .done => some []
  | .literal text false rest => rest.plain?.map (text ++ ·)
  | _ => none

def isQuoted : Word → Bool
  | .done => false
  | .literal _ quoted rest | .value _ _ _ quoted rest | .output _ quoted rest
  | .number _ quoted rest => quoted || rest.isQuoted

/-- the unquoted text in front of an equals sign, and the word behind it -/
def splitEquals : List Char → Word → Option (List Char × Word)
  | name, .literal ['='] false rest => some (name.reverse, rest)
  | name, .literal [c] false rest => splitEquals (c :: name) rest
  | _, _ => none

def assignment? (w : Word) : Option (String × Word) :=
  match splitEquals [] w with
  | some (c :: rest, content) =>
    if isNameStart c ∧ rest.all isNamePart then some (String.ofList (c :: rest), content) else none
  | _ => none

end Word
end Succession.Shell
