import Succession.Shell.Word

/-!
# Tokens of a script

Words, redirections and operators. What is no script any more becomes a last token with a complaint,
so that the commands in front of it can still be run.

* `Token`, `RedirectionKind`;
* `Token.scan`   the tokens of a text.
-/

namespace Succession.Shell

inductive RedirectionKind where
  | input
  | output
  | append
  /-- for reading and writing -/
  | both
  /-- a copy of another descriptor -/
  | duplicate
  /-- the text that follows the line -/
  | document
deriving DecidableEq, Repr

inductive Token where
  | word (line : Nat) (word : Word)
  /-- its file, its descriptor or its text is the next word -/
  | redirection (descriptor : Nat) (kind : RedirectionKind)
  | operator (text : String)
  | bad (line : Nat) (complaint : String)
deriving DecidableEq, Repr

namespace Token

/-- a redirection operator, its own descriptor, and what is behind it -/
def redirection? : List Char → Option (RedirectionKind × Nat × List Char)
  | '>' :: '>' :: rest => some (.append, 1, rest)
  | '>' :: '&' :: rest => some (.duplicate, 1, rest)
  | '>' :: '|' :: rest => some (.output, 1, rest)
  | '<' :: '&' :: rest => some (.duplicate, 0, rest)
  | '<' :: '>' :: rest => some (.both, 0, rest)
  | '<' :: '<' :: rest => some (.document, 0, rest)
  | '>' :: rest => some (.output, 1, rest)
  | '<' :: rest => some (.input, 0, rest)
  | _ => none

def operator? : List Char → Option (String × List Char)
  | ';' :: ';' :: rest => some (";;", rest)
  | '&' :: '&' :: rest => some ("&&", rest)
  | '|' :: '|' :: rest => some ("||", rest)
  | '\n' :: rest => some ("\n", rest)
  | c :: rest => if ";&|()".toList.contains c then some (String.ofList [c], rest) else none
  | [] => none

/-- the text of a word without its quotes, as it ends a document -/
def delimiter : Word → List Char
  | .literal text _ rest => text ++ delimiter rest
  | _ => []

/-- the lines up to the one that is a delimiter, and what is behind it -/
def documentLines (tabs : Bool) (delimiter : List Char) : Nat → List Char → List Char × List Char
  | 0, _ => ([], [])
  | _, [] => ([], [])
  | fuel + 1, cs =>
    let cs := if tabs then cs.dropWhile (· = '\t') else cs
    let line := cs.takeWhile (· ≠ '\n')
    let behind := cs.drop (line.length + 1)
    if line = delimiter then ([], behind)
    else
      let (more, behind) := documentLines tabs delimiter fuel behind
      (line ++ (if line.length < cs.length then ['\n'] else []) ++ more, behind)

/-- the text of a document as a word between double quotes, where a quote is nothing special -/
def documentWord (verbatim : Bool) (text : List Char) : Except String Word :=
  if verbatim then .ok (.literal text true .done)
  else Word.ofText true (text.flatMap fun c => if c = '\x22' then ['\\', c] else [c])

/-- how many lines end in what was read -/
def linesIn (before after : List Char) : Nat :=
  (before.take (before.length - after.length)).count '\n'

/-- the tokens of a text; every step takes a character -/
def scanFrom (line : Nat) : Nat → List Char → List Token
  | 0, _ => []
  | fuel + 1, cs => match cs with
    | [] => []
    | ' ' :: rest | '\t' :: rest => scanFrom line fuel rest
    | '\\' :: '\n' :: rest => scanFrom (line + 1) fuel rest
    | '#' :: rest => scanFrom line fuel (rest.dropWhile (· ≠ '\n'))
    | cs => match operator? cs with
      | some (text, rest) =>
        .operator text :: scanFrom (if text = "\n" then line + 1 else line) fuel rest
      | none =>
        let digits := (cs.take 1).takeWhile Char.isDigit
        match redirection? (cs.drop digits.length) with
        | none => match Word.scan cs with
          | .error complaint => [.bad (line + cs.count '\n') complaint]
          | .ok (w, rest) => .word line w :: scanFrom (line + linesIn cs rest) fuel rest
        | some (kind, descriptor, rest) =>
          let descriptor := if digits = [] then descriptor else Numeral.value digits
          if kind ≠ .document then .redirection descriptor kind :: scanFrom line fuel rest
          else
            let tabs := rest.head? = some '-'
            let rest := (if tabs then rest.drop 1 else rest).dropWhile (· = ' ')
            if rest.head?.all endsWord then
              .redirection descriptor .document :: scanFrom line fuel rest
            else match Word.scan rest with
            | .error complaint => [.bad line complaint]
            | .ok (name, rest) =>
              let sameLine := rest.takeWhile (· ≠ '\n')
              let (text, behind) := documentLines tabs (delimiter name) rest.length
                (rest.drop (sameLine.length + 1))
              match documentWord name.isQuoted text with
              | .error complaint => [.bad line complaint]
              | .ok w => .redirection descriptor .document :: .word line w ::
                  scanFrom line fuel (sameLine ++ '\n' :: behind)

def scan (cs : List Char) : List Token := scanFrom 1 (cs.length + 2) cs

end Token
end Succession.Shell
