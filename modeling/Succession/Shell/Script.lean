import Succession.Shell.Token

/-!
# Shell scripts

The commands that a script's text stands for, read one line after another.

* `Redirection`, `Command`;
* `Reader.line`    the command on the next line of some tokens.
-/

namespace Succession.Shell

structure Redirection where
  descriptor : Nat
  kind : RedirectionKind
  target : Word
deriving DecidableEq, Repr

inductive Command where
  | skip
  | simple (line : Nat) (words : List Word) (redirections : List Redirection)
  | redirected (line : Nat) (body : Command) (redirections : List Redirection)
  | sequence (first second : Command)
  | andThen (first second : Command)
  | orElse (first second : Command)
  | pipe (first second : Command)
  | negate (body : Command)
  | background (body : Command)
  | choose (condition yes no : Command)
  /-- runs the body as long as the condition succeeds, or as long as it fails -/
  | loop (whileFails : Bool) (condition body : Command)
  /-- over some words, or over the arguments -/
  | each (name : String) (words : Option (List Word)) (body : Command)
  /-- the body if one of the patterns matches, else what follows -/
  | branch (subject : Word) (patterns : List Word) (body rest : Command)
  | subshell (body : Command)
  | define (name : String) (body : Command)
deriving DecidableEq, Repr

structure Complaint where
  /-- nothing if only the lines behind it tell where it is -/
  line : Option Nat
  /-- how many lines are behind it -/
  behind : Nat
  text : String
deriving Repr

abbrev Reader := StateT (List Token) (Except Complaint)

/-! ## what the next tokens are -/

def tokenName : List Token → String
  | [] => "end of file"
  | .word _ w :: _ =>
    let reserved := ["if", "then", "else", "elif", "fi", "for", "while", "until", "do", "done",
      "case", "esac", "\x7b", "\x7d", "!", "in"]
    match w.plain? with
    | some text =>
      if reserved.contains (String.ofList text) then "\"" ++ String.ofList text ++ "\"" else "word"
    | none => "word"
  | .redirection .. :: _ => "redirection"
  | .operator "\n" :: _ => "newline"
  | .operator text :: _ => "\"" ++ text ++ "\""
  | .bad .. :: _ => "word"

/-- the line of the first token, or of one behind it on the same line -/
def lineOf? : List Token → Option Nat
  | .word line _ :: _ | .bad line _ :: _ => some line
  | .operator "\n" :: _ => none
  | _ :: rest => lineOf? rest
  | [] => none

def complaint (tokens : List Token) (text : String) : Complaint :=
  ⟨lineOf? tokens, (tokens.drop 1).count (.operator "\n"), text⟩

def isName (text : String) : Bool :=
  match text.toList with
  | c :: rest => isNameStart c && rest.all isNamePart
  | [] => false

def text? : List Token → Option String
  | .word _ w :: _ => w.plain?.map String.ofList
  | _ => none

def operator? : List Token → Option String
  | .operator text :: _ => some text
  | _ => none

/-- ends a list of commands that is part of another command -/
def endsList (tokens : List Token) : Bool :=
  match tokens with
  | [] => true
  | .operator text :: _ => text = ")" || text = ";;"
  | tokens => match text? tokens with
    | some text =>
      ["then", "else", "elif", "fi", "do", "done", "esac", "\x7d"].contains text
    | none => false

namespace Reader

/-- the next token cannot be there; `expected` is what should have been, if that is known -/
def unexpected {α : Type} (expected : String) : Reader α := fun tokens => match tokens with
  | .bad line text :: _ => .error ⟨some line, 0, text⟩
  | tokens => .error (complaint tokens ("Syntax error: " ++ tokenName tokens ++ " unexpected" ++
      (if expected = "" then "" else " (expecting \"" ++ expected ++ "\")")))

def complain {α : Type} (text : String) : Reader α := fun tokens =>
  .error (complaint tokens ("Syntax error: " ++ text))

/-- the next token is a reserved word or an operator -/
def sees (word : String) : Reader Bool := do
  let tokens ← get
  return text? tokens = some word || operator? tokens = some word

def take : Reader Unit := modify (·.drop 1)

/-- takes a reserved word or an operator if it is there -/
def accept (word : String) : Reader Bool := do
  if ← sees word then
    take
    return true
  return false

def expect (word : String) : Reader Unit := do
  if ¬ (← accept word) then unexpected word

def skipLines : Reader Unit := modify (·.dropWhile (· = .operator "\n"))

/-! ## commands -/

/-- the words and redirections of a simple command -/
def simpleParts (words : List Word) (redirections : List Redirection) :
    List Token → (List Word × List Redirection) × List Token
  | .word _ w :: rest => simpleParts (words ++ [w]) redirections rest
  | .redirection descriptor kind :: .word _ w :: rest =>
    simpleParts words (redirections ++ [⟨descriptor, kind, w⟩]) rest
  | tokens => ((words, redirections), tokens)

def trailing (redirections : List Redirection) : List Token → List Redirection × List Token
  | .redirection descriptor kind :: .word _ w :: rest =>
    trailing (redirections ++ [⟨descriptor, kind, w⟩]) rest
  | tokens => (redirections, tokens)

def refuseRedirection : Reader Unit := do
  if let .redirection .. :: rest ← get then
    set rest
    unexpected ""

def simple : Reader Command := do
  let line := (lineOf? (← get)).getD 1
  let (words, redirections) ← modifyGet (simpleParts [] [])
  refuseRedirection
  if words = [] ∧ redirections = [] then unexpected ""
  return .simple line words redirections

/-- a compound command with the redirections behind it -/
def withTrailing (body : Reader Command) : Reader Command := do
  let line := (lineOf? (← get)).getD 1
  take
  let body ← body
  let redirections ← modifyGet (trailing [])
  refuseRedirection
  return if redirections = [] then body else .redirected line body redirections

def listWords : Reader (List Word) := do
  let ((words, redirections), rest) := simpleParts [] [] (← get)
  set rest
  if redirections ≠ [] then unexpected ""
  if ¬ (← accept ";") ∧ ¬ (← accept "\n") then unexpected ""
  return words

def patterns (words : List Word) : List Token → Option (List Word × List Token)
  | .word _ w :: .operator "|" :: rest => patterns (words ++ [w]) rest
  | .word _ w :: .operator ")" :: rest => some (words ++ [w], rest)
  | _ => none

/-- the levels of a script, from lists down to single commands -/
inductive Level where
  /-- commands one after another; only inside of another command over several lines -/
  | list (inner : Bool)
  | conditions
  /-- what follows the first pipeline of a list of conditions -/
  | moreConditions (first : Command)
  | pipeline
  | command
  /-- what follows the first word of a choice -/
  | choice
  | branches (subject : Word)

/-- reads one level; every step goes down a level or takes a token, and no token is looked at on
more than eight levels -/
def level : Nat → Level → Reader Command
  | 0, _ => unexpected ""
  | fuel + 1, .list inner => do
    if inner then skipLines
    if endsList (← get) then return .skip
    if (← get).head? = some (.operator "\n") then return .skip
    let first ← level fuel .conditions
    if ← accept ";" then return .sequence first (← level fuel (.list inner))
    if ← accept "&" then return .sequence (.background first) (← level fuel (.list inner))
    if inner then
      if ← accept "\n" then return .sequence first (← level fuel (.list inner))
    return first
  | fuel + 1, .conditions => do level fuel (.moreConditions (← level fuel .pipeline))
  | fuel + 1, .moreConditions first => do
    if ← accept "&&" then
      skipLines
      level fuel (.moreConditions (.andThen first (← level fuel .pipeline)))
    else if ← accept "||" then
      skipLines
      level fuel (.moreConditions (.orElse first (← level fuel .pipeline)))
    else return first
  | fuel + 1, .pipeline => do
    if ← accept "!" then return .negate (← level fuel .pipeline)
    let first ← level fuel .command
    if ← accept "|" then
      skipLines
      return .pipe first (← level fuel .pipeline)
    return first
  | fuel + 1, .command => do
    let tokens ← get
    let inner : Reader Command := level fuel (.list true)
    let loop (whileFails : Bool) : Reader Command := do
      let condition ← inner
      expect "do"
      let body ← inner
      expect "done"
      return .loop whileFails condition body
    match text? tokens, operator? tokens with
    | some "if", _ => withTrailing (level fuel .choice)
    | some "while", _ => withTrailing (loop false)
    | some "until", _ => withTrailing (loop true)
    | some "for", _ => withTrailing do
      let some name := (text? (← get)).filter isName | complain "Bad for loop variable"
      take
      skipLines
      let words ← if ← accept "in" then some <$> listWords else do
        let _ ← accept ";"
        pure none
      skipLines
      expect "do"
      let body ← inner
      expect "done"
      return .each name words body
    | some "case", _ => withTrailing do
      let .word _ subject :: rest ← get | unexpected ""
      set rest
      skipLines
      expect "in"
      level fuel (.branches subject)
    | some "\x7b", _ => withTrailing do
      let body ← inner
      expect "\x7d"
      return body
    | none, some "(" => withTrailing do
      let body ← inner
      expect ")"
      return .subshell body
    | none, some _ => unexpected ""
    | some name, _ => match if name.contains '=' then [] else tokens.drop 1 with
      | .operator "(" :: rest => do
        set rest
        expect ")"
        skipLines
        return .define name (← level fuel .command)
      | _ => if endsList tokens || name = "in" then unexpected "" else simple
    | none, none => simple
  | fuel + 1, .choice => do
    let condition ← level fuel (.list true)
    expect "then"
    let yes ← level fuel (.list true)
    if ← accept "elif" then return .choose condition yes (← level fuel .choice)
    let no ← if ← accept "else" then level fuel (.list true) else pure .skip
    expect "fi"
    return .choose condition yes no
  | fuel + 1, .branches subject => do
    skipLines
    if ← accept "esac" then return .skip
    let _ ← accept "("
    let some (patterns, rest) := patterns [] (← get) | unexpected ")"
    set rest
    let body ← level fuel (.list true)
    if ← accept ";;" then return .branch subject patterns body (← level fuel (.branches subject))
    if ¬ (← accept "esac") then unexpected ";;"
    return .branch subject patterns body .skip

def line : Reader Command := do
  skipLines
  let command ← level (8 * (← get).length + 8) (.list false)
  if (← get) ≠ [] ∧ ¬ (← accept "\n") then unexpected ""
  return command

end Reader
end Succession.Shell
