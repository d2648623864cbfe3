import Succession.Shell.Word

/-!
# Arithmetic of scripts

Expressions over whole numbers of 64 bits and the values of variables, some of which they set.

* `Expression`               what a text stands for;
* `Expression.ofText`        reads an expression;
* `Expression.value`         its value, and what it sets.
-/

namespace Succession.Shell

inductive Expression where
  | number (n : Int)
  | variable (name : String)
  | unary (operator : String) (operand : Expression)
  | binary (operator : String) (left right : Expression)
  | choose (condition yes no : Expression)
  /-- sets a variable, to what an operator makes of it if there is one -/
  | assign (name operator : String) (value : Expression)
deriving Repr

namespace Expression

/-! ## numbers -/

def words : Nat := 18446744073709551616

def greatest : Nat := 9223372036854775807

/-- the word that stands for a number -/
def word (n : Int) : Nat := (n.emod words).toNat

/-- the number that a text begins with: in base ten, eight behind a zero, or sixteen behind a zero
and an x; no number is greater than the greatest of 64 bits -/
def numeral (text : List Char) : Int × List Char :=
  let digit (c : Char) : Nat :=
    if c.isDigit then c.toNat - '0'.toNat
    else if 'a' ≤ c ∧ c ≤ 'f' then c.toNat - 'a'.toNat + 10
    else if 'A' ≤ c ∧ c ≤ 'F' then c.toNat - 'A'.toNat + 10
    else 16
  let inBase (base : Nat) (text : List Char) : Int × List Char :=
    let digits := text.takeWhile fun c => digit c < base
    (Int.ofNat (min greatest (digits.foldl (fun n c => n * base + digit c) 0)),
      text.drop digits.length)
  match text with
  | '0' :: x :: c :: rest =>
    if (x = 'x' ∨ x = 'X') ∧ digit c < 16 then inBase 16 (c :: rest) else inBase 8 text
  | '0' :: rest => inBase 8 ('0' :: rest)
  | text => inBase 10 text

def isBlank (c : Char) : Bool := c = ' ' || c = '\t' || c = '\n'

/-- a number with a sign and blanks around it, nothing if there is more -/
def integer? (text : List Char) : Option Int :=
  let unsigned (text : List Char) : Option Int :=
    match text with
    | c :: _ =>
      let (n, rest) := numeral text
      if c.isDigit ∧ rest.all isBlank then some n else none
    | [] => none
  match text.dropWhile isBlank with
  | '-' :: rest => (unsigned rest).map (-·)
  | '+' :: rest => unsigned rest
  | rest => unsigned rest

/-! ## reading -/

/-- the operators between two operands, the loosest first -/
def levels : List (List String) := [["||"], ["&&"], ["|"], ["^"], ["&"], ["==", "!="],
  ["<=", ">=", "<", ">"], ["<<", ">>"], ["+", "-"], ["*", "/", "%"]]

/-- sets a variable, with the operator that it is set by -/
def assignments : List (String × String) := [("=", ""), ("+=", "+"), ("-=", "-"), ("*=", "*"),
  ("/=", "/"), ("%=", "%"), ("<<=", "<<"), (">>=", ">>"), ("&=", "&"), ("|=", "|"), ("^=", "^")]

/-- the operators of more than one character, those before which are the beginning of another -/
def longOperators : List String := ["<<=", ">>=", "<<", ">>", "<=", ">=", "==", "!=", "&&", "||",
  "+=", "-=", "*=", "/=", "%=", "&=", "|=", "^="]

inductive Token where
  | number (n : Int)
  | name (s : String)
  | operator (s : String)
deriving DecidableEq, Repr

/-- the tokens of a text; every step takes a character -/
def scan : Nat → List Char → List Token
  | 0, _ => []
  | _, [] => []
  | fuel + 1, c :: rest =>
    if isBlank c then scan fuel rest
    else if c.isDigit then
      let (n, behind) := numeral (c :: rest)
      .number n :: scan fuel behind
    else if isNamePart c then
      .name (String.ofList (c :: rest.takeWhile isNamePart)) ::
        scan fuel (rest.dropWhile isNamePart)
    else
      let long := longOperators.find? fun o => o.toList.isPrefixOf (c :: rest)
      let text := (long.map String.toList).getD [c]
      .operator (String.ofList text) :: scan fuel ((c :: rest).drop text.length)

/-- an expression and the tokens behind it, or what is missing -/
abbrev Reading := Except String (Expression × List Token)

def expected {α : Type} (what : String) : Except String α := .error ("expecting " ++ what)

/-- reads operands and the operators of some levels between them, or a whole expression; every step
goes down a level or takes a token -/
def read : Nat → Option (List (List String)) → List Token → Reading
  | 0, _, _ => expected "primary"
  | fuel + 1, none, tokens =>
    let conditional (_ : Unit) : Reading := do
      let (first, rest) ← read fuel (some levels) tokens
      match rest with
      | .operator "?" :: rest =>
        let (yes, rest) ← read fuel none rest
        match rest with
        | .operator ":" :: rest =>
          let (no, rest) ← read fuel none rest
          return (.choose first yes no, rest)
        | _ => expected "':'"
      | rest => return (first, rest)
    match tokens with
    | .name s :: .operator o :: rest => match assignments.lookup o with
      | some operator => do
        let (value, rest) ← read fuel none rest
        return (.assign s operator value, rest)
      | none => conditional ()
    | _ => conditional ()
  | fuel + 1, some [], tokens => match tokens with
    | .number n :: rest => return (.number n, rest)
    | .name s :: rest => return (.variable s, rest)
    | .operator "(" :: rest => do
      let (inner, rest) ← read fuel none rest
      match rest with
      | .operator ")" :: rest => return (inner, rest)
      | _ => expected "')'"
    | .operator o :: rest =>
      if ["-", "+", "!", "~"].contains o then do
        let (operand, rest) ← read fuel (some []) rest
        return (.unary o operand, rest)
      else expected "primary"
    | [] => expected "primary"
  | fuel + 1, some (level :: tighter), tokens => do
    let (first, rest) ← read fuel (some tighter) tokens
    more fuel level tighter first rest
where
  /-- what follows the first operand of a level -/
  more (fuel : Nat) (level : List String) (tighter : List (List String)) (first : Expression)
      (tokens : List Token) : Reading :=
    match fuel, tokens with
    | fuel + 1, .operator o :: rest =>
      if level.contains o then do
        let (second, rest) ← read fuel (some tighter) rest
        more fuel level tighter (.binary o first second) rest
      else return (first, tokens)
    | _, tokens => return (first, tokens)

def ofText (text : List Char) : Except String Expression := do
  let tokens := scan (text.length + 1) text
  let (e, rest) ← read (16 * (tokens.length + 1)) none tokens
  if rest = [] then return e else expected "EOF"

/-! ## evaluating -/

def truth (b : Bool) : Int := if b then 1 else 0

/-- the value of an operator between two numbers, unless it divides by zero -/
def apply (operator : String) (a b : Int) : Except String Int :=
  let wrapped (n : Int) : Except String Int := .ok (n.bmod words)
  match operator with
  | "+" => wrapped (a + b)
  | "-" => wrapped (a - b)
  | "*" => wrapped (a * b)
  | "/" =>
    if b = 0 then .error "division by zero"
    else if b = -1 ∧ a < -(greatest : Int) then .ok greatest
    else .ok (a.tdiv b)
  | "%" => if b = 0 then .error "division by zero" else .ok (a.tmod b)
  | "<<" => wrapped (a * Int.ofNat (Nat.pow 2 (word b % 64)))
  | ">>" => wrapped (a.fdiv (Int.ofNat (Nat.pow 2 (word b % 64))))
  | "&" => wrapped (Nat.land (word a) (word b))
  | "|" => wrapped (Nat.lor (word a) (word b))
  | "^" => wrapped (Nat.xor (word a) (word b))
  | "==" => .ok (truth (a = b))
  | "!=" => .ok (truth (a ≠ b))
  | "<" => .ok (truth (a < b))
  | "<=" => .ok (truth (a ≤ b))
  | ">" => .ok (truth (a > b))
  | ">=" => .ok (truth (a ≥ b))
  | _ => .ok b

/-- what is known of the variables that an expression has set -/
abbrev Computing := StateT (List (String × Int)) (Except String)

/-- the value of a variable: what the expression has set it to, or what it was -/
def currentValue (known : String → Except String Int) (name : String) : Computing Int := do
  match (← get).lookup name with
  | some n => return n
  | none => known name

/-- the value of an expression over the values of variables; an operand that decides nothing is not
computed -/
def value (known : String → Except String Int) : Expression → Computing Int
  | .number n => return n
  | .variable name => currentValue known name
  | .unary operator operand => do
    let n ← operand.value known
    return match operator with
    | "-" => (-n).bmod words
    | "!" => truth (n = 0)
    | "~" => -n - 1
    | _ => n
  | .binary operator left right => do
    let a ← left.value known
    match operator with
    | "||" => if a ≠ 0 then return 1 else return truth ((← right.value known) ≠ 0)
    | "&&" => if a = 0 then return 0 else return truth ((← right.value known) ≠ 0)
    | operator => apply operator a (← right.value known)
  | .choose condition yes no => do
    if (← condition.value known) ≠ 0 then yes.value known else no.value known
  | .assign name operator operand => do
    let n ← operand.value known
    let n ← if operator = "" then pure n else do apply operator (← currentValue known name) n
    modify ((name, n) :: ·)
    return n

end Expression
end Succession.Shell
