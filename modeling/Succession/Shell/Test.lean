import Succession.Shell.Arithmetic
import Succession.Shell.Child

/-!
# Tests

Conditions on texts, numbers and files, with a grammar that decides from what follows an argument
whether it is an operator.

* `Condition.evaluate`     the truth of a condition, or what is wrong with it;
* `Condition.ofArguments`  the same for all arguments of a test.
-/

namespace Succession.Shell

/-- the truth of what has been read, and the arguments behind it with the last one that was read in
front -/
abbrev Judged := Except String (Bool × List String)

namespace Condition

def fileOperators : List String := ["-b", "-c", "-d", "-e", "-f", "-g", "-h", "-k", "-L", "-p",
  "-r", "-s", "-S", "-u", "-w", "-x", "-O", "-G"]

def unaryOperators : List String := ["-n", "-z", "-t"] ++ fileOperators

def numberOperators : List (String × (Int → Int → Bool)) :=
  [("-eq", (· = ·)), ("-ne", (· ≠ ·)), ("-gt", (· > ·)), ("-ge", (· ≥ ·)), ("-lt", (· < ·)),
    ("-le", (· ≤ ·))]

def binaryOperators : List String := ["=", "!=", "<", ">", "-nt", "-ot", "-ef"] ++
  numberOperators.map (·.1)

/-- what an argument is taken for -/
inductive Role where
  | missing
  | operand
  | unary (operator : String)
  | binary (operator : String)
  /-- a bracket or what joins conditions -/
  | mark (text : String)
deriving DecidableEq, Repr

/-- the role of the first argument, by those behind it -/
def role : List String → Role
  | [] => .missing
  | s :: behind =>
    let standsAlone := match behind with
      | [] => true
      | [_] => false
      | operator :: _ => binaryOperators.contains operator
    if unaryOperators.contains s then if standsAlone then .operand else .unary s
    else if binaryOperators.contains s then .binary s
    else if s = "(" then if behind = [] then .operand else .mark s
    else if ["!", "-a", "-o", ")"].contains s then .mark s
    else .operand

/-- a number in base ten, with a sign and blanks around it -/
def number (text : String) : Except String Int :=
  let cs := text.toList.dropWhile Expression.isBlank
  let (sign, cs) : Int × List Char := match cs with
    | '-' :: rest => (-1, rest)
    | '+' :: rest => (1, rest)
    | cs => (1, cs)
  let digits := cs.takeWhile Char.isDigit
  if digits ≠ [] ∧ (cs.drop digits.length).all Expression.isBlank then
    .ok (sign * Int.ofNat (Numeral.value digits))
  else .error ("Illegal number: " ++ text)

/-- whether the file at a path is what an operator asks for -/
def holdsOfFile (c : Child) (operator path : String) : Bool :=
  let id? := match c.fs.lookup c.workDir (toPath path) .target with
    | .ok (.node id) => some id
    | _ => none
  let isLink := match c.fs.lookup c.workDir (toPath path) .entry with
    | .ok (.node id) => match c.fs.node? id with
      | some (.link _) => true
      | _ => false
    | _ => false
  if operator = "-h" ∨ operator = "-L" then isLink
  else match id?.bind fun id => (c.fs.node? id).map (id, ·) with
    | none => false
    | some (id, node) => match operator, node with
      | "-d", .directory .. => true
      | "-x", .directory .. => true
      | "-x", .program _ => true
      | "-x", _ => c.fs.runnable.contains id
      | "-f", .program _ => true
      | "-f", .file _ => c.isNamed id
      | "-p", .file _ => !c.isNamed id
      | "-p", .pipe => true
      | "-c", .device _ => true
      | "-s", .file content => !content.isEmpty
      | "-s", .program _ => true
      | "-s", .directory .. => true
      | operator, _ => ["-e", "-r", "-w", "-O", "-G"].contains operator

def isSameFile (c : Child) (a b : String) : Bool :=
  match c.fs.lookup c.workDir (toPath a) .target, c.fs.lookup c.workDir (toPath b) .target with
  | .ok (.node a), .ok (.node b) => a = b
  | _, _ => false

def unary (c : Child) (operator operand : String) : Except String Bool :=
  match operator with
  | "-n" => .ok (operand ≠ "")
  | "-z" => .ok (operand = "")
  | "-t" => (number operand).map fun _ => false
  | operator => .ok (holdsOfFile c operator operand)

def binary (c : Child) (operator a b : String) : Except String Bool :=
  match operator with
  | "=" => .ok (a = b)
  | "!=" => .ok (a ≠ b)
  | "<" => .ok (a < b)
  | ">" => .ok (b < a)
  | "-ef" => .ok (isSameFile c a b)
  | operator => match numberOperators.lookup operator with
    | some relation => do return relation (← number a) (← number b)
    | none => .ok false

/-- the levels of a condition, from alternatives down to single tests -/
inductive Level where
  | alternatives
  | conjunction
  | negation
  | single

/-- reads a level of the condition in front. The answer's list begins with the last argument that
was read; every step goes down a level or takes an argument -/
def read (c : Child) : Nat → Level → Role → List String → Judged
  | 0, _, _, _ => .error "unexpected operator"
  | fuel + 1, .alternatives, r, arguments => do
    let (held, rest) ← read c fuel .conjunction r arguments
    if role (rest.drop 1) = .mark "-o" then
      let (more, rest) ← read c fuel .alternatives (role (rest.drop 2)) (rest.drop 2)
      return (held || more, rest)
    else return (held, rest)
  | fuel + 1, .conjunction, r, arguments => do
    let (held, rest) ← read c fuel .negation r arguments
    if role (rest.drop 1) = .mark "-a" then
      let (more, rest) ← read c fuel .conjunction (role (rest.drop 2)) (rest.drop 2)
      return (held && more, rest)
    else return (held, rest)
  | fuel + 1, .negation, r, arguments =>
    if r ≠ .mark "!" then read c fuel .single r arguments
    else do
      let next := role (arguments.drop 1)
      let (held, rest) ← read c fuel .negation next
        (if next = .missing then arguments else arguments.drop 1)
      return (!held, rest)
  | fuel + 1, .single, r, arguments => match r, arguments with
    | .missing, arguments => .ok (false, arguments)
    | .mark "(", _ :: inner =>
      if role inner = .mark ")" then .ok (false, inner)
      else do
        let (held, rest) ← read c fuel .alternatives (role inner) inner
        if role (rest.drop 1) = .mark ")" then return (held, rest.drop 1)
        else .error "closing paren expected"
    | .unary operator, _ :: operand :: rest => do
      return (← unary c operator operand, operand :: rest)
    | .unary operator, _ => .error (operator ++ ": argument expected")
    | _, a :: rest => match role rest, rest with
      | .binary operator, _ :: b :: rest => do
        return (← binary c operator a b, b :: rest)
      | .binary operator, _ => .error (operator ++ ": argument expected")
      | _, rest => .ok (a ≠ "", a :: rest)
    | _, [] => .ok (false, [])

/-- the truth of a condition that begins with an argument of some role -/
def evaluate (c : Child) (first : Role) (arguments : List String) : Except String Bool := do
  let (held, rest) ← read c (4 * arguments.length + 4) .alternatives first arguments
  match rest with
  | last :: _ :: _ => .error (last ++ ": unexpected operator")
  | _ => return held

/-- three arguments with an operator in the middle are a test of their own; else a negation in
front of three or four of them is one of all the others, and brackets around them change nothing.
Every step takes an argument -/
def ofArguments (c : Child) : Nat → List String → Except String Bool
  | 0, _ => .ok false
  | _, [] => .ok false
  | fuel + 1, arguments => match arguments with
    | [a, operator, b] =>
      if binaryOperators.contains operator then evaluate c .operand [a, operator, b]
      else inner fuel [a, operator, b]
    | [_, _, _, _] => inner fuel arguments
    | arguments => evaluate c (role arguments) arguments
where
  inner (fuel : Nat) (arguments : List String) : Except String Bool :=
    if arguments.head? = some "(" ∧ arguments.getLast? = some ")" then
      let arguments := (arguments.drop 1).dropLast
      evaluate c (role arguments) arguments
    else if arguments.head? = some "!" then
      (ofArguments c fuel (arguments.drop 1)).map (!·)
    else evaluate c (role arguments) arguments

end Condition
end Succession.Shell
