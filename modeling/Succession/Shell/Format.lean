import Succession.Shell.Arithmetic

/-!
# Formats

Texts with backslash sequences and with conversions of arguments.

* `Escapes.read`     what a backslash sequence stands for;
* `Escapes.expand`   a text without its backslash sequences;
* `Format.render`    what a format makes of some arguments.
-/

namespace Succession.Shell

namespace Escapes

def controls : List (Char × Char) := [('a', '\x07'), ('b', '\x08'), ('e', '\x1B'), ('f', '\x0C'),
  ('n', '\n'), ('r', '\r'), ('t', '\t'), ('v', '\x0B'), ('\\', '\\')]

def isOctal (c : Char) : Bool := '0' ≤ c && c ≤ '7'

def octalValue (digits : List Char) : Nat :=
  digits.foldl (fun n c => n * 8 + (c.toNat - '0'.toNat)) 0

/-- the character that a backslash sequence stands for, and what is behind it; a backslash in front
of anything else stands for itself -/
def read (behind : List Char) : Char × List Char :=
  let digits := (behind.take 3).takeWhile isOctal
  match digits, behind with
  | [], c :: rest => match controls.lookup c with
    | some control => (control, rest)
    | none => ('\\', behind)
  | [], [] => ('\\', [])
  | digits, behind => (Char.ofNat (octalValue digits % 256), behind.drop digits.length)

/-- a text without its backslash sequences, and whether one of them ends all output; octal digits
may follow a zero of their own. Every step takes a character -/
def expandFrom : Nat → List Char → List Char × Bool
  | 0, _ => ([], false)
  | _, [] => ([], false)
  | _ + 1, '\\' :: 'c' :: _ => ([], true)
  | fuel + 1, '\\' :: behind =>
    let (c, rest) := read (match behind with
      | '0' :: d :: more => if isOctal d then d :: more else behind
      | behind => behind)
    let (text, ended) := expandFrom fuel rest
    (c :: text, ended)
  | fuel + 1, c :: rest =>
    let (text, ended) := expandFrom fuel rest
    (c :: text, ended)

def expand (text : String) : String × Bool :=
  let (cs, ended) := expandFrom (text.length + 1) text.toList
  (String.ofList cs, ended)

end Escapes

structure Rendered where
  text : String
  complaints : List String
  status : Nat
  /-- arguments that are left -/
  left : List String
  /-- nothing more is written -/
  ended : Bool

namespace Format

structure Layout where
  left : Bool
  plus : Bool
  space : Bool
  alternative : Bool
  zero : Bool
  width : Nat
  precision : Option Nat

def padded (o : Layout) (text : String) : String :=
  let blanks := String.ofList (List.replicate (o.width - text.length) ' ')
  if o.left then text ++ blanks else blanks ++ text

/-- a number of some base, with what is in front of its digits -/
def number (o : Layout) (mark : String) (digits : String) : String :=
  let least := o.precision.getD 0
  let digits := String.ofList (List.replicate (least - digits.length) '0') ++ digits
  let fill := o.width - (mark.length + digits.length)
  let zeros := if o.zero && !o.left && o.precision.isNone then fill else 0
  padded o (mark ++ String.ofList (List.replicate zeros '0') ++ digits)

/-- the number that an argument stands for, and a complaint if it is none -/
def numeric (argument : String) : Int × List String :=
  match argument.toList with
  | '\x27' :: rest | '\x22' :: rest => (((rest.head?.map Char.toNat).getD 0 : Nat), [])
  | text =>
    let text := text.dropWhile Expression.isBlank
    let (sign, digits) : Int × List Char := match text with
      | '-' :: rest => (-1, rest)
      | '+' :: rest => (1, rest)
      | rest => (1, rest)
    let (n, rest) := Expression.numeral digits
    if argument = "" then (0, [])
    else if rest.length = digits.length then (0, [argument ++ ": expected numeric value"])
    else (sign * n, if rest = [] then [] else [argument ++ ": not completely converted"])

def digits (upper : Bool) (base n : Nat) : String :=
  String.ofList ((Nat.toDigits base n).map fun c => if upper then c.toUpper else c)

/-- what a conversion makes of an argument; nothing if there is no such conversion -/
def convert (o : Layout) (conversion : Char) (argument : Option String) :
    Option (String × List String × Bool) :=
  let text := argument.getD ""
  let (n, complaints) := numeric text
  let unsigned : Nat := Expression.word n
  let cutOff (text : String) : String := match o.precision with
    | some limit => String.ofList (text.toList.take limit)
    | none => text
  match conversion with
  | 's' => some (padded o (cutOff text), [], false)
  | 'b' =>
    let (text, ended) := Escapes.expand text
    some (padded o (cutOff text), [], ended)
  | 'c' => some (padded o (String.ofList [(text.toList.head?).getD '\x00']), [], false)
  | 'd' | 'i' =>
    let mark := if n < 0 then "-" else if o.plus then "+" else if o.space then " " else ""
    some (number o mark (toString n.natAbs), complaints, false)
  | 'u' => some (number o "" (toString unsigned), complaints, false)
  | 'o' => some (number o (if o.alternative then "0" else "") (digits false 8 unsigned),
      complaints, false)
  | 'x' => some (number o (if o.alternative ∧ n ≠ 0 then "0x" else "")
      (digits false 16 unsigned), complaints, false)
  | 'X' => some (number o (if o.alternative ∧ n ≠ 0 then "0X" else "")
      (digits true 16 unsigned), complaints, false)
  | _ => none

/-- a width or a precision, which an argument may tell -/
def measure (cs : List Char) (arguments : List String) : Int × List Char × List String :=
  match cs, arguments with
  | '*' :: rest, [] => (0, rest, [])
  | '*' :: rest, argument :: more => ((numeric argument).1, rest, more)
  | cs, arguments =>
    let digits := cs.takeWhile Char.isDigit
    (Numeral.value digits, cs.drop digits.length, arguments)

/-- one pass over a format; every step takes a character -/
def pass : Nat → List Char → List String → Rendered
  | 0, _, arguments => ⟨"", [], 0, arguments, false⟩
  | _, [], arguments => ⟨"", [], 0, arguments, false⟩
  | fuel + 1, '%' :: '%' :: rest, arguments =>
    let r := pass fuel rest arguments
    { r with text := "%" ++ r.text }
  | fuel + 1, '%' :: rest, arguments =>
    let flags := rest.takeWhile fun c => "-+ #0".toList.contains c
    let (width, behind, arguments) := measure (rest.drop flags.length) arguments
    let (precision, behind, arguments) : Option Nat × List Char × List String := match behind with
      | '.' :: behind =>
        let (precision, behind, arguments) := measure behind arguments
        (some precision.toNat, behind, arguments)
      | behind => (none, behind, arguments)
    let layout : Layout := ⟨flags.contains '-' || width < 0, flags.contains '+',
      flags.contains ' ', flags.contains '#', flags.contains '0', width.natAbs, precision⟩
    match behind with
    | [] => ⟨"", ["missing format character"], 2, [], true⟩
    | conversion :: behind => match convert layout conversion arguments.head? with
      | none =>
        let directive := '%' :: rest.take (rest.length - behind.length)
        ⟨"", [String.ofList directive ++ ": invalid directive"], 2, [], true⟩
      | some (text, complaints, ended) =>
        if ended then ⟨text, complaints, 0, [], true⟩
        else
          let r := pass fuel behind arguments.tail
          { r with
            text := text ++ r.text
            complaints := complaints ++ r.complaints
            status := if complaints = [] then r.status else max 1 r.status }
  | fuel + 1, '\\' :: rest, arguments =>
    let (c, rest) := Escapes.read rest
    let r := pass fuel rest arguments
    { r with text := String.ofList [c] ++ r.text }
  | fuel + 1, c :: rest, arguments =>
    let r := pass fuel rest arguments
    { r with text := String.ofList [c] ++ r.text }

/-- passes over a format until no argument is left or a pass took none, at most `limit` of them -/
def passes (template : List Char) : Nat → List String → Rendered
  | 0, left => ⟨"", [], 0, left, false⟩
  | limit + 1, arguments =>
    let r := pass (template.length + 1) template arguments
    if r.ended ∨ r.left = [] ∨ r.left.length = arguments.length then r
    else
      let more := passes template limit r.left
      { more with
        text := r.text ++ more.text
        complaints := r.complaints ++ more.complaints
        status := max r.status more.status }

def render (template : String) (arguments : List String) : Rendered :=
  passes template.toList (arguments.length + 1) arguments

end Format
end Succession.Shell
