import Succession.Text.Hex
import Succession.Text.Numeral
import Succession.Toml.Value

/-!
# TOML lexemes

The pieces of a TOML text below arrays and tables: white space and line ends, strings in their four
forms, numbers, dates and times. A parser answers with what it read and the text behind it.
-/

namespace Succession.Toml

abbrev Parser (α : Type) := List Char → Option (α × List Char)

/-- `p` as often as it reads something, at most once for each character of `limit` -/
def manyWithin {α : Type} (p : Parser α) (limit text : List Char) : List α × List Char :=
  match limit with
  | [] => ([], text)
  | _ :: limit =>
    match p text with
    | none => ([], text)
    | some (a, rest) =>
      match manyWithin p limit rest with
      | (as, rest) => (a :: as, rest)

/-- `p`, which takes a character whenever it reads something, as often as it does -/
def many {α : Type} (p : Parser α) (text : List Char) : List α × List Char :=
  manyWithin p text text

/-! ## white space, comments and line ends -/

def isSpace (c : Char) : Bool := c = ' ' || c = '\t'

def skipSpace (text : List Char) : List Char := text.dropWhile isSpace

def newline : Parser Unit
  | '\n' :: rest => some ((), rest)
  | '\r' :: '\n' :: rest => some ((), rest)
  | _ => none

/-- what may stand in a comment: no control character but the tabulator -/
def isCommentChar (c : Char) : Bool := c = '\t' || (0x20 ≤ c.toNat && c.toNat ≠ 0x7F)

def skipComment : List Char → List Char
  | '#' :: rest => rest.dropWhile isCommentChar
  | text => text

/-- the end of the line, or of the text -/
def lineEnd : Parser Unit
  | [] => some ((), [])
  | text => newline text

/-- space, a comment and the end of the line -/
def lineTrailing (text : List Char) : Option (List Char) :=
  (lineEnd (skipComment (skipSpace text))).map (·.2)

/-- a space, or a line end with the comment before it -/
def spaceOrLine : Parser Unit
  | c :: rest => if isSpace c then some ((), rest) else newline (skipComment (c :: rest))
  | [] => none

/-- spaces, comments and line ends, as they may stand between the items of an array -/
def skipLines (text : List Char) : List Char := (many spaceOrLine text).2

/-! ## strings -/

def isBasicChar (c : Char) : Bool := isCommentChar c && c ≠ '\x22' && c ≠ '\\'

def isLiteralChar (c : Char) : Bool := isCommentChar c && c ≠ '\x27'

/-- the character of a code point in `digits` hexadecimal digits -/
def codePoint (digits : Nat) : Parser Char := fun text => do
  let ds := text.take digits
  if ds.length ≠ digits then none
  let values ← ds.mapM Hex.value?
  let n := values.foldl (fun n d => n * 16 + d) 0
  if n < 0xD800 ∨ (0xDFFF < n ∧ n < 0x110000) then some (Char.ofNat n, text.drop digits) else none

/-- what follows a backslash -/
def escape : Parser Char
  | 'b' :: rest => some ('\x08', rest)
  | 'f' :: rest => some ('\x0C', rest)
  | 'n' :: rest => some ('\n', rest)
  | 'r' :: rest => some ('\r', rest)
  | 't' :: rest => some ('\t', rest)
  | '\x22' :: rest => some ('\x22', rest)
  | '\\' :: rest => some ('\\', rest)
  | 'u' :: rest => codePoint 4 rest
  | 'U' :: rest => codePoint 8 rest
  | _ => none

def basicChar : Parser Char
  | '\\' :: rest => escape rest
  | c :: rest => if isBasicChar c then some (c, rest) else none
  | [] => none

def literalChar : Parser Char
  | c :: rest => if isLiteralChar c then some (c, rest) else none
  | [] => none

/-- characters of one line up to `quote` -/
def lineString (quote : Char) (char : Parser Char) : Parser String := fun text =>
  match many char text with
  | (chars, c :: rest) => if c = quote then some (String.ofList chars, rest) else none
  | _ => none

/-- a backslash at the end of a line takes all white space up to the next character with it -/
def lineContinuation : Parser Unit := fun text => do
  let (_, rest) ← newline (skipSpace text)
  let blank : Parser Unit
    | c :: rest => if isSpace c then some ((), rest) else newline (c :: rest)
    | [] => none
  return ((), (many blank rest).2)

/-- how often `quote` stands at the start -/
def quoteRun (quote : Char) (text : List Char) : Nat := (text.takeWhile (· = quote)).length

/-- a piece of a string over several lines: up to two quotes may stand by themselves -/
def blockPiece (quote : Char) (char : Parser Char) (continuation : Bool) :
    Parser (List Char) := fun text =>
  match text with
  | [] => none
  | c :: rest =>
    if c = quote then (if quoteRun quote text < 3 then some ([c], rest) else none)
    else match newline text with
      | some (_, rest) => some (['\n'], rest)
      | none => match (if continuation ∧ c = '\\' then lineContinuation rest else none) with
        | some (_, rest) => some ([], rest)
        | none => (char text).map fun r => ([r.1], r.2)

/-- the rest of a string over several lines. A line end right behind the opening is left out; of
the quotes at the end, three close the string and up to two before them belong to it. -/
def blockString (quote : Char) (char : Parser Char) (continuation : Bool) :
    Parser String := fun text =>
  let text := match newline text with
    | some (_, rest) => rest
    | none => text
  match many (blockPiece quote char continuation) text with
  | (pieces, rest) =>
    let run := quoteRun quote rest
    if run < 3 then none
    else
      let inner := min (run - 3) 2
      some (String.ofList (pieces.flatten ++ List.replicate inner quote), rest.drop (inner + 3))

/-- a string on one line, as it may stand for a key -/
def quotedLine : Parser String
  | '\x22' :: rest => lineString '\x22' basicChar rest
  | '\x27' :: rest => lineString '\x27' literalChar rest
  | _ => none

def string : Parser String
  | '\x22' :: '\x22' :: '\x22' :: rest => blockString '\x22' basicChar true rest
  | '\x27' :: '\x27' :: '\x27' :: rest => blockString '\x27' literalChar false rest
  | text => quotedLine text

/-! ## numbers -/

/-- digits, with single underscores between them -/
def digitRun (isDigit : Char → Bool) : Parser (List Char) := fun text =>
  let next : Parser Char
    | '_' :: c :: rest => if isDigit c then some (c, rest) else none
    | c :: rest => if isDigit c then some (c, rest) else none
    | [] => none
  match text with
  | c :: rest =>
    if isDigit c then
      match many next rest with
      | (digits, rest) => some (c :: digits, rest)
    else none
  | [] => none

def sign : Parser Bool
  | '+' :: rest => some (false, rest)
  | '-' :: rest => some (true, rest)
  | text => some (false, text)

/-- a decimal integer's sign and digits; a zero leads no other digit -/
def decimal : Parser (Bool × List Char) := fun text => do
  let (negative, rest) ← sign text
  match rest with
  | '0' :: rest => some ((negative, ['0']), rest)
  | _ => (digitRun Numeral.isDigit rest).map fun r => ((negative, r.1), r.2)

def maxInteger : Nat := 9223372036854775807

/-- an integer within 64 bits -/
def signedInteger (negative : Bool) (magnitude : Nat) : Option Int :=
  if negative then (if magnitude ≤ maxInteger + 1 then some (-(magnitude : Int)) else none)
  else if magnitude ≤ maxInteger then some magnitude else none

/-- digits of another base, behind its mark -/
def basedInteger (base : Nat) (text : List Char) : Option (Int × List Char) := do
  let isDigit (c : Char) := match Hex.value? c with
    | some d => decide (d < base)
    | none => false
  let (digits, rest) ← digitRun isDigit text
  let magnitude := digits.foldl
    (fun n c => min (maxInteger + 1) (n * base + (Hex.value? c).getD 0)) 0
  return (← signedInteger false magnitude, rest)

def integer : Parser Int
  | '0' :: 'x' :: rest => basedInteger 16 rest
  | '0' :: 'o' :: rest => basedInteger 8 rest
  | '0' :: 'b' :: rest => basedInteger 2 rest
  | text => do
    let ((negative, digits), rest) ← decimal text
    return (← signedInteger negative (Numeral.cappedValue (maxInteger + 2) digits), rest)

/-- the least value that a double cannot hold: it and all above round to infinity -/
def doubleLimit : Nat := Nat.pow 2 1024 - Nat.pow 2 970

/-- whether `digits · 10 ^ exponent` is beyond the doubles -/
def overflows (digits : List Char) (exponent : Int) : Bool :=
  let digits := digits.dropWhile (· = '0')
  let size : Int := digits.length + exponent
  if digits = [] ∨ size < 309 then false
  else if 310 < size then true
  else
    let n := Numeral.value digits
    if 0 ≤ exponent then decide (doubleLimit ≤ n * Nat.pow 10 exponent.toNat)
    else decide (doubleLimit * Nat.pow 10 (-exponent).toNat ≤ n)

/-- the part of a float behind the point -/
def fraction : Parser (List Char)
  | '.' :: rest => digitRun Numeral.isDigit rest
  | _ => none

/-- no text has as many digits as this -/
def maxExponent : Nat := 1000000000000000000

def exponent : Parser Int
  | c :: rest =>
    if c = 'e' ∨ c = 'E' then do
      let (negative, rest) ← sign rest
      let (digits, rest) ← digitRun Numeral.isDigit rest
      let n : Int := Numeral.cappedValue maxExponent digits
      return (if negative then -n else n, rest)
    else none
  | [] => none

/-- the digits behind the point and the power of ten, of which one is there at least -/
def scale (text : List Char) : Option (List Char × Int × List Char) :=
  match fraction text with
  | some (part, rest) => match exponent rest with
    | some (power, rest) => some (part, power, rest)
    | none => some (part, 0, rest)
  | none => match exponent text with
    | some (power, rest) => some ([], power, rest)
    | none => none

/-- the text that was read when `rest` is left of `text` -/
def consumed (text rest : List Char) : String :=
  String.ofList (text.take (text.length - rest.length))

/-- the words for values that are no numbers -/
def specialFloat (text : List Char) : Option (List Char) :=
  match text with
  | 'i' :: 'n' :: 'f' :: rest => some rest
  | 'n' :: 'a' :: 'n' :: rest => some rest
  | _ => none

/-- a float is a number with a fraction or an exponent, and not too large -/
def float : Parser String := fun text => do
  let (_, unsigned) ← sign text
  match specialFloat unsigned with
  | some rest => return (consumed text rest, rest)
  | none =>
    let ((negative, whole), rest) ← decimal text
    let (part, power, rest) ← scale rest
    if ¬ negative ∧ overflows (whole ++ part) (power - part.length) then none
    return (consumed text rest, rest)

/-! ## dates and times -/

/-- exactly `count` digits with a value from `low` to `high` -/
def fixedDigits (count low high : Nat) : Parser Nat := fun text =>
  let digits := text.take count
  if digits.length = count ∧ digits.all Numeral.isDigit then
    let n := Numeral.value digits
    if low ≤ n ∧ n ≤ high then some (n, text.drop count) else none
  else none

def char (c : Char) : Parser Unit
  | d :: rest => if c = d then some ((), rest) else none
  | [] => none

def isLeapYear (year : Nat) : Bool := year % 4 = 0 && (year % 100 ≠ 0 || year % 400 = 0)

def daysIn (year month : Nat) : Nat :=
  if month = 2 then (if isLeapYear year then 29 else 28)
  else if month = 4 ∨ month = 6 ∨ month = 9 ∨ month = 11 then 30
  else 31

def date : Parser Unit := fun text => do
  let (year, rest) ← fixedDigits 4 0 9999 text
  let (_, rest) ← char '-' rest
  let (month, rest) ← fixedDigits 2 1 12 rest
  let (_, rest) ← char '-' rest
  let (_, rest) ← fixedDigits 2 1 (daysIn year month) rest
  return ((), rest)

/-- hours, minutes and seconds, with room for a leap second, and a fraction of any length -/
def time : Parser Unit := fun text => do
  let (_, rest) ← fixedDigits 2 0 23 text
  let (_, rest) ← char ':' rest
  let (_, rest) ← fixedDigits 2 0 59 rest
  let (_, rest) ← char ':' rest
  let (_, rest) ← fixedDigits 2 0 60 rest
  match rest with
  | '.' :: more =>
    let digits := more.takeWhile Numeral.isDigit
    if digits = [] then none
    return ((), more.drop digits.length)
  | _ => return ((), rest)

def offset : Parser Unit
  | c :: rest =>
    if c = 'Z' ∨ c = 'z' then some ((), rest)
    else if c = '+' ∨ c = '-' then do
      let (_, rest) ← fixedDigits 2 0 23 rest
      let (_, rest) ← char ':' rest
      let (_, rest) ← fixedDigits 2 0 59 rest
      return ((), rest)
    else none
  | [] => none

/-- the time and the offset that may follow a date -/
def timeOfDate : Parser Unit
  | c :: rest =>
    if c = 'T' ∨ c = 't' ∨ c = ' ' then do
      let (_, rest) ← time rest
      match offset rest with
      | some r => return r
      | none => return ((), rest)
    else none
  | [] => none

/-- a date, a date with a time, or a time -/
def datetime : Parser String := fun text =>
  let rest := match date text with
    | some (_, rest) => match timeOfDate rest with
      | some (_, rest) => some rest
      | none => some rest
    | none => match time text with
      | some (_, rest) => some rest
      | none => none
  rest.map fun rest => (consumed text rest, rest)

/-! ## scalars -/

def word (word : List Char) (value : Value) : Parser Value := fun text =>
  if word.isPrefixOf text then some (value, text.drop word.length) else none

/-- a value that is neither an array nor a table -/
def scalar : Parser Value := fun text =>
  match text with
  | '\x22' :: _ | '\x27' :: _ => (string text).map fun r => (.string r.1, r.2)
  | 't' :: _ => word ['t', 'r', 'u', 'e'] (.boolean true) text
  | 'f' :: _ => word ['f', 'a', 'l', 's', 'e'] (.boolean false) text
  | _ => match datetime text with
    | some (d, rest) => some (.datetime d, rest)
    | none => match float text with
      | some (f, rest) => some (.float f, rest)
      | none => (integer text).map fun r => (.integer r.1, r.2)

end Succession.Toml
