import Succession.Text.Bytes
import Succession.Text.Hex
import Succession.Text.Unprintable

/-!
# Quoted text

A text between double quotes, with escapes for the quote, the backslash, the usual control
characters and every character that would not show as itself.

* `Quoted.text`       quotes a text;
* `Quoted.fileName`   quotes a byte string: bytes that are no UTF-8 are written `\xHH`;
* `Quoted.list`, `Quoted.option`  the same around a list and an optional value.
-/

namespace Succession.Quoted

/-- the lower-case hexadecimal digits of a value, without leading zeros -/
def hexDigits (n : Nat) : List Char := Nat.toDigits 16 n

/-- `\u` and the code point in braces -/
def codePoint (c : Char) : List Char :=
  '\\' :: 'u' :: '\x7b' :: hexDigits c.toNat ++ ['\x7d']

/-- one character inside quotes -/
def char (c : Char) : List Char :=
  if c = '\x00' then ['\\', '0']
  else if c = '\t' then ['\\', 't']
  else if c = '\r' then ['\\', 'r']
  else if c = '\n' then ['\\', 'n']
  else if c = '\\' then ['\\', '\\']
  else if c = '\x22' then ['\\', '\x22']
  else if Unprintable.contains c then codePoint c
  else [c]

def between (inner : List Char) : String := String.ofList ('\x22' :: inner ++ ['\x22'])

def text (s : String) : String := between (s.toList.flatMap char)

/-- a byte that is part of no character -/
def rawByte (b : UInt8) : List Char :=
  '\\' :: 'x' :: (Hex.encode [b]).map Char.toUpper

def bytes : Bytes → List Char
  | [] => []
  | b :: rest =>
    let n := Bytes.continued b rest
    (if n + 1 = Bytes.sequenceLength b then char (Char.ofNat (Bytes.codePoint b (rest.take n)))
      else (b :: rest.take n).flatMap rawByte) ++ bytes (rest.drop n)
termination_by b => b.length
decreasing_by simp only [List.length_cons, List.length_drop]; omega

def fileName (b : Bytes) : String := between (bytes b)

def list (items : List String) : String := "[" ++ ", ".intercalate (items.map text) ++ "]"

def option : Option String → String
  | none => "None"
  | some quoted => "Some(" ++ quoted ++ ")"

end Succession.Quoted
