/-!
# Byte strings

File names, file contents and environment values are byte strings; a text is a byte string that
is valid UTF-8.

* `Bytes.ofText`   the UTF-8 encoding of a text;
* `Bytes.text?`    the text of a byte string, if it is one;
* `Bytes.display`  the text shown for any byte string: every maximal ill-formed part becomes one
                   replacement character.
-/

namespace Succession

abbrev Bytes := List UInt8

namespace Bytes

/-- the UTF-8 encoding of a text -/
def ofText (s : String) : Bytes := s.toByteArray.data.toList

theorem ofText_append (s t : String) : ofText (s ++ t) = ofText s ++ ofText t := by
  unfold ofText
  rw [String.toByteArray_append, ByteArray.toList_data_append]

/-- the text that a byte string encodes, if it is valid UTF-8 -/
def text? (b : Bytes) : Option String := String.fromUTF8? ⟨b.toArray⟩

theorem text?_ofText (s : String) : text? (ofText s) = some s := by
  show String.fromUTF8? ⟨s.toByteArray.data.toList.toArray⟩ = some s
  rw [Array.toArray_toList]
  unfold String.fromUTF8?
  rw [dif_pos s.isValidUTF8]
  rfl

/-! ## the text shown for any byte string -/

/-- `10xxxxxx` -/
def isContinuation (b : UInt8) : Bool := 0x80 ≤ b && b ≤ 0xBF

/-- the range of the second byte after the lead byte `b` of a sequence of three or four bytes:
overlong forms, surrogates and values past the last code point are left out -/
def secondOk (b c : UInt8) : Bool :=
  if b = 0xE0 then 0xA0 ≤ c && c ≤ 0xBF
  else if b = 0xED then 0x80 ≤ c && c ≤ 0x9F
  else if b = 0xF0 then 0x90 ≤ c && c ≤ 0xBF
  else if b = 0xF4 then 0x80 ≤ c && c ≤ 0x8F
  else isContinuation c

/-- the number of bytes in the sequence that the lead byte `b` opens, `0` if it opens none -/
def sequenceLength (b : UInt8) : Nat :=
  if b < 0x80 then 1
  else if 0xC2 ≤ b && b ≤ 0xDF then 2
  else if 0xE0 ≤ b && b ≤ 0xEF then 3
  else if 0xF0 ≤ b && b ≤ 0xF4 then 4
  else 0

/-- how many bytes after the lead byte `b` continue its sequence, out of those it asks for -/
def continued (b : UInt8) (rest : Bytes) : Nat :=
  match sequenceLength b with
  | 0 | 1 => 0
  | n + 2 => match rest with
    | [] => 0
    | c :: more =>
      if n = 0 then (if isContinuation c then 1 else 0)
      else if secondOk b c then 1 + ((more.take n).takeWhile isContinuation).length else 0

/-- the code point of a well-formed sequence -/
def codePoint (b : UInt8) (rest : Bytes) : Nat :=
  let lead := match sequenceLength b with
    | 1 => b.toNat
    | 2 => b.toNat % 32
    | 3 => b.toNat % 16
    | _ => b.toNat % 8
  rest.foldl (fun n c => n * 64 + c.toNat % 64) lead

/-- the characters shown for a byte string -/
def displayChars : Bytes → List Char
  | [] => []
  | b :: rest =>
    let n := continued b rest
    (if n + 1 = sequenceLength b then Char.ofNat (codePoint b (rest.take n)) else '\uFFFD')
      :: displayChars (rest.drop n)
termination_by b => b.length
decreasing_by simp only [List.length_cons, List.length_drop]; omega

/-- the text shown for a byte string -/
def display (b : Bytes) : String := String.ofList (displayChars b)

/-- the smaller of two byte strings comes first: the order of sorted file names -/
def le : Bytes → Bytes → Bool
  | [], _ => true
  | _ :: _, [] => false
  | a :: x, b :: y => if a = b then le x y else a < b

end Bytes
end Succession
