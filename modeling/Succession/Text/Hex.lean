import Succession.Text.Bytes

/-!
# Hexadecimal text

Two digits a byte, the high half first. Writing uses lower-case digits; reading takes either case.

* `Hex.encode`, `Hex.decode`;
* `Hex.decode_encode`  reading what was written gives the bytes back.
-/

namespace Succession.Hex

/-- the lower-case digit of a value below sixteen -/
def digit : Nat → Char
  | 0 => '0' | 1 => '1' | 2 => '2' | 3 => '3' | 4 => '4' | 5 => '5' | 6 => '6' | 7 => '7'
  | 8 => '8' | 9 => '9' | 10 => 'a' | 11 => 'b' | 12 => 'c' | 13 => 'd' | 14 => 'e' | _ => 'f'

def value? (c : Char) : Option Nat :=
  if '0' ≤ c ∧ c ≤ '9' then some (c.toNat - '0'.toNat)
  else if 'a' ≤ c ∧ c ≤ 'f' then some (c.toNat - 'a'.toNat + 10)
  else if 'A' ≤ c ∧ c ≤ 'F' then some (c.toNat - 'A'.toNat + 10)
  else none

theorem value?_digit : ∀ n < 16, value? (digit n) = some n := by decide

def encode : Bytes → List Char
  | [] => []
  | b :: rest => digit (b.toNat / 16) :: digit (b.toNat % 16) :: encode rest

/-- refuses an odd number of digits and anything that is no digit -/
def decode : List Char → Option Bytes
  | [] => some []
  | [_] => none
  | h :: l :: rest => do
    let h ← value? h
    let l ← value? l
    let bytes ← decode rest
    return UInt8.ofNat (h * 16 + l) :: bytes

theorem encode_nil : encode [] = [] := rfl
theorem encode_cons (b : UInt8) (rest : Bytes) :
    encode (b :: rest) = digit (b.toNat / 16) :: digit (b.toNat % 16) :: encode rest := rfl

theorem decode_encode (bytes : Bytes) : decode (encode bytes) = some bytes := by
  induction bytes with
  | nil => rfl
  | cons b rest ih =>
    have hb : b.toNat < 256 := b.toNat_lt
    rw [encode_cons, decode, value?_digit _ (by omega), value?_digit _ (by omega), ih]
    show some (UInt8.ofNat (b.toNat / 16 * 16 + b.toNat % 16) :: rest) = _
    rw [show b.toNat / 16 * 16 + b.toNat % 16 = b.toNat by omega]
    simp

/-- what is written holds digits only -/
theorem value?_ne_none_of_mem {c : Char} {bytes : Bytes} (h : c ∈ encode bytes) :
    value? c ≠ none := by
  induction bytes with
  | nil => cases h
  | cons b rest ih =>
    have hb : b.toNat < 256 := b.toNat_lt
    rw [encode_cons, List.mem_cons, List.mem_cons] at h
    rcases h with rfl | rfl | h
    · rw [value?_digit _ (by omega)]; exact Option.some_ne_none _
    · rw [value?_digit _ (by omega)]; exact Option.some_ne_none _
    · exact ih h

end Succession.Hex
