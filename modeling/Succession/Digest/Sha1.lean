import Succession.Text.Bytes

/-!
# SHA-1

The digest of a byte string: twenty bytes, by the standard's padding, message schedule and
eighty rounds of a compression step. All arithmetic is modulo `2 ^ 32`.
-/

namespace Succession.Sha1

/-- the five chained words -/
structure Chaining where
  a : UInt32
  b : UInt32
  c : UInt32
  d : UInt32
  e : UInt32

def Chaining.initial : Chaining := ⟨0x67452301, 0xEFCDAB89, 0x98BADCFE, 0x10325476, 0xC3D2E1F0⟩

def Chaining.add (x y : Chaining) : Chaining :=
  ⟨x.a + y.a, x.b + y.b, x.c + y.c, x.d + y.d, x.e + y.e⟩

def rotateLeft (x : UInt32) (n : UInt32) : UInt32 := (x <<< n) ||| (x >>> (32 - n))

/-! ## padding -/

/-- `n` in eight bytes, the high one first -/
def bigEndian64 (n : Nat) : Bytes :=
  (List.range 8).map fun i => UInt8.ofNat (n / Nat.pow 256 (7 - i))

/-- a bit of one, as few zero bits as make the length a multiple of a block, and the bit length -/
def pad (message : Bytes) : Bytes :=
  let zeros := (119 - message.length % 64) % 64
  message ++ 0x80 :: List.replicate zeros 0 ++ bigEndian64 (8 * message.length)

/-- four bytes a word, the high byte first -/
def words : Bytes → List UInt32
  | w :: x :: y :: z :: rest =>
    (w.toUInt32 <<< 24 ||| x.toUInt32 <<< 16 ||| y.toUInt32 <<< 8 ||| z.toUInt32) :: words rest
  | _ => []

/-! ## compression -/

/-- the round's function and constant -/
def roundPart (t : Nat) (b c d : UInt32) : UInt32 × UInt32 :=
  if t < 20 then ((b &&& c) ||| ((~~~b) &&& d), 0x5A827999)
  else if t < 40 then (b ^^^ c ^^^ d, 0x6ED9EBA1)
  else if t < 60 then ((b &&& c) ||| (b &&& d) ||| (c &&& d), 0x8F1BBCDC)
  else (b ^^^ c ^^^ d, 0xCA62C1D6)

/-- one round with the schedule's word `w` -/
def Chaining.round (s : Chaining) (t : Nat) (w : UInt32) : Chaining :=
  let (f, k) := roundPart t s.b s.c s.d
  ⟨rotateLeft s.a 5 + f + s.e + k + w, s.a, rotateLeft s.b 30, s.c, s.d⟩

/-- the schedule's next word, from the sixteen words before it -/
def nextWord (window : List UInt32) : UInt32 :=
  rotateLeft (window.getD 13 0 ^^^ window.getD 8 0 ^^^ window.getD 2 0 ^^^ window.getD 0 0) 1

/-- `n` further rounds from round `t`, the schedule's next sixteen words being `window` -/
def Chaining.rounds (s : Chaining) (t : Nat) (window : List UInt32) : Nat → Chaining
  | 0 => s
  | n + 1 =>
    (s.round t (window.headD 0)).rounds (t + 1) (window.tail ++ [nextWord window]) n

/-- one block of sixteen words -/
def Chaining.compress (s : Chaining) (block : List UInt32) : Chaining :=
  s.add (s.rounds 0 block 80)

/-- the blocks of a padded message, `n` of them -/
def absorb (s : Chaining) (ws : List UInt32) : Nat → Chaining
  | 0 => s
  | n + 1 => absorb (s.compress (ws.take 16)) (ws.drop 16) n

/-- a word in four bytes, the high one first -/
def wordBytes (w : UInt32) : Bytes :=
  [(w >>> 24).toUInt8, (w >>> 16).toUInt8, (w >>> 8).toUInt8, w.toUInt8]

/-- the twenty bytes of a message's digest -/
def digest (message : Bytes) : Bytes :=
  let padded := pad message
  let s := absorb .initial (words padded) (padded.length / 64)
  [s.a, s.b, s.c, s.d, s.e].flatMap wordBytes

theorem length_digest (message : Bytes) : (digest message).length = 20 := rfl

end Succession.Sha1
