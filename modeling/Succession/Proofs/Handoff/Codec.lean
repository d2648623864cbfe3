import Mathlib.Algebra.Group.Nat.Even
import Mathlib.Tactic.IntervalCases
import Succession.Proofs.Handoff.Grammar
import Succession.Proofs.Handoff.Slots

/-!
# What a slot looks like

A value holds a slot when the part in front of its first colon is an even number of hexadecimal
digits, of either case. Two digits make a byte of the name, and what stands behind the colon is the
value that the variable had before. A slot is written in one way only, with digits of lower case.

* `Hex.digits`, `Hex.place`, `Hex.Spells`   digits, and the bytes that they stand for;
* `Hex.value?_eq`                     the digits that are read;
* `Hex.decode_eq_some_iff`, `Hex.isSome_decode_iff`   the texts that are read, and as which bytes;
* `Hex.Spells.encode`                 how the bytes are written again;
* `Slot.decode?_eq_some_iff`          what a value is read as;
* `Slot.codec_exact`                  both directions.
-/

namespace Succession

/-! ## hexadecimal text -/

namespace Hex

/-- the digits, those above nine in either case -/
def digits : List Char :=
  ['0', '1', '2', '3', '4', '5', '6', '7', '8', '9', 'a', 'b', 'c', 'd', 'e', 'f',
    'A', 'B', 'C', 'D', 'E', 'F']

/-- the value of a digit is its place among those of lower case -/
def place (c : Char) : Nat := digits.idxOf c.toLower

/-- two digits a byte, the high half first -/
inductive Spells : List Char → Bytes → Prop where
  | nil : Spells [] []
  | byte {h l : Char} {b : UInt8} {text : List Char} {bytes : Bytes} (hh : h ∈ digits)
      (hl : l ∈ digits) (hb : b.toNat = 16 * place h + place l) (rest : Spells text bytes) :
      Spells (h :: l :: text) (b :: bytes)

variable {c : Char} {text : List Char} {bytes : Bytes}

theorem value?_of_mem : ∀ c ∈ digits, value? c = some (place c) :=
  List.forall_iff_forall_mem.mp (by decide)

theorem place_lt : ∀ c ∈ digits, place c < 16 := List.forall_iff_forall_mem.mp (by decide)

theorem digit_place : ∀ c ∈ digits, digit (place c) = c.toLower :=
  List.forall_iff_forall_mem.mp (by decide)

/-- what lies in one of the three ranges is a digit -/
theorem mem_digits (h : ('0' ≤ c ∧ c ≤ '9') ∨ ('a' ≤ c ∧ c ≤ 'f') ∨ ('A' ≤ c ∧ c ≤ 'F')) :
    c ∈ digits := by
  have hrange : (48 ≤ c.toNat ∧ c.toNat ≤ 57) ∨ (97 ≤ c.toNat ∧ c.toNat ≤ 102) ∨
      (65 ≤ c.toNat ∧ c.toNat ≤ 70) := h
  rw [← Char.ofNat_toNat c]
  generalize c.toNat = n at hrange
  obtain ⟨hle, hge⟩ | ⟨hle, hge⟩ | ⟨hle, hge⟩ := hrange <;> interval_cases n <;> decide

/-- **The digits that are read**, and their values. -/
theorem value?_eq (c : Char) : value? c = if c ∈ digits then some (place c) else none := by
  by_cases hc : c ∈ digits
  · rw [if_pos hc]
    exact value?_of_mem c hc
  · rw [if_neg hc]
    have hrange := mt mem_digits hc
    rw [not_or, not_or] at hrange
    obtain ⟨hdecimal, hlower, hupper⟩ := hrange
    unfold value?
    rw [if_neg hdecimal, if_neg hlower, if_neg hupper]

theorem value?_eq_some_iff {n : Nat} : value? c = some n ↔ c ∈ digits ∧ place c = n := by
  rw [value?_eq]
  split <;> simp [*]

theorem decode_cons (h l : Char) (text : List Char) :
    decode (h :: l :: text) = (value? h).bind fun h => (value? l).bind fun l =>
      (decode text).bind fun bytes => some (UInt8.ofNat (h * 16 + l) :: bytes) := rfl

/-- **The texts that are read**, and as which bytes. -/
theorem decode_eq_some_iff : decode text = some bytes ↔ Spells text bytes := by
  constructor
  · intro h
    fun_induction decode text generalizing bytes with
    | case1 =>
      obtain rfl := Option.some.inj h
      exact .nil
    | case2 => cases h
    | case3 high low text ih =>
      obtain ⟨h', hhigh, h⟩ := Option.bind_eq_some_iff.mp h
      obtain ⟨l', hlow, h⟩ := Option.bind_eq_some_iff.mp h
      obtain ⟨rest, hrest, h⟩ := Option.bind_eq_some_iff.mp h
      obtain rfl := Option.some.inj h
      obtain ⟨hh, rfl⟩ := value?_eq_some_iff.mp hhigh
      obtain ⟨hl, rfl⟩ := value?_eq_some_iff.mp hlow
      refine .byte hh hl ?_ (ih hrest)
      have hlt := place_lt high hh
      have hlt' := place_lt low hl
      rw [UInt8.toNat_ofNat_of_lt' (by show _ < 256; omega)]
      omega
  · intro h
    induction h with
    | nil => rfl
    | @byte high low b text bytes hh hl hb rest ih =>
      rw [decode_cons, value?_of_mem high hh, value?_of_mem low hl, ih]
      show some (UInt8.ofNat (place high * 16 + place low) :: bytes) = _
      rw [show place high * 16 + place low = b.toNat by omega, UInt8.ofNat_toNat]

theorem Spells.even (h : Spells text bytes) : Even text.length := by
  induction h with
  | nil => exact Even.zero
  | byte hh hl hb rest ih => exact ih.add even_two

theorem Spells.mem_digits (h : Spells text bytes) : ∀ c ∈ text, c ∈ digits := by
  induction h with
  | nil => exact nofun
  | byte hh hl hb rest ih =>
    exact List.forall_mem_cons.mpr ⟨hh, List.forall_mem_cons.mpr ⟨hl, ih⟩⟩

/-- digits in pairs stand for bytes -/
theorem exists_spells : ∀ {text : List Char}, Even text.length → (∀ c ∈ text, c ∈ digits) →
    ∃ bytes, Spells text bytes
  | [], _, _ => ⟨[], .nil⟩
  | [_], heven, _ => absurd heven Nat.not_even_one
  | h :: l :: text, heven, hall => by
    obtain ⟨hh, hall⟩ := List.forall_mem_cons.mp hall
    obtain ⟨hl, hall⟩ := List.forall_mem_cons.mp hall
    have hrest : Even text.length :=
      ((Nat.even_add (m := text.length) (n := 2)).mp heven).mpr even_two
    obtain ⟨bytes, hbytes⟩ := exists_spells hrest hall
    refine ⟨UInt8.ofNat (16 * place h + place l) :: bytes, .byte hh hl ?_ hbytes⟩
    have hlt := place_lt h hh
    have hlt' := place_lt l hl
    exact UInt8.toNat_ofNat_of_lt' (by show _ < 256; omega)

/-- **Which texts are read** -/
theorem isSome_decode_iff :
    (decode text).isSome ↔ Even text.length ∧ ∀ c ∈ text, c ∈ digits := by
  rw [Option.isSome_iff_exists]
  constructor
  · rintro ⟨bytes, h⟩
    have hspells := decode_eq_some_iff.mp h
    exact ⟨hspells.even, hspells.mem_digits⟩
  · rintro ⟨heven, hall⟩
    obtain ⟨bytes, hspells⟩ := exists_spells heven hall
    exact ⟨bytes, decode_eq_some_iff.mpr hspells⟩

/-- **The bytes are written again** with digits of lower case. -/
theorem Spells.encode (h : Spells text bytes) : encode bytes = text.map Char.toLower := by
  induction h with
  | nil => rfl
  | @byte high low b text bytes hh hl hb rest ih =>
    have hlt := place_lt low hl
    rw [encode_cons, ih, show b.toNat / 16 = place high by omega,
      show b.toNat % 16 = place low by omega, digit_place high hh, digit_place low hl]
    rfl

end Hex

/-! ## chained texts -/

theorem Chain.fst_split (sep : Char) (text : List Char) :
    (split sep text).1 = text.takeWhile (· ≠ sep) := by
  induction text with
  | nil => rfl
  | cons c text ih =>
    by_cases hc : c = sep
    · rw [hc, split_cons_self, List.takeWhile_cons_of_neg (by simp)]
    · rw [split_cons_ne hc, List.takeWhile_cons_of_pos (by simpa using hc), ih]

/-- the previous value is what stands behind the first colon, if there is one -/
structure Chained (text head : List Char) (previous : Option String) : Prop where
  some_iff : ∀ rest : String, previous = some rest ↔ text = head ++ ':' :: rest.toList
  none_iff : previous = none ↔ ':' ∉ text

namespace Chained

variable {text head : List Char} {previous previous' : Option String}

theorem unique (h : Chained text head previous) (h' : Chained text head previous') :
    previous = previous' := by
  refine Option.ext fun rest => ?_
  rw [h.some_iff, h'.some_iff]

theorem split (text : List Char) :
    Chained text (Chain.split ':' text).1 ((Chain.split ':' text).2.map String.ofList) := by
  obtain ⟨hfree, hjoin⟩ := Chain.split_eq_iff.mp (Prod.mk.eta (p := Chain.split ':' text)).symm
  generalize (Chain.split ':' text).1 = head at hfree hjoin
  generalize (Chain.split ':' text).2 = behind at hjoin
  subst hjoin
  cases behind with
  | none =>
    refine ⟨fun rest => ⟨nofun, fun h => ?_⟩, ⟨fun _ => hfree, fun _ => rfl⟩⟩
    have hmem : ':' ∈ Chain.join ':' head none := h ▸ List.mem_append_right _ List.mem_cons_self
    exact absurd hmem hfree
  | some behind =>
    refine ⟨fun rest => ?_, ⟨nofun, fun h => ?_⟩⟩
    · show some (String.ofList behind) = some rest ↔ head ++ ':' :: behind = _
      rw [Option.some_inj, List.append_cancel_left_eq, List.cons_inj_right, ← String.toList_inj,
        String.toList_ofList]
    · exact absurd (List.mem_append_right _ List.mem_cons_self) h

end Chained

/-! ## slots -/

namespace Slot

variable {index : Descriptor} {raw : String} {slot : Slot}

/-- the part of a value in front of its first colon -/
def hexPart (raw : String) : List Char := raw.toList.takeWhile (· ≠ ':')

theorem decode?_eq (index : Descriptor) (raw : String) :
    decode? index raw = (Hex.decode (hexPart raw)).map fun bytes =>
      ⟨index, ⟨bytes⟩, (Chain.split ':' raw.toList).2.map String.ofList⟩ := by
  unfold hexPart
  rw [← Chain.fst_split]
  rfl

theorem chained_split (raw : String) :
    Chained raw.toList (hexPart raw) ((Chain.split ':' raw.toList).2.map String.ofList) := by
  unfold hexPart
  rw [← Chain.fst_split]
  exact .split raw.toList

/-- **What a value is read as** -/
theorem decode?_eq_some_iff : decode? index raw = some slot ↔ slot.index = index ∧
    Hex.Spells (hexPart raw) slot.name.bytes ∧
      Chained raw.toList (hexPart raw) slot.previous := by
  rw [decode?_eq, Option.map_eq_some_iff]
  constructor
  · rintro ⟨bytes, hbytes, rfl⟩
    exact ⟨rfl, Hex.decode_eq_some_iff.mp hbytes, chained_split raw⟩
  · obtain ⟨index', ⟨bytes⟩, previous⟩ := slot
    rintro ⟨rfl, hspells, hchained⟩
    refine ⟨bytes, Hex.decode_eq_some_iff.mpr hspells, ?_⟩
    rw [(chained_split raw).unique hchained]

theorem toList_encode_of_decode? (h : decode? index raw = some slot) :
    slot.encode.toList = (hexPart raw).map Char.toLower ++ raw.toList.drop (hexPart raw).length := by
  rw [decode?_eq] at h
  obtain ⟨bytes, hbytes, rfl⟩ := Option.map_eq_some_iff.mp h
  have hwritten := (Hex.decode_eq_some_iff.mp hbytes).encode
  have hjoin : Chain.join ':' (hexPart raw) (Chain.split ':' raw.toList).2 = raw.toList := by
    unfold hexPart
    rw [← Chain.fst_split]
    exact Chain.join_split ':' raw.toList
  have hbehind : raw.toList.drop (hexPart raw).length =
      Chain.join ':' [] (Chain.split ':' raw.toList).2 := by
    nth_rewrite 1 [← hjoin]
    cases (Chain.split ':' raw.toList).2 with
    | none => exact List.drop_length
    | some rest => exact List.drop_left
  unfold encode
  rw [String.toList_ofList, hbehind, hwritten]
  cases (Chain.split ':' raw.toList).2 with
  | none => exact (List.append_nil _).symm
  | some rest =>
    show _ ++ ':' :: (String.ofList rest).toList = _
    rw [String.toList_ofList]
    rfl

/-- **Slots are written and read exactly.** What is written of a slot is read as that slot, whatever
the bytes of its name are and whatever it displaced. And a text is read as a slot if and only if the
part in front of its first colon is an even number of hexadecimal digits; these stand for the bytes
of the name, what is behind the colon is the previous value, and written again it is the same text
with its digits in lower case. -/
theorem codec_exact (index : Descriptor) :
    (∀ (name : Path) (previous : Option String),
      decode? index (encode ⟨index, name, previous⟩) = some ⟨index, name, previous⟩) ∧
    ∀ raw : String,
      ((decode? index raw).isSome ↔
        Even (hexPart raw).length ∧ ∀ c ∈ hexPart raw, c ∈ Hex.digits) ∧
      ∀ slot : Slot,
        (decode? index raw = some slot ↔ slot.index = index ∧
          Hex.Spells (hexPart raw) slot.name.bytes ∧
          Chained raw.toList (hexPart raw) slot.previous) ∧
        (decode? index raw = some slot →
          slot.encode.toList =
            (hexPart raw).map Char.toLower ++ raw.toList.drop (hexPart raw).length) := by
  refine ⟨fun name previous => decode?_encode ⟨index, name, previous⟩, fun raw => ⟨?_, ?_⟩⟩
  · rw [decode?_eq, Option.isSome_map]
    exact Hex.isSome_decode_iff
  · exact fun slot => ⟨decode?_eq_some_iff, toList_encode_of_decode?⟩

/-- digits of both cases, a byte that is no text, and a previous value with a colon of its own -/
example : decode? 4 "2fFe:a:b" = some ⟨4, ⟨[0x2f, 0xfe]⟩, some "a:b"⟩ := by decide

end Slot
end Succession
