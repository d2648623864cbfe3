/-!
# Bounded decimal numerals

An unsigned numeral is one or more decimal digits after an optional plus sign; leading zeros are
allowed. A numeral whose value is past the bound of its type is refused.

* `Numeral.parse? bound text`   the value of a numeral, if it is at most `bound`;
* `Numeral.cappedValue_eq`      a bound that is passed early is passed in the end;
* `Numeral.render`              the shortest numeral of a value;
* `Numeral.parse?_render`       reading what was written gives the value back.
-/

namespace Succession.Numeral

/-- the greatest values of the unsigned types of 8, 16, 32 and 64 bits -/
def max8 : Nat := 255
def max16 : Nat := 65535
def max32 : Nat := 4294967295
def max64 : Nat := 18446744073709551615

def isDigit (c : Char) : Bool := '0' ≤ c && c ≤ '9'

def digitValue (c : Char) : Nat := c.toNat - '0'.toNat

def value (digits : List Char) : Nat := digits.foldl (fun n c => n * 10 + digitValue c) 0

/-- the value of a run of digits, or `cap` if it is greater: no step leads to a greater number -/
def cappedValue (cap : Nat) (digits : List Char) : Nat :=
  digits.foldl (fun n c => min cap (n * 10 + digitValue c)) 0

/-- the value of a run of digits, if there is one and it is at most `bound` -/
def digits? (bound : Nat) (digits : List Char) : Option Nat :=
  let n := cappedValue (bound + 1) digits
  if digits ≠ [] ∧ digits.all isDigit ∧ n ≤ bound then some n else none

/-- the value of a numeral with an optional plus sign, if it is at most `bound` -/
def parse? (bound : Nat) : List Char → Option Nat
  | '+' :: digits => digits? bound digits
  | digits => digits? bound digits

def render (n : Nat) : List Char := Nat.toDigits 10 n

/-! ## reading what was written -/

theorem value_eq (digits : List Char) : value digits = Nat.ofDigitChars 10 digits 0 := by
  show List.foldl (fun n c => n * 10 + (c.toNat - '0'.toNat)) 0 digits =
    List.foldl (fun n c => 10 * n + (c.toNat - '0'.toNat)) 0 digits
  simp only [Nat.mul_comm]

theorem foldl_capped (cap n : Nat) (digits : List Char) :
    digits.foldl (fun n c => min cap (n * 10 + digitValue c)) (min cap n) =
      min cap (digits.foldl (fun n c => n * 10 + digitValue c) n) := by
  induction digits generalizing n with
  | nil => rfl
  | cons c rest ih =>
    have step : min cap (min cap n * 10 + digitValue c) = min cap (n * 10 + digitValue c) := by
      omega
    rw [List.foldl_cons, step, ih, List.foldl_cons]

theorem cappedValue_eq (cap : Nat) (digits : List Char) :
    cappedValue cap digits = min cap (value digits) := by
  have h := foldl_capped cap 0 digits
  rw [Nat.min_zero] at h
  exact h

theorem value_render (n : Nat) : value (render n) = n := by
  rw [value_eq]
  exact Nat.ofDigitChars_ten_toDigits

theorem render_ne_nil (n : Nat) : render n ≠ [] := Nat.toDigits_ne_nil

theorem isDigit_of_mem_render {n : Nat} {c : Char} (h : c ∈ render n) : isDigit c = true := by
  have hd : c.isDigit = true := Nat.isDigit_of_mem_toDigits (by decide) (by decide) h
  rw [Char.isDigit, Bool.and_eq_true, decide_eq_true_iff, decide_eq_true_iff] at hd
  rw [isDigit, Bool.and_eq_true, decide_eq_true_iff, decide_eq_true_iff]
  exact hd

theorem all_isDigit_render (n : Nat) : (render n).all isDigit = true :=
  List.all_eq_true.mpr fun _ hc => isDigit_of_mem_render hc

theorem digits?_render {bound n : Nat} (h : n ≤ bound) : digits? bound (render n) = some n := by
  have hv : cappedValue (bound + 1) (render n) = n := by
    rw [cappedValue_eq, value_render]
    omega
  rw [digits?, hv, if_pos ⟨render_ne_nil n, all_isDigit_render n, h⟩]

/-- a numeral past its bound is refused -/
theorem digits?_render_of_lt {bound n : Nat} (h : bound < n) : digits? bound (render n) = none := by
  have hv : cappedValue (bound + 1) (render n) = bound + 1 := by
    rw [cappedValue_eq, value_render]
    omega
  rw [digits?, hv, if_neg fun hle => Nat.not_succ_le_self bound hle.2.2]

/-- no sign is written -/
theorem parse?_render_eq (bound n : Nat) : parse? bound (render n) = digits? bound (render n) := by
  cases hr : render n with
  | nil => exact absurd hr (render_ne_nil n)
  | cons c rest =>
    have hc : isDigit c = true :=
      isDigit_of_mem_render (n := n) (by rw [hr]; exact List.mem_cons_self)
    have hp : c ≠ '+' := fun e => absurd (e ▸ hc) (by decide)
    rw [parse?.eq_2 bound (c :: rest) (fun _ e => hp (List.cons.inj e).1)]

theorem parse?_render {bound n : Nat} (h : n ≤ bound) : parse? bound (render n) = some n :=
  (parse?_render_eq bound n).trans (digits?_render h)

theorem parse?_render_of_lt {bound n : Nat} (h : bound < n) : parse? bound (render n) = none :=
  (parse?_render_eq bound n).trans (digits?_render_of_lt h)

end Succession.Numeral
