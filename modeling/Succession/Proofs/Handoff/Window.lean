import Mathlib.Algebra.Group.Int.Defs
import Mathlib.Algebra.Group.Nat.Defs
import Mathlib.Data.Option.Basic
import Succession.Proofs.Handoff.Marker

/-!
# The window of a marker

A marker is good from the instant that is written in it to the end of its lifetime, both of them
included. An instant before the epoch is written as the epoch, and one that does not fit into the
reader's sixty-four bits is never read back. What is read outside the window belongs to somebody
else, and is carried whole.

* `StageMarker.Good`                        the window of an instant as it is written;
* `StageMarker.stageOf?_head_of_not_good`   outside the window nothing is announced;
* `StageMarker.decode_within_window`        what a value says that was written as a marker.
-/

namespace Succession.StageMarker

/-- an instant that can be read back, is not to come, and is no longer ago than a lifetime -/
structure Good (nanos : Nat) (now : Int) : Prop where
  readable : nanos ≤ Numeral.max64
  issued : (nanos : Int) ≤ now
  alive : now - nanos ≤ lifetime

theorem good_iff {written now : Int} :
    Good written.toNat now ↔
      max written 0 < 2 ^ 64 ∧ max written 0 ≤ now ∧ now ≤ max written 0 + 60 * 10 ^ 9 := by
  have hlife : lifetime = 60 * 10 ^ 9 := rfl
  have hmax : Numeral.max64 = 2 ^ 64 - 1 := rfl
  constructor
  · intro h
    obtain ⟨hreadable, hissued, halive⟩ := h
    omega
  · intro h
    constructor <;> omega

/-! ## the announcement -/

theorem guard_eq_some {p : Prop} [Decidable p] {u : Unit}
    (h : guard p = (some u : Option Unit)) : p := by
  refine Decidable.byContradiction fun hp => ?_
  rw [show guard p = (none : Option Unit) from if_neg hp] at h
  cases h

/-- outside the window nothing is announced -/
theorem stageOf?_head_of_not_good (stage : Stage) {nanos : Nat} {now : Int}
    (hbad : ¬ Good nanos now) : stageOf? (head stage nanos) now = none := by
  cases hstage : stageOf? (head stage nanos) now with
  | none => rfl
  | some announced =>
    unfold stageOf? at hstage
    rw [fields?_head] at hstage
    simp only [Option.bind_eq_bind, Option.bind_some, Option.bind_eq_some_iff] at hstage
    obtain ⟨_, _, _, _, _, _, instant, hinstant, _, hwindow, _⟩ := hstage
    by_cases hreadable : nanos ≤ Numeral.max64
    · rw [Numeral.parse?_render hreadable] at hinstant
      obtain rfl := Option.some.inj hinstant
      obtain ⟨hissued, halive⟩ := guard_eq_some hwindow
      exact absurd ⟨hreadable, hissued, halive⟩ hbad
    · rw [Numeral.parse?_render_of_lt (by omega)] at hinstant
      cases hinstant

/-! ## reading a value -/

/-- **A marker says what was written** from its instant on and for as long as it lives, and at any
other time the whole value is somebody else's. -/
theorem decode_within_window (stage : Stage) (carried : Option String) (written now : Int) :
    decode (some (encode stage carried written)) now =
      if max written 0 < 2 ^ 64 ∧ max written 0 ≤ now ∧ now ≤ max written 0 + 60 * 10 ^ 9 then
        ⟨stage, carried, true⟩
      else ⟨.parent, some (encode stage carried written), false⟩ := by
  have hcarried : (carried.map String.toList).map String.ofList = carried := by
    cases carried with
    | none => rfl
    | some text => exact congrArg some String.ofList_toList
  unfold decode
  simp only [split_encode]
  by_cases hgood : Good written.toNat now
  · rw [if_pos (good_iff.mp hgood), stageOf?_head stage hgood.readable hgood.issued hgood.alive]
    simp only [hcarried]
  · rw [if_neg fun h => hgood (good_iff.mpr h), stageOf?_head_of_not_good stage hgood]
    rfl

end Succession.StageMarker
