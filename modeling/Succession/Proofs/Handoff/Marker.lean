import Succession.Handoff.StageMarker

/-!
# Fresh markers are trusted

A marker that is read within its lifetime says what was written. Everything else is carried whole.

* `StageMarker.split_encode`     the announcement and the carried value come apart;
* `StageMarker.stageOf?_head`    the announcement is read while it is fresh;
* `StageMarker.decode_encode`    a fresh marker is read as it was written;
* `StageMarker.decode_foreign`   what is not trusted is carried whole.
-/

namespace Succession.StageMarker

/-! ## separators -/

theorem not_mem_render {c : Char} (n : Nat) (hc : Numeral.isDigit c = false) :
    c ∉ Numeral.render n := by
  intro h
  rw [Numeral.isDigit_of_mem_render h] at hc
  cases hc

theorem not_mem_hex {c : Char} (bytes : Bytes) (hc : Hex.value? c = none) :
    c ∉ Hex.encode bytes := fun h => Hex.value?_ne_none_of_mem h hc

theorem colon_not_mem_head (stage : Stage) (nanos : Nat) : ':' ∉ head stage nanos := by
  intro h
  unfold head at h
  rcases List.mem_append.mp h with h | h
  · exact not_mem_render _ (by decide) h
  · rcases List.mem_cons.mp h with h | h
    · cases h
    · rcases List.mem_append.mp h with h | h
      · exact not_mem_render _ (by decide) h
      · rcases List.mem_cons.mp h with h | h
        · cases h
        · exact not_mem_hex _ (by decide) h

theorem split_encode (stage : Stage) (carried : Option String) (now : Int) :
    Chain.split ':' (encode stage carried now).toList =
      (head stage now.toNat, carried.map String.toList) := by
  unfold encode
  rw [String.toList_ofList, Chain.split_join ':' _ _ (colon_not_mem_head stage now.toNat)]

/-! ## the announcement -/

theorem fields?_head (stage : Stage) (nanos : Nat) :
    fields? (head stage nanos) = some (Numeral.render stage.index, Numeral.render nanos,
      signature (Numeral.render stage.index) (Numeral.render nanos)) := by
  let s := Numeral.render stage.index
  let n := Numeral.render nanos
  have hfirst : Chain.split '/' (head stage nanos) = (s, some (n ++ '/' :: signature s n)) :=
    Chain.split_join '/' s (some (n ++ '/' :: signature s n)) (not_mem_render _ (by decide))
  have hsecond : Chain.split '/' (n ++ '/' :: signature s n) = (n, some (signature s n)) :=
    Chain.split_join '/' n (some (signature s n)) (not_mem_render _ (by decide))
  unfold fields?
  rw [hfirst]
  dsimp only
  rw [hsecond]

theorem stageOf?_head (stage : Stage) {nanos : Nat} {now : Int} (hmax : nanos ≤ Numeral.max64)
    (hnow : (nanos : Int) ≤ now) (hlife : now - nanos ≤ lifetime) :
    stageOf? (head stage nanos) now = some stage := by
  have hs : Numeral.parse? Numeral.max8 (Numeral.render stage.index) = some stage.index := by
    apply Numeral.parse?_render
    cases stage <;> decide
  have hn : Numeral.parse? Numeral.max64 (Numeral.render nanos) = some nanos :=
    Numeral.parse?_render hmax
  unfold stageOf?
  rw [fields?_head]
  show (do
    guard (signature (Numeral.render stage.index) (Numeral.render nanos) =
      signature (Numeral.render stage.index) (Numeral.render nanos))
    let stage ← Stage.ofIndex? (← Numeral.parse? Numeral.max8 (Numeral.render stage.index))
    let nanos ← Numeral.parse? Numeral.max64 (Numeral.render nanos)
    guard ((nanos : Int) ≤ now ∧ now - nanos ≤ lifetime)
    return stage : Option Stage) = _
  have hfresh : guard ((nanos : Int) ≤ now ∧ now - nanos ≤ lifetime) = some () :=
    if_pos ⟨hnow, hlife⟩
  have hsign : guard (signature (Numeral.render stage.index) (Numeral.render nanos) =
      signature (Numeral.render stage.index) (Numeral.render nanos)) = some () := if_pos rfl
  rw [hs, hn, hsign]
  show (Stage.ofIndex? stage.index >>= fun stage =>
    guard ((nanos : Int) ≤ now ∧ now - nanos ≤ lifetime) >>= fun _ => some stage) = some stage
  rw [Stage.ofIndex?_index, hfresh]
  rfl

/-! ## reading a value -/

/-- **A fresh marker is read as it was written.** -/
theorem decode_encode (stage : Stage) (carried : Option String) {written now : Int}
    (h0 : 0 ≤ written) (hmax : written ≤ Numeral.max64) (hnow : written ≤ now)
    (hlife : now - written ≤ lifetime) :
    decode (some (encode stage carried written)) now = ⟨stage, carried, true⟩ := by
  have hw : (written.toNat : Int) = written := Int.toNat_of_nonneg h0
  have hstage : stageOf? (head stage written.toNat) now = some stage := by
    refine stageOf?_head stage ?_ ?_ ?_
    · omega
    · omega
    · omega
  have hcarried : (carried.map String.toList).map String.ofList = carried := by
    cases carried with
    | none => rfl
    | some text => exact congrArg some String.ofList_toList
  unfold decode
  simp only [split_encode, hstage, hcarried]

theorem decode_foreign {raw : Option String} {now : Int} (h : (decode raw now).trusted = false) :
    decode raw now = foreign raw := by
  cases raw with
  | none => rfl
  | some text =>
    unfold decode at h ⊢
    simp only at h ⊢
    cases hs : stageOf? (Chain.split ':' text.toList).1 now with
    | some stage =>
      rw [hs] at h
      cases h
    | none => rfl

end Succession.StageMarker
