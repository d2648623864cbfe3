/-!
# Chained texts

A handoff variable keeps the value it displaced behind a separator: `head` alone, or
`head:previous`. Only the first separator counts, so the previous value may hold any text, chained
texts included, and "nothing" differs from "the empty text".

* `Chain.split sep text`   the part before the first separator, and the rest if there is one;
* `Chain.join sep head rest`;
* `Chain.split_join`       splitting undoes joining when the head is free of the separator.
-/

namespace Succession.Chain

def split (sep : Char) : List Char → List Char × Option (List Char)
  | [] => ([], none)
  | c :: rest =>
    if c = sep then ([], some rest)
    else match split sep rest with
      | (head, tail) => (c :: head, tail)

def join (sep : Char) (head : List Char) : Option (List Char) → List Char
  | none => head
  | some rest => head ++ sep :: rest

theorem split_nil (sep : Char) : split sep [] = ([], none) := rfl

theorem split_cons_self (sep : Char) (rest : List Char) :
    split sep (sep :: rest) = ([], some rest) := by simp [split]

theorem split_cons_ne {sep c : Char} (h : c ≠ sep) (rest : List Char) :
    split sep (c :: rest) = (c :: (split sep rest).1, (split sep rest).2) := by simp [split, h]

theorem split_join (sep : Char) (head : List Char) (rest : Option (List Char)) (h : sep ∉ head) :
    split sep (join sep head rest) = (head, rest) := by
  induction head with
  | nil => cases rest with
    | none => rfl
    | some r => exact split_cons_self sep r
  | cons c head ih =>
    have hc : c ≠ sep := fun e => h (e ▸ List.mem_cons_self)
    have ih' := ih (fun hm => h (List.mem_cons_of_mem c hm))
    have e : join sep (c :: head) rest = c :: join sep head rest := by cases rest <;> rfl
    rw [e, split_cons_ne hc, ih']

/-- splitting loses nothing -/
theorem join_split (sep : Char) (text : List Char) :
    join sep (split sep text).1 (split sep text).2 = text := by
  induction text with
  | nil => rfl
  | cons c text ih =>
    by_cases hc : c = sep
    · subst hc; rw [split_cons_self]; rfl
    · rw [split_cons_ne hc]
      have e (r : Option (List Char)) :
          join sep (c :: (split sep text).1) r = c :: join sep (split sep text).1 r := by
        cases r <;> rfl
      rw [e, ih]

/-- the part before the first separator holds none -/
theorem not_mem_split (sep : Char) (text : List Char) : sep ∉ (split sep text).1 := by
  induction text with
  | nil => simp [split]
  | cons c text ih =>
    by_cases hc : c = sep
    · subst hc; rw [split_cons_self]; simp
    · rw [split_cons_ne hc]
      simp only [List.mem_cons, not_or]
      exact ⟨fun e => hc e.symm, ih⟩

end Succession.Chain
