import Mathlib.Data.List.Nodup
import Mathlib.Data.List.Perm.Subperm
import Succession.Descriptor.Table

/-!
# Descriptors behind the standard streams

A launcher copies what it hands over out of the way, and its child copies the copies to their
places, one after the other. The result is that of copying all of them at once: every copy is still
there when its turn comes, because the copies lie in the order of their places, each of them above
its own. This needs no bound on how many there are; the places may well run into the copies.

* `get?_put`, `get?_lowestFree`, `isSome_of_lt_lowestFree`   one operation;
* `Ascends t floor copies things`   copies in the order of what they refer to, above a floor;
* `ascends_stage`                   the copies of a launcher ascend from the staging base;
* `Placed`, `placed_place`          ascending copies come to their places;
* `get?_afterExec`                  what survives when the child becomes another program;
* `handOver_places`                 both parts together.
-/

namespace Succession

namespace DescriptorTable

variable {α : Type} {t t' : DescriptorTable α} {n m bound target : Nat}

/-! ## one operation -/

theorem get?_put (t : DescriptorTable α) (n m : Nat) (o : Opening α) :
    (t.put n o).get? m = if m = n then some o else t.get? m := by
  unfold get? put
  rw [List.lookup_cons]
  by_cases h : m = n
  · rw [if_pos h, show (m == n) = true from beq_iff_eq.mpr h]
  · rw [if_neg h, show (m == n) = false from beq_eq_false_iff_ne.mpr h]
    exact (Variables.lookup_filter_ne t n m).trans (if_neg h)

theorem mem_numbers_of_isSome (h : (t.get? n).isSome = true) : n ∈ t.map Prod.fst := by
  obtain ⟨o, ho⟩ := Option.isSome_iff_exists.mp h
  by_contra hn
  have hnone : t.lookup n = none := by
    rw [List.lookup_eq_none_iff]
    intro e he
    have hne : n ≠ e.1 := fun eq => hn (eq ▸ List.mem_map_of_mem he)
    simpa using hne
  exact Option.some_ne_none o (ho.symm.trans hnone)

theorem le_lowestFrom (t : DescriptorTable α) (bound count : Nat) :
    bound ≤ t.lowestFrom bound count := by
  induction count generalizing bound with
  | zero => exact Nat.le_refl bound
  | succ count ih =>
    unfold lowestFrom
    split
    · exact Nat.le_refl bound
    · exact Nat.le_of_succ_le (ih (bound + 1))

theorem isSome_of_lt_lowestFrom {count : Nat} (hle : bound ≤ n)
    (hlt : n < t.lowestFrom bound count) : (t.get? n).isSome = true := by
  induction count generalizing bound with
  | zero => exact absurd hlt (Nat.not_lt.mpr hle)
  | succ count ih =>
    unfold lowestFrom at hlt
    split at hlt
    · exact absurd hlt (Nat.not_lt.mpr hle)
    · next htaken =>
      by_cases h : n = bound
      · subst h
        rwa [Option.isNone_iff_eq_none, ← Option.not_isSome_iff_eq_none, not_not] at htaken
      · exact ih (by omega) hlt

/-- the search ends at a free number, or nothing in its range is free -/
theorem lowestFrom_ends (t : DescriptorTable α) (bound count : Nat) :
    t.get? (t.lowestFrom bound count) = none ∨ t.lowestFrom bound count = bound + count := by
  induction count generalizing bound with
  | zero => exact .inr rfl
  | succ count ih =>
    unfold lowestFrom
    split
    · next hfree => exact .inl (Option.isNone_iff_eq_none.mp hfree)
    · obtain h | h := ih (bound + 1)
      · exact .inl h
      · exact .inr (by omega)

theorem le_lowestFree (t : DescriptorTable α) (bound : Nat) : bound ≤ t.lowestFree bound :=
  le_lowestFrom t bound t.length

theorem isSome_of_lt_lowestFree (hle : bound ≤ n) (hlt : n < t.lowestFree bound) :
    (t.get? n).isSome = true := isSome_of_lt_lowestFrom hle hlt

/-- **A free number is found**: more numbers than there are entries cannot all be taken. -/
theorem get?_lowestFree (t : DescriptorTable α) (bound : Nat) :
    t.get? (t.lowestFree bound) = none := by
  obtain h | hend := lowestFrom_ends t bound t.length
  · exact h
  · by_contra hne
    have hsub : List.range' bound (t.length + 1) ⊆ t.map Prod.fst := by
      intro n hn
      obtain ⟨hle, hlt⟩ := List.mem_range'_1.mp hn
      apply mem_numbers_of_isSome
      by_cases he : n = t.lowestFree bound
      · rw [he]
        exact Option.isSome_iff_ne_none.mpr hne
      · have hend' : t.lowestFree bound = bound + t.length := hend
        exact isSome_of_lt_lowestFree hle (by omega)
    have hlength := ((List.nodup_range' (s := bound) (n := t.length + 1)).subperm hsub).length_le
    rw [List.length_range', List.length_map] at hlength
    omega

theorem duplicateFrom_eq {o : Opening α} (h : t.get? n = some o) (bound : Nat) :
    t.duplicateFrom n bound =
      some (t.lowestFree bound, t.put (t.lowestFree bound) ⟨o.refersTo, true⟩) := by
  unfold duplicateFrom
  rw [h]
  rfl

theorem copyOnto_eq {o : Opening α} (h : t.get? n = some o) (hne : n ≠ target) :
    t.copyOnto n target = some (t.put target ⟨o.refersTo, false⟩) := by
  unfold copyOnto
  rw [h, Option.map_some, if_neg hne]

/-! ## descriptors and what they refer to -/

def RefersTo (t : DescriptorTable α) (n : Nat) (x : α) : Prop :=
  ∃ o, t.get? n = some o ∧ o.refersTo = x

theorem RefersTo.put {x : α} (h : t.RefersTo n x) (hne : n ≠ m) (o : Opening α) :
    (t.put m o).RefersTo n x := by
  obtain ⟨p, hp, hx⟩ := h
  exact ⟨p, (get?_put t m n o).trans ((if_neg hne).trans hp), hx⟩

theorem RefersTo.ne_of_free {x : α} (h : t.RefersTo n x) (hfree : t.get? m = none) : n ≠ m := by
  rintro rfl
  obtain ⟨o, ho, -⟩ := h
  exact Option.some_ne_none o (ho.symm.trans hfree)

/-- descriptors ascend from above a floor, and refer to `things` in their order -/
inductive Ascends (t : DescriptorTable α) : Nat → List Nat → List α → Prop where
  | nil (floor : Nat) : Ascends t floor [] []
  | cons {floor c : Nat} {copies : List Nat} {x : α} {things : List α} (habove : floor < c)
      (hx : t.RefersTo c x) (rest : Ascends t c copies things) :
      Ascends t floor (c :: copies) (x :: things)

/-- what happens at or below the floor is no matter -/
theorem Ascends.put {floor : Nat} {copies : List Nat} {things : List α}
    (h : t.Ascends floor copies things) (hle : n ≤ floor) (o : Opening α) :
    (t.put n o).Ascends floor copies things := by
  induction h with
  | nil floor => exact .nil floor
  | cons habove hx _ ih =>
    have hlt := Nat.lt_of_le_of_lt hle habove
    exact .cons habove (hx.put (Nat.ne_of_gt hlt) o) (ih (Nat.le_of_lt hlt))

/-! ## out of the way -/

def FullUpTo (t : DescriptorTable α) (floor : Nat) : Prop :=
  ∀ n, stagingBase ≤ n → n ≤ floor → (t.get? n).isSome = true

theorem FullUpTo.lt_lowestFree {floor : Nat} (h : t.FullUpTo floor) :
    floor < t.lowestFree stagingBase := by
  by_contra hle
  have htaken := h _ (le_lowestFree t stagingBase) (Nat.not_lt.mp hle)
  rw [get?_lowestFree] at htaken
  cases htaken

/-- a copy at the lowest free number leaves no gap below it -/
theorem fullUpTo_put (t : DescriptorTable α) (o : Opening α) :
    (t.put (t.lowestFree stagingBase) o).FullUpTo (t.lowestFree stagingBase) := by
  intro n hle hn
  rw [get?_put]
  split
  · rfl
  · next hne => exact isSome_of_lt_lowestFree hle (Nat.lt_of_le_of_ne hn hne)

/-- **The copies ascend in the order of their sources**: each of them goes to the lowest free
number, and there is no gap below the one before it. What was open stays as it was, and so does
everything below the copies. -/
theorem ascends_stage {sources : List Nat} {things : List α} {floor : Nat}
    (h : List.Forall₂ t.RefersTo sources things) (hfull : t.FullUpTo floor) :
    ∃ copies t', t.stage sources = some (copies, t') ∧ t'.Ascends floor copies things ∧
      ∀ m, t.get? m ≠ none ∨ m < stagingBase → t'.get? m = t.get? m := by
  induction sources generalizing t things floor with
  | nil =>
    cases h
    exact ⟨[], t, rfl, .nil floor, fun _ _ => rfl⟩
  | cons n sources ih =>
    obtain ⟨x, things, ⟨o, ho, rfl⟩, hrest, rfl⟩ := List.forall₂_cons_left_iff.mp h
    let first := t.lowestFree stagingBase
    let staged := t.put first ⟨o.refersTo, true⟩
    have hfree : t.get? first = none := get?_lowestFree t stagingBase
    have hfirst : staged.get? first = some ⟨o.refersTo, true⟩ :=
      (get?_put t _ _ _).trans (if_pos rfl)
    have hkept : ∀ m, t.get? m ≠ none ∨ m < stagingBase → staged.get? m = t.get? m := by
      intro m hm
      refine (get?_put t _ _ _).trans (if_neg ?_)
      rintro rfl
      exact hm.elim (· hfree) (Nat.not_lt.mpr (le_lowestFree t stagingBase))
    obtain ⟨copies, t', hstage, hasc, hlasts⟩ :=
      ih (hrest.imp fun m x hm => hm.put (hm.ne_of_free hfree) _) (fullUpTo_put t _)
    refine ⟨first :: copies, t', ?_, .cons hfull.lt_lowestFree ⟨⟨_, true⟩, ?_, rfl⟩ hasc, ?_⟩
    · unfold stage
      rw [duplicateFrom_eq ho]
      show (stage staged sources).bind _ = _
      rw [hstage]
      rfl
    · rw [hlasts first (.inl (by rw [hfirst]; exact Option.some_ne_none _)), hfirst]
    · intro m hm
      rw [hlasts m (by rwa [hkept m hm]), hkept m hm]

/-! ## to their places -/

/-- things have been put to the numbers from `target` on, and nothing else has changed -/
structure Placed (t : DescriptorTable α) (target : Nat) (things : List α)
    (t' : DescriptorTable α) : Prop where
  placed : ∀ i x, things[i]? = some x → t'.get? (target + i) = some ⟨x, false⟩
  others : ∀ m, m < target ∨ target + things.length ≤ m → t'.get? m = t.get? m

theorem Placed.cons {things : List α} {x : α}
    (h : (t.put target ⟨x, false⟩).Placed (target + 1) things t') :
    t.Placed target (x :: things) t' := by
  constructor
  · intro i y hy
    cases i with
    | zero =>
      cases hy
      rw [Nat.add_zero, h.others target (.inl (Nat.lt_succ_self target)), get?_put, if_pos rfl]
    | succ i =>
      rw [← h.placed i y hy]
      congr 1
      omega
  · intro m hm
    rw [List.length_cons] at hm
    rw [h.others m (by omega), get?_put, if_neg (by omega)]

/-- **Copies that ascend from above their places are still there when their turns come**: a place
that runs into the copies is that of a later one. -/
theorem placed_place {floor : Nat} {copies : List Nat} {things : List α}
    (h : t.Ascends floor copies things) (hle : target ≤ floor) :
    ∃ t', t.place target copies = some t' ∧ t.Placed target things t' := by
  induction copies generalizing t target floor things with
  | nil =>
    cases h
    exact ⟨t, rfl, nofun, fun _ _ => rfl⟩
  | cons c copies ih =>
    obtain - | ⟨habove, ⟨o, ho, rfl⟩, hrest⟩ := h
    have hlt : target < c := Nat.lt_of_le_of_lt hle habove
    have hrest' := hrest.put (Nat.le_of_lt hlt) ⟨o.refersTo, false⟩
    obtain ⟨t', hplace, hplaced⟩ := ih hrest' hlt
    refine ⟨t', ?_, hplaced.cons⟩
    unfold place
    rw [copyOnto_eq ho (Nat.ne_of_gt hlt)]
    exact hplace

/-! ## both parts together -/

/-- what the next program is to have, it has -/
theorem get?_afterExec {x : α} (h : t.get? n = some ⟨x, false⟩) :
    (afterExec t).get? n = some ⟨x, false⟩ := by
  unfold afterExec get? at *
  induction t with
  | nil => cases h
  | cons e t ih =>
    obtain ⟨m, o⟩ := e
    rw [List.lookup_cons] at h
    by_cases hm : n = m
    · rw [show (n == m) = true from beq_iff_eq.mpr hm] at h
      cases h
      rw [List.filter_cons_of_pos (by simp), List.lookup_cons,
        show (n == m) = true from beq_iff_eq.mpr hm]
    · have hb : (n == m) = false := beq_eq_false_iff_ne.mpr hm
      rw [hb] at h
      by_cases hc : o.closeOnExec = true
      · rw [List.filter_cons_of_neg (by simpa using hc)]
        exact ih h
      · rw [List.filter_cons_of_pos (by simpa using hc), List.lookup_cons, hb]
        exact ih h

theorem exists_refersTo {descriptors : List Nat}
    (h : ∀ n ∈ descriptors, (t.get? n).isSome = true) :
    ∃ things, List.Forall₂ t.RefersTo descriptors things := by
  induction descriptors with
  | nil => exact ⟨[], .nil⟩
  | cons n descriptors ih =>
    obtain ⟨hn, hrest⟩ := List.forall_mem_cons.mp h
    obtain ⟨o, ho⟩ := Option.isSome_iff_exists.mp hn
    obtain ⟨things, hthings⟩ := ih hrest
    exact ⟨o.refersTo :: things, .cons ⟨o, ho, rfl⟩ hthings⟩

theorem getElem?_of_forall₂ {descriptors : List Nat} {things : List α} {i : Nat} {o : Opening α}
    (h : List.Forall₂ t.RefersTo descriptors things) (hn : descriptors[i]? = some n)
    (ho : t.get? n = some o) : things[i]? = some o.refersTo := by
  induction h generalizing i with
  | nil => cases hn
  | cons hx _ ih =>
    cases i with
    | zero =>
      cases hn
      obtain ⟨p, hp, rfl⟩ := hx
      cases ho.symm.trans hp
      rfl
    | succ i => exact ih hn

/-- **Placing descriptors is one parallel assignment.** Whatever is open in a launcher, however many
of its descriptors it hands over, and wherever they are: when the child has placed the copies, the
number `3 + i` refers to what the `i`-th of them refers to, and the next program finds it there. The
standard streams are as they were. -/
theorem handOver_places {descriptors : List Nat}
    (hopen : ∀ n ∈ descriptors, (t.get? n).isSome = true) :
    ∃ copies staged placed program, t.stage descriptors = some (copies, staged) ∧
      staged.place firstExtra.toNat copies = some placed ∧
      t.handOver descriptors = some program ∧
      (∀ i n o, descriptors[i]? = some n → t.get? n = some o →
        placed.get? (3 + i) = some ⟨o.refersTo, false⟩ ∧
        program.get? (3 + i) = some ⟨o.refersTo, false⟩) ∧
      ∀ m < 3, placed.get? m = t.get? m := by
  obtain ⟨things, hthings⟩ := exists_refersTo hopen
  -- nothing below the staging base counts, so that the copies ascend from there
  have hfull : t.FullUpTo (stagingBase - 1) := by
    intro n hle hn
    unfold stagingBase at hle hn
    omega
  obtain ⟨copies, staged, hstage, hasc, hlasts⟩ := ascends_stage hthings hfull
  have hle : firstExtra.toNat ≤ stagingBase - 1 := by decide
  obtain ⟨placed, hplace, hplaced⟩ := placed_place hasc hle
  refine ⟨copies, staged, placed, afterExec placed, hstage, hplace, ?_, ?_, ?_⟩
  · unfold handOver
    rw [hstage]
    show (staged.place firstExtra.toNat copies).bind _ = _
    rw [hplace]
    rfl
  · intro i n o hn ho
    have hx := getElem?_of_forall₂ hthings hn ho
    have hget : placed.get? (3 + i) = some ⟨o.refersTo, false⟩ := hplaced.placed i _ hx
    exact ⟨hget, get?_afterExec hget⟩
  · intro m hm
    have hbase : m < stagingBase := Nat.lt_trans hm (by decide)
    rw [hplaced.others m (.inl hm), hlasts m (.inr hbase)]

/-! ## more descriptors than there are numbers below the copies -/

namespace Crowded

/-- two descriptors that are open in each other's places, one of them closed by the next program,
and one where the first copy would go -/
def table : DescriptorTable String :=
  [(3, ⟨"b", false⟩), (4, ⟨"a", true⟩), (100, ⟨"c", false⟩)]

/-- the places reach up to number 253, and the copies begin at 101 -/
def descriptors : List Nat := 4 :: 3 :: List.replicate 248 100 ++ [4]

theorem all_open : ∀ n ∈ descriptors, (table.get? n).isSome = true := by
  intro n hn
  simp only [descriptors, List.cons_append, List.mem_cons, List.mem_append, List.mem_replicate,
    List.not_mem_nil, or_false] at hn
  obtain rfl | rfl | ⟨-, rfl⟩ | rfl := hn <;> rfl

end Crowded

theorem handOver_places_crowded :
    ∃ copies staged placed, Crowded.table.stage Crowded.descriptors = some (copies, staged) ∧
      staged.place 3 copies = some placed ∧ placed.get? 3 = some ⟨"a", false⟩ ∧
      placed.get? 4 = some ⟨"b", false⟩ ∧ placed.get? 110 = some ⟨"c", false⟩ ∧
      placed.get? 253 = some ⟨"a", false⟩ := by
  obtain ⟨copies, staged, placed, program, hstage, hplace, -, hat, -⟩ :=
    handOver_places Crowded.all_open
  refine ⟨copies, staged, placed, hstage, hplace, (hat 0 4 ⟨"a", true⟩ rfl rfl).1,
    (hat 1 3 ⟨"b", false⟩ rfl rfl).1, (hat 107 100 ⟨"c", false⟩ rfl rfl).1,
    (hat 250 4 ⟨"a", true⟩ rfl rfl).1⟩

end DescriptorTable
end Succession
