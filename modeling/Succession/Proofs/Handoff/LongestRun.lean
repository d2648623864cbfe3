import Mathlib.Data.Finset.Card
import Mathlib.Order.Bounds.Defs
import Succession.Proofs.Handoff.Foreign

/-!
# The longest run of slots

The loop that reads slots looks at one descriptor after the other, and only a variable without a
slot ends it. It comes to its end because every descriptor has a variable of its own, so that an
environment cannot have slots for ever; and for the same reason the slots can be put back in any
order.

* `slotAt?`                        the slot that the variable of a descriptor holds;
* `SlotReading`, `turn?`, `after?` the loop, one turn, and so many turns;
* `SlotRun.slotAt?_eq`, `SlotRun.isLeast`, `SlotRun.of_same`   a run and its variables;
* `SlotRun.after?_eq`              the loop makes as many turns as the run has slots;
* `SlotRun.length_le_names`        which are no more than there are variables;
* `SlotRun.get?_restored`          the variables of a run once its slots are put back;
* `readSlots_longest`              everything about the slots that are read.
-/

namespace Succession

/-- the slot that the variable of a descriptor holds -/
def slotAt? (seen : Environment) (index : Descriptor) : Option Slot :=
  (seen.get? (descriptorVariable index)).bind (Slot.decode? index)

def Variables.names {α : Type} (vars : Variables α) : Finset String :=
  (vars.entries.map Prod.fst).toFinset

/-! ## the loop -/

/-- how far the loop has come -/
structure SlotReading where
  /-- the descriptor that it looks at next -/
  index : Descriptor
  slots : List Slot
deriving DecidableEq, Repr

namespace SlotReading

def start : SlotReading := ⟨firstExtra, []⟩

def turn? (seen : Environment) (r : SlotReading) : Option SlotReading :=
  (slotAt? seen r.index).map fun slot => ⟨r.index + 1, r.slots ++ [slot]⟩

def after? (seen : Environment) : Nat → Option SlotReading
  | 0 => some start
  | n + 1 => (after? seen n).bind (turn? seen)

end SlotReading

/-! ## a run and its variables -/

namespace SlotRun

variable {seen other : Environment} {index : Int} {slots : List Slot} {n : Nat}

/-- **The slots of a run** are those of its variables one by one, and behind them there is none. -/
theorem slotAt?_eq (h : SlotRun seen index slots) (hn : n ≤ slots.length) :
    slotAt? seen (index + n) = slots[n]? := by
  induction h generalizing n with
  | @done index hend =>
    obtain rfl := Nat.le_zero.mp hn
    rw [Int.natCast_zero, Int.add_zero]
    exact hend
  | @slot index slot slots hs rest ih =>
    cases n with
    | zero =>
      rw [Int.natCast_zero, Int.add_zero]
      exact hs
    | succ n =>
      rw [add_natCast_succ, List.getElem?_cons_succ]
      exact ih (Nat.le_of_succ_le_succ hn)

theorem slotAt?_of_getElem? (h : SlotRun seen index slots) {slot : Slot} (hn : slots[n]? = some slot) :
    slotAt? seen (index + n) = some slot :=
  (h.slotAt?_eq (Nat.le_of_lt (List.getElem?_eq_some_iff.mp hn).1)).trans hn

theorem noSlotAt (h : SlotRun seen index slots) : NoSlotAt seen (index + slots.length) :=
  (h.slotAt?_eq (Nat.le_refl _)).trans (List.getElem?_eq_none (Nat.le_refl _))

/-- **A run ends** at the first variable that holds no slot. -/
theorem isLeast (h : SlotRun seen index slots) :
    IsLeast {k : Nat | NoSlotAt seen (index + k)} slots.length := by
  refine ⟨h.noSlotAt, fun k hk => ?_⟩
  by_contra hlt
  have hslot := h.slotAt?_eq (Nat.le_of_not_le hlt)
  rw [show slotAt? seen (index + k) = none from hk,
    List.getElem?_eq_getElem (Nat.lt_of_not_le hlt)] at hslot
  cases hslot

/-- **No other variable has an influence** on a run than its own and the one behind it. -/
theorem of_same (h : SlotRun seen index slots)
    (hsame : ∀ n : Nat, n < slots.length →
      other.get? (descriptorVariable (index + n)) = seen.get? (descriptorVariable (index + n)))
    (hend : NoSlotAt other (index + slots.length)) : SlotRun other index slots := by
  induction h with
  | done =>
    rw [List.length_nil, Int.natCast_zero, Int.add_zero] at hend
    exact .done hend
  | @slot index slot slots hs rest ih =>
    refine .slot ?_ (ih (fun n hn => ?_) ?_)
    · have hhere := hsame 0 (Nat.succ_pos _)
      rw [Int.natCast_zero, Int.add_zero] at hhere
      rwa [hhere]
    · rw [← add_natCast_succ]
      exact hsame (n + 1) (Nat.succ_lt_succ hn)
    · rwa [List.length_cons, add_natCast_succ] at hend

/-! ## the loop comes to its end -/

/-- **The loop** makes as many turns as the run has slots, and not one more. -/
theorem after?_eq (h : SlotRun seen firstExtra slots) (n : Nat) :
    SlotReading.after? seen n =
      if n ≤ slots.length then some ⟨firstExtra + n, slots.take n⟩ else none := by
  induction n with
  | zero => rfl
  | succ n ih =>
    unfold SlotReading.after?
    rw [ih]
    by_cases hn : n ≤ slots.length
    · rw [if_pos hn, Option.bind_some]
      unfold SlotReading.turn?
      rw [h.slotAt?_eq hn]
      by_cases hmore : n < slots.length
      · rw [if_pos (show n + 1 ≤ slots.length from hmore), List.getElem?_eq_getElem hmore,
          Option.map_some, List.take_append_getElem hmore, Int.natCast_succ, ← Int.add_assoc]
      · rw [if_neg (show ¬ n + 1 ≤ slots.length from hmore),
          List.getElem?_eq_none (Nat.le_of_not_lt hmore), Option.map_none]
    · rw [if_neg hn, if_neg (show ¬ n + 1 ≤ slots.length by omega), Option.bind_none]

/-- a run has no more slots than there are variables -/
theorem length_le_names (h0 : 0 ≤ index) (h : SlotRun seen index slots) :
    slots.length ≤ seen.names.card := by
  have hsubset : (slotNames slots).toFinset ⊆ seen.names := by
    intro name hname
    obtain ⟨slot, hmem, rfl⟩ := List.mem_map.mp (List.mem_toFinset.mp hname)
    obtain ⟨n, hn⟩ := List.mem_iff_getElem?.mp hmem
    have hlt : n < slots.length := (List.getElem?_eq_some_iff.mp hn).1
    rw [SlotRun.index_eq (h.slotAt?_of_getElem? hn)]
    exact List.mem_toFinset.mpr (Variables.mem_keys_of_get? (h.present hlt))
  have hcard := Finset.card_le_card hsubset
  rwa [List.toFinset_card_of_nodup (h.nodup h0), slotNames, List.length_map] at hcard

/-! ## putting the values back -/

/-- the previous value of a slot is the one that it was written over -/
theorem previous_eq (h : SlotRun seen index slots) {slot : Slot} (hslot : slot ∈ slots)
    {name : Path} {displaced : Option String}
    (hwritten : seen.get? (descriptorVariable slot.index) =
      some (Slot.encode ⟨slot.index, name, displaced⟩)) : slot.previous = displaced := by
  obtain ⟨n, hn⟩ := List.mem_iff_getElem?.mp hslot
  have hread := h.slotAt?_of_getElem? hn
  rw [← SlotRun.index_eq hread] at hread
  have hdecoded : slotAt? seen slot.index = some ⟨slot.index, name, displaced⟩ := by
    unfold slotAt?
    rw [hwritten]
    exact Slot.decode?_encode ⟨slot.index, name, displaced⟩
  exact congrArg Slot.previous (Option.some.inj (hread.symm.trans hdecoded))

/-- **In whatever order** the slots of a run are restored, each of its variables gets its previous
value, and the others are left alone. -/
theorem get?_restored (h : SlotRun seen index slots) (h0 : 0 ≤ index) {order : List Slot}
    (hperm : order.Perm slots) :
    (∀ slot ∈ slots,
      (restoreSlots seen order).get? (descriptorVariable slot.index) = slot.previous) ∧
    ∀ name ∉ slotNames slots, (restoreSlots seen order).get? name = seen.get? name := by
  have hnames : (slotNames order).Perm (slotNames slots) := hperm.map _
  constructor
  · intro slot hslot
    exact get?_restoreSlots_of_mem seen (hnames.nodup_iff.mpr (h.nodup h0))
      (hperm.mem_iff.mpr hslot)
  · intro name hname
    exact get?_restoreSlots_of_not_mem seen fun hmem => hname (hnames.mem_iff.mp hmem)

end SlotRun

/-! ## everything about the slots that are read -/

/-- **Reading slots ends, with the longest run.** The loop makes one turn for each slot, its index
stays in range, and it ends at the first variable that is missing or holds no slot; the slots are
those of the variables before it, and nothing else has an influence on them. Putting the previous
values back, in whatever order, leaves each variable of the run as it was before a slot was written
over it, and every other one as it is. -/
theorem readSlots_longest (seen : Environment) (hfew : seen.names.card < 2 ^ 31 - 3) :
    let slots := readSlots seen
    (∀ n : Nat, SlotReading.after? seen n =
      if n ≤ slots.length then some ⟨firstExtra + n, slots.take n⟩ else none) ∧
    firstExtra + slots.length ≤ 2 ^ 31 - 1 ∧
    IsLeast {k : Nat | NoSlotAt seen (firstExtra + k)} slots.length ∧
    (∀ (i : Nat) (slot : Slot), slots[i]? = some slot →
      slot.index = firstExtra + i ∧ slotAt? seen (firstExtra + i) = some slot) ∧
    (∀ other : Environment,
      (∀ i : Nat, i < slots.length → other.get? (descriptorVariable (firstExtra + i)) =
        seen.get? (descriptorVariable (firstExtra + i))) →
      NoSlotAt other (firstExtra + slots.length) → readSlots other = slots) ∧
    ∀ order : List Slot, order.Perm slots →
      (∀ slot ∈ slots, (restoreSlots seen order).get? (descriptorVariable slot.index) =
        slot.previous ∧
        ∀ (name : Path) (displaced : Option String),
          seen.get? (descriptorVariable slot.index) =
            some (Slot.encode ⟨slot.index, name, displaced⟩) →
          (restoreSlots seen order).get? (descriptorVariable slot.index) = displaced) ∧
      ∀ name ∉ slotNames slots, (restoreSlots seen order).get? name = seen.get? name := by
  intro slots
  have hrun : SlotRun seen firstExtra slots := slotRun_readSlots seen
  refine ⟨hrun.after?_eq, ?_, hrun.isLeast, ?_, ?_, ?_⟩
  · have hle := hrun.length_le_names (by decide)
    show (3 : Int) + slots.length ≤ 2 ^ 31 - 1
    omega
  · intro i slot hi
    have hread := hrun.slotAt?_of_getElem? hi
    exact ⟨SlotRun.index_eq hread, hread⟩
  · exact fun other hsame hend => (hrun.of_same hsame hend).readSlots_eq
  · intro order hperm
    obtain ⟨hrestored, hothers⟩ := hrun.get?_restored (by decide) hperm
    refine ⟨fun slot hslot => ⟨hrestored slot hslot, fun name displaced hwritten => ?_⟩, hothers⟩
    exact (hrestored slot hslot).trans (hrun.previous_eq hslot hwritten)

/-- two slots, the first written over a value of its own, and a third behind a gap -/
def gapped : Environment :=
  ⟨[("MOLT_FD_3", "612e6c6f67:mine"), ("MOLT_FD_4", "622E6c6f67"), ("MOLT_FD_6", "642e6c6f67")]⟩

theorem readSlots_longest_gapped :
    gapped.names.card < 2 ^ 31 - 3 ∧ (readSlots gapped).length = 2 ∧
    SlotReading.after? gapped 3 = none ∧
    (restoreSlots gapped (readSlots gapped).reverse).get? "MOLT_FD_3" = some "mine" ∧
    (restoreSlots gapped (readSlots gapped).reverse).get? "MOLT_FD_6" = some "642e6c6f67" := by
  have hfew : gapped.names.card < 2 ^ 31 - 3 := by
    refine Nat.lt_of_le_of_lt (List.toFinset_card_le _) ?_
    decide
  have hread : readSlots gapped =
      [⟨3, ⟨[0x61, 0x2e, 0x6c, 0x6f, 0x67]⟩, some "mine"⟩,
        ⟨4, ⟨[0x62, 0x2e, 0x6c, 0x6f, 0x67]⟩, none⟩] := by decide
  obtain ⟨hafter, -, -, -, -, hrestore⟩ := readSlots_longest gapped hfew
  obtain ⟨hrun, hothers⟩ := hrestore _ (List.reverse_perm _)
  refine ⟨hfew, by rw [hread]; rfl, ?_, ?_, ?_⟩
  · rw [hafter 3, hread]
    rfl
  · exact (hrun ⟨3, ⟨[0x61, 0x2e, 0x6c, 0x6f, 0x67]⟩, some "mine"⟩ (by rw [hread]; decide)).1
  · rw [hothers "MOLT_FD_6" (by rw [hread]; decide)]
    rfl

end Succession
