import Mathlib.Data.List.Basic
import Succession.Proofs.Listener.Places

/-!
# Several listeners of one address

Several registered listeners may have the same address. A look-up goes through the listeners in the
order of their slots, and a removal through the slots themselves; both come to the same listener,
the first that has the address. So whoever closes an address again and again removes its listeners
one after the other, in the order of their slots, and then finds none.

* `Pool.namesakes`           the registered listeners of an address, in the order of their slots;
* `Pool.Retired`             some listeners have been closed and removed, and that is all;
* `Pool.retired_remove`      one removal, which takes what a look-up finds;
* `Pool.retired_replicate`   many removals, one after the other;
* `Pool.closes_in_order`     look-ups and removals of an address, on every pool.
-/

namespace Succession.Pool

variable {p p' p'' : Pool} {id : ListenerId} {address : String}

/-- the registered listeners of an address, in the order of their slots -/
def namesakes (p : Pool) (address : String) : List ListenerId :=
  p.snapshot.filter fun id => p.address id == some address

theorem mem_namesakes : id ∈ p.namesakes address ↔
    id ∈ p.snapshot ∧ p.address id = some address := by
  unfold namesakes
  rw [List.mem_filter, beq_iff_eq]

/-- a look-up finds the first of them -/
theorem find?_eq_head? (p : Pool) (address : String) :
    p.find? address = (p.namesakes address).head? := List.head?_filter.symm

theorem get_eq (p : Pool) (address : String) :
    p.get address = (p.namesakes address).head?.elim (.error (.notFound address)) .ok := by
  unfold get
  rw [find?_eq_head?]
  cases (p.namesakes address).head? with
  | none => rfl
  | some id => rfl

/-! ## slots -/

theorem filterMap_vacate (test : ListenerId → Bool) (slots : List (Option ListenerId)) :
    ((vacate test slots).filterMap fun slot => slot) =
      (slots.filterMap fun slot => slot).eraseP test := by
  induction slots with
  | nil => rfl
  | cons slot slots ih =>
    cases slot with
    | none => exact ih
    | some id =>
      show _ = (id :: slots.filterMap fun slot => slot).eraseP test
      unfold vacate
      by_cases h : test id = true
      · rw [if_pos h, List.eraseP_cons_of_pos h]
        rfl
      · rw [if_neg h, List.eraseP_cons_of_neg h, ← ih]
        rfl

theorem filter_eraseP {α : Type} (test : α → Bool) (l : List α) :
    (l.eraseP test).filter test = (l.filter test).tail := by
  induction l with
  | nil => rfl
  | cons a l ih =>
    by_cases h : test a = true
    · rw [List.eraseP_cons_of_pos h, List.filter_cons_of_pos h, List.tail_cons]
    · rw [List.eraseP_cons_of_neg h, List.filter_cons_of_neg h, List.filter_cons_of_neg h, ih]

/-- whoever comes first among the listeners has the lowest place -/
theorem exists_lowest {test : ListenerId → Bool} (slots : List (Option ListenerId))
    (h : (slots.filterMap fun slot => slot).find? test = some id) :
    ∃ place : Nat, slots[place]?.join = some id ∧
      ∀ (lower : Nat) (other : ListenerId), slots[lower]?.join = some other →
        test other = true → place ≤ lower := by
  induction slots with
  | nil => cases h
  | cons slot slots ih =>
    have hlater (hrest : (slots.filterMap fun slot => slot).find? test = some id)
        (hslot : ∀ other, slot = some other → ¬ test other = true) :
        ∃ place : Nat, (slot :: slots)[place]?.join = some id ∧
          ∀ (lower : Nat) (other : ListenerId), (slot :: slots)[lower]?.join = some other →
            test other = true → place ≤ lower := by
      obtain ⟨place, hplace, hlowest⟩ := ih hrest
      refine ⟨place + 1, hplace, ?_⟩
      intro lower other hother htest
      cases lower with
      | zero => exact absurd htest (hslot other hother)
      | succ lower => exact Nat.succ_le_succ (hlowest lower other hother htest)
    cases slot with
    | none => exact hlater h nofun
    | some first =>
      by_cases htest : test first = true
      · have hfirst : first = id := by
          have h : (first :: slots.filterMap fun slot => slot).find? test = some id := h
          rw [List.find?_cons_of_pos htest] at h
          exact Option.some.inj h
        exact ⟨0, congrArg some hfirst, fun lower _ _ _ => Nat.zero_le lower⟩
      · have hrest : (slots.filterMap fun slot => slot).find? test = some id := by
          have h : (first :: slots.filterMap fun slot => slot).find? test = some id := h
          rwa [List.find?_cons_of_neg htest] at h
        exact hlater hrest fun other hother => Option.some.inj hother ▸ htest

/-! ## removals -/

/-- from one pool to another these listeners have been closed and removed, and that is all -/
structure Retired (gone : List ListenerId) (p p' : Pool) : Prop where
  /-- nobody else has lost a place, or been given one -/
  places : ∀ place id, p'.occupant place = some id ↔ p.occupant place = some id ∧ id ∉ gone
  closed : ∀ id, p'.isClosed id = (p.isClosed id || decide (id ∈ gone))
  address : ∀ id, p'.address id = p.address id
  /-- connections stay counted, also those of a listener that has gone -/
  inFlight : ∀ id, p'.inFlight id = p.inFlight id

theorem Retired.refl (p : Pool) : Retired [] p p where
  places place id := by simp
  closed id := by simp
  address _ := rfl
  inFlight _ := rfl

theorem Retired.trans {gone gone' : List ListenerId} (h : Retired gone p p')
    (h' : Retired gone' p' p'') : Retired (gone ++ gone') p p'' where
  places place id := by
    rw [h'.places, h.places, List.mem_append, not_or, and_assoc]
  closed id := by
    rw [h'.closed, h.closed, Bool.or_assoc]
    simp
  address id := (h'.address id).trans (h.address id)
  inFlight id := (h'.inFlight id).trans (h.inFlight id)

/-- without a listener of the address, a removal does nothing -/
theorem remove_of_not_found (h : p.find? address = none) :
    p.remove address = (.error (.notFound address), p) := by
  unfold remove
  rw [h]

theorem remove_of_found (h : p.find? address = some id) :
    p.remove address = (.ok (), { (p.closeOne id).2 with
      slots := vacate (fun id => p.address id == some address) p.slots }) := by
  unfold remove
  rw [h]

/-- **One removal** takes what a look-up finds, and nothing else. -/
theorem retired_remove (hp : p.Tidy) (address : String) :
    Retired (p.find? address).toList p (p.remove address).2 := by
  have hplaces (place : Nat) (other : ListenerId) :
      (p.remove address).2.occupant place = some other ↔
        p.occupant place = some other ∧ other ∉ (p.find? address).toList := by
    have hdid : (p.did (.remove address)).occupant place = some other ↔ _ :=
      occupant_did hp (.remove address)
    rw [Option.mem_toList]
    constructor
    · intro h
      rcases hdid.mp h with h | ⟨_, h, -⟩
      · exact h
      · cases h
    · intro h
      exact hdid.mpr (.inl h)
  cases hfind : p.find? address with
  | none =>
    rw [remove_of_not_found hfind]
    exact .refl p
  | some id =>
    have hlt : id < p.listeners.length := hp.sound id (List.mem_of_find?_eq_some hfind)
    rw [hfind, remove_of_found hfind] at hplaces
    rw [remove_of_found hfind]
    refine ⟨hplaces, ?_, p.address_closeOne id, ?_⟩
    · intro other
      refine (p.isClosed_closeOne id other).trans ?_
      by_cases hother : other = id
      · have hmade : (p.listener? other).isSome = true := by
          rw [hother, show p.listener? id = some _ from List.getElem?_eq_getElem hlt]
          rfl
        rw [hmade]
        simp [hother]
      · simp [hother]
    · intro other
      show (p.closeOne id).2.trackers.active other = p.trackers.active other
      rw [trackers_closeOne]

/-- the listeners of an address that a removal leaves -/
theorem namesakes_remove (p : Pool) (address : String) :
    (p.remove address).2.namesakes address = (p.namesakes address).tail := by
  cases hfind : p.find? address with
  | none =>
    have hnone : p.namesakes address = [] := by
      rw [find?_eq_head?] at hfind
      exact List.head?_eq_none_iff.mp hfind
    rw [remove_of_not_found hfind, hnone]
    rfl
  | some id =>
    rw [remove_of_found hfind]
    show List.filter _ ((vacate _ p.slots).filterMap fun slot => slot) = _
    have hsame : (fun other => (p.closeOne id).2.address other == some address) =
        fun other => p.address other == some address := by
      funext other
      rw [address_closeOne]
    rw [filterMap_vacate]
    show List.filter (fun other => (p.closeOne id).2.address other == some address) _ = _
    rw [hsame, filter_eraseP]
    rfl

/-- **Many removals** take the listeners of the address in the order of their slots. -/
theorem retired_replicate (hp : p.Tidy) (address : String) (n : Nat) :
    Retired ((p.namesakes address).take n) p (p.run (List.replicate n (.remove address))) ∧
      (p.run (List.replicate n (.remove address))).namesakes address =
        (p.namesakes address).drop n := by
  induction n generalizing p with
  | zero => exact ⟨.refl p, rfl⟩
  | succ n ih =>
    have hfirst := retired_remove hp address
    have hleft := namesakes_remove p address
    obtain ⟨hlater, hend⟩ := ih (hp.did (.remove address))
    rw [show (p.did (.remove address)).namesakes address = _ from hleft] at hlater hend
    show Retired _ p ((p.did (.remove address)).run _) ∧
      ((p.did (.remove address)).run (List.replicate n (.remove address))).namesakes address = _
    constructor
    · have hboth := hfirst.trans hlater
      rw [find?_eq_head?] at hboth
      have htake : (p.namesakes address).head?.toList ++ (p.namesakes address).tail.take n =
          (p.namesakes address).take (n + 1) := by
        cases p.namesakes address <;> simp
      rwa [htake] at hboth
    · rw [hend, List.drop_tail]

/-! ## closing an address again and again -/

/-- a look-up and a removal of an address, where `next` is the first listener that has it, if there
is any -/
structure Agree (p : Pool) (address : String) (next : Option ListenerId) : Prop where
  get : p.get address = next.elim (.error (.notFound address)) .ok
  /-- of all that have the address, it is in the lowest slot -/
  lowest : ∀ id, next = some id → p.address id = some address ∧ ∃ place,
    p.occupant place = some id ∧ ∀ lower other, p.occupant lower = some other →
      p.address other = some address → place ≤ lower
  answer : (p.remove address).1 = next.elim (.error (.notFound address)) fun _ => .ok ()
  removed : Retired next.toList p (p.remove address).2
  /-- and a removal that finds nothing leaves the pool as it is -/
  untouched : next = none → (p.remove address).2 = p

theorem agree (hp : p.Tidy) (address : String) :
    p.Agree address (p.namesakes address).head? := by
  have hget := p.get_eq address
  rw [← find?_eq_head?] at hget ⊢
  refine ⟨hget, ?_, ?_, retired_remove hp address, ?_⟩
  · intro id hfind
    have hhit : (p.address id == some address) = true :=
      List.find?_some (p := fun id => p.address id == some address) hfind
    obtain ⟨place, hplace, hlowest⟩ := exists_lowest p.slots hfind
    refine ⟨eq_of_beq hhit, place, hplace, ?_⟩
    intro lower other hother hsame
    exact hlowest lower other hother (beq_iff_eq.mpr hsame)
  · cases hfind : p.find? address with
    | none =>
      rw [remove_of_not_found hfind]
      rfl
    | some id =>
      rw [remove_of_found hfind]
      rfl
  · intro hfind
    rw [remove_of_not_found hfind]

/-- **Whoever closes an address again and again** removes its listeners one after the other, in the
order of their slots, each of them the one that a look-up finds just before; then nothing is found
any more. No other listener is moved or closed, and the connections of all stay counted. -/
theorem closes_in_order (deeds : List Deed) (address : String) (n : Nat) :
    let before := empty.run deeds
    let same := before.namesakes address
    let after := before.run (List.replicate n (.remove address))
    (∀ id, id ∈ same ↔ id ∈ before.snapshot ∧ before.address id = some address) ∧
      same.Sublist before.snapshot ∧ before.snapshot.Nodup ∧
      Retired (same.take n) before after ∧ after.Agree address same[n]? ∧
      (same.length ≤ n → after.get address = .error (.notFound address) ∧
        after.remove address = (.error (.notFound address), after)) := by
  intro before same after
  have hp : before.Tidy := tidy_empty.run deeds
  obtain ⟨hretired, hleft⟩ := retired_replicate hp address n
  have hagree : after.Agree address same[n]? := by
    have h := agree (hp.run (List.replicate n (.remove address))) address
    rwa [hleft, List.head?_drop] at h
  refine ⟨fun id => mem_namesakes, List.filter_sublist, hp.nodup, hretired, hagree, ?_⟩
  intro hall
  have hnone : same[n]? = none := List.getElem?_eq_none hall
  rw [hnone] at hagree
  exact ⟨hagree.get, Prod.ext hagree.answer (hagree.untouched rfl)⟩

/-- the listeners in the first and the third slot go, and the one between them stays -/
example :
    let p := empty.run [.add ⟨0, "a"⟩, .add ⟨1, "b"⟩, .add ⟨0, "a"⟩]
    (p.run [.remove "a"]).slots = [none, some 1, some 2] ∧
      (p.run [.remove "a", .remove "a", .remove "a"]).slots = [none, some 1, none] := by decide

end Succession.Pool
