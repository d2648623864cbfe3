import Mathlib.Data.List.Infix
import Mathlib.Data.List.Nodup
import Mathlib.Data.List.Perm.Basic
import Mathlib.Order.Bounds.Basic
import Succession.Proofs.Listener.Pool

/-!
# Places in the pool

A listener gets the first free place when it is registered, and keeps it until its address is closed
and the pool lets go of it, whatever is done to the pool in between. Nothing else frees a place, so
there are as many places as there were ever listeners registered at one time.

* `Pool.occupant`          who has a place;
* `Pool.Deed`, `Pool.run`  what is done to a pool, and a history of it;
* `Pool.occupant_did`      one deed: who has a place afterwards;
* `Pool.occupant_run`      a whole history;
* `Pool.keeps_places`      the places of a pool, from its history.
-/

namespace Succession.Pool

/-! ## slots -/

section
variable {slots : List (Option ListenerId)} {test : ListenerId → Bool} {id : ListenerId}

theorem getElem?_fill (slots : List (Option ListenerId)) (place : Nat) :
    (fill id slots)[place]?.join =
      if place = slots.findIdx Option.isNone then some id else slots[place]?.join := by
  induction slots generalizing place with
  | nil => cases place <;> simp [fill]
  | cons slot slots ih =>
    cases slot with
    | none => cases place <;> simp [fill, List.findIdx_cons]
    | some other => cases place <;> simp [fill, List.findIdx_cons, ih]

theorem length_fill (slots : List (Option ListenerId)) :
    (fill id slots).length = max slots.length (slots.findIdx Option.isNone + 1) := by
  induction slots with
  | nil => rfl
  | cons slot slots ih =>
    cases slot with
    | none => simp [fill, List.findIdx_cons]
    | some other =>
      simp [fill, List.findIdx_cons, ih]

theorem perm_fill (slots : List (Option ListenerId)) :
    ((fill id slots).filterMap fun slot => slot).Perm (id :: slots.filterMap fun slot => slot) := by
  induction slots with
  | nil => exact .refl _
  | cons slot slots ih =>
    cases slot with
    | none => exact .refl _
    | some other => exact (ih.cons other).trans (.swap ..)

theorem sublist_vacate (test : ListenerId → Bool) (slots : List (Option ListenerId)) :
    ((vacate test slots).filterMap fun slot => slot).Sublist
      (slots.filterMap fun slot => slot) := by
  induction slots with
  | nil => exact .refl _
  | cons slot slots ih =>
    cases slot with
    | none => exact ih
    | some other =>
      unfold vacate
      split
      · exact List.sublist_cons_self ..
      · exact ih.cons_cons other

theorem length_vacate (test : ListenerId → Bool) (slots : List (Option ListenerId)) :
    (vacate test slots).length = slots.length := by
  induction slots with
  | nil => rfl
  | cons slot slots ih =>
    cases slot with
    | none => simp [vacate, ih]
    | some other =>
      unfold vacate
      split <;> simp [ih]

/-- nobody passes the test -/
theorem vacate_eq_self (h : (slots.filterMap fun slot => slot).find? test = none) :
    vacate test slots = slots := by
  induction slots with
  | nil => rfl
  | cons slot slots ih =>
    cases slot with
    | none => exact congrArg (none :: ·) (ih h)
    | some other =>
      have hnone : ∀ id ∈ other :: slots.filterMap fun slot => slot, ¬ test id = true :=
        List.find?_eq_none.mp h
      obtain ⟨hother, hrest⟩ := List.forall_mem_cons.mp hnone
      unfold vacate
      rw [if_neg hother, ih (List.find?_eq_none.mpr hrest)]

theorem mem_filterMap_of_getElem? {place : Nat} (h : slots[place]?.join = some id) :
    id ∈ slots.filterMap fun slot => slot := by
  rw [Option.join_eq_some_iff] at h
  exact List.mem_filterMap.mpr ⟨some id, List.mem_of_getElem? h, rfl⟩

/-- the first that passes the test loses its place, and nobody else does -/
theorem getElem?_vacate (hnodup : (slots.filterMap fun slot => slot).Nodup) (place : Nat) :
    (vacate test slots)[place]?.join = some id ↔
      slots[place]?.join = some id ∧
        (slots.filterMap fun slot => slot).find? test ≠ some id := by
  induction slots generalizing place with
  | nil => simp [vacate]
  | cons slot slots ih =>
    cases slot with
    | none =>
      cases place with
      | zero => simp [vacate]
      | succ place => simpa [vacate] using ih hnodup place
    | some other =>
      obtain ⟨hother, hrest⟩ := List.nodup_cons.mp hnodup
      by_cases htest : test other = true
      · cases place with
        | zero => simp [vacate, htest]
        | succ place =>
          have hne (h : slots[place]?.join = some id) : other ≠ id := by
            rintro rfl
            exact hother (mem_filterMap_of_getElem? h)
          simpa [vacate, htest] using hne
      · cases place with
        | zero =>
          have hne (h : other = id) : (slots.filterMap fun slot => slot).find? test ≠ some id := by
            intro hfind
            exact htest (h ▸ List.find?_some hfind)
          simpa [vacate, htest] using hne
        | succ place => simpa [vacate, htest] using ih hrest place

theorem getElem?_injective (hnodup : (slots.filterMap fun slot => slot).Nodup) {place place' : Nat}
    (h : slots[place]?.join = some id) (h' : slots[place']?.join = some id) : place = place' := by
  induction slots generalizing place place' with
  | nil => simp at h
  | cons slot slots ih =>
    cases slot with
    | none =>
      cases place with
      | zero => simp at h
      | succ place =>
        cases place' with
        | zero => simp at h'
        | succ place' => exact congrArg (· + 1) (ih hnodup (by simpa using h) (by simpa using h'))
    | some other =>
      obtain ⟨hother, hrest⟩ := List.nodup_cons.mp hnodup
      cases place with
      | zero =>
        cases place' with
        | zero => rfl
        | succ place' =>
          obtain rfl : other = id := by simpa using h
          exact absurd (mem_filterMap_of_getElem? (by simpa using h')) hother
      | succ place =>
        cases place' with
        | zero =>
          obtain rfl : other = id := by simpa using h'
          exact absurd (mem_filterMap_of_getElem? (by simpa using h)) hother
        | succ place' => exact congrArg (· + 1) (ih hrest (by simpa using h) (by simpa using h'))

theorem filterMap_eq_range (slots : List (Option ListenerId)) :
    (slots.filterMap fun slot => slot) =
      (List.range slots.length).filterMap fun place => slots[place]?.join := by
  induction slots with
  | nil => rfl
  | cons slot slots ih =>
    rw [List.length_cons, List.range_succ_eq_map]
    cases slot with
    | none => simpa [List.filterMap_map, Function.comp_def] using ih
    | some other => simpa [List.filterMap_map, Function.comp_def] using ih

/-- without a hole there is a listener for every place -/
theorem length_filterMap_of_full (h : slots.findIdx Option.isNone = slots.length) :
    (slots.filterMap fun slot => slot).length = slots.length := by
  have hfull : ∀ slot ∈ slots, slot.isNone = false := List.findIdx_eq_length.mp h
  induction slots with
  | nil => rfl
  | cons slot slots ih =>
    obtain ⟨hslot, hrest⟩ := List.forall_mem_cons.mp hfull
    cases slot with
    | none => cases hslot
    | some other => simpa using ih (List.findIdx_eq_length.mpr hrest) hrest

end

/-! ## what is done to a pool -/

inductive Deed where
  | add (socket : Socket)
  /-- an address is closed -/
  | remove (address : String)
  | closeAll
  /-- whoever has the listener closes it -/
  | closeOne (id : ListenerId)
  | get (address : String)
  | snapshot
  /-- a connection comes, or goes -/
  | enter (id : ListenerId)
  | leave (id : ListenerId)

def did (p : Pool) : Deed → Pool
  | .add socket => (p.add socket).2
  | .remove address => (p.remove address).2
  | .closeAll => p.closeAll
  | .closeOne id => (p.closeOne id).2
  | .get _ | .snapshot => p
  | .enter id => p.enter id
  | .leave id => p.drop id

def run (p : Pool) (deeds : List Deed) : Pool := deeds.foldl did p

def Deed.Removes (p : Pool) (id : ListenerId) : Deed → Prop
  | .remove address => p.find? address = some id
  | _ => False

/-- the listener loses its place in the course of a history -/
def Loses (p : Pool) (id : ListenerId) (deeds : List Deed) : Prop :=
  ∃ before deed after, deeds = before ++ deed :: after ∧ deed.Removes (p.run before) id

def occupant (p : Pool) (place : Nat) : Option ListenerId := p.slots[place]?.join

/-- the first place that nobody has -/
def vacancy (p : Pool) : Nat := p.slots.findIdx Option.isNone

/-- every registered listener was made, and has one place -/
structure Tidy (p : Pool) : Prop where
  sound : p.Sound
  nodup : p.snapshot.Nodup

section
variable {p : Pool} {id : ListenerId} {place : Nat} {deed : Deed} {deeds : List Deed}

theorem run_append (p : Pool) (deeds more : List Deed) :
    p.run (deeds ++ more) = (p.run deeds).run more := List.foldl_append

theorem slots_closeAll (p : Pool) : p.closeAll.slots = p.slots := by
  unfold Pool.closeAll
  generalize p.snapshot = ids
  induction ids generalizing p with
  | nil => rfl
  | cons id ids ih => exact (ih (p.closeOne id).2).trans (slots_closeOne p id)

theorem listeners_closeAll (p : Pool) : p.closeAll.listeners.length = p.listeners.length := by
  unfold Pool.closeAll
  generalize p.snapshot = ids
  induction ids generalizing p with
  | nil => rfl
  | cons id ids ih => exact (ih (p.closeOne id).2).trans (listeners_closeOne p id)

/-- the slots that a deed leaves behind -/
theorem slots_did (p : Pool) (deed : Deed) :
    (p.did deed).slots = match deed with
      | .add _ => fill p.listeners.length p.slots
      | .remove address => vacate (fun id => p.address id == some address) p.slots
      | _ => p.slots := by
  cases deed with
  | remove address =>
    show (p.remove address).2.slots = _
    unfold Pool.remove
    cases hfind : p.find? address with
    | some id => rfl
    | none => exact (vacate_eq_self hfind).symm
  | closeAll => exact slots_closeAll p
  | closeOne id => exact slots_closeOne p id
  | add | get | snapshot | enter | leave => rfl

theorem listeners_did (p : Pool) (deed : Deed) :
    (p.did deed).listeners.length = p.listeners.length + match deed with
      | .add _ => 1
      | _ => 0 := by
  cases deed with
  | add socket => exact List.length_append
  | remove address =>
    show (p.remove address).2.listeners.length = _
    unfold Pool.remove
    split
    · rfl
    · exact listeners_closeOne p _
  | closeAll => exact listeners_closeAll p
  | closeOne id => exact listeners_closeOne p id
  | get | snapshot | enter | leave => rfl

theorem Tidy.did (hp : p.Tidy) (deed : Deed) : (p.did deed).Tidy := by
  constructor
  · cases deed with
    | add socket => exact hp.sound.add socket
    | remove address => exact hp.sound.remove address
    | closeAll => exact hp.sound.closeAll
    | closeOne id => exact hp.sound.closeOne id
    | get | snapshot | enter | leave => exact hp.sound
  · have hslots := slots_did p deed
    show ((p.did deed).slots.filterMap fun slot => slot).Nodup
    rw [hslots]
    cases deed with
    | add socket =>
      have hnew : p.listeners.length ∉ p.snapshot := fun h => Nat.lt_irrefl _ (hp.sound _ h)
      exact (perm_fill p.slots).nodup_iff.mpr (List.nodup_cons.mpr ⟨hnew, hp.nodup⟩)
    | remove address => exact hp.nodup.sublist (sublist_vacate _ p.slots)
    | closeAll | closeOne | get | snapshot | enter | leave => exact hp.nodup

theorem Tidy.run (hp : p.Tidy) (deeds : List Deed) : (p.run deeds).Tidy := by
  induction deeds generalizing p with
  | nil => exact hp
  | cons deed deeds ih => exact ih (hp.did deed)

theorem tidy_empty : empty.Tidy := ⟨sound_empty, .nil⟩

/-! ## who has a place -/

/-- the first free place is free, and those before it are not -/
theorem occupant_vacancy (p : Pool) :
    p.occupant p.vacancy = none ∧ ∀ place < p.vacancy, p.occupant place ≠ none := by
  constructor
  · show p.slots[p.slots.findIdx Option.isNone]?.join = none
    by_cases hlt : p.slots.findIdx Option.isNone < p.slots.length
    · have hfree := List.findIdx_getElem (p := Option.isNone) (w := hlt)
      rw [List.getElem?_eq_getElem hlt]
      simpa using hfree
    · rw [List.getElem?_eq_none (Nat.le_of_not_lt hlt)]
      rfl
  · intro place hplace
    have hlt : place < p.slots.length := Nat.lt_of_lt_of_le hplace List.findIdx_le_length
    have htaken := List.not_of_lt_findIdx hplace
    show p.slots[place]?.join ≠ none
    rw [List.getElem?_eq_getElem hlt]
    simpa [Option.isSome_iff_ne_none] using htaken

/-- **A deed** gives the first free place to a new listener, or takes the place of one that it
removes. -/
theorem occupant_did (hp : p.Tidy) (deed : Deed) :
    (p.did deed).occupant place = some id ↔
      (p.occupant place = some id ∧ ¬ deed.Removes p id) ∨
        ∃ socket, deed = .add socket ∧ id = (p.add socket).1 ∧ place = p.vacancy := by
  have hslots := slots_did p deed
  unfold occupant
  rw [hslots]
  cases deed with
  | add socket =>
    show (fill p.listeners.length p.slots)[place]?.join = some id ↔
      (p.slots[place]?.join = some id ∧ ¬ False) ∨ _
    rw [getElem?_fill, show p.slots.findIdx Option.isNone = p.vacancy from rfl]
    by_cases hplace : place = p.vacancy
    · have hfree : p.slots[place]?.join = none := hplace ▸ (occupant_vacancy p).1
      rw [if_pos hplace, hfree]
      constructor
      · intro h
        exact .inr ⟨socket, rfl, (Option.some.inj h).symm, hplace⟩
      · rintro (⟨h, -⟩ | ⟨_, -, rfl, -⟩)
        · cases h
        · rfl
    · rw [if_neg hplace]
      constructor
      · exact fun h => .inl ⟨h, not_false⟩
      · rintro (⟨h, -⟩ | ⟨_, -, -, h⟩)
        · exact h
        · exact absurd h hplace
  | remove address =>
    show (vacate _ p.slots)[place]?.join = some id ↔ _
    rw [getElem?_vacate hp.nodup]
    constructor
    · exact .inl
    · rintro (h | ⟨_, h, -⟩)
      · exact h
      · cases h
  | closeAll | closeOne | get | snapshot | enter | leave =>
    constructor
    · exact fun h => .inl ⟨h, not_false⟩
    · rintro (⟨h, -⟩ | ⟨_, h, -⟩)
      · exact h
      · cases h

/-- a listener that was made already has its place, or loses it, and gets no other -/
theorem occupant_did_of_made (hp : p.Tidy) (hid : id < p.listeners.length) (deed : Deed) :
    (p.did deed).occupant place = some id ↔
      p.occupant place = some id ∧ ¬ deed.Removes p id := by
  rw [occupant_did hp]
  constructor
  · rintro (h | ⟨_, -, rfl, -⟩)
    · exact h
    · exact absurd hid (Nat.lt_irrefl _)
  · exact .inl

theorem loses_cons : p.Loses id (deed :: deeds) ↔ deed.Removes p id ∨ (p.did deed).Loses id deeds := by
  constructor
  · rintro ⟨before, removal, after, he, hremoves⟩
    cases before with
    | nil =>
      obtain ⟨rfl, rfl⟩ := List.cons.inj he
      exact .inl hremoves
    | cons first before =>
      obtain ⟨rfl, rfl⟩ := List.cons.inj he
      exact .inr ⟨before, removal, after, rfl, hremoves⟩
  · rintro (h | ⟨before, removal, after, rfl, hremoves⟩)
    · exact ⟨[], deed, deeds, rfl, h⟩
    · exact ⟨deed :: before, removal, after, rfl, hremoves⟩

/-- **A listener keeps its place** through any history in which it is not removed. -/
theorem occupant_run (hp : p.Tidy) (hid : id < p.listeners.length) (deeds : List Deed) :
    (p.run deeds).occupant place = some id ↔ p.occupant place = some id ∧ ¬ p.Loses id deeds := by
  induction deeds generalizing p with
  | nil =>
    have hnever : ¬ p.Loses id [] := by
      rintro ⟨before, _, _, he, -⟩
      cases before <;> cases he
    exact ⟨fun h => ⟨h, hnever⟩, fun h => h.1⟩
  | cons deed deeds ih =>
    have hid' : id < (p.did deed).listeners.length := by
      rw [listeners_did]
      exact Nat.lt_add_right _ hid
    show ((p.did deed).run deeds).occupant place = some id ↔ _
    rw [ih (hp.did deed) hid', occupant_did_of_made hp hid, loses_cons, not_or, and_assoc]

/-- who has a place had it before, or was given it as the first free one -/
theorem exists_add_of_occupant (hp : p.Tidy) (h : (p.run deeds).occupant place = some id) :
    p.occupant place = some id ∨ ∃ before socket after, deeds = before ++ .add socket :: after ∧
      id = ((p.run before).add socket).1 ∧ place = (p.run before).vacancy := by
  induction deeds generalizing p with
  | nil => exact .inl h
  | cons deed deeds ih =>
    obtain h | ⟨before, socket, after, rfl, hid, hplace⟩ := ih (hp.did deed) h
    · obtain ⟨h, -⟩ | ⟨socket, rfl, hid, hplace⟩ := (occupant_did hp deed).mp h
      · exact .inl h
      · exact .inr ⟨[], socket, deeds, rfl, hid, hplace⟩
    · exact .inr ⟨deed :: before, socket, after, rfl, hid, hplace⟩

/-! ## how many places there are -/

theorem length_snapshot_le (p : Pool) : p.snapshot.length ≤ p.slots.length :=
  List.length_filterMap_le ..

/-- places are never given up, and a new one is made only when all are taken -/
theorem length_did (p : Pool) (deed : Deed) :
    (p.did deed).slots.length = p.slots.length ∨
      p.slots.length < (p.did deed).slots.length ∧
        (p.did deed).snapshot.length = (p.did deed).slots.length := by
  have hslots := slots_did p deed
  unfold snapshot
  rw [hslots]
  cases deed with
  | add socket =>
    show (fill p.listeners.length p.slots).length = _ ∨ _
    by_cases hfull : p.slots.findIdx Option.isNone = p.slots.length
    · right
      dsimp only
      rw [length_fill, (perm_fill p.slots).length_eq, List.length_cons,
        length_filterMap_of_full hfull]
      omega
    · left
      have hle : p.slots.findIdx Option.isNone ≤ p.slots.length := List.findIdx_le_length
      rw [length_fill]
      omega
  | remove address => exact .inl (length_vacate _ p.slots)
  | closeAll | closeOne | get | snapshot | enter | leave => exact .inl rfl

/-- how many listeners were registered at some moment of a history -/
def Crowd (deeds : List Deed) : Set Nat :=
  {n | ∃ before, before <+: deeds ∧ (empty.run before).snapshot.length = n}

/-- **There are as many places** as there were ever listeners at one time. -/
theorem isGreatest_length (deeds : List Deed) :
    IsGreatest (Crowd deeds) (empty.run deeds).slots.length := by
  induction deeds using List.reverseRecOn with
  | nil =>
    refine ⟨⟨[], List.nil_prefix, rfl⟩, ?_⟩
    rintro n ⟨before, hbefore, rfl⟩
    rw [List.prefix_nil.mp hbefore]
    exact Nat.le_refl 0
  | append_singleton deeds deed ih =>
    obtain ⟨⟨moment, hmoment, hpeak⟩, hmost⟩ := ih
    have hrun : empty.run (deeds ++ [deed]) = (empty.run deeds).did deed := run_append ..
    have hstep := length_did (empty.run deeds) deed
    rw [← hrun] at hstep
    constructor
    · obtain hsame | ⟨-, hfull⟩ := hstep
      · exact ⟨moment, hmoment.trans (List.prefix_append ..), hpeak.trans hsame.symm⟩
      · exact ⟨deeds ++ [deed], List.prefix_rfl, hfull⟩
    · rintro n ⟨before, hbefore, rfl⟩
      obtain rfl | hbefore := List.prefix_concat_iff.mp hbefore
      · exact length_snapshot_le _
      · have hle := hmost ⟨before, hbefore, rfl⟩
        omega

end

/-! ## the places, told from the history -/

/-- a listener that was added and has not been removed, and the place that was free first then -/
def Registered (deeds : List Deed) (id : ListenerId) (place : Nat) : Prop :=
  ∃ before socket after, deeds = before ++ .add socket :: after ∧
    id = ((empty.run before).add socket).1 ∧ place = (empty.run before).vacancy ∧
    ¬ (empty.run (before ++ [.add socket])).Loses id after

structure KeepsPlaces (deeds : List Deed) : Prop where
  /-- those that are registered have the places that they were given, and nobody else has one -/
  occupied : ∀ id place, (empty.run deeds).occupant place = some id ↔ Registered deeds id place
  single : ∀ id place place', Registered deeds id place → Registered deeds id place' →
    place = place'
  /-- the place that the next listener is given -/
  first : (empty.run deeds).occupant (empty.run deeds).vacancy = none ∧
    ∀ place < (empty.run deeds).vacancy, (empty.run deeds).occupant place ≠ none
  peak : IsGreatest (Crowd deeds) (empty.run deeds).slots.length
  listed : (empty.run deeds).snapshot =
    (List.range (empty.run deeds).slots.length).filterMap (empty.run deeds).occupant
  once : (empty.run deeds).snapshot.Nodup
  mem_snapshot : ∀ id, id ∈ (empty.run deeds).snapshot ↔ ∃ place, Registered deeds id place
  closed : (empty.run deeds).closeAll.slots = (empty.run deeds).slots ∧
    ∀ id, ((empty.run deeds).closeOne id).2.slots = (empty.run deeds).slots

theorem occupied_iff (deeds : List Deed) (id : ListenerId) (place : Nat) :
    (empty.run deeds).occupant place = some id ↔ Registered deeds id place := by
  have hlater {before after : List Deed} {socket : Socket}
      (hid : id = ((empty.run before).add socket).1) :
      (empty.run (before ++ .add socket :: after)).occupant place = some id ↔
        (empty.run (before ++ [.add socket])).occupant place = some id ∧
          ¬ (empty.run (before ++ [.add socket])).Loses id after := by
    have hmade : id < (empty.run (before ++ [.add socket])).listeners.length := by
      rw [run_append, hid]
      show _ < ((empty.run before).did (.add socket)).listeners.length
      rw [listeners_did]
      exact Nat.lt_succ_self _
    rw [← occupant_run (tidy_empty.run _) hmade, ← run_append, List.append_assoc]
    rfl
  have hadded {before : List Deed} {socket : Socket}
      (hid : id = ((empty.run before).add socket).1) (hplace : place = (empty.run before).vacancy) :
      (empty.run (before ++ [.add socket])).occupant place = some id := by
    rw [run_append]
    exact (occupant_did (tidy_empty.run before) _).mpr (.inr ⟨socket, rfl, hid, hplace⟩)
  constructor
  · intro h
    obtain h | ⟨before, socket, after, rfl, hid, hplace⟩ := exists_add_of_occupant tidy_empty h
    · cases h
    · exact ⟨before, socket, after, rfl, hid, hplace, ((hlater hid).mp h).2⟩
  · rintro ⟨before, socket, after, rfl, hid, hplace, hkept⟩
    exact (hlater hid).mpr ⟨hadded hid hplace, hkept⟩

/-- **A pool keeps the places of its listeners**, whatever is done to it. -/
theorem keeps_places (deeds : List Deed) : KeepsPlaces deeds where
  occupied := occupied_iff deeds
  single id place place' h h' := by
    rw [← occupied_iff] at h h'
    exact getElem?_injective (tidy_empty.run deeds).nodup h h'
  first := occupant_vacancy _
  peak := isGreatest_length deeds
  listed := filterMap_eq_range _
  once := (tidy_empty.run deeds).nodup
  mem_snapshot id := by
    rw [Pool.mem_snapshot, List.mem_iff_getElem?]
    refine exists_congr fun place => ?_
    rw [← occupied_iff]
    exact Option.join_eq_some_iff.symm
  closed := ⟨slots_closeAll _, slots_closeOne _⟩

/-- a place that was given up goes to the next listener -/
example :
    (empty.run [.add ⟨0, "a"⟩, .add ⟨1, "b"⟩, .add ⟨2, "a"⟩, .remove "a", .closeAll,
      .add ⟨3, "c"⟩]).slots = [some 3, some 1, some 2] := by decide

end Succession.Pool
