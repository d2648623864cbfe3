import Mathlib.Data.List.Nodup
import Mathlib.Data.List.Perm.Subperm
import Succession.Daemon.File

/-!
# Slots in a successor's environment

A process describes its files to a successor by changes to the environment. Here both ends of that
are put together: what the changes do to the view, what the successor reads, and what is left when
it has put the previous values back.

* `Variables.get?_override_of_mem`, `Variables.get?_override_of_not_mem`;
* `descriptorVariable_injective`   every descriptor has a variable of its own;
* `Holds seen slots`, `NoSlotAt seen index`   where slots are, and where there is none;
* `readSlotsFrom_eq`, `readSlots_eq`   a run of described files is read back as it was written, up
                                   to the first variable that holds no slot;
* `get?_restoreSlots`              restoring a run gives the view in front of it back.
-/

namespace Succession

/-! ## changes to an environment -/

namespace Variables

variable {α : Type}

theorem override_cons (vars : Variables α) (c : String × Option α)
    (changes : List (String × Option α)) :
    vars.override (c :: changes) = (vars.restore c.1 c.2).override changes := rfl

theorem get?_override_of_not_mem {name : String} {changes : List (String × Option α)}
    (vars : Variables α) (h : name ∉ changes.map Prod.fst) :
    (vars.override changes).get? name = vars.get? name := by
  induction changes generalizing vars with
  | nil => rfl
  | cons c changes ih =>
    rw [List.map_cons, List.mem_cons, not_or] at h
    rw [override_cons, ih (vars.restore c.1 c.2) h.2, get?_restore, if_neg h.1]

theorem get?_override_of_mem {name : String} {value : Option α}
    {changes : List (String × Option α)} (vars : Variables α)
    (hd : (changes.map Prod.fst).Nodup) (h : (name, value) ∈ changes) :
    (vars.override changes).get? name = value := by
  induction changes generalizing vars with
  | nil => cases h
  | cons c changes ih =>
    rw [List.map_cons, List.nodup_cons] at hd
    rcases List.mem_cons.mp h with rfl | h
    · rw [override_cons, get?_override_of_not_mem _ hd.1, get?_restore, if_pos rfl]
    · exact ih (vars.restore c.1 c.2) hd.2 h

theorem mem_keys_of_get? {vars : Variables α} {name : String} (h : vars.get? name ≠ none) :
    name ∈ vars.entries.map Prod.fst := by
  by_contra hn
  apply h
  unfold get?
  rw [List.lookup_eq_none_iff]
  intro e he
  have hne : name ≠ e.1 := fun eq => hn (eq ▸ List.mem_map_of_mem he)
  simpa using hne

theorem length_le_of_get? {vars : Variables α} {names : List String} (hd : names.Nodup)
    (h : ∀ name ∈ names, vars.get? name ≠ none) : names.length ≤ vars.entries.length := by
  have hs : names ⊆ vars.entries.map Prod.fst := fun name hn => mem_keys_of_get? (h name hn)
  have hl := (hd.subperm hs).length_le
  rwa [List.length_map] at hl

end Variables

/-! ## the variables of descriptors -/

theorem toString_natCast_injective {m n : Nat} (h : toString (m : Int) = toString (n : Int)) :
    m = n := by
  have hl : String.ofList (Nat.toDigits 10 m) = String.ofList (Nat.toDigits 10 n) := h
  have hd : Nat.toDigits 10 m = Nat.toDigits 10 n := by
    have := congrArg String.toList hl
    rwa [String.toList_ofList, String.toList_ofList] at this
  have ho := congrArg (Nat.ofDigitChars 10 · 0) hd
  simp only [Nat.ofDigitChars_ten_toDigits] at ho
  exact ho

theorem toList_descriptorVariable (index : Int) :
    (descriptorVariable index).toList =
      ['M', 'O', 'L', 'T', '_', 'F', 'D', '_'] ++ (toString index).toList := by
  unfold descriptorVariable
  rw [String.toList_append]
  rfl

theorem descriptorVariable_injective {i j : Int} (hi : 0 ≤ i) (hj : 0 ≤ j)
    (h : descriptorVariable i = descriptorVariable j) : i = j := by
  obtain ⟨m, rfl⟩ := Int.eq_ofNat_of_zero_le hi
  obtain ⟨n, rfl⟩ := Int.eq_ofNat_of_zero_le hj
  have hl := congrArg String.toList h
  rw [toList_descriptorVariable, toList_descriptorVariable] at hl
  have hs := String.toList_inj.mp (List.append_cancel_left hl)
  rw [toString_natCast_injective hs]

theorem descriptorVariable_ne {name : String} (index : Int)
    (h : name.toList.take 8 ≠ ['M', 'O', 'L', 'T', '_', 'F', 'D', '_']) :
    descriptorVariable index ≠ name := by
  rintro rfl
  apply h
  rw [toList_descriptorVariable]
  rfl

/-- the number behind `index`, counted from `index` or from the one after it -/
theorem add_natCast_succ (index : Int) (n : Nat) :
    index + ((n + 1 : Nat) : Int) = index + 1 + n := by
  push_cast
  omega

/-! ## a slot and its variable -/

theorem Slot.decode?_encode (slot : Slot) : Slot.decode? slot.index slot.encode = some slot := by
  obtain ⟨index, ⟨bytes⟩, previous⟩ := slot
  have hsep : ':' ∉ Hex.encode bytes := fun h => Hex.value?_ne_none_of_mem h (by decide)
  have hprev : (previous.map String.toList).map String.ofList = previous := by
    cases previous with
    | none => rfl
    | some text => exact congrArg some String.ofList_toList
  unfold Slot.decode? Slot.encode
  rw [String.toList_ofList, Chain.split_join ':' _ _ hsep]
  show (Hex.decode (Hex.encode bytes)).map _ = _
  rw [Hex.decode_encode, hprev]
  rfl

/-- the slots of files from `index` on, chained before what `env` has there -/
def slotsFrom (env : Environment) (index : Int) : List ExtraFile → List Slot
  | [] => []
  | file :: rest => slotOf env index file :: slotsFrom env (index + 1) rest

theorem slotsFrom_cons (env : Environment) (index : Int) (file : ExtraFile)
    (rest : List ExtraFile) :
    slotsFrom env index (file :: rest) = slotOf env index file :: slotsFrom env (index + 1) rest :=
  rfl

theorem length_slotsFrom (env : Environment) (index : Int) (files : List ExtraFile) :
    (slotsFrom env index files).length = files.length := by
  induction files generalizing index with
  | nil => rfl
  | cons file rest ih => rw [slotsFrom_cons, List.length_cons, ih, List.length_cons]

theorem slotChangesFrom_eq (env : Environment) (index : Int) (files : List ExtraFile) :
    slotChangesFrom env index files =
      (slotsFrom env index files).map fun s => (descriptorVariable s.index, some s.encode) := by
  induction files generalizing index with
  | nil => rfl
  | cons file rest ih =>
    rw [slotsFrom_cons, List.map_cons, ← ih]
    rfl

/-- the slots are numbered one by one from the number that they begin at -/
theorem exists_index_eq {env : Environment} {index : Int} {files : List ExtraFile} {s : Slot}
    (h : s ∈ slotsFrom env index files) : ∃ n : Nat, n < files.length ∧ s.index = index + n := by
  induction files generalizing index with
  | nil => cases h
  | cons file rest ih =>
    rw [List.length_cons]
    rcases List.mem_cons.mp h with rfl | h
    · exact ⟨0, by omega, (Int.add_zero index).symm⟩
    · obtain ⟨n, hn, he⟩ := ih h
      refine ⟨n + 1, by omega, ?_⟩
      rw [he, Int.natCast_add, Int.add_assoc, Int.add_comm 1]
      rfl

theorem previous_eq {env : Environment} {index : Int} {files : List ExtraFile} {s : Slot}
    (h : s ∈ slotsFrom env index files) : s.previous = env.get? (descriptorVariable s.index) := by
  induction files generalizing index with
  | nil => cases h
  | cons file rest ih =>
    rcases List.mem_cons.mp h with rfl | h
    · rfl
    · exact ih h

def slotNames (slots : List Slot) : List String := slots.map fun s => descriptorVariable s.index

theorem slotNames_nodup (env : Environment) {index : Int} (h0 : 0 ≤ index)
    (files : List ExtraFile) : (slotNames (slotsFrom env index files)).Nodup := by
  induction files generalizing index with
  | nil => exact List.nodup_nil
  | cons file rest ih =>
    show (descriptorVariable index :: slotNames (slotsFrom env (index + 1) rest)).Nodup
    refine List.nodup_cons.mpr ⟨?_, ih (by omega)⟩
    intro hm
    obtain ⟨s, hs, he⟩ := List.mem_map.mp hm
    obtain ⟨n, -, hn⟩ := exists_index_eq hs
    have hb : (0 : Int) ≤ index + 1 + n := by omega
    rw [hn] at he
    have hi : index + 1 + (n : Int) = index := descriptorVariable_injective hb h0 he
    omega

theorem keys_slotChangesFrom (env : Environment) (index : Int) (files : List ExtraFile) :
    (slotChangesFrom env index files).map Prod.fst = slotNames (slotsFrom env index files) := by
  rw [slotChangesFrom_eq, List.map_map]
  rfl

/-! ## reading a run back -/

def Holds (seen : Environment) (slots : List Slot) : Prop :=
  ∀ s ∈ slots, seen.get? (descriptorVariable s.index) = some s.encode

def NoSlotAt (seen : Environment) (index : Descriptor) : Prop :=
  (seen.get? (descriptorVariable index)).bind (Slot.decode? index) = none

instance (seen : Environment) (index : Descriptor) : Decidable (NoSlotAt seen index) :=
  inferInstanceAs (Decidable (_ = none))

/-- **A run of described files is read back as it was written**, up to the first variable behind it
that holds no slot. -/
theorem readSlotsFrom_eq {seen env : Environment} {index : Int} {files : List ExtraFile}
    {limit : Nat} (hl : files.length ≤ limit) (hs : Holds seen (slotsFrom env index files))
    (hend : NoSlotAt seen (index + files.length)) :
    readSlotsFrom seen index limit = slotsFrom env index files := by
  induction files generalizing index limit with
  | nil =>
    rw [List.length_nil, Int.natCast_zero, Int.add_zero] at hend
    cases limit with
    | zero => rfl
    | succ limit =>
      unfold readSlotsFrom
      rw [hend]
      rfl
  | cons file rest ih =>
    rw [List.length_cons] at hl hend
    cases limit with
    | zero => omega
    | succ limit =>
      have hhead := hs (slotOf env index file) List.mem_cons_self
      have hread : (seen.get? (descriptorVariable index)).bind (Slot.decode? index) =
          some (slotOf env index file) := by
        rw [show descriptorVariable index = descriptorVariable (slotOf env index file).index from
          rfl, hhead]
        exact Slot.decode?_encode (slotOf env index file)
      have hrest : readSlotsFrom seen (index + 1) limit = slotsFrom env (index + 1) rest := by
        apply ih (by omega) (fun s h => hs s (List.mem_cons_of_mem _ h))
        rwa [← add_natCast_succ]
      unfold readSlotsFrom
      rw [hread, slotsFrom_cons, ← hrest]

/-- a successor that sees the run finds it whole: the run is no longer than its environment -/
theorem readSlots_eq {seen env : Environment} {files : List ExtraFile}
    (hs : Holds seen (slotsFrom env firstExtra files))
    (hend : NoSlotAt seen (firstExtra + files.length)) :
    readSlots seen = slotsFrom env firstExtra files := by
  have hl : files.length ≤ seen.entries.length := by
    rw [← length_slotsFrom env firstExtra files, ← List.length_map
      (fun s : Slot => descriptorVariable s.index)]
    refine Variables.length_le_of_get? (slotNames_nodup env (by decide) files) ?_
    intro name hn
    obtain ⟨s, hm, rfl⟩ := List.mem_map.mp hn
    rw [hs s hm]
    exact Option.some_ne_none _
  exact readSlotsFrom_eq hl hs hend

/-- changes that describe files leave them described, whatever else they change in front -/
theorem holds_override (env : Environment) (files : List ExtraFile) (vars : Environment) :
    Holds (vars.override (slotChanges env files)) (slotsFrom env firstExtra files) := by
  intro s hs
  refine Variables.get?_override_of_mem vars ?_ ?_
  · unfold slotChanges
    rw [keys_slotChangesFrom]
    exact slotNames_nodup env (by decide) files
  · unfold slotChanges
    rw [slotChangesFrom_eq]
    exact List.mem_map_of_mem hs

/-- behind the run and under other names, describing files changes nothing -/
theorem get?_override_slotChanges {name : String} (env : Environment) (files : List ExtraFile)
    (vars : Environment) (h : name ∉ slotNames (slotsFrom env firstExtra files)) :
    (vars.override (slotChanges env files)).get? name = vars.get? name := by
  apply Variables.get?_override_of_not_mem
  unfold slotChanges
  rwa [keys_slotChangesFrom]

theorem not_mem_slotNames {name : String} (slots : List Slot)
    (h : name.toList.take 8 ≠ ['M', 'O', 'L', 'T', '_', 'F', 'D', '_']) :
    name ∉ slotNames slots := by
  intro hm
  obtain ⟨s, -, he⟩ := List.mem_map.mp hm
  exact descriptorVariable_ne s.index h he

/-- no variable behind the run is one of its own -/
theorem behind_not_mem_slotNames (env : Environment) {index : Int} (h0 : 0 ≤ index)
    (files : List ExtraFile) (n : Nat) :
    descriptorVariable (index + files.length + n : Int) ∉ slotNames (slotsFrom env index files) := by
  intro hm
  obtain ⟨s, hs, he⟩ := List.mem_map.mp hm
  obtain ⟨m, hl, hi⟩ := exists_index_eq hs
  rw [hi] at he
  have hi := descriptorVariable_injective (by omega) (by omega) he
  omega

theorem end_not_mem_slotNames (env : Environment) {index : Int} (h0 : 0 ≤ index)
    (files : List ExtraFile) :
    descriptorVariable (index + files.length) ∉ slotNames (slotsFrom env index files) := by
  have h := behind_not_mem_slotNames env h0 files 0
  rwa [Int.natCast_zero, Int.add_zero] at h

/-! ## putting the previous values back -/

theorem restoreSlots_eq (env : Environment) (slots : List Slot) :
    restoreSlots env slots =
      env.override (slots.map fun s => (descriptorVariable s.index, s.previous)) := by
  unfold restoreSlots Variables.override
  rw [List.foldl_map]

theorem get?_restoreSlots_of_not_mem {name : String} {slots : List Slot} (env : Environment)
    (h : name ∉ slotNames slots) : (restoreSlots env slots).get? name = env.get? name := by
  rw [restoreSlots_eq]
  apply Variables.get?_override_of_not_mem
  rwa [List.map_map]

theorem get?_restoreSlots_of_mem {slot : Slot} {slots : List Slot} (env : Environment)
    (hd : (slotNames slots).Nodup) (h : slot ∈ slots) :
    (restoreSlots env slots).get? (descriptorVariable slot.index) = slot.previous := by
  rw [restoreSlots_eq]
  refine Variables.get?_override_of_mem env ?_ (List.mem_map_of_mem h)
  rwa [List.map_map]

/-- **Restoring a run gives the view in front of it back**, where nothing outside of the run has
changed. -/
theorem get?_restoreSlots {seen env : Environment} {files : List ExtraFile} {name : String}
    (hout : name ∉ slotNames (slotsFrom env firstExtra files) → seen.get? name = env.get? name) :
    (restoreSlots seen (slotsFrom env firstExtra files)).get? name = env.get? name := by
  by_cases hm : name ∈ slotNames (slotsFrom env firstExtra files)
  · obtain ⟨s, hs, rfl⟩ := List.mem_map.mp hm
    rw [← previous_eq hs]
    exact get?_restoreSlots_of_mem seen (slotNames_nodup env (by decide) files) hs
  · rw [get?_restoreSlots_of_not_mem seen hm]
    exact hout hm

end Succession
