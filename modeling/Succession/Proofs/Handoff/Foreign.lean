import Succession.Proofs.Handoff.Reload
import Succession.Proofs.Handoff.StartSequence

/-!
# Slots that nobody handed over

Nothing tells a successor how many files it was given. It takes the variables of the descriptors
from three on as they come, up to the first that holds no slot; and a variable of the user's own
behind the last file holds one as soon as its value begins with an even number of hexadecimal
digits, which may be none.

* `SlotRun seen index slots`        the slots from a descriptor on, up to the first that has none;
* `SlotRun.behind`                  behind described files, the run goes on as it did before them;
* `slotRun_readSlots`               what a process reads is the run from the first descriptor on;
* `Describes`, `readSlots_described` what the successors of a reload and of a start read;
* `Host.run_adoptSlots_short`, `Host.run_takeOver_foreign`, `Host.run_stageFiles_foreign`
                                    with a slot of the user's, no successor takes anything over.
-/

namespace Succession

/-! ## runs of slots -/

/-- the slots that `seen` holds from a descriptor on, up to the first descriptor that has none -/
inductive SlotRun (seen : Environment) : Int → List Slot → Prop where
  | done {index : Int} (hend : NoSlotAt seen index) : SlotRun seen index []
  | slot {index : Int} {slot : Slot} {slots : List Slot}
      (hs : (seen.get? (descriptorVariable index)).bind (Slot.decode? index) = some slot)
      (rest : SlotRun seen (index + 1) slots) : SlotRun seen index (slot :: slots)

variable {seen env : Environment} {index : Int} {slots more : List Slot}

namespace SlotRun

theorem eq_nil_iff (h : SlotRun seen index slots) : slots = [] ↔ NoSlotAt seen index := by
  cases h with
  | done hend => exact ⟨fun _ => hend, fun _ => rfl⟩
  | slot hs rest =>
    refine ⟨nofun, fun hend => ?_⟩
    unfold NoSlotAt at hend
    rw [hs] at hend
    cases hend

/-- a run depends on the variables from its beginning on -/
theorem congr (h : SlotRun env index slots)
    (hsame : ∀ n : Nat, seen.get? (descriptorVariable (index + n : Int)) =
      env.get? (descriptorVariable (index + n : Int))) : SlotRun seen index slots := by
  induction h with
  | @done index hend =>
    refine .done ?_
    unfold NoSlotAt
    rw [show index = index + (0 : Nat) from (Int.add_zero index).symm, hsame 0]
    rwa [show index + (0 : Nat) = index from Int.add_zero index]
  | @slot index slot slots hs rest ih =>
    refine .slot ?_ (ih fun n => ?_)
    · have h0 := hsame 0
      rw [show index + (0 : Nat) = index from Int.add_zero index] at h0
      rwa [h0]
    · rw [← add_natCast_succ]
      exact hsame (n + 1)

/-- **Behind described files, the run goes on** with whatever slots come next. -/
theorem behind {files : List ExtraFile} (hs : Holds seen (slotsFrom env index files))
    (h : SlotRun seen (index + files.length) more) :
    SlotRun seen index (slotsFrom env index files ++ more) := by
  induction files generalizing index with
  | nil => rwa [List.length_nil, Int.natCast_zero, Int.add_zero] at h
  | cons file rest ih =>
    have hhead : seen.get? (descriptorVariable index) = some (slotOf env index file).encode :=
      hs (slotOf env index file) List.mem_cons_self
    rw [slotsFrom_cons, List.cons_append]
    refine .slot ?_ (ih (fun s hm => hs s (List.mem_cons_of_mem _ hm)) ?_)
    · rw [hhead]
      exact Slot.decode?_encode (slotOf env index file)
    · rw [List.length_cons] at h
      rwa [← add_natCast_succ]

theorem present (h : SlotRun seen index slots) {n : Nat} (hn : n < slots.length) :
    seen.get? (descriptorVariable (index + n : Int)) ≠ none := by
  induction h generalizing n with
  | done hend => cases hn
  | @slot index slot slots hs rest ih =>
    cases n with
    | zero =>
      rw [Int.natCast_zero, Int.add_zero]
      intro hnone
      rw [hnone] at hs
      cases hs
    | succ n =>
      rw [add_natCast_succ]
      exact ih (Nat.lt_of_succ_lt_succ hn)

end SlotRun

/-! ## reading a run -/

/-- consecutive descriptors that have variables are no more than there are variables -/
theorem length_le_of_present (h0 : 0 ≤ index) {count : Nat}
    (h : ∀ n : Nat, n < count → seen.get? (descriptorVariable (index + n : Int)) ≠ none) :
    count ≤ seen.entries.length := by
  let names := (List.range count).map fun n : Nat => descriptorVariable (index + n : Int)
  have hd : names.Nodup := by
    refine List.Nodup.map (fun m n he => ?_) List.nodup_range
    have hi := descriptorVariable_injective (by omega) (by omega) he
    omega
  have hpresent : ∀ name ∈ names, seen.get? name ≠ none := by
    intro name hn
    obtain ⟨n, hm, rfl⟩ := List.mem_map.mp hn
    exact h n (List.mem_range.mp hm)
  have hl := Variables.length_le_of_get? hd hpresent
  rwa [List.length_map, List.length_range] at hl

/-- reading ends behind a run, or at its limit -/
theorem slotRun_readSlotsFrom (seen : Environment) (index : Int) (limit : Nat) :
    SlotRun seen index (readSlotsFrom seen index limit) ∨
      ∀ n : Nat, n < limit → seen.get? (descriptorVariable (index + n : Int)) ≠ none := by
  induction limit generalizing index with
  | zero => exact .inr nofun
  | succ limit ih =>
    unfold readSlotsFrom
    cases hs : (seen.get? (descriptorVariable index)).bind (Slot.decode? index) with
    | none => exact .inl (.done hs)
    | some slot =>
      obtain hrun | hall := ih (index + 1)
      · exact .inl (.slot hs hrun)
      · refine .inr fun n hn => ?_
        cases n with
        | zero =>
          rw [Int.natCast_zero, Int.add_zero]
          intro hnone
          rw [hnone] at hs
          cases hs
        | succ n =>
          rw [add_natCast_succ]
          exact hall n (Nat.lt_of_succ_lt_succ hn)

theorem SlotRun.readSlotsFrom_eq (h : SlotRun seen index slots) {limit : Nat}
    (hl : slots.length ≤ limit) : readSlotsFrom seen index limit = slots := by
  induction h generalizing limit with
  | done hend =>
    cases limit with
    | zero => rfl
    | succ limit =>
      unfold readSlotsFrom
      rw [hend]
  | slot hs rest ih =>
    cases limit with
    | zero => cases hl
    | succ limit =>
      unfold readSlotsFrom
      rw [hs, ih (Nat.le_of_succ_le_succ hl)]

theorem exists_slotRun (seen : Environment) {index : Int} (h0 : 0 ≤ index) :
    ∃ slots, SlotRun seen index slots := by
  -- a limit above the number of variables is never reached
  obtain hrun | hall := slotRun_readSlotsFrom seen index (seen.entries.length + 1)
  · exact ⟨_, hrun⟩
  · exact absurd (length_le_of_present h0 hall) (Nat.not_succ_le_self _)

theorem SlotRun.readSlots_eq (h : SlotRun seen firstExtra slots) : readSlots seen = slots :=
  h.readSlotsFrom_eq (length_le_of_present (by decide) fun _ hn => h.present hn)

/-- **What a process reads is the run from the first descriptor on**, whatever its environment. -/
theorem slotRun_readSlots (seen : Environment) : SlotRun seen firstExtra (readSlots seen) := by
  have h0 : (0 : Int) ≤ firstExtra := by decide
  obtain ⟨slots, h⟩ := exists_slotRun seen h0
  rwa [h.readSlots_eq]

theorem slotsFrom_eq_mapIdx (env : Environment) (index : Int) (files : List ExtraFile) :
    slotsFrom env index files = files.mapIdx fun i file =>
      ⟨index + i, file.name, env.get? (descriptorVariable (index + i))⟩ := by
  induction files generalizing index with
  | nil => rfl
  | cons file rest ih =>
    rw [slotsFrom_cons, ih, List.mapIdx_cons]
    congr 1
    · rw [Int.natCast_zero, Int.add_zero]
      rfl
    · congr 1
      funext i file
      rw [add_natCast_succ]

/-! ## what successors read -/

/-- `seen` describes files, and holds at the other descriptors what `env` does -/
structure Describes (seen env : Environment) (files : List ExtraFile) : Prop where
  holds : Holds seen (slotsFrom env firstExtra files)
  outside : ∀ i : Descriptor, descriptorVariable i ∉ slotNames (slotsFrom env firstExtra files) →
    seen.get? (descriptorVariable i) = env.get? (descriptorVariable i)

theorem describes_override {vars : Environment} (files : List ExtraFile)
    (hsame : ∀ i : Descriptor,
      vars.get? (descriptorVariable i) = env.get? (descriptorVariable i)) :
    Describes (vars.override (slotChanges env files)) env files := by
  refine ⟨holds_override _ _ _, fun i hi => ?_⟩
  rw [get?_override_slotChanges _ _ _ hi, hsame]

theorem describes_reload (d : Daemon) : Describes d.seenByReload d.env d.files := by
  have hlist (i : Descriptor) : descriptorVariable i ≠ listenersVariable :=
    descriptorVariable_ne i (by decide)
  have hmark (i : Descriptor) : descriptorVariable i ≠ reloadVariable :=
    descriptorVariable_ne i (by decide)
  refine describes_override d.files fun i => ?_
  rw [Variables.get?_restore, if_neg (hlist i), Variables.get?_restore, if_neg (hmark i)]

theorem describes_start (d : Daemon) (next : Stage) (carried : Option String) (now : Int) :
    Describes (d.env.override (d.spawner.changes .parent next carried now d.files)) d.env
      d.files := by
  refine describes_override d.files fun i => ?_
  rw [Variables.get?_restore, if_neg (descriptorVariable_ne_stageVariable i)]
  rfl

theorem Carries.describes {d : Daemon} {stage : Stage} {written : Int}
    (h : Carries d seen stage written) : Describes seen d.env d.files :=
  ⟨h.described, fun i hi => h.outside _ hi (descriptorVariable_ne_stageVariable i)⟩

namespace Describes

variable {files : List ExtraFile}

theorem readSlots_eq (h : Describes seen env files)
    (hrun : SlotRun env (firstExtra + files.length) more) :
    readSlots seen = slotsFrom env firstExtra files ++ more := by
  refine SlotRun.readSlots_eq (.behind h.holds (hrun.congr fun n => h.outside _ ?_))
  exact behind_not_mem_slotNames env (by decide) files n

theorem exists_behind (env : Environment) (files : List ExtraFile) :
    ∃ foreign, SlotRun env (firstExtra + files.length) foreign :=
  exists_slotRun env (Int.add_nonneg (by decide) (Int.natCast_nonneg _))

theorem length_lt (h : Describes seen env files)
    (hforeign : ¬ NoSlotAt env (firstExtra + files.length)) :
    files.length < (readSlots seen).length := by
  obtain ⟨foreign, hrun⟩ := exists_behind env files
  rw [h.readSlots_eq hrun, List.length_append, length_slotsFrom]
  have hpos := List.length_pos_iff.mpr (mt hrun.eq_nil_iff.mp hforeign)
  omega

end Describes

/-- **What the successors of a reload and of a start read**: the slots of the files in their order,
and behind them whatever slots the environment held there before. They read the files and nothing
else if and only if the variable behind the last file held no slot. -/
theorem readSlots_described (d : Daemon) (next : Stage) (carried : Option String) (now : Int) :
    ∃ foreign, SlotRun d.env (firstExtra + d.files.length) foreign ∧
      (foreign = [] ↔ NoSlotAt d.env (firstExtra + d.files.length)) ∧
      ∀ changes ∈ [d.reloadChanges, d.spawner.changes .parent next carried now d.files],
        readSlots (d.env.override changes) =
          (d.files.mapIdx fun i file =>
            ⟨firstExtra + i, file.name, d.env.get? (descriptorVariable (firstExtra + i))⟩) ++
            foreign := by
  obtain ⟨foreign, hrun⟩ := Describes.exists_behind d.env d.files
  refine ⟨foreign, hrun, hrun.eq_nil_iff, fun changes hc => ?_⟩
  rw [← slotsFrom_eq_mapIdx]
  rw [List.mem_cons, List.mem_singleton] at hc
  rcases hc with rfl | rfl
  · exact (describes_reload d).readSlots_eq hrun
  · exact (describes_start d next carried now).readSlots_eq hrun

/-- the user has a text that happens to be hexadecimal where the slot of a first file would be, and
there is no file: both successors read a slot that nobody wrote -/
theorem readSlots_described_foreign :
    ¬ ∀ (d : Daemon) (next : Stage) (carried : Option String) (now : Int),
      ∀ changes ∈ [d.reloadChanges, d.spawner.changes .parent next carried now d.files],
        readSlots (d.env.override changes) =
          d.files.mapIdx fun i file =>
            ⟨firstExtra + i, file.name, d.env.get? (descriptorVariable (firstExtra + i))⟩ := by
  intro h
  let d := Daemon.new .default ⟨[("MOLT_FD_3", "cafe")]⟩ false
  have hnone : readSlots d.seenByReload = [] :=
    h d .firstChild none 0 d.reloadChanges List.mem_cons_self
  have hread : readSlots d.seenByReload = [⟨3, ⟨[0xca, 0xfe]⟩, none⟩] := by cbv
  rw [hread] at hnone
  cases hnone

/-! ## what becomes of a successor that reads too many -/

theorem Slot.index_of_decode? {raw : String} {slot : Slot}
    (h : Slot.decode? index raw = some slot) : slot.index = index := by
  obtain ⟨bytes, -, rfl⟩ := Option.map_eq_some_iff.mp h
  rfl

theorem SlotRun.index_eq {slot : Slot}
    (hs : (seen.get? (descriptorVariable index)).bind (Slot.decode? index) = some slot) :
    slot.index = index := by
  obtain ⟨raw, -, hraw⟩ := Option.bind_eq_some_iff.mp hs
  exact Slot.index_of_decode? hraw

theorem SlotRun.le_index (h : SlotRun seen index slots) : ∀ slot ∈ slots, index ≤ slot.index := by
  induction h with
  | done => exact List.forall_mem_nil _
  | slot hs rest ih =>
    refine List.forall_mem_cons.mpr ⟨Int.le_of_eq (SlotRun.index_eq hs).symm, fun slot hm => ?_⟩
    exact Int.le_of_lt (Int.lt_of_lt_of_le (Int.lt_succ _) (ih slot hm))

/-- every slot of a run has a variable of its own -/
theorem SlotRun.nodup (h0 : 0 ≤ index) (h : SlotRun seen index slots) :
    (slotNames slots).Nodup := by
  induction h with
  | done => exact .nil
  | @slot index slot slots hs rest ih =>
    refine List.nodup_cons.mpr ⟨fun hm => ?_, ih (by omega)⟩
    obtain ⟨behind, hbehind, he⟩ := List.mem_map.mp hm
    have hle : index + 1 ≤ behind.index := rest.le_index behind hbehind
    have hname : descriptorVariable behind.index = descriptorVariable slot.index := he
    rw [SlotRun.index_eq hs] at hname
    have heq := descriptorVariable_injective (by omega) h0 hname
    omega

namespace Host

variable {host : Host} {resources : List Resource}

theorem handle_adopt_missing (hf : host.process.faults = .none) (hi : host.process.inherited = []) :
    handle (.adopt index) host = (.error (.os .badDescriptor), host) := by
  show faulty host.process.faults.adopt host (host.adopt index) = _
  rw [hf]
  show host.adopt index = _
  unfold adopt
  rw [hi]
  rfl

/-- as many slots as there are descriptors are taken over, whatever they stand for -/
theorem run_adoptSlots_run (hrun : SlotRun seen index slots) (hf : host.process.faults = .none)
    {behind : List Resource}
    (hi : host.process.inherited = World.numberFrom index (resources ++ behind))
    (hl : resources.length = slots.length) :
    ∃ files, host.run (adoptSlots slots) =
      (.ok files, host.withInherited (World.numberFrom (index + slots.length) behind)) := by
  induction hrun generalizing host resources with
  | @done index hend =>
    obtain rfl := List.length_eq_zero_iff.mp hl
    refine ⟨[], ?_⟩
    rw [List.length_nil, Int.natCast_zero, Int.add_zero]
    show (_, host) = _
    rw [show World.numberFrom index behind = host.process.inherited from hi.symm]
    rfl
  | @slot index slot slots hs rest ih =>
    cases resources with
    | nil => cases hl
    | cons r resources =>
      let next := host.withInherited (World.numberFrom (index + 1) (resources ++ behind))
      have hf' : next.process.faults = .none := hf
      obtain ⟨files, hr⟩ := ih hf' rfl (Nat.succ.inj hl)
      refine ⟨.ofSlot slot r :: files, ?_⟩
      unfold adoptSlots
      rw [run_bind, run_request, SlotRun.index_eq hs, handle_adopt hf hi]
      show next.run (adoptSlots slots >>= _) = _
      rw [run_bind_of_eq _ hr, List.length_cons, add_natCast_succ]
      rfl

/-- **More slots than descriptors are not taken over**: behind the last descriptor there is none. -/
theorem run_adoptSlots_short (hrun : SlotRun seen index slots) (hf : host.process.faults = .none)
    (hi : host.process.inherited = World.numberFrom index resources)
    (hl : resources.length < slots.length) :
    host.run (adoptSlots slots) =
      (.error (index + resources.length, .os .badDescriptor), host.withInherited []) := by
  induction hrun generalizing host resources with
  | done hend => cases hl
  | @slot index slot slots hs rest ih =>
    unfold adoptSlots
    rw [run_bind, run_request, SlotRun.index_eq hs]
    cases resources with
    | nil =>
      rw [handle_adopt_missing hf hi, List.length_nil, Int.natCast_zero, Int.add_zero]
      show (_, host) = _
      rw [show ([] : List (Descriptor × Resource)) = host.process.inherited from hi.symm]
      rfl
    | cons r resources =>
      let next := host.withInherited (World.numberFrom (index + 1) resources)
      have hf' : next.process.faults = .none := hf
      have hr := ih hf' rfl (Nat.lt_of_succ_lt_succ hl)
      rw [handle_adopt hf hi]
      show next.run (adoptSlots slots >>= _) = _
      rw [run_bind_of_eq _ hr, List.length_cons, add_natCast_succ]
      rfl

theorem run_adoptSockets_short {sockets : List Socket} {count : Nat}
    (hf : host.process.faults = .none)
    (hi : host.process.inherited = World.numberFrom index (sockets.map .socket))
    (hl : sockets.length < count) :
    host.run (Daemon.adoptSockets index count) =
      (.error (.adopt (index + sockets.length) (.os .badDescriptor)), host.withInherited []) := by
  induction sockets generalizing host index count with
  | nil =>
    obtain ⟨count, rfl⟩ := Nat.exists_eq_succ_of_ne_zero (Nat.ne_of_gt hl)
    unfold Daemon.adoptSockets
    rw [run_bind, run_request, handle_adopt_missing hf hi, List.length_nil, Int.natCast_zero,
      Int.add_zero]
    show (_, host) = _
    rw [show ([] : List (Descriptor × Resource)) = host.process.inherited from hi.symm]
    rfl
  | cons socket sockets ih =>
    obtain ⟨count, rfl⟩ := Nat.exists_eq_succ_of_ne_zero (Nat.ne_of_gt (Nat.zero_lt_of_lt hl))
    let next := host.withInherited (World.numberFrom (index + 1) (sockets.map .socket))
    have hf' : next.process.faults = .none := hf
    have hr := ih hf' rfl (Nat.lt_of_succ_lt_succ hl)
    unfold Daemon.adoptSockets
    rw [run_bind, run_request, handle_adopt hf hi]
    show next.run (Daemon.adoptSockets (index + 1) count >>= _) = _
    rw [run_bind_of_eq _ hr, List.length_cons, add_natCast_succ]
    rfl

/-- **A reload with a slot of the user's behind its files never goes through.** Its successor takes
listeners for files, looks for the others too far behind, and finds nothing behind the last one. -/
theorem run_takeOver_foreign {d e : Daemon} (hpool : d.pool.Sound)
    (hcount : d.pool.snapshot.length ≤ Numeral.max64)
    (hforeign : ¬ NoSlotAt d.env (firstExtra + d.files.length)) (henv : e.env = d.seenByReload)
    (hf : host.process.faults = .none)
    (hi : host.process.inherited = World.numberFrom firstExtra d.handedOver) :
    host.run e.takeOver =
      ((.error (.adopt (firstExtra + d.handedOver.length) (.os .badDescriptor)), e),
        host.withInherited []) := by
  have hslots : SlotRun e.env firstExtra (readSlots e.env) := slotRun_readSlots e.env
  have hmore : d.files.length < (readSlots e.env).length := by
    rw [henv]
    exact (describes_reload d).length_lt hforeign
  have hover : d.handedOver.length = d.files.length + d.pool.sockets.length := by
    unfold Daemon.handedOver
    rw [List.length_append, List.length_map, List.length_map]
  unfold Daemon.takeOver
  rw [show Daemon.listenerCount e.env = .ok d.pool.snapshot.length by
    rw [henv]; exact Daemon.listenerCount_seenByReload hcount]
  show host.run (adoptSlots (readSlots e.env) >>= _) = _
  by_cases hall : d.handedOver.length < (readSlots e.env).length
  · -- the slots alone are more than what was handed over
    rw [run_bind_of_eq _ (run_adoptSlots_short hslots hf hi hall)]
    rfl
  · -- the slots take the files and the first listeners, `k + 1` of them
    obtain ⟨k, hk⟩ := Nat.exists_eq_add_of_lt hmore
    let taken := d.files.map (·.resource) ++ (d.pool.sockets.take (k + 1)).map Resource.socket
    let left := d.pool.sockets.drop (k + 1)
    have hsplit : d.handedOver = taken ++ left.map Resource.socket := by
      unfold Daemon.handedOver
      rw [List.append_assoc, ← List.map_append, List.take_append_drop]
    have htaken : taken.length = (readSlots e.env).length := by
      rw [List.length_append, List.length_map, List.length_map, List.length_take]
      omega
    rw [hsplit] at hi
    obtain ⟨files, hr⟩ := run_adoptSlots_run hslots hf hi htaken
    have hleft : left.length < d.pool.snapshot.length := by
      rw [← hpool.length_sockets, List.length_drop]
      omega
    have hend : (firstExtra + (readSlots e.env).length + left.length : Int) =
        firstExtra + d.handedOver.length := by
      rw [hsplit, List.length_append, htaken, List.length_map, Int.natCast_add, Int.add_assoc]
    let next := host.withInherited
      (World.numberFrom (firstExtra + (readSlots e.env).length) (left.map .socket))
    have hf' : next.process.faults = .none := hf
    have hr' := run_adoptSockets_short hf' rfl hleft
    rw [run_bind_of_eq _ hr]
    show next.run (Daemon.adoptSockets _ d.pool.snapshot.length >>= _) = _
    rw [run_bind_of_eq _ hr', ← hend]
    rfl

/-- a start with such a slot fails in its second process -/
theorem run_stageFiles_foreign {d : Daemon} {s : Spawner} {stage : Stage} {written : Int}
    (hstage : stage ≠ .parent) (hc : Carries d s.env stage written)
    (hforeign : ¬ NoSlotAt d.env (firstExtra + d.files.length))
    (hf : host.process.faults = .none)
    (hi : host.process.inherited = World.numberFrom firstExtra (d.files.map (·.resource)))
    (files : List ExtraFile) :
    host.run (s.stageFiles stage files) =
      (.error (.adopt stage (firstExtra + d.files.length) (.os .badDescriptor)),
        host.withInherited []) := by
  have hmore : (d.files.map (·.resource)).length < (readSlots s.env).length := by
    rw [List.length_map]
    exact hc.describes.length_lt hforeign
  unfold Spawner.stageFiles
  rw [if_neg hstage, run_bind_of_eq _ (run_adoptSlots_short (slotRun_readSlots s.env) hf hi hmore),
    List.length_map]
  rfl

end Host
end Succession
