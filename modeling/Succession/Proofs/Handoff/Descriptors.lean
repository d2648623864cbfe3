import Succession.Daemon.Reload
import Succession.Machine.World
import Succession.Proofs.Handoff.Slots
import Succession.Proofs.Program.Asks

/-!
# Inherited descriptors

A successor finds the resources of its launch at consecutive descriptors and takes them over from
the front. What is taken over in the order of the numbers is what was handed over, in its order.

* `Host.run_duplicateAll`, `Host.run_keepAll`    a duplicate is the same thing;
* `Host.handle_adopt`                            the next descriptor;
* `Host.run_adoptSlots`, `Host.run_adoptSockets` a run of files, and of sockets;
* `renumbered`                                   files with the numbers at which they are inherited.
-/

namespace Succession

namespace Host

def withInherited (host : Host) (inherited : List (Descriptor × Resource)) : Host :=
  { host with process := { host.process with inherited } }

variable {host : Host}

/-! ## duplicates -/

theorem run_duplicateAll (host : Host) (resources : List Resource) :
    host.run (duplicateAll resources) = (.ok resources, host) := by
  induction resources with
  | nil => rfl
  | cons resource rest ih =>
    unfold duplicateAll
    rw [run_bind, run_request]
    show host.run (duplicateAll rest >>= _) = _
    rw [run_bind_of_eq _ ih]
    rfl

theorem run_keepAll (host : Host) (files : List ExtraFile) :
    host.run (Daemon.keepAll files) = (.ok files, host) := by
  induction files with
  | nil => rfl
  | cons file rest ih =>
    unfold Daemon.keepAll
    rw [run_bind, run_request]
    show host.run (Daemon.keepAll rest >>= _) = _
    rw [run_bind_of_eq _ ih]
    rfl

/-! ## taking over -/

theorem le_of_mem_numberFrom {index : Int} {resources : List Resource} {e : Int × Resource}
    (h : e ∈ World.numberFrom index resources) : index ≤ e.1 := by
  induction resources generalizing index with
  | nil => cases h
  | cons r rest ih =>
    rcases List.mem_cons.mp h with rfl | h
    · exact Int.le_refl index
    · have hi : index + 1 ≤ e.1 := ih h
      omega

/-- the next descriptor is handed out, and the ones behind it stay -/
theorem handle_adopt {index : Int} {r : Resource} {rest : List Resource}
    (hf : host.process.faults = .none)
    (hi : host.process.inherited = World.numberFrom index (r :: rest)) :
    handle (.adopt index) host = (.ok r, host.withInherited (World.numberFrom (index + 1) rest)) := by
  have hfilter : (World.numberFrom index (r :: rest)).filter (fun e => e.1 ≠ index) =
      World.numberFrom (index + 1) rest := by
    show ((index, r) :: World.numberFrom (index + 1) rest).filter _ = _
    rw [List.filter_cons_of_neg (by simp), List.filter_eq_self]
    intro e he
    have hle : index + 1 ≤ e.1 := le_of_mem_numberFrom he
    have hne : e.1 ≠ index := by omega
    simpa using hne
  have hlookup : (World.numberFrom index (r :: rest)).lookup index = some r :=
    List.lookup_cons_self
  show faulty host.process.faults.adopt host (host.adopt index) = _
  rw [hf]
  show host.adopt index = _
  unfold adopt
  rw [hi, hlookup, hfilter]
  rfl

end Host

/-! ## runs of descriptors -/

/-- files with the numbers from `index` on -/
def renumbered (index : Int) (files : List ExtraFile) : List ExtraFile :=
  files.mapIdx fun i file => { file with index := some (index + (i : Int)) }

theorem renumbered_cons (index : Int) (file : ExtraFile) (rest : List ExtraFile) :
    renumbered index (file :: rest) =
      { file with index := some index } :: renumbered (index + 1) rest := by
  unfold renumbered
  rw [List.mapIdx_cons]
  congr 1
  · rw [Int.natCast_zero, Int.add_zero]
  · congr 1
    funext i file
    rw [Int.natCast_add, Int.add_comm (i : Int), ← Int.add_assoc]
    rfl

theorem resource_renumbered (index : Int) (files : List ExtraFile) :
    (renumbered index files).map (·.resource) = files.map (·.resource) := by
  induction files generalizing index with
  | nil => rfl
  | cons file rest ih => rw [renumbered_cons, List.map_cons, ih, List.map_cons]

theorem name_renumbered (index : Int) (files : List ExtraFile) :
    (renumbered index files).map (·.name) = files.map (·.name) := by
  induction files generalizing index with
  | nil => rfl
  | cons file rest ih => rw [renumbered_cons, List.map_cons, ih, List.map_cons]

namespace Host

/-- **A run of described files is taken over in its order**, under its names and with its numbers;
what was handed over behind it stays. -/
theorem run_adoptSlots {host : Host} {env : Environment} {index : Int} {files : List ExtraFile}
    {more : List Resource} (hf : host.process.faults = .none)
    (hi : host.process.inherited = World.numberFrom index (files.map (·.resource) ++ more)) :
    host.run (adoptSlots (slotsFrom env index files)) =
      (.ok (renumbered index files),
        host.withInherited (World.numberFrom (index + files.length) more)) := by
  induction files generalizing index host with
  | nil =>
    rw [List.length_nil, Int.natCast_zero, Int.add_zero]
    show (_, host) = _
    rw [show World.numberFrom index more = host.process.inherited from hi.symm]
    rfl
  | cons file rest ih =>
    have ha := handle_adopt hf hi
    let host' := host.withInherited (World.numberFrom (index + 1) (rest.map (·.resource) ++ more))
    have hi' : host'.process.inherited =
        World.numberFrom (index + 1) (rest.map (·.resource) ++ more) := rfl
    have hf' : host'.process.faults = .none := hf
    have ih := ih hf' hi'
    rw [slotsFrom_cons, renumbered_cons, List.length_cons]
    unfold adoptSlots
    rw [run_bind, run_request, show (slotOf env index file).index = index from rfl, ha]
    show host'.run (adoptSlots (slotsFrom env (index + 1) rest) >>= _) = _
    rw [run_bind_of_eq _ ih, Int.natCast_add, ← Int.add_assoc, Int.add_right_comm]
    rfl

theorem run_adoptSockets {host : Host} {index : Int} {sockets : List Socket}
    (hf : host.process.faults = .none)
    (hi : host.process.inherited = World.numberFrom index (sockets.map .socket)) :
    host.run (Daemon.adoptSockets index sockets.length) = (.ok sockets, host.withInherited []) := by
  induction sockets generalizing index host with
  | nil =>
    show (_, host) = _
    rw [show ([] : List (Descriptor × Resource)) = host.process.inherited from hi.symm]
    rfl
  | cons socket rest ih =>
    have ha := handle_adopt hf hi
    let host' := host.withInherited (World.numberFrom (index + 1) (rest.map .socket))
    have hi' : host'.process.inherited = World.numberFrom (index + 1) (rest.map .socket) := rfl
    have hf' : host'.process.faults = .none := hf
    have ih := ih hf' hi'
    rw [List.length_cons]
    unfold Daemon.adoptSockets
    rw [run_bind, run_request, ha]
    show host'.run (Daemon.adoptSockets (index + 1) rest.length >>= _) = _
    rw [run_bind_of_eq _ ih]
    rfl

end Host
end Succession
