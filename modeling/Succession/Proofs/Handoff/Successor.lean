import Succession.Proofs.Handoff.Descriptors

/-!
# Successors on obliging hosts

A successor begins with what its launch gives it: a number, a parent, inherited descriptors, and an
environment. An obliging host refuses nothing. On such a host the last steps of every start go
through, and leave their trace in the events of the process.

* `Host.Begins host birth`      the process of a launch, at its beginning;
* `Host.Obliging host workDir`  no question fails, and the working directory can be entered;
* `Host.happened`               a host on which things have happened to the process, in order;
* `Host.handle_enterWorkDir`, `Host.handle_stdioHandles`.
-/

namespace Succession

namespace Host

/-- the process of a launch at its beginning: nothing has happened to it -/
structure Begins (host : Host) (birth : World.Birth) : Prop where
  pid : host.process.pid = birth.pid
  parent : host.process.parent = birth.parent
  inherited : host.process.inherited = birth.inherited
  events : host.process.events = []

/-- nothing that the process asks its host for fails -/
structure Obliging (host : Host) (workDir : Path) : Prop where
  faults : host.process.faults = .none
  enters : host.process.moves = true →
    ∃ full, host.kernel.fs.enter host.process.workDir workDir = .ok full

def happened (host : Host) (workDir : Path) (events : List HostEvent) : Host :=
  { host with process := { host.process with workDir, events := host.process.events ++ events } }

variable {host : Host} {workDir : Path}

theorem happened_happened (host : Host) (here there : Path) (first second : List HostEvent) :
    (host.happened here first).happened there second = host.happened there (first ++ second) := by
  unfold happened
  rw [List.append_assoc]

theorem record_happened (host : Host) (here : Path) (events : List HostEvent) (event : HostEvent) :
    (host.happened here events).record event = host.happened here (events ++ [event]) := by
  unfold happened
  rw [← List.append_assoc]
  rfl

theorem Obliging.withInherited (ho : host.Obliging workDir)
    (inherited : List (Descriptor × Resource)) : (host.withInherited inherited).Obliging workDir :=
  ⟨ho.faults, ho.enters⟩

/-- the process enters its working directory -/
theorem handle_enterWorkDir (ho : host.Obliging workDir) :
    ∃ here, handle (.enterWorkDir workDir) host =
      (.ok (), host.happened here [.workDir workDir]) := by
  have hh : handle (.enterWorkDir workDir) host = host.enterWorkDir workDir := by
    show faulty host.process.faults.workDir host _ = _
    rw [ho.faults]
    rfl
  by_cases hm : host.process.moves = true
  · obtain ⟨full, he⟩ := ho.enters hm
    refine ⟨full, ?_⟩
    rw [hh]
    unfold enterWorkDir
    rw [if_pos hm, he]
    rfl
  · refine ⟨host.process.workDir, ?_⟩
    rw [hh]
    unfold enterWorkDir
    rw [if_neg hm]
    rfl

/-- the standard streams of a process -/
theorem handle_stdioHandles (hf : host.process.faults = .none) :
    ∃ pipes, handle .stdioHandles host =
      (.ok pipes, host.happened host.process.workDir [.stdioHandles]) := by
  refine ⟨⟨.file host.kernel.stdout, .file host.kernel.stderr⟩, ?_⟩
  show faulty host.process.faults.stdio host _ = _
  rw [hf]
  rfl

end Host
end Succession
