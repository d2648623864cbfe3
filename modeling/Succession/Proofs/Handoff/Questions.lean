import Succession.Daemon.Reload
import Succession.Proofs.Program.Asks

/-!
# Questions of a handover

Almost everything that a stage and a successor ask is plain: it is about neither the clock nor an
open file.

* `Request.Plain`, `Program.Asks.timeless`, `Request.Ordinary`;
* `asks_duplicateAll`, `asks_stageFiles`, `asks_finish`, …   the parts of the start sequence;
* `asks_spawn`                                               a whole stage of it;
* `asks_adoptSockets`, `asks_takeOver`                       a reload successor's own.
-/

namespace Succession

/-- neither the clock nor an open file is asked about -/
def Request.Plain : Request → Prop
  | .duplicate _ | .executable | .arguments | .launch _ | .adopt _ | .enterWorkDir _ | .clearUmask
  | .stdioHandles | .log _ => True
  | _ => False

theorem Program.Asks.timeless {α : Type} {p : Program α} (hp : p.Asks Request.Plain) :
    p.Asks (· ≠ .now) := by
  refine hp.mono fun q hq => ?_
  rintro rfl
  exact hq

/-- plain, or about the clock -/
def Request.Ordinary (q : Request) : Prop := q.Plain ∨ q = .now

theorem Program.Asks.ordinary {α : Type} {p : Program α} (hp : p.Asks Request.Plain) :
    p.Asks Request.Ordinary := hp.mono fun _ => .inl

theorem asks_duplicateAll (resources : List Resource) :
    (duplicateAll resources).Asks Request.Plain := by
  induction resources with
  | nil => exact Program.asks_pure _ _
  | cons resource rest ih =>
    unfold duplicateAll
    refine Program.asks_try (Program.asks_request trivial) (fun _ => Program.asks_pure _ _) ?_
    intro copy
    exact Program.asks_try ih (fun _ => Program.asks_pure _ _) fun _ => Program.asks_pure _ _

theorem asks_keepAll (files : List ExtraFile) : (Daemon.keepAll files).Asks Request.Plain := by
  induction files with
  | nil => exact Program.asks_pure _ _
  | cons file rest ih =>
    unfold Daemon.keepAll
    refine Program.asks_try (Program.asks_request trivial) (fun _ => Program.asks_pure _ _) ?_
    intro copy
    exact Program.asks_try ih (fun _ => Program.asks_pure _ _) fun _ => Program.asks_pure _ _

theorem asks_adoptSlots (slots : List Slot) : (adoptSlots slots).Asks Request.Plain := by
  induction slots with
  | nil => exact Program.asks_pure _ _
  | cons slot rest ih =>
    unfold adoptSlots
    refine Program.asks_try (Program.asks_request trivial) (fun _ => Program.asks_pure _ _) ?_
    intro resource
    exact Program.asks_try ih (fun _ => Program.asks_pure _ _) fun _ => Program.asks_pure _ _

theorem asks_pump (lines : List String) : (Relay.pump lines).Asks Request.Plain := by
  induction lines with
  | nil => exact Program.asks_pure _ _
  | cons line rest ih =>
    unfold Relay.pump
    refine Program.asks_bind (Program.asks_request trivial) fun r => ?_
    cases r with
    | false => exact Program.asks_pure _ _
    | true => exact ih

theorem asks_relayOutput (hasLogger : Bool) (launched : Launched) :
    (Relay.relayOutput hasLogger launched).Asks Request.Plain := by
  unfold Relay.relayOutput
  split
  · split
    · exact Program.asks_bind (asks_pump _) fun _ => asks_pump _
    · exact Program.asks_pure _ _
  · exact Program.asks_pure _ _

theorem asks_stageFiles (s : Spawner) (stage : Stage) (files : List ExtraFile) :
    (s.stageFiles stage files).Asks Request.Plain := by
  unfold Spawner.stageFiles
  split
  · exact Program.asks_pure _ _
  · exact Program.asks_try (asks_adoptSlots _) (fun _ => Program.asks_pure _ _)
      fun _ => Program.asks_pure _ _

theorem asks_finish (s : Spawner) (stage : Stage) (carried : Option String)
    (files : List ExtraFile) : (s.finish stage carried files).Asks Request.Plain := by
  unfold Spawner.finish
  refine Program.asks_try (Program.asks_request trivial) (fun _ => Program.asks_pure _ _) ?_
  intro entered
  refine Program.asks_bind (Program.asks_request trivial) fun cleared => ?_
  split
  · exact Program.asks_try (Program.asks_request trivial) (fun _ => Program.asks_pure _ _)
      fun _ => Program.asks_pure _ _
  · exact Program.asks_pure _ _

theorem asks_marker (env : Environment) : (Spawner.marker env).Asks Request.Ordinary :=
  Program.asks_bind (Program.asks_request (.inr rfl)) fun _ => Program.asks_pure _ _

theorem asks_spawn (s : Spawner) (files : List ExtraFile) :
    (s.spawn files).Asks Request.Ordinary := by
  have hplain {q : Request} (h : q.Plain) : (Program.request q).Asks Request.Ordinary :=
    Program.asks_request (.inl h)
  refine Program.asks_bind (asks_marker s.env) fun record => ?_
  refine Program.asks_try (asks_stageFiles _ _ _).ordinary (fun _ => Program.asks_pure _ _) ?_
  intro files
  refine Program.asks_try (hplain trivial) (fun _ => Program.asks_pure _ _) fun executable => ?_
  dsimp only
  split
  · refine Program.asks_bind ?_ fun _ => Program.asks_pure _ _
    refine Program.asks_bind (Program.asks_request (.inr rfl)) fun now => ?_
    refine Program.asks_try (asks_duplicateAll _).ordinary (fun _ => Program.asks_pure _ _) ?_
    intro descriptors
    refine Program.asks_bind (hplain trivial) fun arguments => ?_
    refine Program.asks_try (hplain trivial) (fun _ => Program.asks_pure _ _) fun launched => ?_
    exact Program.asks_bind (asks_relayOutput _ _).ordinary fun _ => Program.asks_pure _ _
  · exact (asks_finish _ _ _ _).ordinary

theorem asks_adoptSockets (descriptor : Descriptor) (count : Nat) :
    (Daemon.adoptSockets descriptor count).Asks Request.Plain := by
  induction count generalizing descriptor with
  | zero => exact Program.asks_pure _ _
  | succ count ih =>
    unfold Daemon.adoptSockets
    refine Program.asks_try (Program.asks_request trivial) (fun _ => Program.asks_pure _ _) ?_
    intro resource
    dsimp only
    split
    · exact Program.asks_pure _ _
    · exact Program.asks_try (ih _) (fun _ => Program.asks_pure _ _)
        fun _ => Program.asks_pure _ _

/-- plain, or about the predecessor -/
def Request.Filial (q : Request) : Prop :=
  q.Plain ∨ q = .parentId ∨ ∃ pid signal, q = .signal pid signal

theorem asks_takeOver (d : Daemon) : d.takeOver.Asks Request.Filial := by
  have hplain {α : Type} {p : Program α} (h : p.Asks Request.Plain) : p.Asks Request.Filial :=
    h.mono fun _ => .inl
  have hrequest {q : Request} (h : q.Plain) : (Program.request q).Asks Request.Filial :=
    Program.asks_request (.inl h)
  unfold Daemon.takeOver
  split
  · exact Program.asks_pure _ _
  refine Program.asks_try (hplain (asks_adoptSlots _)) (fun _ => Program.asks_pure _ _) ?_
  intro files
  refine Program.asks_try (hplain (asks_adoptSockets _ _)) (fun _ => Program.asks_pure _ _) ?_
  intro sockets
  refine Program.asks_try (hrequest trivial) (fun _ => Program.asks_pure _ _) fun entered => ?_
  refine Program.asks_bind (hrequest trivial) fun cleared => ?_
  refine Program.asks_bind (Program.asks_request (.inr (.inl rfl))) fun parent => ?_
  refine Program.asks_try (Program.asks_request (.inr (.inr ⟨parent, _, rfl⟩)))
    (fun _ => Program.asks_pure _ _) fun told => ?_
  dsimp only
  unfold Daemon.daemonStdio
  split
  · exact Program.asks_try (hrequest trivial) (fun _ => Program.asks_pure _ _)
      fun _ => Program.asks_pure _ _
  · exact Program.asks_pure _ _

end Succession
