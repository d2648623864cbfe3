import Succession.Daemon.Basic
import Succession.Proofs.Handoff.Marker
import Succession.Proofs.Handoff.Questions
import Succession.Proofs.Handoff.Successor
import Succession.Proofs.Program.Clock

/-!
# One stage of the start sequence

A stage reads the marker, takes its files over if it inherited them, and then starts the next
process or settles down. On an obliging host both go through, whatever the clock does in between.

* `Clocked.run_launchNext`   the launch of the next process;
* `Clocked.run_finish`       the last steps of the last process;
* `Clocked.run_spawn`        a stage, up to the decision between the two.
-/

namespace Succession

/-! ## launching the next process -/

namespace Host

def wrote (host : Host) (written : List String) : Host :=
  { host with process := { host.process with written } }

theorem run_pump (host : Host) (lines : List String) :
    ∃ written, host.run (Relay.pump lines) = ((), host.wrote written) := by
  induction lines generalizing host with
  | nil => exact ⟨host.process.written, rfl⟩
  | cons line rest ih =>
    unfold Relay.pump
    rw [run_bind, run_request]
    show ∃ written, (host.log line).2.run (if (host.log line).1 then _ else _) = _
    unfold log
    cases host.process.logger with
    | absent => exact ih host
    | collecting =>
      obtain ⟨written, hr⟩ := ih { host with process := host.process.write line }
      exact ⟨written, hr⟩
    | panicking => exact ⟨host.process.written, rfl⟩

theorem run_relayOutput (host : Host) (hasLogger : Bool) (launched : Launched) :
    ∃ written, host.run (Relay.relayOutput hasLogger launched) = ((), host.wrote written) := by
  unfold Relay.relayOutput
  split
  · next stdout stderr _ _ =>
    split
    · obtain ⟨first, hf⟩ := run_pump host (Relay.texts stdout)
      obtain ⟨second, hs⟩ := run_pump (host.wrote first) (Relay.texts stderr)
      refine ⟨second, ?_⟩
      show host.run (Relay.pump _ >>= fun _ => Relay.pump _) = _
      rw [run_bind_of_eq _ hf, hs]
      rfl
    · exact ⟨host.process.written, rfl⟩
  · exact ⟨host.process.written, rfl⟩

/-- one more process has been launched, and nothing else has happened to this one -/
structure Launches (before after : Host) (pid : Nat) (plan : LaunchPlan) : Prop where
  launches : after.process.launches = before.process.launches ++ [(pid, plan)]
  events : after.process.events = before.process.events ++ [.launch pid plan]

end Host

namespace Clocked

variable {c : Clocked}

/-- **The launch of the next process** goes through, with the changes to its environment and the
files in their order. -/
theorem run_launchNext (hf : c.host.process.faults = .none) (s : Spawner) (stage next : Stage)
    (carried : Option String) (executable : Path) (files : List ExtraFile) :
    ∃ pid plan c', c.run (s.launchNext stage next carried executable files) =
        (.ok (.handoff pid), c') ∧
      c.host.Launches c'.host pid plan ∧
      plan.env = s.changes stage next carried (c.readings 0) files ∧
      plan.descriptors = files.map (·.resource) := by
  let plan : LaunchPlan := ⟨executable, c.host.process.arguments,
    s.changes stage next carried (c.readings 0) files, (s.stdio stage).1, (s.stdio stage).2.1,
    (s.stdio stage).2.2, files.map (·.resource), s.daemonize && stage = .parent⟩
  let launched := (c.host.launch plan).1
  let after := (c.host.launch plan).2
  obtain ⟨written, hr⟩ := Host.run_relayOutput after s.hasLogger launched
  refine ⟨launched.pid, plan, { c.tick with host := after.wrote written }, ?_, ⟨rfl, rfl⟩, rfl,
    rfl⟩
  have hl : Host.handle (.launch plan) c.tick.host = (.ok launched, after) := by
    show Host.faulty c.host.process.faults.launch c.host _ = _
    rw [hf]
    rfl
  unfold Spawner.launchNext
  rw [run_bind_of_eq _ (run_now c),
    run_bind_timeless _ (asks_duplicateAll _).timeless (Host.run_duplicateAll _ _)]
  show c.tick.run (Program.request .arguments >>= _) = _
  rw [run_bind_request (q := .arguments) _ nofun rfl]
  show c.tick.run (Program.request (.launch plan) >>= _) = _
  rw [run_bind_request (q := .launch plan) _ nofun hl]
  let started : Clocked := { c.tick with host := after }
  show started.run (Relay.relayOutput s.hasLogger launched >>= _) = _
  rw [run_bind_timeless (c := started) _ (asks_relayOutput _ _).timeless hr]
  rfl

/-- the last steps of the last process: the files are the ones that it took over, and the variables
have their previous values -/
theorem run_finish {s : Spawner} (ho : c.host.Obliging s.workDir) (stage : Stage)
    (carried : Option String) (files : List ExtraFile) :
    ∃ stdio here, c.run (s.finish stage carried files) =
        ((.ok (.ready ⟨stdio, files⟩),
          (restoreSlots s.env (readSlots s.env)).restore stageVariable carried),
          { c with host := c.host.happened here ([.workDir s.workDir, .clearUmask] ++
            if s.daemonize then [.stdioHandles] else []) }) ∧
      stdio.isSome = s.daemonize := by
  obtain ⟨here, he⟩ := Host.handle_enterWorkDir ho
  let entered := c.host.happened here [.workDir s.workDir]
  let cleared := entered.record .clearUmask
  have hcleared : cleared = c.host.happened here [.workDir s.workDir, .clearUmask] :=
    Host.record_happened _ _ _ _
  unfold Spawner.finish
  rw [run_bind_request (q := .enterWorkDir s.workDir) _ nofun he]
  show ∃ stdio here, ({ c with host := entered } : Clocked).run
    (Program.request .clearUmask >>= _) = _ ∧ _
  rw [run_bind_request (q := .clearUmask) (c := { c with host := entered }) _ nofun rfl]
  cases hd : s.daemonize with
  | false =>
    refine ⟨none, here, ?_, rfl⟩
    show (_, ({ c with host := cleared } : Clocked)) = _
    rw [hcleared]
    rfl
  | true =>
    have hf : cleared.process.faults = .none := ho.faults
    obtain ⟨pipes, hp⟩ := Host.handle_stdioHandles hf
    refine ⟨some pipes, here, ?_, rfl⟩
    show ({ c with host := cleared } : Clocked).run (Program.request .stdioHandles >>= _) = _
    rw [run_bind_request (q := .stdioHandles) (c := { c with host := cleared }) _ nofun hp, hcleared,
       Host.happened_happened]
    rfl

/-- a stage, up to the decision whether another one follows -/
theorem run_spawn {s : Spawner} {record : StageMarker} {files inherited : List ExtraFile}
    {host : Host}
    (hm : StageMarker.decode (s.env.get? stageVariable) (c.readings 0) = record)
    (hs : c.host.run (s.stageFiles record.stage files) = (.ok inherited, host))
    (hf : host.process.faults = .none) :
    c.run (s.spawn files) = ({ c.tick with host } : Clocked).run
      (match s.successorStage? record.stage with
      | some next => do
        return (← s.launchNext record.stage next record.carried host.process.executable inherited,
          s.env)
      | none => s.finish record.stage record.carried inherited) := by
  have hr : c.run (Spawner.marker s.env) = (record, c.tick) := by
    unfold Spawner.marker
    rw [run_bind_of_eq _ (run_now c), hm]
    rfl
  have hx : Host.handle .executable host = (.ok host.process.executable, host) := by
    show Host.faulty host.process.faults.executable host _ = _
    rw [hf]
    rfl
  unfold Spawner.spawn
  rw [run_bind_of_eq _ hr]
  show c.tick.run (s.stageFiles record.stage files >>= _) = _
  rw [run_bind_timeless (c := c.tick) _ (asks_stageFiles _ _ _).timeless hs]
  show ({ c.tick with host } : Clocked).run (Program.request .executable >>= _) = _
  exact run_bind_request (q := .executable) (c := { c.tick with host }) _ nofun hx

end Clocked
end Succession
