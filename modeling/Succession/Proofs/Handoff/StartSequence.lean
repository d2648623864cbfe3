import Succession.Daemon.Basic
import Succession.Proofs.Handoff.Marker
import Succession.Proofs.Handoff.Stages

/-!
# The start sequence is transparent

Every process of the start sequence but the last starts the next one. The files of the first process
and the values that its handoff variables had before travel through all of them, and the last one is
left with both, as if nothing had been in between.

* `Carries d env next written`   an environment in the middle of the sequence that `d` began;
* `Midway d stage c e`           a process in the middle;
* `Midway.run_handoff`, `Midway.run_ready`   it starts the next one, or is the last;
* `HandsDown`                    a chain of processes, each the one that the launch before it
                                 describes;
* `start_is_transparent`         the whole sequence.
-/

namespace Succession

/-! ## the environment in the middle -/

/-- the environment of a process that the sequence of `d` starts in the stage `next`: the slots of
its files, the marker around what was there before, and otherwise its own -/
structure Carries (d : Daemon) (env : Environment) (next : Stage) (written : Int) : Prop where
  described : Holds env (slotsFrom d.env firstExtra d.files)
  outside : ∀ name, name ∉ slotNames (slotsFrom d.env firstExtra d.files) →
    name ≠ stageVariable → env.get? name = d.env.get? name
  marker : env.get? stageVariable =
    some (StageMarker.encode next (d.env.get? stageVariable) written)

variable {d : Daemon} {env : Environment} {stage next : Stage} {written now : Int}

/-- the stage variable is none of the slots -/
theorem stageVariable_not_mem (slots : List Slot) : stageVariable ∉ slotNames slots :=
  not_mem_slotNames slots (by decide)

theorem descriptorVariable_ne_stageVariable (index : Descriptor) :
    descriptorVariable index ≠ stageVariable := descriptorVariable_ne index (by decide)

/-- the first process describes its files and begins the marker -/
theorem carries_first (d : Daemon) (next : Stage) (written : Int) :
    Carries d (d.env.override (d.spawner.changes .parent next (d.env.get? stageVariable) written
      d.files)) next written := by
  let marked := d.env.restore stageVariable
    (some (StageMarker.encode next (d.env.get? stageVariable) written))
  have he : d.env.override (d.spawner.changes .parent next (d.env.get? stageVariable) written
      d.files) = marked.override (slotChanges d.env d.files) := rfl
  rw [he]
  refine ⟨holds_override d.env d.files marked, ?_, ?_⟩
  · intro name hout hne
    rw [get?_override_slotChanges d.env d.files marked hout, Variables.get?_restore, if_neg hne]
  · rw [get?_override_slotChanges d.env d.files marked (stageVariable_not_mem _),
      Variables.get?_restore, if_pos rfl]

/-- every later process leaves the slots alone and writes the marker anew -/
theorem Carries.again (h : Carries d env stage written) (next : Stage) (now : Int) :
    Carries d (env.restore stageVariable
      (some (StageMarker.encode next (d.env.get? stageVariable) now))) next now := by
  refine ⟨?_, ?_, ?_⟩
  · intro s hs
    rw [Variables.get?_restore, if_neg (descriptorVariable_ne_stageVariable s.index)]
    exact h.described s hs
  · intro name hout hne
    rw [Variables.get?_restore, if_neg hne]
    exact h.outside name hout hne
  · rw [Variables.get?_restore, if_pos rfl]

/-- the slots are read back as the first process wrote them -/
theorem Carries.readSlots_eq (h : Carries d env stage written)
    (hend : NoSlotAt d.env (firstExtra + d.files.length)) :
    readSlots env = slotsFrom d.env firstExtra d.files := by
  refine Succession.readSlots_eq h.described ?_
  unfold NoSlotAt
  rw [h.outside _ (end_not_mem_slotNames d.env (by decide) d.files)
    (descriptorVariable_ne_stageVariable _)]
  exact hend

/-- **When everything is put back, the environment is the first process's own.** -/
theorem Carries.get?_restored (h : Carries d env stage written) (name : String) :
    ((restoreSlots env (slotsFrom d.env firstExtra d.files)).restore stageVariable
      (d.env.get? stageVariable)).get? name = d.env.get? name := by
  rw [Variables.get?_restore]
  by_cases hs : name = stageVariable
  · rw [if_pos hs, hs]
  · rw [if_neg hs]
    exact get?_restoreSlots fun hout => h.outside name hout hs

/-! ## a process in the middle -/

/-- what a clock wrote is read by a clock within the lifetime of a marker -/
structure InTime (written now : Int) : Prop where
  nonneg : 0 ≤ written
  fits : written ≤ Numeral.max64
  after : written ≤ now
  fresh : now - written ≤ StageMarker.lifetime

/-- a process in the middle of the sequence that `d` began, at its beginning -/
structure Midway (d : Daemon) (stage : Stage) (c : Clocked) (e : Daemon) : Prop where
  config : e.config = d.config
  carries : ∃ written, Carries d e.env stage written ∧ InTime written (c.readings 0)
  obliging : c.host.Obliging d.config.workDir
  inherited : c.host.process.inherited =
    World.numberFrom firstExtra (d.files.map (·.resource))
  events : c.host.process.events = []

variable {c : Clocked} {e : Daemon}

theorem Midway.decode_eq (h : Midway d stage c e) :
    StageMarker.decode (e.env.get? stageVariable) (c.readings 0) =
      ⟨stage, d.env.get? stageVariable, true⟩ := by
  obtain ⟨written, hc, ht⟩ := h.carries
  rw [hc.marker]
  exact StageMarker.decode_encode stage _ ht.nonneg ht.fits ht.after ht.fresh

/-- a process in the middle takes the files over, in their order and with their numbers -/
theorem Midway.run_stageFiles (h : Midway d stage c e) (hstage : stage ≠ .parent)
    (hend : NoSlotAt d.env (firstExtra + d.files.length)) (files : List ExtraFile) :
    c.host.run (e.spawner.stageFiles stage files) =
      (.ok (renumbered firstExtra d.files), c.host.withInherited []) := by
  obtain ⟨written, hc, -⟩ := h.carries
  have hi : c.host.process.inherited =
      World.numberFrom firstExtra (d.files.map (·.resource) ++ []) := by
    rw [h.inherited, List.append_nil]
  have hr : c.host.run (adoptSlots (slotsFrom d.env firstExtra d.files)) =
      (.ok (renumbered firstExtra d.files), c.host.withInherited []) :=
    Host.run_adoptSlots h.obliging.faults hi
  unfold Spawner.stageFiles
  rw [if_neg hstage, show e.spawner.env = e.env from rfl, hc.readSlots_eq hend,
    Host.run_bind_of_eq _ hr]
  rfl

/-! ## one process of the sequence -/

namespace Clocked

variable {record : StageMarker} {inherited : List ExtraFile} {host : Host}

/-- a process behind which another stage comes launches it, and is done -/
theorem run_spawn_handoff
    (hm : StageMarker.decode (e.env.get? stageVariable) (c.readings 0) = record)
    (hs : c.host.run (e.spawner.stageFiles record.stage e.files) = (.ok inherited, host))
    (hf : host.process.faults = .none)
    (hnext : e.spawner.successorStage? record.stage = some next) :
    ∃ pid plan c', c.run e.spawn = ((.ok (.handoff pid), { e with files := [] }), c') ∧
      host.Launches c'.host pid plan ∧
      plan.env = e.spawner.changes record.stage next record.carried (c.readings 1) inherited ∧
      plan.descriptors = inherited.map (·.resource) := by
  let begun : Clocked := { c.tick with host }
  obtain ⟨pid, plan, c', hl, hlaunches, henv, hdesc⟩ := run_launchNext (c := begun) hf e.spawner
    record.stage next record.carried host.process.executable inherited
  refine ⟨pid, plan, c', ?_, hlaunches, henv, hdesc⟩
  have hspawn : c.run (e.spawner.spawn e.files) = ((.ok (.handoff pid), e.env), c') := by
    rw [run_spawn hm hs hf, hnext]
    show begun.run (e.spawner.launchNext _ _ _ _ _ >>= _) = _
    rw [run_bind_of_eq _ hl]
    rfl
  unfold Daemon.spawn
  rw [run_bind_of_eq _ hspawn]
  rfl

/-- the last process enters its directory, puts everything back and keeps the files -/
theorem run_spawn_ready
    (hm : StageMarker.decode (e.env.get? stageVariable) (c.readings 0) = record)
    (hs : c.host.run (e.spawner.stageFiles record.stage e.files) = (.ok inherited, host))
    (ho : host.Obliging e.config.workDir)
    (hnext : e.spawner.successorStage? record.stage = none) :
    ∃ stdio here, c.run e.spawn = ((.ok (.ready ⟨stdio, inherited⟩),
          { e with
            env := (restoreSlots e.env (readSlots e.env)).restore stageVariable record.carried
            files := inherited }),
          { c.tick with host := host.happened here ([.workDir e.config.workDir, .clearUmask] ++
            if e.config.daemonize then [.stdioHandles] else []) }) ∧
      stdio.isSome = e.config.daemonize := by
  let begun : Clocked := { c.tick with host }
  obtain ⟨stdio, here, hr, hd⟩ := run_finish (c := begun) (s := e.spawner) ho record.stage
    record.carried inherited
  refine ⟨stdio, here, ?_, hd⟩
  have hspawn := run_spawn hm hs ho.faults
  rw [hnext] at hspawn
  change c.run (e.spawner.spawn e.files) = begun.run (e.spawner.finish _ _ _) at hspawn
  rw [hr] at hspawn
  unfold Daemon.spawn
  rw [run_bind_of_eq _ hspawn]
  show Clocked.run _ (Daemon.keepAll inherited >>= _) = _
  rw [run_bind_timeless _ (asks_keepAll _).timeless (Host.run_keepAll _ _)]
  rfl

end Clocked

/-! ## the whole sequence -/

/-- a chain of processes: `hops` of them launch a successor, each in the environment and with the
descriptors of its launch, and the last one is ready. Whatever else a successor is like is left
open. -/
def HandsDown (last : Host → Daemon → Terminal → Prop) : Nat → Clocked → Daemon → Prop
  | 0, c, e => ∃ terminal e' c', c.run e.spawn = ((.ok (.ready terminal), e'), c') ∧
      last c'.host e' terminal
  | hops + 1, c, e => ∃ pid plan e' c', c.run e.spawn = ((.ok (.handoff pid), e'), c') ∧
      c.host.Launches c'.host pid plan ∧
      ∀ (next : Clocked) (successor : Daemon),
        next.host.Begins (World.birth c.host.process.pid e.env pid plan) →
        next.host.Obliging e.config.workDir →
        InTime (c.readings 1) (next.readings 0) →
        successor.config = e.config → successor.env = e.env.override plan.env →
        HandsDown last hops next successor

/-- the last process of the sequence of `d` is left with the files and the environment of the
first -/
structure Daemon.SettlesAs (d : Daemon) (host : Host) (e : Daemon) (terminal : Terminal) :
    Prop where
  files : terminal.files = renumbered firstExtra d.files
  kept : e.files = terminal.files
  names : e.fileNames = d.fileNames
  env : ∀ name, e.env.get? name = d.env.get? name
  stdio : terminal.stdio.isSome = d.config.daemonize
  /-- the working directory was entered and the mask cleared once, and in no other process -/
  events : host.process.events = [.workDir d.config.workDir, .clearUmask] ++
    if d.config.daemonize then [.stdioHandles] else []
  inherited : host.process.inherited = []

theorem Midway.handsDown_ready (h : Midway d stage c e) (hstage : stage ≠ .parent)
    (hlast : e.spawner.successorStage? stage = none)
    (hend : NoSlotAt d.env (firstExtra + d.files.length)) :
    HandsDown d.SettlesAs 0 c e := by
  obtain ⟨written, hc, -⟩ := h.carries
  have ho : (c.host.withInherited []).Obliging e.config.workDir := by
    rw [h.config]
    exact h.obliging.withInherited []
  obtain ⟨stdio, here, hr, hd⟩ := Clocked.run_spawn_ready h.decode_eq
    (h.run_stageFiles hstage hend e.files) ho hlast
  refine ⟨_, _, _, hr, rfl, rfl, name_renumbered firstExtra d.files, ?_, ?_, ?_, rfl⟩
  · intro name
    show ((restoreSlots e.env (readSlots e.env)).restore stageVariable _).get? name = _
    rw [hc.readSlots_eq hend]
    exact hc.get?_restored name
  · rw [← h.config]
    exact hd
  · show c.host.process.events ++ _ = _
    rw [h.events, h.config, List.nil_append]

/-- what a process in the middle launches is in the middle, one stage on -/
theorem Midway.handsDown_handoff (h : Midway d stage c e) (hstage : stage ≠ .parent)
    (hnext : e.spawner.successorStage? stage = some next)
    (hend : NoSlotAt d.env (firstExtra + d.files.length))
    {hops : Nat} {last : Host → Daemon → Terminal → Prop}
    (hrest : ∀ c' e', Midway d next c' e' → HandsDown last hops c' e') :
    HandsDown last (hops + 1) c e := by
  obtain ⟨written, hc, -⟩ := h.carries
  obtain ⟨pid, plan, c', hr, hlaunches, henv, hdesc⟩ := Clocked.run_spawn_handoff h.decode_eq
    (h.run_stageFiles hstage hend e.files) h.obliging.faults hnext
  refine ⟨pid, plan, _, c', hr, ⟨hlaunches.launches, hlaunches.events⟩, ?_⟩
  intro c'' e'' hbegins ho ht hconfig hseen
  apply hrest
  have hchanges : e.spawner.changes stage next (d.env.get? stageVariable) (c.readings 1)
      (renumbered firstExtra d.files) = [(stageVariable,
        some (StageMarker.encode next (d.env.get? stageVariable) (c.readings 1)))] := by
    unfold Spawner.changes
    rw [if_neg hstage]
  refine ⟨hconfig.trans h.config, ⟨c.readings 1, ?_, ht⟩, h.config ▸ ho, ?_, hbegins.events⟩
  · rw [hseen, henv, hchanges]
    exact hc.again next (c.readings 1)
  · rw [hbegins.inherited]
    show World.numberFrom firstExtra plan.descriptors = _
    rw [hdesc, resource_renumbered]

/-- the process that the user started describes its files and launches the first copy -/
theorem handsDown_first (hf : c.host.process.faults = .none)
    (hmark : (StageMarker.decode (d.env.get? stageVariable) (c.readings 0)).trusted = false)
    {hops : Nat} {last : Host → Daemon → Terminal → Prop}
    (hrest : ∀ c' e', Midway d .firstChild c' e' → HandsDown last hops c' e') :
    HandsDown last (hops + 1) c d := by
  have hm := StageMarker.decode_foreign hmark
  have hs : c.host.run (d.spawner.stageFiles .parent d.files) = (.ok d.files, c.host) := rfl
  have hnext : d.spawner.successorStage? .parent = some .firstChild := by
    unfold Spawner.successorStage? Spawner.terminalStage
    cases d.spawner.daemonize <;> rfl
  obtain ⟨pid, plan, c', hr, hlaunches, henv, hdesc⟩ :=
    Clocked.run_spawn_handoff hm hs hf hnext
  refine ⟨pid, plan, _, c', hr, hlaunches, ?_⟩
  intro c'' e'' hbegins ho ht hconfig hseen
  apply hrest
  refine ⟨hconfig, ⟨c.readings 1, ?_, ht⟩, ho, ?_, hbegins.events⟩
  · rw [hseen, henv]
    exact carries_first d .firstChild (c.readings 1)
  · rw [hbegins.inherited]
    show World.numberFrom firstExtra plan.descriptors = _
    rw [hdesc]

/-- **The start sequence is transparent.** From a process that nobody started as a stage, one launch
leads to a daemon in the foreground and two to a detached one, which has the files and the
environment of the first process. -/
theorem start_is_transparent (hf : c.host.process.faults = .none)
    (hmark : (StageMarker.decode (d.env.get? stageVariable) (c.readings 0)).trusted = false)
    (hend : NoSlotAt d.env (firstExtra + d.files.length)) :
    HandsDown d.SettlesAs (if d.config.daemonize then 2 else 1) c d := by
  have hstage (e : Daemon) (hc : e.config = d.config) :
      e.spawner.terminalStage = if d.config.daemonize then .daemon else .firstChild := by
    rw [← hc]
    rfl
  cases hd : d.config.daemonize with
  | false =>
    rw [hd] at hstage
    apply handsDown_first hf hmark
    intro c' e' h
    have hlast : e'.spawner.successorStage? .firstChild = none := by
      unfold Spawner.successorStage?
      rw [hstage e' h.config]
      rfl
    exact h.handsDown_ready (by decide) hlast hend
  | true =>
    rw [hd] at hstage
    apply handsDown_first hf hmark
    intro c' e' h
    have hnext : e'.spawner.successorStage? .firstChild = some .daemon := by
      unfold Spawner.successorStage?
      rw [hstage e' h.config]
      rfl
    refine h.handsDown_handoff (by decide) hnext hend ?_
    intro c'' e'' h'
    have hlast : e''.spawner.successorStage? .daemon = none := by
      unfold Spawner.successorStage?
      rw [hstage e'' h'.config]
      rfl
    exact h'.handsDown_ready (by decide) hlast hend

/-! ## one sequence -/

namespace Starting

/-- a detached daemon with two files, in an environment that has used the variables of the sequence
for something else -/
def daemon : Daemon :=
  { Daemon.new ⟨true, .ofText "/molt.pid", .ofText "/srv", 10⟩
      ⟨[("MOLT_STAGE", "2/none:rest"), ("MOLT_FD_4", "61:62"), ("PATH", "/bin")]⟩ false with
    files := [⟨.ofText "a:b", .file 4, none⟩, ⟨.ofText "", .socket ⟨0, "127.0.0.1:80"⟩, none⟩] }

/-- a process on a machine whose clock goes on by a second with every reading -/
def process (pid parent : Nat) (inherited : List (Descriptor × Resource)) (since : Int) : Clocked :=
  ⟨⟨.initial (.ofText "/home") 0 (pid + 1),
      { Process.initial pid parent (.ofText "/app") [] (.ofText "/home") with inherited }⟩,
    fun n => since + 1000000000 * n⟩

/-- the process of a launch, which reads the clock after everything that came before -/
def successor (parent pid : Nat) (plan : LaunchPlan) (since : Int) : Clocked :=
  process pid parent (World.numberFrom firstExtra plan.descriptors) since

/-- a copy of the daemon in the environment of a launch; what it registers itself does not count -/
def copy (d : Daemon) (plan : LaunchPlan) : Daemon :=
  { d with env := d.env.override plan.env, files := [] }

theorem obliging (pid parent : Nat) (inherited : List (Descriptor × Resource)) (since : Int) :
    (process pid parent inherited since).host.Obliging (.ofText "/srv") :=
  ⟨rfl, fun h => Bool.noConfusion h⟩

/-- the second reading of one process and the first of another -/
theorem inTime {since since' : Int} (h : InTime (since + 1000000000) since') (p q p' q' : Nat)
    (i i' : List (Descriptor × Resource)) :
    InTime ((process p q i since).readings 1) ((process p' q' i' since').readings 0) := by
  show InTime (since + 1000000000 * ((1 : Nat) : Int)) (since' + 1000000000 * ((0 : Nat) : Int))
  rwa [Int.natCast_one, Int.mul_one, Int.natCast_zero, Int.mul_zero, Int.add_zero]

end Starting

theorem start_is_transparent_detached :
    (StageMarker.decode (Starting.daemon.env.get? stageVariable) 0).trusted = false ∧
    NoSlotAt Starting.daemon.env (firstExtra + 2) ∧
    ∃ pid first d c pid' second d' c' terminal e c'',
      (Starting.process 7 1 [] 0).run Starting.daemon.spawn = ((.ok (.handoff pid), d), c) ∧
      (Starting.process 7 1 [] 0).host.Launches c.host pid first ∧
      (Starting.successor 7 pid first 3000000000).run (Starting.copy Starting.daemon first).spawn =
        ((.ok (.handoff pid'), d'), c') ∧
      (Starting.successor 7 pid first 3000000000).host.Launches c'.host pid' second ∧
      (Starting.successor pid pid' second 6000000000).run
          (Starting.copy (Starting.copy Starting.daemon first) second).spawn =
        ((.ok (.ready terminal), e), c'') ∧
      Starting.daemon.SettlesAs c''.host e terminal := by
  have hmark : (StageMarker.decode (Starting.daemon.env.get? stageVariable) 0).trusted = false := by
    decide
  have hend : NoSlotAt Starting.daemon.env (firstExtra + 2) := by decide
  refine ⟨hmark, hend, ?_⟩
  obtain ⟨pid, first, d, c, hr, hl, hrest⟩ :=
    start_is_transparent (c := Starting.process 7 1 [] 0) (d := Starting.daemon) rfl hmark hend
  obtain ⟨pid', second, d', c', hr', hl', hrest'⟩ := hrest
    (Starting.successor 7 pid first 3000000000) (Starting.copy Starting.daemon first)
    ⟨rfl, rfl, rfl, rfl⟩ (Starting.obliging _ _ _ _)
    (Starting.inTime ⟨by decide, by decide, by decide, by decide⟩ _ _ _ _ _ _) rfl rfl
  obtain ⟨terminal, e, c'', hr'', hlast⟩ := hrest'
    (Starting.successor pid pid' second 6000000000)
    (Starting.copy (Starting.copy Starting.daemon first) second)
    ⟨rfl, rfl, rfl, rfl⟩ (Starting.obliging _ _ _ _)
    (Starting.inTime ⟨by decide, by decide, by decide, by decide⟩ _ _ _ _ _ _) rfl rfl
  exact ⟨pid, first, d, c, pid', second, d', c', terminal, e, c'', hr, hl, hr', hl', hr'', hlast⟩

end Succession
