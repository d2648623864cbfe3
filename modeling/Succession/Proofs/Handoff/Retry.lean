import Succession.Proofs.Handoff.Footprint
import Succession.Proofs.Handoff.StartSequence

/-!
# A first stage that is refused

A start hands its registered files to the first stage, and they do not come back: not after a
launch, where the process is done, and not after a failure either, which the process survives. The
variables stay as they are. So whoever tries again launches a successor without files.

* `Daemon.Passes d files xs plan`   a first stage passes files on, with the variables for them;
* `Spawner.launchNext_changes`      the variables of a launch;
* `Daemon.spawn_cases`              a stage, and what the daemon keeps of it;
* `Daemon.spawn_first`              the first stage, whatever becomes of it;
* `Daemon.spawn_refused`            a failure that the process survives, and every try after it.
-/

namespace Succession

open Program

namespace Spawner

variable {s : Spawner} {stage next : Stage} {carried : Option String} {files : List ExtraFile}
  {xs ys : List Exchange} {now : Int}

theorem launchNext_changes {executable : Path} {result : Except SpawnError SpawnOutcome}
    (h : (s.launchNext stage next carried executable files).Takes xs result) :
    ∀ launch ∈ launches xs, ∃ now, launch.1.env = s.changes stage next carried now files := by
  unfold launchNext at h
  obtain ⟨now, ys, rfl, hnow⟩ := h.ask_inv
  obtain ⟨ds, zs, copies, rfl, hcopies, hrest⟩ := hnow.bind_inv
  have hds : launches ds = [] := launches_eq_nil ((duplicateAll_took hcopies).1.ne (by decide))
  have hlaunches : launches (⟨.now, now⟩ :: (ds ++ zs)) = launches zs := by
    show launches (ds ++ zs) = _
    rw [launches_append, hds, List.nil_append]
  rw [hlaunches]
  cases copies with
  | error source =>
    obtain ⟨rfl, rfl⟩ := hrest.done_inv
    exact List.forall_mem_nil _
  | ok copies =>
    obtain ⟨arguments, ys, rfl, harguments⟩ := hrest.ask_inv
    obtain ⟨r, ls, rfl, hlast⟩ := harguments.ask_inv
    have hls : launches ls = [] := by
      cases r with
      | error source =>
        obtain ⟨rfl, -⟩ := hlast.done_inv
        rfl
      | ok launched =>
        obtain ⟨as, bs, _, rfl, hrelay, hdone⟩ := hlast.bind_inv
        obtain ⟨rfl, -⟩ := hdone.done_inv
        have hlog : All .log as := hrelay.asked (asks_relayed _ _)
        rw [List.append_nil]
        exact launches_eq_nil (hlog.ne (by decide))
    intro launch hm
    change launch ∈ _ :: launches ls at hm
    rw [hls] at hm
    obtain rfl := List.mem_singleton.mp hm
    exact ⟨now, rfl⟩

/-- the first stage is never the last one -/
theorem parent_lt_terminalStage (s : Spawner) : .parent < s.terminalStage := by
  unfold terminalStage
  cases s.daemonize <;> decide

theorem successorStage?_parent (s : Spawner) :
    s.successorStage? .parent = some .firstChild := by
  unfold successorStage?
  rw [if_pos s.parent_lt_terminalStage]
  rfl

/-- the first stage launches with the descriptions of its files -/
theorem spawn_changes {result : Except SpawnError SpawnOutcome} {after : Environment}
    (h : (s.spawn files).Takes (⟨.now, now⟩ :: ys) (result, after))
    (hparent : (StageMarker.decode (s.env.get? stageVariable) now).stage = .parent) :
    ∀ launch ∈ launches (⟨.now, now⟩ :: ys), ∃ marker,
      launch.1.env = (stageVariable, some marker) :: slotChanges s.env files := by
  unfold spawn at h
  obtain ⟨ms, zs, record, hxs, hmarker, hrest⟩ := h.bind_inv
  obtain ⟨now', us, rfl, hnow⟩ := hmarker.ask_inv
  obtain ⟨rfl, hrecord⟩ := hnow.done_inv
  obtain ⟨rfl, rfl⟩ : now' = now ∧ zs = ys := by
    cases hxs
    exact ⟨rfl, rfl⟩
  have hstage : record.stage = .parent := hrecord ▸ hparent
  dsimp only at hrest
  rw [hstage] at hrest
  change (request .executable >>= _).Takes zs _ at hrest
  obtain ⟨found, ys, rfl, hfound⟩ := hrest.ask_inv
  cases found with
  | error source =>
    obtain ⟨rfl, -⟩ := hfound.done_inv
    exact List.forall_mem_nil _
  | ok executable =>
    dsimp only at hfound
    rw [s.successorStage?_parent] at hfound
    obtain ⟨as, bs, r, rfl, hlaunch, hdone⟩ := hfound.bind_inv
    obtain ⟨rfl, -⟩ := hdone.done_inv
    rw [List.append_nil]
    intro launch hm
    obtain ⟨now, henv⟩ := launchNext_changes hlaunch launch hm
    exact ⟨_, henv⟩

end Spawner

namespace Daemon

variable {d d' : Daemon} {xs ys : List Exchange} {now : Int}
  {result : Except SpawnError SpawnOutcome}

/-! ## what the daemon keeps -/

/-- a stage that is not the last one, or fails, leaves the daemon without files; and the last one
may fail once more -/
theorem spawn_cases (h : d.spawn.Takes xs (result, d')) :
    ∃ as bs outcome after, xs = as ++ bs ∧ (d.spawner.spawn d.files).Takes as (outcome, after) ∧
      ((∀ terminal, outcome ≠ .ok (.ready terminal)) →
        bs = [] ∧ result = outcome ∧ d' = { d with env := after, files := [] }) ∧
      ∀ terminal, outcome = .ok (.ready terminal) → ∀ e, result = .error e →
        e.stage = d.spawner.terminalStage := by
  unfold spawn at h
  obtain ⟨as, bs, ⟨outcome, after⟩, rfl, hspawn, hrest⟩ := h.bind_inv
  refine ⟨as, bs, outcome, after, rfl, hspawn, ?_⟩
  cases outcome with
  | error e =>
    obtain ⟨rfl, hr⟩ := hrest.done_inv
    cases hr
    exact ⟨fun _ => ⟨rfl, rfl, rfl⟩, nofun⟩
  | ok outcome =>
    cases outcome with
    | handoff pid =>
      obtain ⟨rfl, hr⟩ := hrest.done_inv
      cases hr
      exact ⟨fun _ => ⟨rfl, rfl, rfl⟩, nofun⟩
    | ready terminal =>
      refine ⟨fun hready => absurd rfl (hready terminal), fun _ _ e he => ?_⟩
      obtain ⟨ks, ls, kept, rfl, -, hdone⟩ := hrest.bind_inv
      cases kept with
      | error source =>
        obtain ⟨-, hr⟩ := hdone.done_inv
        cases hr
        cases he
        rfl
      | ok kept =>
        obtain ⟨-, hr⟩ := hdone.done_inv
        cases hr
        cases he

/-- duplicates of files are launched, and the variables that describe them behind the marker -/
structure Passes (d : Daemon) (files : List ExtraFile) (xs : List Exchange) (plan : LaunchPlan) :
    Prop where
  originals : (copied xs).map (·.1) = files.map (·.resource)
  duplicates : (copied xs).map (·.2) = plan.descriptors
  changes : ∃ marker, plan.env = (stageVariable, some marker) :: slotChanges d.env files

/-- **The first stage takes the files out of the daemon**, whatever becomes of it, and passes them
on if it comes to a launch. -/
theorem spawn_first (h : d.spawn.Takes (⟨.now, now⟩ :: ys) (result, d'))
    (hparent : (StageMarker.decode (d.env.get? stageVariable) now).stage = .parent) :
    d' = { d with files := [] } ∧
    (∀ launch ∈ launches (⟨.now, now⟩ :: ys), d.Passes d.files (⟨.now, now⟩ :: ys) launch.1) ∧
    ∀ e, result = .error e → ∀ launch ∈ launches (⟨.now, now⟩ :: ys),
      ∃ source, launch.2 = .error source := by
  obtain ⟨as, bs, outcome, after, hxs, hspawn, hends, -⟩ := spawn_cases h
  obtain ⟨now', us, rfl, record, hrecord, heffects, -, -⟩ := Spawner.spawn_footprint hspawn
  obtain ⟨rfl, rfl⟩ : now' = now ∧ us ++ bs = ys := by
    cases hxs
    exact ⟨rfl, rfl⟩
  have hstage : record.stage = .parent := hrecord ▸ hparent
  rw [hstage, if_pos rfl] at heffects
  obtain ⟨rfl, -, hready⟩ := heffects.onward d.spawner.parent_lt_terminalStage
  obtain ⟨rfl, rfl, rfl⟩ := hends hready
  rw [List.append_nil]
  refine ⟨rfl, fun launch hm => ?_, fun e he launch hm => ?_⟩
  · obtain ⟨horiginals, hduplicates⟩ := heffects.handsOver launch hm
    exact ⟨horiginals, hduplicates, Spawner.spawn_changes hspawn hparent launch hm⟩
  · obtain ⟨plan, r⟩ := launch
    cases r with
    | error source => exact ⟨source, rfl⟩
    | ok launched =>
      have hhanded := (heffects.handedOff launched.pid).mpr ⟨plan, launched, hm, rfl⟩
      cases he.symm.trans hhanded

/-- only the first stage fails so that the process survives it -/
theorem parent_of_refused {e : SpawnError} (h : d.spawn.Takes xs (.error e, d'))
    (he : e.isFatal = false) : ∃ now ys, xs = ⟨.now, now⟩ :: ys ∧
      (StageMarker.decode (d.env.get? stageVariable) now).stage = .parent := by
  obtain ⟨as, bs, outcome, after, rfl, hspawn, hends, hlast⟩ := spawn_cases h
  obtain ⟨now, us, rfl, record, rfl, heffects, -, -⟩ := Spawner.spawn_footprint hspawn
  refine ⟨now, us ++ bs, rfl, ?_⟩
  by_cases hready : ∃ terminal, outcome = .ok (.ready terminal)
  · obtain ⟨terminal, hterminal⟩ := hready
    have hlater : d.spawner.terminalStage ≠ .parent := by
      intro hp
      have hlt := d.spawner.parent_lt_terminalStage
      rw [hp] at hlt
      exact absurd hlt (by decide)
    rw [(Spawner.isFatal_iff (hlast terminal hterminal e rfl)).mpr hlater] at he
    cases he
  · obtain ⟨-, rfl, -⟩ := hends fun terminal ht => hready ⟨terminal, ht⟩
    obtain ⟨-, hfatal⟩ := heffects.errors e rfl
    refine Decidable.byContradiction fun hne => ?_
    rw [hfatal.mpr hne] at he
    cases he

/-- **Whoever survives a failure has no files any more**: the variables are what they were, nothing
runs, and every try after it passes nothing on, however well it goes. -/
theorem spawn_refused {e : SpawnError} (h : d.spawn.Takes xs (.error e, d'))
    (he : e.isFatal = false) :
    d' = { d with files := [] } ∧ (d'.files = d.files ↔ d.files = []) ∧
    (∀ launch ∈ launches xs, d.Passes d.files xs launch.1 ∧
      ∃ source, launch.2 = .error source) ∧
    (∀ now ys result d'', (StageMarker.decode (d.env.get? stageVariable) now).stage = .parent →
      d'.spawn.Takes (⟨.now, now⟩ :: ys) (result, d'') →
        ∀ launch ∈ launches (⟨.now, now⟩ :: ys), d.Passes [] (⟨.now, now⟩ :: ys) launch.1) ∧
    ∀ c : Clocked, c.host.process.faults = .none →
      (StageMarker.decode (d.env.get? stageVariable) (c.readings 0)).stage = .parent →
        ∃ pid plan c', c.run d'.spawn = ((.ok (.handoff pid), d'), c') ∧
          c.host.Launches c'.host pid plan ∧ plan.descriptors = [] := by
  obtain ⟨now, ys, rfl, hparent⟩ := parent_of_refused h he
  obtain ⟨rfl, hpasses, hrefused⟩ := spawn_first h hparent
  refine ⟨rfl, eq_comm, fun launch hm => ⟨hpasses launch hm, hrefused e rfl launch hm⟩, ?_, ?_⟩
  · intro now ys result d'' hparent hagain
    obtain ⟨-, hpasses, -⟩ := spawn_first hagain hparent
    intro launch hm
    obtain ⟨horiginals, hduplicates, hchanges⟩ := hpasses launch hm
    exact ⟨horiginals, hduplicates, hchanges⟩
  · intro c hf hparent
    have hnext := d.spawner.successorStage?_parent
    have hfiles : c.host.run (d.spawner.stageFiles .parent []) = (.ok [], c.host) := rfl
    rw [← hparent] at hnext hfiles
    obtain ⟨pid, plan, c', hrun, hlaunches, -, hdescriptors⟩ :=
      Clocked.run_spawn_handoff (e := { d with files := [] }) rfl hfiles hf hnext
    exact ⟨pid, plan, c', hrun, hlaunches, hdescriptors⟩

/-! ## a launch that is refused, and the next one -/

namespace Retrying

/-- a daemon that starts detached, with one file -/
def daemon : Daemon :=
  { Daemon.new ⟨true, .ofText "/molt.pid", .ofText "/srv", 10⟩ .empty false with
    files := [⟨.ofText "a", .file 4, none⟩] }

def plan (d : Daemon) (now : Int) : LaunchPlan :=
  ⟨.ofText "/app", [], d.spawner.changes .parent .firstChild none now d.files, .null, .null, .null,
    d.files.map (·.resource), true⟩

def failure : SpawnError := .launch .parent (.os .wouldBlock)

/-- there is no room for another process -/
def told : List Exchange :=
  [⟨.now, (7 : Int)⟩, ⟨.executable, .ok (.ofText "/app")⟩, ⟨.now, (8 : Int)⟩,
    ⟨.duplicate (.file 4), .ok (.file 4)⟩, ⟨.arguments, []⟩,
    ⟨.launch (plan daemon 8), .error (.os .wouldBlock)⟩]

def left : Daemon := { daemon with files := [] }

def toldAgain : List Exchange :=
  [⟨.now, (9 : Int)⟩, ⟨.executable, .ok (.ofText "/app")⟩, ⟨.now, (10 : Int)⟩, ⟨.arguments, []⟩,
    ⟨.launch (plan left 10), .ok ⟨5000, none, none⟩⟩]

theorem takes_told : daemon.spawn.Takes told (.error failure, left) :=
  .ask _ (.ask _ (.ask _ (.ask _ (.ask _ (.ask _ (.done _))))))

theorem takes_toldAgain : left.spawn.Takes toldAgain (.ok (.handoff 5000), left) :=
  .ask _ (.ask _ (.ask _ (.ask _ (.ask _ (.done _)))))

end Retrying

theorem spawn_refused_detached :
    Retrying.daemon.spawn.Takes Retrying.told (.error Retrying.failure, Retrying.left) ∧
    Retrying.failure.isFatal = false ∧ Retrying.left.files = [] ∧
    Retrying.daemon.Passes [] Retrying.toldAgain (Retrying.plan Retrying.left 10) := by
  have hrefused := spawn_refused Retrying.takes_told rfl
  refine ⟨Retrying.takes_told, rfl, congrArg Daemon.files hrefused.1, ?_⟩
  exact hrefused.2.2.2.1 9 _ _ _ rfl Retrying.takes_toldAgain _ List.mem_cons_self

/-- a failure that the process survives takes the file away, and the next try launches without it -/
theorem spawn_forgets :
    Retrying.daemon.spawn.Takes Retrying.told (.error Retrying.failure, Retrying.left) ∧
    (StageMarker.decode (Retrying.daemon.env.get? stageVariable) 7).stage = .parent ∧
    Retrying.failure.isFatal = false ∧ Retrying.left.files ≠ Retrying.daemon.files ∧
    Retrying.left.spawn.Takes Retrying.toldAgain (.ok (.handoff 5000), Retrying.left) ∧
    launches Retrying.toldAgain = [(Retrying.plan Retrying.left 10, .ok ⟨5000, none, none⟩)] ∧
    (Retrying.plan Retrying.left 10).descriptors ≠
      (Retrying.plan Retrying.daemon 8).descriptors :=
  ⟨Retrying.takes_told, rfl, rfl, nofun, Retrying.takes_toldAgain, rfl, nofun⟩

end Daemon
end Succession
