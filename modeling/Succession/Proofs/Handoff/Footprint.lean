import Succession.Proofs.Handoff.Foreign
import Succession.Proofs.Program.Exchanges

/-!
# What a stage leaves behind

A stage that is not the last one only launches: its own variables stay as they are, and so do its
directory and its umask. The last stage launches nothing; once it is in the working directory, the
variables of the handover have their previous values, and the others stay. Whatever the host refuses
on the way, an error names the stage that it happened in.

* `launches`, `adopted`, `copied`        what was asked for in the course of exchanges;
* `adoptSlots_took`, `duplicateAll_took`  the loops over descriptors;
* `Spawner.Onward`, `launchNext_took`    the way to the next stage;
* `Spawner.Restores`, `Spawner.Settles`, `finish_took`   the end of the last stage;
* `Spawner.spawn_footprint`              a whole stage, on any host.
-/

namespace Succession

open Program

/-! ## exchanges -/

/-- what a question is about, as far as a stage leaves something behind -/
inductive Request.Kind where
  | launch
  | adopt
  | duplicate
  /-- the directory or the umask of the process -/
  | settle
  | log
  | other
deriving DecidableEq

def Request.kind : Request → Kind
  | .launch _ => .launch
  | .adopt _ => .adopt
  | .duplicate _ => .duplicate
  | .enterWorkDir _ | .clearUmask => .settle
  | .log _ => .log
  | _ => .other

def launches (xs : List Exchange) : List (LaunchPlan × Except IoError Launched) :=
  xs.filterMap fun
    | ⟨.launch plan, r⟩ => some (plan, r)
    | _ => none

def adopted (xs : List Exchange) : List Resource :=
  xs.filterMap fun
    | ⟨.adopt _, .ok resource⟩ => some resource
    | _ => none

def copied (xs : List Exchange) : List (Resource × Resource) :=
  xs.filterMap fun
    | ⟨.duplicate resource, .ok copy⟩ => some (resource, copy)
    | _ => none

section
variable {xs : List Exchange}

theorem launches_append (xs ys : List Exchange) :
    launches (xs ++ ys) = launches xs ++ launches ys := List.filterMap_append

theorem adopted_append (xs ys : List Exchange) :
    adopted (xs ++ ys) = adopted xs ++ adopted ys := List.filterMap_append

theorem copied_append (xs ys : List Exchange) : copied (xs ++ ys) = copied xs ++ copied ys :=
  List.filterMap_append

theorem launches_eq_nil (h : ∀ x ∈ xs, x.question.kind ≠ .launch) : launches xs = [] := by
  refine List.filterMap_eq_nil_iff.mpr fun x hx => ?_
  have hkind := h x hx
  obtain ⟨q, r⟩ := x
  cases q with
  | launch plan => exact absurd rfl hkind
  | _ => rfl

theorem adopted_eq_nil (h : ∀ x ∈ xs, x.question.kind ≠ .adopt) : adopted xs = [] := by
  refine List.filterMap_eq_nil_iff.mpr fun x hx => ?_
  have hkind := h x hx
  obtain ⟨q, r⟩ := x
  cases q with
  | adopt descriptor => exact absurd rfl hkind
  | _ => rfl

theorem copied_eq_nil (h : ∀ x ∈ xs, x.question.kind ≠ .duplicate) : copied xs = [] := by
  refine List.filterMap_eq_nil_iff.mpr fun x hx => ?_
  have hkind := h x hx
  obtain ⟨q, r⟩ := x
  cases q with
  | duplicate resource => exact absurd rfl hkind
  | _ => rfl

end

def All (kind : Request.Kind) (xs : List Exchange) : Prop := ∀ x ∈ xs, x.question.kind = kind

theorem All.ne {kind kind' : Request.Kind} {xs : List Exchange} (h : All kind xs)
    (hne : kind ≠ kind') : ∀ x ∈ xs, x.question.kind ≠ kind' := by
  intro x hx
  rw [h x hx]
  exact hne

/-! ## loops over descriptors -/

theorem adoptSlots_took {slots : List Slot} {xs : List Exchange}
    {r : Except (Descriptor × IoError) (List ExtraFile)} (h : (adoptSlots slots).Takes xs r) :
    All .adopt xs ∧ ∀ files, r = .ok files → files.map (·.resource) = adopted xs := by
  induction slots generalizing xs r with
  | nil =>
    obtain ⟨rfl, rfl⟩ := h.done_inv
    refine ⟨List.forall_mem_nil _, ?_⟩
    rintro _ ⟨⟩
    rfl
  | cons slot slots ih =>
    unfold adoptSlots at h
    obtain ⟨found, ys, rfl, hrest⟩ := h.ask_inv
    cases found with
    | error source =>
      obtain ⟨rfl, rfl⟩ := hrest.done_inv
      constructor
      · intro x hx
        rw [List.mem_singleton.mp hx]
        rfl
      · rintro _ ⟨⟩
    | ok resource =>
      obtain ⟨rest, hloop, hlast⟩ := hrest.bind_last_inv fun rest _ _ hlast => by
        cases rest <;> exact hlast.done_inv.1
      obtain ⟨hall, hfiles⟩ := ih hloop
      refine ⟨List.forall_mem_cons.mpr ⟨rfl, hall⟩, ?_⟩
      rintro files rfl
      cases rest with
      | error e => cases hlast.done_inv.2
      | ok files' =>
        cases hlast.done_inv.2
        exact congrArg (resource :: ·) (hfiles files' rfl)

theorem duplicateAll_took {resources : List Resource} {xs : List Exchange}
    {r : Except IoError (List Resource)} (h : (duplicateAll resources).Takes xs r) :
    All .duplicate xs ∧ ∀ copies, r = .ok copies →
      (copied xs).map (·.1) = resources ∧ (copied xs).map (·.2) = copies := by
  induction resources generalizing xs r with
  | nil =>
    obtain ⟨rfl, rfl⟩ := h.done_inv
    refine ⟨List.forall_mem_nil _, ?_⟩
    rintro _ ⟨⟩
    exact ⟨rfl, rfl⟩
  | cons resource resources ih =>
    unfold duplicateAll at h
    obtain ⟨copy, ys, rfl, hrest⟩ := h.ask_inv
    cases copy with
    | error source =>
      obtain ⟨rfl, rfl⟩ := hrest.done_inv
      constructor
      · intro x hx
        rw [List.mem_singleton.mp hx]
        rfl
      · rintro _ ⟨⟩
    | ok copy =>
      obtain ⟨rest, hloop, hlast⟩ := hrest.bind_last_inv fun rest _ _ hlast => by
        cases rest <;> exact hlast.done_inv.1
      obtain ⟨hall, hcopies⟩ := ih hloop
      refine ⟨List.forall_mem_cons.mpr ⟨rfl, hall⟩, ?_⟩
      rintro copies rfl
      cases rest with
      | error e => cases hlast.done_inv.2
      | ok copies' =>
        cases hlast.done_inv.2
        obtain ⟨horiginals, hduplicates⟩ := hcopies copies' rfl
        exact ⟨congrArg (resource :: ·) horiginals, congrArg (copy :: ·) hduplicates⟩

theorem asks_relayed (hasLogger : Bool) (launched : Launched) :
    (Relay.relayOutput hasLogger launched).Asks (·.kind = .log) := by
  have hpump (lines : List String) : (Relay.pump lines).Asks (·.kind = .log) := by
    induction lines with
    | nil => exact asks_pure _ _
    | cons line rest ih =>
      unfold Relay.pump
      refine asks_bind (asks_request rfl) fun r => ?_
      cases r with
      | false => exact asks_pure _ _
      | true => exact ih
  unfold Relay.relayOutput
  split
  · split
    · exact asks_bind (hpump _) fun _ => hpump _
    · exact asks_pure _ _
  · exact asks_pure _ _

namespace Spawner

variable {s : Spawner} {stage next : Stage} {carried : Option String} {files : List ExtraFile}
  {xs : List Exchange}

theorem stageFiles_took {r : Except SpawnError (List ExtraFile)}
    (h : (s.stageFiles stage files).Takes xs r) :
    All .adopt xs ∧ (stage = .parent → xs = []) ∧
      (∀ e, r = .error e → e.stage = stage) ∧
      ∀ found, r = .ok found → found.map (·.resource) =
        if stage = .parent then files.map (·.resource) else adopted xs := by
  unfold stageFiles at h
  split at h
  · next hparent =>
    obtain ⟨rfl, rfl⟩ := h.done_inv
    refine ⟨List.forall_mem_nil _, fun _ => rfl, nofun, ?_⟩
    rintro _ ⟨⟩
    rw [if_pos hparent]
  · next hlater =>
    obtain ⟨as, bs, taken, rfl, hloop, hlast⟩ := h.bind_inv
    obtain ⟨hall, hfiles⟩ := adoptSlots_took hloop
    cases taken with
    | error failure =>
      obtain ⟨rfl, rfl⟩ := hlast.done_inv
      rw [List.append_nil]
      refine ⟨hall, fun hparent => absurd hparent hlater, ?_, nofun⟩
      rintro _ ⟨⟩
      rfl
    | ok taken =>
      obtain ⟨rfl, rfl⟩ := hlast.done_inv
      rw [List.append_nil]
      refine ⟨hall, fun hparent => absurd hparent hlater, nofun, ?_⟩
      rintro _ ⟨⟩
      rw [if_neg hlater, hfiles taken rfl]

/-! ## the way to the next stage -/

/-- what came of a launch, as the result of a stage -/
def handed (stage : Stage) : Except IoError Launched → Except SpawnError SpawnOutcome
  | .ok launched => .ok (.handoff launched.pid)
  | .error source => .error (.launch stage source)

/-- duplicates of some descriptors are launched with the next process, or something fails before -/
structure Onward (stage : Stage) (originals : List Resource) (xs : List Exchange)
    (result : Except SpawnError SpawnOutcome) : Prop where
  stays : ∀ x ∈ xs, x.question.kind ≠ .settle ∧ x.question.kind ≠ .adopt
  launched : (launches xs = [] ∧ ∃ source, result = .error (.launch stage source)) ∨
    ∃ plan r, launches xs = [(plan, r)] ∧ result = handed stage r ∧
      (copied xs).map (·.1) = originals ∧ (copied xs).map (·.2) = plan.descriptors

/-- the clock, the duplicates, the arguments and the launch, and then the logger -/
theorem onward_launched {originals : List Resource} {plan : LaunchPlan}
    {r : Except IoError Launched} {ds ls : List Exchange} (hds : All .duplicate ds)
    (hls : All .log ls) (horiginals : (copied ds).map (·.1) = originals)
    (hduplicates : (copied ds).map (·.2) = plan.descriptors) (now : Int)
    (arguments : List Bytes) :
    Onward stage originals
      (⟨.now, now⟩ :: (ds ++ ⟨.arguments, arguments⟩ :: ⟨.launch plan, r⟩ :: ls))
      (handed stage r) := by
  have hcopied : copied (⟨.now, now⟩ :: (ds ++ ⟨.arguments, arguments⟩ :: ⟨.launch plan, r⟩ :: ls))
      = copied ds := by
    show copied (ds ++ _ :: _ :: ls) = _
    rw [copied_append]
    show copied ds ++ copied ls = _
    rw [copied_eq_nil (hls.ne (by decide)), List.append_nil]
  refine ⟨?_, .inr ⟨plan, r, ?_, rfl, hcopied ▸ horiginals, hcopied ▸ hduplicates⟩⟩
  · intro x hx
    simp only [List.mem_cons, List.mem_append] at hx
    rcases hx with rfl | hx | rfl | rfl | hx
    · exact ⟨nofun, nofun⟩
    · exact ⟨hds.ne (by decide) x hx, hds.ne (by decide) x hx⟩
    · exact ⟨nofun, nofun⟩
    · exact ⟨nofun, nofun⟩
    · exact ⟨hls.ne (by decide) x hx, hls.ne (by decide) x hx⟩
  · show launches (ds ++ _ :: _ :: ls) = _
    rw [launches_append, launches_eq_nil (hds.ne (by decide))]
    show (plan, r) :: launches ls = _
    rw [launches_eq_nil (hls.ne (by decide))]

theorem launchNext_took {executable : Path} {result : Except SpawnError SpawnOutcome}
    (h : (s.launchNext stage next carried executable files).Takes xs result) :
    Onward stage (files.map (·.resource)) xs result := by
  unfold launchNext at h
  obtain ⟨now, ys, rfl, hnow⟩ := h.ask_inv
  obtain ⟨ds, zs, copies, rfl, hcopies, hrest⟩ := hnow.bind_inv
  obtain ⟨hds, hcopied⟩ := duplicateAll_took hcopies
  cases copies with
  | error source =>
    obtain ⟨rfl, rfl⟩ := hrest.done_inv
    rw [List.append_nil]
    have hlaunches : launches ds = [] := launches_eq_nil (hds.ne (by decide))
    refine ⟨List.forall_mem_cons.mpr ⟨⟨nofun, nofun⟩, fun x hx => ?_⟩,
      .inl ⟨hlaunches, source, rfl⟩⟩
    exact ⟨hds.ne (by decide) x hx, hds.ne (by decide) x hx⟩
  | ok copies =>
    obtain ⟨horiginals, hduplicates⟩ := hcopied copies rfl
    obtain ⟨arguments, ys, rfl, harguments⟩ := hrest.ask_inv
    obtain ⟨r, ls, rfl, hlast⟩ := harguments.ask_inv
    cases r with
    | error source =>
      obtain ⟨rfl, rfl⟩ := hlast.done_inv
      have hnone : All .log [] := List.forall_mem_nil _
      exact onward_launched hds hnone horiginals hduplicates now arguments
    | ok launched =>
      obtain ⟨as, bs, _, rfl, hrelay, hdone⟩ := hlast.bind_inv
      obtain ⟨rfl, rfl⟩ := hdone.done_inv
      rw [List.append_nil]
      exact onward_launched hds (hrelay.asked (asks_relayed _ _)) horiginals hduplicates now
        arguments

/-! ## the end of the last stage -/

/-- every variable of the handover has its previous value, and every other one its own -/
structure Restores (before : Environment) (carried : Option String) (after : Environment) :
    Prop where
  marker : after.get? stageVariable = carried
  slots : ∀ slot ∈ readSlots before, after.get? (descriptorVariable slot.index) = slot.previous
  others : ∀ name, name ≠ stageVariable → name ∉ slotNames (readSlots before) →
    after.get? name = before.get? name

/-- nothing is launched, and the variables change only in the working directory -/
structure Settles (s : Spawner) (carried : Option String) (xs : List Exchange)
    (after : Environment) : Prop where
  stays : ∀ x ∈ xs, x.question.kind ≠ .launch ∧ x.question.kind ≠ .adopt
  unchanged : ⟨.enterWorkDir s.workDir, .ok ()⟩ ∉ xs → after = s.env
  restored : ⟨.enterWorkDir s.workDir, .ok ()⟩ ∈ xs → Restores s.env carried after

theorem restores_restored (env : Environment) (carried : Option String) :
    Restores env carried ((restoreSlots env (readSlots env)).restore stageVariable carried) := by
  constructor
  · rw [Variables.get?_restore, if_pos rfl]
  · intro slot hm
    rw [Variables.get?_restore, if_neg (descriptorVariable_ne_stageVariable slot.index)]
    exact get?_restoreSlots_of_mem env ((slotRun_readSlots env).nodup (by decide)) hm
  · intro name hne hout
    rw [Variables.get?_restore, if_neg hne, get?_restoreSlots_of_not_mem env hout]

theorem finish_took {result : Except SpawnError SpawnOutcome} {after : Environment}
    (h : (s.finish stage carried files).Takes xs (result, after)) :
    s.Settles carried xs after ∧ (∀ pid, result ≠ .ok (.handoff pid)) ∧
      ∀ e, result = .error e → e.stage = stage := by
  unfold finish at h
  obtain ⟨entered, ys, rfl, hentered⟩ := h.ask_inv
  cases entered with
  | error source =>
    obtain ⟨rfl, hr⟩ := hentered.done_inv
    cases hr
    refine ⟨⟨?_, fun _ => rfl, ?_⟩, nofun, ?_⟩
    · intro x hx
      rw [List.mem_singleton.mp hx]
      exact ⟨nofun, nofun⟩
    · intro hx
      cases List.mem_singleton.mp hx
    · rintro _ ⟨⟩
      rfl
  | ok =>
    obtain ⟨-, zs, rfl, hcleared⟩ := hentered.ask_inv
    -- from here on the variables are what they were, whatever becomes of the standard streams
    have hrest : (∀ x ∈ zs, x.question.kind = .other) ∧
        after = (restoreSlots s.env (readSlots s.env)).restore stageVariable carried ∧
        (∀ pid, result ≠ .ok (.handoff pid)) ∧ ∀ e, result = .error e → e.stage = stage := by
      split at hcleared
      · obtain ⟨opened, ys, rfl, hopened⟩ := hcleared.ask_inv
        cases opened with
        | error source =>
          obtain ⟨rfl, hr⟩ := hopened.done_inv
          cases hr
          refine ⟨by simp [Request.kind], rfl, nofun, ?_⟩
          rintro _ ⟨⟩
          rfl
        | ok pipes =>
          obtain ⟨rfl, hr⟩ := hopened.done_inv
          cases hr
          exact ⟨by simp [Request.kind], rfl, nofun, nofun⟩
      · obtain ⟨rfl, hr⟩ := hcleared.done_inv
        cases hr
        exact ⟨List.forall_mem_nil _, rfl, nofun, nofun⟩
    obtain ⟨hothers, rfl, hresult⟩ := hrest
    refine ⟨⟨?_, ?_, fun _ => restores_restored s.env carried⟩, hresult⟩
    · intro x hx
      simp only [List.mem_cons] at hx
      rcases hx with rfl | rfl | hx
      · exact ⟨nofun, nofun⟩
      · exact ⟨nofun, nofun⟩
      · rw [hothers x hx]
        exact ⟨nofun, nofun⟩
    · intro hnot
      exact absurd List.mem_cons_self hnot

/-! ## a whole stage -/

theorem successorStage?_eq_none_iff : s.successorStage? stage = none ↔ ¬ stage < s.terminalStage := by
  unfold successorStage? terminalStage
  cases s.daemonize <;> cases stage <;> decide

/-- what a stage leaves behind that launches duplicates of `originals` if it launches anything -/
structure Effects (s : Spawner) (stage : Stage) (carried : Option String)
    (originals : List Resource) (xs : List Exchange) (result : Except SpawnError SpawnOutcome)
    (after : Environment) : Prop where
  /-- a stage that is not the last one changes nothing of its own -/
  onward : stage < s.terminalStage → after = s.env ∧ (∀ x ∈ xs, x.question.kind ≠ .settle) ∧
    ∀ terminal, result ≠ .ok (.ready terminal)
  once : (launches xs).length ≤ 1
  /-- the process is done exactly when the next one runs -/
  handedOff : ∀ pid, result = .ok (.handoff pid) ↔
    ∃ plan launched, (plan, .ok launched) ∈ launches xs ∧ launched.pid = pid
  /-- the last stage launches nothing, and its variables change only in the working directory -/
  last : ¬ stage < s.terminalStage →
    launches xs = [] ∧ (⟨.enterWorkDir s.workDir, .ok ()⟩ ∉ xs → after = s.env) ∧
      (⟨.enterWorkDir s.workDir, .ok ()⟩ ∈ xs → Restores s.env carried after)
  handsOver : ∀ launch ∈ launches xs, (copied xs).map (·.1) = originals ∧
    (copied xs).map (·.2) = launch.1.descriptors
  errors : ∀ e, result = .error e → e.stage = stage ∧ (e.isFatal = true ↔ stage ≠ .parent)

theorem isFatal_iff {e : SpawnError} (h : e.stage = stage) : e.isFatal = true ↔ stage ≠ .parent := by
  unfold SpawnError.isFatal
  rw [h]
  exact decide_eq_true_iff

section
variable {originals : List Resource} {result : Except SpawnError SpawnOutcome}
  {after : Environment} {as : List Exchange}

/-- nothing that is asked for at the beginning of a stage has an effect -/
theorem Effects.behind (h : s.Effects stage carried originals xs result after)
    (has : ∀ x ∈ as, x.question.kind = .adopt ∨ x.question.kind = .other) :
    s.Effects stage carried originals (as ++ xs) result after := by
  have hne (kind : Request.Kind) (hadopt : kind ≠ .adopt) (hother : kind ≠ .other) :
      ∀ x ∈ as, x.question.kind ≠ kind := by
    rintro x hx rfl
    rcases has x hx with hk | hk
    · exact hadopt hk
    · exact hother hk
  have hlaunches : launches (as ++ xs) = launches xs := by
    rw [launches_append, launches_eq_nil (hne .launch nofun nofun), List.nil_append]
  have hcopied : copied (as ++ xs) = copied xs := by
    rw [copied_append, copied_eq_nil (hne .duplicate nofun nofun), List.nil_append]
  have hentered : ⟨.enterWorkDir s.workDir, .ok ()⟩ ∈ as ++ xs ↔
      ⟨.enterWorkDir s.workDir, .ok ()⟩ ∈ xs := by
    rw [List.mem_append]
    exact or_iff_right fun hm => hne .settle nofun nofun _ hm rfl
  refine ⟨fun hlt => ?_, ?_, ?_, ?_, ?_, h.errors⟩
  · obtain ⟨hafter, hstays, hready⟩ := h.onward hlt
    exact ⟨hafter, List.forall_mem_append.mpr ⟨hne .settle nofun nofun, hstays⟩, hready⟩
  · rw [hlaunches]
    exact h.once
  · rw [hlaunches]
    exact h.handedOff
  · rw [hlaunches, hentered]
    exact h.last
  · rw [hlaunches, hcopied]
    exact h.handsOver

/-- a stage that fails before it does anything -/
theorem effects_failed {e : SpawnError} (he : e.stage = stage) :
    s.Effects stage carried originals [] (.error e) s.env := by
  refine ⟨fun _ => ⟨rfl, List.forall_mem_nil _, nofun⟩, Nat.zero_le _, ?_, fun _ => ⟨rfl, fun _ => rfl, nofun⟩,
    List.forall_mem_nil _, ?_⟩
  · intro pid
    constructor
    · nofun
    · rintro ⟨_, _, hm, -⟩
      cases hm
  · rintro _ ⟨⟩
    exact ⟨he, isFatal_iff he⟩

theorem Onward.effects (h : Onward stage originals xs result) (hlt : stage < s.terminalStage) :
    s.Effects stage carried originals xs result s.env := by
  obtain ⟨hstays, ⟨hnone, source, rfl⟩ | ⟨plan, r, hone, rfl, horiginals, hduplicates⟩⟩ := h
  · refine ⟨fun _ => ⟨rfl, fun x hx => (hstays x hx).1, nofun⟩, ?_, ?_, fun h => absurd hlt h, ?_,
      ?_⟩
    · rw [hnone]
      exact Nat.zero_le _
    · simp [hnone]
    · simp [hnone]
    · rintro _ ⟨⟩
      exact ⟨rfl, isFatal_iff rfl⟩
  · refine ⟨fun _ => ⟨rfl, fun x hx => (hstays x hx).1, ?_⟩, ?_, ?_, fun h => absurd hlt h, ?_, ?_⟩
    · cases r <;> exact nofun
    · rw [hone]
      exact Nat.le_refl _
    · intro pid
      cases r with
      | error source => simp [hone, handed]
      | ok launched => simp [hone, handed]
    · intro launch hm
      rw [hone] at hm
      obtain rfl := List.mem_singleton.mp hm
      exact ⟨horiginals, hduplicates⟩
    · intro e he
      cases r with
      | error source =>
        cases he
        exact ⟨rfl, isFatal_iff rfl⟩
      | ok launched => cases he

theorem Settles.effects (h : s.Settles carried xs after) (hlast : ¬ stage < s.terminalStage)
    (hresult : ∀ pid, result ≠ .ok (.handoff pid))
    (herrors : ∀ e, result = .error e → e.stage = stage) :
    s.Effects stage carried originals xs result after := by
  have hnone : launches xs = [] := launches_eq_nil fun x hx => (h.stays x hx).1
  refine ⟨fun hlt => absurd hlt hlast, ?_, fun pid => ?_, fun _ => ⟨hnone, h.unchanged, h.restored⟩,
    ?_, fun e he => ⟨herrors e he, isFatal_iff (herrors e he)⟩⟩
  · rw [hnone]
    exact Nat.zero_le _
  · simp [hnone, hresult pid]
  · simp [hnone]

end

/-- the executable, and then the way to the next stage or the end of the last one -/
theorem behind_files_took {result : Except SpawnError SpawnOutcome} {after : Environment}
    (h : Takes (do
      match ← request .executable with
      | .error source => return (.error (.executable stage source), s.env)
      | .ok executable => match s.successorStage? stage with
        | some next => return (← s.launchNext stage next carried executable files, s.env)
        | none => s.finish stage carried files) xs (result, after)) :
    s.Effects stage carried (files.map (·.resource)) xs result after ∧
      ∀ x ∈ xs, x.question.kind ≠ .adopt := by
  obtain ⟨found, ys, rfl, hrest⟩ := h.ask_inv
  have hfirst : ∀ x ∈ [(⟨.executable, found⟩ : Exchange)],
      x.question.kind = .adopt ∨ x.question.kind = .other := by simp [Request.kind]
  cases found with
  | error source =>
    obtain ⟨rfl, hr⟩ := hrest.done_inv
    cases hr
    have hfailed : s.Effects stage carried (files.map (·.resource)) []
        (.error (.executable stage source)) s.env := effects_failed rfl
    exact ⟨hfailed.behind hfirst, by simp [Request.kind]⟩
  | ok executable =>
    dsimp only at hrest
    split at hrest
    · next next hnext =>
      obtain ⟨as, bs, r, rfl, hlaunch, hlast⟩ := hrest.bind_inv
      obtain ⟨rfl, hr⟩ := hlast.done_inv
      cases hr
      have hlt : stage < s.terminalStage := by
        refine Decidable.byContradiction fun hlt => ?_
        rw [successorStage?_eq_none_iff.mpr hlt] at hnext
        cases hnext
      have honward := launchNext_took hlaunch
      rw [List.append_nil]
      exact ⟨(honward.effects hlt).behind hfirst,
        List.forall_mem_cons.mpr ⟨nofun, fun x hx => (honward.stays x hx).2⟩⟩
    · next hnext =>
      obtain ⟨hsettles, hresult, herrors⟩ := finish_took hrest
      have hlast := successorStage?_eq_none_iff.mp hnext
      exact ⟨(hsettles.effects hlast hresult herrors).behind hfirst,
        List.forall_mem_cons.mpr ⟨nofun, fun x hx => (hsettles.stays x hx).2⟩⟩

theorem stageFiles_later (s : Spawner) (hlater : stage ≠ .parent) (files others : List ExtraFile) :
    s.stageFiles stage others = s.stageFiles stage files := by
  unfold stageFiles
  rw [if_neg hlater, if_neg hlater]

/-- **What a stage leaves behind**, on any host and whatever it refuses. The first thing that a stage
asks for is the time, which decides what its marker says. -/
theorem spawn_footprint {result : Except SpawnError SpawnOutcome} {after : Environment}
    (h : (s.spawn files).Takes xs (result, after)) :
    ∃ now ys, xs = ⟨.now, now⟩ :: ys ∧
      ∃ record, record = StageMarker.decode (s.env.get? stageVariable) now ∧
        s.Effects record.stage record.carried
          (if record.stage = .parent then files.map (·.resource) else adopted xs) xs result after ∧
        (record.stage = .parent → ∀ x ∈ xs, x.question.kind ≠ .adopt) ∧
        (record.stage ≠ .parent → ∀ others, (s.spawn others).Takes xs (result, after)) := by
  unfold spawn at h
  obtain ⟨ms, ys, record, rfl, hmarker, hrest⟩ := h.bind_inv
  obtain ⟨now, us, rfl, hnow⟩ := hmarker.ask_inv
  obtain ⟨rfl, hrecord⟩ := hnow.done_inv
  have hothers (hlater : record.stage ≠ .parent) (others : List ExtraFile) :
      (s.spawn others).Takes ([⟨.now, now⟩] ++ ys) (result, after) := by
    unfold spawn
    refine hmarker.bind ?_
    dsimp only
    rw [stageFiles_later s hlater files others]
    exact hrest
  obtain ⟨as, bs, found, rfl, hfound, hlast⟩ := hrest.bind_inv
  obtain ⟨has, hparent, herrors, hfiles⟩ := stageFiles_took hfound
  have hbegin : ∀ x ∈ (⟨.now, now⟩ :: as : List Exchange),
      x.question.kind = .adopt ∨ x.question.kind = .other :=
    List.forall_mem_cons.mpr ⟨.inr rfl, fun x hx => .inl (has x hx)⟩
  have hbehind : ∀ originals, (∀ files', found = .ok files' →
      files'.map (·.resource) = originals) →
      s.Effects record.stage record.carried originals bs result after ∧
        ∀ x ∈ bs, x.question.kind ≠ .adopt := by
    intro originals horiginals
    cases found with
    | error e =>
      obtain ⟨rfl, hr⟩ := hlast.done_inv
      cases hr
      exact ⟨effects_failed (herrors e rfl), List.forall_mem_nil _⟩
    | ok files' =>
      rw [← horiginals files' rfl]
      exact behind_files_took hlast
  refine ⟨now, as ++ bs, rfl, record, hrecord, ?_, ?_, hothers⟩
  · have hbs := (hbehind _ hfiles).2
    have hadopted : adopted ([⟨.now, now⟩] ++ (as ++ bs)) = adopted as := by
      show adopted (as ++ bs) = _
      rw [adopted_append, adopted_eq_nil hbs, List.append_nil]
    rw [hadopted]
    exact (hbehind _ hfiles).1.behind hbegin
  · intro hstage
    rw [hparent hstage]
    exact List.forall_mem_cons.mpr ⟨nofun, (hbehind _ hfiles).2⟩

/-! ## the last stage of a start over variables of the user's -/

namespace Final

def env : Environment :=
  ⟨[("MOLT_STAGE", StageMarker.encode .firstChild (some "mine") 0), ("MOLT_FD_3", "61:user")]⟩

/-- the last process of a start in the foreground, with one file -/
def spawner : Spawner := ⟨env, false, false, .ofText "/srv"⟩

def told : List Exchange :=
  [⟨.now, (7 : Int)⟩, ⟨.adopt 3, .ok (.file 4)⟩, ⟨.executable, .ok (.ofText "/app")⟩,
    ⟨.enterWorkDir (.ofText "/srv"), .ok ()⟩, ⟨.clearUmask, ()⟩]

theorem decode_marker :
    StageMarker.decode (env.get? stageVariable) 7 = ⟨.firstChild, some "mine", true⟩ :=
  StageMarker.decode_encode .firstChild (some "mine") (by decide) (by decide) (by decide)
    (by decide)

theorem takes_told : ∃ after, (spawner.spawn []).Takes told
    (.ok (.ready ⟨none, [⟨.ofText "a", .file 4, some 3⟩]⟩), after) := by
  have hmarker : (marker env).Takes [⟨.now, (7 : Int)⟩] ⟨.firstChild, some "mine", true⟩ := by
    rw [← decode_marker]
    exact .ask _ (.done _)
  exact ⟨_, hmarker.bind (.ask _ (.ask _ (.ask _ (.ask _ (.done _)))))⟩

end Final

theorem spawn_footprint_final : ∃ after,
    (Final.spawner.spawn []).Takes Final.told
      (.ok (.ready ⟨none, [⟨.ofText "a", .file 4, some 3⟩]⟩), after) ∧
    launches Final.told = [] ∧ after.get? "MOLT_STAGE" = some "mine" ∧
    after.get? "MOLT_FD_3" = some "user" := by
  obtain ⟨after, h⟩ := Final.takes_told
  obtain ⟨now, ys, he, record, hrecord, heffects, -, -⟩ := spawn_footprint h
  obtain rfl : (7 : Int) = now := by
    cases he
    rfl
  rw [show record = ⟨.firstChild, some "mine", true⟩ from hrecord.trans Final.decode_marker]
    at heffects
  obtain ⟨hnone, -, hrestored⟩ := heffects.last (by decide)
  have hentered : ⟨.enterWorkDir (.ofText "/srv"), .ok ()⟩ ∈ Final.told := by
    simp [Final.told]
  have hrestores : Restores Final.env (some "mine") after := hrestored hentered
  have hslots : readSlots Final.env = [⟨3, .ofText "a", some "user"⟩] := rfl
  refine ⟨after, h, hnone, hrestores.marker, ?_⟩
  exact hrestores.slots ⟨3, .ofText "a", some "user"⟩ (by rw [hslots]; exact List.mem_cons_self)

end Spawner
end Succession
