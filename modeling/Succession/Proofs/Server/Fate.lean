import Succession.Proofs.Lifecycle.HammerTime
import Succession.Proofs.Lifecycle.Turns
import Succession.Server.Service

/-!
# What becomes of a server

The graceful end of a server and its forced ends run side by side, and whichever comes first decides
how the process exits. What its exits so far tell is an invariant, of the tasks and of the clock.

* `Service.Standing`   how far the graceful end is, and the exit that it leads to;
* `Service.Fate`       what the first exit tells;
* `Fate.act`, `Fate.reload`, `Fate.begin`       polls, moves of the clock and signals keep it;
* `Fate.resting_well`, `Fate.resting_forced`    which end came first, when nothing is ready.
-/

namespace Succession

/-- a task that does not belong to a graceful end leaves that where it is -/
theorem Executor.pending_poll {σ : Type} (targets : Unit → Target σ) {task : Task Unit} (s : σ)
    {e : Executor Unit} (hqueues : e.queues = []) (hends : task.ends = false) :
    (poll targets task (s, e)).2.pending = e.pending ∧
      (poll targets task (s, e)).2.endings = e.endings := by
  cases task with
  | consume owner =>
    rw [poll_consume_none targets s hqueues]
    exact ⟨rfl, rfl⟩
  | hammer owner reason timeout =>
    unfold poll
    dsimp only
    split
    · exact ⟨rfl, rfl⟩
    · exact ⟨pending_sleep rfl _, rfl⟩
  | strike => exact ⟨rfl, rfl⟩
  | graceful | complete | watch => cases hends

/-- a forced end that has not struck yet is not overdue -/
theorem Armory.Holds.clock_le {timeout : Duration} {a : Armory} {e : Executor Unit}
    (h : a.Holds timeout e) (hnone : a.struck = []) (x : Arming) (hx : x ∈ a.all) :
    e.clock ≤ x.deadline timeout := by
  unfold all at hx
  rw [hnone, List.nil_append, List.mem_append, List.mem_append] at hx
  obtain (hx | hx) | hx := hx
  · exact Nat.le_of_eq (h.due x hx).symm
  · exact Nat.le_of_lt (h.timely.ahead _ (h.timer_mem hx))
  · rw [← h.fresh x hx]
    exact Nat.le_add_right _ _

/-- a graceful end that takes its time waits for it, or is over -/
theorem Phase.waits {stay began clock : Nat} {pending : Pending} {state : LifecycleState}
    (h : Phase (.after stay) began clock pending state) (hready : pending.ready = []) :
    state = .shuttingDown ∧ ⟨began + stay, .complete 0⟩ ∈ pending.timers ∨
      state = .terminate ∧ began + stay ≤ clock := by
  cases h with
  | waiting hcourse =>
    cases hcourse
    exact .inl ⟨rfl, List.mem_singleton_self _⟩
  | finished hcourse hdue watching =>
    cases hcourse
    exact .inr ⟨rfl, hdue⟩
  | endless hcourse => exact absurd rfl (hcourse stay)
  | begun | asleep | due | done | lost => cases hready

theorem Phase.over {stay began clock : Nat} {pending : Pending}
    (h : Phase (.after stay) began clock pending .terminate) : began + stay ≤ clock := by
  cases h with
  | finished hcourse hdue watching =>
    cases hcourse
    exact hdue

namespace Service

variable {closed : Pool} {stay t₀ : Nat} {timeout : Duration} {began : Option Nat} {a a' : Armory}
  {s s' : Service} {e e' : Executor Unit} {task : Task Unit} {rest : List (Task Unit)}

/-- a server whose graceful end leaves the pool `closed` behind and takes `stay` milliseconds, before
it begins, and from then on -/
inductive Standing (closed : Pool) (stay : Nat) (s : Service) (e : Executor Unit) :
    Option Nat → Prop where
  | before (hstate : s.state = .running)
      (hend : s.pool.closeAndDrain s.drainTimeout s.departures = (.after stay, closed))
      (hpending : e.pending = ⟨[], [], [], []⟩) (hendings : e.endings = 0) (hexits : 0 ∉ s.exits) :
      Standing closed stay s e none
  | during (t₀ : Nat) (hpool : s.pool = closed)
      (hphase : Phase (.after stay) t₀ e.clock e.pending s.state)
      (hexits : 0 ∈ s.exits ↔ s.state = .terminate)
      (htime : s.state = .terminate ∨ e.clock ≤ t₀ + stay) :
      Standing closed stay s e (some t₀)

theorem Standing.keep (h : Standing closed stay s e began) (s' : Service) (e' : Executor Unit)
    (hstate : s'.state = s.state) (hpool : s'.pool = s.pool)
    (hdrain : s'.drainTimeout = s.drainTimeout) (hdepartures : s'.departures = s.departures)
    (hexits : 0 ∈ s'.exits ↔ 0 ∈ s.exits)
    (hpending : e'.pending = e.pending) (hendings : e'.endings = e.endings)
    (hclock : e'.clock = e.clock) : Standing closed stay s' e' began := by
  cases h with
  | before hs hend hp hn hx =>
    refine .before (hstate.trans hs) ?_ (hpending.trans hp) (hendings.trans hn)
      (mt hexits.mp hx)
    rw [hpool, hdrain, hdepartures]
    exact hend
  | during t₀ hs hphase hx htime =>
    refine .during t₀ (hpool.trans hs) ?_ ?_ ?_
    · rw [hclock, hpending, hstate]
      exact hphase
    · rw [hexits, hstate]
      exact hx
    · rw [hstate, hclock]
      exact htime

theorem Standing.over (h : Standing closed stay s e began) (hexit : 0 ∈ s.exits) :
    ∃ t₀, began = some t₀ ∧ t₀ + stay ≤ e.clock := by
  cases h with
  | before _ _ _ _ hx => exact absurd hexit hx
  | during t₀ _ hphase hx _ =>
    refine ⟨t₀, rfl, ?_⟩
    rw [hx.mp hexit] at hphase
    exact hphase.over

theorem Standing.not_over (h : Standing closed stay s e (some t₀)) (hexit : 0 ∉ s.exits) :
    e.clock ≤ t₀ + stay := by
  cases h with
  | during _ _ _ hx htime => exact htime.resolve_left fun hover => hexit (hx.mpr hover)

/-- what the exits of a server tell of its graceful end and of its forced ends -/
structure Fate (closed : Pool) (stay : Nat) (timeout : Duration) (began : Option Nat) (a : Armory)
    (s : Service) (e : Executor Unit) : Prop where
  holds : a.Holds timeout e
  stage : Standing closed stay s e began
  codes : ∀ code ∈ s.exits, code = 0 ∨ code = 1
  struck : a.struck ≠ [] → 1 ∈ s.exits
  well : s.exits.head? = some 0 →
    ∃ t₀, began = some t₀ ∧ ∀ x ∈ a.all, t₀ + stay ≤ x.deadline timeout
  forced : s.exits.head? = some 1 →
    ∃ x ∈ a.all, x.deadline timeout ≤ e.clock ∧
      ∀ t₀, began = some t₀ → x.deadline timeout ≤ t₀ + stay

namespace Fate

theorem keep (f : Fate closed stay timeout began a s e) (hall : a'.all = a.all)
    (hstruck : a'.struck = a.struck) (holds : a'.Holds timeout e')
    (stage : Standing closed stay s' e' began) (hexits : s'.exits = s.exits)
    (hclock : e.clock ≤ e'.clock) : Fate closed stay timeout began a' s' e' where
  holds := holds
  stage := stage
  codes := by
    rw [hexits]
    exact f.codes
  struck := by
    rw [hstruck, hexits]
    exact f.struck
  well := by
    rw [hexits, hall]
    exact f.well
  forced := by
    rw [hexits, hall]
    intro hhead
    obtain ⟨x, hx, hle, hbefore⟩ := f.forced hhead
    exact ⟨x, hx, Nat.le_trans hle hclock, hbefore⟩

/-! ## exits -/

/-- the first exit of all, or one behind others -/
theorem head_append {exits : List Nat} {code code' : Nat}
    (h : (exits ++ [code]).head? = some code') :
    exits = [] ∧ code = code' ∨ exits.head? = some code' := by
  cases exits with
  | nil => exact .inl ⟨rfl, Option.some.inj h⟩
  | cons => exact .inr h

/-- **A forced end** strikes. -/
theorem strike (f : Fate closed stay timeout began a s e) {x : Arming} (hall : a'.all = a.all)
    (hstruck : a'.struck = a.struck ++ [x]) (holds : a'.Holds timeout e')
    (hpending : e'.pending = e.pending) (hendings : e'.endings = e.endings)
    (hclock : e'.clock = e.clock) :
    Fate closed stay timeout began a' (Executor.strike target x.reason timeout s) e' := by
  have hexits : (Executor.strike target x.reason timeout s).exits = s.exits ++ [1] := rfl
  have hdue : x.deadline timeout ≤ e.clock := by
    rw [← hclock]
    exact holds.struck x (by rw [hstruck]; exact List.mem_append_right _ (List.mem_singleton_self x))
  have hx : x ∈ a.all := by
    rw [← hall]
    unfold Armory.all
    simp only [hstruck, List.mem_append, List.mem_singleton, or_true, true_or]
  refine ⟨holds, f.stage.keep _ _ rfl rfl rfl rfl ?_ hpending hendings hclock, ?_, ?_, ?_, ?_⟩
  · rw [hexits, List.mem_append, List.mem_singleton]
    exact or_iff_left (by decide)
  · intro code hcode
    obtain hcode | hcode := List.mem_append.mp hcode
    · exact f.codes code hcode
    · exact .inr (List.mem_singleton.mp hcode)
  · exact fun _ => List.mem_append_right _ (List.mem_singleton_self 1)
  · intro hhead
    rw [hexits] at hhead
    obtain ⟨-, hcode⟩ | hhead := head_append hhead
    · cases hcode
    · rw [hall]
      exact f.well hhead
  · intro hhead
    rw [hexits] at hhead
    rw [hall, hclock]
    -- the first exit of all: the graceful end has not come, so it is not overdue
    obtain ⟨hnone, -⟩ | hhead := head_append hhead
    · refine ⟨x, hx, hdue, fun t₀ hbegan => Nat.le_trans hdue ?_⟩
      have hstage := f.stage
      rw [hbegan] at hstage
      exact hstage.not_over (by rw [hnone]; exact List.not_mem_nil)
    · exact f.forced hhead

/-- **The graceful end** is over, and the process exits. -/
theorem finish (f : Fate closed stay timeout (some t₀) a s e) (holds : a.Holds timeout e')
    {watching : List (Nat × Unit)} (hpool : s.pool = closed) (hclock : e'.clock = e.clock)
    (hpending : e'.pending = ⟨[], [], [0], watching⟩) (hdue : t₀ + stay ≤ e'.clock) :
    Fate closed stay timeout (some t₀) a (Executor.finish target s) e' := by
  have hexits : (Executor.finish target s).exits = s.exits ++ [0] := rfl
  refine ⟨holds, .during t₀ hpool ?_ ?_ (.inl rfl), ?_, ?_, ?_, ?_⟩
  · rw [hpending]
    exact .finished rfl hdue watching
  · rw [hexits]
    exact iff_of_true (List.mem_append_right _ (List.mem_singleton_self 0)) rfl
  · intro code hcode
    obtain hcode | hcode := List.mem_append.mp hcode
    · exact f.codes code hcode
    · exact .inl (List.mem_singleton.mp hcode)
  · exact fun hstruck => List.mem_append_left _ (f.struck hstruck)
  · intro hhead
    rw [hexits] at hhead
    -- the first exit of all: no forced end has struck, so none of them is overdue
    obtain ⟨hnone, -⟩ | hhead := head_append hhead
    · have hstruck : a.struck = [] := by
        by_contra hstruck
        have hexit := f.struck hstruck
        rw [hnone] at hexit
        cases hexit
      exact ⟨t₀, rfl, fun x hx => Nat.le_trans hdue (holds.clock_le hstruck x hx)⟩
    · exact f.well hhead
  · intro hhead
    rw [hexits] at hhead
    obtain ⟨-, hcode⟩ | hhead := head_append hhead
    · cases hcode
    · rw [hclock]
      exact f.forced hhead

/-! ## polls and the clock -/

theorem aside (f : Fate closed stay timeout began a s e) (hready : e.ready = task :: rest)
    (hends : task.ends = false) :
    ∃ a' : Armory, a'.all = a.all ∧ Fate closed stay timeout began a'
      (Executor.poll (fun _ => target) task (s, { e with ready := rest })).1
      (Executor.poll (fun _ => target) task (s, { e with ready := rest })).2 := by
  have hrest := Executor.pending_rest hready
  rw [if_neg (by simp [hends])] at hrest
  obtain ⟨hpending, hendings⟩ := Executor.pending_poll (fun _ => target) s
    (e := { e with ready := rest }) f.holds.queues hends
  have hclock := Executor.clock_poll (fun _ => target) task s { e with ready := rest }
  have hblow (h : Armory.Blow target timeout a s
      (Executor.poll (fun _ => target) task (s, { e with ready := rest }))) :
      ∃ a' : Armory, a'.all = a.all ∧ Fate closed stay timeout began a'
        (Executor.poll (fun _ => target) task (s, { e with ready := rest })).1
        (Executor.poll (fun _ => target) task (s, { e with ready := rest })).2 := by
    generalize Executor.poll (fun _ => target) task (s, { e with ready := rest }) = polled at *
    cases h with
    | @wait a' e' hall hstruck holds =>
      have stage := f.stage.keep s e' rfl rfl rfl rfl .rfl
        (hpending.trans hrest.symm) hendings hclock
      exact ⟨a', hall, f.keep hall hstruck holds stage rfl (Nat.le_of_eq hclock.symm)⟩
    | @strike a' e' x hall hstruck holds =>
      exact ⟨a', hall, f.strike hall hstruck holds (hpending.trans hrest.symm) hendings hclock⟩
  cases task with
  | hammer => exact hblow (f.holds.hammer hready)
  | strike => exact hblow (f.holds.strike hready)
  | consume owner =>
    have holds := f.holds.aside hready rfl rfl
    rw [Executor.poll_consume_none _ s holds.queues]
    have stage := f.stage.keep s { e with ready := rest } rfl rfl rfl rfl .rfl hrest.symm rfl rfl
    exact ⟨a, rfl, f.keep rfl rfl holds stage rfl (Nat.le_refl _)⟩
  | graceful | complete | watch => cases hends

theorem pollEnding (f : Fate closed stay timeout began a s e) (hready : e.ready = task :: rest)
    (hends : task.ends = true) :
    Fate closed stay timeout began a
      (Executor.poll (fun _ => target) task (s, { e with ready := rest })).1
      (Executor.poll (fun _ => target) task (s, { e with ready := rest })).2 := by
  have hrest := Executor.pending_rest hready
  rw [if_pos hends] at hrest
  have hclock := Executor.clock_poll (fun _ => target) task s { e with ready := rest }
  have holds : a.Holds timeout
      (Executor.poll (fun _ => target) task (s, { e with ready := rest })).2 := by
    cases task with
    | graceful | complete | watch => exact f.holds.poll_aside hready rfl rfl
    | consume | hammer | strike => cases hends
  cases hstage : f.stage with
  | before _ _ hnone =>
    rw [hnone] at hrest
    cases congrArg Pending.ready hrest
  | during t₀ hpool hphase hexits htime =>
    rw [hrest] at hphase
    have hnext := Phase.poll (e := { e with ready := rest }) (fun _ => target) s hphase
    generalize Executor.poll (fun _ => target) task (s, { e with ready := rest }) = polled
      at hnext holds hclock
    cases hnext with
    | @stage e' hphase =>
      have stage : Standing closed stay s e' (some t₀) := by
        refine .during t₀ hpool hphase hexits ?_
        rw [show e'.clock = e.clock from hclock]
        exact htime
      exact f.keep rfl rfl holds stage rfl (Nat.le_of_eq hclock.symm)
    | finish hcourse hdue hstate hpending =>
      cases hcourse
      exact f.finish holds hpool hclock hpending hdue

/-- when the clock moves, it does not move past the graceful end -/
theorem move (f : Fate closed stay timeout began a s e) (hall : a'.all = a.all)
    (hstruck : a'.struck = a.struck) (holds : a'.Holds timeout e') (hready : e.ready = [])
    (hclock : e.clock ≤ e'.clock) (hendings : e'.endings = e.endings)
    (hbefore : e.pending = ⟨[], [], [], []⟩ → e'.pending = ⟨[], [], [], []⟩)
    (hduring : ∀ t₀, Phase (.after stay) t₀ e.clock e.pending s.state →
      Phase (.after stay) t₀ e'.clock e'.pending s.state)
    (hnext : ∀ t ∈ e.timers, e'.clock ≤ t.deadline) :
    Fate closed stay timeout began a' s e' := by
  refine f.keep hall hstruck holds ?_ rfl hclock
  cases f.stage with
  | before hstate hend hpending hn hexits =>
    exact .before hstate hend (hbefore hpending) (hendings.trans hn) hexits
  | during t₀ hpool hphase hexits htime =>
    refine .during t₀ hpool (hduring t₀ hphase) hexits ?_
    have hnone : e.pending.ready = [] := by
      show e.ready.filter _ = []
      rw [hready]
      rfl
    obtain ⟨-, hmem⟩ | ⟨hover, -⟩ := hphase.waits hnone
    · exact .inr (hnext _ (List.mem_filter.mp hmem).1)
    · exact .inl hover

theorem act {ended : Service → Bool} {r r' : Running Unit Service}
    (f : Fate closed stay timeout began a r.1 r.2)
    (hact : Executor.Act (fun _ => target) ended r r') :
    ∃ a' : Armory, a'.all = a.all ∧ Fate closed stay timeout began a' r'.1 r'.2 := by
  cases hact with
  | @poll s e task rest _ hready =>
    cases hends : task.ends with
    | false => exact f.aside hready hends
    | true => exact ⟨a, rfl, f.pollEnding hready hends⟩
  | @fire s e t rest hready htimers =>
    obtain ⟨a', hall, hstruck, holds⟩ := f.holds.fire hready htimers
    have hnone : e.pending.ready = [] := congrArg (List.filter Task.ends) hready
    have hle : e.clock ≤ t.deadline :=
      Nat.le_of_lt (f.holds.timely.ahead t (htimers ▸ List.mem_cons_self))
    have hpending := Executor.pending_due f.holds.timely t.deadline
    refine ⟨a', hall, f.move hall hstruck holds hready hle rfl ?_ ?_
      (f.holds.timely.first_le htimers)⟩
    · intro hbefore
      rw [hpending, hbefore]
      rfl
    · intro t₀ hphase
      rw [hpending]
      exact hphase.reach hnone hle
  | @tick s e clock hready hle hnext =>
    have hnone : e.pending.ready = [] := congrArg (List.filter Task.ends) hready
    exact ⟨a, rfl, f.move rfl rfl (f.holds.tick hready hle hnext) hready hle rfl id
      (fun _ hphase => hphase.tick hnone hle) fun t ht => Nat.le_of_lt (hnext t ht)⟩

/-! ## signals -/

theorem arm (f : Fate closed stay timeout began a s e) {began' : Option Nat} {reason : Signal}
    (hall : a'.all = a.all ++ [⟨e.clock, reason⟩]) (hstruck : a'.struck = a.struck)
    (holds : a'.Holds timeout e') (stage : Standing closed stay s' e' began')
    (hexits : s'.exits = s.exits) (hclock : e'.clock = e.clock)
    (hbegan : began' = began ∨ began = none ∧ began' = some e.clock) :
    Fate closed stay timeout began' a' s' e' := by
  refine ⟨holds, stage, ?_, ?_, ?_, ?_⟩
  · rw [hexits]
    exact f.codes
  · rw [hstruck, hexits]
    exact f.struck
  · rw [hexits, hall]
    intro hhead
    obtain ⟨t₀, hold, hlate⟩ := f.well hhead
    obtain ⟨t₁, hold', hover⟩ := f.stage.over (List.mem_of_mem_head? hhead)
    obtain rfl : t₀ = t₁ := Option.some.inj (hold.symm.trans hold')
    obtain rfl | ⟨hnone, -⟩ := hbegan
    · refine ⟨t₀, hold, fun x hx => ?_⟩
      obtain hx | hx := List.mem_append.mp hx
      · exact hlate x hx
      · rw [List.mem_singleton.mp hx]
        exact Nat.le_trans hover (Nat.le_add_right _ _)
    · cases hnone.symm.trans hold
  · rw [hexits, hall, hclock]
    intro hhead
    obtain ⟨x, hx, hle, hbefore⟩ := f.forced hhead
    refine ⟨x, List.mem_append_left _ hx, hle, fun t₀ hsome => ?_⟩
    obtain rfl | ⟨-, hnow⟩ := hbegan
    · exact hbefore t₀ hsome
    · obtain rfl : e.clock = t₀ := Option.some.inj (hnow.symm.trans hsome)
      exact Nat.le_trans hle (Nat.le_add_right _ _)

theorem reload (f : Fate closed stay timeout began a s e) :
    ∃ a' : Armory, a'.all = a.all ++ [⟨e.clock, .reload⟩] ∧
      Fate closed stay timeout began a' { s with reloads := s.reloads + 1 }
        (e.spawn () timeout [.hammer .reload]) := by
  have holds := f.holds.spawn [.hammer .reload]
  have stage := f.stage.keep { s with reloads := s.reloads + 1 }
    (e.spawn () timeout [.hammer .reload]) rfl rfl rfl rfl .rfl (Executor.pending_wake rfl) rfl rfl
  exact ⟨_, a.all_add _, f.arm (a.all_add _) rfl holds stage rfl rfl (.inl rfl)⟩

/-- **A signal to end** that meets a running server begins its graceful end. -/
theorem begin (f : Fate closed stay timeout none a s e) (signal : Signal) :
    ∃ a' : Armory, a'.all = a.all ++ [⟨e.clock, signal⟩] ∧
      Fate closed stay timeout (some e.clock) a'
        { s with state := .shuttingDown, pool := closed, cancelled := true }
        (e.spawn () timeout [.hammer signal, .graceful (.after stay)]) := by
  have holds := f.holds.spawn [.hammer signal, .graceful (.after stay)]
  have stage : Standing closed stay
      { s with state := .shuttingDown, pool := closed, cancelled := true }
      (e.spawn () timeout [.hammer signal, .graceful (.after stay)]) (some e.clock) := by
    cases f.stage with
    | before hstate hend hpending hendings hexits =>
      refine .during e.clock rfl ?_ (iff_of_false hexits nofun) (.inr (Nat.le_add_right _ _))
      rw [Executor.pending_begin hpending hendings]
      exact .begun rfl
  exact ⟨_, a.all_add _, f.arm (a.all_add _) rfl holds stage rfl rfl (.inr ⟨rfl, rfl⟩)⟩

/-! ## at rest -/

theorem exits_cases (f : Fate closed stay timeout began a s e) :
    s.exits = [] ∨ s.exits.head? = some 0 ∨ s.exits.head? = some 1 := by
  have hcodes := f.codes
  cases hexits : s.exits with
  | nil => exact .inl rfl
  | cons code exits =>
    rw [hexits] at hcodes
    obtain rfl | rfl := hcodes code List.mem_cons_self
    · exact .inr (.inl rfl)
    · exact .inr (.inr rfl)

theorem exit_of_due (f : Fate closed stay timeout began a s e) (hready : e.ready = [])
    {x : Arming} (hx : x ∈ a.all) (hdue : x.deadline timeout ≤ e.clock) : 1 ∈ s.exits := by
  refine f.struck (List.ne_nil_of_mem (a := x) ?_)
  rw [← f.holds.quiet hready]
  exact List.mem_filter.mpr ⟨hx, decide_eq_true hdue⟩

/-- **A forced end** that comes before the graceful one, if that comes at all, decides. -/
theorem resting_forced (f : Fate closed stay timeout began a s e) (hready : e.ready = [])
    (hearly : ∀ t₀, began = some t₀ → ∃ m ∈ a.all.map (Arming.deadline timeout), m < t₀ + stay) :
    s.exits.head? =
      if ∃ m ∈ a.all.map (Arming.deadline timeout), m ≤ e.clock then some 1 else none := by
  have hnot : s.exits.head? ≠ some 0 := by
    intro hhead
    obtain ⟨t₀, hbegan, hlate⟩ := f.well hhead
    obtain ⟨m, hm, hlt⟩ := hearly t₀ hbegan
    obtain ⟨x, hx, rfl⟩ := List.mem_map.mp hm
    exact absurd (hlate x hx) (Nat.not_le.mpr hlt)
  split
  · next hdue =>
    obtain ⟨m, hm, hdue⟩ := hdue
    obtain ⟨x, hx, rfl⟩ := List.mem_map.mp hm
    have hexit := f.exit_of_due hready hx hdue
    obtain hnone | hhead | hhead := f.exits_cases
    · rw [hnone] at hexit
      cases hexit
    · exact absurd hhead hnot
    · exact hhead
  · next hahead =>
    obtain hnone | hhead | hhead := f.exits_cases
    · rw [hnone]
      rfl
    · exact absurd hhead hnot
    · obtain ⟨x, hx, hdue, -⟩ := f.forced hhead
      exact absurd ⟨_, List.mem_map_of_mem hx, hdue⟩ hahead

/-- **The graceful end** decides if it comes before all forced ones. -/
theorem resting_well (f : Fate closed stay timeout (some t₀) a s e) (hready : e.ready = [])
    (hlate : ∀ m ∈ a.all.map (Arming.deadline timeout), t₀ + stay < m) :
    s.state = (if t₀ + stay ≤ e.clock then .terminate else .shuttingDown) ∧
      s.exits.head? = if t₀ + stay ≤ e.clock then some 0 else none := by
  have hnot : s.exits.head? ≠ some 1 := by
    intro hhead
    obtain ⟨x, hx, -, hbefore⟩ := f.forced hhead
    exact absurd (hbefore t₀ rfl) (Nat.not_le.mpr (hlate _ (List.mem_map_of_mem hx)))
  cases f.stage with
  | during _ _ hphase hexits _ =>
    obtain ⟨hstate, hmem⟩ | ⟨hstate, hdue⟩ :=
      hphase.waits (congrArg (List.filter Task.ends) hready)
    · have hahead : e.clock < t₀ + stay := f.holds.timely.ahead _ (List.mem_filter.mp hmem).1
      rw [if_neg (Nat.not_le.mpr hahead), if_neg (Nat.not_le.mpr hahead)]
      refine ⟨hstate, ?_⟩
      obtain hnone | hhead | hhead := f.exits_cases
      · rw [hnone]
        rfl
      · have hover := hexits.mp (List.mem_of_mem_head? hhead)
        cases hstate.symm.trans hover
      · exact absurd hhead hnot
    · rw [if_pos hdue, if_pos hdue]
      refine ⟨hstate, ?_⟩
      obtain hnone | hhead | hhead := f.exits_cases
      · have hexit := hexits.mpr hstate
        rw [hnone] at hexit
        cases hexit
      · exact hhead
      · exact absurd hhead hnot

end Fate
end Service
end Succession
