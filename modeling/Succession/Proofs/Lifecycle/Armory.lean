import Mathlib.Data.List.Basic
import Succession.Proofs.Lifecycle.Acts

/-!
# Forced ends, from their arming to their strike

A forced end that is armed is a task that has not been polled, then a timer, then a task that is due,
and then it has struck. All of them wait equally long, so that they go through these stages in the
order of their arming, whatever else is ready or waits.

* `Arming`, `armedBy`         a forced end, and those that handling a signal arms;
* `Armory`, `Armory.Holds`    where the forced ends of an executor are;
* `Holds.spawn`               a signal arms some more;
* `Armory.Blow`, `Holds.hammer`, `Holds.strike`   a poll takes one of them to its next stage;
* `Holds.fire`, `Holds.tick`                     the clock moves;
* `Holds.quiet`               when nothing is ready, those that are due have struck, and no others.
-/

namespace Succession

/-- a forced end, and the clock at its arming -/
structure Arming where
  clock : Nat
  reason : Signal
deriving DecidableEq, Repr

def armedBy (clock : Nat) (aftermath : List Aftermath) : List Arming :=
  aftermath.filterMap fun
    | .hammer reason => some ⟨clock, reason⟩
    | .graceful _ => none

namespace Arming

def deadline (timeout : Duration) (a : Arming) : Nat := a.clock + timeout.timerMillis

def hammer (timeout : Duration) (a : Arming) : Task Unit := .hammer () a.reason timeout

def strike (timeout : Duration) (a : Arming) : Task Unit := .strike () a.reason timeout

def timer (timeout : Duration) (a : Arming) : Timer Unit := ⟨a.deadline timeout, a.strike timeout⟩

theorem timer_injective (timeout : Duration) :
    Function.Injective (Arming.timer timeout) := by
  intro x y h
  injection h with hdeadline htask
  injection htask with _ hreason
  have hclock : x.clock = y.clock := Nat.add_right_cancel hdeadline
  cases x
  cases y
  cases hclock
  cases hreason
  rfl

end Arming

namespace Task

variable {ι : Type}

def hammers : Task ι → Bool
  | .hammer .. => true
  | _ => false

def strikes : Task ι → Bool
  | .strike .. => true
  | _ => false

theorem not_hammers_of_waits {task : Task ι} (h : task.Waits) : ¬ task.hammers = true := by
  cases task with
  | hammer => exact h.elim
  | consume | strike | graceful | complete | watch => exact Bool.false_ne_true

end Task

namespace Executor

variable {ι σ : Type} {timers : List (Timer ι)}

/-- a timer whose deadline is behind those of all others of its kind is the last of them -/
theorem filter_insertTimer (timer : Timer ι) (p : Timer ι → Bool)
    (hsorted : timers.Pairwise fun t u => t.deadline ≤ u.deadline) (htimer : p timer = true)
    (hlast : ∀ t ∈ timers, p t = true → t.deadline ≤ timer.deadline) :
    (insertTimer timer timers).filter p = timers.filter p ++ [timer] := by
  induction timers with
  | nil => exact List.filter_cons_of_pos htimer
  | cons t timers ih =>
    obtain ⟨hle, hsorted⟩ := List.pairwise_cons.mp hsorted
    have hrest := ih hsorted fun u hu => hlast u (List.mem_cons_of_mem _ hu)
    unfold insertTimer
    split
    · rw [List.filter_cons, List.filter_cons, hrest]
      split <;> rfl
    · next hlt =>
      have hnone : (t :: timers).filter p = [] := by
        refine List.filter_eq_nil_iff.mpr fun u hu hp => hlt ?_
        have hu' := hlast u hu hp
        obtain rfl | hu := List.mem_cons.mp hu
        · exact hu'
        · exact Nat.le_trans (hle u hu) hu'
      rw [List.filter_cons_of_pos htimer, hnone]
      rfl

theorem filter_append_sorted (hsorted : timers.Pairwise fun t u => t.deadline ≤ u.deadline)
    (deadline : Nat) :
    timers.filter (fun t => t.deadline ≤ deadline) ++
      timers.filter (fun t => deadline < t.deadline) = timers := by
  obtain ⟨hfront, hback⟩ := takeWhile_sorted hsorted deadline
  rw [← hfront, ← hback]
  exact List.prefix_iff_eq_append.mp (List.takeWhile_prefix _)

theorem poll_consume_none (targets : Unit → Target σ) (s : σ) {e : Executor Unit}
    (h : e.queues = []) : poll targets (.consume ()) (s, e) = (s, e) := by
  have hnone : e.queue? () = none := by
    show e.queues.lookup () = none
    rw [h]
    rfl
  unfold poll
  dsimp only
  rw [hnone]

theorem poll_target (targets : Unit → Target σ) {task : Task Unit} (s : σ) {e : Executor Unit}
    (h : e.queues = []) (hhammers : task.hammers = false) (hstrikes : task.strikes = false) :
    (poll targets task (s, e)).1 = s ∨
      (poll targets task (s, e)).1 = finish (targets ()) s := by
  cases task with
  | hammer => cases hhammers
  | strike => cases hstrikes
  | consume owner =>
    rw [poll_consume_none targets s h]
    exact .inl rfl
  | graceful | complete =>
    unfold poll
    dsimp only
    split <;> exact .inl rfl
  | watch owner ending =>
    unfold poll
    dsimp only
    split
    · exact .inr rfl
    · exact .inl rfl

end Executor

/-- the forced ends that were armed, in the order of their arming -/
structure Armory where
  struck : List Arming
  due : List Arming
  asleep : List Arming
  /-- not polled yet -/
  fresh : List Arming

namespace Armory

def all (a : Armory) : List Arming := a.struck ++ a.due ++ a.asleep ++ a.fresh

def empty : Armory := ⟨[], [], [], []⟩

def add (a : Armory) (more : List Arming) : Armory := { a with fresh := a.fresh ++ more }

theorem all_add (a : Armory) (more : List Arming) : (a.add more).all = a.all ++ more :=
  (List.append_assoc ..).symm

end Armory

structure Armory.Holds (timeout : Duration) (a : Armory) (e : Executor Unit) : Prop where
  timely : e.Timely
  /-- no signal waits in a queue -/
  queues : e.queues = []
  hammers : e.ready.filter Task.hammers = a.fresh.map (·.hammer timeout)
  strikes : e.ready.filter Task.strikes = a.due.map (·.strike timeout)
  timers : e.timers.filter (Task.strikes ·.task) = a.asleep.map (·.timer timeout)
  struck : ∀ x ∈ a.struck, x.deadline timeout ≤ e.clock
  due : ∀ x ∈ a.due, x.deadline timeout = e.clock
  asleep : ∀ x ∈ a.asleep, x.clock ≤ e.clock
  fresh : ∀ x ∈ a.fresh, x.clock = e.clock
  /-- without a timeout nothing ever waits -/
  instant : timeout.timerMillis = 0 → a.due = [] ∧ a.asleep = []

namespace Armory

variable {σ : Type} {T : Target σ} {s : σ} {timeout : Duration} {a : Armory} {e e' : Executor Unit}
  {task : Task Unit} {rest : List (Task Unit)}

theorem holds_new (timeout : Duration) : empty.Holds timeout .new :=
  ⟨Executor.timely_new, rfl, rfl, rfl, rfl, nofun, nofun, nofun, nofun, fun _ => ⟨rfl, rfl⟩⟩

/-- a forced end goes on to its next stage, and strikes if that is its last -/
inductive Blow (T : Target σ) (timeout : Duration) (a : Armory) (s : σ) :
    Running Unit σ → Prop where
  | wait {a' : Armory} {e' : Executor Unit} (hall : a'.all = a.all)
      (hstruck : a'.struck = a.struck) (holds : a'.Holds timeout e') : Blow T timeout a s (s, e')
  | strike {a' : Armory} {e' : Executor Unit} (x : Arming) (hall : a'.all = a.all)
      (hstruck : a'.struck = a.struck ++ [x]) (holds : a'.Holds timeout e') :
      Blow T timeout a s (Executor.strike T x.reason timeout s, e')

namespace Holds

theorem timer_mem (h : a.Holds timeout e) {x : Arming} (hx : x ∈ a.asleep) :
    x.timer timeout ∈ e.timers := by
  have hmem : x.timer timeout ∈ e.timers.filter (Task.strikes ·.task) :=
    h.timers ▸ List.mem_map_of_mem hx
  exact (List.mem_filter.mp hmem).1

theorem keep (h : a.Holds timeout e) (ht : e'.Timely) (hqueues : e'.queues = e.queues)
    (hclock : e'.clock = e.clock)
    (hhammers : e'.ready.filter Task.hammers = e.ready.filter Task.hammers)
    (hstrikes : e'.ready.filter Task.strikes = e.ready.filter Task.strikes)
    (htimers : e'.timers.filter (Task.strikes ·.task) = e.timers.filter (Task.strikes ·.task)) :
    a.Holds timeout e' where
  timely := ht
  queues := hqueues.trans h.queues
  hammers := hhammers.trans h.hammers
  strikes := hstrikes.trans h.strikes
  timers := htimers.trans h.timers
  struck x hx := hclock ▸ h.struck x hx
  due x hx := hclock ▸ h.due x hx
  asleep x hx := hclock ▸ h.asleep x hx
  fresh x hx := hclock ▸ h.fresh x hx
  instant := h.instant

/-! ## what handling a signal leaves behind -/

theorem wake (h : a.Holds timeout e) (hhammers : task.hammers = false)
    (hstrikes : task.strikes = false) : a.Holds timeout (e.wake task) := by
  refine h.keep (h.timely.of_eq ⟨rfl, rfl⟩) rfl rfl ?_ ?_ rfl
  · show (e.ready ++ [task]).filter _ = _
    rw [List.filter_append, List.filter_cons_of_neg (by simp [hhammers]), List.filter_nil,
      List.append_nil]
  · show (e.ready ++ [task]).filter _ = _
    rw [List.filter_append, List.filter_cons_of_neg (by simp [hstrikes]), List.filter_nil,
      List.append_nil]

theorem arm (h : a.Holds timeout e) (reason : Signal) :
    (a.add [⟨e.clock, reason⟩]).Holds timeout (e.wake (.hammer () reason timeout)) where
  timely := h.timely.of_eq ⟨rfl, rfl⟩
  queues := h.queues
  hammers := by
    show (e.ready ++ [Task.hammer () reason timeout]).filter _ = _
    unfold add
    rw [List.filter_append, h.hammers, List.map_append]
    rfl
  strikes := by
    show (e.ready ++ [Task.hammer () reason timeout]).filter _ = _
    rw [List.filter_append, h.strikes]
    exact List.append_nil _
  timers := h.timers
  struck := h.struck
  due := h.due
  asleep := h.asleep
  fresh x hx := by
    obtain hx | hx := List.mem_append.mp hx
    · exact h.fresh x hx
    · rw [List.mem_singleton.mp hx]
      rfl
  instant := h.instant

/-- **Handling a signal** arms its forced ends behind all others. -/
theorem spawn (h : a.Holds timeout e) (aftermath : List Aftermath) :
    (a.add (armedBy e.clock aftermath)).Holds timeout (e.spawn () timeout aftermath) := by
  induction aftermath generalizing a e with
  | nil =>
    show ({ a with fresh := a.fresh ++ [] } : Armory).Holds timeout e
    rw [List.append_nil]
    exact h
  | cons next aftermath ih =>
    cases next with
    | hammer reason =>
      have hrest := ih (h.arm reason)
      unfold add at hrest ⊢
      rw [List.append_assoc] at hrest
      exact hrest
    | graceful course =>
      have hending : a.Holds timeout { e with endings := e.endings + 1 } :=
        h.keep (h.timely.of_eq ⟨rfl, rfl⟩) rfl rfl rfl rfl rfl
      have hgraceful : a.Holds timeout
          (({ e with endings := e.endings + 1 } : Executor Unit).wake
            (.graceful e.endings course)) := hending.wake rfl rfl
      have hwatch : a.Holds timeout
          ((({ e with endings := e.endings + 1 } : Executor Unit).wake
            (.graceful e.endings course)).wake (.watch () e.endings)) := hgraceful.wake rfl rfl
      exact ih hwatch

/-! ## polls -/

theorem aside (h : a.Holds timeout e) (hready : e.ready = task :: rest)
    (hhammers : task.hammers = false) (hstrikes : task.strikes = false) :
    a.Holds timeout { e with ready := rest } := by
  refine h.keep (h.timely.of_eq ⟨rfl, rfl⟩) rfl rfl ?_ ?_ rfl
  · rw [hready, List.filter_cons_of_neg (by simp [hhammers])]
  · rw [hready, List.filter_cons_of_neg (by simp [hstrikes])]

theorem sleep_aside (h : a.Holds timeout e) {millis : Nat} (hm : millis ≠ 0) (hw : task.Waits)
    (hstrikes : task.strikes = false) : a.Holds timeout (e.sleep millis task) := by
  refine h.keep (h.timely.sleep hm hw) rfl rfl rfl rfl ?_
  obtain ⟨before, after, he, hi⟩ :=
    Executor.insertTimer_split ⟨e.clock + millis, task⟩ e.timers
  show (Executor.insertTimer ⟨e.clock + millis, task⟩ e.timers).filter _ = _
  rw [hi, he, List.filter_append, List.filter_append, List.filter_cons_of_neg (by simp [hstrikes])]

theorem poll_aside (h : a.Holds timeout e) (hready : e.ready = task :: rest)
    (hhammers : task.hammers = false) (hstrikes : task.strikes = false) :
    a.Holds timeout (Executor.poll (fun _ => T) task (s, { e with ready := rest })).2 := by
  have haside := h.aside hready hhammers hstrikes
  have hstill {e' : Executor Unit} (he : e'.timers = e.timers) (hr : e'.ready = rest)
      (hc : e'.clock = e.clock) (hq : e'.queues = e.queues) : a.Holds timeout e' :=
    haside.keep (haside.timely.of_eq ⟨he, hc⟩) hq hc (by rw [hr]) (by rw [hr]) (by rw [he])
  cases task with
  | hammer => cases hhammers
  | strike => cases hstrikes
  | consume owner =>
    rw [Executor.poll_consume_none _ _ haside.queues]
    exact haside
  | graceful ending course =>
    unfold Executor.poll
    dsimp only
    split
    · exact hstill rfl rfl rfl rfl
    · next millis hm => exact haside.sleep_aside hm trivial rfl
    · exact haside
    · exact haside
  | complete ending =>
    have hdone : a.Holds timeout
        { e with ready := rest, completed := ending :: e.completed } := hstill rfl rfl rfl rfl
    unfold Executor.poll
    dsimp only
    split
    · exact hdone
    · exact hdone.wake rfl rfl
  | watch owner ending =>
    unfold Executor.poll
    dsimp only
    split
    · exact haside
    · exact hstill rfl rfl rfl rfl

theorem strike (h : a.Holds timeout e) {reason : Signal} {timeout' : Duration}
    (hready : e.ready = .strike () reason timeout' :: rest) :
    Blow T timeout a s
      (Executor.poll (fun _ => T) (.strike () reason timeout') (s, { e with ready := rest })) := by
  have hstrikes := h.strikes
  rw [hready, List.filter_cons_of_pos rfl] at hstrikes
  obtain ⟨struck, due, asleep, fresh⟩ := a
  cases due with
  | nil => cases hstrikes
  | cons x due =>
    obtain ⟨hx, hrest⟩ := List.cons.inj hstrikes
    obtain ⟨rfl, rfl⟩ : reason = x.reason ∧ timeout' = timeout := by
      injection hx with _ hreason htimeout
      exact ⟨hreason, htimeout⟩
    have holds : (⟨struck ++ [x], due, asleep, fresh⟩ : Armory).Holds timeout'
        { e with ready := rest } := {
      timely := h.timely.of_eq ⟨rfl, rfl⟩
      queues := h.queues
      hammers := by
        have hhammers := h.hammers
        rwa [hready, List.filter_cons_of_neg (by exact Bool.false_ne_true)] at hhammers
      strikes := hrest
      timers := h.timers
      struck := by
        intro y hy
        obtain hy | hy := List.mem_append.mp hy
        · exact h.struck y hy
        · rw [List.mem_singleton.mp hy]
          exact Nat.le_of_eq (h.due x List.mem_cons_self)
      due := fun y hy => h.due y (List.mem_cons_of_mem _ hy)
      asleep := h.asleep
      fresh := h.fresh
      instant := fun hzero => nomatch (h.instant hzero).1 }
    refine .strike x ?_ rfl holds
    show (struck ++ [x]) ++ due ++ asleep ++ fresh = struck ++ x :: due ++ asleep ++ fresh
    rw [List.append_assoc struck, List.singleton_append]

/-- those that wait are due before one that is armed now -/
theorem deadline_le (h : a.Holds timeout e) {x : Arming} (hclock : x.clock = e.clock)
    (t : Timer Unit) (ht : t ∈ e.timers) (hstrikes : t.task.strikes = true) :
    t.deadline ≤ x.deadline timeout := by
  have hmem : t ∈ e.timers.filter (Task.strikes ·.task) := List.mem_filter.mpr ⟨ht, hstrikes⟩
  rw [h.timers] at hmem
  obtain ⟨y, hy, rfl⟩ := List.mem_map.mp hmem
  have := h.asleep y hy
  show y.clock + timeout.timerMillis ≤ x.clock + timeout.timerMillis
  omega

/-- a forced end that is polled for the first time sets its timer behind all others, or strikes if
it has nothing to wait for -/
theorem hammer (h : a.Holds timeout e) {reason : Signal} {timeout' : Duration}
    (hready : e.ready = .hammer () reason timeout' :: rest) :
    Blow T timeout a s
      (Executor.poll (fun _ => T) (.hammer () reason timeout') (s, { e with ready := rest })) := by
  have hhammers := h.hammers
  rw [hready, List.filter_cons_of_pos rfl] at hhammers
  have hstrikes := h.strikes
  rw [hready, List.filter_cons_of_neg (by exact Bool.false_ne_true)] at hstrikes
  obtain ⟨struck, due, asleep, fresh⟩ := a
  cases fresh with
  | nil => cases hhammers
  | cons x fresh =>
    obtain ⟨hx, hrest⟩ := List.cons.inj hhammers
    obtain ⟨rfl, rfl⟩ : reason = x.reason ∧ timeout' = timeout := by
      injection hx with _ hreason htimeout
      exact ⟨hreason, htimeout⟩
    have hclock : x.clock = e.clock := h.fresh x List.mem_cons_self
    have hfresh : ∀ y ∈ fresh, y.clock = e.clock :=
      fun y hy => h.fresh y (List.mem_cons_of_mem _ hy)
    have htimely : ({ e with ready := rest } : Executor Unit).Timely := h.timely.of_eq ⟨rfl, rfl⟩
    unfold Executor.poll
    dsimp only
    split
    · next hzero =>
      obtain ⟨rfl, rfl⟩ := h.instant hzero
      have holds : (⟨struck ++ [x], [], [], fresh⟩ : Armory).Holds timeout'
          { e with ready := rest } := {
        timely := htimely
        queues := h.queues
        hammers := hrest
        strikes := hstrikes
        timers := h.timers
        struck := by
          intro y hy
          obtain hy | hy := List.mem_append.mp hy
          · exact h.struck y hy
          · rw [List.mem_singleton.mp hy]
            show x.clock + timeout'.timerMillis ≤ e.clock
            omega
        due := nofun
        asleep := nofun
        fresh := hfresh
        instant := fun _ => ⟨rfl, rfl⟩ }
      refine .strike x ?_ rfl holds
      show (struck ++ [x]) ++ [] ++ [] ++ fresh = struck ++ [] ++ [] ++ x :: fresh
      simp only [List.append_nil, List.append_assoc, List.singleton_append]
    · next hm =>
      -- all of them wait equally long, so that nobody is armed behind this one and due before it
      have hlast := Executor.filter_insertTimer (x.timer timeout') (Task.strikes ·.task)
        h.timely.sorted rfl (h.deadline_le hclock)
      rw [h.timers, ← List.map_singleton, ← List.map_append, Arming.timer, Arming.deadline,
        hclock] at hlast
      have holds : (⟨struck, due, asleep ++ [x], fresh⟩ : Armory).Holds timeout'
          (({ e with ready := rest } : Executor Unit).sleep timeout'.timerMillis
            (x.strike timeout')) := {
        timely := htimely.sleep hm trivial
        queues := h.queues
        hammers := hrest
        strikes := hstrikes
        timers := hlast
        struck := h.struck
        due := h.due
        asleep := by
          intro y hy
          obtain hy | hy := List.mem_append.mp hy
          · exact h.asleep y hy
          · rw [List.mem_singleton.mp hy]
            exact Nat.le_of_eq hclock
        fresh := hfresh
        instant := fun hzero => absurd hzero hm }
      have hall : (⟨struck, due, asleep ++ [x], fresh⟩ : Armory).all =
          (⟨struck, due, asleep, x :: fresh⟩ : Armory).all := by
        show struck ++ due ++ (asleep ++ [x]) ++ fresh = struck ++ due ++ asleep ++ x :: fresh
        simp only [List.append_assoc, List.singleton_append]
      exact .wait hall rfl holds

/-! ## the clock -/

theorem waits (h : a.Holds timeout e) (hready : e.ready = []) : a.due = [] ∧ a.fresh = [] := by
  have hstrikes := h.strikes
  have hhammers := h.hammers
  rw [hready] at hstrikes hhammers
  exact ⟨List.map_eq_nil_iff.mp hstrikes.symm, List.map_eq_nil_iff.mp hhammers.symm⟩

/-- **A deadline**: the forced ends that waited for it are due. -/
theorem fire (h : a.Holds timeout e) {t : Timer Unit} {timers : List (Timer Unit)}
    (hready : e.ready = []) (htimers : e.timers = t :: timers) :
    ∃ a' : Armory, a'.all = a.all ∧ a'.struck = a.struck ∧ a'.Holds timeout (e.due t.deadline) := by
  obtain ⟨hdue, hfresh⟩ := h.waits hready
  obtain ⟨struck, due, asleep, fresh⟩ := a
  dsimp only at hdue hfresh
  subst hdue hfresh
  have hsorted := h.timely.sorted
  have hlt : e.clock < t.deadline := h.timely.ahead t (htimers ▸ List.mem_cons_self)
  have hcomm (p : Timer Unit → Bool) : (e.timers.filter p).filter (Task.strikes ·.task) =
      (asleep.filter fun x => p (x.timer timeout)).map (·.timer timeout) := by
    rw [List.filter_comm, h.timers, List.filter_map]
    rfl
  refine ⟨⟨struck, asleep.filter fun x => x.deadline timeout ≤ t.deadline,
    asleep.filter fun x => t.deadline < x.deadline timeout, []⟩, ?_, rfl, ?_⟩
  · have hsplit := Executor.filter_append_sorted (hsorted.filter (Task.strikes ·.task)) t.deadline
    rw [h.timers, List.filter_map, List.filter_map, ← List.map_append] at hsplit
    have hasleep := List.map_injective_iff.mpr (Arming.timer_injective timeout) hsplit
    show struck ++ _ ++ _ ++ [] = struck ++ [] ++ asleep ++ []
    rw [List.append_nil, List.append_nil, List.append_nil, List.append_assoc]
    exact congrArg (struck ++ ·) hasleep
  · exact {
      timely := h.timely.due _
      queues := h.queues
      hammers := by
        rw [h.timely.ready_due, hready, List.nil_append]
        refine List.filter_eq_nil_iff.mpr fun task hmem => ?_
        obtain ⟨u, hu, rfl⟩ := List.mem_map.mp hmem
        exact Task.not_hammers_of_waits (h.timely.waits u (List.mem_filter.mp hu).1)
      strikes := by
        rw [h.timely.ready_due, hready, List.nil_append, List.filter_map]
        show ((e.timers.filter _).filter (Task.strikes ·.task)).map _ = _
        rw [hcomm, List.map_map]
        rfl
      timers := by
        rw [h.timely.timers_due]
        exact hcomm _
      struck := fun x hx => Nat.le_trans (h.struck x hx) (Nat.le_of_lt hlt)
      due := fun x hx => by
        obtain ⟨hx, hle⟩ := List.mem_filter.mp hx
        exact Nat.le_antisymm (of_decide_eq_true hle)
          (h.timely.first_le htimers _ (h.timer_mem hx))
      asleep := fun x hx =>
        Nat.le_trans (h.asleep x (List.mem_filter.mp hx).1) (Nat.le_of_lt hlt)
      fresh := nofun
      instant := fun hzero => by
        obtain rfl : asleep = [] := (h.instant hzero).2
        exact ⟨rfl, rfl⟩ }

theorem tick (h : a.Holds timeout e) {clock : Nat} (hready : e.ready = []) (hle : e.clock ≤ clock)
    (hnext : ∀ t ∈ e.timers, clock < t.deadline) : a.Holds timeout { e with clock } := by
  obtain ⟨hdue, hfresh⟩ := h.waits hready
  exact {
    timely := h.timely.tick hnext
    queues := h.queues
    hammers := h.hammers
    strikes := h.strikes
    timers := h.timers
    struck := fun x hx => Nat.le_trans (h.struck x hx) hle
    due := by
      rw [hdue]
      exact nofun
    asleep := fun x hx => Nat.le_trans (h.asleep x hx) hle
    fresh := by
      rw [hfresh]
      exact nofun
    instant := h.instant }

/-- **When nothing is ready**, the forced ends that are due have struck, and no others. -/
theorem quiet (h : a.Holds timeout e) (hready : e.ready = []) :
    a.all.filter (fun x => x.deadline timeout ≤ e.clock) = a.struck := by
  obtain ⟨hdue, hfresh⟩ := h.waits hready
  have hstruck : a.struck.filter (fun x => x.deadline timeout ≤ e.clock) = a.struck :=
    List.filter_eq_self.mpr fun x hx => decide_eq_true (h.struck x hx)
  have hasleep : a.asleep.filter (fun x => x.deadline timeout ≤ e.clock) = [] := by
    refine List.filter_eq_nil_iff.mpr fun x hx => ?_
    have hahead : e.clock < x.deadline timeout := h.timely.ahead _ (h.timer_mem hx)
    simpa using hahead
  unfold all
  rw [hdue, hfresh, List.append_nil, List.append_nil, List.filter_append, hstruck, hasleep,
    List.append_nil]

end Holds
end Armory
end Succession
