import Mathlib.Algebra.GroupWithZero.Nat
import Mathlib.Data.List.Basic
import Succession.Lifecycle.Executor

/-!
# Timers and ready tasks

Timers are kept in the order of their deadlines, all of which are still to come. The ready tasks
lead to a bounded number of polls, so settling leaves none of them, unless the process has ended.

* `Executor.Timely`            the order of the timers, kept by `sleep` and `due`;
* `Executor.due`               what the clock's arrival at a deadline makes ready;
* `Executor.settle_ready`      settling leaves nothing ready;
* `Executor.runReady_brief`    what timers make ready sets no timer.
-/

namespace Succession

def Task.Waits {ι : Type} : Task ι → Prop
  | strike .. | complete _ => True
  | _ => False

namespace Executor

variable {ι σ : Type}

/-- the timers are ordered, and none of them should have fired already -/
structure Timely (e : Executor ι) : Prop where
  sorted : e.timers.Pairwise fun t u => t.deadline ≤ u.deadline
  ahead : ∀ t ∈ e.timers, e.clock < t.deadline
  waits : ∀ t ∈ e.timers, t.task.Waits

theorem timely_new : (new : Executor ι).Timely := ⟨.nil, nofun, nofun⟩

theorem insertTimer_split (timer : Timer ι) (timers : List (Timer ι)) :
    ∃ before after, timers = before ++ after ∧
      insertTimer timer timers = before ++ timer :: after := by
  induction timers with
  | nil => exact ⟨[], [], rfl, rfl⟩
  | cons t timers ih =>
    unfold insertTimer
    split
    · obtain ⟨before, after, he, hi⟩ := ih
      exact ⟨t :: before, after, congrArg (t :: ·) he, congrArg (t :: ·) hi⟩
    · exact ⟨[], t :: timers, rfl, rfl⟩

theorem mem_insertTimer {timer t : Timer ι} {timers : List (Timer ι)}
    (h : t ∈ insertTimer timer timers) : t = timer ∨ t ∈ timers := by
  obtain ⟨before, after, rfl, hi⟩ := insertTimer_split timer timers
  rw [hi] at h
  simp only [List.mem_append, List.mem_cons] at h ⊢
  tauto

theorem sorted_insertTimer (timer : Timer ι) {timers : List (Timer ι)}
    (h : timers.Pairwise fun t u => t.deadline ≤ u.deadline) :
    (insertTimer timer timers).Pairwise fun t u => t.deadline ≤ u.deadline := by
  induction timers with
  | nil => exact List.pairwise_singleton _ _
  | cons t timers ih =>
    obtain ⟨hle, hsorted⟩ := List.pairwise_cons.mp h
    unfold insertTimer
    split
    · next hlt =>
      refine List.pairwise_cons.mpr ⟨fun u hu => ?_, ih hsorted⟩
      obtain rfl | hu := mem_insertTimer hu
      · exact hlt
      · exact hle u hu
    · next hlt =>
      refine List.pairwise_cons.mpr ⟨fun u hu => ?_, h⟩
      obtain rfl | hu := List.mem_cons.mp hu
      · omega
      · have := hle u hu
        omega

theorem Timely.sleep {e : Executor ι} (h : e.Timely) {millis : Nat} (hm : millis ≠ 0)
    {task : Task ι} (ht : task.Waits) : (e.sleep millis task).Timely := by
  refine ⟨sorted_insertTimer _ h.sorted, fun t hmem => ?_, fun t hmem => ?_⟩
  · obtain rfl | hmem := mem_insertTimer hmem
    · show e.clock < e.clock + millis
      omega
    · exact h.ahead t hmem
  · obtain rfl | hmem := mem_insertTimer hmem
    · exact ht
    · exact h.waits t hmem

theorem Timely.first_le {e : Executor ι} (h : e.Timely) {t : Timer ι} {rest : List (Timer ι)}
    (htimers : e.timers = t :: rest) : ∀ u ∈ e.timers, t.deadline ≤ u.deadline := by
  have hsorted := h.sorted
  rw [htimers] at hsorted ⊢
  intro u hu
  obtain rfl | hu := List.mem_cons.mp hu
  · exact Nat.le_refl _
  · exact (List.pairwise_cons.mp hsorted).1 u hu

/-! ## a deadline -/

/-- in front of an ordered list stand those that are due -/
theorem takeWhile_sorted {timers : List (Timer ι)}
    (h : timers.Pairwise fun t u => t.deadline ≤ u.deadline) (deadline : Nat) :
    timers.takeWhile (fun t => t.deadline ≤ deadline) =
        timers.filter (fun t => t.deadline ≤ deadline) ∧
      timers.drop (timers.takeWhile fun t => t.deadline ≤ deadline).length =
        timers.filter fun t => deadline < t.deadline := by
  induction timers with
  | nil => exact ⟨rfl, rfl⟩
  | cons t timers ih =>
    obtain ⟨hle, hsorted⟩ := List.pairwise_cons.mp h
    obtain ⟨ih₁, ih₂⟩ := ih hsorted
    by_cases hd : t.deadline ≤ deadline
    · have hn : ¬ deadline < t.deadline := by omega
      rw [List.takeWhile_cons_of_pos (by simpa using hd), List.filter_cons_of_pos (by simpa using hd),
        List.filter_cons_of_neg (by simpa using hn)]
      exact ⟨by rw [ih₁], ih₂⟩
    · have hall : ∀ u ∈ t :: timers, ¬ u.deadline ≤ deadline := by
        intro u hu
        obtain rfl | hu := List.mem_cons.mp hu
        · exact hd
        · have := hle u hu
          omega
      rw [List.takeWhile_cons_of_neg (by simpa using hd)]
      refine ⟨(List.filter_eq_nil_iff.mpr fun u hu => ?_).symm, ?_⟩
      · simpa using hall u hu
      · refine (List.filter_eq_self.mpr fun u hu => ?_).symm
        simpa using hall u hu

def due (e : Executor ι) (deadline : Nat) : Executor ι :=
  let due := e.timers.takeWhile fun t => t.deadline ≤ deadline
  { e with
    clock := deadline
    timers := e.timers.drop due.length
    ready := e.ready ++ due.map (·.task) }

theorem Timely.timers_due {e : Executor ι} (h : e.Timely) (deadline : Nat) :
    (e.due deadline).timers = e.timers.filter fun t => deadline < t.deadline :=
  (takeWhile_sorted h.sorted deadline).2

theorem Timely.ready_due {e : Executor ι} (h : e.Timely) (deadline : Nat) :
    (e.due deadline).ready =
      e.ready ++ (e.timers.filter fun t => t.deadline ≤ deadline).map (·.task) := by
  show e.ready ++ (e.timers.takeWhile _).map _ = _
  rw [(takeWhile_sorted h.sorted deadline).1]

theorem Timely.due {e : Executor ι} (h : e.Timely) (deadline : Nat) : (e.due deadline).Timely := by
  have ht := h.timers_due deadline
  refine ⟨?_, fun t hmem => ?_, fun t hmem => ?_⟩
  · rw [ht]
    exact h.sorted.filter _
  · rw [ht] at hmem
    exact of_decide_eq_true (List.mem_filter.mp hmem).2
  · rw [ht] at hmem
    exact h.waits t (List.mem_filter.mp hmem).1

theorem Timely.tick {e : Executor ι} (h : e.Timely) {clock : Nat}
    (hnext : ∀ t ∈ e.timers, clock < t.deadline) : ({ e with clock } : Executor ι).Timely :=
  ⟨h.sorted, hnext, h.waits⟩

/-! ## settling -/

/-- how many polls a task leads to: one that completes wakes another -/
def weight : Task ι → Nat
  | .complete _ => 2
  | _ => 1

/-- how many tasks are left behind -/
def load : Aftermath → Nat
  | .hammer _ => 1
  | .graceful _ => 2

/-- how many polls are to come at most -/
def potential (e : Executor ι) : Nat :=
  (e.ready.map weight).sum + (e.queues.map fun q => 3 * q.2.signals.length).sum

theorem potential_le_pollBound (e : Executor ι) : e.potential ≤ e.pollBound := by
  have hready (tasks : List (Task ι)) : (tasks.map weight).sum ≤ 2 * tasks.length := by
    induction tasks with
    | nil => exact Nat.le_refl 0
    | cons task tasks ih =>
      have hw : weight task ≤ 2 := by cases task <;> simp [weight]
      simp only [List.map_cons, List.sum_cons, List.length_cons]
      omega
  have hqueues (queues : List (ι × SignalQueue)) (n : Nat) :
      n + (queues.map fun q => 3 * q.2.signals.length).sum ≤
        queues.foldl (fun n q => n + 4 * q.2.signals.length) n := by
    induction queues generalizing n with
    | nil => exact Nat.le_refl n
    | cons q queues ih =>
      have := ih (n + 4 * q.2.signals.length)
      simp only [List.map_cons, List.sum_cons, List.foldl_cons]
      omega
  have hr := hready e.ready
  have hq := hqueues e.queues (2 * e.ready.length)
  unfold potential pollBound
  omega

theorem weight_pos (task : Task ι) : 0 < weight task := by cases task <;> simp [weight]

theorem load_dispatch (T : Target σ) (c : Coordinator) (signal : Signal) (s : σ) :
    ((c.dispatch T signal s).2.aftermath.map load).sum ≤ 3 := by
  have hact (s : σ) : ((c.act T signal s).aftermath.map load).sum ≤ 3 := by
    have hend : ((Coordinator.onShutdown T c signal s).aftermath.map load).sum ≤ 3 := by
      unfold Coordinator.onShutdown
      split
      · exact Nat.zero_le 3
      · exact Nat.le_refl 3
    cases signal with
    | reload => exact Nat.le_of_ble_eq_true rfl
    | interrupt | terminate => exact hend
  unfold Coordinator.dispatch
  dsimp only
  split
  · exact Nat.zero_le 3
  · exact hact _

theorem queues_spawn (owner : ι) (timeout : Duration) (e : Executor ι)
    (aftermath : List Aftermath) : (e.spawn owner timeout aftermath).queues = e.queues := by
  induction aftermath generalizing e with
  | nil => rfl
  | cons a aftermath ih => cases a <;> exact ih _

theorem ready_spawn (owner : ι) (timeout : Duration) (e : Executor ι)
    (aftermath : List Aftermath) :
    ((e.spawn owner timeout aftermath).ready.map weight).sum =
      (e.ready.map weight).sum + (aftermath.map load).sum := by
  induction aftermath generalizing e with
  | nil => rfl
  | cons a aftermath ih =>
    cases a <;>
    · unfold spawn
      rw [ih]
      simp [wake, weight, load, Nat.add_assoc]

theorem consume_load (T : Target σ) (owner : ι) (c : Coordinator) (s : σ) (e : Executor ι)
    (signals : List Signal) :
    (consume T owner c s e signals).2.2.2.queues = e.queues ∧
      ((consume T owner c s e signals).2.2.2.ready.map weight).sum ≤
        (e.ready.map weight).sum + 3 * signals.length := by
  induction signals generalizing c s e with
  | nil => exact ⟨rfl, Nat.le_refl _⟩
  | cons signal signals ih =>
    let handling := (c.dispatch T signal s).2
    let e' := e.spawn owner c.hammerTimeout handling.aftermath
    have hq : e'.queues = e.queues := queues_spawn ..
    have hr : (e'.ready.map weight).sum = _ := ready_spawn owner c.hammerTimeout e _
    have hl : (handling.aftermath.map load).sum ≤ 3 := load_dispatch T c signal s
    unfold consume
    dsimp only
    split
    · refine ⟨hq, ?_⟩
      show (e'.ready.map weight).sum ≤ _
      rw [hr, List.length_cons]
      omega
    · obtain ⟨ihq, ihr⟩ := ih handling.coordinator handling.target e'
      refine ⟨ihq.trans hq, Nat.le_trans ihr ?_⟩
      rw [hr, List.length_cons]
      omega

theorem timers_spawn (owner : ι) (timeout : Duration) (e : Executor ι)
    (aftermath : List Aftermath) :
    (e.spawn owner timeout aftermath).timers = e.timers ∧
      (e.spawn owner timeout aftermath).clock = e.clock := by
  induction aftermath generalizing e with
  | nil => exact ⟨rfl, rfl⟩
  | cons a aftermath ih => cases a <;> exact ih _

theorem timers_consume (T : Target σ) (owner : ι) (c : Coordinator) (s : σ) (e : Executor ι)
    (signals : List Signal) :
    (consume T owner c s e signals).2.2.2.timers = e.timers ∧
      (consume T owner c s e signals).2.2.2.clock = e.clock := by
  induction signals generalizing c s e with
  | nil => exact ⟨rfl, rfl⟩
  | cons signal signals ih =>
    obtain ⟨ht, hc⟩ := timers_spawn owner c.hammerTimeout e (c.dispatch T signal s).2.aftermath
    unfold consume
    dsimp only
    split
    · exact ⟨ht, hc⟩
    · obtain ⟨iht, ihc⟩ := ih (c.dispatch T signal s).2.coordinator
        (c.dispatch T signal s).2.target _
      exact ⟨iht.trans ht, ihc.trans hc⟩

theorem Timely.of_eq {e e' : Executor ι} (h : e.Timely)
    (he : e'.timers = e.timers ∧ e'.clock = e.clock) : e'.Timely := by
  refine ⟨?_, ?_, ?_⟩
  · rw [he.1]
    exact h.sorted
  · rw [he.1, he.2]
    exact h.ahead
  · rw [he.1]
    exact h.waits

/-- what is left to do when a timer has fired -/
def Brief : Task ι → Prop
  | .strike .. | .complete _ | .watch .. => True
  | _ => False

theorem brief_of_waits {task : Task ι} (h : task.Waits) : Brief task := by
  cases task with
  | strike | complete => trivial
  | _ => exact h.elim

section
variable [DecidableEq ι]

theorem sum_filter_lookup {queues : List (ι × SignalQueue)} {owner : ι} {q : SignalQueue}
    (h : queues.lookup owner = some q) :
    ((queues.filter fun p => p.1 ≠ owner).map fun q => 3 * q.2.signals.length).sum +
      3 * q.signals.length ≤ (queues.map fun q => 3 * q.2.signals.length).sum := by
  have hle (queues : List (ι × SignalQueue)) :
      ((queues.filter fun p => p.1 ≠ owner).map fun q => 3 * q.2.signals.length).sum ≤
        (queues.map fun q => 3 * q.2.signals.length).sum := by
    induction queues with
    | nil => exact Nat.le_refl 0
    | cons p queues ih =>
      rw [List.map_cons, List.sum_cons]
      by_cases ho : p.1 ≠ owner
      · rw [List.filter_cons_of_pos (by simpa using ho), List.map_cons, List.sum_cons]
        omega
      · rw [List.filter_cons_of_neg (by simpa using ho)]
        omega
  induction queues with
  | nil => cases h
  | cons p queues ih =>
    obtain ⟨other, q'⟩ := p
    rw [List.lookup_cons] at h
    by_cases ho : owner = other
    · subst ho
      rw [beq_self_eq_true] at h
      obtain rfl := Option.some.inj h
      have := hle queues
      rw [List.filter_cons_of_neg (by simp), List.map_cons, List.sum_cons]
      dsimp only
      omega
    · rw [beq_false_of_ne ho] at h
      have := ih h
      rw [List.filter_cons_of_pos (by simpa using Ne.symm ho), List.map_cons, List.map_cons,
        List.sum_cons, List.sum_cons]
      omega

theorem potential_poll (targets : ι → Target σ) (task : Task ι) (s : σ) (e : Executor ι) :
    (poll targets task (s, e)).2.potential + 1 ≤ weight task + e.potential := by
  have hsame : e.potential + 1 ≤ weight task + e.potential := by
    have := weight_pos task
    omega
  cases task with
  | consume owner =>
    unfold poll
    dsimp only
    split
    · exact hsame
    · next q hq =>
      split
      · exact hsame
      · obtain ⟨hqueues, hready⟩ := consume_load (targets owner) owner q.coordinator s e q.signals
        generalize consume (targets owner) owner q.coordinator s e q.signals = consumed at *
        obtain ⟨c, running, s', e'⟩ := consumed
        have hsum := sum_filter_lookup hq
        rw [← show e'.queues = e.queues from hqueues] at hsum
        show (e'.ready.map weight).sum + ((_ :: e'.queues.filter _).map _).sum + 1 ≤ _
        rw [List.map_cons, List.sum_cons]
        unfold potential
        rw [← show e'.queues = e.queues from hqueues]
        simp only [weight, List.length_nil] at hready ⊢
        omega
  | hammer owner reason timeout =>
    unfold poll
    dsimp only
    split <;> exact hsame
  | strike => exact hsame
  | graceful ending course =>
    unfold poll
    dsimp only
    split <;> exact hsame
  | complete ending =>
    unfold poll
    dsimp only
    split
    · have : e.potential + 1 ≤ 2 + e.potential := by omega
      exact this
    · unfold potential wake
      simp [weight]
      omega
  | watch owner ending =>
    unfold poll
    dsimp only
    split <;> exact hsame

theorem runReady_ready (targets : ι → Target σ) (ended : σ → Bool) {limit : Nat}
    {r : Running ι σ} (h : r.2.potential ≤ limit) :
    ended (runReady targets ended limit r).1 = true ∨
      (runReady targets ended limit r).2.ready = [] := by
  induction limit generalizing r with
  | zero =>
    obtain ⟨s, e⟩ := r
    right
    show e.ready = []
    cases hr : e.ready with
    | nil => rfl
    | cons task rest =>
      have := weight_pos task
      unfold potential at h
      rw [hr, List.map_cons, List.sum_cons] at h
      omega
  | succ limit ih =>
    obtain ⟨s, e⟩ := r
    unfold runReady
    by_cases hended : ended s = true
    · rw [if_pos hended]
      exact .inl hended
    · rw [if_neg hended]
      split
      · next hr => exact .inr hr
      · next task rest hr =>
        have hp := potential_poll targets task s { e with ready := rest }
        have he : e.potential = weight task + ({ e with ready := rest } : Executor ι).potential := by
          unfold potential
          rw [hr, List.map_cons, List.sum_cons, Nat.add_assoc]
        refine ih ?_
        dsimp only at h
        omega

/-- **Settling leaves nothing ready**, unless the process has ended. -/
theorem settle_ready (targets : ι → Target σ) (ended : σ → Bool) (r : Running ι σ) :
    ended (settle targets ended r).1 = true ∨ (settle targets ended r).2.ready = [] :=
  runReady_ready targets ended (potential_le_pollBound r.2)

/-! ## polls keep the order of the timers -/

theorem Timely.poll (targets : ι → Target σ) (task : Task ι) (s : σ) {e : Executor ι}
    (h : e.Timely) : (poll targets task (s, e)).2.Timely := by
  cases task with
  | consume owner =>
    unfold Executor.poll
    dsimp only
    split
    · exact h
    · split
      · exact h
      · exact h.of_eq (timers_consume ..)
  | hammer owner reason timeout =>
    unfold Executor.poll
    dsimp only
    split
    · exact h
    · next hm => exact h.sleep hm trivial
  | strike => exact h
  | graceful ending course =>
    unfold Executor.poll
    dsimp only
    split
    · exact h.of_eq ⟨rfl, rfl⟩
    · next millis hm => exact h.sleep hm trivial
    · exact h
    · exact h
  | complete ending =>
    unfold Executor.poll
    dsimp only
    split <;> exact h.of_eq ⟨rfl, rfl⟩
  | watch owner ending =>
    unfold Executor.poll
    dsimp only
    split <;> exact h.of_eq ⟨rfl, rfl⟩

/-! ## what timers make ready -/

/-- a brief task sets no timer, and leads to brief tasks only -/
theorem poll_brief (targets : ι → Target σ) {task : Task ι} (h : Brief task) (s : σ)
    (e : Executor ι) :
    (poll targets task (s, e)).2.timers = e.timers ∧
      (poll targets task (s, e)).2.clock = e.clock ∧
      ∀ t ∈ (poll targets task (s, e)).2.ready, t ∈ e.ready ∨ Brief t := by
  cases task with
  | strike => exact ⟨rfl, rfl, fun t ht => .inl ht⟩
  | complete ending =>
    unfold poll
    dsimp only
    split
    · exact ⟨rfl, rfl, fun t ht => .inl ht⟩
    · refine ⟨rfl, rfl, fun t ht => ?_⟩
      obtain ht | ht := List.mem_append.mp ht
      · exact .inl ht
      · obtain rfl := List.mem_singleton.mp ht
        exact .inr trivial
  | watch owner ending =>
    unfold poll
    dsimp only
    split <;> exact ⟨rfl, rfl, fun t ht => .inl ht⟩
  | consume | hammer | graceful => exact h.elim

theorem runReady_brief (targets : ι → Target σ) (ended : σ → Bool) (limit : Nat)
    {r : Running ι σ} (h : ∀ t ∈ r.2.ready, Brief t) :
    (runReady targets ended limit r).2.timers = r.2.timers ∧
      (runReady targets ended limit r).2.clock = r.2.clock := by
  induction limit generalizing r with
  | zero => exact ⟨rfl, rfl⟩
  | succ limit ih =>
    obtain ⟨s, e⟩ := r
    unfold runReady
    split
    · exact ⟨rfl, rfl⟩
    · split
      · exact ⟨rfl, rfl⟩
      · next task rest hr =>
        have hbrief : ∀ t ∈ task :: rest, Brief t := by
          rw [← hr]
          exact h
        obtain ⟨htimers, hclock, hready⟩ :=
          poll_brief targets (hbrief task List.mem_cons_self) s { e with ready := rest }
        obtain ⟨htimers', hclock'⟩ :=
          ih (r := poll targets task (s, { e with ready := rest })) fun t ht => by
            obtain ht | ht := hready t ht
            · exact hbrief t (List.mem_cons_of_mem _ ht)
            · exact ht
        exact ⟨htimers'.trans htimers, hclock'.trans hclock⟩

end

end Executor
end Succession
