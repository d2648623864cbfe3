import Mathlib.Logic.Relation
import Succession.Proofs.Lifecycle.Timers

/-!
# What tasks do by themselves

Between two signals, tasks are polled one at a time, and the clock moves while nothing is ready. The
runs of an executor are made of these steps, and get to their end unless the process ends.

* `Executor.Act`            a poll, or a move of the clock;
* `Executor.settle_acts`    every task that can run does run;
* `Executor.advance_acts`   time goes by.
-/

namespace Succession.Executor

variable {ι σ : Type} [DecidableEq ι] {targets : ι → Target σ} {ended : σ → Bool}
  {r r' : Running ι σ}

inductive Act (targets : ι → Target σ) (ended : σ → Bool) : Running ι σ → Running ι σ → Prop where
  | poll {s : σ} {e : Executor ι} {task : Task ι} {rest : List (Task ι)}
      (hlive : ended s = false) (hready : e.ready = task :: rest) :
      Act targets ended (s, e) (poll targets task (s, { e with ready := rest }))
  /-- the clock reaches the next deadline -/
  | fire {s : σ} {e : Executor ι} {t : Timer ι} {rest : List (Timer ι)} (hready : e.ready = [])
      (htimers : e.timers = t :: rest) : Act targets ended (s, e) (s, e.due t.deadline)
  /-- the clock moves on without reaching it -/
  | tick {s : σ} {e : Executor ι} (clock : Nat) (hready : e.ready = []) (hle : e.clock ≤ clock)
      (hnext : ∀ t ∈ e.timers, clock < t.deadline) :
      Act targets ended (s, e) (s, { e with clock })

def Acts (targets : ι → Target σ) (ended : σ → Bool) : Running ι σ → Running ι σ → Prop :=
  Relation.ReflTransGen (Act targets ended)

theorem Act.timely (h : Act targets ended r r') (ht : r.2.Timely) : r'.2.Timely := by
  cases h with
  | @poll s e task rest _ _ =>
    have hrest : ({ e with ready := rest } : Executor ι).Timely := ht.of_eq ⟨rfl, rfl⟩
    exact hrest.poll targets task s
  | fire => exact ht.due _
  | tick clock _ _ hnext => exact ht.tick hnext

theorem Acts.timely (h : Acts targets ended r r') (ht : r.2.Timely) : r'.2.Timely := by
  induction h with
  | refl => exact ht
  | tail _ hact ih => exact hact.timely ih

theorem runReady_acts (limit : Nat) (r : Running ι σ) :
    Acts targets ended r (runReady targets ended limit r) := by
  induction limit generalizing r with
  | zero => exact .refl
  | succ limit ih =>
    obtain ⟨s, e⟩ := r
    unfold runReady
    split
    · exact .refl
    · next hlive =>
      split
      · exact .refl
      · next task rest hready =>
        exact .head (.poll (eq_false_of_ne_true hlive) hready) (ih _)

/-- the clock stands still while something is ready -/
theorem clock_poll (targets : ι → Target σ) (task : Task ι) (s : σ) (e : Executor ι) :
    (poll targets task (s, e)).2.clock = e.clock := by
  cases task with
  | consume owner =>
    unfold poll
    dsimp only
    split
    · rfl
    · split
      · rfl
      · exact (timers_consume ..).2
  | hammer | graceful | complete | watch =>
    unfold poll
    dsimp only
    split <;> rfl
  | strike => rfl

theorem clock_runReady (targets : ι → Target σ) (ended : σ → Bool) (limit : Nat)
    (r : Running ι σ) : (runReady targets ended limit r).2.clock = r.2.clock := by
  induction limit generalizing r with
  | zero => rfl
  | succ limit ih =>
    obtain ⟨s, e⟩ := r
    unfold runReady
    split
    · rfl
    · split
      · rfl
      · exact (ih _).trans (clock_poll ..)

/-- every task that can run does run, and is at its end then -/
theorem settle_acts (targets : ι → Target σ) (ended : σ → Bool) (r : Running ι σ) :
    Acts targets ended r (settle targets ended r) ∧
      (ended (settle targets ended r).1 = true ∨ (settle targets ended r).2.ready = []) :=
  ⟨runReady_acts _ r, settle_ready targets ended r⟩

theorem advanceTo_of_ended {clock limit : Nat} (h : ended r.1 = true) :
    advanceTo targets ended clock limit r = r := by
  cases limit with
  | zero => rfl
  | succ limit =>
    obtain ⟨s, e⟩ := r
    unfold advanceTo
    rw [if_pos h]

/-- what has fired sets no timer, so that there are fewer of them -/
theorem timers_fireNext (targets : ι → Target σ) (ended : σ → Bool) (s : σ) {e : Executor ι}
    {t : Timer ι} (ht : e.Timely) (hready : e.ready = []) (hmem : t ∈ e.timers) :
    (fireNext targets ended (s, e) t.deadline).2.timers.length < e.timers.length ∧
      (fireNext targets ended (s, e) t.deadline).2.clock = t.deadline := by
  have hbrief : ∀ u ∈ (e.due t.deadline).ready, Brief u := by
    intro u hu
    rw [ht.ready_due, hready] at hu
    obtain ⟨v, hv, rfl⟩ := List.mem_map.mp hu
    exact brief_of_waits (ht.waits v (List.mem_filter.mp hv).1)
  obtain ⟨htimers, hclock⟩ := runReady_brief targets ended (e.due t.deadline).pollBound
    (r := (s, e.due t.deadline)) hbrief
  refine ⟨?_, hclock⟩
  show (runReady targets ended (e.due t.deadline).pollBound (s, e.due t.deadline)).2.timers.length
    < _
  rw [htimers]
  show (e.due t.deadline).timers.length < _
  rw [ht.timers_due]
  exact List.length_filter_lt_length_iff_exists.mpr ⟨t, hmem, by simp⟩

/-- the clock reaches its goal, deadline after deadline, unless the process ends on the way -/
theorem advanceTo_acts {clock limit : Nat} (ht : r.2.Timely) (hready : r.2.ready = [])
    (hlimit : r.2.timers.length < limit) (hle : r.2.clock ≤ clock) :
    Acts targets ended r (advanceTo targets ended clock limit r) ∧
      (ended (advanceTo targets ended clock limit r).1 = true ∨
        (advanceTo targets ended clock limit r).2.ready = [] ∧
          (advanceTo targets ended clock limit r).2.clock = clock) := by
  induction limit generalizing r with
  | zero => exact absurd hlimit (Nat.not_lt_zero _)
  | succ limit ih =>
    obtain ⟨s, e⟩ := r
    dsimp only at ht hready hlimit hle
    unfold advanceTo
    by_cases hended : ended s = true
    · rw [if_pos hended]
      exact ⟨.refl, .inl hended⟩
    rw [if_neg hended]
    split
    · next htimers =>
      have hnext : ∀ t ∈ e.timers, clock < t.deadline := by
        rw [htimers]
        exact nofun
      exact ⟨.single (.tick clock hready hle hnext), .inr ⟨hready, rfl⟩⟩
    · next t rest htimers =>
      have hmem : t ∈ e.timers := by
        rw [htimers]
        exact List.mem_cons_self
      by_cases hlt : clock < t.deadline
      · rw [if_pos hlt]
        have hnext : ∀ u ∈ e.timers, clock < u.deadline :=
          fun u hu => Nat.lt_of_lt_of_le hlt (ht.first_le htimers u hu)
        exact ⟨.single (.tick clock hready hle hnext), .inr ⟨hready, rfl⟩⟩
      · rw [if_neg hlt]
        obtain ⟨hfewer, hclock⟩ := timers_fireNext targets ended s ht hready hmem
        have hacts : Acts targets ended (s, e) (fireNext targets ended (s, e) t.deadline) :=
          .head (.fire hready htimers) (runReady_acts _ _)
        have hsettled : ended (fireNext targets ended (s, e) t.deadline).1 = true ∨
            (fireNext targets ended (s, e) t.deadline).2.ready = [] := settle_ready _ _ _
        obtain hended' | hready' := hsettled
        · rw [advanceTo_of_ended hended']
          exact ⟨hacts, .inl hended'⟩
        · obtain ⟨hrest, hend⟩ := ih (Acts.timely hacts ht) hready' (by omega) (by omega)
          exact ⟨hacts.trans hrest, hend⟩

theorem advance_acts (targets : ι → Target σ) (ended : σ → Bool) (ht : r.2.Timely)
    (hready : r.2.ready = []) (millis : Nat) :
    Acts targets ended r (advance targets ended millis r) ∧
      (ended (advance targets ended millis r).1 = true ∨
        (advance targets ended millis r).2.ready = [] ∧
          (advance targets ended millis r).2.clock = r.2.clock + millis) :=
  advanceTo_acts ht hready (Nat.lt_succ_self _) (Nat.le_add_right _ _)

end Succession.Executor
