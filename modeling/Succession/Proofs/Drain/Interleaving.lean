import Mathlib.Logic.Relation
import Succession.Drain.Tracker

/-!
# Guards and waiters in any order

All clones of a tracker share one count. Guards come and go, and tasks wait, each in atomic steps of
its own, and these steps come in any order. Between the step in which the last guard stops counting
and the step in which it notifies, anything may happen: a new guard may come, and waiters may read
the count.

* `Tracked`, `Tracked.Step`, `Tracked.Reaches`   a tracker with its guards, one step, many steps;
* `Tracked.Turn`, `Step.turn`      what a step may do to a waiter;
* `Tracked.Sound`, `Reaches.sound` the count is right, and nobody sleeps through an idle time;
* `reaches_drop`, `reaches_settle` whole drops, and runs up to the next wait, are such steps.
-/

namespace Succession

inductive GuardPhase where
  /-- it counts -/
  | live
  /-- it does not count any more, was the last that did, and has not notified yet -/
  | leaving
  | gone
deriving DecidableEq, Repr

/-- a tracker, and every guard that it ever had -/
structure Tracked where
  tracker : Tracker
  guards : List GuardPhase

namespace Tracked

def new : Tracked := ⟨.new, []⟩

def live (s : Tracked) : Nat := s.guards.count .live

/-- no guard is between its last count and its notification -/
def Quiet (s : Tracked) : Prop := GuardPhase.leaving ∉ s.guards

def waiter? (s : Tracked) (i : Nat) : Option WaiterPhase := s.tracker.waiters[i]?

def stepped (s : Tracked) (i : Nat) : Tracked := { s with tracker := s.tracker.stepWaiter i }

inductive Step (s : Tracked) : Tracked → Prop where
  | enter : Step s ⟨s.tracker.enter, s.guards ++ [.live]⟩
  /-- a guard stops counting, and learns whether it has to notify -/
  | leave {g : Nat} (hg : s.guards[g]? = some .live) :
      Step s ⟨s.tracker.leave.2, s.guards.set g (if s.tracker.leave.1 then .leaving else .gone)⟩
  /-- the last guard notifies -/
  | notify {g : Nat} (hg : s.guards[g]? = some .leaving) :
      Step s ⟨s.tracker.notifyAll, s.guards.set g .gone⟩
  | join : Step s { s with tracker := s.tracker.join.2 }
  | wait (i : Nat) : Step s (s.stepped i)
  | abandon (i : Nat) : Step s { s with tracker := s.tracker.abandon i }

abbrev Reaches : Tracked → Tracked → Prop := Relation.ReflTransGen Step

variable {s s' u : Tracked} {i g : Nat} {p p' : WaiterPhase}

/-! ## what a step does to a waiter -/

theorem waiter?_stepped (hi : s.waiter? i = some p) :
    (s.stepped i).waiter? i = some (p.step s.tracker.active) := by
  show (s.tracker.waiters.modify i _)[i]? = _
  rw [List.getElem?_modify_eq, show s.tracker.waiters[i]? = some p from hi]
  rfl

theorem waiter?_modify_of_ne {f : WaiterPhase → WaiterPhase} {j : Nat} (hj : j ≠ i) (s : Tracked) :
    (s.tracker.waiters.modify j f)[i]? = s.waiter? i := List.getElem?_modify_ne f _ hj

/-- what a step from `s` to another state makes of a waiter -/
inductive Turn (s : Tracked) (i : Nat) :
    Option WaiterPhase → Tracked → Option WaiterPhase → Prop where
  | stay {s' : Tracked} (p : Option WaiterPhase) : Turn s i p s' p
  | join {s' : Tracked} : Turn s i none s' (some .starting)
  | step (p : WaiterPhase) : Turn s i (some p) (s.stepped i) (some (p.step s.tracker.active))
  | notify {s' : Tracked} (p : WaiterPhase) : Turn s i (some p) s' (some p.notify)
  | cancel {s' : Tracked} {p : WaiterPhase} (hp : p ≠ .finished) :
      Turn s i (some p) s' (some .cancelled)

theorem Turn.of_eq {p p' q : Option WaiterPhase} (h : Turn s i p s' p') (he : q = p') :
    Turn s i p s' q := he ▸ h

/-- **A step makes of a waiter what its own next step makes of it, or notifies it, or ends its
wait, or leaves it alone.** -/
theorem Step.turn (h : Step s s') (i : Nat) : Turn s i (s.waiter? i) s' (s'.waiter? i) := by
  cases h with
  | enter => exact .stay _
  | leave hg => exact .stay _
  | notify hg =>
    have hw : (s.tracker.waiters.map WaiterPhase.notify)[i]? =
        (s.waiter? i).map WaiterPhase.notify := List.getElem?_map
    refine Turn.of_eq ?_ hw
    cases s.waiter? i with
    | none => exact .stay none
    | some p => exact .notify p
  | join =>
    have hw : (s.tracker.waiters ++ [.starting])[i]? =
        (s.waiter? i).or (if i = s.tracker.waiters.length then some .starting else none) := by
      show _ = (s.tracker.waiters[i]?).or _
      rw [List.getElem?_append]
      split
      · next hlt => rw [List.getElem?_eq_getElem hlt, Option.some_or]
      · next hge =>
        rw [List.getElem?_eq_none (Nat.le_of_not_lt hge), Option.none_or]
        split
        · next he => rw [he, Nat.sub_self]; rfl
        · next hne => exact List.getElem?_eq_none (by simp; omega)
    refine Turn.of_eq ?_ hw
    cases s.waiter? i with
    | some p => exact .stay _
    | none =>
      rw [Option.none_or]
      split
      · exact .join
      · exact .stay _
  | wait j =>
    by_cases hj : j = i
    · subst hj
      cases hw : s.waiter? j with
      | none =>
        refine Turn.of_eq (.stay none) ?_
        show (s.tracker.waiters.modify j _)[j]? = _
        rw [List.getElem?_modify_eq, show s.tracker.waiters[j]? = none from hw]
        rfl
      | some p => exact Turn.of_eq (.step p) (waiter?_stepped hw)
    · exact Turn.of_eq (.stay _) (waiter?_modify_of_ne hj s)
  | abandon j =>
    by_cases hj : j = i
    · subst hj
      refine Turn.of_eq ?_ (List.getElem?_modify_eq _ _ _)
      show Turn s j (s.waiter? j) _ ((s.waiter? j).map _)
      cases hw : s.waiter? j with
      | none => exact .stay none
      | some p =>
        rw [Option.map_some]
        split
        · exact .stay _
        · next hp => exact .cancel hp
    · exact Turn.of_eq (.stay _) (waiter?_modify_of_ne hj s)

/-! ## the count, and who sleeps -/

structure Sound (s : Tracked) : Prop where
  /-- the count is the number of the guards that are there -/
  active : s.tracker.active = s.live
  /-- whoever sleeps and was not notified has a guard to wait for, or will be notified -/
  awaited : ∀ i, s.waiter? i = some (.asleep false) → 0 < s.tracker.active ∨ ¬ s.Quiet

theorem sound_new : Sound new := ⟨rfl, fun _ h => by cases h⟩

/-- a guard that is there counts, so that the count cannot go below zero -/
theorem Sound.active_pos (hs : s.Sound) (hg : s.guards[g]? = some .live) :
    0 < s.tracker.active := by
  rw [hs.active]
  exact List.count_pos_iff.mpr (List.mem_of_getElem? hg)

theorem live_set {phase : GuardPhase} (hg : s.guards[g]? = some phase) (phase' : GuardPhase) :
    (s.guards.set g phase').count .live =
      s.live - (if phase = .live then 1 else 0) + (if phase' = .live then 1 else 0) := by
  obtain ⟨hlt, he⟩ := List.getElem?_eq_some_iff.mp hg
  rw [List.count_set hlt, he]
  simp only [beq_iff_eq]
  rfl

/-- whoever sleeps after a step and was not notified has slept before, or has read a count above
zero -/
theorem Step.asleep (h : Step s s') (hi : s'.waiter? i = some (.asleep false)) :
    s.waiter? i = some (.asleep false) ∨ 0 < s.tracker.active := by
  have ht := h.turn i
  rw [hi] at ht
  generalize s.waiter? i = p at ht ⊢
  generalize hp' : some (WaiterPhase.asleep false) = p' at ht
  cases ht with
  | stay => exact .inl rfl
  | join => cases hp'
  | step p =>
    cases p with
    | registered notified =>
      right
      refine Nat.pos_of_ne_zero fun h0 => ?_
      rw [h0] at hp'
      cases hp'
    | asleep notified =>
      cases notified with
      | true => cases hp'
      | false => exact .inl rfl
    | _ => cases hp'
  | notify p => cases p <;> cases hp'
  | cancel hp => cases hp'

theorem not_quiet (hg : s.guards[g]? = some .leaving) : ¬ s.Quiet :=
  fun hq => hq (List.mem_of_getElem? hg)

theorem waiter?_notifyAll (s : Tracked) (i : Nat) (guards : List GuardPhase) :
    (Tracked.mk s.tracker.notifyAll guards).waiter? i ≠ some (.asleep false) := by
  show (s.tracker.waiters.map WaiterPhase.notify)[i]? ≠ _
  rw [List.getElem?_map]
  cases s.tracker.waiters[i]? with
  | none => nofun
  | some p => cases p <;> nofun

/-- **One step keeps the count right, and leaves nobody asleep without cause.** -/
theorem Step.sound (h : Step s s') (hs : s.Sound) : s'.Sound := by
  have hsame (ha : s'.tracker.active = s.tracker.active) (hg : s'.guards = s.guards) : s'.Sound := by
    refine ⟨?_, fun i hi => ?_⟩
    · unfold live
      rw [ha, hg]
      exact hs.active
    unfold Quiet
    rw [ha, hg]
    obtain hi | hread := h.asleep hi
    · exact hs.awaited i hi
    · exact .inl hread
  cases h with
  | enter =>
    refine ⟨?_, fun i hi => .inl (Nat.succ_pos _)⟩
    show s.tracker.active + 1 = (s.guards ++ [GuardPhase.live]).count GuardPhase.live
    rw [List.count_append, hs.active]
    rfl
  | @leave g hg =>
    have hpos := hs.active_pos hg
    refine ⟨?_, fun i hi => ?_⟩
    · show s.tracker.active - 1 = (s.guards.set g _).count .live
      rw [live_set hg, if_pos rfl, hs.active]
      split <;> rfl
    · by_cases hlast : s.tracker.active = 1
      · -- it is the last guard, so it has to notify and nobody is without cause
        refine .inr (not_quiet (g := g) ?_)
        show (s.guards.set g (if decide (s.tracker.active = 1) then _ else _))[g]? = _
        rw [hlast, List.getElem?_set_self (List.getElem?_eq_some_iff.mp hg).1]
        rfl
      · left
        show 0 < s.tracker.active - 1
        omega
  | @notify g hg =>
    refine ⟨?_, fun i hi => absurd hi (waiter?_notifyAll s i _)⟩
    show s.tracker.active = (s.guards.set g .gone).count .live
    rw [live_set hg, hs.active]
    rfl
  | join => exact hsame rfl rfl
  | wait i => exact hsame rfl rfl
  | abandon i => exact hsame rfl rfl

theorem Reaches.sound (h : Reaches s s') (hs : s.Sound) : s'.Sound := by
  induction h with
  | refl => exact hs
  | tail _ hstep ih => exact hstep.sound ih

/-! ## whole drops, and runs up to the next wait -/

/-- a guard that goes, and notifies if it was the last, takes one step or two -/
theorem reaches_drop (hg : s.guards[g]? = some .live) :
    Reaches s ⟨s.tracker.drop, s.guards.set g .gone⟩ := by
  have hlt : g < s.guards.length := (List.getElem?_eq_some_iff.mp hg).1
  have hleave := Step.leave hg
  by_cases hlast : s.tracker.active = 1
  · have hdrop : s.tracker.drop = s.tracker.leave.2.notifyAll := by
      simp only [Tracker.drop, Tracker.leave, hlast, decide_true, if_true]
    rw [show s.tracker.leave.1 = true from decide_eq_true hlast, if_pos rfl] at hleave
    have hnotify := Step.notify
      (s := ⟨s.tracker.leave.2, s.guards.set g .leaving⟩) (List.getElem?_set_self hlt)
    rw [hdrop]
    refine .head hleave (.single ?_)
    rwa [List.set_set] at hnotify
  · have hdrop : s.tracker.drop = s.tracker.leave.2 := by
      simp only [Tracker.drop, Tracker.leave, hlast, decide_false, Bool.false_eq_true, if_false]
    rw [show s.tracker.leave.1 = false from decide_eq_false hlast, if_neg nofun] at hleave
    rw [hdrop]
    exact .single hleave

def withWaiters (s : Tracked) (waiters : List WaiterPhase) : Tracked :=
  { s with tracker := { s.tracker with waiters } }

theorem modify_append (f : WaiterPhase → WaiterPhase) (before after : List WaiterPhase)
    (p : WaiterPhase) :
    (before ++ p :: after).modify before.length f = before ++ f p :: after := by
  induction before with
  | nil => rfl
  | cons b before ih => exact congrArg (b :: ·) ih

theorem step_waiter (s : Tracked) (before after : List WaiterPhase) (p : WaiterPhase) :
    Step (s.withWaiters (before ++ p :: after))
      (s.withWaiters (before ++ p.step s.tracker.active :: after)) := by
  have h := Step.wait (s := s.withWaiters (before ++ p :: after)) before.length
  have hstepped : (s.withWaiters (before ++ p :: after)).stepped before.length =
      s.withWaiters (before ++ p.step s.tracker.active :: after) :=
    congrArg s.withWaiters (modify_append _ before after p)
  rwa [hstepped] at h

theorem reaches_settle_waiters (s : Tracked) (before after : List WaiterPhase) :
    Reaches (s.withWaiters (before ++ after))
      (s.withWaiters (before ++ after.map (·.settle s.tracker.active))) := by
  induction after generalizing before with
  | nil => exact .refl
  | cons p after ih =>
    have hrest := ih (before ++ [p.settle s.tracker.active])
    rw [List.append_assoc, List.append_assoc] at hrest
    -- a waiter blocks after four steps of its own at most
    exact .head (step_waiter s before after _) (.head (step_waiter s before after _)
      (.head (step_waiter s before after _) (.head (step_waiter s before after _) hrest)))

/-- every waiter can run until it blocks -/
theorem reaches_settle (s : Tracked) : Reaches s { s with tracker := s.tracker.settle } :=
  reaches_settle_waiters s [] s.tracker.waiters

end Tracked
end Succession
