import Mathlib.Logic.Relation
import Succession.Proofs.Drain.Lapse
import Succession.Proofs.Drain.Wakeup

/-!
# A call among accepts and drops

While a call waits for the listeners of a pool, connections come and go on all of them, and
listeners may be added, closed and removed. The call waits for the listeners that were registered
when it began, for each of them on its own: it is done with a listener when it has found nothing in
flight on it once, and does not look at it again.

* `Stand`, `Stand.Step`   how far a call has come with one listener, and what it does next;
* `Scene`, `Scene.Step`   a pool with its connections and a call, and one atomic step;
* `Step.tracked`          what a step does to the connections of one listener;
* `Reaches.ages`          who is in flight and has been there before was in flight then.
-/

namespace Succession

/-! ## older connections -/

/-- connections are numbered as they come, and none comes back -/
structure Ages (guards guards' : List GuardPhase) : Prop where
  length_le : guards.length ≤ guards'.length
  older : ∀ g < guards.length, guards'[g]? = some .live → guards[g]? = some .live

section
variable {guards guards' guards'' : List GuardPhase}

theorem Ages.refl (guards : List GuardPhase) : Ages guards guards :=
  ⟨Nat.le_refl _, fun _ _ h => h⟩

theorem Ages.trans (h : Ages guards guards') (h' : Ages guards' guards'') :
    Ages guards guards'' where
  length_le := Nat.le_trans h.length_le h'.length_le
  older g hg hlive := h.older g hg (h'.older g (Nat.lt_of_lt_of_le hg h.length_le) hlive)

theorem ages_set {phase : GuardPhase} (hphase : phase ≠ .live) (guards : List GuardPhase)
    (g : Nat) : Ages guards (guards.set g phase) := by
  refine ⟨Nat.le_of_eq List.length_set.symm, ?_⟩
  intro k hk hlive
  by_cases hkg : g = k
  · subst hkg
    rw [List.getElem?_set_self hk] at hlive
    exact absurd (Option.some.inj hlive) hphase
  · rwa [List.getElem?_set_ne hkg] at hlive

theorem Tracked.Step.ages {t t' : Tracked} (h : t.Step t') : Ages t.guards t'.guards := by
  cases h with
  | enter =>
    refine ⟨?_, ?_⟩
    · show t.guards.length ≤ (t.guards ++ [GuardPhase.live]).length
      rw [List.length_append]
      exact Nat.le_add_right _ _
    · intro k hk hlive
      rwa [show (t.guards ++ [GuardPhase.live])[k]? = t.guards[k]? from
        List.getElem?_append_left hk] at hlive
  | leave hg =>
    refine ages_set ?_ _ _
    split <;> decide
  | notify hg => exact ages_set (by decide) _ _
  | join | wait | abandon => exact .refl t.guards

/-- while nothing is in flight, nobody is live -/
theorem Tracked.Sound.not_live {t : Tracked} (ht : t.Sound) (hidle : t.tracker.active = 0)
    (g : Nat) : t.guards[g]? ≠ some .live := by
  intro hlive
  exact absurd hidle (Nat.ne_of_gt (ht.active_pos hlive))

end

/-! ## one listener of a call -/

/-- how far a call has come with one of its listeners -/
inductive Stand where
  /-- about to read the count: a drain does not wait for a listener without connections -/
  | looking
  /-- about to wait -/
  | joining
  | waiting (waiter : Nat)
  /-- has found nothing in flight -/
  | passed
  /-- ran out of time -/
  | late
deriving DecidableEq, Repr

/-- what the call does next with the listener whose connections these are, and what becomes of
them -/
inductive Stand.Step (t : Tracked) : Stand → Stand → Tracked → Prop where
  | idle (hidle : t.tracker.active = 0) : Step t looking passed t
  | busy (hbusy : t.tracker.active ≠ 0) : Step t looking joining t
  | join : Step t joining (waiting t.tracker.join.1) { t with tracker := t.tracker.join.2 }
  | woken {waiter : Nat} (hfinished : t.tracker.isFinished waiter = true) :
      Step t (waiting waiter) passed t
  | late {waiter : Nat} :
      Step t (waiting waiter) late { t with tracker := t.tracker.abandon waiter }

theorem Stand.Step.tracked {t t' : Tracked} {stand stand' : Stand}
    (h : Stand.Step t stand stand' t') : t' = t ∨ t.Step t' := by
  cases h with
  | idle | busy | woken => exact .inl rfl
  | join => exact .inr .join
  | late => exact .inr (.abandon _)

/-! ## scenes -/

structure Scene where
  pool : Pool
  /-- the connections that each listener ever had, oldest first -/
  guards : ListenerId → List GuardPhase
  /-- the listeners that a call waits for -/
  call : List (ListenerId × Stand)

/-- neither a connection that comes nor one that goes -/
def Pool.Deed.Quiet : Pool.Deed → Prop
  | .enter _ | .leave _ => False
  | _ => True

namespace Scene

def empty : Scene := ⟨.empty, fun _ => [], []⟩

def tracked (s : Scene) (id : ListenerId) : Tracked :=
  ⟨s.pool.trackers[id]?.getD .new, s.guards id⟩

def moved (s : Scene) (id : ListenerId) (t : Tracked) : Scene where
  pool := { s.pool with trackers := s.pool.trackers.set id t.tracker }
  guards other := if other = id then t.guards else s.guards other
  call := s.call

/-- a call begins with the registered listeners: a drain looks at their counts first -/
def begun (s : Scene) (stand : Stand) : Scene :=
  { s with call := s.pool.snapshot.map (·, stand) }

inductive Step (s : Scene) : Scene → Prop where
  | pool {deed : Pool.Deed} (hdeed : deed.Quiet) : Step s { s with pool := s.pool.did deed }
  /-- a connection comes or goes, or somebody waits for a listener -/
  | connection {id : ListenerId} {t : Tracked} (hid : id < s.pool.trackers.length)
      (h : (s.tracked id).Step t) : Step s (s.moved id t)
  | call {k : Nat} {id : ListenerId} {stand stand' : Stand} {t : Tracked}
      (hid : id < s.pool.trackers.length) (hk : s.call[k]? = some (id, stand))
      (h : Stand.Step (s.tracked id) stand stand' t) :
      Step s { s.moved id t with call := s.call.set k (id, stand') }

abbrev Reaches : Scene → Scene → Prop := Relation.ReflTransGen Step

def Returned (s : Scene) : Prop := ∀ e ∈ s.call, e.2 = .passed

instance (s : Scene) : Decidable s.Returned :=
  inferInstanceAs (Decidable (∀ e ∈ s.call, e.2 = .passed))

variable {s s' s₀ : Scene} {id : ListenerId}

theorem Step.returned (h : Step s s') (hreturned : s.Returned) : s'.Returned := by
  cases h with
  | pool | connection => exact hreturned
  | call hid hk h =>
    have hpassed := hreturned _ (List.mem_of_getElem? hk)
    obtain rfl := hpassed
    cases h

/-! ## one listener of a scene -/

theorem tracked_moved {t : Tracked} (hid : id < s.pool.trackers.length) (other : ListenerId) :
    (s.moved id t).tracked other = if other = id then t else s.tracked other := by
  show Tracked.mk ((s.pool.trackers.set id t.tracker)[other]?.getD .new)
    (if other = id then t.guards else s.guards other) = _
  by_cases hother : other = id
  · subst hother
    rw [List.getElem?_set_self hid, if_pos rfl, if_pos rfl]
    rfl
  · rw [List.getElem?_set_ne (Ne.symm hother), if_neg hother, if_neg hother]
    rfl

/-- a listener that was not made has no connections, just as a new one -/
theorem trackers_did {p : Pool} {deed : Pool.Deed} (hdeed : deed.Quiet) (id : ListenerId) :
    (p.did deed).trackers[id]?.getD .new = p.trackers[id]?.getD .new := by
  cases deed with
  | add socket =>
    show (p.trackers ++ [Tracker.new])[id]?.getD .new = _
    rcases Nat.lt_trichotomy id p.trackers.length with hlt | heq | hgt
    · rw [List.getElem?_append_left hlt]
    · rw [heq, List.getElem?_concat_length, List.getElem?_eq_none (Nat.le_refl _)]
      rfl
    · rw [List.getElem?_eq_none (by rw [List.length_append]; exact hgt),
        List.getElem?_eq_none (Nat.le_of_lt hgt)]
  | remove address =>
    show (p.remove address).2.trackers[id]?.getD .new = _
    unfold Pool.remove
    split
    · rfl
    · show (p.closeOne _).2.trackers[id]?.getD .new = _
      rw [Pool.trackers_closeOne]
  | closeAll =>
    show p.closeAll.trackers[id]?.getD .new = _
    rw [Pool.trackers_closeAll]
  | closeOne other =>
    show (p.closeOne other).2.trackers[id]?.getD .new = _
    rw [Pool.trackers_closeOne]
  | get | snapshot => rfl
  | enter | leave => exact hdeed.elim

/-- **What a step does to the connections of one listener** is one step of theirs, if anything. -/
theorem Step.tracked (h : Step s s') (id : ListenerId) :
    s'.tracked id = s.tracked id ∨ (s.tracked id).Step (s'.tracked id) := by
  have hmoved {other : ListenerId} {t : Tracked} (hother : other < s.pool.trackers.length)
      (ht : t = s.tracked other ∨ (s.tracked other).Step t) :
      (s.moved other t).tracked id = s.tracked id ∨
        (s.tracked id).Step ((s.moved other t).tracked id) := by
    rw [tracked_moved hother]
    by_cases hid : id = other
    · subst hid
      rwa [if_pos rfl]
    · rw [if_neg hid]
      exact .inl rfl
  cases h with
  | pool hdeed => exact .inl (congrArg (Tracked.mk · (s.guards id)) (trackers_did hdeed id))
  | connection hother ht => exact hmoved hother (.inr ht)
  | call hother hk ht => exact hmoved hother ht.tracked

theorem Step.sound (h : Step s s') (hs : (s.tracked id).Sound) : (s'.tracked id).Sound := by
  rcases h.tracked id with hsame | hstep
  · rwa [hsame]
  · exact hstep.sound hs

theorem Reaches.sound (h : Reaches s s') (hs : (s.tracked id).Sound) : (s'.tracked id).Sound := by
  induction h with
  | refl => exact hs
  | tail _ hstep ih => exact hstep.sound ih

theorem sound_empty (id : ListenerId) : (empty.tracked id).Sound := Tracked.sound_new

theorem Step.counted (h : Step s s') (hp : s.pool.Counted) : s'.pool.Counted := by
  cases h with
  | pool => exact hp.did _
  | connection | call => exact hp.of_length List.length_set

theorem Reaches.counted (h : Reaches s s') (hp : s.pool.Counted) : s'.pool.Counted := by
  induction h with
  | refl => exact hp
  | tail _ hstep ih => exact hstep.counted ih

theorem Step.ages (h : Step s s') (id : ListenerId) :
    Ages (s.guards id) (s'.guards id) := by
  rcases h.tracked id with hsame | hstep
  · rw [show s'.guards id = s.guards id from congrArg Tracked.guards hsame]
    exact .refl _
  · exact hstep.ages

/-- **Who has been there before** and is in flight was in flight then. -/
theorem Reaches.ages (h : Reaches s s') (id : ListenerId) :
    Ages (s.guards id) (s'.guards id) := by
  induction h with
  | refl => exact .refl _
  | tail _ hstep ih => exact ih.trans (hstep.ages id)

end Scene
end Succession
