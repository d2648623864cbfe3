import Mathlib.Data.List.Count
import Mathlib.Data.Nat.Basic
import Mathlib.Order.MinMax
import Succession.Drain.Waiting

/-!
# How a wait ends

A waiter that has come to rest has finished if nothing is in flight, and sleeps otherwise. Guards
that go leave it at rest. So a call that waits for some trackers ends with the last departure from
one of them, or at its limit if that comes first; and whatever has not gone by then is still in
flight.

* `Wait.Rests`        a waiter at rest, which departures leave at rest;
* `joinAll_starts`    the waiters of a call, at its start;
* `Due`               all that is waited for goes at such times;
* `Awaited`           the end of a call, told from what goes and what stays;
* `awaited_awaitAll`  one departure after the other;
* `awaited_waitIdle`, `awaited_drainIdle`   whole calls.
-/

namespace Succession

/-! ## waiters at rest -/

namespace WaiterPhase

def resting (active : Nat) : WaiterPhase := if active = 0 then finished else asleep false

theorem settle_starting (active : Nat) : settle active starting = resting active := by
  cases active <;> rfl

theorem settle_resting (active : Nat) : settle active (resting active) = resting active := by
  cases active <;> rfl

theorem settle_notified (active : Nat) : settle 0 (resting active).notify = resting 0 := by
  cases active <;> rfl

end WaiterPhase

namespace Tracker

variable {t : Tracker} {i : Nat}

def Rests (t : Tracker) (i : Nat) : Prop := t.waiters[i]? = some (.resting t.active)

theorem rests_settle (h : t.waiters[i]? = some .starting ∨ t.Rests i) : t.settle.Rests i := by
  show (t.waiters.map _)[i]? = _
  rw [List.getElem?_map]
  obtain h | h := h
  · rw [h]
    exact congrArg some (WaiterPhase.settle_starting _)
  · rw [show _ = _ from h]
    exact congrArg some (WaiterPhase.settle_resting _)

theorem active_drop (t : Tracker) : t.drop.active = t.active - 1 := by
  unfold drop
  dsimp only
  split <;> rfl

/-- the last guard wakes whoever sleeps, and nobody has to wake otherwise -/
theorem Rests.drop (h : t.Rests i) : t.drop.settle.Rests i := by
  obtain ⟨active, waiters⟩ := t
  replace h : waiters[i]? = some (.resting active) := h
  match active with
  | 0 => exact rests_settle (.inr h)
  | 1 =>
    show ((waiters.map _).map _)[i]? = _
    rw [List.getElem?_map, List.getElem?_map, h]
    exact congrArg some (WaiterPhase.settle_notified 1)
  | active + 2 =>
    have hstays : (⟨active + 1, waiters⟩ : Tracker).Rests i := h
    exact rests_settle (.inr hstays)

end Tracker

namespace Trackers

theorem getElem?_depart (ts : Trackers) (d : Departure) (i : Nat) :
    (ts.depart d)[i]? = ts[i]?.map fun t => (if d.tracker = i then t.drop else t).settle := by
  show ((ts.modify d.tracker Tracker.drop).map Tracker.settle)[i]? = _
  rw [List.getElem?_map, List.getElem?_modify]
  cases ts[i]? with
  | none => rfl
  | some t =>
    show some (if d.tracker = i then t.drop else t).settle = _
    rfl

theorem active_depart (ts : Trackers) (d : Departure) (i : Nat) :
    (ts.depart d).active i = if d.tracker = i then ts.active i - 1 else ts.active i := by
  unfold active
  rw [getElem?_depart]
  cases ts[i]? with
  | none => split <;> rfl
  | some t =>
    show (if d.tracker = i then t.drop else t).active = _
    split
    · exact t.active_drop
    · rfl

theorem active_settle (ts : Trackers) (i : Nat) : ts.settle.active i = ts.active i := by
  unfold active settle
  rw [List.getElem?_map]
  cases ts[i]? <;> rfl

end Trackers

namespace Wait

variable {ts : Trackers} {w : Wait}

def Rests (ts : Trackers) (w : Wait) : Prop :=
  ∃ t, ts[w.tracker]? = some t ∧ t.Rests w.waiter

def Starts (ts : Trackers) (w : Wait) : Prop :=
  ∃ t, ts[w.tracker]? = some t ∧ t.waiters[w.waiter]? = some .starting

theorem Rests.isFinished_iff (h : w.Rests ts) :
    w.isFinished ts = true ↔ ts.active w.tracker = 0 := by
  obtain ⟨t, ht, hrests⟩ := h
  unfold isFinished Trackers.active Tracker.isFinished
  rw [ht, Option.getD_some, show _ = _ from hrests, beq_iff_eq, Option.some_inj]
  unfold WaiterPhase.resting
  constructor
  · intro hfinished
    by_contra hbusy
    rw [if_neg hbusy] at hfinished
    cases hfinished
  · intro hidle
    rw [if_pos hidle]

theorem Rests.depart (h : w.Rests ts) (d : Departure) : w.Rests (ts.depart d) := by
  obtain ⟨t, ht, hrests⟩ := h
  refine ⟨_, by rw [Trackers.getElem?_depart, ht]; rfl, ?_⟩
  split
  · exact hrests.drop
  · exact Tracker.rests_settle (.inr hrests)

theorem Starts.settle (h : w.Starts ts) : w.Rests ts.settle := by
  obtain ⟨t, ht, hstarts⟩ := h
  refine ⟨t.settle, ?_, Tracker.rests_settle (.inl hstarts)⟩
  show (ts.map Tracker.settle)[w.tracker]? = _
  rw [List.getElem?_map, ht]
  rfl

end Wait

/-! ## joining -/

theorem getElem?_joinOne {ts : Trackers} {i : Nat} {t : Tracker} (h : ts[i]? = some t) (j : Nat) :
    (joinOne ts i).1[j]? = if i = j then some t.join.2 else ts[j]? := by
  obtain ⟨hi, -⟩ := List.getElem?_eq_some_iff.mp h
  show (ts.set i (ts[i]?.getD .new).join.2)[j]? = _
  rw [h, List.getElem?_set]
  simp only [hi, if_true]
  rfl

theorem joinOne_starts {ts : Trackers} {i : Nat} {t : Tracker} (h : ts[i]? = some t) :
    (joinOne ts i).2.Starts (joinOne ts i).1 := by
  refine ⟨t.join.2, ?_, ?_⟩
  · rw [getElem?_joinOne h]
    exact if_pos rfl
  · show (t.waiters ++ [.starting])[(ts[i]?.getD .new).waiters.length]? = _
    rw [h]
    exact List.getElem?_concat_length

theorem Wait.Starts.joinOne {ts : Trackers} {w : Wait} (hw : w.Starts ts) {i : Nat} {t : Tracker}
    (h : ts[i]? = some t) : w.Starts (joinOne ts i).1 := by
  obtain ⟨u, hu, hstarts⟩ := hw
  by_cases hi : i = w.tracker
  · subst hi
    obtain rfl : t = u := Option.some.inj (h.symm.trans hu)
    refine ⟨t.join.2, by rw [getElem?_joinOne h, if_pos rfl], ?_⟩
    obtain ⟨hlt, -⟩ := List.getElem?_eq_some_iff.mp hstarts
    show (t.waiters ++ [.starting])[w.waiter]? = _
    rw [List.getElem?_append_left hlt]
    exact hstarts
  · exact ⟨u, by rw [getElem?_joinOne h, if_neg hi, hu], hstarts⟩

theorem active_joinOne {ts : Trackers} {i : Nat} {t : Tracker} (h : ts[i]? = some t) (j : Nat) :
    (joinOne ts i).1.active j = ts.active j := by
  unfold Trackers.active
  rw [getElem?_joinOne h]
  split
  · next hj =>
    rw [← hj, h]
    rfl
  · rfl

/-- **Whoever joins** waits for its own tracker, from its start. -/
theorem joinAll_starts (targets : List Nat) {ts : Trackers}
    (htargets : ∀ i ∈ targets, ∃ t, ts[i]? = some t) :
    (joinAll ts targets).2.map (·.tracker) = targets ∧
      (∀ i, (joinAll ts targets).1.active i = ts.active i) ∧
      (∀ w : Wait, w.Starts ts → w.Starts (joinAll ts targets).1) ∧
      ∀ w ∈ (joinAll ts targets).2, w.Starts (joinAll ts targets).1 := by
  induction targets generalizing ts with
  | nil => exact ⟨rfl, fun _ => rfl, fun _ h => h, nofun⟩
  | cons i targets ih =>
    obtain ⟨t, ht⟩ := htargets i List.mem_cons_self
    have hthere : ∀ j ∈ targets, ∃ u, (joinOne ts i).1[j]? = some u := by
      intro j hj
      rw [getElem?_joinOne ht]
      split
      · exact ⟨_, rfl⟩
      · exact htargets j (List.mem_cons_of_mem _ hj)
    obtain ⟨htrackers, hactive, hstarts, hwaits⟩ := ih hthere
    refine ⟨congrArg (i :: ·) htrackers, fun j => (hactive j).trans (active_joinOne ht j),
      fun w hw => hstarts w (hw.joinOne ht), fun w hw => ?_⟩
    obtain rfl | hw := List.mem_cons.mp hw
    · exact hstarts _ (joinOne_starts ht)
    · exact hwaits w hw

/-! ## waiting -/

theorem active_abandon (ts : Trackers) (w : Wait) (i : Nat) :
    (w.abandon ts).active i = ts.active i := by
  unfold Trackers.active Wait.abandon
  rw [List.getElem?_modify]
  cases ts[i]? with
  | none => rfl
  | some t =>
    show (if w.tracker = i then t.abandon w.waiter else t).active = t.active
    split <;> rfl

theorem active_giveUp (waits : List Wait) (ts : Trackers) (i : Nat) :
    (giveUp waits ts).active i = ts.active i := by
  unfold giveUp
  induction waits generalizing ts with
  | nil => rfl
  | cons w waits ih => rw [List.foldl_cons, ih, active_abandon]

/-- whatever is in flight at some trackers goes, and at such times: `departures` go, and `stays`
tells how many stay -/
def Due (targets : List Nat) (stays : Nat → Nat) (departures : List Departure)
    (P : Nat → Prop) : Prop :=
  ∀ i ∈ targets, stays i = 0 ∧ ∀ d ∈ departures, d.tracker = i → P d.time

def Within (limit : Option Nat) (t : Nat) : Prop := ∀ l, limit = some l → t < l

section
variable {targets : List Nat} {waits : List Wait} {limit : Option Nat} {now : Nat} {ts : Trackers}
  {departures : List Departure} {stays : Nat → Nat} {P Q : Nat → Prop} {o : WaitOutcome}

theorem any_le_iff {t : Nat} : limit.any (· ≤ t) = true ↔ ∃ l, limit = some l ∧ l ≤ t := by
  cases limit <;> simp

theorem Due.mono (h : Due targets stays departures P) (hle : ∀ t, P t → Q t) :
    Due targets stays departures Q := by
  intro i hi
  obtain ⟨hstays, hgone⟩ := h i hi
  exact ⟨hstays, fun d hd htracker => hle _ (hgone d hd htracker)⟩

theorem due_cons {d : Departure} (hd : P d.time) :
    Due targets stays (d :: departures) P ↔ Due targets stays departures P := by
  unfold Due
  simp only [List.forall_mem_cons, hd, implies_true, true_and]

/-- where nothing is in flight, nothing is due -/
theorem due_of_idle (hactive : ∀ i, ts.active i = departures.countP (·.tracker = i) + stays i)
    (hidle : ∀ i ∈ targets, ts.active i = 0) : Due targets stays departures P := by
  intro i hi
  have hnone := hidle i hi
  rw [hactive, Nat.add_eq_zero_iff, List.countP_eq_zero] at hnone
  refine ⟨hnone.2, ?_⟩
  intro d hd htracker
  exact absurd (decide_eq_true htracker) (hnone.1 d hd)

/-- while something is in flight, a departure is still to come, or something stays -/
theorem Due.exists_departure
    (hactive : ∀ i, ts.active i = departures.countP (·.tracker = i) + stays i)
    (hbusy : ¬ ∀ i ∈ targets, ts.active i = 0) (h : Due targets stays departures P) :
    ∃ d ∈ departures, P d.time := by
  by_contra hnone
  apply hbusy
  intro i hi
  obtain ⟨hstays, hgone⟩ := h i hi
  rw [hactive, hstays, Nat.add_zero, List.countP_eq_zero]
  intro d hd htracker
  exact hnone ⟨d, hd, hgone d hd (of_decide_eq_true htracker)⟩

theorem all_isFinished (hrests : ∀ w ∈ waits, w.Rests ts) :
    waits.all (·.isFinished ts) = true ↔ ∀ i ∈ waits.map (·.tracker), ts.active i = 0 := by
  rw [List.all_eq_true, List.forall_mem_map]
  exact forall₂_congr fun w hw => (hrests w hw).isFinished_iff

/-- the end of a call that began to wait for some trackers at `now` -/
structure Awaited (targets : List Nat) (stays : Nat → Nat) (limit : Option Nat) (now : Nat)
    (departures : List Departure) (o : WaitOutcome) : Prop where
  now_le : now ≤ o.took
  /-- some have gone by then, and the others are in flight -/
  split : ∃ gone, departures = gone ++ o.remaining ∧ (∀ d ∈ gone, d.time ≤ o.took) ∧
    ∀ d ∈ o.remaining, o.took ≤ d.time
  /-- without a limit, whoever is not idle has nothing to wait for any more -/
  spent : o.idle = false → limit = none → o.remaining = []
  active : ∀ i, o.trackers.active i = o.remaining.countP (·.tracker = i) + stays i
  idle : o.idle = true → ∀ i ∈ targets, o.trackers.active i = 0
  idle_iff : o.idle = true ↔ Due targets stays departures (Within limit)
  took_idle : o.idle = true → ∀ n, now ≤ n →
    (o.took ≤ n ↔ Due targets stays departures (· ≤ n))
  took_late : o.idle = false → ∀ l, limit = some l → o.took = l

/-- a call with a limit is over when what it waits for is, or at its limit -/
theorem Awaited.took_le_iff {l n : Nat} (h : Awaited targets stays (some l) now departures o)
    (hn : now ≤ n) : o.took ≤ n ↔ l ≤ n ∨ Due targets stays departures (· ≤ n) := by
  cases hidle : o.idle with
  | true =>
    rw [h.took_idle hidle n hn]
    refine ⟨.inr, ?_⟩
    rintro (hle | hdue)
    · -- everything goes before the limit
      apply (h.idle_iff.mp hidle).mono
      intro t hwithin
      have hlt := hwithin l rfl
      omega
    · exact hdue
  | false =>
    rw [h.took_late hidle l rfl]
    refine ⟨.inl, ?_⟩
    rintro (hle | hdue)
    · exact hle
    · by_contra hlt
      have hwithin : Due targets stays departures (Within (some l)) := by
        apply hdue.mono
        intro t ht
        rintro _ ⟨⟩
        omega
      rw [h.idle_iff.mpr hwithin] at hidle
      cases hidle

/-- the call ends before the next departure, as everybody has finished -/
theorem awaited_idle (hactive : ∀ i, ts.active i = departures.countP (·.tracker = i) + stays i)
    (hnow : ∀ d ∈ departures, now ≤ d.time) (hidle : ∀ i ∈ targets, ts.active i = 0) :
    Awaited targets stays limit now departures ⟨true, now, ts, departures⟩ where
  now_le := Nat.le_refl _
  split := ⟨[], rfl, nofun, hnow⟩
  spent h := by cases h
  active := hactive
  idle _ := hidle
  idle_iff := iff_of_true rfl (due_of_idle hactive hidle)
  took_idle _ n hn := iff_of_true hn (due_of_idle hactive hidle)
  took_late h := by cases h

/-- the call ends at its limit, before the next departure -/
theorem awaited_late (hactive : ∀ i, ts.active i = departures.countP (·.tracker = i) + stays i)
    (hlimit : ∀ l, limit = some l → now ≤ l)
    (hlater : ∀ d ∈ departures, ∃ l, limit = some l ∧ l ≤ d.time)
    (hbusy : ¬ ∀ i ∈ targets, ts.active i = 0) :
    Awaited targets stays limit now departures
      ⟨false, limit.getD now, giveUp waits ts, departures⟩ where
  now_le := by
    cases limit with
    | none => exact Nat.le_refl _
    | some l => exact hlimit l rfl
  split := by
    refine ⟨[], rfl, nofun, ?_⟩
    intro d hd
    obtain ⟨l, rfl, hle⟩ := hlater d hd
    exact hle
  spent _ hlimit := by
    refine List.eq_nil_iff_forall_not_mem.mpr ?_
    intro d hd
    obtain ⟨l, hl, -⟩ := hlater d hd
    cases hlimit.symm.trans hl
  active i := (active_giveUp waits ts i).trans (hactive i)
  idle h := by cases h
  idle_iff := by
    refine iff_of_false nofun ?_
    intro hdue
    obtain ⟨d, hd, hwithin⟩ := hdue.exists_departure hactive hbusy
    obtain ⟨l, hl, hle⟩ := hlater d hd
    exact absurd (hwithin l hl) (Nat.not_lt.mpr hle)
  took_idle h := by cases h
  took_late _ l hl := by rw [hl]; rfl

/-- one departure that the call waits for -/
theorem Awaited.cons {d : Departure}
    (h : Awaited targets stays limit d.time departures o) (hnow : now ≤ d.time)
    (hactive : ∀ i, ts.active i = (d :: departures).countP (·.tracker = i) + stays i)
    (hfirst : ∀ d' ∈ departures, d.time ≤ d'.time) (hwithin : Within limit d.time)
    (hbusy : ¬ ∀ i ∈ targets, ts.active i = 0) :
    Awaited targets stays limit now (d :: departures) o where
  now_le := Nat.le_trans hnow h.now_le
  split := by
    obtain ⟨gone, rfl, hgone, hremaining⟩ := h.split
    refine ⟨d :: gone, rfl, ?_, hremaining⟩
    exact List.forall_mem_cons.mpr ⟨h.now_le, hgone⟩
  spent := h.spent
  active := h.active
  idle := h.idle
  idle_iff := h.idle_iff.trans (due_cons hwithin).symm
  took_idle hidle n _ := by
    by_cases hn : d.time ≤ n
    · rw [h.took_idle hidle n hn, due_cons hn]
    · -- before its next departure the call cannot be over, as somebody is not finished
      refine iff_of_false (fun hle => hn (Nat.le_trans h.now_le hle)) ?_
      intro hdue
      obtain ⟨d', hd', hle⟩ := hdue.exists_departure hactive hbusy
      rcases List.mem_cons.mp hd' with rfl | hd'
      · exact hn hle
      · exact hn (Nat.le_trans (hfirst d' hd') hle)
  took_late := h.took_late

/-- **One departure after the other** -/
theorem awaited_awaitAll (hsorted : departures.Pairwise fun d d' => d.time ≤ d'.time)
    (hnow : ∀ d ∈ departures, now ≤ d.time) (hlimit : ∀ l, limit = some l → now ≤ l)
    (hrests : ∀ w ∈ waits, w.Rests ts)
    (hactive : ∀ i, ts.active i = departures.countP (·.tracker = i) + stays i) :
    Awaited (waits.map (·.tracker)) stays limit now departures
      (awaitAll waits limit now ts departures) := by
  induction departures generalizing now ts with
  | nil =>
    unfold awaitAll
    by_cases hidle : ∀ i ∈ waits.map (·.tracker), ts.active i = 0
    · rw [if_pos ((all_isFinished hrests).mpr hidle)]
      exact awaited_idle hactive hnow hidle
    · rw [if_neg (mt (all_isFinished hrests).mp hidle)]
      exact awaited_late hactive hlimit nofun hidle
  | cons d departures ih =>
    obtain ⟨hfirst, hrest⟩ := List.pairwise_cons.mp hsorted
    unfold awaitAll
    by_cases hidle : ∀ i ∈ waits.map (·.tracker), ts.active i = 0
    · rw [if_pos ((all_isFinished hrests).mpr hidle)]
      exact awaited_idle hactive hnow hidle
    rw [if_neg (mt (all_isFinished hrests).mp hidle)]
    by_cases hstop : limit.any (· ≤ d.time) = true
    · rw [if_pos hstop]
      obtain ⟨l, hl, hle⟩ := any_le_iff.mp hstop
      refine awaited_late hactive hlimit ?_ hidle
      intro d' hd'
      rcases List.mem_cons.mp hd' with rfl | hd'
      · exact ⟨l, hl, hle⟩
      · exact ⟨l, hl, Nat.le_trans hle (hfirst d' hd')⟩
    · rw [if_neg hstop]
      have hwithin : Within limit d.time := by
        intro l hl
        by_contra hover
        exact hstop (any_le_iff.mpr ⟨l, hl, Nat.le_of_not_lt hover⟩)
      have hactive' (i : Nat) : (ts.depart d).active i =
          departures.countP (·.tracker = i) + stays i := by
        rw [Trackers.active_depart, hactive, List.countP_cons]
        by_cases hi : d.tracker = i
        · simp only [hi, decide_true, if_true]
          omega
        · simp only [hi, decide_false, if_false, Bool.false_eq_true]
          omega
      have hlater := ih hrest hfirst (fun l hl => Nat.le_of_lt (hwithin l hl))
        (fun w hw => (hrests w hw).depart d) hactive'
      exact hlater.cons (hnow d List.mem_cons_self) hactive hfirst hwithin hidle

/-! ## whole calls -/

theorem perm_byTime (departures : List Departure) : (byTime departures).Perm departures :=
  List.mergeSort_perm _ _

theorem sorted_byTime (departures : List Departure) :
    (byTime departures).Pairwise fun d d' => d.time ≤ d'.time :=
  (List.pairwise_mergeSort (by simp only [decide_eq_true_eq]; omega)
    (by simp only [Bool.or_eq_true, decide_eq_true_eq]; omega) _).imp of_decide_eq_true

/-- **A call** that waits for some trackers from its start. -/
theorem awaited_waitIdle (htargets : ∀ i ∈ targets, ∃ t, ts[i]? = some t)
    (hactive : ∀ i, ts.active i = departures.countP (·.tracker = i) + stays i) :
    Awaited targets stays limit 0 (byTime departures)
      (waitIdle targets limit departures ts) := by
  obtain ⟨htrackers, hsame, -, hstarts⟩ := joinAll_starts targets htargets
  have hcount (i : Nat) : (joinAll ts targets).1.settle.active i =
      (byTime departures).countP (·.tracker = i) + stays i := by
    rw [(perm_byTime departures).countP_eq, Trackers.active_settle, hsame, hactive]
  have hawaited : Awaited _ stays limit 0 (byTime departures)
      (waitIdle targets limit departures ts) :=
    awaited_awaitAll (sorted_byTime departures) (fun d _ => Nat.zero_le d.time)
      (fun l _ => Nat.zero_le l) (fun w hw => (hstarts w hw).settle) hcount
  rwa [htrackers] at hawaited

/-- what has nothing in flight need not be waited for -/
theorem due_filter (hactive : ∀ i, ts.active i = departures.countP (·.tracker = i) + stays i) :
    Due (targets.filter fun i => ts.active i ≠ 0) stays departures P ↔
      Due targets stays departures P := by
  constructor
  · intro h i hi
    by_cases hidle : ts.active i = 0
    · have hdue : Due [i] stays departures P := due_of_idle hactive (by simpa using hidle)
      exact hdue i List.mem_cons_self
    · exact h i (List.mem_filter.mpr ⟨hi, decide_eq_true hidle⟩)
  · intro h i hi
    exact h i (List.mem_filter.mp hi).1

/-- **A drain**, which only waits for what has something in flight at its start. -/
theorem awaited_drainIdle {l : Nat}
    (hactive : ∀ i, ts.active i = departures.countP (·.tracker = i) + stays i) :
    Awaited targets stays (some l) 0 (byTime departures)
      (drainIdle targets l departures ts) := by
  have hthere : ∀ i ∈ targets.filter fun i => ts.active i ≠ 0, ∃ t, ts[i]? = some t := by
    intro i hi
    cases ht : ts[i]? with
    | some t => exact ⟨t, rfl⟩
    | none =>
      have hbusy : ts.active i ≠ 0 := of_decide_eq_true (List.mem_filter.mp hi).2
      refine absurd ?_ hbusy
      unfold Trackers.active
      rw [ht]
      rfl
  have hsorted (i : Nat) : ts.active i = (byTime departures).countP (·.tracker = i) + stays i := by
    rw [(perm_byTime departures).countP_eq, hactive]
  have h : Awaited _ stays (some l) 0 (byTime departures) (drainIdle targets l departures ts) :=
    awaited_waitIdle hthere hactive
  exact {
    h with
    idle := by
      intro hidle i hi
      by_cases hbusy : ts.active i = 0
      · -- it had nothing in flight at the start, so nothing of it is left
        obtain ⟨gone, hsplit, -⟩ := h.split
        rw [hsorted, hsplit, List.countP_append] at hbusy
        exact (h.active i).trans (by omega)
      · exact h.idle hidle i (List.mem_filter.mpr ⟨hi, decide_eq_true hbusy⟩)
    idle_iff := h.idle_iff.trans (due_filter hsorted)
    took_idle := fun hidle n hn => (h.took_idle hidle n hn).trans (due_filter hsorted) }

end
end Succession
