import Mathlib.Data.List.Count
import Mathlib.Order.Basic
import Succession.Proofs.Drain.Lasting
import Succession.Proofs.Listener.Places

/-!
# The end of a drain

A call that waits for some listeners, while no connection comes, ends when the last of their
connections goes; a call with a limit ends at its limit if one of them is still in flight then. The
connections that are in flight at its end are those that have not gone by then.

* `Lapse`               how such a call ends;
* `Awaited.lapse`       the end of a wait, told from the connections;
* `Pool.Counted`        every listener has a tracker, whatever is done to the pool;
* `Pool.drain_lapses`   drains and waits, of a pool and of one listener.
-/

namespace Succession

variable {targets : List ListenerId} {connections : List Connection} {limit : Option Nat}
  {o : WaitOutcome} {n : Nat}

/-! ## connections that have gone -/

def Connection.goneBy (c : Connection) (n : Nat) : Bool := c.gone.any (· ≤ n)

/-- when the last connection of these listeners goes, of those that do -/
def lastGone (targets : List ListenerId) (connections : List Connection) : Nat :=
  ((connections.filter fun c => c.listener ∈ targets).filterMap (·.gone)).foldr max 0

theorem lastGone_le : lastGone targets connections ≤ n ↔
    ∀ c ∈ connections, c.listener ∈ targets → ∀ t, c.gone = some t → t ≤ n := by
  unfold lastGone
  rw [Pool.foldr_max_le]
  constructor
  · intro hle c hc htarget t ht
    have hmem : c ∈ connections.filter fun c => c.listener ∈ targets :=
      List.mem_filter.mpr ⟨hc, decide_eq_true htarget⟩
    exact hle t (List.mem_filterMap.mpr ⟨c, hmem, ht⟩)
  · intro hle t hmem
    obtain ⟨c, hc, ht⟩ := List.mem_filterMap.mp hmem
    obtain ⟨hc, htarget⟩ := List.mem_filter.mp hc
    exact hle c hc (of_decide_eq_true htarget) t ht

theorem all_lt_eq_not_goneBy (c : Connection) (n : Nat) :
    c.gone.all (n < ·) = !c.goneBy n := by
  unfold Connection.goneBy
  cases c.gone with
  | none => rfl
  | some t =>
    show decide (n < t) = !decide (t ≤ n)
    rw [← decide_not]
    exact decide_eq_decide.mpr Nat.not_le.symm

/-! ## the end of a call -/

/-- the end of a call that waits for the connections of some listeners -/
structure Lapse (targets : List ListenerId) (limit : Option Nat) (connections : List Connection)
    (o : WaitOutcome) : Prop where
  idle_iff : o.idle = true ↔ ∀ c ∈ connections, c.listener ∈ targets →
    ∃ t, c.gone = some t ∧ Within limit t
  took_idle : o.idle = true → o.took = lastGone targets connections
  took_late : o.idle = false → ∀ l, limit = some l → o.took = l
  /-- some have gone by then, and the others remain -/
  split : ∃ gone, byTime (departuresOf connections) = gone ++ o.remaining ∧
    (∀ d ∈ gone, d.time ≤ o.took) ∧ ∀ d ∈ o.remaining, o.took ≤ d.time
  /-- what is in flight is what remains, and what never goes -/
  left : ∀ id, o.trackers.active id =
    o.remaining.countP (·.tracker = id) + staying connections id
  /-- another listener's connection that goes in the very millisecond in which the call returns may
  do so before or after -/
  inFlight : ∀ id, (id ∈ targets ∨ ∀ c ∈ connections, c.listener = id → c.gone ≠ some o.took) →
    o.trackers.active id = connections.countP fun c => c.listener = id ∧ ¬ c.goneBy o.took

section
variable (h : Awaited targets (staying connections) limit 0 (byTime (departuresOf connections)) o)
include h

/-- nothing that the call waits for is left to go in the millisecond in which it returns -/
theorem Awaited.ne_took {id : ListenerId}
    (hlimit : ∀ l, limit = some l → ∀ c ∈ connections, c.gone ≠ some l)
    (hid : id ∈ targets ∨ ∀ c ∈ connections, c.listener = id → c.gone ≠ some o.took) :
    ∀ d ∈ o.remaining, d.tracker = id → d.time ≠ o.took := by
  intro d hd htracker htime
  obtain ⟨gone, hsplit, -⟩ := h.split
  have hmem : d ∈ byTime (departuresOf connections) :=
    hsplit ▸ List.mem_append_right gone hd
  obtain ⟨c, hc, hdeparts⟩ := List.mem_filterMap.mp ((perm_byTime _).mem_iff.mp hmem)
  obtain ⟨t, ht, rfl⟩ := Option.map_eq_some_iff.mp hdeparts
  rw [show t = o.took from htime] at ht
  rcases hid with htarget | hother
  · cases hidle : o.idle with
    | true =>
      have hnone := h.idle hidle id htarget
      rw [h.active, Nat.add_eq_zero_iff, List.countP_eq_zero] at hnone
      exact hnone.1 _ hd (decide_eq_true htracker)
    | false =>
      cases hl : limit with
      | none => exact List.not_mem_nil (h.spent hidle hl ▸ hd)
      | some l =>
        rw [h.took_late hidle l hl] at ht
        exact hlimit l hl c hc ht
  · exact hother c hc htracker ht

/-- **The end of a wait**, told from the connections. -/
theorem Awaited.lapse (hlimit : ∀ l, limit = some l → ∀ c ∈ connections, c.gone ≠ some l) :
    Lapse targets limit connections o where
  idle_iff := h.idle_iff.trans due_departuresOf
  took_idle hidle := by
    refine eq_of_forall_ge_iff fun n => ?_
    rw [h.took_idle hidle n (Nat.zero_le n), due_departuresOf, lastGone_le]
    have hgone := due_departuresOf.mp (h.idle_iff.mp hidle)
    refine forall₃_congr fun c hc htarget => ?_
    obtain ⟨t, ht, -⟩ := hgone c hc htarget
    simp [ht]
  took_late := h.took_late
  split := h.split
  left := h.active
  inFlight id hid := by
    obtain ⟨gone, hsplit, hgone, hremaining⟩ := h.split
    have hlater : o.remaining.countP (·.tracker = id) =
        (departuresOf connections).countP fun d => d.tracker = id ∧ decide (o.took < d.time) := by
      rw [← (perm_byTime (departuresOf connections)).countP_eq, hsplit, List.countP_append]
      have hnone : gone.countP (fun d => d.tracker = id ∧ decide (o.took < d.time)) = 0 := by
        refine List.countP_eq_zero.mpr fun d hd hboth => ?_
        have hlt := of_decide_eq_true (of_decide_eq_true hboth).2
        exact absurd (hgone d hd) (Nat.not_le.mpr hlt)
      rw [hnone, Nat.zero_add]
      refine List.countP_congr fun d hd => ?_
      simp only [decide_eq_true_eq]
      refine ⟨fun htracker => ⟨htracker, ?_⟩, And.left⟩
      exact Nat.lt_of_le_of_ne (hremaining d hd) (h.ne_took hlimit hid d hd htracker).symm
    rw [h.active, hlater, countP_departuresOf connections id fun t => decide (o.took < t)]
    refine List.countP_congr fun c _ => ?_
    rw [all_lt_eq_not_goneBy]
    simp

end

/-! ## pools -/

section
variable {ts : Trackers} {waits : List Wait} {departures : List Departure} {now : Nat}

theorem length_depart (ts : Trackers) (d : Departure) : (ts.depart d).length = ts.length :=
  (List.length_map _).trans (List.length_modify Tracker.drop ts d.tracker)

theorem length_giveUp (waits : List Wait) (ts : Trackers) :
    (giveUp waits ts).length = ts.length := by
  unfold giveUp
  induction waits generalizing ts with
  | nil => rfl
  | cons w waits ih => exact (ih (w.abandon ts)).trans (List.length_modify _ ts w.tracker)

theorem length_joinAll (targets : List Nat) (ts : Trackers) :
    (joinAll ts targets).1.length = ts.length := by
  induction targets generalizing ts with
  | nil => rfl
  | cons i targets ih => exact (ih (joinOne ts i).1).trans List.length_set

theorem length_awaitAll :
    (awaitAll waits limit now ts departures).trackers.length = ts.length := by
  induction departures generalizing now ts with
  | nil =>
    unfold awaitAll
    split
    · rfl
    · exact length_giveUp waits ts
  | cons d departures ih =>
    unfold awaitAll
    split
    · rfl
    · split
      · exact length_giveUp waits ts
      · exact ih.trans (length_depart ts d)

theorem length_waitIdle (targets : List Nat) (departures : List Departure) :
    (waitIdle targets limit departures ts).trackers.length = ts.length :=
  length_awaitAll.trans ((List.length_map _).trans (length_joinAll targets ts))

end

namespace Pool

variable {p : Pool}

structure Counted (p : Pool) : Prop where
  tidy : p.Tidy
  trackers : p.trackers.length = p.listeners.length

theorem counted_empty : empty.Counted := ⟨tidy_empty, rfl⟩

theorem trackers_closeAll (p : Pool) : p.closeAll.trackers = p.trackers :=
  (foldl_closeOne p.snapshot p).1

theorem length_trackers_did (p : Pool) (deed : Deed) :
    (p.did deed).trackers.length = p.trackers.length + match deed with
      | .add _ => 1
      | _ => 0 := by
  cases deed with
  | add socket => exact List.length_append
  | remove address =>
    show (p.remove address).2.trackers.length = _
    unfold Pool.remove
    split
    · rfl
    · exact congrArg List.length (trackers_closeOne p _)
  | closeAll => exact congrArg List.length (trackers_closeAll p)
  | closeOne id => exact congrArg List.length (trackers_closeOne p id)
  | enter id => exact List.length_modify Tracker.enter p.trackers id
  | leave id => exact (List.length_map _).trans (List.length_modify Tracker.drop p.trackers id)
  | get | snapshot => rfl

theorem Counted.did (hp : p.Counted) (deed : Deed) : (p.did deed).Counted := by
  refine ⟨hp.tidy.did deed, ?_⟩
  have htrackers := length_trackers_did p deed
  have hlisteners := listeners_did p deed
  rw [hp.trackers] at htrackers
  cases deed <;> exact htrackers.trans hlisteners.symm

theorem Counted.run (hp : p.Counted) (deeds : List Deed) : (p.run deeds).Counted := by
  induction deeds generalizing p with
  | nil => exact hp
  | cons deed deeds ih => exact ih (hp.did deed)

theorem Counted.of_length (hp : p.Counted) {trackers : Trackers}
    (hlength : trackers.length = p.trackers.length) : Counted { p with trackers } :=
  ⟨⟨hp.tidy.sound, hp.tidy.nodup⟩, hlength.trans hp.trackers⟩

/-- a pool is as good after a call as before it -/
theorem Counted.waitIdle (hp : p.Counted) (targets : List ListenerId)
    (departures : List Departure) : Counted { p with
      trackers := (Succession.waitIdle targets limit departures p.trackers).trackers } :=
  hp.of_length (length_waitIdle targets departures)

theorem Counted.exists_tracker (hp : p.Counted) {id : ListenerId} (hid : id ∈ p.snapshot) :
    ∃ t, p.trackers[id]? = some t := by
  have hlt : id < p.trackers.length := hp.trackers ▸ hp.tidy.sound id hid
  exact ⟨_, List.getElem?_eq_getElem hlt⟩

/-- **Drains and waits**, of a pool and of one listener, end with the last departure of a connection
that they wait for; a drain ends at its limit if one is still in flight then. Whatever has not gone
by then is still counted. -/
theorem drain_lapses {limit : Nat} (hp : p.Counted) (hserves : p.Serves connections)
    (hlimit : ∀ c ∈ connections, c.gone ≠ some limit) :
    Lapse p.snapshot (some limit) connections (p.drain limit (departuresOf connections)) ∧
    Lapse p.snapshot none connections (p.waitIdle none (departuresOf connections)) ∧
    ∀ id < p.listeners.length,
      Lapse [id] (some limit) connections
        (drainIdle [id] limit (departuresOf connections) p.trackers) ∧
      Lapse [id] none connections
        (Succession.waitIdle [id] none (departuresOf connections) p.trackers) := by
  have hsome (l : Nat) (hl : some limit = some l) : ∀ c ∈ connections, c.gone ≠ some l :=
    Option.some.inj hl ▸ hlimit
  refine ⟨?_, ?_, ?_⟩
  · exact (awaited_drainIdle hserves.active).lapse hsome
  · exact (awaited_waitIdle (fun id hid => hp.exists_tracker hid) hserves.active).lapse nofun
  · intro id hid
    have hthere : ∀ i ∈ [id], ∃ t, p.trackers[i]? = some t := by
      intro i hi
      rw [List.mem_singleton.mp hi]
      exact ⟨_, List.getElem?_eq_getElem (hp.trackers ▸ hid)⟩
    constructor
    · exact (awaited_drainIdle hserves.active).lapse hsome
    · exact (awaited_waitIdle hthere hserves.active).lapse nofun

/-! ## two listeners, and one that has left -/

namespace Ebb

/-- the third listener was removed, but a connection of it is in flight -/
def pool : Pool := empty.run [.add ⟨0, "a"⟩, .add ⟨1, "b"⟩, .add ⟨2, "c"⟩, .enter 0, .enter 0,
  .enter 1, .enter 2, .remove "c"]

def crowd : List Connection := [⟨0, some 0⟩, ⟨0, some 5⟩, ⟨1, some 7⟩, ⟨2, none⟩]

theorem serves : pool.Serves crowd
  | 0 | 1 | 2 => rfl
  | id + 3 => by
    have hnone : crowd.countP (fun c => decide (c.listener = id + 3)) = 0 := by
      simp [crowd]
    rw [hnone]
    rfl

end Ebb

/-- the second listener's connection goes after seven milliseconds, before a limit of ten and after
one of six -/
theorem drain_lapses_ebb :
    Ebb.pool.Counted ∧ Ebb.pool.Serves Ebb.crowd ∧
    (∀ c ∈ Ebb.crowd, c.gone ≠ some 10) ∧ (∀ c ∈ Ebb.crowd, c.gone ≠ some 6) ∧
    (let long := Ebb.pool.drain 10 (departuresOf Ebb.crowd)
    long.idle = true ∧ long.took = 7 ∧ long.trackers.active 1 = 0 ∧ long.trackers.active 2 = 1) ∧
    (let short := Ebb.pool.drain 6 (departuresOf Ebb.crowd)
    short.idle = false ∧ short.took = 6 ∧ short.trackers.active 0 = 0 ∧
      short.trackers.active 1 = 1) ∧
    0 < Ebb.pool.listeners.length ∧
    (let one := Succession.waitIdle [0] none (departuresOf Ebb.crowd) Ebb.pool.trackers
    one.idle = true ∧ one.took = 5) := by
  have hcounted : Ebb.pool.Counted := counted_empty.run _
  have hten : ∀ c ∈ Ebb.crowd, c.gone ≠ some 10 := by decide
  have hsix : ∀ c ∈ Ebb.crowd, c.gone ≠ some 6 := by decide
  obtain ⟨hlong, -, hone⟩ := drain_lapses hcounted Ebb.serves hten
  obtain ⟨-, hwait⟩ := hone 0 (by decide)
  obtain ⟨hshort, -⟩ := drain_lapses hcounted Ebb.serves hsix
  have hgone : ∀ c ∈ Ebb.crowd, c.listener ∈ Ebb.pool.snapshot →
      ∃ t, c.gone = some t ∧ t < 10 := by
    intro c hc htarget
    simp only [Ebb.crowd, List.mem_cons, List.not_mem_nil, or_false] at hc
    rcases hc with rfl | rfl | rfl | rfl
    · exact ⟨0, rfl, by decide⟩
    · exact ⟨5, rfl, by decide⟩
    · exact ⟨7, rfl, by decide⟩
    · exact absurd htarget (by decide)
  have hidle : (Ebb.pool.drain 10 (departuresOf Ebb.crowd)).idle = true := by
    refine hlong.idle_iff.mpr fun c hc htarget => ?_
    obtain ⟨t, ht, hlt⟩ := hgone c hc htarget
    exact ⟨t, ht, fun l hl => Option.some.inj hl ▸ hlt⟩
  have hfirst : (Succession.waitIdle [0] none (departuresOf Ebb.crowd) Ebb.pool.trackers).idle =
      true := by
    refine hwait.idle_iff.mpr fun c hc htarget => ?_
    rw [List.mem_singleton] at htarget
    obtain ⟨t, ht, -⟩ := hgone c hc (htarget ▸ by decide)
    exact ⟨t, ht, nofun⟩
  have hlate : (Ebb.pool.drain 6 (departuresOf Ebb.crowd)).idle = false := by
    by_contra hidle
    have hgone := hshort.idle_iff.mp (by simpa using hidle) ⟨1, some 7⟩ (by decide) (by decide)
    obtain ⟨t, ht, hwithin⟩ := hgone
    obtain rfl := Option.some.inj ht
    exact absurd (hwithin 6 rfl) (by decide)
  have htook := hlong.took_idle hidle
  have hshortTook := hshort.took_late hlate 6 rfl
  refine ⟨hcounted, Ebb.serves, hten, hsix, ⟨hidle, htook, ?_, ?_⟩,
    ⟨hlate, hshortTook, ?_, ?_⟩, by decide, hfirst, hwait.took_idle hfirst⟩
  · rw [hlong.inFlight 1 (.inl (by decide)), htook]
    decide
  · rw [hlong.inFlight 2 (.inr (by rw [htook]; decide)), htook]
    decide
  · rw [hshort.inFlight 0 (.inl (by decide)), hshortTook]
    decide
  · rw [hshort.inFlight 1 (.inl (by decide)), hshortTook]
    decide

end Pool
end Succession
