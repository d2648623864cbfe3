import Mathlib.Data.List.Count
import Mathlib.Data.Nat.Basic
import Mathlib.Order.MinMax
import Succession.Daemon.Shutdown
import Succession.Proofs.Drain.Resting
import Succession.Proofs.Listener.Pool

/-!
# How long a drain lasts

A drain returns with the last departure from a registered listener, or at its limit if that comes
first. So the end of a server can be told from its connections in flight.

* `Connection`, `Pool.Serves`, `Pool.lastsFor`   connections in flight, and what they come to;
* `Pool.drain_took`        how long a drain lasts;
* `Pool.closeAndDrain_eq`  the graceful end of a server.
-/

namespace Succession

/-! ## connections in flight -/

structure Connection where
  listener : ListenerId
  /-- the milliseconds from the beginning of the end until it goes, unless it never does -/
  gone : Option Nat
deriving DecidableEq, Repr

def Connection.departure? (c : Connection) : Option Departure :=
  c.gone.map fun time => ⟨time, c.listener⟩

def departuresOf (connections : List Connection) : List Departure :=
  connections.filterMap Connection.departure?

/-- how many connections of a listener never go -/
def staying (connections : List Connection) (id : ListenerId) : Nat :=
  connections.countP fun c => c.listener = id ∧ c.gone = none

/-- the departures of a listener at such times, and what stays of it -/
theorem countP_departuresOf (connections : List Connection) (id : ListenerId) (P : Nat → Bool) :
    (departuresOf connections).countP (fun d => d.tracker = id ∧ P d.time) +
        staying connections id =
      connections.countP fun c => c.listener = id ∧ c.gone.all P := by
  unfold departuresOf staying
  induction connections with
  | nil => rfl
  | cons c connections ih =>
    obtain ⟨listener, gone⟩ := c
    rw [List.countP_cons, List.countP_cons, ← ih]
    cases gone with
    | none =>
      rw [List.filterMap_cons_none rfl]
      simp only [and_true, Option.all_none]
      omega
    | some time =>
      show (⟨time, listener⟩ :: connections.filterMap Connection.departure?).countP _ + _ = _
      rw [List.countP_cons]
      simp only [reduceCtorEq, and_false, decide_false, Bool.false_eq_true, if_false,
        Option.all_some]
      omega

/-- what is in flight at some listeners goes when their connections do -/
theorem due_departuresOf {connections : List Connection} {targets : List ListenerId}
    {P : Nat → Prop} :
    Due targets (staying connections) (byTime (departuresOf connections)) P ↔
      ∀ c ∈ connections, c.listener ∈ targets → ∃ t, c.gone = some t ∧ P t := by
  have hmem (d : Departure) : d ∈ byTime (departuresOf connections) ↔
      ∃ c ∈ connections, c.departure? = some d := by
    rw [(perm_byTime _).mem_iff]
    exact List.mem_filterMap
  constructor
  · intro hdue c hc htarget
    obtain ⟨hnone, hgone⟩ := hdue c.listener htarget
    cases hg : c.gone with
    | none => exact absurd (decide_eq_true ⟨rfl, hg⟩) (List.countP_eq_zero.mp hnone c hc)
    | some t =>
      have hdeparts : ⟨t, c.listener⟩ ∈ byTime (departuresOf connections) := by
        refine (hmem _).mpr ⟨c, hc, ?_⟩
        unfold Connection.departure?
        rw [hg]
        rfl
      exact ⟨t, rfl, hgone _ hdeparts rfl⟩
  · intro hgone id hid
    constructor
    · refine List.countP_eq_zero.mpr fun c hc hstays => ?_
      obtain ⟨hlistener, hnone⟩ := of_decide_eq_true hstays
      obtain ⟨t, ht, -⟩ := hgone c hc (hlistener ▸ hid)
      cases hnone.symm.trans ht
    · intro d hd htracker
      obtain ⟨c, hc, hdeparts⟩ := (hmem d).mp hd
      obtain ⟨t, ht, rfl⟩ := Option.map_eq_some_iff.mp hdeparts
      obtain ⟨t', ht', hP⟩ := hgone c hc (by rw [show c.listener = id from htracker]; exact hid)
      obtain rfl : t = t' := Option.some.inj (ht.symm.trans ht')
      exact hP

namespace Pool

variable {p : Pool} {connections : List Connection} {limit n : Nat}

def Serves (p : Pool) (connections : List Connection) : Prop :=
  ∀ id, p.inFlight id = connections.countP (·.listener = id)

/-- the milliseconds until the last connection of a registered listener has gone, and `limit` of
them at most -/
def lastsFor (p : Pool) (limit : Nat) (connections : List Connection) : Nat :=
  let pooled := connections.filter fun c => c.listener ∈ p.snapshot
  if pooled.all (·.gone.isSome) then min limit ((pooled.filterMap (·.gone)).foldr max 0) else limit

theorem foldr_max_le (times : List Nat) : times.foldr max 0 ≤ n ↔ ∀ t ∈ times, t ≤ n := by
  induction times with
  | nil => exact iff_of_true (Nat.zero_le n) nofun
  | cons t times ih =>
    rw [List.foldr_cons, Nat.max_le, ih, List.forall_mem_cons]

theorem lastsFor_le : p.lastsFor limit connections ≤ n ↔
    limit ≤ n ∨ ∀ c ∈ connections, c.listener ∈ p.snapshot → ∃ t, c.gone = some t ∧ t ≤ n := by
  unfold lastsFor
  dsimp only
  split
  · next hall =>
    rw [min_le_iff, foldr_max_le]
    refine or_congr_right ⟨fun hle c hc hpooled => ?_, fun hle t ht => ?_⟩
    · have hmem : c ∈ connections.filter fun c => c.listener ∈ p.snapshot :=
        List.mem_filter.mpr ⟨hc, decide_eq_true hpooled⟩
      obtain ⟨t, ht⟩ := Option.isSome_iff_exists.mp (List.all_eq_true.mp hall c hmem)
      exact ⟨t, ht, hle t (List.mem_filterMap.mpr ⟨c, hmem, ht⟩)⟩
    · obtain ⟨c, hmem, hgone⟩ := List.mem_filterMap.mp ht
      obtain ⟨hc, hpooled⟩ := List.mem_filter.mp hmem
      obtain ⟨t', hgone', hle'⟩ := hle c hc (of_decide_eq_true hpooled)
      obtain rfl : t = t' := Option.some.inj (hgone.symm.trans hgone')
      exact hle'
  · next hall =>
    refine ⟨.inl, ?_⟩
    rintro (hle | hgone)
    · exact hle
    · refine absurd (List.all_eq_true.mpr fun c hmem => ?_) hall
      obtain ⟨hc, hpooled⟩ := List.mem_filter.mp hmem
      obtain ⟨t, ht, -⟩ := hgone c hc (of_decide_eq_true hpooled)
      rw [ht]
      rfl

theorem Serves.active (hserves : p.Serves connections) (id : ListenerId) :
    p.trackers.active id =
      (departuresOf connections).countP (·.tracker = id) + staying connections id := by
  have hall := countP_departuresOf connections id fun _ => true
  have hany (gone : Option Nat) : gone.all (fun _ => true) = true := by cases gone <;> rfl
  simp only [hany, and_true] at hall
  exact (hserves id).trans hall.symm

/-- **A drain** lasts until the last connection of a registered listener has gone, and up to its
limit. -/
theorem drain_took (hserves : p.Serves connections) (limit : Nat) :
    (p.drain limit (departuresOf connections)).took = p.lastsFor limit connections := by
  have hawaited : Awaited p.snapshot (staying connections) (some limit) 0
      (byTime (departuresOf connections)) (p.drain limit (departuresOf connections)) :=
    awaited_drainIdle hserves.active
  refine eq_of_forall_ge_iff fun n => ?_
  rw [lastsFor_le, ← due_departuresOf]
  exact hawaited.took_le_iff (Nat.zero_le n)

/-! ## the graceful end of a server -/

theorem foldl_closeOne (ids : List ListenerId) (p : Pool) :
    let closed := ids.foldl (fun p id => (p.closeOne id).2) p
    closed.trackers = p.trackers ∧ closed.slots = p.slots ∧
      ∀ id, p.isClosed id = true ∨ id ∈ ids ∧ id < p.listeners.length →
        closed.isClosed id = true := by
  induction ids generalizing p with
  | nil => exact ⟨rfl, rfl, fun id h => h.resolve_right fun h => nomatch h.1⟩
  | cons next ids ih =>
    obtain ⟨htrackers, hslots, hclosed⟩ := ih (p.closeOne next).2
    refine ⟨htrackers.trans (p.trackers_closeOne next), hslots.trans (p.slots_closeOne next),
      fun id h => hclosed id ?_⟩
    rw [listeners_closeOne, isClosed_closeOne]
    obtain h | ⟨hmem, hlt⟩ := h
    · simp [h]
    · obtain rfl | hmem := List.mem_cons.mp hmem
      · have hmade : (p.listener? id).isSome = true := by
          rw [show p.listener? id = some _ from List.getElem?_eq_getElem hlt]
          rfl
        simp [hmade]
      · exact .inr ⟨hmem, hlt⟩

/-- **The graceful end of a server** closes every registered listener, and lasts as long as their
connections do. -/
theorem closeAndDrain_eq (hserves : p.Serves connections) (limit : Duration) :
    p.closeAndDrain limit (departuresOf connections) =
      (.after (p.lastsFor limit.timerMillis connections), p.closeAll) := by
  obtain ⟨htrackers, hslots, -⟩ := foldl_closeOne p.snapshot p
  have hdrain (departures : List Departure) :
      p.closeAll.drain limit.timerMillis departures = p.drain limit.timerMillis departures := by
    unfold drain snapshot closeAll
    rw [htrackers, hslots]
  unfold closeAndDrain
  rw [hdrain, drain_took hserves]

theorem Sound.isClosed_closeAll (hp : p.Sound) {id : ListenerId} (hid : id ∈ p.snapshot) :
    p.closeAll.isClosed id = true :=
  (foldl_closeOne p.snapshot p).2.2 id (.inr ⟨hid, hp id hid⟩)

end Pool
end Succession
