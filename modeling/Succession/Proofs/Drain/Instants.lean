import Mathlib.Logic.Relation
import Succession.Proofs.Drain.Clocked

/-!
# What a successful drain tells

A call that has returned has found each of its listeners idle, but each at an instant of its own.
So a connection that is still in flight when a drain returns was accepted after that instant, or
through a listener that was not registered when the drain began.

* `IdleBetween`         nothing is in flight on a listener at some time between two scenes;
* `Step.founded`        one step: a call is done with a listener for no other reason;
* `Reaches.founded`     whole runs;
* `Reaches.come_since`  who is in flight has come since nothing was;
* `idle_once`           what is in flight when a call returns;
* `returns_past_straggler`, `drains_past_removed`   connections that a call does not wait for.
-/

namespace Succession.Scene

variable {s s' s₀ : Scene} {id : ListenerId} {stand : Stand}

/-! ## why a call is done with a listener -/

/-- at some time between these scenes nothing is in flight on the listener -/
def IdleBetween (s₀ s : Scene) (id : ListenerId) : Prop :=
  ∃ u, Reaches s₀ u ∧ Reaches u s ∧ u.pool.inFlight id = 0

theorem IdleBetween.tail (h : IdleBetween s₀ s id) (hstep : Step s s') : IdleBetween s₀ s' id := by
  obtain ⟨u, hu, hrest, hidle⟩ := h
  exact ⟨u, hu, hrest.tail hstep, hidle⟩

/-- the call has a reason to be done with the listener, or to be about to -/
def Founded (s₀ s : Scene) (e : ListenerId × Stand) : Prop :=
  match e.2 with
  | .passed => IdleBetween s₀ s e.1
  | .waiting waiter => (s.tracked e.1).waiter? waiter = some .finished → IdleBetween s₀ s e.1
  | _ => True

/-- a step that leaves the listener of a call alone -/
theorem Step.founded_of_mem {e : ListenerId × Stand} (hreach : Reaches s₀ s) (h : Step s s')
    (he : Founded s₀ s e) : Founded s₀ s' e := by
  obtain ⟨id, stand⟩ := e
  cases stand with
  | passed => exact IdleBetween.tail he h
  | waiting waiter =>
    intro hfinished
    by_cases hbefore : (s.tracked id).waiter? waiter = some .finished
    · exact (he hbefore).tail h
    · -- it has finished in this step, so it has just read a count of zero
      rcases h.tracked id with hsame | hstep
      · rw [hsame] at hfinished
        exact absurd hfinished hbefore
      · obtain ⟨-, hzero, -⟩ := hstep.finishes hbefore hfinished
        exact ⟨s, hreach, .single h, hzero⟩
  | looking | joining | late => trivial

/-- **One step**: the call is done with a listener for no other reason. -/
theorem Step.founded (hreach : Reaches s₀ s) (h : Step s s')
    (hs : ∀ e ∈ s.call, Founded s₀ s e) : ∀ e ∈ s'.call, Founded s₀ s' e := by
  have hsame (e : ListenerId × Stand) (he : e ∈ s.call) : Founded s₀ s' e :=
    h.founded_of_mem hreach (hs e he)
  have hnext : Reaches s s' := .single h
  cases h with
  | pool => exact hsame
  | connection => exact hsame
  | @call k id stand stand' t hid hk hstand =>
    intro e he
    rcases List.mem_or_eq_of_mem_set he with he | rfl
    · exact hsame e he
    · cases hstand with
      | idle hidle => exact ⟨s, hreach, hnext, hidle⟩
      | join =>
        -- it waits for the first time, and has not read the count yet
        intro hfinished
        let joined : Tracked := ⟨(s.tracked id).tracker.join.2, s.guards id⟩
        have hstarting : ((s.moved id joined).tracked id).waiter?
            (s.tracked id).tracker.join.1 = some .starting := by
          rw [tracked_moved hid, if_pos rfl]
          exact List.getElem?_concat_length
        cases hstarting.symm.trans hfinished
      | woken hfinished =>
        obtain ⟨u, hu, hrest, hidle⟩ := hs _ (List.mem_of_getElem? hk) (beq_iff_eq.mp hfinished)
        exact ⟨u, hu, hrest.trans hnext, hidle⟩
      | busy | late => trivial

/-- **Whole runs** -/
theorem Reaches.founded (h : Reaches s₀ s) (hs : ∀ e ∈ s₀.call, Founded s₀ s₀ e) :
    ∀ e ∈ s.call, Founded s₀ s e := by
  induction h with
  | refl => exact hs
  | tail hreach hstep ih => exact hstep.founded hreach ih

theorem Step.listeners (h : Step s s') : s'.call.map (·.1) = s.call.map (·.1) := by
  cases h with
  | pool | connection => rfl
  | @call k id stand stand' t hid hk hstand =>
    have hsame : (s.call.map (·.1))[k]? = some id := by
      rw [List.getElem?_map, hk]
      rfl
    obtain ⟨hlt, he⟩ := List.getElem?_eq_some_iff.mp hsame
    show (s.call.set k (id, stand')).map (·.1) = _
    rw [List.map_set, ← he]
    exact List.set_getElem_self hlt

theorem Reaches.listeners (h : Reaches s s') : s'.call.map (·.1) = s.call.map (·.1) := by
  induction h with
  | refl => rfl
  | tail _ hstep ih => exact hstep.listeners.trans ih

/-- a call that has returned is done with every listener that was registered when it began -/
theorem Reaches.passed_mem (h : Reaches (s₀.begun stand) s) (hreturned : s.Returned)
    (hid : id ∈ s₀.pool.snapshot) : (id, .passed) ∈ s.call := by
  have hmem : id ∈ s.call.map (·.1) := by
    rw [h.listeners]
    show id ∈ (s₀.pool.snapshot.map (·, stand)).map (·.1)
    rw [List.map_map]
    exact List.mem_map.mpr ⟨id, hid, rfl⟩
  obtain ⟨e, he, rfl⟩ := List.mem_map.mp hmem
  have hpassed : e = (e.1, .passed) := Prod.ext rfl (hreturned e he)
  rwa [← hpassed]

/-! ## what is in flight when a call returns -/

/-- a call that has returned was done with each listener at an instant at which nothing was in
flight on it -/
theorem Reaches.idleBetween (hstand : stand = .looking ∨ stand = .joining)
    (h : Reaches (s₀.begun stand) s) (hreturned : s.Returned) (hid : id ∈ s₀.pool.snapshot) :
    IdleBetween (s₀.begun stand) s id := by
  have hbegun : ∀ e ∈ (s₀.begun stand).call, Founded (s₀.begun stand) (s₀.begun stand) e := by
    intro e he
    obtain ⟨other, -, rfl⟩ := List.mem_map.mp he
    rcases hstand with rfl | rfl <;> trivial
  exact h.founded hbegun _ (h.passed_mem hreturned hid)

/-- whatever is in flight has come since nothing was -/
theorem Reaches.come_since (h : Reaches s s') (hs : (s.tracked id).Sound)
    (hidle : s.pool.inFlight id = 0) {g : Nat} (hg : (s'.guards id)[g]? = some .live) :
    (s.guards id).length ≤ g := by
  by_contra hold
  have hthen := (h.ages id).older g (Nat.lt_of_not_le hold) hg
  exact hs.not_live hidle g hthen

/-- while a connection stays, its listener is not idle -/
theorem Reaches.busy_between {u : Scene} (h : Reaches s u) (h' : Reaches u s')
    (hs : (s.tracked id).Sound) {g : Nat} (hold : g < (s.guards id).length)
    (hg : (s'.guards id)[g]? = some .live) : u.pool.inFlight id ≠ 0 := by
  intro hidle
  have hlt : g < (u.guards id).length := Nat.lt_of_lt_of_le hold (h.ages id).length_le
  exact (h.sound hs).not_live hidle g ((h'.ages id).older g hlt hg)

/-- **Each listener of a call has been idle once** when the call has returned: there was an instant
since it began at which nothing was in flight on it, and whatever is in flight on it now was
accepted later. Drains and waits that end well on the clock are such calls. -/
theorem idle_once (hmade : Reaches empty s₀) :
    (∀ stand s, stand = .looking ∨ stand = .joining → Reaches (s₀.begun stand) s → s.Returned →
      ∀ id ∈ s₀.pool.snapshot, s.pool.inFlight id = (s.guards id).count .live ∧
        (∃ u, Reaches (s₀.begun stand) u ∧ Reaches u s ∧ u.pool.inFlight id = 0 ∧
          (s₀.guards id).length ≤ (u.guards id).length ∧
          ∀ g : Nat, (s.guards id)[g]? = some .live → (u.guards id).length ≤ g) ∧
        ((s.guards id).length = (s₀.guards id).length → s.pool.inFlight id = 0)) ∧
    ∀ departures, (∀ id, departures.countP (·.tracker = id) ≤ s₀.pool.inFlight id) →
      (∀ limit, (s₀.pool.drain limit departures).idle = true →
        ∃ s, Reaches (s₀.begun .looking) s ∧ s.Returned ∧
          s.pool = { s₀.pool with trackers := (s₀.pool.drain limit departures).trackers }) ∧
      ∀ limit, (s₀.pool.waitIdle limit departures).idle = true →
        ∃ s, Reaches (s₀.begun .joining) s ∧ s.Returned ∧
          s.pool = { s₀.pool with trackers := (s₀.pool.waitIdle limit departures).trackers } := by
  have hsound (id : ListenerId) : (s₀.tracked id).Sound := hmade.sound (sound_empty id)
  have hcounted : s₀.pool.Counted := hmade.counted Pool.counted_empty
  constructor
  · intro stand s hstand hcall hreturned id hid
    have hthen (u : Scene) (hu : Reaches (s₀.begun stand) u) : (u.tracked id).Sound :=
      hu.sound (s := s₀.begun stand) (hsound id)
    obtain ⟨u, hu, hrest, hidle⟩ := hcall.idleBetween hstand hreturned hid
    have hnew (g : Nat) (hg : (s.guards id)[g]? = some .live) : (u.guards id).length ≤ g :=
      hrest.come_since (hthen u hu) hidle hg
    have hcount : s.pool.inFlight id = (s.guards id).count .live := (hthen s hcall).active
    have hle : (s₀.guards id).length ≤ (u.guards id).length := (hu.ages id).length_le
    refine ⟨hcount, ⟨u, hu, hrest, hidle, hle, hnew⟩, ?_⟩
    intro hlength
    rw [hcount]
    refine List.count_eq_zero.mpr fun hmem => ?_
    obtain ⟨g, hg⟩ := List.mem_iff_getElem?.mp hmem
    have hlt := (List.getElem?_eq_some_iff.mp hg).1
    have hge := hnew g hg
    omega
  · intro departures hcount
    constructor
    · intro limit hidle
      exact exists_drain hcounted hsound hcount hidle
    · intro limit hidle
      exact exists_wait hcounted hsound hcount hidle

/-! ## connections that a call does not wait for -/

namespace Straggler

def does (s : Scene) (deed : Pool.Deed) : Scene := { s with pool := s.pool.did deed }

def accepts (s : Scene) (id : ListenerId) : Scene :=
  s.moved id ⟨(s.tracked id).tracker.enter, s.guards id ++ [.live]⟩

theorem reaches_does {deed : Pool.Deed} (h : Reaches s₀ s) (hdeed : deed.Quiet) :
    Reaches s₀ (does s deed) := h.tail (.pool hdeed)

theorem reaches_accepts (h : Reaches s₀ s) (hid : id < s.pool.trackers.length) :
    Reaches s₀ (accepts s id) := h.tail (.connection hid .enter)

/-- the only listener was removed, but a connection of it is in flight -/
def removed : Scene := does (accepts (does empty (.add ⟨0, "a"⟩)) 0) (.remove "a")

/-- the second of two listeners has a connection in flight -/
def busy : Scene := accepts (does (does empty (.add ⟨0, "a"⟩)) (.add ⟨1, "b"⟩)) 1

theorem reaches_removed : Reaches empty removed :=
  reaches_does (reaches_accepts (reaches_does .refl trivial) (by decide)) trivial

theorem reaches_busy : Reaches empty busy :=
  reaches_accepts (reaches_does (reaches_does .refl trivial) trivial) (by decide)

variable (waiters : List WaiterPhase)

/-- these have waited for the first listener -/
def visited : Scene := busy.withTrackers [⟨0, waiters⟩, ⟨1, []⟩]

/-- a call is done with the first listener, and waits for the second -/
def waits : Scene :=
  (busy.withTrackers [⟨0, waiters⟩, ⟨1, [.starting]⟩]).calling [(0, .passed), (1, .waiting 0)]

def late : Scene := accepts (waits waiters) 0

def gone : Scene := (late waiters).moved 1 ⟨⟨0, [.finished]⟩, [.gone]⟩

def returned : Scene := (gone waiters).calling [(0, .passed), (1, .passed)]

theorem step_waits : Step ((visited waiters).calling [(0, .passed), (1, .joining)])
    (waits waiters) := by
  have hjoin : Step ((visited waiters).calling [(0, .passed), (1, .joining)])
      (((visited waiters).moved 1 ⟨⟨1, [.starting]⟩, (visited waiters).guards 1⟩).calling
        [(0, .passed), (1, .waiting 0)]) :=
    step_call (Nat.lt_succ_self 1) .join [(0, .passed)] []
  rwa [show (visited waiters).moved 1 ⟨⟨1, [.starting]⟩, (visited waiters).guards 1⟩ = _ from
    (visited waiters).moved_tracker 1 ⟨1, [.starting]⟩] at hjoin

/-- a drain looks at both counts, and joins the second listener -/
theorem reaches_waits : Reaches (busy.begun .looking) (waits []) := by
  have hfirst : Step (busy.calling [(0, .looking), (1, .looking)])
      ((busy.moved 0 (busy.tracked 0)).calling [(0, .passed), (1, .looking)]) :=
    step_call (by decide) (.idle rfl) [] [(1, .looking)]
  have hsecond : Step (busy.calling [(0, .passed), (1, .looking)])
      ((busy.moved 1 (busy.tracked 1)).calling [(0, .passed), (1, .joining)]) :=
    step_call (by decide) (.busy (by decide)) [(0, .passed)] []
  rw [moved_self (by decide)] at hfirst hsecond
  exact .head hfirst (.head hsecond (.single (step_waits [])))

/-- a wait joins the first listener, reads its count, and joins the second -/
theorem reaches_waits_joining : Reaches (busy.begun .joining) (waits [.finished]) := by
  have hjoin : Step (busy.calling [(0, .joining), (1, .joining)])
      ((busy.moved 0 ⟨⟨0, [.starting]⟩, busy.guards 0⟩).calling [(0, .waiting 0), (1, .joining)]) :=
    step_call (by decide) .join [] [(1, .joining)]
  rw [show busy.moved 0 ⟨⟨0, [.starting]⟩, busy.guards 0⟩ = _ from
    busy.moved_tracker 0 ⟨0, [.starting]⟩] at hjoin
  let joined : Scene := (visited [.starting]).calling [(0, .waiting 0), (1, .joining)]
  have hread : Reaches joined (joined.moved 0 ⟨⟨0, [.finished]⟩, joined.guards 0⟩) :=
    reaches_moved (by decide) (Tracked.reaches_settle _)
  rw [show joined.moved 0 ⟨⟨0, [.finished]⟩, joined.guards 0⟩ = _ from
    joined.moved_tracker 0 ⟨0, [.finished]⟩] at hread
  have hpass : Step ((visited [.finished]).calling [(0, .waiting 0), (1, .joining)])
      (((visited [.finished]).moved 0 ((visited [.finished]).tracked 0)).calling
        [(0, .passed), (1, .joining)]) :=
    step_call (by decide) (.woken rfl) [] [(1, .joining)]
  rw [moved_self (by decide)] at hpass
  exact .head hjoin (hread.tail hpass |>.tail (step_waits [.finished]))

theorem reaches_late : Reaches (waits waiters) (late waiters) :=
  reaches_accepts .refl (Nat.zero_lt_succ 1)

theorem reaches_returned : Reaches (late waiters) (returned waiters) := by
  have hsleep : Tracked.Reaches ⟨⟨1, [.starting]⟩, [.live]⟩ ⟨⟨1, [.asleep false]⟩, [.live]⟩ :=
    Tracked.reaches_settle _
  have hdrop : Tracked.Reaches ⟨⟨1, [.asleep false]⟩, [.live]⟩ ⟨⟨0, [.asleep true]⟩, [.gone]⟩ :=
    Tracked.reaches_drop (g := 0) rfl
  have hwake : Tracked.Reaches ⟨⟨0, [.asleep true]⟩, [.gone]⟩ ⟨⟨0, [.finished]⟩, [.gone]⟩ :=
    Tracked.reaches_settle _
  have hgone : Reaches (late waiters) (gone waiters) :=
    reaches_moved (Nat.lt_succ_self 1) (hsleep.trans (hdrop.trans hwake))
  have hdone : Step ((gone waiters).calling [(0, .passed), (1, .waiting 0)])
      (((gone waiters).moved 1 ((gone waiters).tracked 1)).calling [(0, .passed), (1, .passed)]) :=
    step_call (Nat.lt_succ_self 1) (.woken rfl) [(0, .passed)] []
  rw [moved_self (Nat.lt_succ_self 1)] at hdone
  exact hgone.tail hdone

theorem returned_returned : (returned waiters).Returned := by
  intro e he
  have hcall : e ∈ [((0 : ListenerId), Stand.passed), (1, .passed)] := he
  rcases List.mem_cons.mp hcall with rfl | hcall
  · rfl
  · rw [List.mem_singleton.mp hcall]

end Straggler

/-- the drain returns while the first listener has a connection in flight, but that was accepted
after the drain was done with it -/
theorem idle_once_straggler :
    Reaches empty Straggler.busy ∧
    Reaches (Straggler.busy.begun .looking) (Straggler.returned []) ∧
    (Straggler.returned []).Returned ∧ 0 ∈ Straggler.busy.pool.snapshot ∧
    (∃ u, Reaches (Straggler.busy.begun .looking) u ∧ Reaches u (Straggler.returned []) ∧
      u.pool.inFlight 0 = 0 ∧ (u.guards 0).length ≤ 0) ∧
    (Straggler.busy.pool.drain 1000 [⟨5, 1⟩]).idle = true ∧
    ∃ s, Reaches (Straggler.busy.begun .looking) s ∧ s.Returned ∧
      s.pool.trackers = (Straggler.busy.pool.drain 1000 [⟨5, 1⟩]).trackers := by
  have hcall : Reaches (Straggler.busy.begun .looking) (Straggler.returned []) :=
    Straggler.reaches_waits.trans ((Straggler.reaches_late []).trans (Straggler.reaches_returned []))
  have hreturned := Straggler.returned_returned []
  have hmem : 0 ∈ Straggler.busy.pool.snapshot := by decide
  obtain ⟨hall, hclock⟩ := idle_once Straggler.reaches_busy
  obtain ⟨-, ⟨u, hu, hrest, hidle, -, hnew⟩, -⟩ := hall .looking _ (.inl rfl) hcall hreturned 0 hmem
  have hcount (id : ListenerId) : [(⟨5, 1⟩ : Departure)].countP (·.tracker = id) ≤
      Straggler.busy.pool.inFlight id := by
    by_cases hid : 1 = id
    · subst hid
      decide
    · simp [hid]
  have hdrained : (Straggler.busy.pool.drain 1000 [⟨5, 1⟩]).idle = true := by
    show (awaitAll _ _ _ _ (byTime [⟨5, 1⟩])).idle = true
    rw [show byTime [⟨5, 1⟩] = [⟨5, 1⟩] from List.mergeSort_singleton _]
    rfl
  obtain ⟨s, hs, hdone, hpool⟩ := (hclock [⟨5, 1⟩] hcount).1 1000 hdrained
  exact ⟨Straggler.reaches_busy, hcall, hreturned, hmem, ⟨u, hu, hrest, hidle, hnew 0 rfl⟩,
    hdrained, s, hs, hdone, congrArg Pool.trackers hpool⟩

/-- **A call returns past a straggler.** The first of two registered listeners accepts a connection
after a drain or a wait was done with it, and only then the one of the second goes. So at every
instant of the call a registered listener has a connection in flight, and one has when it returns. -/
theorem returns_past_straggler :
    Reaches empty Straggler.busy ∧ Straggler.busy.pool.snapshot = [0, 1] ∧
    ∀ stand, stand = .looking ∨ stand = .joining → ∃ late s,
      Reaches (Straggler.busy.begun stand) late ∧ Reaches late s ∧ s.Returned ∧
      (∀ u, Reaches (Straggler.busy.begun stand) u → Reaches u late → u.pool.inFlight 1 ≠ 0) ∧
      (∀ u, Reaches late u → Reaches u s → u.pool.inFlight 0 ≠ 0) ∧ s.pool.inFlight 0 = 1 := by
  refine ⟨Straggler.reaches_busy, rfl, fun stand hstand => ?_⟩
  have hsound (id : ListenerId) : ((Straggler.busy.begun stand).tracked id).Sound :=
    Straggler.reaches_busy.sound (sound_empty id)
  obtain ⟨waiters, hwaits⟩ : ∃ waiters, Reaches (Straggler.busy.begun stand)
      (Straggler.waits waiters) := by
    obtain rfl | rfl := hstand
    · exact ⟨_, Straggler.reaches_waits⟩
    · exact ⟨_, Straggler.reaches_waits_joining⟩
  have hlate : Reaches (Straggler.busy.begun stand) (Straggler.late waiters) :=
    hwaits.trans (Straggler.reaches_late waiters)
  refine ⟨Straggler.late waiters, Straggler.returned waiters, hlate,
    Straggler.reaches_returned waiters, Straggler.returned_returned waiters, ?_, ?_, rfl⟩
  · intro u hu hrest
    exact hu.busy_between hrest (hsound 1) (g := 0) (Nat.zero_lt_succ 0) rfl
  · intro u hu hrest
    exact hu.busy_between hrest (hlate.sound (hsound 0)) (g := 0) (Nat.zero_lt_succ 0) rfl

/-- **A drain returns past a listener that was removed**, at once and on the clock: the listener is
none of the pool's any more, and its connections are left to it. -/
theorem drains_past_removed :
    Reaches empty Straggler.removed ∧
    (let o := Straggler.removed.pool.drain 1000 []
    o.idle = true ∧ o.took = 0 ∧ o.trackers.active 0 = 1) ∧
    (Straggler.removed.begun .looking).Returned ∧
    (Straggler.removed.begun .looking).pool.inFlight 0 = 1 := by
  have hdrain : Straggler.removed.pool.drain 1000 [] = ⟨true, 0, [⟨1, []⟩], []⟩ := by
    show awaitAll _ _ _ _ (byTime []) = _
    rw [show byTime [] = [] from List.mergeSort_nil]
    rfl
  refine ⟨Straggler.reaches_removed, ?_, by decide, by decide⟩
  rw [hdrain]
  exact ⟨rfl, rfl, rfl⟩

end Succession.Scene
