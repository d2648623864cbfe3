import Mathlib.Data.List.Count
import Mathlib.Logic.Relation
import Succession.Proofs.Drain.Scene

/-!
# Calls on the clock

On the clock, a call looks at all its listeners and joins, and then connections go one after the
other, while all who wait run on until they block. Each of these is made of the atomic steps of a
scene. So a drain or a wait that ends well on the clock is one of the calls of a scene.

* `reaches_moved`     the steps of one listener's connections are steps of the scene;
* `reaches_look`, `reaches_join`, `reaches_settled`, `exists_depart`, `reaches_passed`   the stages
  of a call;
* `exists_awaitAll`   one departure after the other;
* `exists_drain`, `exists_wait`   whole calls.
-/

namespace Succession.Scene

section
variable {α : Type} (before after : List α) (a b : α)

theorem getElem?_behind : (before ++ a :: after)[before.length]? = some a := by
  rw [List.getElem?_append_right (Nat.le_refl _), Nat.sub_self]
  rfl

theorem set_behind : (before ++ a :: after).set before.length b = before ++ b :: after := by
  rw [List.set_append_right _ _ (Nat.le_refl _), Nat.sub_self]
  rfl

end

variable {s s' : Scene} {id : ListenerId} {t : Tracked}

def withTrackers (s : Scene) (trackers : Trackers) : Scene :=
  { s with pool := { s.pool with trackers } }

def calling (s : Scene) (call : List (ListenerId × Stand)) : Scene := { s with call }

/-! ## the connections of one listener -/

theorem moved_tracker (s : Scene) (id : ListenerId) (tracker : Tracker) :
    s.moved id { s.tracked id with tracker } = s.withTrackers (s.pool.trackers.set id tracker) := by
  have hguards : (fun other => if other = id then s.guards id else s.guards other) = s.guards := by
    funext other
    split
    · next h => rw [h]
    · rfl
  exact congrArg (Scene.mk { s.pool with trackers := s.pool.trackers.set id tracker } · s.call)
    hguards

theorem moved_self (hid : id < s.pool.trackers.length) : s.moved id (s.tracked id) = s := by
  have hset : s.pool.trackers.set id (s.tracked id).tracker = s.pool.trackers := by
    show s.pool.trackers.set id (s.pool.trackers[id]?.getD .new) = _
    rw [List.getElem?_eq_getElem hid]
    exact List.set_getElem_self hid
  refine (s.moved_tracker id (s.tracked id).tracker).trans ?_
  rw [hset]
  rfl

theorem moved_moved (s : Scene) (id : ListenerId) (t t' : Tracked) :
    (s.moved id t).moved id t' = s.moved id t' := by
  have htrackers : (s.pool.trackers.set id t.tracker).set id t'.tracker =
      s.pool.trackers.set id t'.tracker := List.set_set t.tracker
  have hguards : (fun other => if other = id then t'.guards else
      if other = id then t.guards else s.guards other) =
      fun other => if other = id then t'.guards else s.guards other := by
    funext other
    split <;> rfl
  show Scene.mk { s.pool with trackers := (s.pool.trackers.set id t.tracker).set id _ } _ _ = _
  rw [htrackers]
  exact congrArg (Scene.mk _ · s.call) hguards

theorem modify_eq_set {trackers : Trackers} (hid : id < trackers.length) (f : Tracker → Tracker) :
    trackers.modify id f = trackers.set id (f (trackers[id]?.getD .new)) := by
  rw [List.modify_eq_set_getElem?, List.getElem?_eq_getElem hid]
  rfl

/-- **The steps of one listener's connections** are steps of the scene. -/
theorem reaches_moved (hid : id < s.pool.trackers.length)
    (h : Tracked.Reaches (s.tracked id) t) : Reaches s (s.moved id t) := by
  induction h with
  | refl => rw [moved_self hid]
  | @tail t t' _ hstep ih =>
    have hthere : id < (s.moved id t).pool.trackers.length := by
      show id < (s.pool.trackers.set id t.tracker).length
      rwa [List.length_set]
    have ht : (s.moved id t).tracked id = t := by
      rw [tracked_moved hid, if_pos rfl]
    have hnext : Step (s.moved id t) ((s.moved id t).moved id t') :=
      .connection hthere (by rwa [ht])
    rw [moved_moved] at hnext
    exact ih.tail hnext

/-! ## the listeners of a call, one after the other -/

theorem step_call {stand stand' : Stand} (hid : id < s.pool.trackers.length)
    (h : Stand.Step (s.tracked id) stand stand' t) (before after : List (ListenerId × Stand)) :
    Step (s.calling (before ++ (id, stand) :: after))
      ((s.moved id t).calling (before ++ (id, stand') :: after)) := by
  have hstep := Step.call (s := s.calling (before ++ (id, stand) :: after)) hid
    (getElem?_behind before after _) h
  show Step _ { s.moved id t with call := _ }
  rwa [← set_behind before after (id, stand) (id, stand')]

/-- a call does something with each of its listeners that leaves the trackers alone -/
theorem reaches_each (f : ListenerId × Stand → Stand) (before after : List (ListenerId × Stand))
    (hstep : ∀ e ∈ after, f e = e.2 ∨ e.1 < s.pool.trackers.length ∧
      Stand.Step (s.tracked e.1) e.2 (f e) (s.tracked e.1)) :
    Reaches (s.calling (before ++ after))
      (s.calling (before ++ after.map fun e => (e.1, f e))) := by
  induction after generalizing before with
  | nil => exact .refl
  | cons e after ih =>
    obtain ⟨hfirst, hrest⟩ := List.forall_mem_cons.mp hstep
    have hlater := ih (before ++ [(e.1, f e)]) hrest
    rw [List.append_assoc, List.append_assoc] at hlater
    rw [List.map_cons]
    rcases hfirst with hsame | ⟨hid, hfirst⟩
    · rw [hsame] at hlater ⊢
      exact hlater
    · have hhead := step_call hid hfirst before after
      rw [moved_self hid] at hhead
      exact .head hhead hlater

def joiners (entries : List (ListenerId × Stand)) : List ListenerId :=
  (entries.filter fun e => e.2 = .joining).map (·.1)

/-- the call is done with the listener, or about to wait for it -/
def Looked (s : Scene) (e : ListenerId × Stand) : Prop :=
  e.2 = .passed ∨ e.2 = .joining ∧ e.1 < s.pool.trackers.length

/-- the call is done with the listener, or waits for it in one of these waits -/
def Joined (waits : List Wait) (e : ListenerId × Stand) : Prop :=
  e.2 = .passed ∨ ∃ w ∈ waits, e = (w.tracker, .waiting w.waiter)

/-- the call joins where it is not done yet -/
theorem reaches_join (before entries : List (ListenerId × Stand))
    (hentries : ∀ e ∈ entries, s.Looked e) :
    let joined := joinAll s.pool.trackers (joiners entries)
    ∃ entries', Reaches (s.calling (before ++ entries))
        ((s.withTrackers joined.1).calling (before ++ entries')) ∧
      ∀ e ∈ entries', Joined joined.2 e := by
  induction entries generalizing s before with
  | nil => exact ⟨[], .refl, nofun⟩
  | cons e entries ih =>
    obtain ⟨id, stand⟩ := e
    obtain ⟨hfirst, hrest⟩ := List.forall_mem_cons.mp hentries
    rcases hfirst with hpassed | ⟨hjoining, hid⟩
    · obtain rfl : stand = .passed := hpassed
      obtain ⟨entries', hreaches, hall⟩ := ih (before ++ [(id, .passed)]) hrest
      rw [List.append_assoc, List.append_assoc] at hreaches
      exact ⟨(id, .passed) :: entries', hreaches, List.forall_mem_cons.mpr ⟨.inl rfl, hall⟩⟩
    · obtain rfl : stand = .joining := hjoining
      have hjoin := step_call hid (Stand.Step.join (t := s.tracked id)) before entries
      rw [moved_tracker] at hjoin
      have hthere : ∀ e ∈ entries, (s.withTrackers (joinOne s.pool.trackers id).1).Looked e := by
        intro e he
        show _ ∨ _ ∧ e.1 < (s.pool.trackers.set id _).length
        rw [List.length_set]
        exact hrest e he
      obtain ⟨entries', hreaches, hall⟩ :=
        ih (before ++ [(id, .waiting (s.tracked id).tracker.join.1)]) hthere
      rw [List.append_assoc, List.append_assoc] at hreaches
      refine ⟨_ :: entries', .head hjoin hreaches, List.forall_mem_cons.mpr ⟨?_, ?_⟩⟩
      · exact .inr ⟨_, List.mem_cons_self, rfl⟩
      · intro e he
        refine (hall e he).imp_right ?_
        rintro ⟨w, hw, rfl⟩
        exact ⟨w, List.mem_cons_of_mem _ hw, rfl⟩

theorem lt_length_of_ne (h : (s.tracked id).tracker ≠ .new) : id < s.pool.trackers.length := by
  by_contra hge
  have hnone : s.pool.trackers[id]? = none := List.getElem?_eq_none (Nat.le_of_not_lt hge)
  apply h
  show s.pool.trackers[id]?.getD .new = _
  rw [hnone]
  rfl

/-- when whoever has joined has finished, the call returns -/
theorem reaches_passed {waits : List Wait} (hall : ∀ e ∈ s.call, Joined waits e)
    (hfinished : waits.all (·.isFinished s.pool.trackers) = true) :
    Reaches s (s.calling (s.call.map fun e => (e.1, .passed))) := by
  refine reaches_each (s := s) (fun _ => .passed) [] s.call fun e he => ?_
  rcases hall e he with hpassed | ⟨w, hw, rfl⟩
  · exact .inl hpassed.symm
  · have hw : (s.tracked w.tracker).tracker.isFinished w.waiter = true :=
      List.all_eq_true.mp hfinished w hw
    have hthere : w.tracker < s.pool.trackers.length := by
      apply lt_length_of_ne
      intro hnew
      rw [hnew] at hw
      cases hw
    exact .inr ⟨hthere, .woken hw⟩

/-! ## what happens meanwhile -/

theorem reaches_settle_from (s : Scene) (before after : Trackers) :
    Reaches (s.withTrackers (before ++ after))
      (s.withTrackers (before ++ after.map Tracker.settle)) := by
  induction after generalizing before with
  | nil => exact .refl
  | cons tracker after ih =>
    have hid : before.length < (before ++ tracker :: after).length := by simp
    have htracker : ((s.withTrackers (before ++ tracker :: after)).tracked before.length).tracker =
        tracker := by
      show ((before ++ tracker :: after)[before.length]?.getD .new) = tracker
      rw [getElem?_behind]
      rfl
    have hfirst := reaches_moved (s := s.withTrackers (before ++ tracker :: after)) hid
      (Tracked.reaches_settle _)
    rw [htracker, moved_tracker] at hfirst
    have hrest := ih (before ++ [tracker.settle])
    rw [List.append_assoc, List.append_assoc] at hrest
    rw [show (s.withTrackers (before ++ tracker :: after)).pool.trackers.set before.length
      tracker.settle = _ from set_behind before after tracker tracker.settle] at hfirst
    exact hfirst.trans hrest

/-- everybody runs on until it blocks -/
theorem reaches_settled (s : Scene) : Reaches s (s.withTrackers s.pool.trackers.settle) :=
  reaches_settle_from s [] s.pool.trackers

/-- a scene to which this one leads, with these trackers and the same call -/
structure Leads (s : Scene) (trackers : Trackers) (s' : Scene) : Prop where
  reaches : Reaches s s'
  pool : s'.pool = { s.pool with trackers }
  call : s'.call = s.call

theorem Leads.trackers {ts : Trackers} (h : Leads s ts s') : s'.pool.trackers = ts := by
  rw [h.pool]

/-- a connection goes -/
theorem exists_depart {d : Departure} (hs : (s.tracked d.tracker).Sound)
    (hbusy : 0 < s.pool.inFlight d.tracker) : ∃ s', Leads s (s.pool.trackers.depart d) s' := by
  have hlive : 0 < (s.tracked d.tracker).live := hs.active ▸ hbusy
  obtain ⟨g, hg⟩ := List.mem_iff_getElem?.mp (List.count_pos_iff.mp hlive)
  have hid : d.tracker < s.pool.trackers.length := by
    apply lt_length_of_ne
    intro hnew
    have hactive : s.pool.inFlight d.tracker = 0 := congrArg Tracker.active hnew
    omega
  have hdrop := reaches_moved hid (Tracked.reaches_drop hg)
  have hset : s.pool.trackers.set d.tracker (s.tracked d.tracker).tracker.drop =
      s.pool.trackers.drop d.tracker := (modify_eq_set hid Tracker.drop).symm
  have hpool : { s.pool with trackers := Trackers.settle (s.pool.trackers.set d.tracker
      (s.tracked d.tracker).tracker.drop) } =
      { s.pool with trackers := s.pool.trackers.depart d } := by
    rw [hset]
    rfl
  exact ⟨_, hdrop.trans (reaches_settled _), hpool, rfl⟩

section
variable {waits : List Wait} {limit : Option Nat} {now : Nat} {departures : List Departure}

/-- **One departure after the other** -/
theorem exists_awaitAll (hs : ∀ id, (s.tracked id).Sound)
    (hcount : ∀ id, departures.countP (·.tracker = id) ≤ s.pool.inFlight id)
    (hidle : (awaitAll waits limit now s.pool.trackers departures).idle = true) :
    let o := awaitAll waits limit now s.pool.trackers departures
    (∃ s', Leads s o.trackers s') ∧ waits.all (·.isFinished o.trackers) = true := by
  induction departures generalizing s now with
  | nil =>
    unfold awaitAll at hidle ⊢
    split at hidle
    · next hall =>
      rw [if_pos hall]
      exact ⟨⟨s, .refl, rfl, rfl⟩, hall⟩
    · cases hidle
  | cons d departures ih =>
    unfold awaitAll at hidle ⊢
    split at hidle
    · next hall =>
      rw [if_pos hall]
      exact ⟨⟨s, .refl, rfl, rfl⟩, hall⟩
    · next hbusy =>
      split at hidle
      · cases hidle
      · next hlate =>
        rw [if_neg hbusy, if_neg hlate]
        have hone : 0 < s.pool.inFlight d.tracker := by
          refine Nat.lt_of_lt_of_le ?_ (hcount d.tracker)
          rw [List.countP_cons, if_pos (decide_eq_true rfl)]
          exact Nat.succ_pos _
        obtain ⟨s', hlead⟩ := exists_depart (hs d.tracker) hone
        have htrackers := hlead.trackers
        have hleft (id : ListenerId) :
            departures.countP (·.tracker = id) ≤ s'.pool.inFlight id := by
          have hold := hcount id
          rw [List.countP_cons] at hold
          show _ ≤ s'.pool.trackers.active id
          rw [htrackers, Trackers.active_depart]
          by_cases hid : d.tracker = id
          · rw [if_pos hid]
            rw [if_pos (decide_eq_true hid)] at hold
            exact Nat.le_sub_of_add_le hold
          · rw [if_neg hid]
            rw [if_neg (by simpa using hid)] at hold
            exact hold
        rw [← htrackers] at hidle ⊢
        obtain ⟨⟨s'', hlater⟩, hall⟩ := ih (fun id => hlead.reaches.sound (hs id)) hleft hidle
        refine ⟨⟨s'', hlead.reaches.trans hlater.reaches, ?_, hlater.call.trans hlead.call⟩, hall⟩
        rw [hlater.pool, hlead.pool]

/-! ## whole calls -/

/-- **A wait** that ends well on the clock is a call of the scene that returns. -/
theorem exists_waitIdle (limit : Option Nat) (hs : ∀ id, (s.tracked id).Sound)
    (hcount : ∀ id, departures.countP (·.tracker = id) ≤ s.pool.inFlight id)
    (entries : List (ListenerId × Stand))
    (hentries : ∀ e ∈ entries, s.Looked e)
    (hidle : (waitIdle (joiners entries) limit departures s.pool.trackers).idle = true) :
    ∃ s', Reaches (s.calling entries) s' ∧ s'.Returned ∧ s'.pool = { s.pool with
      trackers := (waitIdle (joiners entries) limit departures s.pool.trackers).trackers } := by
  have hthere : ∀ i ∈ joiners entries, ∃ t, s.pool.trackers[i]? = some t := by
    intro i hi
    obtain ⟨e, he, rfl⟩ := List.mem_map.mp hi
    obtain ⟨he, hjoining⟩ := List.mem_filter.mp he
    rcases hentries e he with hpassed | ⟨-, hid⟩
    · rw [hpassed] at hjoining
      cases hjoining
    · exact ⟨_, List.getElem?_eq_getElem hid⟩
  obtain ⟨-, hsame, -, -⟩ := joinAll_starts (joiners entries) hthere
  obtain ⟨entries', hjoined, hall⟩ := reaches_join (s := s) [] entries hentries
  let joined := joinAll s.pool.trackers (joiners entries)
  let s₁ : Scene := ((s.withTrackers joined.1).calling entries').withTrackers joined.1.settle
  have hsettled : Reaches (s.calling entries) s₁ := hjoined.trans (reaches_settled _)
  have hleft (id : ListenerId) : (byTime departures).countP (·.tracker = id) ≤
      s₁.pool.inFlight id := by
    have hactive : s₁.pool.inFlight id = s.pool.inFlight id :=
      (Trackers.active_settle joined.1 id).trans (hsame id)
    rw [(perm_byTime departures).countP_eq, hactive]
    exact hcount id
  have hawaited : (awaitAll joined.2 limit 0 s₁.pool.trackers (byTime departures)).idle = true :=
    hidle
  have hsound (id : ListenerId) : (s₁.tracked id).Sound :=
    hsettled.sound (s := s.calling entries) (hs id)
  obtain ⟨⟨s₂, hleads⟩, hfinished⟩ := exists_awaitAll hsound hleft hawaited
  have hcall : s₂.call = entries' := hleads.call
  rw [← hcall] at hall
  rw [← hleads.trackers] at hfinished
  refine ⟨_, (hsettled.trans hleads.reaches).trans (reaches_passed hall hfinished), ?_, hleads.pool⟩
  intro e he
  obtain ⟨_, -, rfl⟩ := List.mem_map.mp he
  rfl

end

section
variable {departures : List Departure}

/-- what the call does next with a listener once it has looked at its count -/
def look (s : Scene) (id : ListenerId) : Stand :=
  if s.pool.inFlight id = 0 then .passed else .joining

theorem reaches_look (hp : s.pool.Counted) :
    Reaches (s.begun .looking) (s.calling (s.pool.snapshot.map fun id => (id, s.look id))) := by
  have hlook := reaches_each (s := s) (fun e => s.look e.1) [] (s.pool.snapshot.map (·, .looking))
    fun e he => by
      obtain ⟨id, hid, rfl⟩ := List.mem_map.mp he
      refine .inr ⟨hp.trackers ▸ hp.tidy.sound id hid, ?_⟩
      show Stand.Step (s.tracked id) .looking (s.look id) _
      unfold look
      split
      · next hzero => exact .idle hzero
      · next hbusy => exact .busy hbusy
  rwa [List.nil_append, List.nil_append, List.map_map] at hlook

theorem looked_look (hp : s.pool.Counted) :
    ∀ e ∈ s.pool.snapshot.map fun id => (id, s.look id), s.Looked e := by
  intro e he
  obtain ⟨id, hid, rfl⟩ := List.mem_map.mp he
  by_cases hzero : s.pool.inFlight id = 0
  · exact .inl (if_pos hzero)
  · exact .inr ⟨if_neg hzero, hp.trackers ▸ hp.tidy.sound id hid⟩

/-- a drain waits for the listeners that have something in flight when it begins -/
theorem joiners_look (s : Scene) : joiners (s.pool.snapshot.map fun id => (id, s.look id)) =
    s.pool.snapshot.filter fun id => s.pool.trackers.active id ≠ 0 := by
  unfold joiners
  rw [List.filter_map, List.map_map]
  refine (List.map_id _).trans (List.filter_congr fun id _ => ?_)
  show decide ((if s.pool.trackers.active id = 0 then Stand.passed else .joining) = .joining) = _
  by_cases hzero : s.pool.trackers.active id = 0 <;> simp [hzero]

/-- **A drain** that ends well on the clock is a call of the scene that returns. -/
theorem exists_drain {limit : Nat} (hp : s.pool.Counted) (hs : ∀ id, (s.tracked id).Sound)
    (hcount : ∀ id, departures.countP (·.tracker = id) ≤ s.pool.inFlight id)
    (hidle : (s.pool.drain limit departures).idle = true) :
    ∃ s', Reaches (s.begun .looking) s' ∧ s'.Returned ∧
      s'.pool = { s.pool with trackers := (s.pool.drain limit departures).trackers } := by
  have hwaited := exists_waitIdle (some limit) hs hcount _ (looked_look hp)
  rw [joiners_look] at hwaited
  obtain ⟨s', hreaches, hreturned, hpool⟩ := hwaited hidle
  exact ⟨s', (reaches_look hp).trans hreaches, hreturned, hpool⟩

/-- **A wait** for all listeners of the pool that ends well on the clock is one, too. -/
theorem exists_wait {limit : Option Nat} (hp : s.pool.Counted) (hs : ∀ id, (s.tracked id).Sound)
    (hcount : ∀ id, departures.countP (·.tracker = id) ≤ s.pool.inFlight id)
    (hidle : (s.pool.waitIdle limit departures).idle = true) :
    ∃ s', Reaches (s.begun .joining) s' ∧ s'.Returned ∧
      s'.pool = { s.pool with trackers := (s.pool.waitIdle limit departures).trackers } := by
  have hjoiners : joiners (s.pool.snapshot.map (·, .joining)) = s.pool.snapshot := by
    unfold joiners
    rw [List.filter_map, List.map_map]
    refine (List.map_id _).trans (List.filter_eq_self.mpr fun id _ => ?_)
    rfl
  have hentries : ∀ e ∈ s.pool.snapshot.map (·, Stand.joining), s.Looked e := by
    intro e he
    obtain ⟨id, hid, rfl⟩ := List.mem_map.mp he
    exact .inr ⟨rfl, hp.trackers ▸ hp.tidy.sound id hid⟩
  have hwaited := exists_waitIdle limit hs hcount _ hentries
  rw [hjoiners] at hwaited
  exact hwaited hidle

end
end Succession.Scene
