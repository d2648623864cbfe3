import Mathlib.Data.List.Basic
import Succession.Listener.Pool

/-!
# Sound pools, and pools of adopted sockets

Every slot of a pool holds a listener that was made, whatever is done to the pool: so the snapshot
and the sockets of a pool run in step. A pool to which sockets are added one after the other lists
them in that order.

* `Pool.Sound`, `Pool.Sound.add`, `Pool.Sound.remove`, `Pool.Sound.closeAll`, …;
* `Pool.Sound.sockets_eq`   a socket for every listener of the snapshot, in order;
* `Pool.addAll_eq`, `Pool.listeners_addAll`   the pool that is made of sockets.
-/

namespace Succession.Pool

def Sound (p : Pool) : Prop := ∀ id ∈ p.snapshot, id < p.listeners.length

theorem mem_snapshot {p : Pool} {id : ListenerId} : id ∈ p.snapshot ↔ some id ∈ p.slots := by
  unfold snapshot
  rw [List.mem_filterMap]
  constructor
  · rintro ⟨slot, hs, rfl⟩
    exact hs
  · intro hs
    exact ⟨some id, hs, rfl⟩

/-! ## every operation keeps a pool sound -/

theorem sound_empty : Sound empty := by
  intro id h
  cases h

theorem mem_fill {α : Type} {a : α} {slot : Option α} {slots : List (Option α)}
    (h : slot ∈ fill a slots) : slot = some a ∨ slot ∈ slots := by
  induction slots with
  | nil => exact Or.inl (List.mem_singleton.mp h)
  | cons s rest ih =>
    cases s with
    | none =>
      rcases List.mem_cons.mp h with h | h
      · exact Or.inl h
      · exact Or.inr (List.mem_cons_of_mem _ h)
    | some b =>
      rcases List.mem_cons.mp h with h | h
      · exact Or.inr (h ▸ List.mem_cons_self)
      · rcases ih h with h | h
        · exact Or.inl h
        · exact Or.inr (List.mem_cons_of_mem _ h)

theorem Sound.add {p : Pool} (hp : p.Sound) (socket : Socket) : (p.add socket).2.Sound := by
  intro id h
  show id < (p.listeners ++ [(⟨socket, false⟩ : Listener)]).length
  rw [List.length_append, List.length_singleton]
  rcases mem_fill (mem_snapshot.mp h) with h | h
  · rw [Option.some.inj h]
    exact Nat.lt_succ_self _
  · exact Nat.lt_succ_of_lt (hp id (mem_snapshot.mpr h))

theorem listeners_closeOne (p : Pool) (id : ListenerId) :
    (p.closeOne id).2.listeners.length = p.listeners.length := by
  unfold closeOne
  split
  · rfl
  · exact List.length_set

theorem slots_closeOne (p : Pool) (id : ListenerId) : (p.closeOne id).2.slots = p.slots := by
  unfold closeOne
  split <;> rfl

theorem trackers_closeOne (p : Pool) (id : ListenerId) :
    (p.closeOne id).2.trackers = p.trackers := by
  unfold closeOne
  split <;> rfl

/-- closing a listener leaves it as it is but for the mark, and the others as they are -/
theorem listener?_closeOne (p : Pool) (id other : ListenerId) :
    (p.closeOne id).2.listener? other =
      (p.listener? other).map fun l => { l with closed := l.closed || decide (other = id) } := by
  unfold closeOne
  split
  · next hnone =>
    by_cases hother : other = id
    · rw [hother, hnone]
      rfl
    · simp [hother]
  · next l hl =>
    show (p.listeners.set id { l with closed := true })[other]? = p.listeners[other]?.map _
    have hlt : id < p.listeners.length := (List.getElem?_eq_some_iff.mp hl).1
    by_cases hother : other = id
    · subst hother
      rw [List.getElem?_set_self hlt, show p.listeners[other]? = some l from hl]
      simp
    · rw [List.getElem?_set_ne (Ne.symm hother)]
      simp [hother]

theorem isClosed_closeOne (p : Pool) (id other : ListenerId) :
    (p.closeOne id).2.isClosed other =
      (p.isClosed other || (decide (other = id) && (p.listener? other).isSome)) := by
  unfold isClosed
  rw [listener?_closeOne]
  cases p.listener? other <;> simp

theorem address_closeOne (p : Pool) (id other : ListenerId) :
    (p.closeOne id).2.address other = p.address other := by
  unfold address
  rw [listener?_closeOne]
  cases p.listener? other <;> rfl

theorem Sound.closeOne {p : Pool} (hp : p.Sound) (id : ListenerId) : (p.closeOne id).2.Sound := by
  intro other h
  rw [listeners_closeOne]
  rw [mem_snapshot, slots_closeOne] at h
  exact hp other (mem_snapshot.mpr h)

theorem Sound.closeAll {p : Pool} (hp : p.Sound) : p.closeAll.Sound := by
  unfold Pool.closeAll
  generalize p.snapshot = ids
  induction ids generalizing p with
  | nil => exact hp
  | cons id ids ih => exact ih (hp.closeOne id)

theorem mem_vacate {test : ListenerId → Bool} {id : ListenerId}
    {slots : List (Option ListenerId)} (h : some id ∈ vacate test slots) : some id ∈ slots := by
  induction slots with
  | nil => cases h
  | cons s rest ih =>
    cases s with
    | none =>
      rcases List.mem_cons.mp h with h | h
      · cases h
      · exact List.mem_cons_of_mem _ (ih h)
    | some other =>
      unfold vacate at h
      split at h
      · rcases List.mem_cons.mp h with h | h
        · cases h
        · exact List.mem_cons_of_mem _ h
      · rcases List.mem_cons.mp h with h | h
        · exact h ▸ List.mem_cons_self
        · exact List.mem_cons_of_mem _ (ih h)

theorem Sound.remove {p : Pool} (hp : p.Sound) (address : String) : (p.remove address).2.Sound := by
  unfold Pool.remove
  split
  · exact hp
  · next id _ =>
    intro other h
    show other < (p.closeOne id).2.listeners.length
    rw [listeners_closeOne]
    exact hp other (mem_snapshot.mpr (mem_vacate (mem_snapshot.mp h)))

theorem Sound.enter {p : Pool} (hp : p.Sound) (id : ListenerId) : (p.enter id).Sound := hp

theorem Sound.drop {p : Pool} (hp : p.Sound) (id : ListenerId) : (p.drop id).Sound := hp

/-! ## the sockets of a sound pool -/

theorem Sound.exists_listener {p : Pool} (hp : p.Sound) {id : ListenerId} (h : id ∈ p.snapshot) :
    ∃ l, p.listener? id = some l := ⟨_, List.getElem?_eq_getElem (hp id h)⟩

/-- the snapshot and the sockets run in step -/
theorem Sound.sockets_eq {p : Pool} (hp : p.Sound) :
    p.sockets.map some = p.snapshot.map fun id => (p.listener? id).map (·.socket) := by
  unfold Pool.sockets
  have hids : ∀ id ∈ p.snapshot, ∃ l, p.listener? id = some l := fun id h => hp.exists_listener h
  generalize p.snapshot = ids at hids
  induction ids with
  | nil => rfl
  | cons id ids ih =>
    obtain ⟨l, hl⟩ := hids id List.mem_cons_self
    rw [List.filterMap_cons, hl]
    show some l.socket :: _ = _
    rw [ih fun other h => hids other (List.mem_cons_of_mem _ h), List.map_cons, hl]
    rfl

/-- the listeners of the snapshot, as they are when their sockets are opened again -/
theorem Sound.reopened_eq {p : Pool} (hp : p.Sound) :
    (p.sockets.map fun socket => some (⟨socket, false⟩ : Listener)) =
      p.snapshot.map fun id => (p.listener? id).map fun l => ⟨l.socket, false⟩ := by
  have h := congrArg (List.map (Option.map fun socket => (⟨socket, false⟩ : Listener)))
    hp.sockets_eq
  rw [List.map_map, List.map_map] at h
  refine h.trans (List.map_congr_left fun id _ => ?_)
  show ((p.listener? id).map _).map _ = _
  rw [Option.map_map]
  rfl

theorem Sound.length_sockets {p : Pool} (hp : p.Sound) :
    p.sockets.length = p.snapshot.length := by
  have h := congrArg List.length hp.sockets_eq
  rwa [List.length_map, List.length_map] at h

/-! ## a pool made of sockets -/

def addAll (p : Pool) (sockets : List Socket) : Pool :=
  sockets.foldl (fun p socket => (p.add socket).2) p

/-- without a hole, the next listener goes behind the last slot -/
theorem fill_eq_append {α : Type} (a : α) (slots : List α) :
    fill a (slots.map some) = (slots ++ [a]).map some := by
  induction slots with
  | nil => rfl
  | cons b rest ih =>
    show some b :: fill a (rest.map some) = _
    rw [ih]
    rfl

theorem addAll_eq (p : Pool) (ids : List ListenerId) (hs : p.slots = ids.map some)
    (sockets : List Socket) :
    p.addAll sockets =
      ⟨p.listeners ++ sockets.map (⟨·, false⟩), p.trackers ++ sockets.map fun _ => .new,
        (ids ++ List.range' p.listeners.length sockets.length).map some⟩ := by
  induction sockets generalizing p ids with
  | nil =>
    show p = ⟨p.listeners ++ [], p.trackers ++ [], (ids ++ []).map some⟩
    rw [List.append_nil, List.append_nil, List.append_nil, ← hs]
  | cons socket rest ih =>
    have hadd : (p.add socket).2.slots = (ids ++ [p.listeners.length]).map some := by
      show fill p.listeners.length p.slots = _
      rw [hs, fill_eq_append]
    show (p.add socket).2.addAll rest = _
    rw [ih _ _ hadd]
    show (⟨(p.listeners ++ [⟨socket, false⟩]) ++ _, (p.trackers ++ [.new]) ++ _,
      List.map some (_ ++ List.range' (p.listeners ++ [_]).length _)⟩ : Pool) = _
    rw [List.append_assoc, List.append_assoc, List.append_assoc, List.length_append]
    rfl

/-- a pool made of sockets lists an open listener for each of them, in order -/
theorem listeners_addAll (sockets : List Socket) :
    (empty.addAll sockets).snapshot.map (empty.addAll sockets).listener? =
      sockets.map fun socket => some ⟨socket, false⟩ := by
  have he := addAll_eq empty [] rfl sockets
  rw [he]
  show ((([] ++ List.range' 0 sockets.length).map some).filterMap fun slot => slot).map
    (fun id => ([] ++ sockets.map fun s => (⟨s, false⟩ : Listener))[id]?) = _
  rw [List.nil_append, List.nil_append, List.filterMap_map]
  show ((List.range' 0 sockets.length).filterMap some).map _ = _
  rw [List.filterMap_some]
  apply List.ext_getElem?
  intro i
  rw [List.getElem?_map, List.getElem?_map]
  by_cases hi : i < sockets.length
  · rw [List.getElem?_range' hi, List.getElem?_eq_getElem hi]
    show some ((sockets.map _)[0 + 1 * i]?) = _
    rw [Nat.zero_add, Nat.one_mul, List.getElem?_map, List.getElem?_eq_getElem hi]
    rfl
  · have hr : (List.range' 0 sockets.length).length ≤ i := by
      rw [List.length_range']
      omega
    rw [List.getElem?_eq_none hr, List.getElem?_eq_none (Nat.le_of_not_lt hi)]
    rfl

/-- nothing is in flight on the listeners of a pool made of sockets -/
theorem inFlight_addAll (sockets : List Socket) (id : ListenerId) :
    (empty.addAll sockets).inFlight id = 0 := by
  rw [addAll_eq empty [] rfl sockets]
  show (((sockets.map fun _ => Tracker.new))[id]?.getD .new).active = 0
  rw [List.getElem?_map]
  cases sockets[id]? <;> rfl

end Succession.Pool
