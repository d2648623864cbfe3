import Succession.Listener.Accept
import Succession.Proofs.Drain.Instants
import Succession.Proofs.Server.AccessLog

/-!
# No line is lost

A connection counts as in flight until it goes, and its line is in the access log by then. So
whenever nothing is in flight, the log is complete; and when a drain has returned, the log has the
lines of all connections that were accepted before the drain began.

* `EchoServer`, `EchoServer.Step`   the tasks of a process with its pool and a drain, one step;
* `EchoServer.scene`                the same, seen as connections that come and go;
* `Reaches.scene`                   what the server does is what a scene does;
* `Reaches.recorded`                the log is in order;
* `Accounted.gone_of_drained`       whom a drain waits for;
* `log_complete`                    where the log is complete;
* `belated_line_lost`               whom nobody waits for any more.
-/

namespace Succession

/-! ## the connections of a listener -/

/-- a connection counts until it goes -/
def EchoStage.guard : EchoStage → GuardPhase
  | gone => .gone
  | _ => .live

namespace EchoTask

def guard (t : EchoTask) : GuardPhase :=
  match t.phase with
  | .copying => .live
  | .ended _ stage => stage.guard

theorem guard_eq_live_iff (t : EchoTask) : t.guard = .live ↔ ¬ t.Gone := by
  obtain ⟨peer, listener, phase⟩ := t
  cases phase with
  | copying => exact iff_of_true rfl nofun
  | ended copied stage =>
    cases stage with
    | gone => exact iff_of_false nofun fun h => h rfl
    | waiting | writing | finished => exact iff_of_true rfl nofun

theorem guard_of_ended {t : EchoTask} {copied : CopyEnd} {stage : EchoStage}
    (hphase : t.phase = .ended copied stage) : t.guard = stage.guard := by
  rw [guard, hphase]

/-- the connections of these tasks that a listener has accepted -/
def guards (tasks : List EchoTask) (id : ListenerId) : List GuardPhase :=
  (tasks.filter (·.listener = id)).map guard

theorem guards_append (before after : List EchoTask) (id : ListenerId) :
    guards (before ++ after) id = guards before id ++ guards after id := by
  simp [guards]

theorem guards_cons (t : EchoTask) (after : List EchoTask) (id : ListenerId) :
    guards (t :: after) id =
      if t.listener = id then t.guard :: guards after id else guards after id := by
  unfold guards
  rw [List.filter_cons]
  split <;> simp_all

end EchoTask

namespace EchoHall

variable {hall hall' : EchoHall} {i : Nat} {t : EchoTask}

def guards (hall : EchoHall) (id : ListenerId) : List GuardPhase := EchoTask.guards hall.tasks id

theorem guards_accept (hall : EchoHall) (id : ListenerId) (peer : String) (other : ListenerId) :
    (hall.accept id peer).guards other =
      if other = id then hall.guards id ++ [.live] else hall.guards other := by
  have he : (hall.accept id peer).guards other =
      hall.guards other ++ EchoTask.guards [⟨peer, id, .copying⟩] other :=
    EchoTask.guards_append _ _ other
  rw [he, EchoTask.guards_cons]
  split
  · next h =>
    subst h
    rw [if_pos rfl]
    rfl
  · next h =>
    rw [if_neg (Ne.symm h)]
    exact List.append_nil _

/-- a task that has come to another stage is still the same connection of its listener -/
theorem exists_guard (ht : hall.tasks[i]? = some t) (copied : CopyEnd) (stage : EchoStage) :
    ∃ g, (hall.guards t.listener)[g]? = some t.guard ∧
      ∀ id, (hall.moved i copied stage).guards id = if id = t.listener then
        (hall.guards t.listener).set g { t with phase := .ended copied stage : EchoTask }.guard
        else hall.guards id := by
  obtain ⟨hlt, -⟩ := List.getElem?_eq_some_iff.mp ht
  obtain ⟨before, a, after, hsplit, hlength, hmoved⟩ := List.exists_of_modify
    (fun t : EchoTask => { t with phase := .ended copied stage }) hlt
  obtain rfl : t = a := by
    rw [hsplit, ← hlength, Scene.getElem?_behind] at ht
    exact (Option.some.inj ht).symm
  have hbefore (id : ListenerId) : hall.guards id = EchoTask.guards (before ++ t :: after) id :=
    congrArg (EchoTask.guards · id) hsplit
  refine ⟨(EchoTask.guards before t.listener).length, ?_, fun id => ?_⟩
  · rw [hbefore, EchoTask.guards_append, EchoTask.guards_cons, if_pos rfl]
    exact Scene.getElem?_behind _ _ _
  · refine (congrArg (EchoTask.guards · id) hmoved).trans ?_
    by_cases hid : id = t.listener
    · subst hid
      rw [if_pos rfl, hbefore, EchoTask.guards_append, EchoTask.guards_append,
        EchoTask.guards_cons, EchoTask.guards_cons, if_pos rfl, if_pos rfl]
      exact (Scene.set_behind _ _ _ _).symm
    · rw [if_neg hid, hbefore, EchoTask.guards_append, EchoTask.guards_append,
        EchoTask.guards_cons, EchoTask.guards_cons, if_neg (Ne.symm hid), if_neg (Ne.symm hid)]

/-- what the listeners see of a step of a task: nothing, or a connection that goes -/
inductive Seen (hall hall' : EchoHall) : Prop where
  | nothing (hguards : hall'.guards = hall.guards) (htrackers : hall'.trackers = hall.trackers)
  | gone {t : EchoTask} {g : Nat} (ht : t ∈ hall.tasks)
      (hg : (hall.guards t.listener)[g]? = some .live)
      (hguards : ∀ id, hall'.guards id =
        if id = t.listener then (hall.guards t.listener).set g .gone else hall.guards id)
      (htrackers : hall'.trackers = hall.trackers.drop t.listener)

/-- a task that stays is still in flight -/
theorem seen_moved {copied : CopyEnd} {stage : EchoStage} (ht : hall.tasks[i]? = some t)
    (hlive : t.guard = .live) (hstage : stage.guard = .live)
    (htasks : hall'.tasks = (hall.moved i copied stage).tasks)
    (htrackers : hall'.trackers = hall.trackers) : Seen hall hall' := by
  obtain ⟨g, hg, hguards⟩ := exists_guard ht copied stage
  refine .nothing (funext fun id => ?_) htrackers
  refine (congrArg (EchoTask.guards · id) htasks).trans ((hguards id).trans ?_)
  split
  · next hid =>
    subst hid
    show (hall.guards t.listener).set g stage.guard = _
    rw [hlive, ← hstage] at hg
    obtain ⟨hlt, he⟩ := List.getElem?_eq_some_iff.mp hg
    rw [← he]
    exact List.set_getElem_self hlt
  · rfl

/-- a task that lets its connection go is not in flight any more -/
theorem seen_leave (ht : hall.tasks[i]? = some t) (hlive : t.guard = .live) (copied : CopyEnd) :
    Seen hall (hall.leave i copied t.listener) := by
  obtain ⟨g, hg, hguards⟩ := exists_guard ht copied .gone
  rw [hlive] at hg
  exact .gone (List.mem_of_getElem? ht) hg hguards rfl

theorem seen_endCopy (hall : EchoHall) (i : Nat) (copied : CopyEnd) :
    Seen hall (hall.endCopy i copied) := by
  rcases endCopy_cases hall i copied with hstay | ⟨t, ht, hphase, hmoved⟩
  · rw [hstay]
    exact .nothing rfl rfl
  · rw [hmoved]
    refine seen_moved ht ?_ rfl rfl rfl
    rw [EchoTask.guard, hphase]

theorem Stepped.seen (hs : Stepped hall i hall') : Seen hall hall' := by
  cases hs with
  | stay => exact .nothing rfl rfl
  | lock ht hphase => exact seen_moved ht (EchoTask.guard_of_ended hphase) rfl rfl rfl
  | write ht hphase => exact seen_moved ht (EchoTask.guard_of_ended hphase) rfl rfl rfl
  | unlock ht hphase => exact seen_moved ht (EchoTask.guard_of_ended hphase) rfl rfl rfl
  | leave ht hphase => exact seen_leave ht (EchoTask.guard_of_ended hphase) _

end EchoHall

/-! ## servers -/

/-- the tasks of a process, the pool of its listeners, and a drain -/
structure EchoServer where
  hall : EchoHall
  listeners : List Listener
  slots : List (Option ListenerId)
  /-- the listeners that the drain waits for -/
  call : List (ListenerId × Stand)

namespace EchoServer

def pool (s : EchoServer) : Pool := ⟨s.listeners, s.hall.trackers, s.slots⟩

/-- the connections of the tasks, as they come and go -/
def scene (s : EchoServer) : Scene := ⟨s.pool, s.hall.guards, s.call⟩

/-- without listeners and connections yet, and with a log that holds this -/
def opened (log : Bytes) : EchoServer := ⟨⟨[], [], none, log⟩, [], [], []⟩

def begun (s : EchoServer) : EchoServer := { s with call := s.pool.snapshot.map (·, .looking) }

def withHall (s : EchoServer) (hall : EchoHall) : EchoServer := { s with hall }

/-- the tasks are where they were, but the pool and the drain have changed -/
def aside (s : EchoServer) (scene : Scene) : EchoServer where
  hall := { s.hall with trackers := scene.pool.trackers }
  listeners := scene.pool.listeners
  slots := scene.pool.slots
  call := scene.call

inductive Step (s : EchoServer) : EchoServer → Prop where
  /-- a listener accepts a connection, also after it was closed if its accept had begun before -/
  | accept {id : ListenerId} (peer : String) (hid : id ∈ s.pool.snapshot) :
      Step s (s.withHall (s.hall.accept id peer))
  | endCopy (i : Nat) (copied : CopyEnd) : Step s (s.withHall (s.hall.endCopy i copied))
  | task (i size : Nat) : Step s (s.withHall (s.hall.step i size))
  /-- something is done to the pool, or by whoever waits for a listener; the server takes no
  listener out of its pool -/
  | aside {scene : Scene} (h : s.scene.Step scene) (hguards : scene.guards = s.scene.guards)
      (hkept : ∀ id ∈ s.pool.snapshot, id ∈ scene.pool.snapshot) : Step s (s.aside scene)

abbrev Reaches : EchoServer → EchoServer → Prop := Relation.ReflTransGen Step

variable {s s' : EchoServer} {log : Bytes}

/-- every listener has a tracker, and every connection came through a registered listener -/
structure Sound (s : EchoServer) : Prop where
  counted : s.pool.Counted
  registered : ∀ t ∈ s.hall.tasks, t.listener ∈ s.pool.snapshot

theorem sound_opened (log : Bytes) : (opened log).Sound := ⟨Pool.counted_empty, nofun⟩

theorem lt_of_registered (hs : s.Sound) {id : ListenerId} (hid : id ∈ s.pool.snapshot) :
    id < s.pool.trackers.length := hs.counted.trackers ▸ hs.counted.tidy.sound id hid

/-! ## what the listeners see -/

/-- the connections of one listener have become these -/
theorem scene_moved {hall : EchoHall} (id : ListenerId) (t : Tracked)
    (htrackers : hall.trackers = s.hall.trackers.set id t.tracker)
    (hguards : ∀ other, hall.guards other = if other = id then t.guards else s.hall.guards other) :
    (s.withHall hall).scene = s.scene.moved id t := by
  show Scene.mk ⟨s.listeners, hall.trackers, s.slots⟩ hall.guards s.call = _
  rw [htrackers, funext hguards]
  rfl

theorem reaches_seen {hall : EchoHall} (hs : s.Sound) (h : s.hall.Seen hall) :
    Scene.Reaches s.scene (s.withHall hall).scene := by
  cases h with
  | nothing hguards htrackers =>
    have he : (s.withHall hall).scene = s.scene := by
      show Scene.mk ⟨s.listeners, hall.trackers, s.slots⟩ hall.guards s.call = _
      rw [hguards, htrackers]
      rfl
    rw [he]
  | @gone t g ht hg hguards htrackers =>
    have hid := lt_of_registered hs (hs.registered t ht)
    have he := scene_moved t.listener ⟨(s.scene.tracked t.listener).tracker.drop,
      (s.hall.guards t.listener).set g .gone⟩ (htrackers.trans (Scene.modify_eq_set hid _)) hguards
    rw [he]
    exact Scene.reaches_moved hid (Tracked.reaches_drop hg)

theorem scene_accept (hs : s.Sound) {id : ListenerId} (hid : id ∈ s.pool.snapshot)
    (peer : String) : s.scene.Step (s.withHall (s.hall.accept id peer)).scene := by
  have hlt := lt_of_registered hs hid
  have he := scene_moved (s := s) id
    ⟨(s.scene.tracked id).tracker.enter, s.hall.guards id ++ [.live]⟩
    (Scene.modify_eq_set hlt _) (s.hall.guards_accept id peer)
  rw [he]
  exact .connection hlt .enter

theorem scene_aside {scene : Scene} (hguards : scene.guards = s.scene.guards) :
    (s.aside scene).scene = scene := by
  show Scene.mk scene.pool s.hall.guards scene.call = _
  rw [show s.hall.guards = scene.guards from hguards.symm]

theorem Step.scene (h : Step s s') (hs : s.Sound) : Scene.Reaches s.scene s'.scene := by
  cases h with
  | accept peer hid => exact .single (scene_accept hs hid peer)
  | endCopy i copied => exact reaches_seen hs (s.hall.seen_endCopy i copied)
  | task i size => exact reaches_seen hs (s.hall.stepped i size).seen
  | aside h hguards hkept =>
    rw [scene_aside hguards]
    exact .single h

/-! ## what every step keeps -/

theorem Step.grows (h : Step s s') : s.hall.Grows s'.hall := by
  cases h with
  | accept peer => exact s.hall.grows_accept _ peer
  | endCopy i copied => exact s.hall.grows_endCopy i copied
  | task i size => exact (s.hall.stepped i size).grows
  | aside => exact .of_tasks List.prefix_rfl rfl

theorem Reaches.grows (h : Reaches s s') : s.hall.Grows s'.hall := by
  induction h with
  | refl => exact .of_tasks List.prefix_rfl rfl
  | tail _ hstep ih => exact ih.trans hstep.grows

theorem Step.sound (h : Step s s') (hs : s.Sound) : s'.Sound := by
  refine ⟨(h.scene hs).counted hs.counted, ?_⟩
  have hgrows := h.grows
  have hregistered : ∀ id ∈ s.hall.tasks.map (·.listener), id ∈ s.pool.snapshot :=
    List.forall_mem_map.mpr hs.registered
  cases h with
  | @accept id peer hid =>
    intro t ht
    rcases List.mem_append.mp ht with ht | ht
    · exact hs.registered t ht
    · rw [List.mem_singleton.mp ht]
      exact hid
  | endCopy i copied =>
    rw [← hgrows.listeners_eq (s.hall.length_endCopy i copied)] at hregistered
    exact List.forall_mem_map.mp hregistered
  | task i size =>
    rw [← hgrows.listeners_eq (s.hall.stepped i size).length] at hregistered
    exact List.forall_mem_map.mp hregistered
  | aside h hguards hkept => exact fun t ht => hkept _ (hs.registered t ht)

theorem Reaches.sound (h : Reaches s s') (hs : s.Sound) : s'.Sound := by
  induction h with
  | refl => exact hs
  | tail _ hstep ih => exact hstep.sound ih

theorem Step.returned (h : Step s s') (hreturned : s.scene.Returned) : s'.scene.Returned := by
  cases h with
  | accept | endCopy | task => exact hreturned
  | aside h => exact h.returned hreturned

/-- a drain that has returned has returned for good -/
theorem Reaches.returned (h : Reaches s s') (hreturned : s.scene.Returned) :
    s'.scene.Returned := by
  induction h with
  | refl => exact hreturned
  | tail _ hstep ih => exact hstep.returned ih

/-- **What a server does** is what its connections, its pool and its drain do. -/
theorem Reaches.scene (h : Reaches s s') (hs : s.Sound) : Scene.Reaches s.scene s'.scene := by
  induction h with
  | refl => exact .refl
  | tail hreach hstep ih => exact ih.trans (hstep.scene (Reaches.sound hreach hs))

theorem Step.recorded (h : Step s s')
    (hs : ∃ done part, s.hall.Recorded log done part) :
    ∃ done part, s'.hall.Recorded log done part := by
  obtain ⟨done, part, hs⟩ := hs
  cases h with
  | accept peer => exact ⟨done, part, hs.accept _ peer⟩
  | endCopy i copied => exact ⟨done, part, hs.endCopy i copied⟩
  | task i size => exact hs.stepped (s.hall.stepped i size)
  | aside => exact ⟨done, part, hs.of_eq rfl rfl fun j => .inl ⟨rfl, rfl⟩⟩

/-- **The log is in order**, whatever the tasks do and in whichever order. -/
theorem Reaches.recorded (h : Reaches s s')
    (hs : ∃ done part, s.hall.Recorded log done part) :
    ∃ done part, s'.hall.Recorded log done part := by
  induction h with
  | refl => exact hs
  | tail _ hstep ih => exact hstep.recorded ih

/-! ## who is in flight -/

section
variable {id : ListenerId}

/-- a listener has as many connections in flight as it has tasks that have not let theirs go -/
theorem inFlight_eq (h : (s.scene.tracked id).Sound) : s.pool.inFlight id =
    s.hall.tasks.countP fun t => t.listener = id ∧ ¬ t.Gone := by
  refine h.active.trans ?_
  show ((s.hall.tasks.filter (·.listener = id)).map EchoTask.guard).count .live = _
  rw [List.count_eq_countP, List.countP_map, List.countP_filter]
  refine List.countP_congr fun t _ => ?_
  simp [t.guard_eq_live_iff, and_comm]

/-- what holds whatever a server does -/
structure Accounted (log : Bytes) (s : EchoServer) : Prop where
  sound : s.Sound
  tracked : ∀ id, (s.scene.tracked id).Sound
  recorded : ∃ done part, s.hall.Recorded log done part

theorem accounted_opened (log : Bytes) : Accounted log (opened log) :=
  ⟨sound_opened log, Scene.sound_empty, [], [], .start _ log⟩

theorem Accounted.begun (h : Accounted log s) : Accounted log s.begun :=
  ⟨⟨h.sound.counted, h.sound.registered⟩, h.tracked, h.recorded⟩

theorem Reaches.accounted (h : Reaches s s') (hs : Accounted log s) : Accounted log s' :=
  ⟨h.sound hs.sound, fun id => (h.scene hs.sound).sound (hs.tracked id), h.recorded hs.recorded⟩

theorem Accounted.gone_of_idle (h : Accounted log s)
    (hidle : ∀ id ∈ s.pool.snapshot, s.pool.inFlight id = 0) : ∀ t ∈ s.hall.tasks, t.Gone := by
  intro t ht
  have hnone := hidle t.listener (h.sound.registered t ht)
  rw [inFlight_eq (h.tracked _), List.countP_eq_zero] at hnone
  simpa using hnone t ht

theorem reaches_steps (s : EchoServer) (moves : List (Nat × Nat)) :
    Reaches s (s.withHall (s.hall.steps moves)) := by
  induction moves generalizing s with
  | nil => exact .refl
  | cons move moves ih => exact .head (.task move.1 move.2) (ih _)

theorem Accounted.exists_gone (h : Accounted log s) :
    ∃ s', Reaches s s' ∧ ∀ i, s'.hall.stage? i = (s.hall.stage? i).map fun _ => .gone := by
  obtain ⟨done, part, hrecorded⟩ := h.recorded
  obtain ⟨moves, hmoves⟩ := hrecorded.exists_gone
  exact ⟨_, reaches_steps s moves, hmoves⟩

/-! ## a drain -/

theorem length_guards (tasks : List EchoTask) (id : ListenerId) :
    (EchoTask.guards tasks id).length = (tasks.map (·.listener)).count id := by
  rw [EchoTask.guards, List.length_map, ← List.countP_eq_length_filter, List.count_eq_countP,
    List.countP_map]
  rfl

/-- a connection that was there before is one of the older ones of its listener -/
theorem exists_older {hall hall' : EchoHall} {i : Nat} {t : EchoTask} (h : hall.Grows hall')
    (ht : hall'.tasks[i]? = some t) (hi : i < hall.tasks.length) (hlive : t.guard = .live) :
    ∃ g : Nat, (hall'.guards t.listener)[g]? = some .live ∧
      g < (hall.guards t.listener).length := by
  let old := hall'.tasks.take hall.tasks.length
  have hsame : old.map (·.listener) = hall.tasks.map (·.listener) := by
    rw [List.map_take, ← List.length_map (·.listener)]
    exact (List.prefix_iff_eq_take.mp h.listeners).symm
  have hmem : .live ∈ EchoTask.guards old t.listener := by
    have hold : t ∈ old := List.mem_of_getElem? ((List.getElem?_take_of_lt hi).trans ht)
    rw [← hlive]
    exact List.mem_map_of_mem (List.mem_filter.mpr ⟨hold, decide_eq_true rfl⟩)
  obtain ⟨g, hlt, hg⟩ := List.getElem_of_mem hmem
  refine ⟨g, ?_, ?_⟩
  · have hsplit : hall'.guards t.listener = EchoTask.guards old t.listener ++
        EchoTask.guards (hall'.tasks.drop hall.tasks.length) t.listener := by
      rw [← EchoTask.guards_append, List.take_append_drop]
      rfl
    rw [hsplit, List.getElem?_append_left hlt, List.getElem?_eq_getElem hlt, hg]
  · rw [EchoHall.guards, length_guards, ← hsame, ← length_guards]
    exact hlt

/-- **A drain waits** for all connections that were accepted before it began. -/
theorem Accounted.gone_of_drained (h : Accounted log s) (hdrain : Reaches s.begun s')
    (hreturned : s'.scene.Returned) {i : Nat} (hi : i < s.hall.tasks.length) :
    s'.hall.stage? i = some .gone := by
  obtain ⟨t, ht, hremains⟩ := hdrain.grows.tasks i _ (List.getElem?_eq_getElem hi)
  have hid : t.listener ∈ s.pool.snapshot := by
    rw [hremains.listener]
    exact h.sound.registered _ (List.getElem_mem hi)
  rw [EchoHall.stage?_eq ht]
  by_contra hlive
  have hgrows : s.hall.Grows s'.hall := hdrain.grows
  obtain ⟨g, hg, hlt⟩ := exists_older hgrows ht hi ((t.guard_eq_live_iff).mpr hlive)
  have hcall : Scene.Reaches (s.scene.begun .looking) s'.scene := hdrain.scene h.begun.sound
  obtain ⟨u, hu, hrest, hidle⟩ := hcall.idleBetween (.inl rfl) hreturned hid
  have hnew := hrest.come_since (hu.sound (s := s.scene.begun .looking) (h.tracked _)) hidle hg
  have hle : (s.hall.guards t.listener).length ≤ (u.guards t.listener).length :=
    (hu.ages t.listener).length_le
  omega

end

/-! ## the log of a server -/

/-- what a server makes of its log, and of the connections that it has accepted -/
structure Keeps (log : Bytes) (s : EchoServer) : Prop where
  /-- behind what was there at first, whole lines of the connections that have given the lock up,
  one for each, and the beginning of the line of whoever holds it -/
  recorded : ∃ done part, s.hall.Recorded log done part
  inFlight : ∀ id, s.pool.inFlight id = s.hall.tasks.countP fun t => t.listener = id ∧ ¬ t.Gone
  /-- where nothing is in flight, the log is complete -/
  complete : (∀ id ∈ s.pool.snapshot, s.pool.inFlight id = 0) → s.hall.Complete log
  /-- whoever has ended its copying can write its line and go -/
  ends : ∃ s', Reaches s s' ∧ ∀ i, s'.hall.stage? i = (s.hall.stage? i).map fun _ => .gone

theorem Accounted.keeps (h : Accounted log s) : Keeps log s where
  recorded := h.recorded
  inFlight id := inFlight_eq (h.tracked id)
  complete hidle := by
    obtain ⟨done, part, hrecorded⟩ := h.recorded
    exact hrecorded.complete (h.gone_of_idle hidle)
  ends := h.exists_gone

/-- **No line is lost**: a connection that has gone has its line, so the log is complete whenever
nothing is in flight. Once a drain has returned, the log has the lines of all connections that were
accepted before the drain began, whenever the process ends, and it is complete unless a later one is
still in flight. -/
theorem log_complete (hrun : Reaches (opened log) s) :
    (∀ s', Reaches s s' ∨ Reaches s.begun s' → Keeps log s' ∧ s.hall.Grows s'.hall) ∧
    ∀ s' s'', Reaches s.begun s' → s'.scene.Returned → Reaches s' s'' →
      (∃ done part, s''.hall.Recorded log done part ∧
        ∀ i < s.hall.tasks.length, i ∈ done ∧ s''.hall.stage? i = some .gone) ∧
      ((∀ t ∈ s''.hall.tasks.drop s.hall.tasks.length, t.Gone) → s''.hall.Complete log) := by
  have hs : Accounted log s := hrun.accounted (accounted_opened log)
  constructor
  · rintro s' (hlater | hdrain)
    · exact ⟨(hlater.accounted hs).keeps, hlater.grows⟩
    · exact ⟨(hdrain.accounted hs.begun).keeps, hdrain.grows⟩
  · intro s' s'' hdrain hreturned hlater
    have hend : Reaches s.begun s'' := hdrain.trans hlater
    obtain ⟨done, part, hrecorded⟩ := (hend.accounted hs.begun).recorded
    have hgone (i : Nat) (hi : i < s.hall.tasks.length) : s''.hall.stage? i = some .gone :=
      hs.gone_of_drained hend (hlater.returned hreturned) hi
    refine ⟨⟨done, part, hrecorded, fun i hi => ?_⟩, fun hlate => hrecorded.complete fun t ht => ?_⟩
    · exact ⟨(hrecorded.mem_iff i).mpr (.inr (hgone i hi)), hgone i hi⟩
    · rw [← List.take_append_drop s.hall.tasks.length s''.hall.tasks] at ht
      rcases List.mem_append.mp ht with hold | hnew
      · obtain ⟨i, hi, rfl⟩ := List.mem_take_iff_getElem.mp hold
        have hthere : i < s''.hall.tasks.length := Nat.lt_of_lt_of_le hi (Nat.min_le_right _ _)
        rw [EchoTask.Gone, ← EchoHall.stage?_eq (List.getElem?_eq_getElem hthere)]
        exact hgone i (Nat.lt_of_lt_of_le hi (Nat.min_le_left _ _))
      · exact hlate t hnew

/-! ## two connections and a drain -/

namespace LastOrders

theorem reaches_pool {deed : Pool.Deed} (hdeed : deed.Quiet)
    (hkept : ∀ id ∈ s.pool.snapshot, id ∈ (s.pool.did deed).snapshot) :
    Reaches s (s.aside { s.scene with pool := s.pool.did deed }) :=
  .single (.aside (.pool hdeed) rfl hkept)

/-- one listener, and a log that has a line already -/
def listening : EchoServer :=
  let s := opened [35, 10]
  s.aside { s.scene with pool := s.pool.did (.add ⟨0, "a"⟩) }

theorem reaches_listening : Reaches (opened [35, 10]) listening := reaches_pool trivial nofun

/-- of two connections one writes its line, and the other, whose copying has failed, waits -/
def busy : EchoServer :=
  let hall := (listening.hall.accept 0 "p").accept 0 "q"
  listening.withHall (((hall.endCopy 0 (.bytes 5)).endCopy 1 .failed).steps [(0, 0), (0, 1), (1, 0)])

theorem reaches_busy : Reaches (opened [35, 10]) busy := by
  have hfirst : Step listening (listening.withHall (listening.hall.accept 0 "p")) :=
    .accept "p" (by decide)
  have hsecond : Step _ (listening.withHall ((listening.hall.accept 0 "p").accept 0 "q")) :=
    .accept (s := listening.withHall (listening.hall.accept 0 "p")) "q" (by decide)
  exact ((((reaches_listening.tail hfirst).tail hsecond).tail (.endCopy 0 (.bytes 5))).tail
    (.endCopy 1 .failed)).trans (reaches_steps _ _)

/-- the tracker of the listener and the drain have come to these -/
def attended (s : EchoServer) (tracker : Tracker) (stand : Stand) : EchoServer :=
  s.aside ((s.scene.moved 0 { s.scene.tracked 0 with tracker }).calling [(0, stand)])

theorem reaches_attended {tracker : Tracker} {stand : Stand}
    (h : s.scene.Step ((s.scene.moved 0 { s.scene.tracked 0 with tracker }).calling [(0, stand)])) :
    Reaches s (attended s tracker stand) := by
  refine .single (.aside h ?_ fun _ hid => hid)
  rw [Scene.moved_tracker]
  rfl

def waits : EchoServer :=
  attended (attended busy.begun ⟨2, []⟩ .joining) ⟨2, [.starting]⟩ (.waiting 0)

def gone : EchoServer :=
  waits.withHall (waits.hall.steps [(0, 9), (0, 0), (0, 0), (1, 0), (1, 9), (1, 0), (1, 0)])

def returned : EchoServer :=
  attended (attended (attended gone ⟨0, [.registered false]⟩ (.waiting 0)) ⟨0, [.finished]⟩
    (.waiting 0)) ⟨0, [.finished]⟩ .passed

theorem reaches_returned : Reaches busy.begun returned := by
  have hlook : Reaches busy.begun (attended busy.begun ⟨2, []⟩ .joining) :=
    reaches_attended (.call (k := 0) (by decide) rfl (.busy (by decide)))
  have hjoin : Reaches (attended busy.begun ⟨2, []⟩ .joining) waits :=
    reaches_attended (.call (k := 0) (by decide) rfl .join)
  have hgone : Reaches waits gone := reaches_steps _ _
  have hregister : Reaches gone (attended gone ⟨0, [.registered false]⟩ (.waiting 0)) :=
    reaches_attended (.connection (by decide) (.wait 0))
  have hread : Reaches (attended gone ⟨0, [.registered false]⟩ (.waiting 0))
      (attended (attended gone ⟨0, [.registered false]⟩ (.waiting 0)) ⟨0, [.finished]⟩
        (.waiting 0)) :=
    reaches_attended (.connection (by decide) (.wait 0))
  have hpass : Reaches (attended (attended gone ⟨0, [.registered false]⟩ (.waiting 0))
      ⟨0, [.finished]⟩ (.waiting 0)) returned :=
    reaches_attended (.call (k := 0) (by decide) rfl (.woken rfl))
  exact hlook.trans (hjoin.trans (hgone.trans (hregister.trans (hread.trans hpass))))

end LastOrders

/-- two connections are in flight when a drain begins, one in the middle of its line and one whose
copying has failed; both lines are there when the drain returns -/
theorem log_complete_returned :
    Reaches (opened [35, 10]) LastOrders.busy ∧ LastOrders.busy.pool.inFlight 0 = 2 ∧
    LastOrders.busy.hall.log = [35, 10, 112] ∧
    Reaches LastOrders.busy.begun LastOrders.returned ∧ LastOrders.returned.scene.Returned ∧
    LastOrders.returned.pool.inFlight 0 = 0 ∧ LastOrders.returned.hall.Complete [35, 10] ∧
    LastOrders.returned.hall.log = [35, 10, 112, 32, 53, 10, 113, 32, 48, 10] := by
  have hreturned : LastOrders.returned.scene.Returned := by decide
  obtain ⟨-, hdrained⟩ := log_complete LastOrders.reaches_busy
  obtain ⟨-, hcomplete⟩ := hdrained _ _ LastOrders.reaches_returned hreturned .refl
  exact ⟨LastOrders.reaches_busy, by decide, by decide, LastOrders.reaches_returned, hreturned,
    by decide, hcomplete (by decide), by decide⟩

namespace LastOrders

/-- all listeners are closed, and nothing is in flight -/
def shut : EchoServer := listening.aside { listening.scene with pool := listening.pool.closeAll }

def drained : EchoServer := attended shut.begun ⟨0, []⟩ .passed

/-- an accept that has waited since before the close takes a client, and the copying ends -/
def belated : EchoServer :=
  drained.withHall ((drained.hall.accept 0 "r").endCopy 0 (.bytes 4))

theorem reaches_shut : Reaches (opened [35, 10]) shut := by
  have hquiet : Pool.Deed.closeAll.Quiet := trivial
  have hclosed : Reaches listening shut := reaches_pool hquiet (by decide)
  exact reaches_listening.trans hclosed

theorem reaches_drained : Reaches shut.begun drained :=
  reaches_attended (.call (k := 0) (by decide) rfl (.idle rfl))

theorem reaches_belated : Reaches drained belated := by
  have hcome : Step drained (drained.withHall (drained.hall.accept 0 "r")) :=
    .accept "r" (by decide)
  exact .tail (.single hcome) (.endCopy 0 (.bytes 4))

end LastOrders

/-- **A line is lost** when a process ends after a successful drain: an accept that waits when its
listener is closed may still take a client, and does so after the drain has returned. -/
theorem belated_line_lost :
    (AcceptPhase.waiting.poll false ⟨true, ["r"], .new⟩).1 = .accepted "r" ∧
    Reaches (opened [35, 10]) LastOrders.shut ∧ LastOrders.shut.pool.snapshot = [0] ∧
    (∀ l ∈ LastOrders.shut.listeners, l.closed = true) ∧
    Reaches LastOrders.shut.begun LastOrders.drained ∧ LastOrders.drained.scene.Returned ∧
    ∃ s, Reaches LastOrders.drained s ∧ s.pool.inFlight 0 = 1 ∧
      s.hall.line 0 = [114, 32, 52, 10] ∧ s.hall.log = [35, 10] ∧ ¬ s.hall.Complete [35, 10] := by
  have hflying : ¬ LastOrders.belated.hall.Complete [35, 10] := by
    rintro ⟨hgone, -⟩
    have hlive : ¬ ∀ t ∈ LastOrders.belated.hall.tasks, t.Gone := by decide
    exact hlive hgone
  exact ⟨rfl, LastOrders.reaches_shut, by decide, by decide, LastOrders.reaches_drained, by decide,
    LastOrders.belated, LastOrders.reaches_belated, by decide, by decide, by decide, hflying⟩

end EchoServer
end Succession
