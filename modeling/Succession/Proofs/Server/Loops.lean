import Mathlib.Data.List.Forall2
import Mathlib.Data.List.Infix
import Succession.Proofs.Handoff.Reload
import Succession.Proofs.Listener.Places
import Succession.Proofs.Program.Exchanges
import Succession.Server.Start

/-!
# Which listeners are served

A server starts one accept loop for each address of its configuration: on the first registered
listener that the address leads to, or on one that it binds. It does not look at the pool otherwise.
So a successor has a loop on each listener that it binds, and of those that it inherited exactly on
the ones that an address leads to. The others stay as they were taken over, open and registered, and
the next successor is handed their sockets.

* `Pool.Grown`               listeners have been added to a pool, and that is all;
* `Obtained`                 how an address comes to its listener: one step;
* `Sought`, `Attended`       the listeners of a configuration: the whole run;
* `Daemon.serve_inherited`   a server on an inherited pool.
-/

namespace Succession

/-! ## pools that grow -/

namespace Pool

variable {p p' p'' : Pool} {id : ListenerId}

/-- listeners have been added to a pool, and that is all -/
structure Grown (p p' : Pool) : Prop where
  sound : p'.Sound
  /-- new listeners are numbered on, and nothing has happened to the others -/
  older : p.listeners <+: p'.listeners
  places : ∀ {place id}, p.occupant place = some id → p'.occupant place = some id
  newer : ∀ {id}, id ∈ p'.snapshot → id ∉ p.snapshot →
    p.listeners.length ≤ id ∧ p'.isClosed id = false

theorem mem_snapshot_iff_occupant : id ∈ p.snapshot ↔ ∃ place, p.occupant place = some id := by
  rw [mem_snapshot, List.mem_iff_getElem?]
  exact exists_congr fun place => Option.join_eq_some_iff.symm

namespace Grown

theorem refl (hp : p.Sound) : p.Grown p :=
  ⟨hp, List.prefix_rfl, fun h => h, fun h hnot => absurd h hnot⟩

theorem listener? (h : p.Grown p') (hid : id < p.listeners.length) :
    p'.listener? id = p.listener? id := by
  obtain ⟨more, hmore⟩ := h.older
  show p'.listeners[id]? = p.listeners[id]?
  rw [← hmore, List.getElem?_append_left hid]

theorem address (h : p.Grown p') (hid : id < p.listeners.length) :
    p'.address id = p.address id := by
  unfold Pool.address
  rw [h.listener? hid]

theorem mem_snapshot (h : p.Grown p') (hid : id ∈ p.snapshot) : id ∈ p'.snapshot := by
  obtain ⟨place, hplace⟩ := mem_snapshot_iff_occupant.mp hid
  exact mem_snapshot_iff_occupant.mpr ⟨place, h.places hplace⟩

theorem trans (h : p.Grown p') (h' : p'.Grown p'') : p.Grown p'' where
  sound := h'.sound
  older := h.older.trans h'.older
  places := fun hplace => h'.places (h.places hplace)
  newer := by
    intro id hid hnot
    by_cases hbetween : id ∈ p'.snapshot
    · obtain ⟨hlate, hopen⟩ := h.newer hbetween hnot
      refine ⟨hlate, ?_⟩
      unfold isClosed
      rw [h'.listener? (h.sound id hbetween)]
      exact hopen
    · obtain ⟨hlate, hopen⟩ := h'.newer hid hbetween
      exact ⟨h.older.length_le.trans hlate, hopen⟩

end Grown

theorem mem_snapshot_add (p : Pool) (socket : Socket) :
    id ∈ (p.add socket).2.snapshot ↔ id = p.listeners.length ∨ id ∈ p.snapshot :=
  (perm_fill p.slots).mem_iff.trans List.mem_cons

theorem listener?_add (p : Pool) (socket : Socket) :
    (p.add socket).2.listener? p.listeners.length = some ⟨socket, false⟩ :=
  List.getElem?_concat_length

theorem grown_add (hp : p.Sound) (socket : Socket) : p.Grown (p.add socket).2 where
  sound := hp.add socket
  older := List.prefix_append ..
  places := by
    intro place id hplace
    have hne : place ≠ p.vacancy := by
      rintro rfl
      rw [(occupant_vacancy p).1] at hplace
      cases hplace
    refine (getElem?_fill p.slots place).trans ?_
    exact (if_neg hne).trans hplace
  newer := by
    intro id hid hnot
    obtain rfl | hid := (mem_snapshot_add p socket).mp hid
    · refine ⟨Nat.le_refl _, ?_⟩
      unfold isClosed
      rw [listener?_add]
      rfl
    · exact absurd hid hnot

/-- the first registered listener of some addresses is registered, and has one of them -/
theorem findFirst?_some {addresses : List String} (h : p.findFirst? addresses = some id) :
    id ∈ p.snapshot ∧ ∃ address ∈ addresses, p.address id = some address := by
  induction addresses with
  | nil => cases h
  | cons address rest ih =>
    unfold findFirst? at h
    split at h
    · next found hfound =>
      obtain rfl := Option.some.inj h
      have hits : (p.address found == some address) = true :=
        List.find?_some (p := fun id => p.address id == some address) hfound
      exact ⟨List.mem_of_find?_eq_some hfound, address, List.mem_cons_self, eq_of_beq hits⟩
    · obtain ⟨hid, other, hother, ha⟩ := ih h
      exact ⟨hid, other, List.mem_cons_of_mem _ hother, ha⟩

theorem grown_addAll (hp : p.Sound) (sockets : List Socket) : p.Grown (p.addAll sockets) := by
  induction sockets generalizing p with
  | nil => exact .refl hp
  | cons socket rest ih => exact (grown_add hp socket).trans (ih (hp.add socket))

end Pool

/-! ## the listener of one address -/

section
variable {net : Network} {p p' p'' : Pool} {id : ListenerId} {address : String}
  {forms listen : List String} {loops : List ListenerId}

/-- the listener of an address that has these forms: a registered one, or else a new one -/
inductive Obtained (net : Network) (p : Pool) (forms : List String) : ListenerId → Pool → Prop where
  | taken {id : ListenerId} (h : p.findFirst? forms = some id) : Obtained net p forms id p
  | bound {address : String} (hnone : p.findFirst? forms = none)
      (h : net.bind p forms = .ok address) :
      Obtained net p forms p.listeners.length (p.add ⟨p.freshSocket, address⟩).2

theorem takeOrBind_eq_ok_iff :
    takeOrBind net p address = .ok (id, p') ↔
      ∃ forms, net.resolve address = .ok forms ∧ Obtained net p forms id p' := by
  unfold takeOrBind
  constructor
  · intro h
    split at h
    · cases h
    · next forms hresolve =>
      refine ⟨forms, hresolve, ?_⟩
      split at h
      · next hfound =>
        cases h
        exact .taken hfound
      · next hnone =>
        split at h
        · cases h
        · next hbind =>
          cases h
          exact .bound hnone hbind
  · rintro ⟨forms, hresolve, hobtained⟩
    rw [hresolve]
    cases hobtained with
    | taken hfound => simp only [hfound]
    | bound hnone hbind =>
      simp only [hnone, hbind]
      rfl

namespace Obtained

theorem grown (h : Obtained net p forms id p') (hp : p.Sound) : p.Grown p' := by
  cases h with
  | taken => exact .refl hp
  | bound => exact Pool.grown_add hp _

theorem mem (h : Obtained net p forms id p') : id ∈ p'.snapshot := by
  cases h with
  | taken h => exact (Pool.findFirst?_some h).1
  | bound => exact (Pool.mem_snapshot_add p _).mpr (.inl rfl)

/-- nobody else is registered on the way -/
theorem mem_cases (h : Obtained net p forms id p') {other : ListenerId}
    (hother : other ∈ p'.snapshot) : other = id ∨ other ∈ p.snapshot := by
  cases h with
  | taken => exact .inr hother
  | bound => exact (Pool.mem_snapshot_add p _).mp hother

/-- a listener that was registered before is found, and not bound -/
theorem eq_iff (h : Obtained net p forms id p') (hp : p.Sound) {other : ListenerId}
    (hother : other ∈ p.snapshot) : other = id ↔ p.findFirst? forms = some other := by
  cases h with
  | taken h =>
    rw [h, Option.some.injEq]
    exact eq_comm
  | bound hnone =>
    rw [hnone]
    have hlt := hp other hother
    constructor
    · exact fun h => absurd hlt (h ▸ Nat.lt_irrefl _)
    · exact fun h => absurd h nofun

end Obtained

/-! ## the listeners of a configuration -/

/-- one of some addresses leads to a listener, once those before it have their listeners -/
def Sought (net : Network) (p : Pool) (listen : List String) (id : ListenerId) : Prop :=
  ∃ before address after forms, listen = before ++ address :: after ∧
    net.resolve address = .ok forms ∧ (listenAll net p before).2.findFirst? forms = some id

/-- a registered listener has one of the forms of an address, or was bound for them -/
def ListensTo (net : Network) (p : Pool) (address : String) (id : ListenerId) : Prop :=
  id ∈ p.snapshot ∧ ∃ forms, net.resolve address = .ok forms ∧ ∃ own, p.address id = some own ∧
    (own ∈ forms ∨ ∃ earlier, net.bind earlier forms = .ok own)

/-- the loops that are started for some addresses, and the pool before and after -/
structure Attended (net : Network) (p p' : Pool) (listen : List String)
    (loops : List ListenerId) : Prop where
  grown : p.Grown p'
  /-- a loop for each address -/
  each : List.Forall₂ (ListensTo net p') listen loops
  /-- what is bound has a loop -/
  bound : ∀ id ∈ p'.snapshot, id ∉ p.snapshot → id ∈ loops
  /-- what was registered before has one if an address leads to it, and only then -/
  found : ∀ id ∈ p.snapshot, id ∈ loops ↔ Sought net p listen id

theorem listenAll_cons_ok (h : listenAll net p (address :: listen) = (.ok loops, p'')) :
    ∃ id p' rest, takeOrBind net p address = .ok (id, p') ∧
      listenAll net p' listen = (.ok rest, p'') ∧ loops = id :: rest := by
  unfold listenAll at h
  split at h
  · cases h
  · next id p' htaken =>
    split at h
    · cases h
    · next rest p₂ hrest =>
      cases h
      exact ⟨id, p', rest, htaken, hrest, rfl⟩

/-- the pool after a first address that has its listener -/
theorem listenAll_cons_pool (h : takeOrBind net p address = .ok (id, p')) (before : List String) :
    (listenAll net p (address :: before)).2 = (listenAll net p' before).2 := by
  rw [listenAll, h]
  dsimp only
  split <;> simp only [*]

theorem sought_cons (hresolve : net.resolve address = .ok forms)
    (h : takeOrBind net p address = .ok (id, p')) {other : ListenerId} :
    Sought net p (address :: listen) other ↔
      p.findFirst? forms = some other ∨ Sought net p' listen other := by
  constructor
  · rintro ⟨before, address', after, forms', he, hresolve', hfound⟩
    cases before with
    | nil =>
      obtain ⟨rfl, rfl⟩ := List.cons.inj he
      rw [hresolve] at hresolve'
      cases hresolve'
      exact .inl hfound
    | cons first before =>
      obtain ⟨rfl, rfl⟩ := List.cons.inj he
      rw [listenAll_cons_pool h] at hfound
      exact .inr ⟨before, address', after, forms', rfl, hresolve', hfound⟩
  · rintro (hfound | ⟨before, address', after, forms', rfl, hresolve', hfound⟩)
    · exact ⟨[], address, listen, forms, rfl, hresolve, hfound⟩
    · rw [← listenAll_cons_pool h] at hfound
      exact ⟨address :: before, address', after, forms', rfl, hresolve', hfound⟩

theorem ListensTo.grown (h : ListensTo net p address id) (hp : p.Sound) (hgrown : p.Grown p') :
    ListensTo net p' address id := by
  obtain ⟨hid, forms, hresolve, own, hown, hform⟩ := h
  refine ⟨hgrown.mem_snapshot hid, forms, hresolve, own, ?_, hform⟩
  rw [hgrown.address (hp id hid)]
  exact hown

theorem Obtained.listensTo (h : Obtained net p forms id p')
    (hresolve : net.resolve address = .ok forms) : ListensTo net p' address id := by
  refine ⟨h.mem, forms, hresolve, ?_⟩
  cases h with
  | taken h =>
    obtain ⟨-, own, hform, hown⟩ := Pool.findFirst?_some h
    exact ⟨own, hown, .inl hform⟩
  | bound hnone hbind =>
    refine ⟨_, ?_, .inr ⟨p, hbind⟩⟩
    unfold Pool.address
    rw [Pool.listener?_add]
    rfl

/-- **The listeners of a configuration**, from those of its addresses one after the other. -/
theorem attended_listenAll (hp : p.Sound) (h : listenAll net p listen = (.ok loops, p')) :
    Attended net p p' listen loops := by
  induction listen generalizing p loops with
  | nil =>
    cases h
    refine ⟨.refl hp, .nil, fun id hid hnot => absurd hid hnot, fun id hid => ?_⟩
    constructor
    · nofun
    · rintro ⟨before, _, _, _, he, -⟩
      cases before <;> cases he
  | cons address listen ih =>
    obtain ⟨id, between, rest, htaken, hrest, rfl⟩ := listenAll_cons_ok h
    obtain ⟨forms, hresolve, hobtained⟩ := takeOrBind_eq_ok_iff.mp htaken
    have hfirst := hobtained.grown hp
    have hlater := ih hfirst.sound hrest
    refine ⟨hfirst.trans hlater.grown, ?_, ?_, ?_⟩
    · have hlistens := hobtained.listensTo hresolve
      exact .cons (hlistens.grown hfirst.sound hlater.grown) hlater.each
    · intro other hother hnot
      by_cases hbetween : other ∈ between.snapshot
      · obtain rfl | hbefore := hobtained.mem_cases hbetween
        · exact List.mem_cons_self
        · exact absurd hbefore hnot
      · exact List.mem_cons_of_mem _ (hlater.bound other hother hbetween)
    · intro other hother
      rw [List.mem_cons, hobtained.eq_iff hp hother,
        hlater.found other (hfirst.mem_snapshot hother), sought_cons hresolve htaken]

/-- the pool of a configuration, also of one that cannot be served -/
theorem grown_listenAll (hp : p.Sound) (listen : List String) :
    p.Grown (listenAll net p listen).2 := by
  induction listen generalizing p with
  | nil => exact .refl hp
  | cons address listen ih =>
    cases htaken : takeOrBind net p address with
    | error e =>
      rw [listenAll, htaken]
      exact .refl hp
    | ok taken =>
      obtain ⟨forms, -, hobtained⟩ := takeOrBind_eq_ok_iff.mp htaken
      have hfirst := hobtained.grown hp
      rw [listenAll_cons_pool htaken]
      exact hfirst.trans (ih hfirst.sound)

/-- whoever is sought has a form of one of the addresses -/
theorem Sought.exists_form (hp : p.Sound) (hid : id ∈ p.snapshot) (h : Sought net p listen id) :
    ∃ address ∈ listen, ∃ forms, net.resolve address = .ok forms ∧
      ∃ form ∈ forms, p.address id = some form := by
  obtain ⟨before, address, after, forms, rfl, hresolve, hfound⟩ := h
  obtain ⟨-, form, hform, hown⟩ := Pool.findFirst?_some hfound
  rw [(grown_listenAll hp before).address (hp id hid)] at hown
  exact ⟨address, by simp, forms, hresolve, form, hform, hown⟩

end

/-! ## a server on an inherited pool -/

namespace Daemon

variable {d d' : Daemon} {net : Network} {config : ServerConfig} {serving : Serving}
  {xs : List Exchange} {slots : List Slot} {files : List ExtraFile} {sockets : List Socket}
  {stdio : Option StdioPipes}

theorem daemonStdio_ok (h : d.daemonStdio.Takes xs (.ok stdio, d')) : d' = d := by
  unfold daemonStdio at h
  split at h
  · obtain ⟨opened, ys, rfl, hopened⟩ := h.ask_inv
    cases opened with
    | error source => cases hopened.done_inv.2
    | ok pipes =>
      cases hopened.done_inv.2
      rfl
  · cases h.done_inv.2
    rfl

theorem settleIn_ok (h : (d.settleIn slots files sockets).Takes xs (.ok stdio, d')) :
    d'.pool = d.pool.addAll sockets := by
  unfold settleIn at h
  obtain ⟨entered, ys, rfl, hentered⟩ := h.ask_inv
  cases entered with
  | error source => cases hentered.done_inv.2
  | ok =>
    obtain ⟨-, zs, rfl, hcleared⟩ := hentered.ask_inv
    obtain ⟨parent, ys, rfl, hparent⟩ := hcleared.ask_inv
    obtain ⟨told, zs, rfl, htold⟩ := hparent.ask_inv
    cases told with
    | error source => cases htold.done_inv.2
    | ok =>
      rw [daemonStdio_ok htold]
      rfl

/-- a take-over adds sockets to the pool -/
theorem takeOver_ok (h : d.takeOver.Takes xs (.ok stdio, d')) :
    ∃ sockets, d'.pool = d.pool.addAll sockets := by
  unfold takeOver at h
  split at h
  · cases h.done_inv.2
  · obtain ⟨ys, zs, adopted, rfl, -, hrest⟩ := h.bind_inv
    cases adopted with
    | error failure => cases hrest.done_inv.2
    | ok files =>
      obtain ⟨ys', zs', listening, rfl, -, hlast⟩ := hrest.bind_inv
      cases listening with
      | error e => cases hlast.done_inv.2
      | ok sockets => exact ⟨sockets, settleIn_ok hlast⟩

theorem serve_ok (h : (d.serve net config).Takes xs (.ok serving, d')) :
    listenAll net d.pool config.listen = (.ok serving.loops, d'.pool) := by
  unfold serve at h
  obtain ⟨ys, zs, opened, rfl, -, hrest⟩ := h.bind_inv
  cases opened with
  | error e => cases hrest.done_inv.2
  | ok accessLog =>
    dsimp only at hrest
    split at hrest
    · cases hrest.done_inv.2
    · next hlisten =>
      cases hrest.done_inv.2
      exact hlisten

def HandsOn (d : Daemon) (id : ListenerId) : Prop :=
  ∃ socket, d.pool.listener? id = some ⟨socket, false⟩ ∧
    ∀ (host host' : Host) (pid : Nat) (d' : Daemon), host.run d.reload = ((.ok pid, d'), host') →
      ∃ plan, host'.process.launches = host.process.launches ++ [(pid, plan)] ∧
        .socket socket ∈ plan.descriptors

theorem handsOn (d : Daemon) {id : ListenerId} {socket : Socket} (hid : id ∈ d.pool.snapshot)
    (hl : d.pool.listener? id = some ⟨socket, false⟩) : d.HandsOn id := by
  refine ⟨socket, hl, fun host host' pid d' h => ?_⟩
  obtain ⟨plan, hlaunched, -, hdescriptors⟩ := Host.run_reload h
  refine ⟨plan, hlaunched, ?_⟩
  rw [hdescriptors]
  have hsocket : socket ∈ d.pool.sockets := List.mem_filterMap.mpr ⟨id, hid, by rw [hl]; rfl⟩
  exact List.mem_append_right _ (List.mem_map_of_mem hsocket)

/-- what a server that has taken over from another serves, and what it leaves -/
structure Serves (net : Network) (listen : List String) (heir d : Daemon)
    (loops : List ListenerId) : Prop where
  attended : Attended net heir.pool d.pool listen loops
  /-- nothing is closed on the way -/
  unclosed : ∀ id ∈ d.pool.snapshot, d.pool.isClosed id = false
  /-- whatever is open is served if the configuration leads to everything that was inherited, and
  only then -/
  complete : (∀ id ∈ d.pool.snapshot, d.pool.isClosed id = false → id ∈ loops) ↔
    ∀ id ∈ heir.pool.snapshot, Sought net heir.pool listen id
  /-- an inherited listener without a loop is kept, and handed on -/
  left : ∀ id ∈ heir.pool.snapshot, ¬ Sought net heir.pool listen id →
    id ∉ loops ∧ id ∈ d.pool.snapshot ∧ d.HandsOn id
  /-- no address leads to a listener that has none of their forms -/
  dropped : ∀ id ∈ heir.pool.snapshot,
    (∀ address ∈ listen, ∀ forms, net.resolve address = .ok forms →
      ∀ form ∈ forms, heir.pool.address id ≠ some form) →
    ¬ Sought net heir.pool listen id

/-- **What a successor serves.** -/
theorem serve_inherited {settings : DaemonConfig} {env : Environment} {hasLogger : Bool}
    {heir : Daemon} {ys : List Exchange}
    (hheir : (Daemon.new settings env hasLogger).takeOver.Takes xs (.ok stdio, heir))
    (hserve : (heir.serve net config).Takes ys (.ok serving, d)) :
    Serves net config.listen heir d serving.loops := by
  obtain ⟨sockets, hpool⟩ := takeOver_ok hheir
  have hmade : Pool.empty.Grown heir.pool := by
    rw [hpool]
    exact Pool.grown_addAll Pool.sound_empty sockets
  have hp := hmade.sound
  have hattended := attended_listenAll hp (serve_ok hserve)
  have hunclosed : ∀ id ∈ d.pool.snapshot, d.pool.isClosed id = false := by
    intro id hid
    exact ((hmade.trans hattended.grown).newer hid (List.not_mem_nil)).2
  refine ⟨hattended, hunclosed, ⟨fun h id hid => ?_, fun h id hid _ => ?_⟩, ?_, ?_⟩
  · have hnow := hattended.grown.mem_snapshot hid
    exact (hattended.found id hid).mp (h id hnow (hunclosed id hnow))
  · by_cases hbefore : id ∈ heir.pool.snapshot
    · exact (hattended.found id hbefore).mpr (h id hbefore)
    · exact hattended.bound id hid hbefore
  · intro id hid hnot
    have hnow := hattended.grown.mem_snapshot hid
    refine ⟨fun hloop => hnot ((hattended.found id hid).mp hloop), hnow, ?_⟩
    obtain ⟨⟨socket, closed⟩, hl⟩ := hattended.grown.sound.exists_listener hnow
    have hopen := hunclosed id hnow
    unfold Pool.isClosed at hopen
    rw [hl] at hopen
    obtain rfl : closed = false := hopen
    exact d.handsOn hnow hl
  · intro id hid hnone hsought
    obtain ⟨address, haddress, forms, hresolve, form, hform, hown⟩ := hsought.exists_form hp hid
    exact hnone address haddress forms hresolve form hform hown

end Daemon

/-! ## an address that has left the configuration -/

namespace Moved

def settings : DaemonConfig := ⟨false, .ofText "/molt.pid", .ofText "/srv", 10⟩

/-- a successor that is handed two sockets -/
def env : Environment := ⟨[("MOLT_RELOAD", "reload"), ("MOLT_LISTENERS", "2")]⟩

def sockets : List Socket := [⟨0, "127.0.0.1:7001"⟩, ⟨1, "127.0.0.1:7002"⟩]

def told : List Exchange :=
  [⟨.adopt 3, .ok (.socket ⟨0, "127.0.0.1:7001"⟩)⟩, ⟨.adopt 4, .ok (.socket ⟨1, "127.0.0.1:7002"⟩)⟩,
    ⟨.enterWorkDir (.ofText "/srv"), .ok ()⟩, ⟨.clearUmask, ()⟩, ⟨.parentId, (41 : Nat)⟩,
    ⟨.signal 41 .interrupt, .ok ()⟩]

def heir : Daemon :=
  { Daemon.new settings .empty false with pool := Pool.empty.addAll sockets }

/-- the first address is not configured any more -/
def config : ServerConfig := ⟨["127.0.0.1:7002"], none, 5⟩

def server : Daemon := { heir with shutdown := .drain config.drainTimeout }

theorem takes_told : (Daemon.new settings env false).takeOver.Takes told (.ok none, heir) :=
  .ask _ (.ask _ (.ask _ (.ask _ (.ask _ (.ask _ (.done _))))))

theorem takes_serve :
    (heir.serve (.isolated []) config).Takes [] (.ok ⟨[1], none⟩, server) := .done _

end Moved

namespace Daemon

/-- no loop runs on the first socket, and it is handed on -/
theorem serve_inherited_moved :
    (Daemon.new Moved.settings Moved.env false).takeOver.Takes Moved.told (.ok none, Moved.heir) ∧
    (Moved.heir.serve (.isolated []) Moved.config).Takes [] (.ok ⟨[1], none⟩, Moved.server) ∧
    0 ∉ [1] ∧ Moved.server.HandsOn 0 := by
  have hserves := serve_inherited Moved.takes_told Moved.takes_serve
  have hinherited : 0 ∈ Moved.heir.pool.snapshot := by decide
  have hdropped : ¬ Sought (.isolated []) Moved.heir.pool Moved.config.listen 0 := by
    refine hserves.dropped 0 hinherited fun address haddress forms hresolve form hform => ?_
    obtain rfl := List.mem_singleton.mp haddress
    cases hresolve
    obtain rfl := List.mem_singleton.mp hform
    decide
  obtain ⟨hloop, -, hon⟩ := hserves.left 0 hinherited hdropped
  exact ⟨Moved.takes_told, Moved.takes_serve, hloop, hon⟩

/-- not everything that is registered and open is served: the first socket is not -/
theorem serve_inherited_unserved :
    ¬ ∀ (settings : DaemonConfig) (env : Environment) (hasLogger : Bool) (net : Network)
        (config : ServerConfig) (heir d : Daemon) (serving : Serving)
        (stdio : Option StdioPipes) (xs ys : List Exchange),
      (Daemon.new settings env hasLogger).takeOver.Takes xs (.ok stdio, heir) →
      (heir.serve net config).Takes ys (.ok serving, d) →
      ∀ id ∈ d.pool.snapshot, d.pool.isClosed id = false → id ∈ serving.loops := by
  intro hall
  have hserved : 0 ∈ [1] :=
    hall _ _ _ _ _ _ _ _ _ _ _ Moved.takes_told Moved.takes_serve 0 (by decide) (by decide)
  cases List.mem_singleton.mp hserved

end Daemon
end Succession
