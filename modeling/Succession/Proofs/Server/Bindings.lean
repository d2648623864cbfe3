import Succession.Proofs.Server.Loops

/-!
# What a server binds

An address is bound only if none of the forms that it resolves to belongs to a registered listener.
Once it has its listener, one of its forms does, and from then on the address is covered: asked for
again, it gives a registered listener and leaves the pool alone, even where nothing could be bound.
Nothing that a configuration does to the pool ends that, as it only adds listeners; so a second pass
over the same configuration binds nothing, and neither does the first pass of a successor that has
inherited the sockets.

* `Network.Exact`           what a network is relied on for;
* `Covered`                 an address has its listener, whatever else is in the pool;
* `Settled`                 how one address comes to its listener: one step;
* `listenAll_of_covered`    a configuration whose addresses all have their listeners;
* `binds_what_is_missing`   the listeners of addresses, and of configurations.
-/

namespace Succession

/-- what resolves an address; it says nothing of what can be bound -/
abbrev Resolver := String → Except IoError (List String)

/-- a form that asks for a port of its own, and not for any that is free -/
def Ported (form : String) : Prop :=
  ∃ a, SocketAddress.parse? form.toList = some a ∧ a.port ≠ 0

/-- addresses resolve to ports of their own, and a socket that is bound for such forms has one of
them -/
structure Network.Exact (net : Network) : Prop where
  ported : ∀ {address forms}, net.resolve address = .ok forms → ∀ form ∈ forms, Ported form
  bound : ∀ {address forms}, net.resolve address = .ok forms → (∀ form ∈ forms, Ported form) →
    ∀ {p own}, net.bind p forms = .ok own → own ∈ forms

section
variable {net : Network} {resolver : Resolver} {p p' p'' : Pool} {id : ListenerId}
  {address : String} {forms listen : List String} {loops : List ListenerId}

theorem Network.Exact.mem (hnet : net.Exact) (hresolve : net.resolve address = .ok forms)
    {own : String} (hbind : net.bind p forms = .ok own) : own ∈ forms :=
  hnet.bound hresolve (hnet.ported hresolve) hbind

/-! ## looking for forms -/

namespace Pool

theorem find?_eq_none_iff : p.find? address = none ↔
    ∀ id ∈ p.snapshot, p.address id ≠ some address := by
  unfold find?
  simp only [List.find?_eq_none, beq_iff_eq, ne_eq]

theorem findFirst?_eq_none_iff : p.findFirst? forms = none ↔
    ∀ form ∈ forms, p.find? form = none := by
  induction forms with
  | nil => simp [findFirst?]
  | cons form forms ih =>
    rw [List.forall_mem_cons, ← ih, findFirst?]
    cases p.find? form with
    | none => simp
    | some id => simp

def Answers (p : Pool) (forms : List String) : Prop :=
  ∃ id ∈ p.snapshot, ∃ own ∈ forms, p.address id = some own

theorem findFirst?_isSome_iff : (p.findFirst? forms).isSome ↔ p.Answers forms := by
  constructor
  · intro h
    obtain ⟨id, hid⟩ := Option.isSome_iff_exists.mp h
    obtain ⟨hmem, own, hown, hform⟩ := findFirst?_some hid
    exact ⟨id, hmem, own, hown, hform⟩
  · rintro ⟨id, hid, own, hown, hform⟩
    by_contra hnone
    have hall := findFirst?_eq_none_iff.mp (Option.not_isSome_iff_eq_none.mp hnone)
    exact find?_eq_none_iff.mp (hall own hown) id hid hform

theorem Answers.grown (h : p.Answers forms) (hp : p.Sound) (hgrown : p.Grown p') :
    p'.Answers forms := by
  obtain ⟨id, hid, own, hown, hform⟩ := h
  refine ⟨id, hgrown.mem_snapshot hid, own, hown, ?_⟩
  rw [hgrown.address (hp id hid)]
  exact hform

/-- whether some forms are answered depends on the sockets alone -/
theorem answers_iff_socket : p.Answers forms ↔ ∃ socket ∈ p.sockets, socket.address ∈ forms := by
  constructor
  · rintro ⟨id, hid, own, hown, hform⟩
    obtain ⟨l, hl, haddress⟩ := Option.map_eq_some_iff.mp hform
    refine ⟨l.socket, List.mem_filterMap.mpr ⟨id, hid, ?_⟩, haddress ▸ hown⟩
    rw [hl]
    rfl
  · rintro ⟨socket, hsocket, hown⟩
    obtain ⟨id, hid, hmade⟩ := List.mem_filterMap.mp hsocket
    obtain ⟨l, hl, rfl⟩ := Option.map_eq_some_iff.mp hmade
    refine ⟨id, hid, l.socket.address, hown, ?_⟩
    unfold address
    rw [hl]
    rfl

/-- a pool that is made of sockets has these sockets -/
theorem sockets_addAll (sockets : List Socket) : (empty.addAll sockets).sockets = sockets := by
  have hlisteners := listeners_addAll sockets
  have hsockets : (empty.addAll sockets).sockets =
      ((empty.addAll sockets).snapshot.map (empty.addAll sockets).listener?).filterMap
        fun l => l.map (·.socket) := by
    rw [List.filterMap_map]
    rfl
  rw [hsockets, hlisteners, List.filterMap_map]
  exact List.filterMap_some

end Pool

/-! ## covered addresses -/

/-- an address resolves, and a registered listener has one of its forms -/
def Covered (resolver : Resolver) (p : Pool) (address : String) : Prop :=
  ∃ forms, resolver address = .ok forms ∧ p.Answers forms

theorem Covered.grown (h : Covered resolver p address) (hp : p.Sound) (hgrown : p.Grown p') :
    Covered resolver p' address := by
  obtain ⟨forms, hresolve, hanswers⟩ := h
  exact ⟨forms, hresolve, hanswers.grown hp hgrown⟩

/-- whoever has the sockets covers the same addresses -/
theorem Covered.of_sockets (h : Covered resolver p address) (hsockets : p.sockets = p'.sockets) :
    Covered resolver p' address := by
  obtain ⟨forms, hresolve, hanswers⟩ := h
  rw [Pool.answers_iff_socket, hsockets] at hanswers
  exact ⟨forms, hresolve, Pool.answers_iff_socket.mpr hanswers⟩

/-- **A covered address** has its listener, and leaves the pool as it is, also where nothing can be
bound. -/
theorem takeOrBind_of_covered (h : Covered resolver p address) :
    ∃ id ∈ p.snapshot, ∀ net : Network, net.resolve = resolver →
      takeOrBind net p address = .ok (id, p) := by
  obtain ⟨forms, hresolve, hanswers⟩ := h
  obtain ⟨id, hid⟩ := Option.isSome_iff_exists.mp (Pool.findFirst?_isSome_iff.mpr hanswers)
  refine ⟨id, (Pool.findFirst?_some hid).1, ?_⟩
  intro net hnet
  exact takeOrBind_eq_ok_iff.mpr ⟨forms, hnet ▸ hresolve, .taken hid⟩

theorem listenAll_of_covered (h : ∀ address ∈ listen, Covered resolver p address) :
    ∃ loops, ∀ net : Network, net.resolve = resolver →
      listenAll net p listen = (.ok loops, p) := by
  induction listen with
  | nil => exact ⟨[], fun _ _ => rfl⟩
  | cons address listen ih =>
    obtain ⟨hfirst, hrest⟩ := List.forall_mem_cons.mp h
    obtain ⟨id, -, htaken⟩ := takeOrBind_of_covered hfirst
    obtain ⟨loops, hlater⟩ := ih hrest
    refine ⟨id :: loops, ?_⟩
    intro net hnet
    rw [listenAll, htaken net hnet]
    dsimp only
    rw [hlater net hnet]

/-! ## one address -/

/-- an address has come to its listener, `forms` being what it resolves to -/
structure Settled (net : Network) (p : Pool) (address : String) (forms : List String)
    (id : ListenerId) (p' : Pool) : Prop where
  registered : id ∈ p'.snapshot
  form : ∃ own ∈ forms, p'.address id = some own
  /-- if a form was registered before, nothing is bound, and nothing would have to be -/
  taken : p.Answers forms → p' = p ∧
    ∀ other : Network, other.resolve = net.resolve → takeOrBind other p address = .ok (id, p)
  /-- and otherwise one listener is, on one of the forms -/
  bound : ¬ p.Answers forms → ∃ own ∈ forms, net.bind p forms = .ok own ∧
    (id, p') = p.add ⟨p.freshSocket, own⟩ ∧ p'.snapshot.Perm (id :: p.snapshot)
  /-- the others stay where they are, and as they are -/
  kept : ∀ place other, p.occupant place = some other →
    p'.occupant place = some other ∧ p'.listener? other = p.listener? other
  /-- asked for again, the address has the same listener, and nothing happens -/
  again : takeOrBind net p' address = .ok (id, p')

theorem Obtained.covered (hnet : net.Exact) (hresolve : net.resolve address = .ok forms)
    (h : Obtained net p forms id p') : ∃ own ∈ forms, p'.address id = some own := by
  cases h with
  | taken hfound =>
    obtain ⟨-, own, hown, hform⟩ := Pool.findFirst?_some hfound
    exact ⟨own, hown, hform⟩
  | bound hnone hbind =>
    refine ⟨_, hnet.mem hresolve hbind, ?_⟩
    unfold Pool.address
    rw [Pool.listener?_add]
    rfl

/-- who is found first among some forms after a listener has been bound for them -/
theorem findFirst?_add_of_none {own : String} (hp : p.Sound) (hnone : p.findFirst? forms = none)
    (hown : own ∈ forms) (socket : Nat) :
    (p.add ⟨socket, own⟩).2.findFirst? forms = some p.listeners.length := by
  have hanswers : (p.add ⟨socket, own⟩).2.Answers forms := by
    refine ⟨p.listeners.length, (Pool.mem_snapshot_add p _).mpr (.inl rfl), own, hown, ?_⟩
    unfold Pool.address
    rw [Pool.listener?_add]
    rfl
  obtain ⟨id, hid⟩ := Option.isSome_iff_exists.mp (Pool.findFirst?_isSome_iff.mpr hanswers)
  obtain ⟨hmem, form, hform, haddress⟩ := Pool.findFirst?_some hid
  rw [hid]
  obtain rfl | hold := (Pool.mem_snapshot_add p _).mp hmem
  · rfl
  · -- an older listener has none of the forms
    rw [(Pool.grown_add hp _).address (hp id hold)] at haddress
    have hmissing := Pool.findFirst?_eq_none_iff.mp hnone form hform
    exact absurd haddress (Pool.find?_eq_none_iff.mp hmissing id hold)

/-- **One address** -/
theorem settled_takeOrBind (hnet : net.Exact) (hp : p.Sound)
    (h : takeOrBind net p address = .ok (id, p')) :
    ∃ forms, net.resolve address = .ok forms ∧ Settled net p address forms id p' := by
  obtain ⟨forms, hresolve, hobtained⟩ := takeOrBind_eq_ok_iff.mp h
  have hgrown := hobtained.grown hp
  refine ⟨forms, hresolve, hobtained.mem, hobtained.covered hnet hresolve, ?_, ?_, ?_, ?_⟩
  · intro hanswers
    cases hobtained with
    | taken hfound =>
      refine ⟨rfl, ?_⟩
      intro other hother
      exact takeOrBind_eq_ok_iff.mpr ⟨forms, hother ▸ hresolve, .taken hfound⟩
    | bound hnone =>
      rw [← Pool.findFirst?_isSome_iff, hnone] at hanswers
      cases hanswers
  · intro hmissing
    cases hobtained with
    | taken hfound =>
      rw [← Pool.findFirst?_isSome_iff, hfound] at hmissing
      exact absurd rfl hmissing
    | bound hnone hbind =>
      exact ⟨_, hnet.mem hresolve hbind, hbind, rfl, Pool.perm_fill p.slots⟩
  · intro place other hplace
    have hother : other ∈ p.snapshot := Pool.mem_snapshot_iff_occupant.mpr ⟨place, hplace⟩
    exact ⟨hgrown.places hplace, hgrown.listener? (hp other hother)⟩
  · refine takeOrBind_eq_ok_iff.mpr ⟨forms, hresolve, ?_⟩
    cases hobtained with
    | taken hfound => exact .taken hfound
    | bound hnone hbind =>
      exact .taken (findFirst?_add_of_none hp hnone (hnet.mem hresolve hbind) _)

/-! ## configurations -/

theorem Daemon.reopenAccessLog_failed {d : Daemon} {configured : Option Path} {e : ServeError}
    {xs : List Exchange} (h : (d.reopenAccessLog configured).Takes xs (.error e)) :
    ∃ path source, e = .accessLog path source := by
  unfold reopenAccessLog at h
  cases configured with
  | none => cases h.done_inv.2
  | some path =>
    obtain ⟨ys, zs, log, rfl, -, hlast⟩ := h.bind_inv
    cases log with
    | error source =>
      cases hlast.done_inv.2
      exact ⟨path, source, rfl⟩
    | ok log => cases hlast.done_inv.2

/-- a configuration that has been gone through is covered -/
theorem covered_listenAll (hnet : net.Exact) (hp : p.Sound)
    (h : listenAll net p listen = (.ok loops, p')) :
    ∀ address ∈ listen, Covered net.resolve p' address := by
  induction listen generalizing p loops with
  | nil => nofun
  | cons address listen ih =>
    obtain ⟨id, between, rest, htaken, hrest, -⟩ := listenAll_cons_ok h
    obtain ⟨forms, hresolve, hobtained⟩ := takeOrBind_eq_ok_iff.mp htaken
    have hbetween : between.Sound := (hobtained.grown hp).sound
    have hgrown : between.Grown p' := (attended_listenAll hbetween hrest).grown
    intro other hother
    rcases List.mem_cons.mp hother with rfl | hother
    · have hfirst : Covered net.resolve between other := by
        obtain ⟨own, hown, hform⟩ := hobtained.covered hnet hresolve
        exact ⟨forms, hresolve, id, hobtained.mem, own, hown, hform⟩
      exact hfirst.grown hbetween hgrown
    · exact ih hbetween hrest other hother

/-- a server whose configuration is covered leaves the pool as it is, and only the access log can
keep it from starting -/
theorem Daemon.serve_of_covered {d d' : Daemon} {config : ServerConfig} {xs : List Exchange}
    {result : Except ServeError Serving} (h : ∀ address ∈ config.listen, Covered net.resolve d.pool
      address) (hserve : (d.serve net config).Takes xs (result, d')) :
    d'.pool = d.pool ∧ ∀ e, result = .error e → ∃ path source, e = .accessLog path source := by
  obtain ⟨loops, hloops⟩ := listenAll_of_covered h
  unfold serve at hserve
  obtain ⟨ys, zs, opened, rfl, hopened, hrest⟩ := hserve.bind_inv
  cases opened with
  | error e =>
    cases hrest.done_inv.2
    refine ⟨rfl, ?_⟩
    intro e' he
    obtain rfl := Except.error.inj he
    exact reopenAccessLog_failed hopened
  | ok accessLog =>
    dsimp only at hrest
    rw [hloops net rfl] at hrest
    cases hrest.done_inv.2
    exact ⟨rfl, nofun⟩

/-- **A server binds what is missing, and nothing else.** An address that cannot be served leaves
the pool as it was. A configuration that has been gone through can be gone through again, on the
same pool or on one that is made of its sockets, and nothing is bound: it does not even matter
whether anything could be. -/
theorem binds_what_is_missing (hnet : net.Exact) (hp : p.Sound) :
    (∀ address id p', takeOrBind net p address = .ok (id, p') →
      ∃ forms, net.resolve address = .ok forms ∧ Settled net p address forms id p') ∧
    (∀ address e, takeOrBind net p address = .error e →
      ∀ rest, listenAll net p (address :: rest) = (.error e, p)) ∧
    ∀ listen loops p', listenAll net p listen = (.ok loops, p') →
      ∀ later, later = p' ∨ later = Pool.empty.addAll p'.sockets →
        (∃ again, ∀ other : Network, other.resolve = net.resolve →
          listenAll other later listen = (.ok again, later)) ∧
        ∀ (other : Network) (d d' : Daemon) (config : ServerConfig) result xs,
          other.resolve = net.resolve → d.pool = later → config.listen = listen →
          (d.serve other config).Takes xs (result, d') → d'.pool = later ∧
            ∀ e, result = .error e → ∃ path source, e = .accessLog path source := by
  refine ⟨fun address id p' h => settled_takeOrBind hnet hp h, ?_, ?_⟩
  · intro address e h rest
    rw [listenAll, h]
  · intro listen loops p' h later hlater
    have hcovered : ∀ address ∈ listen, Covered net.resolve later address := by
      intro address haddress
      have hfirst := covered_listenAll hnet hp h address haddress
      rcases hlater with rfl | rfl
      · exact hfirst
      · exact hfirst.of_sockets (Pool.sockets_addAll _).symm
    refine ⟨listenAll_of_covered hcovered, ?_⟩
    intro other d d' config result xs hother hpool hlisten hserve
    subst hpool hlisten
    rw [← hother] at hcovered
    exact Daemon.serve_of_covered hcovered hserve

end

/-! ## a machine that is connected to nothing -/

/-- a form in its one spelling, with a port of its own, of a host that is bound as itself if at
all -/
def Plain (form : String) : Prop :=
  ∃ a, SocketAddress.parse? form.toList = some a ∧ a.port ≠ 0 ∧ a.render = form ∧
    ∀ host, Network.boundHost? a.host = some host → host = a.host

theorem Plain.ported {form : String} (h : Plain form) : Ported form := by
  obtain ⟨a, hparse, hport, -⟩ := h
  exact ⟨a, hparse, hport⟩

namespace Network

theorem bindOne_eq {others : List String} {p : Pool} {a : SocketAddress} {own : String}
    (hport : a.port ≠ 0) (hhost : ∀ host, boundHost? a.host = some host → host = a.host)
    (h : bindOne others p a = .ok own) : own = a.render := by
  unfold bindOne at h
  cases hbound : boundHost? a.host with
  | none =>
    rw [hbound] at h
    cases h
  | some host =>
    rw [hbound] at h
    dsimp only at h
    rw [if_neg hport] at h
    split at h
    · cases h
    · cases h
      rw [hhost host hbound]

theorem mem_of_bindFirst {others forms : List String} {p : Pool} {failure : IoError} {own : String}
    (hforms : ∀ form ∈ forms, Plain form) (h : bindFirst others p failure forms = .ok own) :
    own ∈ forms := by
  induction forms generalizing failure with
  | nil => cases h
  | cons form forms ih =>
    obtain ⟨hfirst, hrest⟩ := List.forall_mem_cons.mp hforms
    obtain ⟨a, hparse, hport, hrender, hhost⟩ := hfirst
    rw [bindFirst, hparse] at h
    dsimp only at h
    split at h
    · next bound hbound =>
      cases h
      rw [bindOne_eq hport hhost hbound, hrender]
      exact List.mem_cons_self
    · exact List.mem_cons_of_mem _ (ih hrest h)

end Network

namespace Twofold

/-- a name that stands for an address that cannot be had and for one that can, and the latter's
number -/
def known : List (String × List String) :=
  [("molt.local:7001", ["[::1]:7001", "127.0.0.1:7001"]), ("127.0.0.1:7001", ["127.0.0.1:7001"])]

/-- a machine that is connected to nothing, and knows two addresses -/
def net : Network where
  resolve address := match known.lookup address with
    | some forms => .ok forms
    | none => .error unknownHost
  bind := (Network.isolated []).bind

def pool : Pool := Pool.empty.run [.add ⟨0, "10.0.0.1:80"⟩, .add ⟨1, "10.0.0.2:80"⟩,
  .remove "10.0.0.1:80"]

def listen : List String := ["molt.local:7001", "127.0.0.1:7001"]

def served : Pool := (pool.add ⟨2, "127.0.0.1:7001"⟩).2

theorem plain_of_resolve {address : String} {forms : List String}
    (h : net.resolve address = .ok forms) : ∀ form ∈ forms, Plain form := by
  have hnumber : Plain "127.0.0.1:7001" :=
    ⟨⟨.v4 [127, 0, 0, 1], 7001⟩, rfl, by decide, rfl, by rintro host ⟨⟩; rfl⟩
  have hlocal : Plain "[::1]:7001" :=
    ⟨⟨.v6 [0, 0, 0, 0, 0, 0, 0, 1] 0, 7001⟩, rfl, by decide, rfl, by rintro host ⟨⟩⟩
  have hknown : ∀ entry ∈ known, ∀ form ∈ entry.2, Plain form := by
    simp [known, hnumber, hlocal]
  unfold net at h
  dsimp only at h
  split at h
  · next found hfound =>
    cases h
    obtain ⟨before, after, hentry, -⟩ := List.lookup_eq_some_iff.mp hfound
    have hmem : (address, forms) ∈ known := by
      rw [hentry]
      simp
    exact hknown _ hmem
  · cases h

theorem exact_net : net.Exact where
  ported h := fun form hform => (plain_of_resolve h form hform).ported
  bound h _ := Network.mem_of_bindFirst (plain_of_resolve h)

end Twofold

/-- the name gets a socket in the hole, the number finds it, and a successor binds nothing -/
theorem binds_what_is_missing_twofold :
    Twofold.net.Exact ∧ Twofold.pool.Sound ∧
    listenAll Twofold.net Twofold.pool Twofold.listen = (.ok [2, 2], Twofold.served) ∧
    ∃ again, listenAll Twofold.net (Pool.empty.addAll Twofold.served.sockets) Twofold.listen =
      (.ok again, Pool.empty.addAll Twofold.served.sockets) := by
  have hsound : Twofold.pool.Sound := (Pool.tidy_empty.run _).sound
  have hfirst : listenAll Twofold.net Twofold.pool Twofold.listen =
      (.ok [2, 2], Twofold.served) := rfl
  obtain ⟨-, -, hagain⟩ := binds_what_is_missing Twofold.exact_net hsound
  obtain ⟨⟨again, hall⟩, -⟩ := hagain _ _ _ hfirst _ (.inr rfl)
  exact ⟨Twofold.exact_net, hsound, hfirst, again, hall _ rfl⟩

end Succession
