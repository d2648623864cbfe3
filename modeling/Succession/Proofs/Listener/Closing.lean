import Mathlib.Data.List.Basic
import Succession.Listener.Accept
import Succession.Proofs.Drain.Lasting

/-!
# Closing a listener

Any number of accepts stand at one listener, clients come, and somebody closes it, in any order.
Nothing opens a listener again. An accept that has not looked yet when it is closed is refused, and
so is every later one. An accept that was waiting already ends with its next poll; but if that poll
finds a client too, it may take the client, so that a connection comes into flight after the close.

* `Entrance`, `Entrance.step`, `Entrance.run`   a listener with its accepts, and a history of it;
* `AcceptPhase.Turns`                           what may become of an accept at a closed listener;
* `Entrance.Narrows`                            one step, and a whole history, at a closed listener;
* `Entrance.closing`                            everything that comes after a close.
-/

namespace Succession

namespace AcceptPhase

/-- the first half of a poll: a look whether the listener is closed; other things may happen between
that and the wait -/
def check (d : Doorway) : AcceptPhase → AcceptPhase
  | starting => if d.closed then refused else waiting
  | phase => phase

def Ended : AcceptPhase → Prop
  | accepted _ | refused => True
  | starting | waiting => False

def isAccepted : AcceptPhase → Bool
  | accepted _ => true
  | _ => false

/-- what one poll does to an accept and its listener -/
inductive Polled (coin : Bool) (d : Doorway) (phase : AcceptPhase) :
    AcceptPhase × Doorway → Prop where
  | ended (h : phase.Ended) : Polled coin d phase (phase, d)
  | refused (h : ¬ phase.Ended) (hclosed : d.closed = true) : Polled coin d phase (refused, d)
  | idle (h : ¬ phase.Ended) (hopen : d.closed = false) (hnone : d.backlog = []) :
      Polled coin d phase (waiting, d)
  /-- at a closed listener, only who was waiting can still take a client -/
  | took (h : ¬ phase.Ended) {client : String} {rest : List String}
      (hbacklog : d.backlog = client :: rest)
      (hclosed : d.closed = true → phase = .waiting ∧ coin = false) :
      Polled coin d phase
        (accepted client, { d with backlog := rest, tracker := d.tracker.enter })

theorem polled_waiting (coin : Bool) (d : Doorway) (phase : AcceptPhase) (h : ¬ phase.Ended)
    (hphase : d.closed = true → phase = .waiting) :
    Polled coin d phase (pollWaiting coin d) := by
  unfold pollWaiting
  split
  · next hnone =>
    split
    · next hclosed => exact .refused h hclosed
    · next hopen => exact .idle h (Bool.eq_false_of_not_eq_true hopen) hnone
  · next client rest hbacklog =>
    split
    · next hboth => exact .refused h hboth.1
    · next hnot =>
      refine .took h hbacklog fun hclosed => ⟨hphase hclosed, ?_⟩
      exact Bool.eq_false_of_not_eq_true fun hcoin => hnot ⟨hclosed, hcoin⟩

/-- **One poll of an accept.** -/
theorem polled (coin : Bool) (d : Doorway) (phase : AcceptPhase) :
    Polled coin d phase (phase.poll coin d) := by
  cases phase with
  | starting =>
    show Polled coin d starting (if d.closed then (refused, d) else pollWaiting coin d)
    split
    · next hclosed => exact .refused id hclosed
    · next hopen => exact polled_waiting coin d starting id fun hclosed => absurd hclosed hopen
  | waiting => exact polled_waiting coin d waiting id fun _ => rfl
  | accepted | refused => exact .ended trivial

/-- what may become of an accept at a closed listener, where `may` says whom it can still take -/
inductive Turns (may : String → Prop) : AcceptPhase → AcceptPhase → Prop where
  | stay (phase : AcceptPhase) : Turns may phase phase
  | late : Turns may starting refused
  | noticed : Turns may waiting refused
  | took {client : String} (h : may client) : Turns may waiting (accepted client)

namespace Turns

variable {may may' : String → Prop} {p p' p'' : AcceptPhase}

theorem mono (h : Turns may p p') (hle : ∀ client, may client → may' client) : Turns may' p p' := by
  cases h with
  | stay => exact .stay _
  | late => exact .late
  | noticed => exact .noticed
  | took h => exact .took (hle _ h)

theorem of_ended (h : Turns may p p') (hp : p.Ended) : p' = p := by
  cases h with
  | stay => rfl
  | late | noticed | took => exact hp.elim

theorem trans (h : Turns may p p') (h' : Turns may p' p'') : Turns may p p'' := by
  cases h with
  | stay => exact h'
  | late => exact h'.of_ended trivial ▸ .late
  | noticed => exact h'.of_ended trivial ▸ .noticed
  | took h => exact h'.of_ended trivial ▸ .took h

end Turns

theorem check_closed {d : Doorway} (hclosed : d.closed = true) (may : String → Prop)
    (phase : AcceptPhase) : phase.Turns may (phase.check d) := by
  cases phase with
  | starting =>
    unfold check
    rw [if_pos hclosed]
    exact .late
  | waiting | accepted | refused => exact .stay _

/-- **One poll at a closed listener** ends an accept. -/
theorem poll_closed {d : Doorway} (hclosed : d.closed = true) (coin : Bool) (phase : AcceptPhase) :
    (phase.poll coin d).1.Ended ∧ (phase.poll coin d).2.closed = true ∧
      phase.Turns (fun client => coin = false ∧ client ∈ d.backlog) (phase.poll coin d).1 := by
  have hpolled := polled coin d phase
  generalize phase.poll coin d = after at hpolled
  cases hpolled with
  | ended h => exact ⟨h, hclosed, .stay _⟩
  | refused h =>
    refine ⟨trivial, hclosed, ?_⟩
    cases phase with
    | starting => exact .late
    | waiting => exact .noticed
    | accepted | refused => exact absurd trivial h
  | idle h hopen =>
    rw [hclosed] at hopen
    cases hopen
  | took h hbacklog hlate =>
    obtain ⟨rfl, hcoin⟩ := hlate hclosed
    exact ⟨trivial, hclosed, .took ⟨hcoin, hbacklog ▸ List.mem_cons_self⟩⟩

end AcceptPhase

/-! ## a listener and its accepts -/

/-- a listener, and the accepts that were ever called on it; accepts that end in an error of the
socket are left out: they yield no connection, and nothing else of the listener changes -/
structure Entrance where
  door : Doorway
  accepts : List AcceptPhase

namespace Entrance

open AcceptPhase

inductive Event where
  | arrive (client : String)
  | close
  | call
  /-- one half of a poll, or a whole one -/
  | check (i : Nat)
  | poll (i : Nat) (coin : Bool)
  /-- an accepted connection goes -/
  | depart

def empty : Entrance := ⟨⟨false, [], .new⟩, []⟩

def turn (s : Entrance) (i : Nat) (act : AcceptPhase → AcceptPhase × Doorway) : Entrance :=
  match s.accepts[i]? with
  | none => s
  | some phase => ⟨(act phase).2, s.accepts.set i (act phase).1⟩

def step (s : Entrance) : Event → Entrance
  | .arrive client => { s with door := { s.door with backlog := s.door.backlog ++ [client] } }
  | .close => { s with door := { s.door with closed := true } }
  | .call => { s with accepts := s.accepts ++ [.starting] }
  | .check i => s.turn i fun phase => (phase.check s.door, s.door)
  | .poll i coin => s.turn i (·.poll coin s.door)
  | .depart => { s with door := { s.door with tracker := s.door.tracker.drop } }

def run (s : Entrance) (events : List Event) : Entrance := events.foldl step s

def inFlight (s : Entrance) : Nat := s.door.tracker.active

/-- by how much the connections in flight are raised in the course of a history -/
def rises (s : Entrance) : List Event → Nat
  | [] => 0
  | event :: events => (s.step event).inFlight - s.inFlight + (s.step event).rises events

def yielded (s : Entrance) : Nat := s.accepts.countP isAccepted

def waiting (s : Entrance) : Nat := s.accepts.countP (· = .waiting)

variable {s s' s'' : Entrance} {event : Event} {events earlier later : List Event} {i : Nat}
  {phase : AcceptPhase}

theorem run_append (s : Entrance) (events more : List Event) :
    s.run (events ++ more) = (s.run events).run more := List.foldl_append

/-! ## a closed listener -/

/-- from one state of a closed listener to a later one; `may` says whom an accept can still take -/
structure Narrows (may : Nat → String → Prop) (s s' : Entrance) : Prop where
  closed : s'.door.closed = true
  turns : ∀ {i : Nat} {phase : AcceptPhase}, s.accepts[i]? = some phase →
    ∃ phase', s'.accepts[i]? = some phase' ∧ phase.Turns (may i) phase'
  later : ∀ {i : Nat} {phase : AcceptPhase}, s.accepts[i]? = none → s'.accepts[i]? = some phase →
    phase = .starting ∨ phase = .refused

namespace Narrows

variable {may may' : Nat → String → Prop}

theorem of_eq (h : s'.accepts = s.accepts) (hclosed : s'.door.closed = true) :
    Narrows may s s' where
  closed := hclosed
  turns hi := ⟨_, h ▸ hi, .stay _⟩
  later hnone hi := by
    rw [h, hnone] at hi
    cases hi

theorem mono (h : Narrows may s s') (hle : ∀ i client, may i client → may' i client) :
    Narrows may' s s' where
  closed := h.closed
  turns hi := by
    obtain ⟨phase', hi', hturns⟩ := h.turns hi
    exact ⟨phase', hi', hturns.mono (hle _)⟩
  later := h.later

theorem trans (h : Narrows may s s') (h' : Narrows may s' s'') : Narrows may s s'' where
  closed := h'.closed
  turns hi := by
    obtain ⟨between, hi', hturns⟩ := h.turns hi
    obtain ⟨phase', hi'', hturns'⟩ := h'.turns hi'
    exact ⟨phase', hi'', hturns.trans hturns'⟩
  later := by
    intro i phase hnone hi
    cases hbetween : s'.accepts[i]? with
    | none => exact h'.later hbetween hi
    | some between =>
      obtain ⟨phase', hi', hturns⟩ := h'.turns hbetween
      obtain rfl := Option.some.inj (hi.symm.trans hi')
      obtain rfl | rfl := h.later hnone hbetween
      · cases hturns with
        | stay => exact .inl rfl
        | late => exact .inr rfl
      · exact .inr (hturns.of_ended trivial)

end Narrows

theorem narrows_turn {may : Nat → String → Prop} {act : AcceptPhase → AcceptPhase × Doorway}
    (hclosed : s.door.closed = true)
    (hact : ∀ phase, (act phase).2.closed = true ∧ phase.Turns (may i) (act phase).1) :
    Narrows may s (s.turn i act) := by
  unfold turn
  split
  · exact .of_eq rfl hclosed
  · next phase hi =>
    refine ⟨(hact phase).1, fun {j other} hj => ?_, fun {j other} hnone hj => ?_⟩
    · by_cases he : i = j
      · subst he
        obtain rfl := Option.some.inj (hi.symm.trans hj)
        obtain ⟨hlt, -⟩ := List.getElem?_eq_some_iff.mp hi
        exact ⟨_, List.getElem?_set_self hlt, (hact phase).2⟩
      · exact ⟨other, (List.getElem?_set_ne he).trans hj, .stay _⟩
    · have hle := List.getElem?_eq_none_iff.mp hnone
      rw [List.getElem?_eq_none (by rwa [List.length_set])] at hj
      cases hj

/-- **One step at a closed listener.** Only a waiting accept can take a client, with a poll that
does not favour the close. -/
theorem narrows_step (hclosed : s.door.closed = true) (event : Event) :
    Narrows (fun i client => event = .poll i false ∧ client ∈ s.door.backlog) s (s.step event) := by
  cases event with
  | arrive | depart => exact .of_eq rfl hclosed
  | close => exact .of_eq rfl rfl
  | call =>
    refine ⟨hclosed, fun {i phase} hi => ⟨phase, ?_, .stay _⟩, fun {i phase} hnone hi => ?_⟩
    · obtain ⟨hlt, -⟩ := List.getElem?_eq_some_iff.mp hi
      exact (List.getElem?_append_left hlt).trans hi
    · have hle := List.getElem?_eq_none_iff.mp hnone
      have hnew : [AcceptPhase.starting][i - s.accepts.length]? = some phase :=
        (List.getElem?_append_right hle).symm.trans hi
      exact .inl (List.mem_singleton.mp (List.mem_of_getElem? hnew))
  | check i => exact narrows_turn hclosed fun phase => ⟨hclosed, check_closed hclosed _ phase⟩
  | poll i coin =>
    refine narrows_turn hclosed fun phase => ?_
    obtain ⟨-, hstill, hturns⟩ := poll_closed hclosed coin phase
    refine ⟨hstill, hturns.mono ?_⟩
    rintro client ⟨rfl, hclient⟩
    exact ⟨rfl, hclient⟩

/-- whoever stands in line has stood there already, or comes with this step -/
theorem mem_backlog_step {client : String} (h : client ∈ (s.step event).door.backlog) :
    client ∈ s.door.backlog ∨ event = .arrive client := by
  cases event with
  | arrive other =>
    obtain h | h := List.mem_append.mp h
    · exact .inl h
    · exact .inr (List.mem_singleton.mp h ▸ rfl)
  | close | call | depart => exact .inl h
  | check i =>
    left
    revert h
    show client ∈ (s.turn i _).door.backlog → _
    unfold turn
    split <;> exact id
  | poll i coin =>
    left
    revert h
    show client ∈ (s.turn i _).door.backlog → _
    unfold turn
    split
    · exact id
    · next phase hi =>
      have hpolled := polled coin s.door phase
      dsimp only
      generalize phase.poll coin s.door = after at hpolled
      cases hpolled with
      | ended | refused | idle => exact id
      | took h hbacklog =>
        rw [hbacklog]
        exact List.mem_cons_of_mem _

/-- whom an accept can take in the course of a history: it has to be polled without favour for the
close, and the client has to be there -/
def Chance (s : Entrance) (events : List Event) (i : Nat) (client : String) : Prop :=
  .poll i false ∈ events ∧ (client ∈ s.door.backlog ∨ .arrive client ∈ events)

/-- **A whole history at a closed listener.** -/
theorem narrows_run (hclosed : s.door.closed = true) (events : List Event) :
    Narrows (s.Chance events) s (s.run events) := by
  induction events generalizing s with
  | nil => exact .of_eq rfl hclosed
  | cons event events ih =>
    have hfirst := narrows_step hclosed event
    refine .trans (hfirst.mono ?_) ((ih hfirst.closed).mono ?_)
    · rintro i client ⟨rfl, hclient⟩
      exact ⟨List.mem_cons_self, .inl hclient⟩
    · rintro i client ⟨hpoll, hclient⟩
      refine ⟨List.mem_cons_of_mem _ hpoll, ?_⟩
      obtain hclient | hclient := hclient
      · obtain hclient | rfl := mem_backlog_step hclient
        · exact .inl hclient
        · exact .inr List.mem_cons_self
      · exact .inr (List.mem_cons_of_mem _ hclient)

/-! ## counting -/

section
variable {α : Type} {p q : α → Bool} {l l' : List α}

/-- what is so at a place of one list only if something is at the same place of another -/
theorem countP_le_of_getElem?
    (h : ∀ {i : Nat} {a : α}, l'[i]? = some a → p a = true → ∃ b, l[i]? = some b ∧ q b = true) :
    l'.countP p ≤ l.countP q := by
  induction l' generalizing l with
  | nil => exact Nat.zero_le _
  | cons a l' ih =>
    cases l with
    | nil =>
      have hnone : (a :: l').countP p = 0 := by
        refine List.countP_eq_zero.mpr fun b hb hp => ?_
        obtain ⟨i, hi⟩ := List.mem_iff_getElem?.mp hb
        obtain ⟨_, hnil, -⟩ := h hi hp
        cases hnil
      rw [hnone]
      exact Nat.zero_le _
    | cons b l =>
      have hrest := ih (l := l) fun {i a} hi hp => h (i := i + 1) hi hp
      rw [List.countP_cons, List.countP_cons]
      by_cases hp : p a = true
      · obtain ⟨b', hb, hq⟩ := h (i := 0) rfl hp
        obtain rfl := Option.some.inj hb
        rw [if_pos hp, if_pos hq]
        omega
      · rw [if_neg hp]
        omega

theorem countP_or_le (p q : α → Bool) (l : List α) :
    (l.countP fun a => p a || q a) ≤ l.countP p + l.countP q := by
  induction l with
  | nil => exact Nat.zero_le _
  | cons a l ih =>
    rw [List.countP_cons, List.countP_cons, List.countP_cons]
    cases p a <;> cases q a <;> simp <;> omega

theorem countP_set_of_eq {i : Nat} {a b : α} (hi : l[i]? = some a) (h : p b = p a) :
    (l.set i b).countP p = l.countP p := by
  obtain ⟨hlt, rfl⟩ := List.getElem?_eq_some_iff.mp hi
  rw [List.countP_set hlt, h]
  by_cases hp : p l[i] = true
  · have hpos : 0 < l.countP p := List.countP_pos_iff.mpr ⟨_, List.getElem_mem hlt, hp⟩
    rw [if_pos hp]
    omega
  · rw [if_neg hp]
    rfl

end

/-- a connection comes into flight when an accept yields it, and only then -/
theorem rises_step (s : Entrance) (event : Event) :
    (s.step event).inFlight - s.inFlight + s.yielded = (s.step event).yielded := by
  have hsame : s.inFlight - s.inFlight + s.yielded = s.yielded := by omega
  cases event with
  | arrive | close => exact hsame
  | call =>
    show _ = (s.accepts ++ [AcceptPhase.starting]).countP isAccepted
    rw [List.countP_append]
    exact hsame
  | depart =>
    have hdrop : (s.step .depart).inFlight = s.inFlight - 1 := Tracker.active_drop _
    show _ + s.yielded = s.yielded
    omega
  | check i =>
    show (s.turn i _).inFlight - _ + _ = (s.turn i _).yielded
    unfold turn
    split
    · exact hsame
    · next phase hi =>
      refine hsame.trans (countP_set_of_eq hi ?_).symm
      cases phase with
      | starting =>
        unfold check
        dsimp only
        split <;> rfl
      | waiting | accepted | refused => rfl
  | poll i coin =>
    show (s.turn i _).inFlight - _ + _ = (s.turn i _).yielded
    unfold turn
    split
    · exact hsame
    · next phase hi =>
      have hpolled := polled coin s.door phase
      dsimp only
      generalize phase.poll coin s.door = after at hpolled
      have hnot (h : ¬ phase.Ended) : phase.isAccepted = false := by
        cases phase with
        | starting | waiting => rfl
        | accepted | refused => exact absurd trivial h
      cases hpolled with
      | ended h => exact hsame.trans (countP_set_of_eq hi rfl).symm
      | refused h | idle h => exact hsame.trans (countP_set_of_eq hi (hnot h).symm).symm
      | took h hbacklog =>
        obtain ⟨hlt, rfl⟩ := List.getElem?_eq_some_iff.mp hi
        have henter : s.door.tracker.enter.active = s.inFlight + 1 := rfl
        show s.door.tracker.enter.active - _ + s.yielded = (s.accepts.set i _).countP isAccepted
        rw [List.countP_set hlt, hnot h, henter]
        show s.inFlight + 1 - s.inFlight + s.yielded = s.yielded - 0 + 1
        omega

theorem rises_add_yielded (s : Entrance) (events : List Event) :
    s.rises events + s.yielded = (s.run events).yielded := by
  induction events generalizing s with
  | nil => exact Nat.zero_add _
  | cons event events ih =>
    have hfirst := rises_step s event
    have hrest := ih (s.step event)
    show _ + s.yielded = ((s.step event).run events).yielded
    rw [rises]
    omega

/-! ## after a close -/

/-- what becomes of the accepts of a listener, from its close on -/
structure Closing (s s' : Entrance) (later : List Event) : Prop where
  closed : s'.door.closed = true
  /-- whoever had ended stays as it was -/
  ended : ∀ (i : Nat) (phase : AcceptPhase), s.accepts[i]? = some phase → phase.Ended →
    s'.accepts[i]? = some phase
  /-- whoever had not looked yet, and whoever comes later, never yields a connection -/
  late : ∀ (i : Nat) (phase : AcceptPhase),
    s.accepts[i]? = none ∨ s.accepts[i]? = some .starting → s'.accepts[i]? = some phase →
      phase = .starting ∨ phase = .refused
  /-- whoever was waiting is refused, or takes the chance that it gets -/
  waited : ∀ i : Nat, s.accepts[i]? = some .waiting → s'.accepts[i]? = some .waiting ∨
    s'.accepts[i]? = some .refused ∨
      ∃ client, s'.accepts[i]? = some (.accepted client) ∧ s.Chance later i client
  /-- with a client at the door there is one -/
  race : ∀ (i : Nat) (client : String) (rest : List String),
    s.accepts[i]? = some .waiting → s.door.backlog = client :: rest →
    (s.step (.poll i false)).accepts[i]? = some (.accepted client) ∧
      (s.step (.poll i false)).inFlight = s.inFlight + 1
  /-- one poll ends an accept -/
  ends : ∀ (before : List Event) (i : Nat) (coin : Bool) (after : List Event),
    later = before ++ .poll i coin :: after →
    i < (s.run before).accepts.length → ∃ phase, s'.accepts[i]? = some phase ∧ phase.Ended
  /-- each connection that comes into flight is that of an accept which was waiting -/
  rises : s.rises later + s.yielded = s'.yielded
  bounded : s.rises later ≤ s.waiting
  /-- none does, unless an accept takes its chance -/
  rose : 0 < s.rises later → ∃ (i : Nat) (client : String), s.accepts[i]? = some .waiting ∧
    s'.accepts[i]? = some (.accepted client) ∧ s.Chance later i client

theorem Narrows.turns_back {may : Nat → String → Prop} (h : Narrows may s s') {client : String}
    (hi : s'.accepts[i]? = some (.accepted client)) :
    s.accepts[i]? = some (.accepted client) ∨ s.accepts[i]? = some .waiting ∧ may i client := by
  cases hbefore : s.accepts[i]? with
  | none => obtain h | h := h.later hbefore hi <;> cases h
  | some phase =>
    obtain ⟨phase', hi', hturns⟩ := h.turns hbefore
    obtain rfl := Option.some.inj (hi.symm.trans hi')
    cases hturns with
    | stay => exact .inl rfl
    | took h => exact .inr ⟨rfl, h⟩

theorem turn_of_some (act : AcceptPhase → AcceptPhase × Doorway)
    (hi : s.accepts[i]? = some phase) :
    (s.turn i act).door = (act phase).2 ∧ (s.turn i act).accepts[i]? = some (act phase).1 := by
  obtain ⟨hlt, -⟩ := List.getElem?_eq_some_iff.mp hi
  unfold turn
  rw [hi]
  exact ⟨rfl, List.getElem?_set_self hlt⟩

/-- a waiting accept that is polled without favour for the close takes the client at the door -/
theorem poll_takes {client : String} {rest : List String} (hi : s.accepts[i]? = some .waiting)
    (hbacklog : s.door.backlog = client :: rest) :
    (s.step (.poll i false)).accepts[i]? = some (.accepted client) ∧
      (s.step (.poll i false)).inFlight = s.inFlight + 1 := by
  have hpoll : AcceptPhase.waiting.poll false s.door =
      (.accepted client, { s.door with backlog := rest, tracker := s.door.tracker.enter }) := by
    show pollWaiting false s.door = _
    unfold pollWaiting
    rw [hbacklog]
    exact if_neg fun h => Bool.noConfusion h.2
  obtain ⟨hdoor, hphase⟩ := turn_of_some (·.poll false s.door) hi
  rw [hpoll] at hdoor hphase
  exact ⟨hphase, congrArg (·.tracker.active) hdoor⟩

theorem poll_ends (hclosed : s.door.closed = true) (coin : Bool) (hi : i < s.accepts.length) :
    ∃ phase, (s.step (.poll i coin)).accepts[i]? = some phase ∧ phase.Ended := by
  obtain ⟨-, hphase⟩ := turn_of_some (·.poll coin s.door) (List.getElem?_eq_getElem hi)
  exact ⟨_, hphase, (poll_closed hclosed coin _).1⟩

theorem closing_of_closed (hclosed : s.door.closed = true) (later : List Event) :
    Closing s (s.run later) later := by
  have hrun := narrows_run hclosed later
  have hrises := rises_add_yielded s later
  refine ⟨hrun.closed, ?_, ?_, ?_, ?_, ?_, hrises, ?_, ?_⟩
  · intro i phase hi hended
    obtain ⟨phase', hi', hturns⟩ := hrun.turns hi
    rw [hi', hturns.of_ended hended]
  · intro i phase hbefore hi
    obtain hnone | hstarting := hbefore
    · exact hrun.later hnone hi
    · obtain ⟨phase', hi', hturns⟩ := hrun.turns hstarting
      obtain rfl := Option.some.inj (hi.symm.trans hi')
      cases hturns with
      | stay => exact .inl rfl
      | late => exact .inr rfl
  · intro i hi
    obtain ⟨phase', hi', hturns⟩ := hrun.turns hi
    cases hturns with
    | stay => exact .inl hi'
    | noticed => exact .inr (.inl hi')
    | took h => exact .inr (.inr ⟨_, hi', h⟩)
  · exact fun i client rest hi hbacklog => poll_takes hi hbacklog
  · rintro before i coin after rfl hi
    have hbefore := (narrows_run hclosed before).closed
    obtain ⟨phase, hpolled, hended⟩ := poll_ends hbefore coin hi
    have hafter := narrows_run (narrows_step hbefore (.poll i coin)).closed after
    obtain ⟨phase', hi', hturns⟩ := hafter.turns hpolled
    rw [run_append]
    exact ⟨phase', hi', hturns.of_ended hended ▸ hended⟩
  · have hle : (s.run later).yielded ≤
        s.accepts.countP fun phase => isAccepted phase || decide (phase = .waiting) := by
      refine countP_le_of_getElem? fun {i phase} hi hyields => ?_
      cases phase with
      | accepted client =>
        obtain hbefore | ⟨hbefore, -⟩ := hrun.turns_back hi
        · exact ⟨_, hbefore, rfl⟩
        · exact ⟨_, hbefore, rfl⟩
      | starting | waiting | refused => cases hyields
    have hsum := countP_or_le isAccepted (fun phase => decide (phase = .waiting)) s.accepts
    have hcount := hle.trans hsum
    show s.rises later ≤ s.accepts.countP _
    unfold yielded at hrises hcount
    omega
  · intro hpos
    by_contra hnot
    have hle : (s.run later).yielded ≤ s.yielded := by
      refine countP_le_of_getElem? fun {i phase} hi hyields => ?_
      cases phase with
      | accepted client =>
        obtain hbefore | ⟨hbefore, hchance⟩ := hrun.turns_back hi
        · exact ⟨_, hbefore, rfl⟩
        · exact absurd ⟨i, client, hbefore, hi, hchance⟩ hnot
      | starting | waiting | refused => cases hyields
    omega

/-- **What comes after a close**, in every history of a listener and its accepts. -/
theorem closing (earlier later : List Event) :
    Closing (empty.run (earlier ++ [.close])) (empty.run (earlier ++ .close :: later)) later := by
  have hsplit : earlier ++ .close :: later = (earlier ++ [.close]) ++ later := by simp
  rw [hsplit, run_append empty (earlier ++ [Event.close]) later]
  refine closing_of_closed ?_ later
  rw [run_append]
  rfl

/-- a client comes while an accept waits -/
def crowded : List Event := [.call, .poll 0 false, .arrive "client"]

/-- not every accept that has yielded nothing when the listener is closed is refused -/
theorem closing_crowded :
    ¬ ∀ earlier later : List Event,
      (∀ (i : Nat) (client : String),
        (empty.run (earlier ++ .close :: later)).accepts[i]? = some (.accepted client) →
        (empty.run (earlier ++ [.close])).accepts[i]? = some (.accepted client)) ∧
      (empty.run (earlier ++ [.close])).rises later = 0 := by
  intro hall
  obtain ⟨-, hnone⟩ := hall crowded [.poll 0 false]
  have hone : (empty.run (crowded ++ [.close])).rises [.poll 0 false] = 1 := by decide
  cases hone.symm.trans hnone

end Entrance
end Succession
