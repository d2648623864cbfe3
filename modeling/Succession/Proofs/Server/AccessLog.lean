import Mathlib.Data.List.Basic
import Succession.Server.Echo
import Succession.Text.Numeral

/-!
# Lines of the access log

The tasks of connections write their lines in pieces of any size, but only while they hold the
log's lock, and they let their connections go only behind that. So the log is always what it was at
first, followed by whole lines of different connections, and by the beginning of one more line at
most; and a connection that has gone has its line there.

* `EchoTask.stage?`, `EchoHall.stage?`   where a task is;
* `EchoTask.entry`, `EchoHall.line`      its line;
* `EchoHall.Stepped`, `stepped`   what a step of a task behind its copying may do;
* `EchoHall.Recorded`, `EchoHall.Complete`   what the log holds, and when that is all;
* `Recorded.accept`, `Recorded.endCopy`, `Recorded.stepped`   every step keeps the log in order;
* `EchoHall.Grows`                what is in the log stays there;
* `Recorded.exists_gone`          whatever the tasks have done so far, all that have ended their
                                  copying can go.
-/

namespace Succession

namespace EchoTask

def stage? (t : EchoTask) : Option EchoStage :=
  match t.phase with
  | .copying => none
  | .ended _ stage => some stage

def Gone (t : EchoTask) : Prop := t.stage? = some .gone

instance (t : EchoTask) : Decidable t.Gone := inferInstanceAs (Decidable (_ = _))

/-- what is to be in the log about a connection, once that is known: the peer, a space, the number of
bytes copied in decimal digits, none if the copying failed, and a newline -/
def entry (t : EchoTask) : Bytes :=
  match t.phase with
  | .copying => []
  | .ended (.bytes count) _ =>
    Bytes.ofText t.peer ++ [32] ++ Bytes.ofText (String.ofList (Numeral.render count)) ++ [10]
  | .ended .failed _ => Bytes.ofText t.peer ++ [32, 48, 10]

theorem line_eq_entry (t : EchoTask) : t.line = t.entry := by
  obtain ⟨peer, listener, phase⟩ := t
  cases phase with
  | copying => rfl
  | ended copied stage =>
    have hspace : Bytes.ofText " " = [32] := by decide
    have hnewline : Bytes.ofText "\n" = [10] := by decide
    show accessLine peer copied.counted = _
    unfold accessLine
    rw [Bytes.ofText_append, Bytes.ofText_append, Bytes.ofText_append, hspace, hnewline]
    cases copied with
    | bytes count => rfl
    | failed =>
      have hzero : Bytes.ofText (toString CopyEnd.failed.counted) = [48] := by decide
      rw [hzero, List.append_assoc, List.append_assoc]
      rfl

/-- a task is another one's later self -/
structure Remains (t t' : EchoTask) : Prop where
  peer : t'.peer = t.peer
  listener : t'.listener = t.listener
  copied : ∀ copied stage, t.phase = .ended copied stage →
    ∃ stage', t'.phase = .ended copied stage'

theorem Remains.refl (t : EchoTask) : t.Remains t := ⟨rfl, rfl, fun _ stage h => ⟨stage, h⟩⟩

theorem Remains.trans {t t' t'' : EchoTask} (h : t.Remains t') (h' : t'.Remains t'') :
    t.Remains t'' := by
  refine ⟨h'.peer.trans h.peer, h'.listener.trans h.listener, fun copied stage hphase => ?_⟩
  obtain ⟨stage', hphase'⟩ := h.copied copied stage hphase
  exact h'.copied copied stage' hphase'

end EchoTask

namespace EchoHall

/-- what a task does behind its copying -/
def stage? (hall : EchoHall) (i : Nat) : Option EchoStage := (hall.tasks[i]?).bind EchoTask.stage?

/-- the line of a connection, once its copying has ended -/
def line (hall : EchoHall) (i : Nat) : Bytes := ((hall.tasks[i]?).map EchoTask.entry).getD []

variable {hall hall' : EchoHall} {i j size : Nat} {t : EchoTask} {copied : CopyEnd}
  {stage : EchoStage} {rest initial part : Bytes} {done : List Nat}

/-! ## one task moves on -/

def moved (hall : EchoHall) (i : Nat) (copied : CopyEnd) (stage : EchoStage) : EchoHall :=
  hall.setPhase i (.ended copied stage)

theorem getElem?_moved (ht : hall.tasks[i]? = some t) (copied : CopyEnd) (stage : EchoStage)
    (j : Nat) : (hall.moved i copied stage).tasks[j]? =
      if i = j then some { t with phase := .ended copied stage } else hall.tasks[j]? := by
  show (hall.tasks.modify i _)[j]? = _
  split
  · next hij =>
    subst hij
    rw [List.getElem?_modify_eq, ht]
    rfl
  · next hij => exact List.getElem?_modify_ne _ _ hij

theorem line_eq (ht : hall.tasks[i]? = some t) : hall.line i = t.line := by
  unfold line
  rw [ht]
  exact t.line_eq_entry.symm

theorem stage?_eq (ht : hall.tasks[i]? = some t) : hall.stage? i = t.stage? := by
  unfold stage?
  rw [ht]
  rfl

theorem endCopy_cases (hall : EchoHall) (i : Nat) (copied : CopyEnd) :
    hall.endCopy i copied = hall ∨ ∃ t, hall.tasks[i]? = some t ∧ t.phase = .copying ∧
      hall.endCopy i copied = hall.moved i copied .waiting := by
  unfold EchoHall.endCopy
  split
  · next ht => exact .inr ⟨_, ht, rfl, rfl⟩
  · exact .inl rfl

/-- what a step of a task behind its copying may do -/
inductive Stepped (hall : EchoHall) (i : Nat) : EchoHall → Prop where
  | stay : Stepped hall i hall
  | lock {t : EchoTask} {copied : CopyEnd} (ht : hall.tasks[i]? = some t)
      (hphase : t.phase = .ended copied .waiting) (hfree : hall.holder = none) :
      Stepped hall i { hall.moved i copied (.writing t.line) with holder := some i }
  | write {t : EchoTask} {copied : CopyEnd} {rest : Bytes} (ht : hall.tasks[i]? = some t)
      (hphase : t.phase = .ended copied (.writing rest)) (size : Nat) :
      Stepped hall i { hall.moved i copied (.writing (rest.drop size)) with
        log := hall.log ++ rest.take size }
  | unlock {t : EchoTask} {copied : CopyEnd} (ht : hall.tasks[i]? = some t)
      (hphase : t.phase = .ended copied (.writing [])) :
      Stepped hall i { hall.moved i copied .finished with holder := none }
  | leave {t : EchoTask} {copied : CopyEnd} (ht : hall.tasks[i]? = some t)
      (hphase : t.phase = .ended copied .finished) :
      Stepped hall i { hall.moved i copied .gone with
        trackers := hall.trackers.drop t.listener }

theorem stepped (hall : EchoHall) (i size : Nat) : Stepped hall i (hall.step i size) := by
  unfold step
  cases ht : hall.tasks[i]? with
  | none => exact .stay
  | some t =>
    dsimp only
    split
    · exact .stay
    · exact .stay
    · next hphase =>
      split
      · exact .stay
      · next hfree => exact .lock ht hphase (Option.not_isSome_iff_eq_none.mp hfree)
    · next hphase => exact .unlock ht hphase
    · next hphase => exact .write ht hphase size
    · next hphase => exact .leave ht hphase

/-- a task has gone on from one stage to another; the others are where they were, and the lines are
what they were -/
structure Turned (hall hall' : EchoHall) (i : Nat) (stage stage' : EchoStage) : Prop where
  before : hall.stage? i = some stage
  after : hall'.stage? i = some stage'
  others : ∀ j, i ≠ j → hall'.stage? j = hall.stage? j
  line : hall'.line = hall.line

theorem turned {stage' : EchoStage} (ht : hall.tasks[i]? = some t)
    (hphase : t.phase = .ended copied stage)
    (htasks : hall'.tasks = (hall.moved i copied stage').tasks) :
    Turned hall hall' i stage stage' := by
  have hget (j : Nat) : hall'.tasks[j]? =
      if i = j then some { t with phase := .ended copied stage' } else hall.tasks[j]? := by
    rw [htasks, getElem?_moved ht]
  refine ⟨?_, ?_, fun j hij => ?_, funext fun j => ?_⟩
  · rw [stage?_eq ht, EchoTask.stage?, hphase]
  · unfold stage?
    rw [hget, if_pos rfl]
    rfl
  · unfold stage?
    rw [hget, if_neg hij]
  · unfold EchoHall.line
    rw [hget]
    split
    · next hij =>
      subst hij
      rw [ht]
      show EchoTask.entry { t with phase := .ended copied stage' } = t.entry
      rw [← EchoTask.line_eq_entry, ← EchoTask.line_eq_entry]
      show accessLine t.peer copied.counted = t.line
      rw [EchoTask.line, hphase]
    · rfl

/-- whoever is at some stage now has just come to it, or was there before -/
theorem Turned.stage?_cases {stage' stage'' : EchoStage} (h : Turned hall hall' i stage stage')
    (hj : hall'.stage? j = some stage'') :
    i = j ∧ stage'' = stage' ∨ i ≠ j ∧ hall.stage? j = some stage'' := by
  by_cases hij : i = j
  · subst hij
    exact .inl ⟨rfl, Option.some.inj (hj.symm.trans h.after)⟩
  · exact .inr ⟨hij, h.others j hij ▸ hj⟩

/-! ## what the log holds -/

/-- all connections have gone, and behind what was there at first the log holds their lines -/
def Complete (initial : Bytes) (hall : EchoHall) : Prop :=
  (∀ t ∈ hall.tasks, t.Gone) ∧ ∃ order : List Nat, order.Perm (List.range hall.tasks.length) ∧
    hall.log = initial ++ order.flatMap hall.line

/-- behind what was there at first, the log holds the lines of these connections in this order, and
this part of one more line -/
structure Recorded (initial : Bytes) (hall : EchoHall) (done : List Nat) (part : Bytes) :
    Prop where
  log : hall.log = initial ++ done.flatMap hall.line ++ part
  nodup : done.Nodup
  /-- the lines are those of the connections that have given the lock up or have gone -/
  mem_iff : ∀ i, i ∈ done ↔ hall.stage? i = some .finished ∨ hall.stage? i = some .gone
  /-- nobody but the holder of the lock writes -/
  holder_iff : ∀ i, hall.holder = some i ↔ ∃ rest, hall.stage? i = some (.writing rest)
  free : hall.holder = none → part = []
  writing : ∀ i rest, hall.stage? i = some (.writing rest) → part ++ rest = hall.line i

namespace Recorded

theorem start (trackers : Trackers) (initial : Bytes) :
    Recorded initial ⟨[], trackers, none, initial⟩ [] [] where
  log := by simp
  nodup := List.nodup_nil
  mem_iff i := by simp [stage?]
  holder_iff i := by simp [stage?]
  free _ := rfl
  writing i rest h := by simp [stage?] at h

/-- who has not had the lock has nothing in the log -/
theorem of_eq (h : Recorded initial hall done part) (hlog : hall'.log = hall.log)
    (hholder : hall'.holder = hall.holder)
    (hstage : ∀ j, hall'.stage? j = hall.stage? j ∧ hall'.line j = hall.line j ∨
      hall.stage? j = none ∧ hall'.stage? j = some .waiting) :
    Recorded initial hall' done part := by
  have hline : ∀ j ∈ done, hall'.line j = hall.line j := by grind [h.mem_iff]
  constructor
  · rw [hlog, h.log, List.flatMap_congr hline]
  · exact h.nodup
  · grind [h.mem_iff]
  · grind [h.holder_iff]
  · grind [h.free]
  · grind [h.writing]

theorem accept (h : Recorded initial hall done part) (listener : Nat) (peer : String) :
    Recorded initial (hall.accept listener peer) done part := by
  refine h.of_eq rfl rfl fun j => .inl ?_
  have hget : (hall.accept listener peer).tasks[j]? = hall.tasks[j]? ∨
      (hall.accept listener peer).tasks[j]? = some ⟨peer, listener, .copying⟩ ∧
        hall.tasks[j]? = none := by
    show (hall.tasks ++ [_])[j]? = _ ∨ (hall.tasks ++ [_])[j]? = _ ∧ _
    rcases Nat.lt_trichotomy j hall.tasks.length with hlt | heq | hgt
    · exact .inl (List.getElem?_append_left hlt)
    · exact .inr ⟨heq ▸ List.getElem?_concat_length, List.getElem?_eq_none (Nat.le_of_eq heq.symm)⟩
    · left
      rw [List.getElem?_eq_none (Nat.le_of_lt hgt),
        List.getElem?_eq_none (by rw [List.length_append]; exact hgt)]
  unfold stage? line
  obtain hget | ⟨hnew, hnone⟩ := hget
  · rw [hget]
    exact ⟨rfl, rfl⟩
  · rw [hnew, hnone]
    exact ⟨rfl, rfl⟩

theorem endCopy (h : Recorded initial hall done part) (i : Nat) (copied : CopyEnd) :
    Recorded initial (hall.endCopy i copied) done part := by
  rcases endCopy_cases hall i copied with hstay | ⟨t, ht, hphase, hmoved⟩
  · rwa [hstay]
  · rw [hmoved]
    refine h.of_eq rfl rfl fun j => ?_
    unfold stage? line
    rw [getElem?_moved ht]
    split
    · next hij =>
      subst hij
      rw [ht]
      refine .inr ⟨?_, rfl⟩
      show t.stage? = none
      rw [EchoTask.stage?, hphase]
    · exact .inl ⟨rfl, rfl⟩

/-- nobody writes but the holder of the lock, so nobody else does -/
theorem eq_of_writing {rest' : Bytes} (h : Recorded initial hall done part)
    (hi : hall.stage? i = some (.writing rest)) (hj : hall.stage? j = some (.writing rest')) :
    i = j := by
  have hheld := (h.holder_iff i).mpr ⟨rest, hi⟩
  exact Option.some.inj (hheld.symm.trans ((h.holder_iff j).mpr ⟨rest', hj⟩))

theorem lock (h : Recorded initial hall done part)
    (hturned : Turned hall hall' i .waiting (.writing (hall.line i))) (hfree : hall.holder = none)
    (hholder : hall'.holder = some i) (hlog : hall'.log = hall.log) :
    Recorded initial hall' done part := by
  have ⟨hbefore, hafter, hothers, hline⟩ := hturned
  have hnobody (j : Nat) (rest : Bytes) : hall.stage? j ≠ some (.writing rest) := by
    intro hj
    cases hfree.symm.trans ((h.holder_iff j).mpr ⟨rest, hj⟩)
  refine ⟨?_, h.nodup, ?_, ?_, ?_, ?_⟩
  · rw [hlog, hline]
    exact h.log
  · grind [h.mem_iff]
  · intro j
    by_cases hij : i = j
    · exact iff_of_true (hij ▸ hholder) ⟨_, hij ▸ hafter⟩
    · rw [hholder, hothers j hij, Option.some_inj]
      exact iff_of_false hij fun ⟨rest, hj⟩ => hnobody j rest hj
  · intro hnone
    cases hholder.symm.trans hnone
  · intro j rest hj
    rcases hturned.stage?_cases hj with ⟨rfl, hwhole⟩ | ⟨-, hj⟩
    · cases hwhole
      rw [h.free hfree, hline, List.nil_append]
    · exact absurd hj (hnobody j rest)

theorem write (h : Recorded initial hall done part)
    (hturned : Turned hall hall' i (.writing rest) (.writing (rest.drop size)))
    (hholder : hall'.holder = hall.holder) (hlog : hall'.log = hall.log ++ rest.take size) :
    Recorded initial hall' done (part ++ rest.take size) := by
  have ⟨hbefore, hafter, hothers, hline⟩ := hturned
  have hheld : hall.holder = some i := (h.holder_iff i).mpr ⟨rest, hbefore⟩
  refine ⟨?_, h.nodup, ?_, ?_, ?_, ?_⟩
  · rw [hlog, hline, h.log, List.append_assoc]
  · grind [h.mem_iff]
  · intro j
    rw [hholder]
    by_cases hij : i = j
    · exact iff_of_true (hij ▸ hheld) ⟨_, hij ▸ hafter⟩
    · rw [hothers j hij]
      exact h.holder_iff j
  · intro hnone
    cases (hholder.trans hheld).symm.trans hnone
  · intro j rest' hj
    rcases hturned.stage?_cases hj with ⟨rfl, hleft⟩ | ⟨hij, hj⟩
    · cases hleft
      rw [List.append_assoc, List.take_append_drop, hline]
      exact h.writing i rest hbefore
    · exact absurd (h.eq_of_writing hbefore hj) hij

theorem unlock (h : Recorded initial hall done part)
    (hturned : Turned hall hall' i (.writing []) .finished) (hholder : hall'.holder = none)
    (hlog : hall'.log = hall.log) : Recorded initial hall' (done ++ [i]) [] := by
  have ⟨hbefore, hafter, hothers, hline⟩ := hturned
  have hwhole : part = hall.line i := by rw [← h.writing i [] hbefore, List.append_nil]
  have hnew : i ∉ done := by grind [h.mem_iff]
  have hnobody (j : Nat) (rest : Bytes) : hall'.stage? j ≠ some (.writing rest) := by
    intro hj
    rcases hturned.stage?_cases hj with ⟨-, hfinished⟩ | ⟨hij, hj⟩
    · cases hfinished
    · exact hij (h.eq_of_writing hbefore hj)
  refine ⟨?_, ?_, ?_, ?_, fun _ => rfl, ?_⟩
  · rw [hlog, hline, h.log, hwhole, List.flatMap_append, List.flatMap_singleton, List.append_nil,
      List.append_assoc]
  · exact List.nodup_append.mpr ⟨h.nodup, List.pairwise_singleton _ i,
      fun j hj k hk => fun hjk => hnew (List.mem_singleton.mp hk ▸ hjk ▸ hj)⟩
  · grind [h.mem_iff]
  · intro j
    rw [hholder]
    exact iff_of_false nofun fun ⟨rest, hj⟩ => hnobody j rest hj
  · intro j rest hj
    exact absurd hj (hnobody j rest)

theorem leave (h : Recorded initial hall done part) (hturned : Turned hall hall' i .finished .gone)
    (hholder : hall'.holder = hall.holder) (hlog : hall'.log = hall.log) :
    Recorded initial hall' done part := by
  obtain ⟨hbefore, hafter, hothers, hline⟩ := hturned
  have hsame (j : Nat) (rest : Bytes) :
      hall'.stage? j = some (.writing rest) ↔ hall.stage? j = some (.writing rest) := by
    by_cases hij : i = j
    · subst hij
      rw [hafter, hbefore]
      exact iff_of_false nofun nofun
    · rw [hothers j hij]
  refine ⟨?_, h.nodup, ?_, ?_, ?_, ?_⟩
  · rw [hlog, hline]
    exact h.log
  · grind [h.mem_iff]
  · intro j
    rw [hholder, h.holder_iff j]
    exact exists_congr fun rest => (hsame j rest).symm
  · rw [hholder]
    exact h.free
  · intro j rest hj
    rw [hline]
    exact h.writing j rest ((hsame j rest).mp hj)

/-- **When all connections have gone**, the log is complete. -/
theorem complete (h : Recorded initial hall done part) (hgone : ∀ t ∈ hall.tasks, t.Gone) :
    Complete initial hall := by
  have hstage {i : Nat} {stage : EchoStage} (hi : hall.stage? i = some stage) : stage = .gone := by
    obtain ⟨t, ht, hstage⟩ := Option.bind_eq_some_iff.mp hi
    exact Option.some.inj (hstage.symm.trans (hgone t (List.mem_of_getElem? ht)))
  have hempty : part = [] := by
    refine h.free (Option.eq_none_iff_forall_not_mem.mpr fun i hi => ?_)
    obtain ⟨rest, hwriting⟩ := (h.holder_iff i).mp hi
    cases hstage hwriting
  refine ⟨hgone, done, ?_, ?_⟩
  · refine (List.perm_ext_iff_of_nodup h.nodup List.nodup_range).mpr fun i => ?_
    rw [h.mem_iff, List.mem_range]
    constructor
    · intro hi
      by_contra hge
      rw [stage?, List.getElem?_eq_none (Nat.le_of_not_lt hge)] at hi
      simp at hi
    · intro hlt
      have ht := List.getElem?_eq_getElem hlt
      rw [stage?_eq ht]
      exact .inr (hgone _ (List.getElem_mem hlt))
  · rw [h.log, hempty, List.append_nil]

/-- **Every step of a task** behind its copying keeps the log in order. -/
theorem stepped (h : Recorded initial hall done part) (hs : Stepped hall i hall') :
    ∃ done' part', Recorded initial hall' done' part' := by
  cases hs with
  | stay => exact ⟨done, part, h⟩
  | lock ht hphase hfree =>
    rw [← line_eq ht]
    exact ⟨_, _, h.lock (turned ht hphase rfl) hfree rfl rfl⟩
  | write ht hphase size => exact ⟨_, _, h.write (turned ht hphase rfl) rfl rfl⟩
  | unlock ht hphase => exact ⟨_, _, h.unlock (turned ht hphase rfl) rfl rfl⟩
  | leave ht hphase => exact ⟨_, _, h.leave (turned ht hphase rfl) rfl rfl⟩

end Recorded

/-! ## what stays -/

/-- what is in the log stays there, and the tasks stay what they are -/
structure Grows (hall hall' : EchoHall) : Prop where
  log : hall.log <+: hall'.log
  tasks : ∀ (i : Nat) (t : EchoTask), hall.tasks[i]? = some t →
    ∃ t', hall'.tasks[i]? = some t' ∧ t.Remains t'

theorem Grows.of_tasks (hlog : hall.log <+: hall'.log) (htasks : hall'.tasks = hall.tasks) :
    Grows hall hall' :=
  ⟨hlog, fun _ t ht => ⟨t, htasks ▸ ht, .refl t⟩⟩

theorem Grows.trans {hall'' : EchoHall} (h : Grows hall hall') (h' : Grows hall' hall'') :
    Grows hall hall'' := by
  refine ⟨h.log.trans h'.log, fun i t ht => ?_⟩
  obtain ⟨t', ht', hremains⟩ := h.tasks i t ht
  obtain ⟨t'', ht'', hremains'⟩ := h'.tasks i t' ht'
  exact ⟨t'', ht'', hremains.trans hremains'⟩

theorem Grows.listeners (h : Grows hall hall') :
    hall.tasks.map (·.listener) <+: hall'.tasks.map (·.listener) := by
  refine List.prefix_iff_getElem?.mpr fun i hi => ?_
  rw [List.length_map] at hi
  obtain ⟨t', ht', hremains⟩ := h.tasks i _ (List.getElem?_eq_getElem hi)
  rw [List.getElem?_map, ht', List.getElem_map]
  exact congrArg some hremains.listener

/-- while nobody comes, the listeners of the connections are the same -/
theorem Grows.listeners_eq (h : Grows hall hall') (hlength : hall'.tasks.length = hall.tasks.length) :
    hall'.tasks.map (·.listener) = hall.tasks.map (·.listener) :=
  (h.listeners.eq_of_length (by rw [List.length_map, List.length_map, hlength])).symm

theorem length_endCopy (hall : EchoHall) (i : Nat) (copied : CopyEnd) :
    (hall.endCopy i copied).tasks.length = hall.tasks.length := by
  rcases endCopy_cases hall i copied with hstay | ⟨t, -, -, hmoved⟩
  · rw [hstay]
  · rw [hmoved]
    exact List.length_modify _ _ _

theorem Stepped.length (hs : Stepped hall i hall') :
    hall'.tasks.length = hall.tasks.length := by
  cases hs with
  | stay => rfl
  | lock | write | unlock | leave => exact List.length_modify _ _ _

theorem grows_accept (hall : EchoHall) (listener : Nat) (peer : String) :
    Grows hall (hall.accept listener peer) := by
  refine ⟨List.prefix_rfl, fun i t ht => ⟨t, ?_, .refl t⟩⟩
  exact (List.getElem?_append_left (List.getElem?_eq_some_iff.mp ht).1).trans ht

theorem grows_moved (ht : hall.tasks[i]? = some t)
    (hphase : t.phase = .copying ∨ ∃ stage, t.phase = .ended copied stage)
    (htasks : hall'.tasks = (hall.moved i copied stage).tasks) (hlog : hall.log <+: hall'.log) :
    Grows hall hall' := by
  refine ⟨hlog, fun j u hu => ?_⟩
  rw [htasks, getElem?_moved ht]
  split
  · next hij =>
    subst hij
    obtain rfl : t = u := Option.some.inj (ht.symm.trans hu)
    refine ⟨_, rfl, rfl, rfl, fun copied' stage' hu => ⟨stage, ?_⟩⟩
    rcases hphase with hcopying | ⟨stage'', hended⟩
    · cases hcopying.symm.trans hu
    · cases hended.symm.trans hu
      rfl
  · exact ⟨u, hu, .refl u⟩

theorem grows_endCopy (hall : EchoHall) (i : Nat) (copied : CopyEnd) :
    Grows hall (hall.endCopy i copied) := by
  rcases endCopy_cases hall i copied with hstay | ⟨t, ht, hphase, hmoved⟩
  · rw [hstay]
    exact .of_tasks List.prefix_rfl rfl
  · rw [hmoved]
    exact grows_moved ht (.inl hphase) rfl List.prefix_rfl

theorem Stepped.grows (hs : Stepped hall i hall') : Grows hall hall' := by
  cases hs with
  | stay => exact .of_tasks List.prefix_rfl rfl
  | lock ht hphase => exact grows_moved ht (.inr ⟨_, hphase⟩) rfl List.prefix_rfl
  | write ht hphase size => exact grows_moved ht (.inr ⟨_, hphase⟩) rfl (List.prefix_append _ _)
  | unlock ht hphase => exact grows_moved ht (.inr ⟨_, hphase⟩) rfl List.prefix_rfl
  | leave ht hphase => exact grows_moved ht (.inr ⟨_, hphase⟩) rfl List.prefix_rfl

/-! ## going on to the end -/

/-- steps of tasks one after the other: whose, and of which size -/
def steps (hall : EchoHall) (moves : List (Nat × Nat)) : EchoHall :=
  moves.foldl (fun hall move => hall.step move.1 move.2) hall

/-- a task has gone on until it let its connection go, and the others are where they were -/
structure Served (hall hall' : EchoHall) (i : Nat) : Prop where
  gone : hall'.stage? i = some .gone
  others : ∀ j, i ≠ j → hall'.stage? j = hall.stage? j
  free : hall'.holder = none

theorem exists_task (hi : hall.stage? i = some stage) :
    ∃ t copied, hall.tasks[i]? = some t ∧ t.phase = .ended copied stage := by
  obtain ⟨t, ht, hstage⟩ := Option.bind_eq_some_iff.mp hi
  obtain ⟨peer, listener, phase⟩ := t
  cases phase with
  | copying => cases hstage
  | ended copied stage' =>
    cases hstage
    exact ⟨_, copied, ht, rfl⟩

theorem Turned.served {stage' : EchoStage} {moves : List (Nat × Nat)}
    (h : Turned hall (hall.step i size) i stage stage')
    (hrest : Served (hall.step i size) ((hall.step i size).steps moves) i) :
    ∃ moves, Served hall (hall.steps moves) i :=
  ⟨(i, size) :: moves, hrest.gone, fun j hij => (hrest.others j hij).trans (h.others j hij),
    hrest.free⟩

theorem exists_served_finished (hi : hall.stage? i = some .finished) (hfree : hall.holder = none) :
    ∃ moves, Served hall (hall.steps moves) i := by
  obtain ⟨t, copied, ht, hphase⟩ := exists_task hi
  have hstep : hall.step i 0 = hall.leave i copied t.listener := by simp [step, ht, hphase]
  have hturned : Turned hall (hall.step i 0) i .finished .gone :=
    turned ht hphase (by rw [hstep]; rfl)
  have hrest : Served (hall.step i 0) ((hall.step i 0).steps []) i := by
    refine ⟨hturned.after, fun _ _ => rfl, ?_⟩
    rw [hstep]
    exact hfree
  exact hturned.served hrest

theorem exists_served_written (hi : hall.stage? i = some (.writing [])) :
    ∃ moves, Served hall (hall.steps moves) i := by
  obtain ⟨t, copied, ht, hphase⟩ := exists_task hi
  have hstep : hall.step i 0 = { hall.moved i copied .finished with holder := none } := by
    simp [step, ht, hphase, moved]
  have hturned : Turned hall (hall.step i 0) i (.writing []) .finished :=
    turned ht hphase (by rw [hstep])
  obtain ⟨moves, hrest⟩ := exists_served_finished hturned.after (by rw [hstep])
  exact hturned.served hrest

theorem exists_served_writing (hi : hall.stage? i = some (.writing rest)) :
    ∃ moves, Served hall (hall.steps moves) i := by
  cases rest with
  | nil => exact exists_served_written hi
  | cons b rest =>
    obtain ⟨t, copied, ht, hphase⟩ := exists_task hi
    have hturned : Turned hall (hall.step i (b :: rest).length) i (.writing (b :: rest))
        (.writing []) := turned ht hphase (by simp [step, ht, hphase, moved])
    obtain ⟨moves, hrest⟩ := exists_served_written hturned.after
    exact hturned.served hrest

namespace Recorded

theorem steps (h : Recorded initial hall done part) (moves : List (Nat × Nat)) :
    ∃ done' part', Recorded initial (hall.steps moves) done' part' := by
  induction moves generalizing hall done part with
  | nil => exact ⟨done, part, h⟩
  | cons move moves ih =>
    obtain ⟨done', part', h'⟩ := h.stepped (EchoHall.stepped hall move.1 move.2)
    exact ih h'

/-- whoever finds the lock free, or holds it, can go -/
theorem exists_served (h : Recorded initial hall done part) (hi : hall.stage? i = some stage)
    (hlock : hall.holder = none ∨ hall.holder = some i) :
    ∃ moves, Served hall (hall.steps moves) i := by
  have hfree (hquiet : ∀ rest, stage ≠ .writing rest) : hall.holder = none := by
    refine hlock.resolve_right fun hheld => ?_
    obtain ⟨rest, hwriting⟩ := (h.holder_iff i).mp hheld
    exact hquiet rest (Option.some.inj (hi.symm.trans hwriting))
  cases stage with
  | writing rest => exact exists_served_writing hi
  | waiting =>
    obtain ⟨t, copied, ht, hphase⟩ := exists_task hi
    have hturned : Turned hall (hall.step i 0) i .waiting (.writing t.line) :=
      turned ht hphase (by simp [step, ht, hphase, hfree nofun, moved])
    obtain ⟨moves, hrest⟩ := exists_served_writing hturned.after
    exact hturned.served hrest
  | finished => exact exists_served_finished hi (hfree nofun)
  | gone => exact ⟨[], hi, fun _ _ => rfl, hfree nofun⟩

/-- while the lock is free, these tasks can go one after the other, as far as their copying has
ended -/
theorem exists_gone_of_mem (h : Recorded initial hall done part) (hfree : hall.holder = none)
    (tasks : List Nat) : ∃ moves, ∀ j, (hall.steps moves).stage? j =
      if j ∈ tasks then (hall.stage? j).map fun _ => .gone else hall.stage? j := by
  induction tasks generalizing hall done part with
  | nil => exact ⟨[], fun j => (if_neg List.not_mem_nil).symm⟩
  | cons i tasks ih =>
    cases hi : hall.stage? i with
    | none =>
      obtain ⟨moves, hmoves⟩ := ih h hfree
      refine ⟨moves, fun j => (hmoves j).trans ?_⟩
      by_cases hij : j = i
      · subst hij
        simp [hi]
      · simp [hij]
    | some stage =>
      obtain ⟨first, hserved⟩ := h.exists_served hi (.inl hfree)
      obtain ⟨done', part', h'⟩ := h.steps first
      obtain ⟨moves, hmoves⟩ := ih h' hserved.free
      refine ⟨first ++ moves, fun j => ?_⟩
      rw [EchoHall.steps, List.foldl_append]
      refine (hmoves j).trans ?_
      by_cases hij : i = j
      · subst hij
        simp [hserved.gone, hi]
      · simp [hserved.others j hij, Ne.symm hij]

theorem exists_gone_of_free (h : Recorded initial hall done part) (hfree : hall.holder = none) :
    ∃ moves, ∀ j, (hall.steps moves).stage? j = (hall.stage? j).map fun _ => .gone := by
  obtain ⟨moves, hmoves⟩ := h.exists_gone_of_mem hfree (List.range hall.tasks.length)
  refine ⟨moves, fun j => (hmoves j).trans ?_⟩
  split
  · rfl
  · next hj =>
    rw [List.mem_range, Nat.not_lt] at hj
    rw [EchoHall.stage?, List.getElem?_eq_none hj]
    rfl

/-- **All tasks** whose copying has ended can let their connections go, wherever they are. -/
theorem exists_gone (h : Recorded initial hall done part) :
    ∃ moves, ∀ j, (hall.steps moves).stage? j = (hall.stage? j).map fun _ => .gone := by
  cases hheld : hall.holder with
  | none => exact h.exists_gone_of_free hheld
  | some i =>
    -- whoever holds the lock goes first
    obtain ⟨rest, hwriting⟩ := (h.holder_iff i).mp hheld
    obtain ⟨first, hserved⟩ := h.exists_served hwriting (.inr hheld)
    obtain ⟨done', part', h'⟩ := h.steps first
    obtain ⟨moves, hmoves⟩ := h'.exists_gone_of_free hserved.free
    refine ⟨first ++ moves, fun j => ?_⟩
    rw [EchoHall.steps, List.foldl_append]
    refine (hmoves j).trans ?_
    by_cases hij : i = j
    · subst hij
      rw [hserved.gone, hwriting]
      rfl
    · rw [hserved.others j hij]

end Recorded
end EchoHall
end Succession
