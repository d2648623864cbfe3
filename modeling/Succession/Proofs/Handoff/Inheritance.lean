import Succession.Proofs.Descriptor.Placement
import Succession.Proofs.Handoff.FailedTakeOver
import Succession.Proofs.Handoff.Footprint
import Succession.Proofs.Handoff.Grammar

/-!
# Inherited descriptors are handed out once

A successor asks for its descriptors one by one: for the slots' from three on, and for the sockets'
behind them. It asks for each number once, and it stops at the first that it cannot use. Nothing
else happens before it has them all.

* `Tells t xs`                    in the course of exchanges, a table answers for the descriptors;
* `Sweeps usable n count asked stop`   numbers in order, up to the first that cannot be used;
* `adoptSlots_sweeps`, `adoptSockets_sweeps`   the two loops;
* `listenerCount_eq_ok_iff`       the count of sockets, by what the variable looks like;
* `Daemon.takeOver_hands_out`     a whole take-over, on any host with any table.
-/

namespace Succession

open Program

/-! ## a table that answers -/

def DescriptorTable.openAt {α : Type} (t : DescriptorTable α) (n : Descriptor) : Option α :=
  if n < 0 then none else (t.get? n.toNat).map (·.refersTo)

theorem DescriptorTable.map_adopt {α : Type} (t : DescriptorTable α) (n : Descriptor) :
    (t.adopt n).map (·.1) = t.openAt n := by
  unfold adopt openAt
  split
  · rfl
  · rw [Option.map_map]
    rfl

/-- taking one descriptor over leaves open what was open -/
theorem DescriptorTable.openAt_adopt {α : Type} {t t' : DescriptorTable α} {n : Descriptor} {x : α}
    (h : t.adopt n = some (x, t')) (m : Descriptor) : t'.openAt m = t.openAt m := by
  unfold adopt at h
  split at h
  · cases h
  · obtain ⟨o, ho, he⟩ := Option.map_eq_some_iff.mp h
    cases he
    unfold openAt
    rw [get?_put]
    by_cases hm : m.toNat = n.toNat
    · rw [if_pos hm, hm, ho]
      rfl
    · rw [if_neg hm]

/-- the table of a process answers for its inherited descriptors, and the host answers everything
else as it likes -/
inductive Tells : DescriptorTable Resource → List Exchange → Prop where
  | nil (t : DescriptorTable Resource) : Tells t []
  | found {t t' : DescriptorTable Resource} {n : Descriptor} {resource : Resource}
      {xs : List Exchange} (h : t.adopt n = some (resource, t')) (rest : Tells t' xs) :
      Tells t (⟨.adopt n, .ok resource⟩ :: xs)
  | missing {t : DescriptorTable Resource} {n : Descriptor} {xs : List Exchange}
      (h : t.adopt n = none) (rest : Tells t xs) :
      Tells t (⟨.adopt n, .error (.os .badDescriptor)⟩ :: xs)
  | other {t : DescriptorTable Resource} {x : Exchange} {xs : List Exchange}
      (h : x.question.kind ≠ .adopt) (rest : Tells t xs) : Tells t (x :: xs)

def answerOf : Option Resource → Except IoError Resource
  | some resource => .ok resource
  | none => .error (.os .badDescriptor)

/-- the answers about descriptors do not depend on the order in which they are asked for -/
def AnswersFrom (at? : Descriptor → Option Resource) (xs : List Exchange) : Prop :=
  ∀ n r, ⟨.adopt n, r⟩ ∈ xs → r = answerOf (at? n)

theorem Tells.answersFrom {t : DescriptorTable Resource} {xs : List Exchange} (h : Tells t xs) :
    AnswersFrom t.openAt xs := by
  induction h with
  | nil t => exact nofun
  | @found t t' n resource xs h rest ih =>
    intro m r hm
    obtain he | hm := List.mem_cons.mp hm
    · cases he
      rw [← DescriptorTable.map_adopt, h]
      rfl
    · rw [← DescriptorTable.openAt_adopt h m]
      exact ih m r hm
  | @missing t n xs h rest ih =>
    intro m r hm
    obtain he | hm := List.mem_cons.mp hm
    · cases he
      rw [← DescriptorTable.map_adopt, h]
      rfl
    · exact ih m r hm
  | other h rest ih =>
    intro m r hm
    obtain rfl | hm := List.mem_cons.mp hm
    · exact absurd rfl h
    · exact ih m r hm

/-! ## numbers in order -/

def askedFor (xs : List Exchange) : List Descriptor :=
  xs.filterMap fun
    | ⟨.adopt n, _⟩ => some n
    | _ => none

theorem askedFor_append (xs ys : List Exchange) :
    askedFor (xs ++ ys) = askedFor xs ++ askedFor ys := List.filterMap_append

def numbersFrom (n : Int) (count : Nat) : List Descriptor :=
  (List.range count).map fun i : Nat => n + i

theorem numbersFrom_succ (n : Int) (count : Nat) :
    numbersFrom n (count + 1) = n :: numbersFrom (n + 1) count := by
  unfold numbersFrom
  rw [List.range_succ_eq_map, List.map_cons, List.map_map, Int.natCast_zero, Int.add_zero]
  refine congrArg (n :: ·) (List.map_congr_left fun i _ => ?_)
  exact add_natCast_succ n i

theorem nodup_numbersFrom (n : Int) (count : Nat) : (numbersFrom n count).Nodup := by
  refine List.Nodup.map (fun i j h => ?_) List.nodup_range
  have hij : n + (i : Int) = n + (j : Int) := h
  omega

/-- `count` numbers are asked for in order, up to the first that is not usable -/
inductive Sweeps (usable : Int → Prop) : Int → Nat → List Int → Option Int → Prop where
  | done (n : Int) : Sweeps usable n 0 [] none
  | stop {n : Int} {count : Nat} (h : ¬ usable n) : Sweeps usable n (count + 1) [n] (some n)
  | next {n : Int} {count : Nat} {asked : List Int} {stop : Option Int}
      (h : usable n) (rest : Sweeps usable (n + 1) count asked stop) :
      Sweeps usable n (count + 1) (n :: asked) stop

namespace Sweeps

variable {usable : Int → Prop} {n m : Int} {count more : Nat}
  {asked asked' : List Int} {stop : Option Int}

/-- one loop after the other -/
theorem append (h : Sweeps usable n count asked none)
    (h' : Sweeps usable (n + count) more asked' stop) :
    Sweeps usable n (count + more) (asked ++ asked') stop := by
  generalize hstop : (none : Option Int) = end? at h
  induction h with
  | done n =>
    rw [Int.natCast_zero, Int.add_zero] at h'
    rwa [Nat.zero_add]
  | stop => cases hstop
  | @next n count asked stop hn rest ih =>
    rw [add_natCast_succ] at h'
    rw [Nat.add_right_comm]
    exact .next hn (ih h' hstop)

/-- a loop that has stopped has no other behind it -/
theorem extend (h : Sweeps usable n count asked (some m)) (more : Nat) :
    Sweeps usable n (count + more) asked (some m) := by
  generalize hstop : some m = end? at h
  induction h with
  | done => cases hstop
  | stop hn =>
    rw [Nat.add_right_comm]
    exact .stop hn
  | next hn rest ih =>
    rw [Nat.add_right_comm]
    exact .next hn (ih hstop)

theorem of_none (h : Sweeps usable n count asked none) :
    asked = numbersFrom n count ∧ ∀ i < count, usable (n + (i : Nat)) := by
  generalize hstop : (none : Option Int) = end? at h
  induction h with
  | done n => exact ⟨rfl, nofun⟩
  | stop => cases hstop
  | @next n count asked stop hn rest ih =>
    obtain ⟨rfl, hall⟩ := ih hstop
    refine ⟨(numbersFrom_succ n count).symm, fun i hi => ?_⟩
    cases i with
    | zero => rwa [Int.natCast_zero, Int.add_zero]
    | succ i =>
      rw [add_natCast_succ]
      exact hall i (Nat.lt_of_succ_lt_succ hi)

theorem of_some (h : Sweeps usable n count asked (some m)) :
    ∃ k : Nat, k < count ∧ m = n + k ∧ asked = numbersFrom n (k + 1) ∧
      (∀ i < k, usable (n + (i : Nat))) ∧ ¬ usable m := by
  generalize hstop : some m = end? at h
  induction h with
  | done => cases hstop
  | @stop n count hn =>
    obtain rfl := Option.some.inj hstop
    refine ⟨0, Nat.succ_pos count, (Int.add_zero m).symm, ?_, nofun, hn⟩
    rw [numbersFrom_succ]
    rfl
  | @next n count asked stop hn rest ih =>
    obtain ⟨k, hk, rfl, rfl, hall, hlast⟩ := ih hstop
    refine ⟨k + 1, Nat.succ_lt_succ hk, (add_natCast_succ n k).symm,
      (numbersFrom_succ n (k + 1)).symm, fun i hi => ?_, hlast⟩
    cases i with
    | zero => rwa [Int.natCast_zero, Int.add_zero]
    | succ i =>
      rw [add_natCast_succ]
      exact hall i (Nat.lt_of_succ_lt_succ hi)

end Sweeps

/-! ## the two loops -/

/-- what the type of an open file says -/
def Resource.isSocket : Resource → Bool
  | .file _ => false
  | .socket _ | .localSocket _ => true

/-- something is open at a number, and from `sockets` on it is a socket with an internet address -/
def Usable (at? : Int → Option Resource) (sockets n : Int) : Prop :=
  ∃ resource, at? n = some resource ∧ (sockets ≤ n → ∃ socket, resource = .socket socket)

/-- why a number is not usable: it is closed, or its socket has no internet address, or it is none -/
def whyNot (at? : Int → Option Resource) (n : Int) : IoError :=
  match at? n with
  | none => .os .badDescriptor
  | some (.localSocket _) => .refused "invalid argument"
  | some _ => .refused ("descriptor " ++ toString n ++ " is not a socket")

/-- these are what is open from a number on -/
def Finds (at? : Int → Option Resource) (n : Int) (resources : List Resource) : Prop :=
  ∀ i r, resources[i]? = some r → at? (n + (i : Nat)) = some r

section
variable {at? : Int → Option Resource} {n bound : Int} {xs : List Exchange}

theorem Finds.cons {r : Resource} {resources : List Resource} (hr : at? n = some r)
    (h : Finds at? (n + 1) resources) : Finds at? n (r :: resources) := by
  intro i r' hi
  cases i with
  | zero =>
    cases hi
    rwa [Int.natCast_zero, Int.add_zero]
  | succ i =>
    rw [add_natCast_succ]
    exact h i r' hi

/-- the files of a run of slots -/
theorem adoptSlots_sweeps {seen : Environment} {slots : List Slot}
    {r : Except (Descriptor × IoError) (List ExtraFile)} (hrun : SlotRun seen n slots)
    (hbound : n + slots.length ≤ bound) (h : (adoptSlots slots).Takes xs r)
    (ht : AnswersFrom at? xs) :
    (∃ resources, r = .ok (List.zipWith .ofSlot slots resources) ∧
      resources.length = slots.length ∧ Finds at? n resources ∧
      Sweeps (Usable at? bound) n slots.length (askedFor xs) none) ∨
    ∃ m, r = .error (m, whyNot at? m) ∧
      Sweeps (Usable at? bound) n slots.length (askedFor xs) (some m) := by
  induction hrun generalizing xs r with
  | done =>
    obtain ⟨rfl, rfl⟩ := h.done_inv
    exact .inl ⟨[], rfl, rfl, nofun, .done _⟩
  | @slot n slot slots hs rest ih =>
    have hindex := SlotRun.index_eq hs
    rw [List.length_cons, Int.natCast_add] at hbound
    unfold adoptSlots at h
    obtain ⟨found, ys, rfl, hrest⟩ := h.ask_inv
    have hfound : found = answerOf (at? n) := hindex ▸ ht slot.index found List.mem_cons_self
    have hasked (zs : List Exchange) :
        askedFor (⟨.adopt slot.index, found⟩ :: zs) = n :: askedFor zs := by
      rw [← hindex]
      rfl
    cases hat : at? n with
    | none =>
      rw [hat] at hfound
      subst hfound
      obtain ⟨rfl, rfl⟩ := hrest.done_inv
      refine .inr ⟨n, by rw [hindex, whyNot, hat], ?_⟩
      rw [hasked]
      refine .stop ?_
      rintro ⟨resource, hr, -⟩
      cases hr.symm.trans hat
    | some resource =>
      rw [hat] at hfound
      subst hfound
      obtain ⟨later, hloop, hlast⟩ := hrest.bind_last_inv fun rest _ _ hlast => by
        cases rest <;> exact hlast.done_inv.1
      have husable : Usable at? bound n := ⟨resource, hat, fun hle => by omega⟩
      have hlater := ih (by omega) hloop fun m r hm => ht m r (List.mem_cons_of_mem _ hm)
      rw [hasked]
      obtain ⟨resources, rfl, hlength, hfinds, hsweeps⟩ | ⟨m, rfl, hsweeps⟩ := hlater
      · cases hlast.done_inv.2
        exact .inl ⟨resource :: resources, rfl, congrArg (· + 1) hlength, hfinds.cons hat,
          .next husable hsweeps⟩
      · cases hlast.done_inv.2
        exact .inr ⟨m, rfl, .next husable hsweeps⟩

/-- the sockets behind them -/
theorem adoptSockets_sweeps {count : Nat} {r : Except ReloadError (List Socket)}
    (hbound : bound ≤ n) (h : (Daemon.adoptSockets n count).Takes xs r)
    (ht : AnswersFrom at? xs) :
    All .adopt xs ∧
    ((∃ sockets, r = .ok sockets ∧ sockets.length = count ∧ Finds at? n (sockets.map .socket) ∧
      Sweeps (Usable at? bound) n count (askedFor xs) none) ∨
    ∃ m, r = .error (.adopt m (whyNot at? m)) ∧
      Sweeps (Usable at? bound) n count (askedFor xs) (some m)) := by
  induction count generalizing n xs r with
  | zero =>
    obtain ⟨rfl, rfl⟩ := h.done_inv
    exact ⟨List.forall_mem_nil _, .inl ⟨[], rfl, rfl, nofun, .done _⟩⟩
  | succ count ih =>
    unfold Daemon.adoptSockets at h
    obtain ⟨found, ys, rfl, hrest⟩ := h.ask_inv
    have hfound : found = answerOf (at? n) := ht n found List.mem_cons_self
    have hone : All .adopt [(⟨.adopt n, found⟩ : Exchange)] := List.forall_mem_singleton.mpr rfl
    cases hat : at? n with
    | none =>
      rw [hat] at hfound
      subst hfound
      obtain ⟨rfl, rfl⟩ := hrest.done_inv
      refine ⟨hone, .inr ⟨n, by rw [whyNot, hat], .stop ?_⟩⟩
      rintro ⟨resource, hr, -⟩
      cases hr.symm.trans hat
    | some resource =>
      rw [hat] at hfound
      subst hfound
      cases resource with
      | file | localSocket =>
        obtain ⟨rfl, rfl⟩ := hrest.done_inv
        refine ⟨hone, .inr ⟨n, by rw [whyNot, hat], .stop ?_⟩⟩
        rintro ⟨resource, hr, hsocket⟩
        obtain ⟨socket, rfl⟩ := hsocket hbound
        cases hat.symm.trans hr
      | socket socket =>
        obtain ⟨later, hloop, hlast⟩ := hrest.bind_last_inv fun rest _ _ hlast => by
          cases rest <;> exact hlast.done_inv.1
        have husable : Usable at? bound n := ⟨_, hat, fun _ => ⟨socket, rfl⟩⟩
        obtain ⟨hall, hlater⟩ := ih (Int.le_trans hbound (Int.le_add_one (Int.le_refl n))) hloop
          fun m r hm => ht m r (List.mem_cons_of_mem _ hm)
        refine ⟨List.forall_mem_cons.mpr ⟨rfl, hall⟩, ?_⟩
        obtain ⟨sockets, rfl, hlength, hfinds, hsweeps⟩ | ⟨m, rfl, hsweeps⟩ := hlater
        · cases hlast.done_inv.2
          exact .inl ⟨socket :: sockets, rfl, congrArg (· + 1) hlength, hfinds.cons hat,
            .next husable hsweeps⟩
        · cases hlast.done_inv.2
          exact .inr ⟨m, rfl, .next husable hsweeps⟩

end

/-! ## the count of sockets -/

/-- the variable holds the numeral of a count that fits a machine word; without it there are none -/
def Counts (env : Environment) (count : Nat) : Prop :=
  (env.get? listenersVariable = none ∧ count = 0) ∨
    ∃ raw, env.get? listenersVariable = some raw ∧ Numeral.Reads raw.toList count ∧ count < 2 ^ 64

namespace Daemon

theorem listenerCount_eq_ok_iff {env : Environment} {count : Nat} :
    listenerCount env = .ok count ↔ Counts env count := by
  unfold listenerCount Counts
  cases hraw : env.get? listenersVariable with
  | none =>
    constructor
    · rintro ⟨⟩
      exact .inl ⟨rfl, rfl⟩
    · rintro (⟨-, rfl⟩ | ⟨raw, ⟨⟩, -⟩)
      rfl
  | some raw =>
    have hread : Numeral.parse? Numeral.max64 raw.toList = some count ↔
        Numeral.Reads raw.toList count ∧ count < 2 ^ 64 := by
      rw [Numeral.parse?_eq_some_iff, show Numeral.max64 = 2 ^ 64 - 1 from rfl]
      exact and_congr_right fun _ => by omega
    constructor
    · intro h
      dsimp only at h
      split at h
      · cases h
      · next hsome =>
        cases h
        exact .inr ⟨raw, rfl, hread.mp hsome⟩
    · rintro (⟨⟨⟩, -⟩ | ⟨_, ⟨⟩, hreads⟩)
      dsimp only
      rw [hread.mpr hreads]

theorem listenerCount_eq_error {env : Environment} {raw : String}
    (hraw : env.get? listenersVariable = some raw) (h : ∀ count, ¬ Counts env count) :
    listenerCount env = .error (.listenerCount raw) := by
  cases hcount : listenerCount env with
  | ok count => exact absurd (listenerCount_eq_ok_iff.mp hcount) (h count)
  | error e =>
    unfold listenerCount at hcount
    rw [hraw] at hcount
    dsimp only at hcount
    split at hcount <;> cases hcount
    rfl

/-! ## a whole take-over -/

variable {d d' : Daemon} {t : DescriptorTable Resource} {xs : List Exchange} {slots : List Slot}
  {files : List ExtraFile} {sockets : List Socket}
  {result : Except ReloadError (Option StdioPipes)}

/-- everything has been registered, also if the standard streams could not be had then -/
def Registers (result : Except ReloadError (Option StdioPipes)) : Prop :=
  (∃ stdio, result = .ok stdio) ∨ ∃ source, result = .error (.stdio source)

/-- the take-over ends at the first descriptor that it cannot use, and has done nothing else -/
def Stops (d d' : Daemon) (t : DescriptorTable Resource) (count : Nat) (xs : List Exchange)
    (result : Except ReloadError (Option StdioPipes)) : Prop :=
  let listeners : Int := 3 + (readSlots d.env).length
  ∃ k : Nat, k < (readSlots d.env).length + count ∧
    (∀ i < k, Usable t.openAt listeners (3 + (i : Nat))) ∧ ¬ Usable t.openAt listeners (3 + k) ∧
    askedFor xs = numbersFrom 3 (k + 1) ∧ All .adopt xs ∧ d' = d ∧
    result = .error (.adopt (3 + k) (whyNot t.openAt (3 + k)))

/-- the take-over has all its descriptors, and each file and each listener comes from its own -/
structure Completes (d d' : Daemon) (t : DescriptorTable Resource) (count : Nat)
    (xs : List Exchange) (result : Except ReloadError (Option StdioPipes)) : Prop where
  usable : ∀ i < (readSlots d.env).length + count,
    Usable t.openAt (3 + (readSlots d.env).length : Int) (3 + (i : Nat))
  asked : askedFor xs = numbersFrom 3 ((readSlots d.env).length + count)
  adopts : ∀ n source, result ≠ .error (.adopt n source)
  files : Registers result → ∃ resources, resources.length = (readSlots d.env).length ∧
    Finds t.openAt 3 resources ∧
    d'.files = d.files ++ List.zipWith .ofSlot (readSlots d.env) resources
  listeners : Registers result → ∃ sockets : List Socket, sockets.length = count ∧
    Finds t.openAt (3 + (readSlots d.env).length : Int) (sockets.map .socket) ∧
    d'.pool = d.pool.addAll sockets ∧
    (d.pool = .empty → d'.pool.snapshot.map d'.pool.listener? =
      sockets.map fun socket => some ⟨socket, false⟩)

/-- behind the descriptors, no other is asked for -/
theorem settleIn_took (h : (d.settleIn slots files sockets).Takes xs (result, d')) :
    askedFor xs = [] ∧ (∀ n source, result ≠ .error (.adopt n source)) ∧
      (Registers result → d'.files = d.files ++ files ∧ d'.pool = d.pool.addAll sockets) := by
  unfold settleIn at h
  obtain ⟨entered, ys, rfl, hentered⟩ := h.ask_inv
  cases entered with
  | error source =>
    obtain ⟨rfl, hr⟩ := hentered.done_inv
    cases hr
    refine ⟨rfl, nofun, ?_⟩
    rintro (⟨_, ⟨⟩⟩ | ⟨_, ⟨⟩⟩)
  | ok =>
    obtain ⟨-, zs, rfl, hcleared⟩ := hentered.ask_inv
    obtain ⟨parent, ys, rfl, hparent⟩ := hcleared.ask_inv
    obtain ⟨told, zs, rfl, htold⟩ := hparent.ask_inv
    cases told with
    | error source =>
      obtain ⟨rfl, hr⟩ := htold.done_inv
      cases hr
      refine ⟨rfl, nofun, ?_⟩
      rintro (⟨_, ⟨⟩⟩ | ⟨_, ⟨⟩⟩)
    | ok =>
      dsimp only at htold
      unfold daemonStdio at htold
      split at htold
      · obtain ⟨opened, ys, rfl, hopened⟩ := htold.ask_inv
        cases opened with
        | error source =>
          obtain ⟨rfl, hr⟩ := hopened.done_inv
          cases hr
          exact ⟨rfl, nofun, fun _ => ⟨rfl, rfl⟩⟩
        | ok pipes =>
          obtain ⟨rfl, hr⟩ := hopened.done_inv
          cases hr
          exact ⟨rfl, nofun, fun _ => ⟨rfl, rfl⟩⟩
      · obtain ⟨rfl, hr⟩ := htold.done_inv
        cases hr
        exact ⟨rfl, nofun, fun _ => ⟨rfl, rfl⟩⟩

theorem stops_of_sweeps {m : Int} {count : Nat}
    (h : Sweeps (Usable t.openAt (3 + (readSlots d.env).length : Int)) 3
      ((readSlots d.env).length + count) (askedFor xs) (some m)) (hall : All .adopt xs) :
    d.Stops d t count xs (.error (.adopt m (whyNot t.openAt m))) := by
  obtain ⟨k, hk, rfl, hasked, husable, hlast⟩ := h.of_some
  exact ⟨k, hk, husable, hlast, hasked, hall, rfl, rfl⟩

/-- the files, the sockets behind them, and then everything else -/
theorem takeOver_sweeps {count : Nat} (hcount : listenerCount d.env = .ok count)
    (h : d.takeOver.Takes xs (result, d')) (ht : AnswersFrom t.openAt xs) :
    d.Stops d' t count xs result ∨ d.Completes d' t count xs result := by
  unfold takeOver at h
  rw [hcount] at h
  obtain ⟨as, bs, found, rfl, hfound, hrest⟩ := h.bind_inv
  have hrun : SlotRun d.env 3 (readSlots d.env) := slotRun_readSlots d.env
  obtain ⟨has, -⟩ := adoptSlots_took hfound
  obtain ⟨resources, rfl, hlength, hfiles, hsweeps⟩ | ⟨m, rfl, hsweeps⟩ :=
    adoptSlots_sweeps hrun (Int.le_refl _) hfound
      fun n r hm => ht n r (List.mem_append_left bs hm)
  · obtain ⟨bs, cs, listening, rfl, hlistening, hlast⟩ := hrest.bind_inv
    obtain ⟨hbs, hsockets⟩ := adoptSockets_sweeps (Int.le_refl _) hlistening
      fun n r hm => ht n r (List.mem_append_right as (List.mem_append_left cs hm))
    obtain ⟨sockets, rfl, hnumber, hopen, hsweeps'⟩ | ⟨m, rfl, hsweeps'⟩ := hsockets
    · obtain ⟨hcs, hadopts, hregisters⟩ := settleIn_took hlast
      obtain ⟨hasked, husable⟩ := (hsweeps.append hsweeps').of_none
      refine .inr ⟨husable, ?_, hadopts, fun hr => ?_, fun hr => ?_⟩
      · rw [askedFor_append, askedFor_append, hcs, List.append_nil]
        exact hasked
      · exact ⟨resources, hlength, hfiles, (hregisters hr).1⟩
      · have hpool := (hregisters hr).2
        refine ⟨sockets, hnumber, hopen, hpool, fun hempty => ?_⟩
        rw [hpool, hempty]
        exact Pool.listeners_addAll sockets
    · obtain ⟨rfl, hr⟩ := hlast.done_inv
      cases hr
      have hsweep := hsweeps.append hsweeps'
      rw [← askedFor_append] at hsweep
      rw [List.append_nil]
      exact .inl (stops_of_sweeps hsweep (List.forall_mem_append.mpr ⟨has, hbs⟩))
  · obtain ⟨rfl, hr⟩ := hrest.done_inv
    cases hr
    rw [List.append_nil]
    exact .inl (stops_of_sweeps (hsweeps.extend count) has)

/-- **A successor hands each inherited descriptor out once, in order**, and stops at the first that
it cannot use: whatever its environment is, whatever is open in it, and whatever its host refuses
besides. Without a count it asks for none. -/
theorem takeOver_hands_out (h : d.takeOver.Takes xs (result, d')) (ht : Tells t xs) :
    (askedFor xs).Nodup ∧
    (∀ raw, d.env.get? listenersVariable = some raw → (∀ count, ¬ Counts d.env count) →
      xs = [] ∧ result = .error (.listenerCount raw)) ∧
    ∀ count, Counts d.env count →
      d.Stops d' t count xs result ∨ d.Completes d' t count xs result := by
  cases hcount : listenerCount d.env with
  | error e =>
    unfold takeOver at h
    rw [hcount] at h
    obtain ⟨rfl, hr⟩ := h.done_inv
    cases hr
    refine ⟨List.nodup_nil, fun raw hraw hnone => ?_, fun count hc => ?_⟩
    · cases hcount.symm.trans (listenerCount_eq_error hraw hnone)
      exact ⟨rfl, rfl⟩
    · cases hcount.symm.trans (listenerCount_eq_ok_iff.mpr hc)
  | ok number =>
    have hsweep := takeOver_sweeps hcount h ht.answersFrom
    refine ⟨?_, fun raw _ hnone => ?_, fun count hc => ?_⟩
    · obtain ⟨k, -, -, -, hasked, -⟩ | hcompletes := hsweep
      · rw [hasked]
        exact nodup_numbersFrom 3 (k + 1)
      · rw [hcompletes.asked]
        exact nodup_numbersFrom 3 _
    · exact absurd (listenerCount_eq_ok_iff.mp hcount) (hnone number)
    · cases hcount.symm.trans (listenerCount_eq_ok_iff.mpr hc)
      exact hsweep

/-! ## one file and two sockets -/

namespace Mixed

/-- one file and two sockets are announced, the sockets by a numeral with a sign -/
def daemon : Daemon :=
  Daemon.new ⟨true, .ofText "/molt.pid", .ofText "/srv", 10⟩
    ⟨[("MOLT_RELOAD", "reload"), ("MOLT_LISTENERS", "+2"), ("MOLT_FD_3", "61:user")]⟩ false

/-- the second socket is none, and a third one is open behind it -/
def table : DescriptorTable Resource :=
  [(3, ⟨.file 4, false⟩), (4, ⟨.socket ⟨0, "127.0.0.1:80"⟩, false⟩), (5, ⟨.file 7, false⟩),
    (6, ⟨.socket ⟨1, "127.0.0.1:81"⟩, false⟩)]

def told : List Exchange :=
  [⟨.adopt 3, .ok (.file 4)⟩, ⟨.adopt 4, .ok (.socket ⟨0, "127.0.0.1:80"⟩)⟩,
    ⟨.adopt 5, .ok (.file 7)⟩]

def failure : ReloadError := .adopt 5 (.refused "descriptor 5 is not a socket")

theorem takes_told : daemon.takeOver.Takes told (.error failure, daemon) :=
  .ask _ (.ask _ (.ask _ (.done _)))

theorem tells_told : Tells table told := .found rfl (.found rfl (.found rfl (.nil _)))

theorem counts_two : Counts daemon.env 2 := listenerCount_eq_ok_iff.mp rfl

def wholeTable : DescriptorTable Resource :=
  [(3, ⟨.file 4, false⟩), (4, ⟨.socket ⟨0, "127.0.0.1:80"⟩, false⟩),
    (5, ⟨.socket ⟨1, "127.0.0.1:81"⟩, false⟩)]

def pipes : StdioPipes := ⟨.file 8, .file 9⟩

def toldWhole : List Exchange :=
  [⟨.adopt 3, .ok (.file 4)⟩, ⟨.adopt 4, .ok (.socket ⟨0, "127.0.0.1:80"⟩)⟩,
    ⟨.adopt 5, .ok (.socket ⟨1, "127.0.0.1:81"⟩)⟩, ⟨.enterWorkDir (.ofText "/srv"), .ok ()⟩,
    ⟨.clearUmask, ()⟩, ⟨.parentId, (41 : Nat)⟩, ⟨.signal 41 .interrupt, .ok ()⟩,
    ⟨.stdioHandles, .ok pipes⟩]

theorem takes_whole : ∃ d', daemon.takeOver.Takes toldWhole (.ok (some pipes), d') :=
  ⟨_, .ask _ (.ask _ (.ask _ (.ask _ (.ask _ (.ask _ (.ask _ (.ask _ (.done _))))))))⟩

theorem tells_whole : Tells wholeTable toldWhole :=
  .found rfl (.found rfl (.found rfl (.other nofun (.other nofun (.other nofun (.other nofun
    (.other nofun (.nil _))))))))

end Mixed

/-- with a file among the sockets the take-over stops there; without one it has all of them, the
file from its descriptor and the listeners in order from theirs -/
theorem takeOver_hands_out_mixed :
    (Mixed.daemon.takeOver.Takes Mixed.told (.error Mixed.failure, Mixed.daemon) ∧
      Tells Mixed.table Mixed.told ∧ Counts Mixed.daemon.env 2 ∧
      Mixed.daemon.Stops Mixed.daemon Mixed.table 2 Mixed.told (.error Mixed.failure)) ∧
    ∃ d', Mixed.daemon.takeOver.Takes Mixed.toldWhole (.ok (some Mixed.pipes), d') ∧
      Tells Mixed.wholeTable Mixed.toldWhole ∧
      Mixed.daemon.Completes d' Mixed.wholeTable 2 Mixed.toldWhole (.ok (some Mixed.pipes)) ∧
      d'.files.map (·.resource) = [.file 4] ∧
      d'.pool.snapshot.map d'.pool.listener? =
        [some ⟨⟨0, "127.0.0.1:80"⟩, false⟩, some ⟨⟨1, "127.0.0.1:81"⟩, false⟩] := by
  constructor
  · obtain ⟨-, -, hends⟩ := takeOver_hands_out Mixed.takes_told Mixed.tells_told
    refine ⟨Mixed.takes_told, Mixed.tells_told, Mixed.counts_two, ?_⟩
    obtain hstops | hcompletes := hends 2 Mixed.counts_two
    · exact hstops
    · exact absurd rfl (hcompletes.adopts 5 _)
  · obtain ⟨d', h⟩ := Mixed.takes_whole
    obtain ⟨-, -, hends⟩ := takeOver_hands_out h Mixed.tells_whole
    obtain ⟨_, -, -, -, -, -, -, hresult⟩ | hcompletes := hends 2 Mixed.counts_two
    · cases hresult
    · refine ⟨d', h, Mixed.tells_whole, hcompletes, ?_, ?_⟩
      · obtain ⟨resources, hlength, hfinds, hfiles⟩ := hcompletes.files (.inl ⟨_, rfl⟩)
        obtain ⟨resource, rfl⟩ := List.length_eq_one_iff.mp hlength
        cases hfinds 0 resource rfl
        rw [hfiles]
        rfl
      · obtain ⟨sockets, hlength, hfinds, -, hplaces⟩ := hcompletes.listeners (.inl ⟨_, rfl⟩)
        obtain ⟨first, second, rfl⟩ := List.length_eq_two.mp hlength
        cases hfinds 0 _ rfl
        cases hfinds 1 _ rfl
        exact hplaces rfl

/-! ## not every socket can be taken over -/

namespace Stray

def settings : DaemonConfig := ⟨false, .ofText "/molt.pid", .ofText "/srv", 10⟩

/-- two sockets are announced -/
def daemon : Daemon :=
  Daemon.new settings ⟨[("MOLT_RELOAD", "reload"), ("MOLT_LISTENERS", "2")]⟩ false

/-- the first of them is bound to a path -/
def table : DescriptorTable Resource :=
  [(3, ⟨.localSocket 0, false⟩), (4, ⟨.socket ⟨1, "127.0.0.1:81"⟩, false⟩)]

def told : List Exchange := [⟨.adopt 3, .ok (.localSocket 0)⟩]

theorem takes_told :
    daemon.takeOver.Takes told (.error (.adopt 3 (.refused "invalid argument")), daemon) :=
  .ask _ (.done _)

/-- one socket is announced to a daemon that has a listener of its own -/
def settled : Daemon :=
  { Daemon.new settings ⟨[("MOLT_RELOAD", "reload"), ("MOLT_LISTENERS", "1")]⟩ false with
    pool := (Pool.empty.add ⟨0, "127.0.0.1:80"⟩).2 }

def settledTable : DescriptorTable Resource := [(3, ⟨.socket ⟨1, "127.0.0.1:81"⟩, false⟩)]

def toldSettled : List Exchange :=
  [⟨.adopt 3, .ok (.socket ⟨1, "127.0.0.1:81"⟩)⟩, ⟨.enterWorkDir (.ofText "/srv"), .ok ()⟩,
    ⟨.clearUmask, ()⟩, ⟨.parentId, (41 : Nat)⟩, ⟨.signal 41 .interrupt, .ok ()⟩]

theorem takes_settled : ∃ d', settled.takeOver.Takes toldSettled (.ok none, d') ∧
    d'.pool.sockets = [⟨0, "127.0.0.1:80"⟩, ⟨1, "127.0.0.1:81"⟩] :=
  ⟨_, .ask _ (.ask _ (.ask _ (.ask _ (.ask _ (.done _))))), rfl⟩

end Stray

/-- **A socket need not be usable**: everything that is announced is open and a socket, but the
first has no internet address, and the take-over ends there. And the first listener of a pool need
not be the first that was taken over, if the daemon has one of its own. -/
theorem takeOver_stops_at_local_socket :
    (Stray.daemon.takeOver.Takes Stray.told
        (.error (.adopt 3 (.refused "invalid argument")), Stray.daemon) ∧
      Tells Stray.table Stray.told ∧ Counts Stray.daemon.env 2 ∧ readSlots Stray.daemon.env = [] ∧
      (∀ i < 2, (Stray.table.openAt (3 + (i : Nat))).map Resource.isSocket = some true) ∧
      askedFor Stray.told = [3]) ∧
    ∃ d', Stray.settled.takeOver.Takes Stray.toldSettled (.ok none, d') ∧
      Tells Stray.settledTable Stray.toldSettled ∧ Counts Stray.settled.env 1 ∧
      Stray.settledTable.openAt 3 = some (.socket ⟨1, "127.0.0.1:81"⟩) ∧
      d'.pool.sockets[0]? = some ⟨0, "127.0.0.1:80"⟩ := by
  constructor
  · exact ⟨Stray.takes_told, .found rfl (.nil _), listenerCount_eq_ok_iff.mp rfl, rfl, by decide,
      rfl⟩
  · obtain ⟨d', h, hsockets⟩ := Stray.takes_settled
    refine ⟨d', h, ?_, listenerCount_eq_ok_iff.mp rfl, rfl, ?_⟩
    · exact .found rfl (.other nofun (.other nofun (.other nofun (.other nofun (.nil _)))))
    · rw [hsockets]
      rfl

end Daemon
end Succession
