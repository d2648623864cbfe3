import Succession.Proofs.PidFile.SingleInstance

/-!
# What a step does to one process

Of all the steps around a PID file, a process takes some itself and does not notice the others. What
it has open stays its own for as long as it is there, since no description is ever used twice.

* `Member.Sound.onPath`          what a process asks about is on the file;
* `Fleet.Turn`, `Step.turn`      what a step may do to one process;
* `Step.hear`                    a process hears the answer to its question;
* `Reaches.origin`, `Reaches.same_holder`   a lock that is there in two moments is one process's.
-/

namespace Succession

open FileSystem Program

variable {path : Path} {fs fs' : FileSystem} {m m' : Member} {h : Handle}

/-! ## a process and its questions -/

/-- the question is about a description that is on the PID file already -/
def Request.Concerns (h : Handle) : Request → Prop
  | .lock k | .rewind k | .readAll k => k = h
  | _ => False

section
variable {pid : Nat} {st st' : Stance} {q : Request} {r : q.Reply} {host : Host}

theorem Move.owns_concern (hm : Move pid path st q r st') (hq : q.Concerns h) : st.Owns h := by
  cases hm with
  | quiet hquiet =>
    cases q with
    | lock | rewind | readAll => cases hquiet
    | _ => cases hq
  | lock | refused | restart | read =>
    obtain rfl := hq
    exact .inr rfl
  | rewind | notRewound =>
    obtain rfl := hq
    rfl
  | _ => cases hq

/-- a process asks about descriptions of its own, and they are on the file -/
theorem Member.Sound.onPath {kernel : Kernel} {next : q.Reply → Program (Result × Daemon)}
    (hs : m.Sound path kernel.fs) (hrun : m.running = some (.ask q next))
    (h0 : Host.handle q ⟨kernel, m.process⟩ = (r, host)) (hq : q.Concerns h) :
    OnPath kernel.fs path h ∧ h ∈ m.opened := by
  obtain ⟨st, hst⟩ := hs
  have hstands := hst.stands
  unfold Member.Stands at hstands
  rw [hrun] at hstands
  obtain ⟨habides | ⟨next', hask, -⟩, -⟩ := hstands
  · have hb : st.Backed m.process.pid path (Host.mk kernel m.process).kernel.fs := hst.backed
    obtain ⟨st', hm, -⟩ := habides r (hb.fits h0)
    have howns := hm.owns_concern hq
    exact ⟨hb.onPath howns, hst.owns h howns⟩
  · cases hask
    cases hq

end

namespace Fleet

variable {s s' : Fleet} {i : Nat} {kernel : Kernel}

/-! ## what a step may do to one process -/

inductive Turn (path : Path) (s : Fleet) (i : Nat) :
    Option Member → Fleet → Option Member → Prop where
  | absent {s' : Fleet} : Turn path s i none s' none
  | join {s' : Fleet} {m' : Member} (hrun : m'.running = none) (hopened : m'.opened = []) :
      Turn path s i none s' (some m')
  | exit {s' : Fleet} {m : Member} : Turn path s i (some m) s' none
  | rest {s' : Fleet} {m m' : Member} (hrun : m'.running = none)
      (hpid : m'.process.pid = m.process.pid) (hopened : m'.opened = m.opened) :
      Turn path s i (some m) s' (some m')
  | begin {s' : Fleet} {m : Member} (work : Work) :
      Turn path s i (some m) s' (some { m with running := some (work.program path m.daemon) })
  | hear {m : Member} {q : Request} {next : q.Reply → Program (Result × Daemon)} {r : q.Reply}
      {host : Host} (hrun : m.running = some (.ask q next))
      (h0 : Host.handle q ⟨s.kernel, m.process⟩ = (r, host)) :
      Turn path s i (some m) (s.set host.kernel i (some (m.answered q next r host.process)))
        (some (m.answered q next r host.process))
  /-- others do something, and spare it -/
  | stay {s' : Fleet} {m : Member} (hspares : Spares (· ∈ m.opened) path s.kernel.fs s'.kernel.fs) :
      Turn path s i (some m) s' (some m)

theorem Turn.of_eq {before after after' : Option Member} (h : Turn path s i before s' after)
    (he : after' = after) : Turn path s i before s' after' := he ▸ h

theorem turn_of_others {j : Nat} {kernel : Kernel} {member : Option Member} (hne : i ≠ j)
    (hspares : ∀ m, s.members i = some m → Spares (· ∈ m.opened) path s.kernel.fs kernel.fs) :
    Turn path s i (s.members i) (s.set kernel j member) ((s.set kernel j member).members i) := by
  refine Turn.of_eq ?_ (members_set_of_ne hne)
  cases hm : s.members i with
  | none => exact .absent
  | some m => exact .stay (hspares m hm)

/-- **What a step may do to a process**: it asks and hears, begins or ends something of its own, or
does not notice. -/
theorem Step.turn (ha : path.isAbsolute = true) (h : Step path s s') (hs : s.Sound path) (i : Nat) :
    Turn path s i (s.members i) s' (s'.members i) := by
  have hapart {j : Nat} (hne : i ≠ j) {kernel : Kernel}
      (h : Spares (fun k => k < s.kernel.fs.descriptions.length ∧ k ∉ s.openedOf j) path
        s.kernel.fs kernel.fs) (m : Member) (hm : s.members i = some m) :
      Spares (· ∈ m.opened) path s.kernel.fs kernel.fs := by
    refine h.mono fun k hk => ?_
    rw [← openedOf_eq hm] at hk
    exact ⟨hs.opened i k hk, fun hk' => hne (hs.disjoint i j k hk hk')⟩
  have hsame (m : Member) (_ : s.members i = some m) :
      Spares (· ∈ m.opened) path s.kernel.fs s.kernel.fs := spares_refl _ path _
  cases h with
  | @join j process config env hasLogger hfree =>
    by_cases hne : i = j
    · subst hne
      rw [hfree, members_set_self]
      exact .join rfl rfl
    · exact turn_of_others hne hsame
  | @adjust j m process d hm hidle hpid hlock =>
    by_cases hne : i = j
    · subst hne
      rw [hm, members_set_self]
      exact .rest hidle hpid rfl
    · exact turn_of_others hne hsame
  | @begin j m work hm hidle hpath =>
    by_cases hne : i = j
    · subst hne
      rw [hm, members_set_self]
      exact .begin work
    · exact turn_of_others hne hsame
  | @call j m q next hm hrun r host h0 =>
    by_cases hne : i = j
    · subst hne
      rw [hm, members_set_self]
      exact .hear hrun h0
    · have hmine : ∀ k ∈ m.opened, ¬ (k < s.kernel.fs.descriptions.length ∧ k ∉ s.openedOf j) := by
        rw [openedOf_eq hm]
        exact fun k hk hk' => hk'.2 hk
      have hspares := ((hs.members j m hm).answered ha hrun h0 (fun k hk => hk.1) hmine).2
      exact turn_of_others hne (hapart hne hspares)
  | @finish j m result d hm hrun hstays =>
    by_cases hne : i = j
    · subst hne
      rw [hm, members_set_self]
      exact .rest rfl rfl rfl
    · exact turn_of_others hne hsame
  | @exit j m hm =>
    by_cases hne : i = j
    · subst hne
      rw [hm, members_set_self]
      exact .exit
    · have hmine : ∀ k ∈ m.opened, ¬ (k < s.kernel.fs.descriptions.length ∧ k ∉ s.openedOf j) := by
        rw [openedOf_eq hm]
        exact fun k hk hk' => hk'.2 hk
      exact turn_of_others hne (hapart hne (spares_closeAll path s.kernel.fs hmine))
  | elsewhere kernel h =>
    show Turn path s i (s.members i) _ (s.members i)
    cases hm : s.members i with
    | none => exact .absent
    | some m =>
      refine .stay (h.mono fun k hk => ⟨i, ?_⟩)
      rw [openedOf_eq hm]
      exact hk

theorem Step.hear {q : Request} {next : q.Reply → Program (Result × Daemon)} {r : q.Reply}
    {host : Host} (hrun : m.running = some (.ask q next))
    (h0 : Host.handle q ⟨kernel, m.process⟩ = (r, host)) :
    Step path (s.set kernel i (some m))
      (s.set host.kernel i (some (m.answered q next r host.process))) := by
  have hstep : Step path (s.set kernel i (some m)) _ := .call members_set_self hrun h0
  rwa [set_set] at hstep

/-! ## a lock from one moment to another -/

theorem Step.grows (ha : path.isAbsolute = true) (h : Step path s s') (hs : s.Sound path) :
    s.kernel.fs.descriptions.length ≤ s'.kernel.fs.descriptions.length := by
  cases h with
  | @call i m q next hm hrun r host h0 =>
    have hnobody : (m.answered q next r host.process).Sound path host.kernel.fs ∧
        Spares (fun _ => False) path s.kernel.fs host.kernel.fs :=
      (hs.members i m hm).answered ha hrun h0 nofun fun _ _ => id
    exact hnobody.2.grows
  | @exit i m hm =>
    have hspares : Spares (fun _ => False) path s.kernel.fs (closeAll s.kernel.fs m.opened) :=
      spares_closeAll path s.kernel.fs fun _ _ => id
    exact hspares.grows
  | elsewhere kernel h => exact h.grows
  | _ => exact Nat.le_refl _

/-- a description that was there before the step is still the same process's -/
theorem Step.origin (ha : path.isAbsolute = true) (hstep : Step path s s') (hs : s.Sound path)
    (hm' : s'.members i = some m') (hmem : h ∈ m'.opened)
    (hlt : h < s.kernel.fs.descriptions.length) :
    ∃ m, s.members i = some m ∧ h ∈ m.opened ∧ m'.process.pid = m.process.pid := by
  have ht := hstep.turn ha hs i
  have hgrows := hstep.grows ha hs
  rw [hm'] at ht
  generalize hm : s.members i = before at ht
  generalize hafter : some m' = after at ht
  cases ht with
  | absent | exit => cases hafter
  | join hrun hopened =>
    obtain rfl := Option.some.inj hafter
    rw [hopened] at hmem
    cases hmem
  | @rest s' m m'' hrun hpid hopened =>
    obtain rfl := Option.some.inj hafter
    exact ⟨m, rfl, hopened ▸ hmem, hpid⟩
  | begin work =>
    obtain rfl := Option.some.inj hafter
    exact ⟨_, rfl, hmem, rfl⟩
  | @hear m q next r host hrun h0 =>
    obtain rfl := Option.some.inj hafter
    have hopen : ∀ k ∈ m.opened, k < s.kernel.fs.descriptions.length := by
      rw [← openedOf_eq hm]
      exact hs.opened i
    obtain ⟨-, hold | hnew⟩ := mem_openedBy h0 hopen hgrows h hmem
    · -- it was open before the question
      have hpid := Host.pid_handle q ⟨s.kernel, m.process⟩
      rw [h0] at hpid
      exact ⟨m, rfl, hold, hpid⟩
    · exact absurd hlt (Nat.not_lt.mpr hnew)
  | stay hspares =>
    obtain rfl := Option.some.inj hafter
    exact ⟨m', rfl, hmem, rfl⟩

theorem Reaches.grows (ha : path.isAbsolute = true) (hreach : Reaches path s s')
    (hs : s.Sound path) :
    s.kernel.fs.descriptions.length ≤ s'.kernel.fs.descriptions.length := by
  induction hreach with
  | refl => exact Nat.le_refl _
  | tail hreach hstep ih =>
    exact Nat.le_trans ih (hstep.grows ha (Reaches.sound ha hreach hs))

theorem Reaches.origin (ha : path.isAbsolute = true) (hreach : Reaches path s s')
    (hs : s.Sound path) (hm' : s'.members i = some m') (hmem : h ∈ m'.opened)
    (hlt : h < s.kernel.fs.descriptions.length) :
    ∃ m, s.members i = some m ∧ h ∈ m.opened ∧ m'.process.pid = m.process.pid := by
  induction hreach generalizing m' with
  | refl => exact ⟨m', hm', hmem, rfl⟩
  | tail hreach hstep ih =>
    have hlt' := Nat.lt_of_lt_of_le hlt (Reaches.grows ha hreach hs)
    obtain ⟨m₁, hm₁, hmem₁, hpid₁⟩ :=
      hstep.origin ha (Reaches.sound ha hreach hs) hm' hmem hlt'
    obtain ⟨m₀, hm₀, hmem₀, hpid₀⟩ := ih hm₁ hmem₁
    exact ⟨m₀, hm₀, hmem₀, hpid₁.trans hpid₀⟩

/-- a lock that is there in two moments is the lock of one process -/
theorem Reaches.same_holder (ha : path.isAbsolute = true) (hreach : Reaches path s s')
    (hs : s.Sound path) {j : Nat} {lock lock' : PidLock} (hm : s.members i = some m)
    (hlock : m.lock? = some lock) (hm' : s'.members j = some m') (hlock' : m'.lock? = some lock')
    (hsame : lock'.handle = lock.handle) : m'.process.pid = m.process.pid := by
  obtain ⟨st, hst⟩ := hs.members i m hm
  obtain ⟨st', hst'⟩ := (Reaches.sound ha hreach hs).members j m' hm'
  have hmem := (hst.holding hlock).2
  have hmem' := (hst'.holding hlock').2
  rw [hsame] at hmem'
  rw [← openedOf_eq hm] at hmem
  obtain ⟨m₀, hm₀, hmem₀, hpid⟩ :=
    Reaches.origin ha hreach hs hm' hmem' (hs.opened i _ hmem)
  rw [← openedOf_eq hm₀] at hmem₀
  obtain rfl := hs.disjoint i j _ hmem hmem₀
  obtain rfl := Option.some.inj (hm.symm.trans hm₀)
  exact hpid

end Fleet
end Succession
