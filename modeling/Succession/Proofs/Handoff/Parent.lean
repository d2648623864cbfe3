import Mathlib.Logic.Relation
import Succession.Proofs.Handoff.Questions
import Succession.Proofs.Handoff.Reload
import Succession.Proofs.Program.Exchanges

/-!
# Whom a successor interrupts

A successor does not know who launched it. It asks for its parent once everything has been taken
over, and interrupts whoever that is then. Its launcher may have gone in the meantime, because it was
forced to end or for any other reason, and then the successor has been given another parent.

* `sent xs`                      the signals among exchanges, whether they arrived or not;
* `Program.Interrupts`           one interrupt at most, to the parent asked for just before;
* `Handover`, `Handover.Step`    a successor at work while its launcher may go;
* `Handover.Reaches.interrupts`  whom the interrupt goes to, in every order of events;
* `Handover.interrupts_stranger` an interrupt that goes to somebody else.
-/

namespace Succession

open Program

/-! ## programs that interrupt a parent -/

def sent (xs : List Exchange) : List (Nat × Signal) :=
  xs.filterMap fun x => match x.question with
    | .signal pid signal | .kill pid signal => some (pid, signal)
    | _ => none

def Request.Mute : Request → Prop
  | .signal .. | .kill .. => False
  | _ => True

theorem sent_append (xs ys : List Exchange) : sent (xs ++ ys) = sent xs ++ sent ys :=
  List.filterMap_append

theorem sent_mute {q : Request} (hq : q.Mute) (r : q.Reply) : sent [⟨q, r⟩] = [] := by
  cases q with
  | signal => cases hq
  | kill => cases hq
  | _ => rfl

namespace Program

variable {α β : Type}

theorem Asks.mute {p : Program α} (hp : p.Asks Request.Plain) : p.Asks Request.Mute := by
  refine hp.mono fun q hq => ?_
  cases q with
  | signal => cases hq
  | kill => cases hq
  | _ => trivial

/-- whatever it is told, the program sends no signal but one interrupt, to the parent that it asked
for in the question before -/
inductive Interrupts : Program α → Prop where
  | mute {p : Program α} (hp : p.Asks Request.Mute) : Interrupts p
  | ask {q : Request} {next : q.Reply → Program α} (hq : q.Mute)
      (hnext : ∀ r, Interrupts (next r)) : Interrupts (.ask q next)
  | parent {rest : Nat → Except IoError Unit → Program α}
      (hrest : ∀ pid r, (rest pid r).Asks Request.Mute) :
      Interrupts (.ask .parentId fun pid => .ask (.signal pid .interrupt) (rest pid))

theorem interrupts_request {q : Request} {f : q.Reply → Program β} (hq : q.Mute)
    (hf : ∀ r, (f r).Interrupts) : (request q >>= f).Interrupts := .ask hq hf

theorem interrupts_bind {p : Program α} {f : α → Program β} (hp : p.Asks Request.Mute)
    (hf : ∀ a, (f a).Interrupts) : (p >>= f).Interrupts := by
  induction p with
  | done a => exact hf a
  | ask q next ih => exact .ask hp.1 fun r => ih r (hp.2 r)

end Program

namespace Daemon

theorem asks_daemonStdio (d : Daemon) : d.daemonStdio.Asks Request.Mute := by
  unfold daemonStdio
  split
  · exact asks_try (asks_request trivial) (fun _ => asks_pure _ _) fun _ => asks_pure _ _
  · exact asks_pure _ _

theorem interrupts_settleIn (d : Daemon) (slots : List Slot) (files : List ExtraFile)
    (sockets : List Socket) : (d.settleIn slots files sockets).Interrupts := by
  unfold settleIn
  refine interrupts_request trivial fun entered => ?_
  cases entered with
  | error source => exact .mute (asks_pure _ _)
  | ok =>
    refine interrupts_request trivial fun _ => .parent fun pid r => ?_
    cases r with
    | error source => exact asks_pure _ _
    | ok => exact asks_daemonStdio _

theorem interrupts_takeOver (d : Daemon) : d.takeOver.Interrupts := by
  unfold takeOver
  split
  · exact .mute (asks_pure _ _)
  refine interrupts_bind (asks_adoptSlots _).mute fun files => ?_
  cases files with
  | error failure => exact .mute (asks_pure _ _)
  | ok files =>
    refine interrupts_bind (asks_adoptSockets _ _).mute fun sockets => ?_
    cases sockets with
    | error e => exact .mute (asks_pure _ _)
    | ok sockets => exact interrupts_settleIn _ _ _ _

end Daemon

/-! ## a successor and its launcher -/

/-- a successor that takes over, while its launcher may still be there -/
structure Handover where
  kernel : Kernel
  successor : Process
  /-- what the successor has still to do -/
  rest : Program (Except ReloadError (Option StdioPipes) × Daemon)
  /-- what it asked and what it was told, oldest first -/
  told : List Exchange
  /-- its launcher has not exited -/
  accompanied : Bool

namespace Handover

/-- what may happen next, where `launcher` is the number of the process that launched the
successor -/
inductive Step (launcher : Nat) : Handover → Handover → Prop where
  /-- the successor asks its next question -/
  | ask {s : Handover} {q : Request} {next : q.Reply → Program _} {r : q.Reply} {host : Host}
      (hrest : s.rest = .ask q next) (h0 : Host.handle q ⟨s.kernel, s.successor⟩ = (r, host)) :
      Step launcher s { s with
        kernel := host.kernel, successor := host.process, rest := next r
        told := s.told ++ [⟨q, r⟩] }
  /-- its parent exits, for whatever reason, and the system gives it another one -/
  | orphan (s : Handover) (reaper : Nat) (hne : reaper ≠ launcher) :
      Step launcher s { s with
        successor := { s.successor with parent := reaper }, accompanied := false }
  /-- the launcher, or anybody else, does something -/
  | others (s : Handover) (kernel : Kernel) : Step launcher s { s with kernel }

def Reaches (launcher : Nat) : Handover → Handover → Prop := Relation.ReflTransGen (Step launcher)

/-- a daemon in the process `old` has handed over, and the process of its launch begins to take
over -/
structure Begins (s : Handover) (old : Host) (d : Daemon) : Prop where
  launched : ∃ pid d' old' plan config hasLogger,
    old.run d.reload = ((.ok pid, d'), old') ∧ (pid, plan) ∈ old'.process.launches ∧
    Host.Begins ⟨s.kernel, s.successor⟩ (World.birth old.process.pid d.env pid plan) ∧
    s.rest = (Daemon.new config (d.env.override plan.env) hasLogger).takeOver
  untold : s.told = []
  accompanied : s.accompanied = true

/-- the successor is about to ask for its parent -/
def AsksParent (s : Handover) : Prop := ∃ next, s.rest = .ask .parentId next

/-- in the course of a run, the successor asked for its parent, which was `pid` then -/
def Asked (launcher : Nat) (s₀ s : Handover) (pid : Nat) : Prop :=
  ∃ s₁, Reaches launcher s₀ s₁ ∧ Reaches launcher s₁ s ∧ s₁.AsksParent ∧
    s₁.successor.parent = pid ∧ (pid = launcher ↔ s₁.accompanied = true)

variable {launcher pid : Nat} {s₀ s s' : Handover}

theorem Asked.later (h : Asked launcher s₀ s pid) (hstep : Step launcher s s') :
    Asked launcher s₀ s' pid := by
  obtain ⟨s₁, hreach, hrest, h⟩ := h
  exact ⟨s₁, hreach, hrest.tail hstep, h⟩

/-! ## the parent -/

/-- the launcher is the parent as long as it has not exited -/
def Akin (launcher : Nat) (s : Handover) : Prop :=
  s.successor.parent = launcher ↔ s.accompanied = true

theorem Akin.step (h : s.Akin launcher) (hstep : Step launcher s s') : s'.Akin launcher := by
  cases hstep with
  | @ask q next r host hrest h0 =>
    have hparent := (Host.kin_handle q ⟨s.kernel, s.successor⟩).2
    rw [h0] at hparent
    show host.process.parent = launcher ↔ _
    rw [hparent]
    exact h
  | orphan reaper hne => exact ⟨fun he => absurd he hne, fun hf => Bool.noConfusion hf⟩
  | others kernel => exact h

/-! ## the course of a take-over -/

/-- how far a successor is -/
inductive Course (launcher : Nat) (s₀ s : Handover) : Prop where
  /-- it has not asked for its parent, or never will -/
  | before (hsent : sent s.told = []) (hrest : s.rest.Interrupts)
  /-- it has, and will interrupt it next -/
  | aiming (pid : Nat) (hsent : sent s.told = []) (hasked : Asked launcher s₀ s pid)
      (hrest : ∃ next, s.rest = .ask (.signal pid .interrupt) next ∧
        ∀ r, (next r).Asks Request.Mute)
  | behind (pid : Nat) (hsent : sent s.told = [(pid, .interrupt)])
      (hasked : Asked launcher s₀ s pid) (hrest : s.rest.Asks Request.Mute)

/-- who does not ask anything stays where it is -/
theorem Course.stay (h : Course launcher s₀ s) (hstep : Step launcher s s')
    (htold : s'.told = s.told) (hrest : s'.rest = s.rest) : Course launcher s₀ s' := by
  cases h with
  | before hsent hr => exact .before (htold ▸ hsent) (hrest ▸ hr)
  | aiming pid hsent hasked hr =>
    exact .aiming pid (htold ▸ hsent) (hasked.later hstep) (hrest ▸ hr)
  | behind pid hsent hasked hr =>
    exact .behind pid (htold ▸ hsent) (hasked.later hstep) (hrest ▸ hr)

theorem Course.step (h : Course launcher s₀ s) (hreach : Reaches launcher s₀ s)
    (hkin : s.Akin launcher) (hstep : Step launcher s s') : Course launcher s₀ s' := by
  cases id hstep with
  | orphan | others => exact h.stay hstep rfl rfl
  | @ask q next r host hask h0 =>
    have hmute (hq : q.Mute) : sent (s.told ++ [⟨q, r⟩]) = sent s.told := by
      rw [sent_append, sent_mute hq, List.append_nil]
    cases h with
    | before hsent hrest =>
      rw [hask] at hrest
      cases hrest with
      | mute hp => exact .before ((hmute hp.1).trans hsent) (.mute (hp.2 r))
      | ask hq hnext => exact .before ((hmute hq).trans hsent) (hnext r)
      | parent hrest =>
        have hr : s.successor.parent = r := congrArg Prod.fst h0
        refine .aiming r ((hmute trivial).trans hsent) ?_ ⟨_, rfl, hrest r⟩
        exact ⟨s, hreach, .single hstep, ⟨_, hask⟩, hr, hr ▸ hkin⟩
    | aiming pid hsent hasked hrest =>
      obtain ⟨next', he, hn⟩ := hrest
      rw [hask] at he
      cases he
      refine .behind pid ?_ (hasked.later hstep) (hn r)
      show sent (s.told ++ [⟨.signal pid .interrupt, r⟩]) = _
      rw [sent_append, hsent]
      rfl
    | behind pid hsent hasked hrest =>
      rw [hask] at hrest
      exact .behind pid ((hmute hrest.1).trans hsent) (hasked.later hstep) (hrest.2 r)

variable {old : Host} {d : Daemon}

theorem Begins.akin (hb : s.Begins old d) : s.Akin old.process.pid := by
  obtain ⟨pid, d', old', plan, config, hasLogger, -, -, hbirth, -⟩ := hb.launched
  exact ⟨fun _ => hb.accompanied, fun _ => hbirth.parent⟩

theorem Begins.course (hb : s.Begins old d) : Course launcher s s := by
  obtain ⟨pid, d', old', plan, config, hasLogger, -, -, -, hrest⟩ := hb.launched
  refine .before ?_ ?_
  · rw [hb.untold]
    rfl
  · rw [hrest]
    exact Daemon.interrupts_takeOver _

theorem Reaches.course (hb : s₀.Begins old d) (h : Reaches old.process.pid s₀ s) :
    s.Akin old.process.pid ∧ Course old.process.pid s₀ s := by
  induction h with
  | refl => exact ⟨hb.akin, hb.course⟩
  | tail hreach hstep ih => exact ⟨ih.1.step hstep, ih.2.step hreach ih.1 hstep⟩

/-- **Whom a successor interrupts.** Whatever happens in the course of a take-over, at most one
signal is sent, an interrupt. It goes to the process that is the successor's parent when the
successor asks for it; that is the launcher if the launcher has not exited by then, and somebody
else if it has. -/
theorem Reaches.interrupts (hb : s₀.Begins old d) (h : Reaches old.process.pid s₀ s) :
    sent s.told = [] ∨ ∃ pid, sent s.told = [(pid, .interrupt)] ∧
      ∃ s₁, Reaches old.process.pid s₀ s₁ ∧ Reaches old.process.pid s₁ s ∧ s₁.AsksParent ∧
        s₁.successor.parent = pid ∧ (pid = old.process.pid ↔ s₁.accompanied = true) := by
  cases (Reaches.course hb h).2 with
  | before hsent => exact .inl hsent
  | aiming pid hsent => exact .inl hsent
  | behind pid hsent hasked => exact .inr ⟨pid, hsent, hasked⟩

/-! ## two ends of one handover -/

/-- the successor has asked its next question, if it has one -/
def asking (s : Handover) : Handover :=
  match s.rest with
  | .done _ => s
  | .ask q next =>
    let (r, host) := Host.handle q ⟨s.kernel, s.successor⟩
    { s with
      kernel := host.kernel, successor := host.process, rest := next r
      told := s.told ++ [⟨q, r⟩] }

theorem reaches_asking (launcher : Nat) (s : Handover) : Reaches launcher s s.asking := by
  unfold asking
  split
  · exact .refl
  · next hrest => exact .single (.ask hrest rfl)

/-- its parent has exited -/
def orphaned (s : Handover) (reaper : Nat) : Handover :=
  { s with successor := { s.successor with parent := reaper }, accompanied := false }

namespace Parting

def daemon : Daemon := .new ⟨false, .ofText "/molt.pid", .ofText "/", 10⟩ ⟨[]⟩ false

def plan : LaunchPlan :=
  ⟨.ofText "/app", [], daemon.reloadChanges, .inherit, .inherit, .inherit, [], false⟩

/-- the process of the launch, which has nothing to take over -/
def beginning : Handover :=
  ⟨Reloading.kernel, (Reloading.successor plan).process,
    (Daemon.new daemon.config (daemon.env.override plan.env) false).takeOver, [], true⟩

theorem begins : beginning.Begins Reloading.predecessor daemon :=
  ⟨⟨5000, daemon, _, plan, daemon.config, false, rfl, List.mem_singleton_self _,
    ⟨rfl, rfl, rfl, rfl⟩, rfl⟩, rfl, rfl⟩

/-- it has entered its directory -/
def entered : Handover := beginning.asking.asking

theorem reaches_entered : Reaches 41 beginning entered :=
  (reaches_asking 41 _).trans (reaches_asking 41 _)

end Parting

open Parting

theorem interrupts_launcher : beginning.Begins Reloading.predecessor daemon ∧
    Reaches 41 beginning entered.asking.asking ∧
    sent entered.asking.asking.told = [(41, .interrupt)] ∧
    ∃ s₁, Reaches 41 beginning s₁ ∧ s₁.AsksParent ∧ s₁.accompanied = true := by
  have hreach : Reaches 41 beginning entered.asking.asking :=
    (reaches_entered.trans (reaches_asking 41 _)).trans (reaches_asking 41 _)
  have hsent : sent entered.asking.asking.told = [(41, .interrupt)] := rfl
  refine ⟨begins, hreach, hsent, ?_⟩
  obtain hnone | ⟨pid, hpid, s₁, hreach₁, -, hasks, -, hiff⟩ := Reaches.interrupts begins hreach
  · rw [hsent] at hnone
    cases hnone
  · rw [hsent] at hpid
    cases hpid
    exact ⟨s₁, hreach₁, hasks, hiff.mp rfl⟩

/-- the launcher exits just before the successor asks for its parent, and the interrupt goes to the
process that every orphan is given to -/
theorem interrupts_stranger : beginning.Begins Reloading.predecessor daemon ∧
    Reloading.predecessor.process.pid = 41 ∧
    Reaches 41 beginning (entered.orphaned 1).asking.asking ∧
    sent (entered.orphaned 1).asking.asking.told = [(1, .interrupt)] := by
  have horphan : Reaches 41 entered (entered.orphaned 1) :=
    .single (.orphan entered 1 (by decide))
  exact ⟨begins, rfl, ((reaches_entered.trans horphan).trans (reaches_asking 41 _)).trans
    (reaches_asking 41 _), rfl⟩

end Handover
end Succession
