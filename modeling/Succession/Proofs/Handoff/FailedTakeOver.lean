import Succession.Proofs.Handoff.Questions
import Succession.Proofs.Handoff.Slots
import Succession.Proofs.Program.Exchanges

/-!
# When a successor cannot take over

A successor takes its descriptors over, enters its directory, signals its predecessor, and only then
registers what it took over. Whatever fails up to the signal leaves no trace in the successor's own
environment, files and listeners, and the predecessor is not told to end. The standard streams come
last: when they fail, the predecessor has its signal and everything is registered.

* `delivered xs`                    the signals that were delivered in the course of exchanges;
* `Daemon.Untouched before after xs`   nothing that matters has changed on the way;
* `get?_remark`                     a refused signal gives the marks of the reload back;
* `failed_takeOver`                 every way in which a take-over fails.
-/

namespace Succession

def delivered (xs : List Exchange) : List (Nat × Signal) :=
  xs.filterMap fun
    | ⟨.signal pid signal, .ok ()⟩ => some (pid, signal)
    | ⟨.kill pid signal, .ok ()⟩ => some (pid, signal)
    | _ => none

namespace Daemon

/-- a daemon has the same variables, listeners and files as before, and everything else but its
record of the variables, and nobody has been signalled -/
structure Untouched (before after : Daemon) (xs : List Exchange) : Prop where
  env : ∀ name, after.env.get? name = before.env.get? name
  others : after = { before with env := after.env }
  silent : delivered xs = []

/-- the daemon has settled in: its predecessor has been signalled once, the variables have their
previous values, and everything is registered -/
structure Settled (before after : Daemon) (slots : List Slot) (files : List ExtraFile)
    (sockets : List Socket) (xs : List Exchange) : Prop where
  detached : before.config.daemonize = true
  signalled : ∃ parent, delivered xs = [(parent, .interrupt)]
  registered : after =
    { before with env := restoreSlots (unmark before.env) slots }.register files sockets

end Daemon

/-! ## exchanges that deliver nothing -/

theorem delivered_append (xs ys : List Exchange) :
    delivered (xs ++ ys) = delivered xs ++ delivered ys := List.filterMap_append

theorem delivered_plain {xs : List Exchange} (h : ∀ x ∈ xs, x.question.Plain) :
    delivered xs = [] := by
  refine List.filterMap_eq_nil_iff.mpr fun x hx => ?_
  have hp := h x hx
  obtain ⟨q, r⟩ := x
  cases q with
  | signal => cases hp
  | kill => cases hp
  | _ => rfl

theorem Program.Takes.silent {α : Type} {p : Program α} {xs : List Exchange} {a : α}
    (h : p.Takes xs a) (hp : p.Asks Request.Plain) : delivered xs = [] :=
  delivered_plain (h.asked hp)

namespace Daemon

variable {d d' : Daemon} {xs ys : List Exchange} {slots : List Slot} {files : List ExtraFile}
  {sockets : List Socket} {e : ReloadError}

theorem Untouched.refl (h : delivered xs = []) : d.Untouched d xs := ⟨fun _ => rfl, rfl, h⟩

theorem Untouched.after (h : d.Untouched d' ys) (hs : delivered xs = []) :
    d.Untouched d' (xs ++ ys) := by
  refine ⟨h.env, h.others, ?_⟩
  rw [delivered_append, hs, h.silent]
  rfl

theorem Settled.after (h : d.Settled d' slots files sockets ys) (hs : delivered xs = []) :
    d.Settled d' slots files sockets (xs ++ ys) := by
  refine ⟨h.detached, ?_, h.registered⟩
  rw [delivered_append, hs]
  exact h.signalled

/-! ## one step after the other -/

/-- **A refused signal gives the marks of the reload back.** -/
theorem get?_remark (env : Environment) (name : String) :
    (remark (unmark env) (env.get? reloadVariable) (env.get? listenersVariable)).get? name =
      env.get? name := by
  have hne : listenersVariable ≠ reloadVariable := by decide
  unfold remark unmark
  cases hmark : env.get? reloadVariable <;> cases hcount : env.get? listenersVariable <;>
    simp only [Variables.get?_set, Variables.get?_erase]
  all_goals
    by_cases hr : name = reloadVariable
    · simp [hr, hmark, hne.symm]
    · by_cases hl : name = listenersVariable <;> simp [hr, hl, hcount, hne]

theorem daemonStdio_failed (h : d.daemonStdio.Takes xs (.error e, d')) :
    d.config.daemonize = true ∧ (∃ source, e = .stdio source) ∧ d' = d ∧ delivered xs = [] := by
  unfold daemonStdio at h
  split at h
  · next hd =>
    obtain ⟨opened, ys, rfl, hopened⟩ := h.ask_inv
    cases opened with
    | ok pipes => cases hopened.done_inv.2
    | error source =>
      obtain ⟨rfl, hr⟩ := hopened.done_inv
      cases hr
      exact ⟨hd, ⟨source, rfl⟩, rfl, rfl⟩
  · cases h.done_inv.2

/-- what fails behind the descriptors -/
theorem settleIn_failed (h : (d.settleIn slots files sockets).Takes xs (.error e, d')) :
    ((∀ source, e ≠ .stdio source) ∧ d.Untouched d' xs) ∨
      ((∃ source, e = .stdio source) ∧ d.Settled d' slots files sockets xs) := by
  unfold settleIn at h
  obtain ⟨entered, ys, rfl, hentered⟩ := h.ask_inv
  cases entered with
  | error source =>
    obtain ⟨rfl, hr⟩ := hentered.done_inv
    cases hr
    exact .inl ⟨nofun, .refl rfl⟩
  | ok =>
    obtain ⟨-, zs, rfl, hcleared⟩ := hentered.ask_inv
    obtain ⟨parent, ys, rfl, hparent⟩ := hcleared.ask_inv
    obtain ⟨told, zs, rfl, htold⟩ := hparent.ask_inv
    cases told with
    | error source =>
      -- here the marks are gone already, and are put back
      obtain ⟨rfl, hr⟩ := htold.done_inv
      cases hr
      exact .inl ⟨nofun, get?_remark d.env, rfl, rfl⟩
    | ok =>
      obtain ⟨hd, hstdio, rfl, hs⟩ := daemonStdio_failed htold
      refine .inr ⟨hstdio, hd, ⟨parent, ?_⟩, rfl⟩
      exact congrArg ((parent, Signal.interrupt) :: ·) hs

theorem gives_adoptSlots (slots : List Slot) :
    (adoptSlots slots).Gives fun r =>
      ∀ files, r = .ok files → files.map (·.name) = slots.map (·.name) := by
  induction slots with
  | nil => rintro files ⟨⟩; rfl
  | cons slot slots ih =>
    unfold adoptSlots
    refine Program.gives_after _ fun r => ?_
    cases r with
    | error source => rintro _ ⟨⟩
    | ok resource =>
      refine Program.gives_bind ih fun r hr => ?_
      cases r with
      | error source => rintro _ ⟨⟩
      | ok files =>
        rintro _ ⟨⟩
        exact congrArg (slot.name :: ·) (hr files rfl)

theorem gives_adoptSockets (descriptor : Descriptor) (count : Nat) :
    (adoptSockets descriptor count).Gives fun r =>
      (∀ e, r = .error e → ∀ source, e ≠ .stdio source) ∧
        ∀ sockets, r = .ok sockets → sockets.length = count := by
  induction count generalizing descriptor with
  | zero => exact ⟨by rintro _ ⟨⟩, by rintro _ ⟨⟩; rfl⟩
  | succ count ih =>
    unfold adoptSockets
    refine Program.gives_after _ fun r => ?_
    cases r with
    | error source => exact ⟨by rintro _ ⟨⟩ _ ⟨⟩, by rintro _ ⟨⟩⟩
    | ok resource =>
      dsimp only
      cases socketAt descriptor resource with
      | error source => exact ⟨by rintro _ ⟨⟩ _ ⟨⟩, by rintro _ ⟨⟩⟩
      | ok socket =>
        refine Program.gives_bind (ih (descriptor + 1)) fun r hr => ?_
        cases r with
        | error e => exact ⟨by rintro _ ⟨⟩; exact hr.1 e rfl, by rintro _ ⟨⟩⟩
        | ok sockets =>
          refine ⟨by rintro _ ⟨⟩, ?_⟩
          rintro _ ⟨⟩
          exact congrArg (· + 1) (hr.2 sockets rfl)

/-- **Every way in which a take-over fails.** Before the standard streams, nothing has changed and
nobody has been signalled. When the standard streams fail, the predecessor has been told to end and
everything has been taken over. -/
theorem failed_takeOver (h : d.takeOver.Takes xs (.error e, d')) :
    ((∀ source, e ≠ .stdio source) ∧ d.Untouched d' xs) ∨
      ((∃ source, e = .stdio source) ∧ ∃ files sockets,
        d.Settled d' (readSlots d.env) files sockets xs ∧
        files.map (·.name) = (readSlots d.env).map (·.name) ∧
        listenerCount d.env = .ok sockets.length) := by
  unfold takeOver at h
  split at h
  · -- a count of listeners that is no number
    obtain ⟨rfl, hr⟩ := h.done_inv
    cases hr
    next e hcount =>
      refine .inl ⟨?_, .refl rfl⟩
      unfold listenerCount at hcount
      split at hcount
      · cases hcount
      · split at hcount <;> cases hcount
        exact nofun
  · next count hcount =>
    obtain ⟨ys, zs, adopted, rfl, hadopted, hrest⟩ := h.bind_inv
    have hfiles := hadopted.silent (asks_adoptSlots _)
    have hnames := hadopted.gives (gives_adoptSlots _)
    cases adopted with
    | error failure =>
      obtain ⟨rfl, hr⟩ := hrest.done_inv
      cases hr
      exact .inl ⟨nofun, (Untouched.refl rfl).after hfiles⟩
    | ok files =>
      obtain ⟨ys', zs', listening, rfl, hlistening, hlast⟩ := hrest.bind_inv
      have hsockets := hlistening.silent (asks_adoptSockets _ _)
      have hlength := hlistening.gives (gives_adoptSockets _ _)
      cases listening with
      | error e =>
        obtain ⟨rfl, hr⟩ := hlast.done_inv
        cases hr
        exact .inl ⟨hlength.1 _ rfl, ((Untouched.refl rfl).after hsockets).after hfiles⟩
      | ok sockets =>
        obtain ⟨hne, hu⟩ | ⟨hstdio, hs⟩ := settleIn_failed hlast
        · exact .inl ⟨hne, (hu.after hsockets).after hfiles⟩
        · refine .inr ⟨hstdio, files, sockets, (hs.after hsockets).after hfiles,
            hnames files rfl, ?_⟩
          rw [hcount, hlength.2 sockets rfl]

/-! ## a refused signal, and streams that do not open -/

namespace Failing

/-- a detached successor with one file and one socket, over a variable of the user's -/
def daemon : Daemon :=
  Daemon.new ⟨true, .ofText "/molt.pid", .ofText "/srv", 10⟩
    ⟨[("MOLT_RELOAD", "reload"), ("MOLT_LISTENERS", "1"), ("MOLT_FD_3", "61:user")]⟩ false

def entered : List Exchange :=
  [⟨.adopt 3, .ok (.file 4)⟩, ⟨.adopt 4, .ok (.socket ⟨0, "127.0.0.1:80"⟩)⟩,
    ⟨.enterWorkDir (.ofText "/srv"), .ok ()⟩, ⟨.clearUmask, ()⟩, ⟨.parentId, (41 : Nat)⟩]

def refused : List Exchange :=
  entered ++ [⟨.signal 41 .interrupt, .error (.os ⟨3⟩)⟩]

def streamless : List Exchange :=
  entered ++ [⟨.signal 41 .interrupt, .ok ()⟩, ⟨.stdioHandles, .error (.os .badDescriptor)⟩]

theorem takes_refused : ∃ d', daemon.takeOver.Takes refused
    (.error (.signalParent 41 (.os ⟨3⟩)), d') :=
  ⟨_, .ask _ (.ask _ (.ask _ (.ask _ (.ask _ (.ask _ (.done _))))))⟩

theorem takes_streamless : ∃ d', daemon.takeOver.Takes streamless
    (.error (.stdio (.os .badDescriptor)), d') :=
  ⟨_, .ask _ (.ask _ (.ask _ (.ask _ (.ask _ (.ask _ (.ask _ (.done _)))))))⟩

end Failing

theorem failed_takeOver_refused : ∃ d',
    Failing.daemon.takeOver.Takes Failing.refused (.error (.signalParent 41 (.os ⟨3⟩)), d') ∧
    Failing.daemon.Untouched d' Failing.refused := by
  obtain ⟨d', h⟩ := Failing.takes_refused
  obtain ⟨-, hu⟩ | ⟨⟨source, hs⟩, -⟩ := failed_takeOver h
  · exact ⟨d', h, hu⟩
  · cases hs

/-- not every take-over that fails leaves everything as it was: this one has signalled -/
theorem failed_takeOver_streamless :
    ¬ ∀ (d d' : Daemon) (xs : List Exchange) (e : ReloadError),
      d.takeOver.Takes xs (.error e, d') → d.Untouched d' xs := by
  intro hall
  obtain ⟨d', h⟩ := Failing.takes_streamless
  have hsilent : delivered Failing.streamless = [] := (hall _ _ _ _ h).silent
  have hsignal : delivered Failing.streamless = [(41, .interrupt)] := rfl
  rw [hsignal] at hsilent
  cases hsilent

end Daemon
end Succession
