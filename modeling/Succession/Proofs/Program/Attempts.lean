import Succession.Proofs.PidFile.Moves
import Succession.Proofs.Program.Exchanges

/-!
# Calls that fail

A call of the system that can fail may do so at any time, whatever the file system is like. It has
done nothing then, but that a write may have got through in part. A call that does not fail does
what a host does.

* `Host.Attempt host q r host'`     the question `q` was answered by `r`, truly or by a failure;
* `Attempt.fs_ind`                  what an attempt makes of the file system;
* `Host.Attempts host xs host'`     one question after the other;
* `attempts_run`, `Attempts.ask`    a run makes attempts, and a program's first question is one.
-/

namespace Succession

/-- the answer of a call that fails, if it can fail -/
def Request.failure? (e : IoError) : (q : Request) → Option q.Reply
  | .openFile _ _ => some (.error e)
  | .lock _ => some (.error e)
  | .truncate _ => some (.error e)
  | .rewind _ => some (.error e)
  | .readAll _ => some (.error e)
  | .write _ _ => some (.error e)
  | .sync _ => some (.error e)
  | .duplicate _ => some (.error e)
  | .workDir => some (.error e)
  | .kill _ _ => some (.error e)
  | .executable => some (.error e)
  | .launch _ => some (.error e)
  | .adopt _ => some (.error e)
  | .enterWorkDir _ => some (.error e)
  | .stdioHandles => some (.error e)
  | .signal _ _ => some (.error e)
  | _ => none

namespace Host

/-- a question to the system, its answer, and the host behind it -/
inductive Attempt (host : Host) : (q : Request) → q.Reply → Host → Prop where
  | answered (q : Request) : Attempt host q (handle q host).1 (handle q host).2
  | failed {q : Request} {r : q.Reply} (e : IoError) (hr : q.failure? e = some r) :
      Attempt host q r host
  /-- the disk was full before everything was written -/
  | partly {h : Handle} {data written : Bytes} (e : IoError) (hpart : written <+: data) :
      Attempt host (.write h data) (.error e) (handle (.write h written) host).2
  /-- nobody looks at what unlocking answers -/
  | unlocked (h : Handle) : Attempt host (.unlock h) () host

inductive Attempts : Host → List Exchange → Host → Prop where
  | nil (host : Host) : Attempts host [] host
  | cons {host mid host' : Host} {q : Request} {r : q.Reply} {xs : List Exchange}
      (h : host.Attempt q r mid) (rest : Attempts mid xs host') :
      Attempts host (⟨q, r⟩ :: xs) host'

variable {host mid host' : Host} {q : Request} {r : q.Reply} {xs ys : List Exchange}

/-! ## one attempt -/

theorem attempt_of_eq (h : handle q host = (r, host')) : host.Attempt q r host' := by
  have ha : host.Attempt q (handle q host).1 (handle q host).2 := .answered q
  rwa [h] at ha

/-- what holds of the file system as it was, and of what a host makes of it, holds in any case -/
theorem Attempt.fs_ind {P : FileSystem → Prop} (ha : host.Attempt q r host')
    (hsame : P host.kernel.fs) (hanswer : P (handle q host).2.kernel.fs)
    (hpart : ∀ h data written, q = .write h data → P (host.kernel.fs.write h written).2) :
    P host'.kernel.fs := by
  cases ha with
  | answered => exact hanswer
  | failed => exact hsame
  | @partly h data written e => exact hpart h data written rfl
  | unlocked => exact hsame

theorem Attempt.pid_eq (ha : host.Attempt q r host') : host'.process.pid = host.process.pid := by
  cases ha with
  | answered => exact pid_handle q host
  | failed => rfl
  | @partly h data written e => exact pid_handle (.write h written) host
  | unlocked => rfl

theorem Attempt.fs_of_quiet (ha : host.Attempt q r host') (hq : q.Quiet) :
    host'.kernel.fs = host.kernel.fs := by
  refine ha.fs_ind (P := (· = host.kernel.fs)) rfl (fs_handle_of_quiet hq host) ?_
  intro h data written he
  subst he
  exact hq.elim

/-! ## one after the other -/

theorem attempts_of_answers (h : Program.Answers handle host xs host') :
    host.Attempts xs host' := by
  induction h with
  | nil host => exact .nil host
  | cons rest ih => exact .cons (.answered _) ih

theorem attempts_run {α : Type} (p : Program α) (host : Host) :
    ∃ xs, p.Takes xs (host.run p).1 ∧ host.Attempts xs (host.run p).2 := by
  obtain ⟨xs, ht, ha⟩ := Program.takes_run handle p host
  exact ⟨xs, ht, attempts_of_answers ha⟩

theorem Attempts.append_inv (h : host.Attempts (xs ++ ys) host') :
    ∃ mid, host.Attempts xs mid ∧ mid.Attempts ys host' := by
  induction xs generalizing host with
  | nil => exact ⟨host, .nil host, h⟩
  | cons x xs ih =>
    obtain - | ⟨ha, rest⟩ := h
    obtain ⟨mid, hxs, hys⟩ := ih rest
    exact ⟨mid, .cons ha hxs, hys⟩

/-- a program's first question, and the rest of its run -/
theorem Attempts.ask {α : Type} {f : q.Reply → Program α} {a : α} (h : host.Attempts xs host')
    (ht : (Program.request q >>= f).Takes xs a) :
    ∃ r mid ys, xs = ⟨q, r⟩ :: ys ∧ host.Attempt q r mid ∧ (f r).Takes ys a ∧
      mid.Attempts ys host' := by
  obtain ⟨r, ys, rfl, hrest⟩ := ht.ask_inv
  obtain - | ⟨ha, rest⟩ := h
  exact ⟨r, _, ys, rfl, ha, hrest, rest⟩

/-- one part of a program, and the rest of its run -/
theorem Attempts.bind {α β : Type} {p : Program α} {f : α → Program β} {b : β}
    (h : host.Attempts xs host') (ht : (p >>= f).Takes xs b) :
    ∃ ys zs a mid, xs = ys ++ zs ∧ p.Takes ys a ∧ host.Attempts ys mid ∧ (f a).Takes zs b ∧
      mid.Attempts zs host' := by
  obtain ⟨ys, zs, a, rfl, hp, hf⟩ := ht.bind_inv
  obtain ⟨mid, hys, hzs⟩ := h.append_inv
  exact ⟨ys, zs, a, mid, rfl, hp, hys, hf, hzs⟩

theorem Attempts.nil_inv (h : host.Attempts [] host') : host' = host := by
  cases h
  rfl

theorem Attempts.pid_eq (h : host.Attempts xs host') : host'.process.pid = host.process.pid := by
  induction h with
  | nil => rfl
  | cons ha rest ih => exact ih.trans ha.pid_eq

/-- what every attempt of the exchanges keeps is kept -/
theorem Attempts.keeps {P : Host → Prop} (h : host.Attempts xs host')
    (hstep : ∀ x ∈ xs, ∀ host host' : Host, host.Attempt x.question x.answer host' →
      P host → P host') (hhost : P host) : P host' := by
  induction h with
  | nil => exact hhost
  | cons ha rest ih =>
    exact ih (fun x hx => hstep x (List.mem_cons_of_mem _ hx))
      (hstep _ List.mem_cons_self _ _ ha hhost)

theorem Attempts.fs_of_quiet (h : host.Attempts xs host') (hq : ∀ x ∈ xs, x.question.Quiet) :
    host'.kernel.fs = host.kernel.fs := by
  refine h.keeps (P := fun after => after.kernel.fs = host.kernel.fs) ?_ rfl
  intro x hx before after hstep hP
  exact (hstep.fs_of_quiet (hq x hx)).trans hP

end Host
end Succession
