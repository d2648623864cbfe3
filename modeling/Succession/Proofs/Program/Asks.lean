import Succession.Machine.Host

/-!
# What a program may ask

A program is a tree over every answer, so what it may ask and what it may come to does not depend on
who answers.

* `Program.Asks ok p`      every question on every branch of `p` satisfies `ok`;
* `Program.Gives post p`   every branch of `p` ends in a result that satisfies `post`;
* `Host.run_bind`, `Host.run_request`   a host answers one part of a program after the other;
* `Host.faulty_snd`, `Host.kin_handle`  what an answer leaves as it is.
-/

namespace Succession

namespace Program

variable {α β σ : Type}

theorem run_pure (handler : Handler σ) (a : α) (s : σ) :
    (pure a : Program α).run handler s = (a, s) := rfl

theorem run_request (handler : Handler σ) (q : Request) (s : σ) :
    (request q).run handler s = handler q s := rfl

/-- every question on every branch satisfies `ok` -/
def Asks (ok : Request → Prop) : Program α → Prop
  | done _ => True
  | ask q next => ok q ∧ ∀ r, (next r).Asks ok

theorem asks_pure (ok : Request → Prop) (a : α) : (pure a : Program α).Asks ok := trivial

theorem asks_request {ok : Request → Prop} {q : Request} (h : ok q) : (request q).Asks ok :=
  ⟨h, fun _ => trivial⟩

theorem asks_bind {ok : Request → Prop} {p : Program α} {f : α → Program β} (hp : p.Asks ok)
    (hf : ∀ a, (f a).Asks ok) : (p >>= f).Asks ok := by
  induction p with
  | done a => exact hf a
  | ask q next ih => exact ⟨hp.1, fun r => ih r (hp.2 r)⟩

theorem Asks.mono {ok ok' : Request → Prop} {p : Program α} (hp : p.Asks ok)
    (hle : ∀ q, ok q → ok' q) : p.Asks ok' := by
  induction p with
  | done a => trivial
  | ask q next ih => exact ⟨hle q hp.1, fun r => ih r (hp.2 r)⟩

theorem asks_try {ε : Type} {ok : Request → Prop} {p : Program (Except ε α)}
    {f : Except ε α → Program β} (hp : p.Asks ok) (herror : ∀ e, (f (.error e)).Asks ok)
    (hok : ∀ a, (f (.ok a)).Asks ok) : (p >>= f).Asks ok := by
  refine asks_bind hp fun r => ?_
  cases r with
  | error e => exact herror e
  | ok a => exact hok a

/-- whoever answers, the result satisfies `post` -/
def Gives (post : α → Prop) : Program α → Prop
  | done a => post a
  | ask _ next => ∀ r, (next r).Gives post

theorem gives_true (p : Program α) : p.Gives fun _ => True := by
  induction p with
  | done a => trivial
  | ask q next ih => exact ih

theorem Gives.mono {mid post : α → Prop} {p : Program α} (hp : p.Gives mid)
    (h : ∀ a, mid a → post a) : p.Gives post := by
  induction p with
  | done a => exact h a hp
  | ask q next ih => exact fun r => ih r (hp r)

theorem gives_bind {mid : α → Prop} {post : β → Prop} {p : Program α} {f : α → Program β}
    (hp : p.Gives mid) (hf : ∀ a, mid a → (f a).Gives post) : (p >>= f).Gives post := by
  induction p with
  | done a => exact hf a hp
  | ask q next ih => exact fun r => ih r (hp r)

theorem gives_after {post : β → Prop} (p : Program α) {f : α → Program β}
    (hf : ∀ a, (f a).Gives post) : (p >>= f).Gives post :=
  gives_bind p.gives_true fun a _ => hf a

theorem Gives.run {post : α → Prop} {p : Program α} (hp : p.Gives post) (handler : Handler σ)
    (s : σ) : post (p.run handler s).1 := by
  induction p generalizing s with
  | done a => exact hp
  | ask q next ih => exact ih _ (hp _) _

end Program

namespace Host

variable {α β : Type}

theorem run_bind (host : Host) (p : Program α) (f : α → Program β) :
    host.run (p >>= f) = (host.run p).2.run (f (host.run p).1) := Program.run_bind handle p f host

theorem run_pure (host : Host) (a : α) : host.run (pure a) = (a, host) := rfl

theorem run_request (host : Host) (q : Request) :
    host.run (Program.request q) = handle q host := rfl

theorem run_bind_of_eq {host host' : Host} {p : Program α} {a : α} (f : α → Program β)
    (h : host.run p = (a, host')) : host.run (p >>= f) = host'.run (f a) := by
  rw [run_bind, h]

theorem faulty_snd {host : Host} {fault : Option Errno} {answer : Except IoError α × Host}
    (P : Host → Prop) (hhost : P host) (hanswer : P answer.2) :
    P (faulty fault host answer).2 := by
  cases fault with
  | none => exact hanswer
  | some errno => exact hhost

/-- no answer changes the number of a process, or its parent -/
theorem kin_handle (q : Request) (host : Host) :
    (handle q host).2.process.pid = host.process.pid ∧
      (handle q host).2.process.parent = host.process.parent := by
  let Kin (after : Host) : Prop :=
    after.process.pid = host.process.pid ∧ after.process.parent = host.process.parent
  have hfaulty {α : Type} {fault : Option Errno} {answer : Except IoError α × Host}
      (h : Kin answer.2) : Kin (faulty fault host answer).2 := faulty_snd Kin ⟨rfl, rfl⟩ h
  cases q with
  | kill pid signal => exact faulty_snd Kin ⟨rfl, rfl⟩ ⟨rfl, rfl⟩
  | lock | executable | launch | stdioHandles | signal => exact hfaulty ⟨rfl, rfl⟩
  | adopt descriptor =>
    refine hfaulty ?_
    show Kin (host.adopt descriptor).2
    unfold Host.adopt
    split <;> exact ⟨rfl, rfl⟩
  | enterWorkDir path =>
    refine hfaulty ?_
    show Kin (host.enterWorkDir path).2
    unfold Host.enterWorkDir
    split
    · split <;> exact ⟨rfl, rfl⟩
    · exact ⟨rfl, rfl⟩
  | log line =>
    show Kin (host.log line).2
    unfold Host.log
    split <;> exact ⟨rfl, rfl⟩
  | _ => exact ⟨rfl, rfl⟩

end Host
end Succession
