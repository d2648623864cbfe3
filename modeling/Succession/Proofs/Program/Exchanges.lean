import Succession.Proofs.Program.Asks

/-!
# What a program asked, and what it was told

Whoever answers, a program comes to its result by a list of questions with their answers. What holds
of every such list holds of every run.

* `Exchange`, `Program.Takes p xs a`   by the exchanges `xs`, the program `p` comes to `a`;
* `Takes.bind`, `Takes.bind_inv`, `Takes.ask_inv`, …   one part of a program after the other;
* `Takes.asked`                        a program asks nothing but what it may ask;
* `Answers`, `takes_run`               a run under a handler is such a list.
-/

namespace Succession

structure Exchange where
  question : Request
  answer : question.Reply

namespace Program

variable {α β σ : Type}

/-- by these exchanges, and whoever answered, the program comes to a result -/
inductive Takes : Program α → List Exchange → α → Prop where
  | done (a : α) : Takes (done a) [] a
  | ask {q : Request} {next : q.Reply → Program α} (r : q.Reply) {xs : List Exchange} {a : α}
      (rest : Takes (next r) xs a) : Takes (ask q next) (⟨q, r⟩ :: xs) a

/-- a handler gives these answers on its way from one state to another -/
inductive Answers (handler : Handler σ) : σ → List Exchange → σ → Prop where
  | nil (s : σ) : Answers handler s [] s
  | cons {q : Request} {s s' : σ} {xs : List Exchange}
      (rest : Answers handler (handler q s).2 xs s') :
      Answers handler s (⟨q, (handler q s).1⟩ :: xs) s'

theorem takes_run (handler : Handler σ) (p : Program α) (s : σ) :
    ∃ xs, p.Takes xs (p.run handler s).1 ∧ Answers handler s xs (p.run handler s).2 := by
  induction p generalizing s with
  | done a => exact ⟨[], .done a, .nil s⟩
  | ask q next ih =>
    obtain ⟨xs, ht, ha⟩ := ih (handler q s).1 (handler q s).2
    exact ⟨_, .ask _ ht, .cons ha⟩

namespace Takes

variable {p : Program α} {f : α → Program β} {q : Request} {xs : List Exchange} {a b : α} {c : β}

theorem done_inv (h : (pure a : Program α).Takes xs b) : xs = [] ∧ b = a := by
  cases h
  exact ⟨rfl, rfl⟩

/-- one part of a program comes to its result before the next one begins -/
theorem bind_inv (h : (p >>= f).Takes xs c) :
    ∃ ys zs a, xs = ys ++ zs ∧ p.Takes ys a ∧ (f a).Takes zs c := by
  induction p generalizing xs with
  | done a => exact ⟨[], xs, a, rfl, .done a, h⟩
  | ask q next ih =>
    obtain - | ⟨r, rest⟩ := h
    obtain ⟨ys, zs, a, rfl, hp, hf⟩ := ih r rest
    exact ⟨_, zs, a, rfl, .ask r hp, hf⟩

/-- the last part of a program may ask nothing any more -/
theorem bind_last_inv (h : (p >>= f).Takes xs c)
    (hlast : ∀ (a : α) (ys : List Exchange) (b : β), (f a).Takes ys b → ys = []) :
    ∃ a, p.Takes xs a ∧ (f a).Takes [] c := by
  obtain ⟨ys, zs, a, rfl, hp, hf⟩ := h.bind_inv
  obtain rfl := hlast _ _ _ hf
  rw [List.append_nil]
  exact ⟨a, hp, hf⟩

theorem bind {zs : List Exchange} (hp : p.Takes xs a) (hf : (f a).Takes zs c) :
    (p >>= f).Takes (xs ++ zs) c := by
  induction hp with
  | done a => exact hf
  | ask r rest ih => exact .ask r (ih hf)

theorem ask_inv {f : q.Reply → Program β} (h : (request q >>= f).Takes xs c) :
    ∃ r ys, xs = ⟨q, r⟩ :: ys ∧ (f r).Takes ys c := by
  obtain - | ⟨r, rest⟩ := h
  exact ⟨r, _, rfl, rest⟩

theorem asked {ok : Request → Prop} (h : p.Takes xs a) (hp : p.Asks ok) :
    ∀ x ∈ xs, ok x.question := by
  induction h with
  | done a => nofun
  | ask r rest ih =>
    intro x hx
    obtain rfl | hx := List.mem_cons.mp hx
    · exact hp.1
    · exact ih (hp.2 r) x hx

theorem gives {post : α → Prop} (h : p.Takes xs a) (hp : p.Gives post) : post a := by
  induction h with
  | done a => exact hp
  | ask r rest ih => exact ih (hp r)

end Takes

end Program
end Succession
