import Succession.Request

/-!
# Programs

A program is finished, or asks a question and goes on with the answer. The same program is run by
one handler from start to end, or question by question between the questions of other processes.

* `Program.bind`      one program after the other;
* `Program.run`       the answer and the final state under a handler.
-/

namespace Succession

inductive Program (α : Type) where
  | done (a : α)
  | ask (q : Request) (next : q.Reply → Program α)

/-- answers every question from a state -/
abbrev Handler (σ : Type) := (q : Request) → σ → q.Reply × σ

namespace Program

variable {α β σ : Type}

def bind : Program α → (α → Program β) → Program β
  | done a, f => f a
  | ask q next, f => ask q fun r => (next r).bind f

instance : Monad Program where
  pure := done
  bind := bind

def request (q : Request) : Program q.Reply := ask q done

/-- the answer and the final state when `handler` answers every question -/
def run (handler : Handler σ) : Program α → σ → α × σ
  | done a, s => (a, s)
  | ask q next, s => (next (handler q s).1).run handler (handler q s).2

/-! ## one after the other -/

theorem bind_ask (q : Request) (next : q.Reply → Program α) (f : α → Program β) :
    ask q next >>= f = ask q fun r => next r >>= f := rfl

theorem run_ask (handler : Handler σ) (q : Request) (next : q.Reply → Program α) (s : σ) :
    (ask q next).run handler s = (next (handler q s).1).run handler (handler q s).2 := rfl

/-- a program runs to its end before what follows it begins -/
theorem run_bind (handler : Handler σ) (p : Program α) (f : α → Program β) (s : σ) :
    (p >>= f).run handler s = (f (p.run handler s).1).run handler (p.run handler s).2 := by
  induction p generalizing s with
  | done a => rfl
  | ask q next ih => rw [bind_ask, run_ask, ih, run_ask]

end Program
end Succession
