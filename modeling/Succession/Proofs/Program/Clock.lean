import Succession.Proofs.Program.Asks

/-!
# A host whose clock goes on

A host of its own shows one instant. Beside a process, time goes by: here the clock may read anything
whenever it is asked, and everything else is answered by the host.

* `Clocked`                 a host, and what its clock will read;
* `Clocked.run_timeless`    a program that does not look at the clock runs as on the host alone.
-/

namespace Succession

/-- a host, and the readings of its clock from now on -/
structure Clocked where
  host : Host
  readings : Nat → Int

namespace Clocked

variable {α β : Type}

/-- every reading is the next one -/
def handle : Handler Clocked
  | .now, c => (c.readings 0, { c with readings := fun n => c.readings (n + 1) })
  | q, c => ((Host.handle q c.host).1, { c with host := (Host.handle q c.host).2 })

def run (c : Clocked) (p : Program α) : α × Clocked := p.run handle c

def tick (c : Clocked) : Clocked := { c with readings := fun n => c.readings (n + 1) }

theorem run_pure (c : Clocked) (a : α) : c.run (pure a) = (a, c) := rfl

theorem run_now (c : Clocked) : c.run (.request .now) = (c.readings 0, c.tick) := rfl

theorem run_bind_of_eq {c c' : Clocked} {p : Program α} {a : α} (f : α → Program β)
    (h : c.run p = (a, c')) : c.run (p >>= f) = c'.run (f a) := by
  show (p >>= f).run handle c = _
  rw [Program.run_bind, show p.run handle c = (a, c') from h]
  rfl

theorem handle_of_ne {q : Request} (hq : q ≠ .now) (c : Clocked) :
    handle q c = ((Host.handle q c.host).1, { c with host := (Host.handle q c.host).2 }) := by
  cases q with
  | now => exact absurd rfl hq
  | _ => rfl

/-- a program that does not look at the clock runs as on the host alone -/
theorem run_timeless {p : Program α} (hp : p.Asks (· ≠ .now)) (c : Clocked) :
    c.run p = ((c.host.run p).1, { c with host := (c.host.run p).2 }) := by
  induction p generalizing c with
  | done a => rfl
  | ask q next ih =>
    show (next (handle q c).1).run handle (handle q c).2 = _
    rw [handle_of_ne hp.1]
    exact ih _ (hp.2 _) _

theorem run_bind_timeless {c : Clocked} {p : Program α} {a : α} {host : Host} (f : α → Program β)
    (hp : p.Asks (· ≠ .now)) (h : c.host.run p = (a, host)) :
    c.run (p >>= f) = ({ c with host } : Clocked).run (f a) := by
  apply run_bind_of_eq
  rw [run_timeless hp, h]

theorem run_bind_request {c : Clocked} {q : Request} {r : q.Reply} {host : Host}
    (f : q.Reply → Program β) (hq : q ≠ .now) (h : Host.handle q c.host = (r, host)) :
    c.run (.request q >>= f) = ({ c with host } : Clocked).run (f r) :=
  run_bind_timeless f (Program.asks_request hq) h

end Clocked
end Succession
