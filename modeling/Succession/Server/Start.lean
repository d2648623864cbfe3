import Succession.Config.Server
import Succession.Daemon.Start
import Succession.Server.Listen

/-!
# Starting to serve

A server opens the access log that was kept for it, takes its listeners over or binds them, starts
an accept loop on each of them, and says how it is going to end.

* `Serving`          what runs then;
* `Daemon.serve`     the start.
-/

namespace Succession

structure Serving where
  /-- the listeners that have an accept loop, in the order in which the loops were started -/
  loops : List ListenerId
  /-- where finished connections are reported, if a file was kept for it -/
  accessLog : Option Resource
deriving DecidableEq, Repr

namespace Daemon

/-- the kept file under the configured name of the access log -/
def reopenAccessLog (d : Daemon) : Option Path → Program (Except ServeError (Option Resource))
  | none => return .ok none
  | some path => do
    match ← d.cloneFile path with
    | .error source => return .error (.accessLog path source)
    | .ok log => return .ok log

/-- starts to serve; the listeners that were bound before a failure stay in the pool -/
def serve (d : Daemon) (net : Network) (config : ServerConfig) :
    Program (Except ServeError Serving × Daemon) := do
  match ← d.reopenAccessLog config.accessLog with
  | .error e => return (.error e, d)
  | .ok accessLog => match listenAll net d.pool config.listen with
    | (.error e, pool) => return (.error e, { d with pool })
    | (.ok loops, pool) =>
      return (.ok ⟨loops, accessLog⟩, { d with pool, shutdown := .drain config.drainTimeout })

end Daemon
end Succession
