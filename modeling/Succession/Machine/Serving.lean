import Succession.Machine.World
import Succession.Server.Start

/-!
# A server on a machine

A process that serves: some of its listeners are inherited, and some addresses are bound by others.
The addresses of labels are known to the network as they are.

* `Network.labelled`
* `World.startServer`    a process begins, takes over what it inherits, and starts to serve;
* `Machine.raise`        a signal reaches it, and time goes by until it is forced to end.
-/

namespace Succession

/-- the addresses of labels resolve to themselves; those of `blocked` cannot be bound -/
def Network.labelled (net : Network) (labels blocked : List String) : Network where
  resolve address :=
    if (labels.map labelAddress).contains address then .ok [address] else net.resolve address
  bind p addresses :=
    if addresses.any (blocked.map labelAddress).contains then .error (.os .addressInUse)
    else match addresses.find? (labels.map labelAddress).contains with
      | some address => .ok address
      | none => net.bind p addresses

namespace World

/-- registers the inherited listeners of a process -/
def inherit (w : World) (process : String) : List String → World
  | [] => w
  | label :: rest => match w.listenerNamed label with
    | (.socket socket, w) =>
      inherit (w.modifyDaemon process fun d => { d with pool := (d.pool.add socket).2 })
        process rest
    | (_, w) => inherit w process rest

def keepFile (w : World) (process : String) (path : Path) : World :=
  match w.instance? process with
  | none => w
  | some i => match w.query process i fun _ => ExtraFile.openFile path with
    | (.error _, w) => w
    | (.ok file, w) => w.modifyDaemon process (·.addFile file)

def serveIn (w : World) (process : String) (net : Network) (config : ServerConfig) :
    Except ServeError Unit × World :=
  match w.instance? process with
  | none => (.ok (), w)
  | some i => match w.run process i fun d => d.serve net config with
    | (.error e, w) => (.error e, w)
    | (.ok _, w) => (.ok (), w)

structure ServerPlan where
  config : DaemonConfig
  server : ServerConfig
  /-- the labels of the listeners that it inherits -/
  inherited : List String
  /-- the file that was kept for it -/
  keptLog : Option Path

def serverProcess : String := "server"

def serverDaemon (w : World) : Daemon :=
  ((w.instance? serverProcess).map (·.daemon)).getD default

/-- a process begins, takes over what it inherits, and starts to serve -/
def startServer (w : World) (net : Network) (plan : ServerPlan) :
    Except ServeError Unit × World :=
  let w := w.begin serverProcess ⟨100, 1, .empty, []⟩
    ⟨Path.ofText "/usr/local/bin/app", [], .absent, .none, plan.config⟩
  let w := w.inherit serverProcess plan.inherited
  let w := match plan.keptLog with
    | some path => w.keepFile serverProcess path
    | none => w
  w.serveIn serverProcess net plan.server

end World

namespace Machine

/-- a server takes its signals out of a queue from now on -/
def runSignals (w : World) : Machine :=
  let m : Machine := (w, .new)
  match w.instance? World.serverProcess with
  | none => m
  | some i => m.coordinateDetached World.serverProcess i

/-- a signal reaches a server, and time goes by until it would be forced to end -/
def raise (m : Machine) (signal : Signal) : Machine :=
  match m.1.instance? World.serverProcess with
  | none => m
  | some i => match m.signal World.serverProcess i signal with
    | none => m
    | some (_, m) => m.advance i.daemon.config.hammerTimeout.timerMillis

end Machine
end Succession
