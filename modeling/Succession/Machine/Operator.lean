import Succession.CommandLine.Run
import Succession.Machine.Initial

/-!
# A command on a machine

A command line runs in a process of its own, which leads a process group of its own. Beside it there
are other processes that its signals may reach.

* `Host.handleAmong`   the answers where only some processes live;
* `Commanded`          what can be seen of a command from outside;
* `Host.command`       runs the words of a command line.
-/

namespace Succession

/-- process numbers of zero stand for the sender's own group -/
def ownGroup : Nat := 0

namespace Host

/-- the answers where the processes `alive` live beside this one -/
def handleAmong (alive : List Nat) : Handler Host
  | .kill pid signal, host =>
    if pid = ownGroup ∨ pid = host.process.pid ∨ alive.contains pid then
      handle (.kill pid signal) host
    else (.error (.os .noProcess), host)
  | q, host => handle q host

/-- the signal that reached a process, the first if there were several -/
def signalled (host : Host) (pids : List Nat) : Option Signal :=
  (host.kernel.kills.find? fun k => pids.contains k.1).map (·.2)

end Host

structure Commanded where
  /-- nothing if a signal ended it, or if it goes on -/
  exit : Option Nat
  signal : Option Signal
  stdout : String
  stderr : String
  host : Host

def usageExitCode : Nat := 2

def Commanded.ended (host : Host) (code : Nat) (stdout : String) : Commanded :=
  ⟨some code, none, stdout, "", host⟩

def versionLine : String := "moltd 0.1.0\n"

/-- runs the words of a command line in an environment. A signal to its own group ends a command
before it can say anything -/
def Host.command (host : Host) (alive : List Nat) (env : Variables Bytes) (words : List Bytes) :
    Commanded :=
  match Reading.ofArguments words with
  | .usage => .ended host usageExitCode ""
  | .help => .ended host 0 ""
  | .version => .ended host 0 versionLine
  | .invocation i =>
    let (report, host) := (i.run env).run (Host.handleAmong alive) host.moving
    match host.signalled [ownGroup, host.process.pid] with
    | some signal => ⟨none, some signal, "", "", host⟩
    | none => ⟨report.exit?, none, report.stdout, report.stderr, host⟩

end Succession
