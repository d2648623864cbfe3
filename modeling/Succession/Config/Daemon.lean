import Succession.Handoff.Variables
import Succession.Path
import Succession.Text.Numeral
import Succession.Time.Duration
import Succession.Log.Event

/-!
# Configuration of a daemon

* `DaemonConfig.default`
* `DaemonConfig.ofEnvironment`   the configuration that the environment asks for; a value that
                                 makes no sense counts as absent;
* `DaemonConfig.event`           the effective configuration as a log event.
-/

namespace Succession

structure DaemonConfig where
  /-- detach with a second fresh copy and a session of its own -/
  daemonize : Bool
  pidFile : Path
  /-- the working directory of the final process -/
  workDir : Path
  /-- how long a graceful end may take before it is forced -/
  hammerTimeoutSecs : Nat
deriving DecidableEq, Repr

namespace DaemonConfig

def default : DaemonConfig := ⟨false, Path.ofText "molt.pid", Path.ofText "/", 10⟩

instance : Inhabited DaemonConfig := ⟨default⟩

def hammerTimeout (c : DaemonConfig) : Duration := .ofSeconds c.hammerTimeoutSecs

/-! ## from the environment -/

def daemonizeVariable : String := "MOLT_DAEMONIZE"
def pidFileVariable : String := "MOLT_PID_FILE"
def workDirVariable : String := "MOLT_WORK_DIR"
def hammerTimeoutVariable : String := "MOLT_HAMMER_TIMEOUT_SECS"

/-- the variables that a configuration is read from -/
def variableNames : List String :=
  [daemonizeVariable, pidFileVariable, workDirVariable, hammerTimeoutVariable]

/-- the words for yes, in any case -/
def isYes (text : String) : Bool :=
  ["1", "true", "yes", "on"].contains (String.ofList (text.toList.map Char.toLower))

def ofEnvironment (env : Variables Bytes) : DaemonConfig where
  daemonize := match (env.get? daemonizeVariable).bind Bytes.text? with
    | some text => isYes text
    | none => default.daemonize
  pidFile := match env.get? pidFileVariable with
    | some bytes => ⟨bytes⟩
    | none => default.pidFile
  workDir := match env.get? workDirVariable with
    | some bytes => ⟨bytes⟩
    | none => default.workDir
  hammerTimeoutSecs :=
    match (env.get? hammerTimeoutVariable).bind Bytes.text? with
    | some text => (Numeral.parse? Numeral.max64 text.toList).getD default.hammerTimeoutSecs
    | none => default.hammerTimeoutSecs

def event (c : DaemonConfig) : Event :=
  ⟨"Daemon configuration",
    [("daemonize", .flag c.daemonize), ("pid_file", .text c.pidFile.display),
      ("work_dir", .text c.workDir.display), ("hammer_timeout_secs", .number c.hammerTimeoutSecs)]⟩

end DaemonConfig
end Succession
