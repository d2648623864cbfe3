import Succession.CommandLine.Arguments
import Succession.Server.Start
import Succession.Log.FileLogger

/-!
# Running a command

The command line's options win over the configuration, which is a file's or the environment's. An
operator's command is done at once; a start goes through the stages of the start sequence.

* `Report`          what has become of the command;
* `Invocation.run`  a command;
* `Report.stdout`, `Report.stderr`, `Report.exit?`.
-/

namespace Succession

inductive Report where
  /-- done, with a line for the operator -/
  | done (line : String)
  | failed (message : String)
  /-- this process is done, because a successor goes on or nobody is left to tell -/
  | exit (code : Nat)
  /-- this is the final process, which goes on to serve -/
  | serving (daemon : Daemon) (server : ServerConfig)
deriving Repr

namespace Report

/-- the exit code, unless the process goes on -/
def exit? : Report → Option Nat
  | done _ => some 0
  | failed _ => some 1
  | exit code => some code
  | serving .. => none

def stdout : Report → String
  | done line => line ++ "\n"
  | _ => ""

def stderr : Report → String
  | failed message => "Error: " ++ message
  | _ => ""

def caused (message : String) (cause : Option IoError) : Report :=
  failed (match cause with
  | none => message
  | some e => message ++ ": " ++ e.message)

def ofFailure (e : Failure) : Report := caused e.message e.cause?

end Report

namespace Config

def LoadError.cause? : LoadError → Option IoError
  | read _ source => some source
  | parse _ => none

/-- the options of the command line win -/
def withOptions (c : Config) (i : Invocation) : Config :=
  let c := { c with logFile := i.logFile.or c.logFile }
  let c := { c with daemon := { c.daemon with pidFile := i.pidFile.getD c.daemon.pidFile } }
  match i.command with
  | .start daemonize listen => { c with
      daemon := { c.daemon with daemonize := c.daemon.daemonize || daemonize }
      server := { c.server with listen := if listen = [] then c.server.listen else listen } }
  | _ => c

end Config

/-! ## operators -/

def sendCommand (word : String) (send : Program (Except ControlError Nat)) : Program Report := do
  match ← send with
  | .error e => return .ofFailure (.control e)
  | .ok pid => return .done ("Sent " ++ word ++ " to pid " ++ toString pid)

def statusCommand (control : Control) : Program Report := do
  match ← control.status with
  | .error e => return .ofFailure (.control e)
  | .ok status => return .done status.render

/-! ## starting -/

/-- the log file is opened before anything else; what it cannot take is lost -/
def openLog : Option Path → Program (Except Report Unit)
  | none => return .ok ()
  | some path => do
    match ← FileLogger.openFile path with
    | .error e => return .error (.caused ("Failed to open log file " ++ path.display) (some e))
    | .ok _ => return .ok ()

/-- the first process opens the access log, and hands it on to those behind it -/
def keepAccessLog (d : Daemon) : Option Path → Program (Except Report Daemon)
  | none => return .ok d
  | some path => do
    if (← d.stage) = .parent ∧ ¬ d.isReload then
      match ← ExtraFile.openFile path with
      | .error e => return .error (.caused ("Failed to open access log " ++ path.display) (some e))
      | .ok file => return .ok (d.addFile file)
    else return .ok d

def startCommand (config : Config) (env : Environment) : Program Report := do
  match ← openLog config.logFile with
  | .error report => return report
  | .ok () => match ← keepAccessLog (.new config.daemon env true) config.server.accessLog with
    | .error report => return report
    | .ok d => match ← d.makeDaemon with
      | (.error e, _) => return .ofFailure e
      | (.ok (.exit code), _) => return .exit code
      | (.ok (.ready _), d) => return .serving d config.server

/-- runs a command in an environment; a variable that is no text counts for the configuration
alone -/
def Invocation.run (i : Invocation) (env : Variables Bytes) : Program Report := do
  match ← Config.load i.configFile env with
  | .error e => return .caused e.message e.cause?
  | .ok config =>
    let config := config.withOptions i
    let control : Control := ⟨config.daemon.pidFile⟩
    match i.command with
    | .start .. => startCommand config (env.filterMap Bytes.text?)
    | .stop => sendCommand "stop" control.stop
    | .reload => sendCommand "reload" control.reload
    | .status => statusCommand control

end Succession
