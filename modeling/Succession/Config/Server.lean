import Succession.Config.Daemon
import Succession.PidFile.Lock
import Succession.Program
import Succession.Text.Quoted
import Succession.Toml.Document

/-!
# Configuration of the server

A configuration file is a TOML document with a section for the daemon and one for the server. What
it leaves out has its default, and keys that it does not know are left alone. A section may also be
written as an array of its fields in order.

* `Config.parse`    the configuration that a text describes;
* `Config.load`     the configuration of a file, or of the environment if there is no file;
* `Config.events`   the effective configuration as log events.
-/

namespace Succession

structure ServerConfig where
  /-- the addresses to serve on -/
  listen : List String
  /-- gets a line for every finished connection -/
  accessLog : Option Path
  /-- how long an end waits for open connections -/
  drainTimeoutSecs : Nat
deriving DecidableEq, Repr

namespace ServerConfig

def default : ServerConfig := ⟨["127.0.0.1:7000"], none, 5⟩

instance : Inhabited ServerConfig := ⟨default⟩

def drainTimeout (c : ServerConfig) : Duration := .ofSeconds c.drainTimeoutSecs

end ServerConfig

structure Config where
  /-- where the output of a detached daemon goes -/
  logFile : Option Path
  daemon : DaemonConfig
  server : ServerConfig
deriving DecidableEq, Repr

/-! ## reading sections -/

namespace Toml.Value

def boolean? : Value → Option Bool
  | .boolean b => some b
  | _ => none

def text? : Value → Option String
  | .string s => some s
  | _ => none

def path? (v : Value) : Option Path := v.text?.map Path.ofText

/-- an integer that is not negative -/
def natural? : Value → Option Nat
  | .integer n => if 0 ≤ n then some n.toNat else none
  | _ => none

def texts? : Value → Option (List String)
  | .array _ items => items.mapM text?
  | _ => none

/-- the fields of a section: by name in a table, in the order of `names` in an array, and none in a
date, which is a table of its own kind -/
def fields? (names : List String) : Value → Option (List (String × Value))
  | .table _ entries => some entries
  | .array _ items => some (names.zip items)
  | .datetime _ => some []
  | _ => none

end Toml.Value

/-- a field of a section: `fallback` if it is absent, nothing if it has the wrong type -/
def field? {α : Type} (fields : List (String × Toml.Value)) (name : String) (fallback : α)
    (read : Toml.Value → Option α) : Option α :=
  match fields.lookup name with
  | none => some fallback
  | some v => read v

def DaemonConfig.ofValue? (v : Toml.Value) : Option DaemonConfig := do
  let fields ← v.fields? ["daemonize", "pid_file", "work_dir", "hammer_timeout_secs"]
  return {
    daemonize := ← field? fields "daemonize" default.daemonize Toml.Value.boolean?
    pidFile := ← field? fields "pid_file" default.pidFile Toml.Value.path?
    workDir := ← field? fields "work_dir" default.workDir Toml.Value.path?
    hammerTimeoutSecs :=
      ← field? fields "hammer_timeout_secs" default.hammerTimeoutSecs Toml.Value.natural? }

def ServerConfig.ofValue? (v : Toml.Value) : Option ServerConfig := do
  let fields ← v.fields? ["listen", "access_log", "drain_timeout_secs"]
  return {
    listen := ← field? fields "listen" default.listen Toml.Value.texts?
    accessLog := ← field? fields "access_log" none fun v => v.path?.map some
    drainTimeoutSecs :=
      ← field? fields "drain_timeout_secs" default.drainTimeoutSecs Toml.Value.natural? }

namespace Config

def ofTable? (t : Toml.Table) : Option Config := do
  return {
    logFile := ← field? t.entries "log_file" none fun v => v.path?.map some
    daemon := ← field? t.entries "daemon" .default DaemonConfig.ofValue?
    server := ← field? t.entries "server" .default ServerConfig.ofValue? }

def parse (text : String) : Option Config := (Toml.parse text).bind ofTable?

/-! ## loading -/

inductive LoadError where
  | read (path : Path) (source : IoError)
  | parse (path : Path)
deriving DecidableEq, Repr

def LoadError.message : LoadError → String
  | read path _ => "Failed to read config file " ++ path.display
  | parse path => "Failed to parse config file " ++ path.display

open Program in
/-- the text of a file; a file that is no text cannot be read -/
def readText (path : Path) : Program (Except IoError String) := do
  match ← request (.openFile path .reading) with
  | .error e => return .error e
  | .ok h =>
    let content ← request (.readAll h)
    request (.close h)
    match content with
    | .error e => return .error e
    | .ok bytes => match Bytes.text? bytes with
      | none => return .error (.refused "stream did not contain valid UTF-8")
      | some text => return .ok text

/-- a file decides everything; without one, the environment decides about the daemon -/
def load (path : Option Path) (env : Variables Bytes) : Program (Except LoadError Config) := do
  match path with
  | none => return .ok ⟨none, .ofEnvironment env, .default⟩
  | some path => match ← readText path with
    | .error source => return .error (.read path source)
    | .ok text => match parse text with
      | none => return .error (.parse path)
      | some config => return .ok config

/-! ## reporting -/

def shownPath (path : Option Path) : EventValue :=
  .text (Quoted.option (path.map fun p => Quoted.fileName p.bytes))

def events (c : Config) : List Event :=
  [c.daemon.event,
    ⟨"Log destination", [("log_file", shownPath c.logFile)]⟩,
    ⟨"Server configuration",
      [("listen", .text (Quoted.list c.server.listen)),
        ("access_log", shownPath c.server.accessLog),
        ("drain_timeout_secs", .number c.server.drainTimeoutSecs)]⟩]

end Config
end Succession
