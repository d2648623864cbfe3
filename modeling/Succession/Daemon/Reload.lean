import Succession.Daemon.Basic
import Succession.Text.Quoted

/-!
# Handing over to a reload successor

A running daemon starts a fresh copy of itself with its files and listening sockets behind the
standard streams:

    descriptor   0 1 2 | 3 .. 3+F-1 | 3+F .. 3+F+L-1
                 stdio | files      | listeners in the order of their slots

The environment names the files, counts the sockets and marks the successor. Once the successor has
taken everything over, it signals its predecessor to end.

* `Daemon.reload`       the predecessor's side;
* `Daemon.takeOver`     the successor's side;
* `ReloadError`         what may fail on either.
-/

namespace Succession

inductive ReloadError where
  | executable (source : IoError)
  | duplicate (source : IoError)
  | launch (source : IoError)
  | adopt (descriptor : Descriptor) (source : IoError)
  /-- the variable that counts the sockets holds no count -/
  | listenerCount (raw : String)
  | workDir (source : IoError)
  | signalParent (pid : Nat) (source : IoError)
  | stdio (source : IoError)
deriving DecidableEq, Repr

namespace ReloadError

def message : ReloadError → String
  | executable source => "cannot determine executable path: " ++ source.message
  | duplicate source => "failed to duplicate descriptor for handoff: " ++ source.message
  | launch source => "failed to spawn reload successor: " ++ source.message
  | adopt descriptor source =>
    "failed to adopt inherited descriptor " ++ toString descriptor ++ ": " ++ source.message
  | listenerCount raw => "invalid listener count " ++ Quoted.text raw
  | workDir source => "failed to enter working directory: " ++ source.message
  | signalParent pid source =>
    "failed to signal predecessor (pid " ++ toString pid ++ "): " ++ source.message
  | stdio source => "failed to reopen stdio: " ++ source.message

def cause? : ReloadError → Option IoError
  | listenerCount _ => none
  | executable source | duplicate source | launch source | adopt _ source | workDir source
  | signalParent _ source | stdio source => some source

end ReloadError

/-- the value of the variable that marks a reload successor -/
def reloadMark : String := "reload"

namespace Daemon

/-! ## the predecessor -/

/-- what a reload changes in the successor's environment -/
def reloadChanges (d : Daemon) : List (String × Option String) :=
  (reloadVariable, some reloadMark) ::
    (listenersVariable, some (toString d.pool.snapshot.length)) :: slotChanges d.env d.files

/-- the files in order, and then the sockets in the order of their slots -/
def handedOver (d : Daemon) : List Resource :=
  d.files.map (·.resource) ++ d.pool.sockets.map Resource.socket

open Program in
/-- starts a successor. The PID lock is given up before, so that the successor can take it, and
stays given up if the launch fails -/
def reload (d : Daemon) : Program (Except ReloadError Nat × Daemon) := do
  match ← request .executable with
  | .error source => return (.error (.executable source), d)
  | .ok executable => match ← duplicateAll d.handedOver with
    | .error source => return (.error (.duplicate source), d)
    | .ok descriptors =>
      let d ← d.unlockPidFile
      let arguments ← request .arguments
      match ← request (.launch
          ⟨executable, arguments, d.reloadChanges, .inherit, .inherit, .inherit, descriptors,
            false⟩) with
      | .error source => return (.error (.launch source), d)
      | .ok launched => return (.ok launched.pid, d)

/-! ## the successor -/

/-- the number of inherited sockets; none without the variable -/
def listenerCount (env : Environment) : Except ReloadError Nat :=
  match env.get? listenersVariable with
  | none => .ok 0
  | some raw => match Numeral.parse? Numeral.max64 raw.toList with
    | none => .error (.listenerCount raw)
    | some count => .ok count

/-- an inherited descriptor serves as a listener only if it is a socket with an internet address -/
def socketAt (descriptor : Descriptor) : Resource → Except IoError Socket
  | .socket socket => .ok socket
  | .localSocket _ => .error (.refused "invalid argument")
  | .file _ => .error (.refused ("descriptor " ++ toString descriptor ++ " is not a socket"))

open Program in
/-- takes over `count` sockets from `descriptor` on, up to the first failure -/
def adoptSockets (descriptor : Descriptor) :
    Nat → Program (Except ReloadError (List Socket))
  | 0 => return .ok []
  | count + 1 => do
    match ← request (.adopt descriptor) with
    | .error source => return .error (.adopt descriptor source)
    | .ok resource => match socketAt descriptor resource with
      | .error source => return .error (.adopt descriptor source)
      | .ok socket => match ← adoptSockets (descriptor + 1) count with
        | .error e => return .error e
        | .ok sockets => return .ok (socket :: sockets)

/-- the environment without the marks of a reload -/
def unmark (env : Environment) : Environment :=
  (env.erase reloadVariable).erase listenersVariable

def remark (env : Environment) (mark count : Option String) : Environment :=
  let env := match mark with
    | some raw => env.set reloadVariable raw
    | none => env
  match count with
  | some raw => env.set listenersVariable raw
  | none => env

def register (d : Daemon) (files : List ExtraFile) (sockets : List Socket) : Daemon :=
  { d with
    pool := sockets.foldl (fun pool socket => (pool.add socket).2) d.pool
    files := d.files ++ files }

open Program in
def daemonStdio (d : Daemon) : Program (Except ReloadError (Option StdioPipes) × Daemon) := do
  if d.config.daemonize then
    match ← request .stdioHandles with
    | .error source => return (.error (.stdio source), d)
    | .ok pipes => return (.ok (some pipes), d)
  else return (.ok none, d)

open Program in
/-- enters the working directory, signals the predecessor and registers what was taken over -/
def settleIn (d : Daemon) (slots : List Slot) (files : List ExtraFile) (sockets : List Socket) :
    Program (Except ReloadError (Option StdioPipes) × Daemon) := do
  match ← request (.enterWorkDir d.config.workDir) with
  | .error source => return (.error (.workDir source), d)
  | .ok () =>
    request .clearUmask
    let mark := d.env.get? reloadVariable
    let count := d.env.get? listenersVariable
    let env := unmark d.env
    let parent ← request .parentId
    match ← request (.signal parent .interrupt) with
    | .error source =>
      return (.error (.signalParent parent source), { d with env := remark env mark count })
    | .ok () =>
      ({ d with env := restoreSlots env slots }.register files sockets).daemonStdio

/-- takes over files and sockets from the predecessor, and tells it to end -/
def takeOver (d : Daemon) : Program (Except ReloadError (Option StdioPipes) × Daemon) := do
  match listenerCount d.env with
  | .error e => return (.error e, d)
  | .ok count =>
    let slots := readSlots d.env
    match ← adoptSlots slots with
    | .error (descriptor, source) => return (.error (.adopt descriptor source), d)
    | .ok files => match ← adoptSockets (firstExtra + slots.length) count with
      | .error e => return (.error e, d)
      | .ok sockets => d.settleIn slots files sockets

end Daemon
end Succession
