import Succession.CommandLine.Run

/-!
# The command line

The outer layer: it answers a command's questions about files, and says what has become of the
command. What it cannot do on behalf of a process is refused as not implemented.
-/

namespace Succession.Main

/-- the files that this process has opened, by number -/
abbrev OpenFiles := Array IO.FS.Handle

def notImplemented : IoError := .os ⟨38⟩

/-- the number of the system's refusal, or its text -/
def ioError : IO.Error → IoError
  | .noFileOrDirectory _ code _ | .permissionDenied _ code _ | .inappropriateType _ code _
  | .resourceExhausted _ code _ | .invalidArgument _ code _ | .alreadyExists _ code _ =>
    .os ⟨code.toNat⟩
  | .noSuchThing _ code _ | .resourceBusy code _ | .unsupportedOperation code _
  | .hardwareFault code _ | .illegalOperation code _ | .otherError code _ => .os ⟨code.toNat⟩
  | e => .refused e.toString

def attempt {α : Type} (act : IO α) : IO (Except IoError α) := do
  match ← act.toBaseIO with
  | .ok a => return .ok a
  | .error e => return .error (ioError e)

/-- opens a file, which is made where that was asked for -/
def openHandle (path : String) (mode : OpenMode) : IO IO.FS.Handle := do
  if mode.append then IO.FS.Handle.mk path .append
  else if mode.create then
    let _ ← IO.FS.Handle.mk path .append
    IO.FS.Handle.mk path .readWrite
  else IO.FS.Handle.mk path .read

def onHandle {α : Type} (files : OpenFiles) (h : Handle) (act : IO.FS.Handle → IO α) :
    IO (Except IoError α) :=
  match files[h]? with
  | none => return .error (.os .badDescriptor)
  | some handle => attempt (act handle)

/-- a field of what the system tells about this process, counted from zero -/
def statField (index : Nat) : IO Nat := do
  match ← attempt (IO.FS.readFile "/proc/self/stat") with
  | .error _ => return 0
  | .ok text => return (((text.splitOn " ")[index]?).bind String.toNat?).getD 0

def answer (arguments : List String) : (q : Request) → OpenFiles → IO (q.Reply × OpenFiles)
  | .openFile path mode, files => do
    match ← attempt (openHandle path.display mode) with
    | .error e => return (.error e, files)
    | .ok handle => return (.ok files.size, files.push handle)
  | .lock h, files => do
    match ← onHandle files h (·.tryLock true) with
    | .error e => return (.error e, files)
    | .ok true => return (.ok (), files)
    | .ok false => return (.error (.os .wouldBlock), files)
  | .unlock h, files => do
    let _ ← onHandle files h (·.unlock)
    return ((), files)
  | .truncate h, files => return (← onHandle files h (·.truncate), files)
  | .rewind h, files => return (← onHandle files h (·.rewind), files)
  | .readAll h, files => do
    return ((← onHandle files h (·.readBinToEnd)).map fun b => b.data.toList, files)
  | .write h data, files => return (← onHandle files h fun f => do
      f.write ⟨data.toArray⟩
      f.flush, files)
  | .sync h, files => return (← onHandle files h (·.flush), files)
  | .close h, files => do
    let _ ← onHandle files h (·.unlock)
    return ((), files)
  | .duplicate resource, files => return (.ok resource, files)
  | .processId, files => return (← statField 0, files)
  | .workDir, files => do
    return ((← attempt IO.currentDir).map fun p => Path.ofText p.toString, files)
  | .now, files => return ((← IO.monoNanosNow), files)
  | .kill .., files => return (.error notImplemented, files)
  | .executable, files => do
    return ((← attempt IO.appPath).map fun p => Path.ofText p.toString, files)
  | .arguments, files => return (arguments.map Bytes.ofText, files)
  | .launch _, files => return (.error notImplemented, files)
  | .adopt _, files => return (.error (.os .badDescriptor), files)
  | .enterWorkDir _, files => return (.error notImplemented, files)
  | .clearUmask, files => return ((), files)
  | .stdioHandles, files => return (.error notImplemented, files)
  | .parentId, files => return (← statField 3, files)
  | .signal .., files => return (.error notImplemented, files)
  | .log line, files => do
    IO.eprintln line
    return (true, files)

def runProgram {α : Type} (arguments : List String) : Program α → OpenFiles → IO α
  | .done a, _ => return a
  | .ask q next, files => do
    let (reply, files) ← answer arguments q files
    runProgram arguments (next reply) files

/-- the variables that a command reads, apart from those of descriptors -/
def knownVariables : List String :=
  [stageVariable, reloadVariable, listenersVariable] ++ DaemonConfig.variableNames

/-- the numbers of descriptors whose variables are read -/
def knownDescriptors : List Descriptor := (List.range 256).map fun n : Nat => firstExtra + n

def environment : IO (Variables Bytes) := do
  let names := knownVariables ++ knownDescriptors.map descriptorVariable
  names.foldlM (fun vars name => do
    match ← IO.getEnv name with
    | none => return vars
    | some value => return vars.set name (Bytes.ofText value)) .empty

/-- what is said about words that make no sense -/
def usageText : String := "Usage: moltd [OPTIONS] <start|stop|reload|status>"

end Succession.Main

open Succession Succession.Main in
def main (arguments : List String) : IO UInt32 := do
  match Reading.ofArguments (arguments.map Bytes.ofText) with
  | .usage =>
    IO.eprintln usageText
    return 2
  | .help =>
    IO.println usageText
    return 0
  | .version =>
    IO.println "moltd 0.1.0"
    return 0
  | .invocation i =>
    let report ← runProgram arguments (i.run (← environment)) #[]
    IO.print report.stdout
    if report.stderr ≠ "" then IO.eprintln report.stderr
    return (report.exit?.getD 1).toUInt32
