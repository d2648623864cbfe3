import Succession.Daemon.File
import Succession.Daemon.Relay
import Succession.Handoff.StageMarker

/-!
# The start sequence

A process becomes a daemon through fresh copies of itself: one in the foreground, two for a detached
daemon. Every stage but the last launches the next one and is done; the last one enters the working
directory and gives every handoff variable its previous value back.

* `SpawnError`          which step of which stage failed;
* `SpawnOutcome`        a successor took over, or this is the final process;
* `Spawner.spawn`       one stage.
-/

namespace Succession

def stageVariable : String := "MOLT_STAGE"

inductive SpawnError where
  | executable (stage : Stage) (source : IoError)
  | launch (stage : Stage) (source : IoError)
  | adopt (stage : Stage) (descriptor : Descriptor) (source : IoError)
  | terminal (stage : Stage) (source : IoError)
deriving DecidableEq, Repr

namespace SpawnError

def stage : SpawnError → Stage
  | executable stage _ | launch stage _ | adopt stage _ _ | terminal stage _ => stage

/-- the standard streams were redirected before it happened: there is nobody left to tell -/
def isFatal (e : SpawnError) : Bool := e.stage ≠ .parent

def source : SpawnError → IoError
  | executable _ source | launch _ source | adopt _ _ source | terminal _ source => source

def message : SpawnError → String
  | executable _ source =>
    "cannot determine executable path, daemonization is not supported: " ++ source.message
  | launch stage source =>
    "failed to spawn successor from " ++ stage.name ++ " stage: " ++ source.message
  | adopt stage descriptor source =>
    "failed to adopt inherited descriptor " ++ toString descriptor ++ " in " ++ stage.name ++
      " stage: " ++ source.message
  | terminal _ source => "failed to enter terminal stage: " ++ source.message

end SpawnError

structure Terminal where
  /-- only for a detached daemon -/
  stdio : Option StdioPipes
  files : List ExtraFile
deriving DecidableEq, Repr

inductive SpawnOutcome where
  /-- a successor goes on; this process is to exit -/
  | handoff (pid : Nat)
  /-- this is the final process -/
  | ready (terminal : Terminal)
deriving DecidableEq, Repr

/-- one stage of the start sequence, and what it starts from -/
structure Spawner where
  env : Environment
  hasLogger : Bool
  daemonize : Bool
  workDir : Path

namespace Spawner

def terminalStage (s : Spawner) : Stage := if s.daemonize then .daemon else .firstChild

open Program in
def marker (env : Environment) : Program StageMarker := do
  let now ← request .now
  return StageMarker.decode (env.get? stageVariable) now

def currentStage (s : Spawner) : Program Stage := do return (← marker s.env).stage

/-- the standard streams of a successor: a detached daemon's first copy has none, and the output of
its second comes back through pipes -/
def stdio (s : Spawner) (stage : Stage) : StdioSource × StdioSource × StdioSource :=
  if s.daemonize then
    if stage = .parent then (.null, .null, .null) else (.inherit, .piped, .piped)
  else (.inherit, .inherit, .inherit)

/-- the changes to a successor's environment: files are described once, in the first stage -/
def changes (s : Spawner) (stage next : Stage) (carried : Option String) (now : Int)
    (files : List ExtraFile) : List (String × Option String) :=
  (stageVariable, some (StageMarker.encode next carried now)) ::
    (if stage = .parent then slotChanges s.env files else [])

open Program in
/-- launches the next stage and relays its output -/
def launchNext (s : Spawner) (stage next : Stage) (carried : Option String) (executable : Path)
    (files : List ExtraFile) : Program (Except SpawnError SpawnOutcome) := do
  let env := s.changes stage next carried (← request .now) files
  match ← duplicateAll (files.map (·.resource)) with
  | .error source => return .error (.launch stage source)
  | .ok descriptors =>
    let arguments ← request .arguments
    let (stdin, stdout, stderr) := s.stdio stage
    let newSession := s.daemonize && stage = .parent
    match ← request (.launch
        ⟨executable, arguments, env, stdin, stdout, stderr, descriptors, newSession⟩) with
    | .error source => return .error (.launch stage source)
    | .ok launched =>
      Relay.relayOutput s.hasLogger launched
      return .ok (.handoff launched.pid)

open Program in
/-- the last stage: the environment afterwards is what it was before the sequence began -/
def finish (s : Spawner) (stage : Stage) (carried : Option String) (files : List ExtraFile) :
    Program (Except SpawnError SpawnOutcome × Environment) := do
  match ← request (.enterWorkDir s.workDir) with
  | .error source => return (.error (.terminal stage source), s.env)
  | .ok () =>
    request .clearUmask
    let env := (restoreSlots s.env (readSlots s.env)).restore stageVariable carried
    if s.daemonize then
      match ← request .stdioHandles with
      | .error source => return (.error (.terminal stage source), env)
      | .ok pipes => return (.ok (.ready ⟨some pipes, files⟩), env)
    else return (.ok (.ready ⟨none, files⟩), env)

/-- the files of a stage: the registered ones in the first, the inherited ones later -/
def stageFiles (s : Spawner) (stage : Stage) (files : List ExtraFile) :
    Program (Except SpawnError (List ExtraFile)) := do
  if stage = .parent then return .ok files
  else match ← adoptSlots (readSlots s.env) with
    | .error (descriptor, source) => return .error (.adopt stage descriptor source)
    | .ok files => return .ok files

/-- the stage behind this one, if the sequence goes on -/
def successorStage? (s : Spawner) (stage : Stage) : Option Stage :=
  if stage < s.terminalStage then stage.next? else none

open Program in
/-- runs one stage; the environment is this process's own afterwards -/
def spawn (s : Spawner) (files : List ExtraFile) :
    Program (Except SpawnError SpawnOutcome × Environment) := do
  let record ← marker s.env
  let stage := record.stage
  match ← s.stageFiles stage files with
  | .error e => return (.error e, s.env)
  | .ok files => match ← request .executable with
    | .error source => return (.error (.executable stage source), s.env)
    | .ok executable => match s.successorStage? stage with
      | some next =>
        return (← s.launchNext stage next record.carried executable files, s.env)
      | none => s.finish stage record.carried files

end Spawner
end Succession
