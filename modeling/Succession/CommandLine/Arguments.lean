import Succession.Path

/-!
# Arguments of the command line

    [options] start [options] | stop [options] | reload [options] | status [options]

Every option may stand in front of the command or behind it; behind it wins. In one place no option
is given twice, but for `--listen`. A value stands in the option's own word or is the next word, and
a word that looks like an option is no value.

* `Invocation`, `Reading`
* `Reading.ofArguments`   what the words ask for.
-/

namespace Succession

inductive Command where
  | start (daemonize : Bool) (listen : List String)
  | stop
  | reload
  | status
deriving DecidableEq, Repr

structure Invocation where
  configFile : Option Path
  pidFile : Option Path
  logFile : Option Path
  command : Command
deriving DecidableEq, Repr

inductive Reading where
  | invocation (invocation : Invocation)
  | help
  | version
  /-- they make no sense -/
  | usage
deriving DecidableEq, Repr

namespace CommandLine

inductive Place where
  | front
  | behindStart
  | behindStop
  | behindReload
  | behindStatus
deriving DecidableEq, Repr

inductive Valued where
  | config
  | pidFile
  | logFile
  | listen
deriving DecidableEq, Repr

inductive Flag where
  | daemonize
  | help
  | version
deriving DecidableEq, Repr

inductive Opt where
  | valued (option : Valued)
  | flag (option : Flag)
deriving DecidableEq, Repr

def Opt.knownAt (place : Place) : Opt → Bool
  | valued .listen | flag .daemonize => place = .behindStart
  | flag .version => place = .front
  | _ => true

def shortOptions : List (Char × Opt) :=
  [('c', .valued .config), ('p', .valued .pidFile), ('l', .valued .listen),
    ('d', .flag .daemonize), ('h', .flag .help), ('V', .flag .version)]

def longOptions : List (String × Opt) :=
  [("config", .valued .config), ("pid-file", .valued .pidFile), ("log-file", .valued .logFile),
    ("listen", .valued .listen), ("daemonize", .flag .daemonize), ("help", .flag .help),
    ("version", .flag .version)]

def short? (place : Place) (b : UInt8) : Option Opt :=
  (shortOptions.lookup (Char.ofNat b.toNat)).filter (·.knownAt place)

def long? (place : Place) (name : Bytes) : Option Opt := do
  let name ← Bytes.text? name
  (longOptions.lookup name).filter (·.knownAt place)

structure Options where
  configFile : Option Path
  pidFile : Option Path
  logFile : Option Path
  daemonize : Bool
  listen : List String
deriving DecidableEq, Repr

namespace Options

def empty : Options := ⟨none, none, none, false, []⟩

/-- a path that was not given yet, and is not empty -/
def newPath (old : Option Path) (value : Bytes) : Option (Option Path) :=
  if old.isSome || value.isEmpty then none else some (some ⟨value⟩)

def give (o : Options) (option : Valued) (value : Bytes) : Option Options :=
  match option with
  | .config => (newPath o.configFile value).map fun configFile => { o with configFile }
  | .pidFile => (newPath o.pidFile value).map fun pidFile => { o with pidFile }
  | .logFile => (newPath o.logFile value).map fun logFile => { o with logFile }
  | .listen => (Bytes.text? value).map fun address => { o with listen := o.listen ++ [address] }

/-- what a command asks for when `front` was given in front of it -/
def invocation (front behind : Options) (place : Place) : Reading :=
  let command? : Option Command := match place with
    | .front => none
    | .behindStart => some (.start behind.daemonize behind.listen)
    | .behindStop => some .stop
    | .behindReload => some .reload
    | .behindStatus => some .status
  match command? with
  | none => .usage
  | some command => .invocation ⟨behind.configFile.or front.configFile,
      behind.pidFile.or front.pidFile, behind.logFile.or front.logFile, command⟩

end Options

def commandPlaces : List (String × Place) :=
  [("start", .behindStart), ("stop", .behindStop), ("reload", .behindReload),
    ("status", .behindStatus)]

def commandPlace? (word : Bytes) : Option Place := do commandPlaces.lookup (← Bytes.text? word)

def hyphen : UInt8 := 0x2D
def equalsSign : UInt8 := 0x3D

inductive Step where
  | options (options : Options)
  /-- the next word is its value -/
  | pending (options : Options) (option : Valued)
  | reading (reading : Reading)

def given (o : Options) (option : Valued) (value : Bytes) : Step :=
  match o.give option value with
  | some o => .options o
  | none => .reading .usage

/-- the options of a word of short ones; the value of one is what is left of the word -/
def shorts (place : Place) (o : Options) : Bytes → Step
  | [] => .options o
  | b :: rest => match short? place b with
    | none => .reading .usage
    | some (.flag .help) => .reading .help
    | some (.flag .version) => .reading .version
    | some (.flag .daemonize) =>
      if o.daemonize then .reading .usage else shorts place { o with daemonize := true } rest
    | some (.valued option) => match rest with
      | [] => .pending o option
      | c :: value => given o option (if c = equalsSign then value else c :: value)

/-- a long option; its value may stand behind an equals sign -/
def long (place : Place) (o : Options) (word : Bytes) : Step :=
  let name := word.takeWhile (· ≠ equalsSign)
  let value := word.drop name.length
  match long? place name, value with
  | none, _ => .reading .usage
  | some (.valued option), _ :: value => given o option value
  | some (.valued option), [] => .pending o option
  | some (.flag _), _ :: _ => .reading .usage
  | some (.flag .help), [] => .reading .help
  | some (.flag .version), [] => .reading .version
  | some (.flag .daemonize), [] =>
    if o.daemonize then .reading .usage else .options { o with daemonize := true }

/-- a word that looks like an option, nothing for any other -/
def option? (place : Place) (o : Options) : Bytes → Option Step
  | a :: b :: rest =>
    if a = hyphen ∧ b = hyphen then some (long place o rest)
    else if a = hyphen then some (shorts place o (b :: rest))
    else none
  | _ => none

def helpWord : Bytes := Bytes.ofText "help"
def endOfOptions : Bytes := [hyphen, hyphen]

def helpOn : List Bytes → Reading
  | [] => .help
  | [word] => if (commandPlace? word).isSome || word = helpWord then .help else .usage
  | _ => .usage

/-- the words from one place on: `front` was given in front of the command, `o` in this place, and
`pending` is an option that waits for its value -/
def read (front : Options) (place : Place) (o : Options) (pending : Option Valued) :
    List Bytes → Reading
  | [] => if pending.isSome then .usage else front.invocation o place
  | word :: rest =>
    match pending with
    | some option =>
      if word.head? = some hyphen ∧ word ≠ [hyphen] then .usage
      else match o.give option word with
        | some o => read front place o none rest
        | none => .usage
    | none =>
      if place = .front ∧ word = helpWord then helpOn rest
      else if word = endOfOptions then
        if rest = [] then front.invocation o place else .usage
      else match (if place = .front then commandPlace? word else none) with
        | some place => read o place .empty none rest
        | none => match option? place o word with
          | none => .usage
          | some (.options o) => read front place o none rest
          | some (.pending o option) => read front place o (some option) rest
          | some (.reading r) => r

end CommandLine

/-- what the words behind the program's name ask for -/
def Reading.ofArguments (words : List Bytes) : Reading :=
  CommandLine.read .empty .front .empty none words

end Succession
