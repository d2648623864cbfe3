import Succession.Shell.Program

/-!
# Running scripts

Commands run one after another, each with its own redirections. What a script says about another
one, in a function or behind `eval`, is run by a runner that is one step shallower, so that every
script comes to an end.

* `Child.execute`       a command of a script;
* `Child.runTokens`     a script's text;
* `Child.runProgram`    a program with its arguments.
-/

namespace Succession.Shell

/-- what runs the commands that are a step deeper. `tested`: it is asked whether they fail -/
structure Runner where
  /-- the commands of a function -/
  command (tested : Bool) : Command → Child → Child
  /-- a script's text -/
  text (tested : Bool) : TextRunner
  /-- a program of the machine, in a process of its own -/
  program : Runnable → List String → Child → Child

/-- functions, texts and programs run inside of each other no deeper than this -/
def maxDepth : Nat := 1000

/-- no loop has more rounds than this -/
def maxRounds : Nat := 100000

namespace Child

/-! ## redirections -/

def redirectTo (c : Child) (descriptor : Nat) (h : Handle) : Child :=
  { c with table := c.table.put descriptor ⟨h, false⟩ }

def closeDescriptor (c : Child) (descriptor : Nat) : Child :=
  { c with table := c.table.filter fun e => e.1 ≠ descriptor }

/-- the descriptors of some redirections as they were before -/
def restoreDescriptors (before : Child) (redirections : List Redirection) (c : Child) : Child :=
  redirections.foldr (fun r c => match before.table.get? r.descriptor with
    | some o => { c with table := c.table.put r.descriptor o }
    | none => c.closeDescriptor r.descriptor) c

/-- why something could not be opened, made or run -/
def cause (missing : String) (e : IoError) : String :=
  if e = .os .noEntry ∨ e = .os .notDirectory then missing else Utility.reason e

/-- applies a redirection; the answer is whether that worked -/
def redirect (c : Child) (descriptor : Nat) (kind : RedirectionKind) (target : String) :
    Bool × Child :=
  let opened (mode : OpenMode) (emptied : Bool) : Bool × Child :=
    match c.openFile target mode emptied with
    | (.error e, c) =>
      (false, c.protest 2 (if mode.create
        then "cannot create " ++ target ++ ": " ++ cause "Directory nonexistent" e
        else "cannot open " ++ target ++ ": " ++ cause "No such file" e))
    | (.ok h, c) => (true, c.redirectTo descriptor h)
  match kind with
  | .input => opened .reading false
  | .output => opened .recording true
  | .append => opened .appending false
  | .both => opened .recording false
  | .document =>
    let (h, c) := c.source (toBytes target)
    (true, c.redirectTo descriptor h)
  | .duplicate =>
    if target = "-" then (true, c.closeDescriptor descriptor)
    else match target.toList with
      | [digit] => match c.handle? (digit.toNat - '0'.toNat) with
        | some h =>
          if digit.isDigit then (true, c.redirectTo descriptor h)
          else (false, c.abort "Syntax error: Bad fd number")
        | none =>
          if digit.isDigit then (false, c.protest 2 (target ++ ": Bad file descriptor"))
          else (false, c.abort "Syntax error: Bad fd number")
      | _ => (false, c.abort "Syntax error: Bad fd number")

def redirectAll (run : TextRunner) (c : Child) : List Redirection → Bool × Child
  | [] => (true, c)
  | r :: rest =>
    let (target, c) := c.expandText run r.target
    if ¬ c.isRunning then (false, c)
    else match c.redirect r.descriptor r.kind target with
      | (false, c) => (false, c)
      | (true, c) => redirectAll run c rest

/-! ## programs -/

def searchList (c : Child) : Option Bytes := (c.parameters.get? "PATH").map toBytes

def find (c : Child) (name : String) : Except IoError Runnable :=
  if name = "" then .error (.os .accessDenied)
  else (c.fs.findProgram c.workDir c.searchList (toPath name)).bind (c.fs.withInterpreter c.workDir)

/-- another process, which is given what is exported; the child is told how it ended -/
def spawn (c : Child) (name : String) (arguments : List String) (step : Child → Child) : Child :=
  let after := step { c with
    pid := c.pid + 1, parent := c.pid, name, arguments
    parameters := c.environment
    fixed := [], functions := [], saved := none
    status := 0, caught := none, line := none, loops := 0, speaker := "", subject := none
    flow := .running, options := [], traps := c.traps.filter (·.2 = ""), pending := [], jobs := []
    ending := none }
  let c := { c with fs := after.fs }
  match after.flow with
  | .killed signal => c.bury (128 + signal)
  | _ => c.finish after.status

/-- runs a program under a name, or tells why there is none -/
def runExternal (r : Runner) (name : String) (arguments : List String) (c : Child) : Child :=
  match c.find name with
  | .ok program => c.spawn name arguments (r.program program arguments)
  | .error e =>
    let isMissing := e = .os .noEntry || e = .os .notDirectory || e = .os .nameTooLong ||
      e = .os .tooManyLinks
    c.protest (if isMissing || !name.contains '/' then 127 else 126)
      (name ++ ": " ++ cause "not found" e)

/-! ## commands that run others -/

/-- runs a function, whose variables are as they were when it ends -/
def call (r : Runner) (tested : Bool) (body : Command) (arguments : List String) (c : Child) :
    Child :=
  let after := r.command tested body { c with arguments, saved := some [], loops := 0 }
  let restored := (after.saved.getD []).foldl (fun c v => c.restore v.1 v.2) after
  { restored with
    arguments := c.arguments, saved := c.saved, loops := c.loops
    flow := if after.flow = .returning then .running else after.flow }

/-- a script in a file; a name without a separator is searched for -/
def source? (c : Child) (name : String) : Option String :=
  if name.contains '/' then some name
  else (((c.searchList.getD FileSystem.usualPath |> FileSystem.searchPath).map fun directory =>
    ofBytes (directory.join (toPath name)).bytes).filter fun path => (c.nodeAt path).isSome).head?

def runFile (r : Runner) (tested : Bool) (arguments : List String) (c : Child) : Child :=
  match Builtin.withoutMark arguments with
  | [] => c.finish 0
  | name :: _ => match c.source? name with
    | none => c.abort (name ++ ": not found")
    | some path => match c.readFile path with
      | (.error e, c) => c.abort ("cannot open " ++ name ++ ": " ++ cause "No such file" e)
      | (.ok data, c) =>
        let after := r.text tested (ofBytes data).toList { c with speaker := path ++ ": " }
        if after.flow = .returning then { after with flow := .running } else after

def keywords : List String := ["!", "\x7b", "\x7d", "case", "do", "done", "elif", "else", "esac",
  "fi", "for", "if", "in", "then", "until", "while"]

/-- commands that a shell does itself by running others -/
def running : List String := ["eval", ".", "exec", "command", "type"]

def whereabouts (c : Child) (name : String) : Option String :=
  if name.contains '/' then (c.nodeAt name).map fun _ => name
  else match c.find name with
    | .error _ => none
    | .ok _ => c.source? name

/-- what a name stands for; `briefly` tells only that -/
def identify (briefly : Bool) (name : String) (c : Child) : Child :=
  let tell (kind : String) : Child := c.say (if briefly then name else name ++ kind)
  if keywords.contains name then tell " is a shell keyword"
  else if c.functions.any (·.1 = name) then tell " is a shell function"
  else if running.contains name ∨ (Builtin.find? name).isSome then
    tell (if Builtin.special.contains name then " is a special shell builtin"
      else " is a shell builtin")
  else match c.whereabouts name with
    | some path => c.say (if briefly then path else name ++ " is " ++ path)
    | none => if briefly then c.finish 127 else (c.say (name ++ ": not found")).finish 127

/-- what a command and its arguments stand for: a function, something that the shell does itself, or
a program. Functions do not count if `plainly` -/
def invoke (r : Runner) (tested plainly : Bool) (name : String) (arguments : List String)
    (c : Child) : Child :=
  match if plainly then none else c.functions.lookup name, name with
  | some body, _ => c.call r tested body arguments
  | none, "eval" =>
    c.speaking name fun c => r.text tested (" ".intercalate arguments).toList c
  | none, "." => c.speaking name fun c => c.runFile r tested arguments
  | none, "type" => arguments.foldl (fun c name =>
    let before := c.status
    let c := c.identify false name
    c.finish (max before c.status)) (c.finish 0)
  | none, name => match Builtin.find? name with
    | some tool => c.speaking name (tool arguments)
    | none => c.runExternal r name arguments

def become (r : Runner) (arguments : List String) (c : Child) : Child :=
  match Builtin.withoutMark arguments with
  | [] => c.finish 0
  | name :: rest => match c.find name with
    | .error _ =>
      let after := c.speaking "exec" (runExternal r name rest)
      { after with flow := .exited, traps := [] }
    | .ok program =>
      let after := r.program program rest { c with
        name, arguments := rest, parameters := c.environment, fixed := [], functions := [],
        saved := none, status := 0, line := none, loops := 0, options := [],
        traps := c.traps.filter (·.2 = ""), jobs := [] }
      { c with
        fs := after.fs, status := after.status, traps := []
        flow := match after.flow with
          | .killed _ => after.flow
          | _ => .exited }

/-- a command behind the words that say how it is looked for -/
def runCommand (r : Runner) (tested : Bool) (c : Child) : Nat → List String → Child
  | fuel + 1, "command" :: arguments => match arguments with
    | [] => c.finish 0
    | "-v" :: [] | "-V" :: [] => c.finish 0
    | "-v" :: name :: _ => c.identify true name
    | "-V" :: name :: _ => c.identify false name
    | "-p" :: rest | "--" :: rest => plain fuel rest
    | rest => plain fuel rest
  | _, "exec" :: arguments => c.become r arguments
  | _, name :: arguments => c.invoke r tested false name arguments
  | _, [] => c.finish 0
where
  plain (fuel : Nat) : List String → Child
    | [] => c.finish 0
    | "exec" :: arguments => c.become r arguments
    | "command" :: rest => runCommand r tested c fuel ("command" :: rest)
    | name :: arguments => c.invoke r tested true name arguments

/-! ## simple commands -/

/-- the assignments in front of a command, and the other words -/
def splitAssignments : List Word → List (String × Word) × List Word
  | [] => ([], [])
  | w :: rest => match w.assignment? with
    | none => ([], w :: rest)
    | some a =>
      let (assignments, words) := splitAssignments rest
      (a :: assignments, words)

def assignAll (run : TextRunner) (share : Bool) (assignments : List (String × Word)) (c : Child) :
    Child :=
  assignments.foldl (fun c a =>
    if ¬ c.isRunning then c
    else
      let (value, c) := c.expandText run a.2
      let c := if c.isRunning then c.assign a.1 value else c
      if share then c.share a.1 else c) c

/-- a variable as it was before, for programs too -/
def unassign (before : Child) (c : Child) (name : String) : Child :=
  let c := c.restore name (before.parameters.get? name)
  { c with exported := if before.exported.contains name then
      (if c.exported.contains name then c.exported else c.exported ++ [name])
    else c.exported.filter (· ≠ name) }

def trace (c : Child) (words : List String) : Child :=
  if c.options.contains 'x' then (c.complain c.status ("+ " ++ " ".intercalate words)) else c

/-- runs the scripts of the signals that have come -/
def attend (r : Runner) (c : Child) : Child :=
  if c.pending = [] then c
  else c.pending.foldl (fun c signal => match c.traps.lookup signal with
    | some script =>
      if c.isRunning then
        let after := r.text false script.toList c
        if after.isRunning then after.finish c.status else after
      else c
    | none => c) { c with pending := [] }

/-- a command that fails may end the script -/
def checked (tested : Bool) (c : Child) : Child :=
  if !tested && c.failsFast && c.status ≠ 0 && c.isRunning then { c with flow := .exited } else c

/-- words that say how a command is looked for change what a failure of it does -/
def isSpecial (words : List String) : Bool := words.head?.any Builtin.special.contains

/-- a command with its words, assignments and redirections -/
def runSimple (r : Runner) (tested : Bool) (line : Nat) (words : List Word)
    (redirections : List Redirection) (c : Child) : Child :=
  let c := { c with line := some line, caught := none }
  let run := r.text false
  let (assignments, words) := splitAssignments words
  let (fields, c) := c.expandWords run words
  if ¬ c.isRunning then c
  else
    let c := if fields = [] then c else c.trace fields
    match c.redirectAll run redirections with
    | (false, after) =>
      let after := restoreDescriptors c redirections after
      if after.isRunning ∧ isSpecial fields then after.exit 2 else after
    | (true, inner) =>
      if fields = [] then
        let after := assignAll run false assignments inner
        let after := if after.isRunning then after.finish (after.caught.getD 0) else after
        let after := if assignments = [] then after else after.trace (assignments.map fun a =>
          a.1 ++ "=" ++ (after.parameters.get? a.1).getD "")
        restoreDescriptors c redirections after
      else
        let special := isSpecial fields
        let ready := assignAll run (!special) assignments inner
        if ¬ ready.isRunning then restoreDescriptors c redirections ready
        else
          let after := ready.runCommand r tested fields.length fields
          let after := if special then after
            else assignments.foldl (fun after a => unassign c after a.1) after
          if fields = ["exec"] then after else restoreDescriptors c redirections after

/-! ## compound commands -/

/-- rounds of a loop until one of them answers that there is no other -/
def rounds (round : Child → Child × Bool) : Nat → Child → Child
  | 0, c => c
  | n + 1, c => match round c with
    | (c, true) => rounds round n c
    | (c, false) => c

/-- whether a loop goes on behind a round of it -/
def afterRound (c : Child) : Child × Bool :=
  match c.flow with
  | .running => (c, true)
  | .leaving n again =>
    if n ≤ 1 then ({ c with flow := .running }, again)
    else ({ c with flow := .leaving (n - 1) again }, false)
  | _ => (c, false)

def looping (c : Child) (step : Child → Child) : Child :=
  { step { c with loops := c.loops + 1 } with loops := c.loops }

/-- the text matches one of some words -/
def isAmong (run : TextRunner) (text : String) : List Word → Child → Bool × Child
  | [], c => (false, c)
  | w :: rest, c =>
    let (pattern, c) := c.expandPattern run w
    if pattern.admits text.toList then (true, c) else isAmong run text rest c

/-- what is run in the background has its own process number, and nothing to read -/
def runApart (c : Child) (step : Child → Child) : Child :=
  let after := c.feed [] fun c => c.apart step
  { after with
    status := 0
    jobs := (c.pid + 1 + c.jobs.length, after.status) :: c.jobs }

/-- a command of a script. What fails where nobody asks may end the script -/
def execute (r : Runner) (tested : Bool) : Command → Child → Child
  | .skip, c => c
  | .simple line words redirections, c =>
    ((c.runSimple r tested line words redirections).attend r).checked tested
  | .redirected line body redirections, c =>
    match { c with line := some line }.redirectAll (r.text false) redirections with
    | (false, after) => (restoreDescriptors c redirections after).checked tested
    | (true, inner) => restoreDescriptors c redirections (execute r tested body inner)
  | .sequence first second, c =>
    let c := execute r tested first c
    if c.isRunning then execute r tested second c else c
  | .andThen first second, c =>
    let c := execute r true first c
    if c.isRunning ∧ c.status = 0 then execute r tested second c else c
  | .orElse first second, c =>
    let c := execute r true first c
    if c.isRunning ∧ c.status ≠ 0 then execute r tested second c else c
  | .pipe first second, c =>
    let (data, after) := c.capture fun c => c.apart (execute r false first)
    (({ after with status := c.status }.feed data fun c =>
      c.apart (execute r false second)).attend r).checked tested
  | .negate body, c =>
    let c := execute r true body c
    if c.isRunning then c.finish (if c.status = 0 then 1 else 0) else c
  | .background body, c => c.runApart (execute r false body)
  | .choose condition yes no, c =>
    let c := execute r true condition c
    if ¬ c.isRunning then c
    else if c.status = 0 then execute r tested yes c
    else if no = .skip then c.finish 0
    else execute r tested no c
  | .loop whileFails condition body, c =>
    let round (c : Child) : Child × Bool :=
      let status := c.status
      let c := execute r true condition c
      if ¬ c.isRunning then c.afterRound
      else if (c.status = 0) = !whileFails then (execute r tested body c).afterRound
      else (c.finish status, false)
    (c.finish 0).looping (rounds round maxRounds)
  | .each name words body, c =>
    let (fields, c) := match words with
      | some words => c.expandWords (r.text false) words
      | none => (c.arguments, c)
    if ¬ c.isRunning then c
    else (c.finish 0).looping fun c => (fields.foldl (fun (c, more) field =>
      if more then
        let c := c.assign name field
        if c.isRunning then (execute r tested body c).afterRound else (c, false)
      else (c, false)) (c, true)).1
  | .branch subject patterns body rest, c =>
    let (text, c) := match c.subject with
      | some text => (text, c)
      | none => c.expandText (r.text false) subject
    if ¬ c.isRunning then c
    else match isAmong (r.text false) text patterns { c with subject := none } with
      | (true, c) => execute r tested body (if body = .skip then c.finish 0 else c)
      | (false, c) =>
        if rest = .skip then c.finish 0
        else execute r tested rest { c with subject := some text }
  | .subshell body, c => ((c.apart (execute r tested body)).attend r).checked tested
  | .define name body, c =>
    { c with functions := (name, body) :: c.functions.filter (·.1 ≠ name) }.finish 0

/-! ## texts -/

/-- runs the commands of some tokens line by line, up to what is no script any more. What is missing
is missing on the last line; every step takes a token -/
def runTokens (r : Runner) (tested : Bool) (last : Nat) : Nat → List Token → Child → Child
  | 0, _, c => c
  | fuel + 1, tokens, c => match tokens.dropWhile (· = .operator "\n") with
    | [] => c
    | tokens => match Reader.line.run tokens with
      | .error complaint =>
        { c with line := some (complaint.line.getD (last - complaint.behind)) }.abort complaint.text
      | .ok (command, rest) =>
        let after := if c.options.contains 'n' then c else c.execute r tested command
        if after.isRunning then runTokens r tested last fuel rest after else after

/-- runs a text; one without commands does nothing, successfully -/
def runText (r : Runner) (tested : Bool) (text : List Char) (c : Child) : Child :=
  let tokens := Token.scan text
  if tokens.all (· = .operator "\n") then c.finish 0
  else
    { runTokens r tested (text.count '\n' + 1) (tokens.length + 1) tokens c with line := c.line }

/-! ## shells -/

structure Orders where
  /-- the first operand is a script -/
  script : Bool
  operands : List String

/-- reads the options of a shell; every step takes a word -/
def shellOptions : List String → Orders → Child → Except String (Orders × Child)
  | [], o, c => .ok (o, c)
  | "--" :: rest, o, c | "-" :: rest, o, c => .ok ({ o with operands := rest }, c)
  | "-o" :: name :: rest, o, c => match Builtin.optionNames.lookup name with
    | some letter => shellOptions rest o (Builtin.turn c true letter)
    | none => .error ("Illegal option -o " ++ name)
  | word :: rest, o, c => match word.toList with
    | sign :: letters =>
      if sign ≠ '-' ∧ sign ≠ '+' then .ok ({ o with operands := word :: rest }, c)
      else
        let others := letters.filter fun c => c ≠ 'c' ∧ c ≠ 'l'
        match others.find? (!Builtin.isOption ·) with
        | some unknown => .error ("Illegal option " ++ String.ofList [sign, unknown])
        | none => shellOptions rest { o with script := o.script || letters.contains 'c' }
          (others.foldl (Builtin.turn · (sign = '-')) c)
    | [] => .ok ({ o with operands := word :: rest }, c)

def withShellVariables (c : Child) : Child :=
  let preset (c : Child) (name value : String) : Child :=
    if (c.parameters.get? name).isSome then c else c.set name value
  let c := preset c "PATH" "/usr/local/sbin:/usr/local/bin:/usr/sbin:/usr/bin:/sbin:/bin"
  let c := [("PS1", "# "), ("PS2", "> "), ("PS4", "+ ")].foldl
    (fun c v => preset c v.1 v.2) c
  ((((c.set "IFS" " \t\n").set "OPTIND" "1").set "PPID" (toString c.parent)).set "PWD"
    (ofBytes c.workDir.bytes)).share "PWD"

def conclude (r : Runner) (c : Child) : Child :=
  match c.flow, c.traps.lookup 0 with
  | .killed _, _ | _, none | _, some "" => c
  | _, some script =>
    let after := r.text false script.toList { c with
      flow := .running, traps := c.traps.filter (·.1 ≠ 0), ending := some c.status, speaker := "" }
    match after.flow with
    | .killed _ | .exited => after
    | _ => after.exit c.status

/-- a shell runs the script that it is told, the file that it is given, or what it reads -/
def runShell (r : Runner) (arguments : List String) (c : Child) : Child :=
  let names := c.parameters.entries.map (·.1)
  let c := { c with line := some 0, exported := names }.withShellVariables
  let run (text : String) (c : Child) : Child :=
    (r.text false text.toList { c with line := some 1 }).conclude r
  match shellOptions arguments ⟨false, []⟩ c with
  | .error text => c.protest 2 text
  | .ok (o, c) => match o.script, o.operands with
    | true, [] => c.protest 2 "-c requires an argument"
    | true, [script] => run script { c with arguments := [] }
    | true, script :: name :: rest => run script { c with name, arguments := rest }
    | false, operands =>
      if operands = [] ∨ c.options.contains 's' then match c.readAll 0 with
        | (.ok data, c) => run (ofBytes data) { c with arguments := operands }
        | (.error _, c) => c.finish 0
      else
        let path := operands.headD ""
        match c.readFile path with
        | (.ok data, c) => run (ofBytes data) { c with name := path, arguments := operands.tail }
        | (.error e, c) =>
          if e = .os .isDirectory then c.finish 0
          else c.protest 2 ("cannot open " ++ path ++ ": " ++ cause "No such file" e)

def runEnv (r : Runner) (arguments : List String) (c : Child) : Child :=
  let (c, arguments) := match arguments with
    | "-i" :: rest | "-" :: rest => ({ c with parameters := .ofList [] }, rest)
    | "-u" :: name :: rest => (c.unset name, rest)
    | arguments => (c, arguments)
  let isChange (word : String) : Bool := word.contains '='
  let c := (arguments.takeWhile isChange).foldl (fun c word =>
    let (name, value) := Builtin.definition word
    (c.set name (value.getD "")).share name) c
  match arguments.dropWhile isChange with
  | [] => Utility.printenv [] c
  | name :: rest => match c.find name with
    | .ok program => r.program program rest { c with name, arguments := rest }
    | .error e =>
      c.protest (if e = .os .noEntry then 127 else 126) ("'" ++ name ++ "': " ++ Utility.reason e)

def runProgram (r : Runner) (program : Runnable) (arguments : List String) (c : Child) : Child :=
  match program with
  | .program "sh" | .program "dash" => c.runShell r arguments
  | .program "env" => c.runEnv r arguments
  | .program name => match Utility.find? name with
    | some tool => tool arguments c
    | none => c.finish 127
  | .script content => match Runnable.interpreter? content with
    | none => c.runShell r (c.name :: arguments)
    | some (interpreter, word) => match c.fs.programAt c.workDir interpreter with
      | .ok program => r.program program
          ((word.map ofBytes).toList ++ c.name :: arguments)
          { c with name := ofBytes interpreter.bytes }
      | .error _ => c.finish 127

def runner : Nat → Runner
  | 0 => ⟨fun _ _ c => c.exit 2, fun _ _ c => c.exit 2, fun _ _ c => c.exit 2⟩
  | depth + 1 =>
    let r := runner depth
    ⟨execute r, runText r, runProgram r⟩

def run (program : Runnable) (arguments : List String) (c : Child) : Child :=
  (runner maxDepth).program program arguments c

end Child
end Succession.Shell
