import Succession.Shell.Expansion
import Succession.Shell.Format
import Succession.Shell.Test

/-!
# Commands of a shell

What a shell does itself, but for the commands that run others. Each leaves an exit status.

* `Tool`           what is done with some arguments;
* `Builtin.find?`  the command of a name.
-/

namespace Succession.Shell

/-- what is done with some arguments -/
abbrev Tool := List String → Child → Child

/-! ## signals -/

/-- the names of the signals, by their numbers; the first one is the end of a script -/
def signalNames : List String := ["EXIT", "HUP", "INT", "QUIT", "ILL", "TRAP", "ABRT", "BUS", "FPE",
  "KILL", "USR1", "SEGV", "USR2", "PIPE", "ALRM", "TERM", "STKFLT", "CHLD", "CONT", "STOP", "TSTP",
  "TTIN", "TTOU", "URG", "XCPU", "XFSZ", "VTALRM", "PROF", "WINCH", "IO", "PWR", "SYS"]

def signal? (text : String) : Option Nat :=
  let found := match text.toNat? with
    | some n => if n < 65 then some n else none
    | none => signalNames.findIdx? (· = text.toUpper)
  found

/-- signals that end no process by themselves -/
def harmless : List Nat := [17, 18, 19, 20, 21, 22, 23, 28]

/-- what is said of a process that a signal has ended -/
def epitaphs : List (Nat × String) := [(1, "Hangup"), (3, "Quit"), (4, "Illegal instruction"),
  (5, "Trace/breakpoint trap"), (6, "Aborted"), (7, "Bus error"), (8, "Floating point exception"),
  (9, "Killed"), (10, "User defined signal 1"), (11, "Segmentation fault"),
  (12, "User defined signal 2"), (14, "Alarm clock"), (15, "Terminated"), (16, "Stack fault"),
  (24, "CPU time limit exceeded"), (25, "File size limit exceeded"),
  (26, "Virtual timer expired"), (27, "Profiling timer expired"), (29, "I/O possible"),
  (30, "Power failure"), (31, "Bad system call")]

namespace Child

/-- the status of another process; what ended it is told if that was a signal -/
def bury (c : Child) (status : Nat) : Child :=
  match epitaphs.lookup (status - 128) with
  | some text => c.complain status text
  | none => c.finish status

/-- a signal comes: a script may wait for it, and else it may be the end -/
def receive (c : Child) (signal : Nat) : Child :=
  if signal = 0 then c
  else match if signal = 9 then none else c.traps.lookup signal with
    | some "" => c
    | some _ => { c with pending := c.pending ++ [signal] }
    | none => if harmless.contains signal then c else { c with flow := .killed signal }

end Child

namespace Builtin

/-- a complaint that leaves the status of wrong usage -/
def refuse (c : Child) (text : String) : Child := c.protest 2 text

def illegal (text : String) : String := "Illegal number: " ++ text

def count? (text : String) : Option Nat :=
  if text ≠ "" ∧ text.toList.all Char.isDigit then text.toNat? else none

/-- without the mark behind which there are no options -/
def withoutMark : List String → List String
  | "--" :: rest => rest
  | arguments => arguments

/-! ## output -/

def echo : Tool
  | "-n" :: arguments, c => c.print (Escapes.expand (" ".intercalate arguments)).1
  | arguments, c =>
    let (text, ended) := Escapes.expand (" ".intercalate arguments)
    c.print (if ended then text else text ++ "\n")

def printf : Tool := fun arguments c =>
  match withoutMark arguments with
  | [] => refuse c "usage: printf format [arg ...]"
  | template :: rest =>
    if arguments.length = rest.length + 1 ∧ template.startsWith "-" then
      refuse c ("Illegal option " ++ String.ofList (template.toList.take 2))
    else
      let r := Format.render template rest
      (r.complaints.foldl (fun c text => c.protest 1 text) (c.print r.text)).finish r.status

/-! ## conditions -/

def settle (c : Child) : Except String Bool → Child
  | .error text => refuse c text
  | .ok true => c.finish 0
  | .ok false => c.finish 1

def test : Tool := fun arguments c =>
  settle c (Condition.ofArguments c (arguments.length + 1) arguments)

def bracket : Tool := fun arguments c =>
  if (arguments.getLast?.getD "").startsWith "]" then test arguments.dropLast c
  else refuse c "missing ]"

/-! ## where a script goes on -/

def exit : Tool
  | [], c => c.exit (c.ending.getD c.status)
  | n :: _, c => match count? n with
    | some n => c.exit n
    | none => c.abort (illegal n)

def leave : Tool
  | [], c => { c with flow := .returning }
  | n :: _, c => match count? n with
    | some n => { c with status := n, flow := .returning }
    | none => c.abort (illegal n)

/-- leaves loops, or goes on with the next round of the outermost of them -/
def breakOff (again : Bool) : Tool := fun arguments c =>
  match arguments.head?.elim (some 1) count? with
  | none | some 0 => c.abort (illegal (arguments.headD ""))
  | some n =>
    if c.loops = 0 then c.finish 0
    else { c with status := 0, flow := .leaving (min n c.loops) again }

/-! ## the process -/

def pwd : Tool := fun _ c => c.say (ofBytes c.workDir.bytes)

def cd : Tool := fun arguments c =>
  let (target, tells) := match (withoutMark arguments).head? with
    | none => ((c.parameters.get? "HOME").getD "", false)
    | some "-" => ((c.parameters.get? "OLDPWD").getD "", true)
    | some path => (path, false)
  if target = "" then c.finish 0
  else match c.fs.enter c.workDir (toPath target) with
    | .error _ => refuse c ("can't cd to " ++ target)
    | .ok workDir =>
      let here := ofBytes workDir.bytes
      let c := ({ c with workDir }.set "OLDPWD" (ofBytes c.workDir.bytes)).set "PWD" here
      if tells then c.say here else c.finish 0

def octal (n : Nat) : String :=
  let digits := Nat.toDigits 8 n
  String.ofList (List.replicate (4 - digits.length) '0' ++ digits)

def permissions (masked : Nat) : String :=
  String.ofList (([(4, 'r'), (2, 'w'), (1, 'x')].filter fun e => masked / e.1 % 2 = 0).map (·.2))

/-- three bits for each of the classes, for those that a letter names -/
def classBits (c : Char) : Nat :=
  match c with
  | 'u' => 64
  | 'g' => 8
  | 'o' => 1
  | _ => 73

/-- what one clause makes of the permissions that are granted -/
def applyClause (granted : Nat) (clause : String) : Option Nat :=
  let who := clause.toList.takeWhile "ugoa".toList.contains
  let classes := if who = [] then 73 else who.foldl (fun n c => n ||| classBits c) 0
  match clause.toList.drop who.length with
  | sign :: letters =>
    let bits := letters.foldl (fun n c =>
      n ||| if c = 'r' then 4 else if c = 'w' then 2 else if c = 'x' then 1 else 0) 0
    if ¬ letters.all "rwx".toList.contains then none
    else match sign with
      | '+' => some (granted ||| classes * bits)
      | '-' => some (granted &&& (511 - classes * bits))
      | '=' => some ((granted &&& (511 - classes * 7)) ||| classes * bits)
      | _ => none
  | [] => none

def umask : Tool
  | [], c => c.say (octal c.umask)
  | "-S" :: _, c => c.say ("u=" ++ permissions (c.umask / 64 % 8) ++ ",g=" ++
      permissions (c.umask / 8 % 8) ++ ",o=" ++ permissions (c.umask % 8))
  | mode :: _, c =>
    if mode.toList.head?.any Char.isDigit then
      if mode.toList.all Escapes.isOctal then
        { c with umask := Escapes.octalValue mode.toList % 512 }.finish 0
      else refuse c (illegal mode)
    else match (mode.splitOn ",").foldlM applyClause (511 - c.umask) with
      | some granted => { c with umask := 511 - granted }.finish 0
      | none => refuse c ("Illegal mode: " ++ mode)

def killArguments : List String → Except String (Nat × List String)
  | "-s" :: name :: rest => match signal? name with
    | some n => .ok (n, rest)
    | none => .error ("invalid signal number or name: " ++ name)
  | word :: rest => match word.toList with
    | '-' :: '-' :: _ => .ok (15, rest)
    | '-' :: name => match signal? (String.ofList name) with
      | some n => .ok (n, rest)
      | none => .error ("Illegal option " ++ String.ofList (word.toList.take 2))
    | _ => .ok (15, word :: rest)
  | [] => .ok (15, [])

/-- sends a signal to the child itself or to what it has run; others are out of its reach -/
def sendTo (signal : Nat) (target : String) (c : Child) : Child :=
  match count? target with
  | none => refuse c (illegal target)
  | some pid =>
    if pid = c.pid then c.receive signal
    else if (c.jobs.lookup pid).isSome then
      if signal = 0 then c
      else { c with jobs := c.jobs.map fun job => if job.1 = pid then (pid, 128 + signal) else job }
    else if signal = 0 ∧ pid = c.parent then c
    else c.protest 1 "No such process\n"

def kill : Tool := fun arguments c =>
  match arguments with
  | ["-l", n] => match count? n with
    | some n => c.say (signalNames.getD (n % 128) "")
    | none => refuse c (illegal n)
  | arguments => match killArguments arguments with
    | .error text => refuse c text
    | .ok (_, []) =>
      refuse c ("Usage: kill [-s sigspec | -signum | -sigspec] [pid | job]... or\n" ++
        "kill -l [exitstatus]")
    | .ok (signal, targets) =>
      targets.foldl (fun c target => sendTo signal target c) (c.finish 0)

/-- the status of what was run in the background -/
def wait : Tool
  | [], c => c.finish 0
  | pid :: _, c => match count? pid with
    | some pid => c.bury ((c.jobs.lookup pid).getD 127)
    | none => refuse c (illegal pid)

/-! ## variables -/

/-- a name, and its value if an equals sign is there -/
def definition (word : String) : String × Option String :=
  let name := word.toList.takeWhile (· ≠ '=')
  match word.toList.drop name.length with
  | _ :: value => (String.ofList name, some (String.ofList value))
  | [] => (String.ofList name, none)

def quoted (text : String) : String :=
  "'" ++ String.join (text.toList.map fun c => if c = '\x27' then "'\"'\"'" else
    String.ofList [c]) ++ "'"

/-- the variables of some names, as they could be written in a script -/
def tell (word : String) (names : List String) (c : Child) : Child :=
  (names.mergeSort fun a b => decide (a ≤ b)).foldl (fun c name => c.say (word ++ name ++
    (match c.parameters.get? name with
      | some value => "=" ++ quoted value
      | none => ""))) (c.finish 0)

def mark (word : String) (names : Child → List String) (marked : Child → String → Child) : Tool :=
  fun arguments c =>
    if arguments = [] ∨ arguments = ["-p"] then tell (word ++ " ") (names c) c
    else (withoutMark arguments).foldl (fun c argument =>
      let (name, value) := definition argument
      if ¬ c.isRunning then c
      else if ¬ isName name then c.abort (name ++ ": bad variable name")
      else marked (value.elim c (c.assign name)) name) (c.finish 0)

def share : Tool := mark "export" (·.exported) .share

def fix : Tool :=
  mark "readonly" (·.fixed) fun c name => { c with fixed := c.fixed ++ [name] }

def localize : Tool := fun arguments c =>
  match c.saved with
  | none => c.abort "not in a function"
  | some saved => arguments.foldl (fun c argument =>
    let (name, value) := definition argument
    let c := { c with saved := some ((name, c.parameters.get? name) :: c.saved.getD saved) }
    value.elim c (c.assign name)) (c.finish 0)

def unset : Tool := fun arguments c =>
  match arguments with
  | "-f" :: names =>
    { c with functions := c.functions.filter fun f => ¬ names.contains f.1 }.finish 0
  | arguments =>
    ((if arguments.head? = some "-v" then arguments.tail else arguments).foldl (fun c name =>
      if ¬ c.isRunning then c
      else if name.startsWith "-" then
        c.abort ("Illegal option " ++ String.ofList (name.toList.take 2))
      else if ¬ isName name then c.abort (name ++ ": bad variable name")
      else if c.fixed.contains name then c.abort (name ++ ": is read only")
      else c.unset name) (c.finish 0))

def shift : Tool := fun arguments c =>
  match arguments.head?.elim (some 1) count? with
  | none => c.abort (illegal (arguments.headD ""))
  | some n =>
    if c.arguments.length < n then c.abort "can't shift that many"
    else { c with arguments := c.arguments.drop n }.finish 0

def optionNames : List (String × Char) := [("errexit", 'e'), ("noglob", 'f'), ("ignoreeof", 'I'),
  ("interactive", 'i'), ("monitor", 'm'), ("noexec", 'n'), ("stdin", 's'), ("xtrace", 'x'),
  ("verbose", 'v'), ("vi", 'V'), ("emacs", 'E'), ("noclobber", 'C'), ("allexport", 'a'),
  ("notify", 'b'), ("nounset", 'u')]

def isOption (letter : Char) : Bool := optionNames.any (·.2 = letter)

def turn (c : Child) (on : Bool) (letter : Char) : Child :=
  let others := c.options.filter (· ≠ letter)
  { c with options := if on then others ++ [letter] else others }

/-- turns options on and off; the answer are the words behind them, and whether there is a mark in
front of those. Every step takes a word -/
def turnOptions : List String → Child → Except String (Child × List String × Bool)
  | [], c => .ok (c, [], false)
  | "--" :: rest, c => .ok (c, rest, true)
  | ["-o"], c => .ok (c, [], false)
  | "-o" :: name :: rest, c => match optionNames.lookup name with
    | some letter => turnOptions rest (turn c true letter)
    | none => .error ("Illegal option -o " ++ name)
  | "+o" :: name :: rest, c => match optionNames.lookup name with
    | some letter => turnOptions rest (turn c false letter)
    | none => .error ("Illegal option +o " ++ name)
  | word :: rest, c => match word.toList with
    | sign :: letter :: letters =>
      if sign = '-' ∨ sign = '+' then
        match (letter :: letters).find? (!isOption ·) with
        | some unknown => .error ("Illegal option " ++ String.ofList [sign, unknown])
        | none => turnOptions rest ((letter :: letters).foldl (turn · (sign = '-')) c)
      else .ok (c, word :: rest, false)
    | _ => .ok (c, word :: rest, false)

def set : Tool := fun arguments c =>
  if arguments = [] then tell "" (c.parameters.entries.map (·.1)) c
  else match turnOptions arguments c with
    | .error text => c.abort text
    | .ok (c, rest, marked) =>
      (if marked ∨ rest ≠ [] then { c with arguments := rest } else c).finish 0

/-! ## reading -/

/-- a line of input, the next one too if a backslash is at its end, and whether it ends; a backslash
quotes what is behind it. Every step takes a line -/
def inputLine (raw : Bool) : Nat → Child → (Pattern × Bool) × Child
  | 0, c => (([], false), c)
  | fuel + 1, c =>
    let ((data, ended), c) := c.readLine 0
    let (line, continues) := if raw then (glyphs false (ofBytes data).toList, false)
      else quote (ofBytes data).toList
    if continues ∧ ended then
      let ((more, ended), c) := inputLine raw fuel c
      ((line ++ more, ended), c)
    else ((line, ended), c)
where
  quote : List Char → Pattern × Bool
    | [] => ([], false)
    | ['\\'] => ([], true)
    | '\\' :: c :: rest =>
      let (line, continues) := quote rest
      (⟨c, true⟩ :: line, continues)
    | c :: rest =>
      let (line, continues) := quote rest
      (⟨c, false⟩ :: line, continues)

/-- sets names to the fields of a line, the last one to all that is left -/
def assignFields (separators : List Char) : List String → Pattern → Child → Child
  | [], _, c => c
  | name :: names, line, c =>
    let separates (g : Glyph) : Bool := !g.quoted && separators.contains g.char
    let isBlank (g : Glyph) : Bool := separates g && Expression.isBlank g.char
    let line := line.dropWhile isBlank
    if names = [] then
      c.assign name (String.ofList (Pattern.chars (line.reverse.dropWhile isBlank).reverse))
    else
      let field := line.takeWhile (!separates ·)
      let behind := (line.drop field.length).dropWhile isBlank
      let behind := match behind with
        | g :: rest => if separates g then rest else behind
        | [] => []
      assignFields separators names behind (c.assign name (String.ofList (Pattern.chars field)))

def read : Tool := fun arguments c =>
  let raw := arguments.contains "-r"
  let names := match arguments.filter (· ≠ "-r") with
    | "-p" :: _ :: names => names
    | names => names
  match names, names.find? fun name => !isName name with
  | [], _ => refuse c "arg count"
  | _, some name => refuse c (name ++ ": bad variable name")
  | names, none =>
    let ((line, ended), c) := inputLine raw 1000 c
    (assignFields c.separators names line c).finish (if ended then 0 else 1)

/-! ## traps -/

def signalName (n : Nat) : String := signalNames.getD n (toString n)

def trapOn (action : Option String) (signals : List String) (c : Child) : Child :=
  signals.foldl (fun c name => match signal? name with
    | none => c.complain 1 ("trap: " ++ name ++ ": bad trap")
    | some n =>
      let others := c.traps.filter (·.1 ≠ n)
      { c with traps := match action with
        | some script => others ++ [(n, script)]
        | none => others }) (c.finish 0)

def trap : Tool := fun arguments c =>
  match withoutMark arguments with
  | [] => (c.traps.mergeSort fun a b => a.1 ≤ b.1).foldl (fun c t =>
      c.say ("trap -- " ++ quoted t.2 ++ " " ++ signalName t.1)) (c.finish 0)
  | [name] => trapOn none [name] c
  | action :: signals =>
    if action = "-" ∨ (count? action).isSome then
      trapOn none (if action = "-" then signals else action :: signals) c
    else trapOn (some action) signals c

/-! ## all of them -/

def succeed : Tool := fun _ c => c.finish 0

def fail : Tool := fun _ c => c.finish 1

/-- a failure of theirs ends a script, and what they set stays -/
def special : List String := [":", ".", "eval", "exec", "exit", "export", "readonly", "return",
  "set", "shift", "times", "trap", "unset", "break", "continue"]

def find? : String → Option Tool
  | ":" | "true" | "times" | "hash" | "jobs" | "alias" | "unalias" | "ulimit" => some succeed
  | "false" => some fail
  | "echo" => some echo
  | "printf" => some printf
  | "test" => some test
  | "[" => some bracket
  | "exit" => some exit
  | "return" => some leave
  | "break" => some (breakOff false)
  | "continue" => some (breakOff true)
  | "pwd" => some pwd
  | "cd" | "chdir" => some cd
  | "umask" => some umask
  | "kill" => some kill
  | "wait" => some wait
  | "export" => some share
  | "readonly" => some fix
  | "local" => some localize
  | "unset" => some unset
  | "shift" => some shift
  | "set" => some set
  | "read" => some read
  | "trap" => some trap
  | _ => none

end Builtin
end Succession.Shell
