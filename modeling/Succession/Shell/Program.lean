import Succession.Shell.Builtin
import Succession.Shell.Lines

/-!
# The programs of a machine

What the usual small programs do with their arguments and streams. Each leaves an exit status, and
complains under the name that it was run under.

* `Utility.find?`   the program of a name;
* `Utility.names`   the names of those that can be run.
-/

namespace Succession.Shell.Utility

/-! ## complaints -/

def reason (e : IoError) : String := (e.errno?.map Errno.text).getD e.message

def failed (c : Child) (status : Nat) (what path : String) (e : IoError) : Child :=
  c.protest status (what ++ "'" ++ path ++ "': " ++ reason e)

def misused (c : Child) (status : Nat) (text : String) : Child :=
  c.protest status (text ++ "\nTry '" ++ c.name ++ " --help' for more information.")

def unknownOption (c : Child) (status : Nat) (letter : Char) : Child :=
  misused c status ("invalid option -- '" ++ String.ofList [letter] ++ "'")

/-! ## options -/

/-- the letters of the options, each with its value if it takes one, and the operands -/
structure Options where
  given : List (Char × String)
  operands : List String

def Options.has (o : Options) (letter : Char) : Bool := o.given.any (·.1 = letter)

def Options.value? (o : Options) (letter : Char) : Option String :=
  (o.given.reverse.lookup letter)

/-- the letters of one word; one that takes a value takes the rest of the word, or the next one. The
answer are the options, and whether the next word is taken -/
def letters (flags valued : List Char) (next : Option String) :
    List Char → Except Char (List (Char × String) × Bool)
  | [] => .ok ([], false)
  | c :: rest =>
    if valued.contains c then match rest, next with
      | [], none => .error c
      | [], some value => .ok ([(c, value)], true)
      | rest, _ => .ok ([(c, String.ofList rest)], false)
    else if flags.contains c then
      (letters flags valued next rest).map fun r => ((c, "") :: r.1, r.2)
    else .error c

/-- options and operands in any order, up to a mark; an unknown letter is an error. Every step takes
a word -/
def options (flags valued : List Char) : Nat → List String → Except Char Options
  | 0, words => .ok ⟨[], words⟩
  | _, [] => .ok ⟨[], []⟩
  | _ + 1, "--" :: rest => .ok ⟨[], rest⟩
  | fuel + 1, word :: rest => match word.toList with
    | '-' :: c :: cs => do
      let (given, taken) ← letters flags valued rest.head? (c :: cs)
      let o ← options flags valued fuel (if taken then rest.drop 1 else rest)
      return { o with given := given ++ o.given }
    | _ => (options flags valued fuel rest).map fun o => { o with operands := word :: o.operands }

/-- a program with options; `status` is that of a wrong call -/
def withOptions (status : Nat) (flags valued : String) (run : Options → Child → Child) : Tool :=
  fun arguments c =>
    match options flags.toList valued.toList (arguments.length + 1) arguments with
    | .error letter => unknownOption c status letter
    | .ok o => run o c

/-- runs on each operand, and leaves the worst status -/
def onEach (operands : List String) (run : String → Child → Child) (c : Child) : Child :=
  operands.foldl (fun c operand =>
    let after := run operand c
    after.finish (max c.status after.status)) (c.finish 0)

/-- the content of a file, or what can be read where a dash stands for a file -/
def input (c : Child) (path : String) : Except IoError Bytes × Child :=
  if path = "-" then c.readAll 0 else c.readFile path

/-- runs on the content of each file, or on what can be read if there is none -/
def onInputs (paths : List String) (run : String → String → Child → Child) (c : Child) : Child :=
  onEach (if paths = [] then ["-"] else paths) (fun path c => match input c path with
    | (.error e, c) => c.protest 1 (path ++ ": " ++ reason e)
    | (.ok data, c) => run path (ofBytes data) c) c

/-! ## output -/

/-- letters behind a dash tell whether backslash sequences and a newline are wanted -/
def echo : Tool := fun arguments c =>
  let isOption (word : String) : Bool := match word.toList with
    | '-' :: c :: cs => (c :: cs).all fun c => "neE".toList.contains c
    | _ => false
  let given := (arguments.takeWhile isOption).flatMap fun word => word.toList.drop 1
  let text := " ".intercalate (arguments.dropWhile isOption)
  let (text, ended) := if (given.filter (· ≠ 'n')).getLast? = some 'e' then Escapes.expand text
    else (text, false)
  c.print (if ended || given.contains 'n' then text else text ++ "\n")

def printf : Tool := fun arguments c =>
  match Builtin.withoutMark arguments with
  | [] => misused c 1 "missing operand"
  | template :: rest =>
    let r := Format.render template rest
    let complaint (text : String) : String := match text.splitOn ": " with
      | [subject, cause] => "'" ++ subject ++ "': " ++
        (if cause = "expected numeric value" then "expected a numeric value"
          else if cause = "not completely converted" then "value not completely converted"
          else cause)
      | _ => text
    (r.complaints.foldl (fun c text => c.protest 1 (complaint text)) (c.print r.text)).finish
      (min 1 r.status)

/-- the file that a descriptor refers to, where it has a name, and the position in it -/
def opened (c : Child) (descriptor : Nat) : Option (Handle × Description) :=
  match c.handle? descriptor with
  | none => none
  | some h => ((c.fs.description? h).filter fun d => c.isNamed d.node).map (h, ·)

/-- what is read would be what has been written -/
def isCircular (c : Child) (path text : String) : Bool :=
  let source? := if path = "-" then (opened c 0).map (·.2.node)
    else match c.fs.lookup c.workDir (toPath path) .target with
      | .ok (.node id) => some id
      | _ => none
  text ≠ "" && source?.isSome && source? = (opened c 1).map (·.2.node)

def cat : Tool := withOptions 1 "u" "" fun o c =>
  onInputs o.operands (fun path text c =>
    if isCircular c path text then c.protest 1 (path ++ ": input file is output file")
    else c.print text) c

def tee : Tool := withOptions 1 "ai" "" fun o c =>
  match c.readAll 0 with
  | (.error _, c) => c.finish 1
  | (.ok data, c) =>
    let text := ofBytes data
    onEach o.operands (fun path c =>
      match c.openFile path (if o.has 'a' then .appending else .recording) (!o.has 'a') with
      | (.error e, c) => c.protest 1 (path ++ ": " ++ reason e)
      | (.ok h, c) => { c with fs := (c.fs.write h data).2 }.finish 0) (c.print text)

/-! ## lines -/

def cut : Tool := withOptions 1 "sn" "dfcb" fun o c =>
  let delimiter := ((o.value? 'd').getD "\t").toList
  match o.given.find? fun e => e.1 = 'f' || e.1 = 'c' || e.1 = 'b' with
  | none => misused c 1 "you must specify a list of bytes, characters, or fields"
  | some (kind, list) => match Lines.ranges? list with
    | none => misused c 1 (if kind = 'f' then "invalid field value '" ++ list ++ "'"
        else "invalid byte/character position '" ++ list ++ "'")
    | some ranges =>
      if 1 < delimiter.length then misused c 1 "the delimiter must be a single character"
      else onInputs o.operands (fun _ text c =>
        c.print (Lines.map (fun line => if kind = 'f' then
            Lines.fields (delimiter.headD '\x00') (o.has 's') ranges line
          else some (Lines.columns ranges line)) text)) c

/-- a count and its unit, from options or from a number behind a dash -/
def countOf (o : Options) : Option (Nat × Bool) :=
  match o.given.find? fun e => e.1 = 'n' || e.1 = 'c' with
  | none => some (10, false)
  | some (letter, text) => (Builtin.count? text).map (·, letter = 'c')

/-- a number behind a dash counts lines -/
def withCount : List String → List String
  | word :: rest => match word.toList with
    | '-' :: digits =>
      if digits ≠ [] ∧ digits.all Char.isDigit then "-n" :: String.ofList digits :: rest
      else word :: rest
    | _ => word :: rest
  | [] => []

/-- the first or the last lines or bytes of files -/
def ends (atEnd : Bool) : Tool := fun arguments c =>
  withOptions 1 "qv" "nc" (fun o c =>
    let value := ((o.given.find? fun e => e.1 = 'n' || e.1 = 'c').map (·.2)).getD ""
    let fromStart := atEnd && value.startsWith "+"
    let o := if fromStart then { o with given := o.given.map fun e =>
      (e.1, String.ofList (e.2.toList.drop 1)) } else o
    match countOf o with
    | none => c.protest 1 ("invalid number of lines: '" ++ value ++ "'")
    | some (count, bytes) =>
      let many := 1 < o.operands.length && !o.has 'q' || o.has 'v'
      onEach (if o.operands = [] then ["-"] else o.operands) (fun path c =>
        let before? := opened c 0
        match input c path with
        | (.error e, c) => c.protest 1 ("cannot open '" ++ path ++ "' for reading: " ++ reason e)
        | (.ok data, c) =>
          let text := ofBytes data
          let parts : List String := if bytes then text.toList.map fun c => String.ofList [c]
            else Lines.withEnds text
          let chosen := if fromStart then parts.drop (count - 1)
            else if atEnd then parts.drop (parts.length - count)
            else parts.take count
          let c := match if atEnd || path ≠ "-" then none else before? with
            | some (h, d) => { c with fs := c.fs.setPosition h d (d.position +
                (String.join chosen).length) }
            | none => c
          let header := if many then "==> " ++ (if path = "-" then "standard input" else path) ++
            " <==\n" else ""
          c.print (header ++ String.join chosen)) c) (withCount arguments) c

def sort : Tool := withOptions 2 "rnu" "" fun o c =>
  let (text, c) := (if o.operands = [] then ["-"] else o.operands).foldl
    (fun (text, c) path => match input c path with
      | (.error e, c) => (text, c.protest 2 ("cannot read: " ++ path ++ ": " ++ reason e))
      | (.ok data, c) => (text ++ Lines.of (ofBytes data), c)) (([] : List String), c.finish 0)
  if c.status ≠ 0 then c
  else
    let sorted := Lines.sort (o.has 'n') text
    let sorted := if o.has 'u' then Lines.unrepeated sorted else sorted
    c.print (String.join ((if o.has 'r' then sorted.reverse else sorted).map (· ++ "\n")))

def uniq : Tool := withOptions 1 "" "" fun o c =>
  onInputs (o.operands.take 1) (fun _ text c =>
    c.print (String.join ((Lines.unrepeated (Lines.of text)).map (· ++ "\n")))) c

def tr : Tool := withOptions 1 "cds" "" fun o c =>
  match o.operands with
  | [] => misused c 1 "missing operand"
  | first :: rest =>
    if rest = [] ∧ ¬ o.has 'd' ∧ ¬ o.has 's' then
      misused c 1 ("missing operand after '" ++ first ++
        "'\nTwo strings must be given when translating.")
    else match c.readAll 0 with
      | (.error e, c) => c.protest 1 ("read error: " ++ reason e)
      | (.ok data, c) =>
        let set := Lines.characters first
        let isMeant (x : Char) : Bool := set.contains x != o.has 'c'
        let text := (ofBytes data).toList
        let target := (rest.head?.map Lines.characters).getD []
        let text := if o.has 'd' then text.filter (!isMeant ·)
          else if rest = [] then text
          else text.map fun x => if isMeant x then
              (target[(set.idxOf x)]?).getD (target.getLast?.getD x) else x
        let squeezed := if rest = [] then set else target
        c.print (String.ofList (if o.has 's' then Lines.squeeze squeezed text else text))

def grep : Tool := withOptions 2 "qvcixFEhosn" "e" fun o c =>
  let (pattern?, paths) := match o.value? 'e', o.operands with
    | some pattern, operands => (some pattern, operands)
    | none, pattern :: operands => (some pattern, operands)
    | none, [] => (none, [])
  match pattern? with
  | none => c.complain 2 ("Usage: " ++ c.name ++ " [OPTION]... PATTERNS [FILE]...\nTry '" ++
      c.name ++ " --help' for more information.")
  | some pattern =>
    let fold (text : String) : String := if o.has 'i' then text.toLower else text
    let isChosen (line : String) : Bool :=
      Lines.holds (o.has 'x') (o.has 'F') (o.has 'E') (fold pattern).toList (fold line).toList !=
        o.has 'v'
    let (found, c) := (if paths = [] then ["-"] else paths).foldl (fun (found, c) path =>
      match input c path with
      | (.error e, c) => (found, c.protest 2 (path ++ ": " ++ reason e))
      | (.ok data, c) =>
        let chosen := ((Lines.of (ofBytes data)).zipIdx 1).filter fun l => isChosen l.1
        let name := if 1 < paths.length && !o.has 'h' then path ++ ":" else ""
        let status := c.status
        let text := if o.has 'q' then ""
          else if o.has 'c' then name ++ toString chosen.length ++ "\n"
          else String.join (chosen.map fun (line, n) =>
            name ++ (if o.has 'n' then toString n ++ ":" else "") ++ line ++ "\n")
        (found || !chosen.isEmpty, (c.print text).finish status)) (false, c.finish 0)
    if c.status = 0 ∨ found ∧ o.has 'q' then c.finish (if found then 0 else 1) else c

def od : Tool := withOptions 1 "v" "At" fun o c =>
  let (data, c) := (if o.operands = [] then ["-"] else o.operands).foldl
    (fun (data, c) path => match input c path with
      | (.error e, c) => (data, c.protest 1 (path ++ ": " ++ reason e))
      | (.ok more, c) => (data ++ more, c)) (([] : Bytes), c.finish 0)
  c.print (Lines.hexadecimal data)

def wc : Tool := withOptions 1 "lwcm" "" fun o c =>
  let all := o.given = []
  let counts (text : String) : List Nat :=
    let cs := text.toList
    (if all || o.has 'l' then [cs.count '\n'] else []) ++
      (if all || o.has 'w' then [(Lines.words cs).length] else []) ++
      (if all || o.has 'c' || o.has 'm' then [cs.length] else [])
  let paths := if o.operands = [] then ["-"] else o.operands
  let (rows, c) := paths.foldl (fun (rows, c) path => match input c path with
    | (.error e, c) => (rows, c.protest 1 (path ++ ": " ++ reason e))
    | (.ok data, c) => (rows ++ [(counts (ofBytes data), path, data.length)], c))
    (([] : List (List Nat × String × Nat)), c.finish 0)
  let total := rows.foldl (fun sums row => if sums = [] then row.1
    else sums.zipWith (· + ·) row.1) ([] : List Nat)
  let isFile := match (c.handle? 0).bind c.fs.description? with
    | some d => c.isNamed d.node
    | none => false
  let least := if paths.any (· = "-") && !isFile then 7 else 1
  let width := if total.length = 1 ∧ paths.length = 1 then 1
    else max least (toString (rows.foldl (fun n row => n + row.2.2) 0)).length
  let row (numbers : List Nat) (name : String) : String :=
    " ".intercalate (numbers.map fun n => Format.padded
      ⟨false, false, false, false, false, width, none⟩ (toString n)) ++
      (if name = "" then "" else " " ++ name) ++ "\n"
  let rows := rows.map (fun r => row r.1 (if o.operands = [] then "" else r.2.1)) ++
    (if 1 < paths.length then [row total "total"] else [])
  let status := c.status
  (c.print (String.join rows)).finish status

/-! ## numbers and names -/

def seq : Tool := fun arguments c =>
  match arguments.mapM String.toInt? with
  | none => misused c 1 ("invalid floating point argument: '" ++
      ((arguments.find? fun a => a.toInt?.isNone).getD "") ++ "'")
  | some numbers =>
    let run (first step last : Int) : Child :=
      if step = 0 then c.protest 1 "invalid Zero increment value: '0'"
      else
        let count := (last - first).fdiv step + 1
        c.print (String.join ((List.range count.toNat).map fun (i : Nat) =>
          toString (first + step * i) ++ "\n"))
    match numbers with
    | [last] => run 1 1 last
    | [first, last] => run first 1 last
    | [first, step, last] => run first step last
    | [] => misused c 1 "missing operand"
    | _ => misused c 1 ("extra operand '" ++ arguments.getD 3 "" ++ "'")

def sleep : Tool := fun arguments c =>
  let isInterval (text : String) : Bool :=
    let digits := text.toList
    let digits := if "smhd".toList.contains (digits.getLastD '0') then digits.dropLast else digits
    !digits.isEmpty && digits.all fun c => c.isDigit || c = '.'
  if arguments = [] then misused c 1 "missing operand"
  else match arguments.find? (!isInterval ·) with
    | some text => misused c 1 ("invalid time interval '" ++ text ++ "'")
    | none => c.finish 0

def baseName (path : String) : String :=
  let cs := (path.toList.reverse.dropWhile (· = '/')).takeWhile (· ≠ '/')
  if cs = [] then if path = "" then "" else "/" else String.ofList cs.reverse

def basename : Tool := fun arguments c =>
  match Builtin.withoutMark arguments with
  | [] => misused c 1 "missing operand"
  | [path] => c.say (baseName path)
  | [path, ending] =>
    let name := baseName path
    c.say (if name ≠ ending ∧ name.endsWith ending then
      String.ofList (name.toList.take (name.length - ending.length)) else name)
  | _ :: _ :: extra :: _ => misused c 1 ("extra operand '" ++ extra ++ "'")

def dirname : Tool := fun arguments c =>
  match Builtin.withoutMark arguments with
  | [] => misused c 1 "missing operand"
  | paths => paths.foldl (fun c path =>
      let above := ((path.toList.reverse.dropWhile (· = '/')).dropWhile (· ≠ '/')).dropWhile
        (· = '/')
      c.say (if above ≠ [] then String.ofList above.reverse
        else if path.startsWith "/" then "/" else ".")) (c.finish 0)

/-! ## conditions and processes -/

def test : Tool := fun arguments c =>
  match Condition.ofArguments c (arguments.length + 1) arguments with
  | .error text => c.protest 2 (match text.splitOn ": " with
    | ["Illegal number", n] => "invalid integer '" ++ n ++ "'"
    | [_, "unexpected operator"] => "missing argument after '" ++ arguments.getLastD "" ++ "'"
    | _ => text)
  | .ok held => c.finish (if held then 0 else 1)

def bracket : Tool := fun arguments c =>
  if arguments.getLast? = some "]" then test arguments.dropLast c else c.protest 2 "missing ']'"

def kill : Tool := fun arguments c =>
  match Builtin.killArguments arguments with
  | .error text => c.protest 1 text
  | .ok (_, []) => c.protest 1 "not enough arguments"
  | .ok (_, targets) => onEach targets (fun target c =>
      c.protest 1 ("(" ++ target ++ "): No such process")) c

def printenv : Tool := fun arguments c =>
  if arguments = [] then
    c.print (String.join (c.parameters.entries.map fun e => e.1 ++ "=" ++ e.2 ++ "\n"))
  else onEach arguments (fun name c => match c.parameters.get? name with
    | some value => c.say value
    | none => c.finish 1) c

/-! ## files -/

/-- the outcome of an attempt to change the names of files -/
def settle (c : Child) (what path : String) : Except IoError FileSystem → Child
  | .error e => failed c 1 what path e
  | .ok fs => { c with fs }.finish 0

/-- a directory, and with `parents` those above it; every step takes a piece of the path -/
def mkdir : Tool := withOptions 1 "pv" "m" fun o c =>
  if o.operands = [] then misused c 1 "missing operand"
  else onEach o.operands (fun path c =>
    if o.has 'p' then
      let pieces := path.splitOn "/"
      (List.range pieces.length).foldl (fun c n =>
        let above := "/".intercalate (pieces.take (n + 1))
        if above = "" ∨ c.status ≠ 0 then c
        else match c.nodeAt above with
          | some (.directory ..) => c
          | some _ => failed c 1 "cannot create directory " path
              (.os (if n + 1 = pieces.length then .exists_ else .notDirectory))
          | none => settle c "cannot create directory " path
              (c.fs.tryMakeDirectory c.workDir (toPath above))) (c.finish 0)
    else settle c "cannot create directory " path
      (c.fs.tryMakeDirectory c.workDir (toPath path))) c

def rmdir : Tool := withOptions 1 "p" "" fun o c =>
  if o.operands = [] then misused c 1 "missing operand"
  else onEach o.operands (fun path c => settle c "failed to remove " path
    (c.fs.tryRemoveDirectory c.workDir (toPath path))) c

def rm : Tool := withOptions 1 "frRd" "" fun o c =>
  let recursive := o.has 'r' || o.has 'R'
  if o.operands = [] then if o.has 'f' then c.finish 0 else misused c 1 "missing operand"
  else onEach o.operands (fun path c =>
    match c.fs.tryRemove c.workDir (toPath path) recursive with
    | .error e => if e = .os .noEntry ∧ o.has 'f' then c.finish 0
      else failed c 1 "cannot remove " path e
    | .ok fs => { c with fs }.finish 0) c

def touch : Tool := withOptions 1 "acm" "dtr" fun o c =>
  if o.operands = [] then misused c 1 "missing file operand"
  else onEach o.operands (fun path c =>
    if (c.nodeAt path).isSome then c.finish 0
    else if o.has 'c' then c.finish 0
    else match c.openFile path .appending false with
      | (.error e, c) => failed c 1 "cannot touch " path e
      | (.ok _, c) => c.finish 0) c

/-- where a file goes: below a directory it keeps its name -/
def targetOf (c : Child) (path target : String) : String :=
  match c.nodeAt target with
  | some (.directory ..) =>
    (if target.endsWith "/" then target else target ++ "/") ++ baseName path
  | _ => target

/-- runs on each of some files and the place that the last operand gives it -/
def onTargets (run : String → String → Child → Child) (operands : List String) (c : Child) :
    Child :=
  match operands with
  | [] => misused c 1 "missing file operand"
  | [path] => misused c 1 ("missing destination file operand after '" ++ path ++ "'")
  | operands =>
    let target := operands.getLastD ""
    let paths := operands.dropLast
    let isDirectory : Bool := match c.nodeAt target with
      | some (.directory ..) => true
      | _ => false
    if 1 < paths.length ∧ ¬ isDirectory then
      c.protest 1 ("target '" ++ target ++ "': " ++
        (if (c.nodeAt target).isSome then "Not a directory" else "No such file or directory"))
    else onEach paths (fun path c => run path (targetOf c path target) c) c

def mv : Tool := withOptions 1 "fnv" "" fun o c =>
  onTargets (fun path target c => match c.fs.lookup c.workDir (toPath path) .entry with
    | .ok (.node _) => match c.fs.lookup c.workDir (toPath target) .entry with
      | .error e => failed c 1 ("cannot move '" ++ path ++ "' to ") target e
      | .ok (.missing _ _ true) => failed c 1 ("cannot move '" ++ path ++ "' to ") target
          (.os .notDirectory)
      | .ok _ => { c with fs := c.fs.rename c.workDir (toPath path) (toPath target) }.finish 0
    | .error e => failed c 1 "cannot stat " path e
    | .ok _ => failed c 1 "cannot stat " path (.os .noEntry)) o.operands c

def cp : Tool := withOptions 1 "fpv" "" fun o c =>
  onTargets (fun path target c => match c.nodeAt path with
    | none => failed c 1 "cannot stat " path (.os .noEntry)
    | some (.directory ..) =>
      c.protest 1 ("-r not specified; omitting directory '" ++ path ++ "'")
    | some _ =>
      if Condition.isSameFile c path target then
        c.protest 1 ("'" ++ path ++ "' and '" ++ target ++ "' are the same file")
      else match c.readFile path with
        | (.error e, c) => failed c 1 "cannot open " path e
        | (.ok data, c) => match c.openFile target .recording true with
          | (.error e, c) => failed c 1 "cannot create regular file " target e
          | (.ok h, c) => { c with fs := (c.fs.write h data).2 }.finish 0) o.operands c

def ln : Tool := withOptions 1 "sfn" "" fun o c =>
  let what := if o.has 's' then "failed to create symbolic link " else "failed to create hard link "
  let operands := match o.operands with
    | [path] => [path, "."]
    | operands => operands
  onTargets (fun path target c =>
    let fs := if o.has 'f' then c.fs.remove c.workDir (toPath target) else c.fs
    match fs.lookup c.workDir (toPath target) .entry with
    | .error e => failed c 1 what target e
    | .ok (.node _) => failed c 1 what target (.os .exists_)
    | .ok (.missing directory name _) =>
      if o.has 's' then
        { c with fs := fs.makeLink c.workDir (toPath target) (toPath path) }.finish 0
      else match fs.lookup c.workDir (toPath path) .entry with
        | .ok (.node id) => { c with fs := fs.addEntry directory name id }.finish 0
        | _ => failed c 1 "failed to access " path (.os .noEntry)) operands c

def readlink : Tool := withOptions 1 "nfe" "" fun o c =>
  if o.operands = [] then misused c 1 "missing operand"
  else onEach o.operands (fun path c =>
    match c.fs.lookup c.workDir (toPath path) .entry with
    | .ok (.node id) => match c.fs.node? id with
      | some (.link target) => c.say (ofBytes target.bytes)
      | _ => c.finish 1
    | _ => c.finish 1) c

/-- whether a mode lets a file be run; nothing if it leaves that as it is -/
def runnable? (mode : String) : Option Bool :=
  if mode.toList.all Escapes.isOctal then
    some ((Escapes.octalValue mode.toList / 64) % 2 = 1)
  else if ¬ mode.contains 'x' then none
  else some (mode.contains '+' || mode.contains '=')

def chmod : Tool := fun arguments c =>
  match arguments.filter fun a => a ≠ "--" ∧ a ≠ "-R" ∧ a ≠ "-v" with
  | [] => misused c 1 "missing operand"
  | [mode] => misused c 1 ("missing operand after '" ++ mode ++ "'")
  | mode :: paths => onEach paths (fun path c =>
    match c.fs.lookup c.workDir (toPath path) .target with
    | .ok (.node id) =>
      let others := c.fs.runnable.filter (· ≠ id)
      let runnable := match runnable? mode with
        | none => c.fs.runnable
        | some true => id :: others
        | some false => others
      { c with fs := { c.fs with runnable } }.finish 0
    | .error e => failed c 1 "cannot access " path e
    | .ok _ => failed c 1 "cannot access " path (.os .noEntry)) c

def shown (o : Options) (c : Child) (path : String) : List String :=
  let c := if path.startsWith "/proc/self/fd" ∨ path.startsWith "/dev/fd" then
      let (h, d) := c.source []
      { d with table := (d.table.openFrom 0 ⟨h, false⟩).2 }.showDescriptors
    else c.showDescriptors
  let names := (c.fs.entryNames c.workDir (toPath path)).map ofBytes
  let dots := if o.has 'a' then [".", ".."] else []
  dots ++ if o.has 'a' || o.has 'A' then names else names.filter (!·.startsWith ".")

def ls : Tool := withOptions 2 "1aAdU" "" fun o c =>
  let operands := if o.operands = [] then ["."] else
    o.operands.mergeSort fun a b => decide (a ≤ b)
  let isDirectory (path : String) : Bool := match c.nodeAt path with
    | some (.directory ..) => !o.has 'd'
    | _ => false
  let isThere (path : String) : Bool := match c.fs.lookup c.workDir (toPath path) .entry with
    | .ok (.node _) => true
    | _ => false
  let missing := operands.filter (!isThere ·)
  let files := operands.filter fun path => isThere path && !isDirectory path
  let directories := operands.filter isDirectory
  let c := missing.foldl (fun c path => match c.fs.lookup c.workDir (toPath path) .entry with
    | .error e => failed c 2 "cannot access " path e
    | .ok _ => failed c 2 "cannot access " path (.os .noEntry)) (c.finish 0)
  let listing (path : String) : String := String.join ((shown o c path).map (· ++ "\n"))
  let blocks := (if files = [] then [] else [String.join (files.map (· ++ "\n"))]) ++
    directories.map fun path =>
      (if 1 < operands.length then path ++ ":\n" else "") ++ listing path
  let status := c.status
  (c.print ("\n".intercalate blocks)).finish status

/-! ## all of them -/

def find? : String → Option Tool
  | "true" => some Builtin.succeed
  | "false" => some Builtin.fail
  | "echo" => some echo
  | "printf" => some printf
  | "cat" => some cat
  | "tee" => some tee
  | "cut" => some cut
  | "head" => some (ends false)
  | "tail" => some (ends true)
  | "sort" => some sort
  | "uniq" => some uniq
  | "tr" => some tr
  | "grep" => some grep
  | "od" => some od
  | "wc" => some wc
  | "seq" => some seq
  | "sleep" => some sleep
  | "basename" => some basename
  | "dirname" => some dirname
  | "test" => some test
  | "[" => some bracket
  | "pwd" => some Builtin.pwd
  | "kill" => some kill
  | "printenv" => some printenv
  | "mkdir" => some mkdir
  | "rmdir" => some rmdir
  | "rm" => some rm
  | "touch" => some touch
  | "mv" => some mv
  | "cp" => some cp
  | "ln" => some ln
  | "readlink" => some readlink
  | "chmod" => some chmod
  | "ls" => some ls
  | _ => none

/-- the programs that can be run: a shell, one that runs others in another environment, and those
that are found -/
def names : List String := ["sh", "dash", "env", "true", "false", "echo", "printf", "cat", "tee",
  "cut", "head", "tail", "sort", "uniq", "tr", "grep", "od", "wc", "seq", "sleep", "basename",
  "dirname", "test", "[", "pwd", "kill", "printenv", "mkdir", "rmdir", "rm", "touch", "mv", "cp",
  "ln", "readlink", "chmod", "ls"]

end Succession.Shell.Utility
