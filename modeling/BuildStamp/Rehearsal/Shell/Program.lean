import BuildStamp.Rehearsal.Script.Grammar
import BuildStamp.Rehearsal.Shell.Command

/-!
# Program — starting programs, and the commands of a shell for names, processes and signals

* `Shell.locate` — the program of a name;
* `Shell.become` — the shell becomes a program;
* `Shell.launch` — a program in a process of its own;
* `Shell.flowCommands` — `exit`, `return`, `break`, `continue` and `exec`;
* `Shell.describe` — what a name means;
* `Shell.namingCommands` — `type`, `command`, `hash`, `alias` and `unalias`;
* `Shell.jobOf` — the job that a word means;
* `Shell.processCommands` — `kill`, `wait`, `jobs`, `fg`, `bg`, `trap`, `umask`, `times` and
  `ulimit`.
-/

namespace BuildStamp
namespace Rehearsal
namespace Shell

/-! ## Finding programs -/

def usualPath : String :=
  "/usr/local/sbin:/usr/local/bin:/usr/sbin:/usr/bin:/sbin:/bin"

/-- The paths that a program of a name can have in some directories.  A name with a slash is a path
already. -/
def pathsIn (directories name : String) : List String :=
  if name.toList.contains '/' then [name]
  else
    (directories.splitOn ":").map fun directory =>
      if directory = "" then name else directory ++ "/" ++ name

def pathsOfProgram (s : Shell) (isUsual : Bool) (name : String) : List String :=
  pathsIn (if isUsual then usualPath else (valueOf? s "PATH").getD "") name

def isAbsence (e : IoError) : Bool :=
  e = .os 2 || e = .os 20

/-- What is at a path, or why nothing is. -/
def nodeAt (files : FileSystem) (place : Place) (path : String) :
    Except IoError FileSystem.Node := do
  match Octets.read? path with
  | none => throw (.os 2)
  | some path =>
      match files.nodeAt? (← files.resolve place ⟨path⟩) with
      | some node => return node
      | none => throw (.os 2)

/-- The first of some paths at which a file is, one that can be executed if it must, or why none
is. -/
def firstFile (files : FileSystem) (place : Place) (mustRun : Bool) :
    List String → Except IoError String
  | [] => .error (.os 2)
  | path :: rest =>
      let found := nodeAt files place path
      let fits :=
        match found with
        | .ok (.file _ executable) => executable || !mustRun
        | _ => false
      if fits then .ok path
      else
        match firstFile files place mustRun rest with
        | .ok path => .ok path
        | .error e =>
            if !isAbsence e then .error e
            else
              match found with
              | .ok _ => .error .denied
              | .error first => .error first

/-- The path of the program of a name, or why there is none.  One with a slash is its own path. -/
def locate (isUsual : Bool) (name : String) : Action (Except IoError String) := do
  if name.toList.contains '/' then return .ok name
  let (files, place) ← ask .look
  let s ← get
  let found := firstFile files place true (pathsOfProgram s isUsual name)
  if let .ok path := found then
    modify fun s => { s with tracked := putPair name path s.tracked }
  return found

/-! ## Starting programs -/

/-- Becomes the program of a path.  A file that has no other form is a script. -/
def startOrInterpret (m : Means) (environment : Environment) (path : String) (words : List String) :
    Task IoError := do
  match ← m.start environment path words with
  | .os 8 => m.start environment "/bin/sh" ("/bin/sh" :: path :: words.drop 1)
  | e => return e

/-- Becomes the program of one of some paths, or gives the reason that counts. -/
def startFirst (m : Means) (environment : Environment) (words : List String) :
    IoError → List String → Task IoError
  | e, [] => return e
  | e, path :: rest => do
      let refusal ← startOrInterpret m environment path words
      startFirst m environment words (if isAbsence refusal then e else refusal) rest

def refusalCode (e : IoError) : Nat :=
  if isAbsence e || e = .os 36 || e = .os 40 then 127 else 126

/-- Becomes the program that some words name, or ends. -/
def become {α : Type} (m : Means) (isUsual : Bool) (words : List String) : Action α := do
  let s ← get
  let name := words.headD ""
  let e ← (startFirst m (environment s) words (.os 2) (pathsOfProgram s isUsual name) :
    Task IoError)
  endWith (name ++ ": " ++ reason "not found" e) (refusalCode e)

/-- Runs the program that some words name in a process of its own, and gives its code. -/
def launch (m : Means) (isUsual : Bool) (words : List String) : Action Nat := do
  let child : Action Nat := do
    let _ ← attempt (become m isUsual words : Action Nat)
    exit (← get).code
  let process ← (fun state next =>
    .fork (child state fun _ => .ended 0) fun process => next (.ok process, state) : Action Nat)
  await [process]

/-! ## Leaving -/

def endShell (words : List String) : Action Nat := do
  let s ← get
  let code ← match words with
    | [] => pure (s.kept.getD s.code)
    | word :: _ => number word
  setCode code
  throw .ended

/-- Ends a function, or else the script. -/
def leaveFunction (words : List String) : Action Nat := do
  let code ← match words with
    | [] => pure (← get).code
    | word :: _ => number word
  throw (.returned code)

/-- Leaves loops, as many as a word says.  Outside of loops nothing happens. -/
def leaveLoops (jump : Nat → Jump) (words : List String) : Action Nat := do
  let levels ← match words with
    | [] => pure 1
    | word :: _ => do
        let n ← number word
        if n = 0 then fail ("Illegal number: " ++ word)
        pure n
  let loops := (← get).loops
  if 0 < loops then throw (jump (min levels loops))
  return 0

/-- Becomes a program, if one is named. -/
def replace (m : Means) (words : List String) : Action Nat := do
  let (_, words) ← takeOptions "" words
  if words = [] then return 0 else become m false words

def flowCommands : List Command :=
  [{ name := "exit", isSpecial := true, run := fun _ => endShell },
    { name := "return", isSpecial := true, run := fun _ => leaveFunction },
    { name := "break", isSpecial := true, run := fun _ => leaveLoops .loopEnded },
    { name := "continue", isSpecial := true, run := fun _ => leaveLoops .roundEnded },
    { name := "exec", isSpecial := true, run := replace }]

/-! ## Names -/

/-- Tells what a name means, at length or briefly, given the commands of the shell. -/
def describe (commands : List Command) (isLong isUsual : Bool) (name : String) : Action Nat := do
  let s ← get
  let tell (long brief : String) : Action Nat :=
    put ((if isLong then name ++ " is " ++ long else brief) ++ "\n")
  if Token.keywords.contains name then return ← tell "a shell keyword" name
  if let some text := s.aliases.lookup name then
    return ← tell ("an alias for " ++ text) ("alias " ++ name ++ "=" ++ quoted text)
  if s.functions.any (·.1 = name) then return ← tell "a shell function" name
  if let some c := commands.find? (·.name = name) then
    return ← tell (if c.isSpecial then "a special shell builtin" else "a shell builtin") name
  let (files, place) ← ask .look
  let missing : Action Nat := do
    let _ ← put (if isLong then name ++ ": not found\n" else "")
    return 127
  if name.toList.contains '/' then
    match nodeAt files place name with
    | .ok _ => tell name name
    | .error _ => missing
  else
    match s.tracked.lookup name with
    | some path => tell ("a tracked alias for " ++ path) path
    | none =>
        match firstFile files place true (pathsOfProgram s isUsual name) with
        | .ok path => tell path path
        | .error _ => missing

/-- Does something with each of some words, and gives the last code that is not zero. -/
def forWords (words : List String) (f : String → Action Nat) : Action Nat := do
  let codes ← words.mapM f
  return (codes.filter (· ≠ 0)).getLast?.getD 0

def describeIfAsked (commands : List Command) (words : List String) : Action Nat := do
  let (chosen, rest) ← takeOptions "pvV" words
  let isAsked (c : Char) := chosen.any (·.1 = c)
  match rest with
  | name :: _ =>
      if isAsked 'v' || isAsked 'V' then describe commands (isAsked 'V') (isAsked 'p') name
      else return 0
  | [] => return 0

/-- Remembers where programs are, or shows it. -/
def hash (commands : List Command) (words : List String) : Action Nat := do
  let (chosen, names) ← takeOptions "r" words
  if chosen ≠ [] then
    modify fun s => { s with tracked := [] }
    return 0
  let s ← get
  if names = [] then return ← put (String.join (s.tracked.map fun (_, path) => path ++ "\n"))
  forWords names fun name => do
    if commands.any (·.name = name) || s.functions.any (·.1 = name) then return 0
    match ← locate false name with
    | .ok _ => return 0
    | .error e =>
        complain (name ++ ": " ++ reason "not found" e)
        return 1

def aliasRank (name : String) : Nat :=
  let numbers := name.toList.map Char.toNat
  (16 * numbers.headD 0 + numbers.foldl (· + ·) 0) % 39

def aliasLine (name text : String) : String :=
  name ++ "=" ++ quoted text ++ "\n"

/-- Lets a name stand for a text, or gives a line with the text for which it stands. -/
def setAlias (word : String) : Action (String × Nat) := do
  match splitAssignment word with
  | (name, some text) =>
      modify fun s => { s with aliases := putPair name text s.aliases }
      return ("", 0)
  | (name, none) =>
      match (← get).aliases.lookup name with
      | some text => return (aliasLine name text, 0)
      | none =>
          say ("alias: " ++ name ++ " not found\n")
          return ("", 1)

/-- Lets names stand for texts, or shows what they stand for. -/
def setAliases (words : List String) : Action Nat := do
  if words = [] then
    let sorted := (← get).aliases.mergeSort fun a b => aliasRank a.1 ≤ aliasRank b.1
    put (String.join (sorted.map fun (name, text) => aliasLine name text))
  else
    let results ← words.mapM setAlias
    let code ← put (String.join (results.map (·.1)))
    return results.foldl (fun code r => max code r.2) code

def unalias (words : List String) : Action Nat := do
  let (chosen, names) ← takeOptions "a" words
  if chosen ≠ [] then
    modify fun s => { s with aliases := [] }
    return 0
  forWords names fun name => do
    if (← get).aliases.any (·.1 = name) then
      modify fun s => { s with aliases := dropPair name s.aliases }
      return 0
    say ("unalias: " ++ name ++ " not found\n")
    return 1

/-- The commands that tell or change what names mean, given all commands of the shell. -/
def namingCommands (commands : List Command) : List Command :=
  [{ name := "type"
     run := fun _ words => forWords words (describe commands true false) },
    { name := "command", run := fun _ => describeIfAsked commands },
    { name := "hash", run := fun _ => hash commands },
    { name := "alias", isAssigning := true, run := fun _ => setAliases },
    { name := "unalias", run := fun _ => unalias }]

/-! ## Jobs and signals -/

def noteEnds : Nat → Action Unit
  | 0 => return
  | bound + 1 => do
      match ← ask (.await none false false) with
      | .ended process status =>
          noteEnd process status
          noteEnds bound
      | _ => return

def jobOf (word : String) : Action Job := do
  let jobs := (← get).jobs
  let found (message : String) (j : Option Job) : Action Job :=
    match j with
    | some j => return j
    | none => fail message
  match word.toList with
  | ['%'] => found "No current job" jobs.head?
  | ['%', '%'] => found "No current job" jobs.head?
  | ['%', '+'] => found "No current job" jobs.head?
  | ['%', '-'] => found "No previous job" jobs[1]?
  | '%' :: digits =>
      let number := Text.naturalOf? digits
      found ("No such job: " ++ word) (jobs.find? fun j => some j.number = number)
  | _ => fail ("No such job: " ++ word)

def Job.wording (j : Job) : String :=
  match j.status? with
  | none => "Running"
  | some (.exited 0) => "Done"
  | some (.exited code) => "Done(" ++ Text.decimal code ++ ")"
  | some (.signaled signal core) =>
      Signal.wording signal ++ (if core then " (core dumped)" else "")
  | some _ => "Stopped"

/-- Shows the jobs, and forgets those that have ended. -/
def showJobs (_ : Means) (words : List String) : Action Nat := do
  let (chosen, _) ← takeOptions "lp" words
  noteEnds manyEnds
  let jobs := (← get).jobs
  let line (j : Job) (place : Nat) : String :=
    let index := ((jobs.take place).filter (·.status?.isNone)).length
    let mark := if index = 0 then "+" else if index = 1 then "-" else " "
    let process := Text.decimal ((j.processes.head?.map (·.1)).getD 0)
    let start := "[" ++ Text.decimal j.number ++ "] " ++ mark ++ " "
    let text :=
      if chosen.any (·.1 = 'l') then start ++ process ++ " " ++ j.wording
      else start ++ j.wording
    if chosen.any (·.1 = 'p') then process ++ "\n"
    else text ++ String.ofList (List.replicate (33 - text.length) ' ') ++ "\n"
  modify fun s => { s with jobs := s.jobs.filter (·.status?.isNone) }
  put (String.join (jobs.zipIdx.map fun (j, place) => line j place))

def wait (_ : Means) (words : List String) : Action Nat := do
  let (_, words) ← takeOptions "" words
  let interrupted : Action Nat := do return 128 + ((← get).pending.getLast?.getD 0)
  if words = [] then
    if ← waitInterruptibly none manyEnds then
      noteAwaited none
      return 0
    else return ← interrupted
  let mut code := 0
  for word in words do
    let jobs := (← get).jobs
    let job ← match word.toList with
      | '%' :: _ => some <$> jobOf word
      | _ =>
          let process ← number word
          pure (jobs.find? fun j => j.processes.getLast?.any (·.1 = process))
    match job with
    | none => code := 127
    | some j =>
        if !(← waitInterruptibly (some j.number) manyEnds) then return ← interrupted
        noteAwaited (some j.number)
        code := ((job? (← get) j.number).bind Job.status?).elim 0 codeOf
  return code

/-- What is said of words that `kill` cannot use. -/
def killUsage : String :=
  "Usage: kill [-s sigspec | -signum | -sigspec] [pid | job]... or\n" ++
    "kill -l [exitstatus]"

def listSignals : List String → Action Nat
  | [] =>
      let lines := (List.range Signal.last).map fun n => Signal.name (n + 1) ++ "\n"
      put ("0\n" ++ String.join lines)
  | word :: _ => do
      let n ← number word
      let n := if 128 < n then n - 128 else n
      if 0 < n && n ≤ Signal.last then put (Signal.name n ++ "\n")
      else fail ("invalid signal number or exit status: " ++ word)

def targetOf (word : String) : Action Int := do
  match word.toList with
  | '%' :: _ => return -(((← jobOf word).processes.head?.map (·.1)).getD 0 : Int)
  | '-' :: digits => return -((← number (String.ofList digits)) : Int)
  | _ => return (← number word)

def sendAll (signal : Nat) : List String → Action Nat
  | [] => return 0
  | word :: rest => do
      let target ← targetOf word
      let code ← match ← ask (.signal target signal) with
        | .ok _ => pure 0
        | .error e => do
            complain (reason "No such file or directory" e ++ "\n")
            pure 1
      return max code (← sendAll signal rest)

/-- Sends signals, or names them. -/
def kill (_ : Means) (words : List String) : Action Nat := do
  let direct :=
    match words with
    | word :: rest =>
        match word.toList with
        | '-' :: name => (Signal.number? 1 (String.ofList name)).map (·, rest)
        | _ => none
    | [] => none
  match direct with
  | some (_, []) => fail killUsage
  | some (signal, targets) => sendAll signal targets
  | none =>
      let (chosen, targets) ← takeOptions "ls:" words
      let signal ← match (chosen.filter (·.1 = 's')).getLast? with
        | none => pure none
        | some (_, name) =>
            match Signal.number? 1 name with
            | some n => pure (some n)
            | none => fail ("invalid signal number or name: " ++ name)
      if chosen.any (·.1 = 'l') then
        if signal.isSome then fail killUsage
        listSignals targets
      else if targets = [] then fail killUsage
      else sendAll (signal.getD 15) targets

/-- Lets something be done for a signal, or nothing, or what is usually done. -/
def setTrap (action : Option String) (signal : Nat) : Action Unit := do
  let others := (← get).traps.filter (·.1 ≠ signal)
  let traps := match action with
    | some text => (signal, text) :: others
    | none => others
  modify fun s => { s with traps }
  if signal ≠ 0 then
    ask <| .dispose signal <|
      match action with
      | none => .usual
      | some text => if text = "" then .ignored else .caught

/-- Lets something be done for signals, or shows what is done. -/
def trap (_ : Means) (words : List String) : Action Nat := do
  let (_, words) ← takeOptions "" words
  let set (action : Option String) (names : List String) : Action Nat := do
    for name in names do
      match Signal.number? 0 name with
      | some signal => setTrap action signal
      | none =>
          say ("trap: " ++ name ++ ": bad trap\n")
          return 1
    return 0
  match words with
  | [] =>
      let traps := (← get).traps.mergeSort fun a b => a.1 ≤ b.1
      put <| String.join <| traps.map fun (signal, action) =>
        "trap -- " ++ quoted action ++ " " ++ Signal.name signal ++ "\n"
  | [name] => set none [name]
  | action :: names =>
      if (Text.naturalOf? action.toList).any (· ≤ Signal.last) then set none words
      else set (if action = "-" then none else some action) names

def octal? (cs : List Char) : Option Nat :=
  if cs ≠ [] && cs.all fun c => '0' ≤ c && c ≤ '7' then
    some (cs.foldl (fun n c => 8 * n + (c.toNat - 48)) 0)
  else none

/-- The rights that a mask leaves, in letters. -/
def rightsText (mask : Nat) : String :=
  let rights (shift : Nat) : String :=
    String.ofList <| (["r", "w", "x"].zipIdx.filter fun (_, i) =>
      mask / 2 ^ (shift + 2 - i) % 2 = 0).flatMap fun (name, _) => name.toList
  "u=" ++ rights 6 ++ ",g=" ++ rights 3 ++ ",o=" ++ rights 0 ++ "\n"

/-- The mask that one part of a text with letters makes of a mask. -/
def maskOfClause? (mask : Nat) (clause : List Char) : Option Nat :=
  let (who, rest) := clause.span "ugoa".toList.contains
  let groups := if who = [] || who.contains 'a' then ['u', 'g', 'o'] else who
  let shiftOf (c : Char) : Nat := if c = 'u' then 6 else if c = 'g' then 3 else 0
  match rest with
  | sign :: letters =>
      let bitOf? (c : Char) : Option Nat :=
        match c with
        | 'r' => some 4
        | 'w' => some 2
        | 'x' => some 1
        | _ => none
      let isSign : Bool := sign = '+' || sign = '-' || sign = '='
      if !isSign || !letters.all fun c => (bitOf? c).isSome then none
      else
        let bits := (letters.filterMap bitOf?).foldl (· ||| ·) 0
        some <| groups.foldl (fun mask group =>
          let shift := shiftOf group
          let old := mask / 2 ^ shift % 8
          let new :=
            if sign = '+' then old &&& (7 - bits)
            else if sign = '-' then old ||| bits
            else 7 - bits
          mask - old * 2 ^ shift + new * 2 ^ shift) mask
  | [] => none

def umask (_ : Means) (words : List String) : Action Nat := do
  let (chosen, words) ← takeOptions "S" words
  let mask := (← get).mask
  match words with
  | [] =>
      if chosen ≠ [] then put (rightsText mask)
      else
        let digits := Nat.toDigits 8 mask
        put (String.ofList (List.replicate (4 - digits.length) '0' ++ digits) ++ "\n")
  | word :: _ =>
      let cs := word.toList
      let new ←
        if cs.head?.any Char.isDigit then
          match octal? cs with
          | some n => pure (n % 512)
          | none => fail ("Illegal number: " ++ word)
        else
          match (word.splitOn ",").foldlM (fun m c => maskOfClause? m c.toList) mask with
          | some n => pure n
          | none => fail ("Illegal mode: " ++ word)
      modify fun s => { s with mask := new }
      return 0

def processCommands : List Command :=
  [{ name := "kill", run := kill }, { name := "wait", run := wait },
    { name := "jobs", run := showJobs },
    { name := "fg", run := fun _ _ => fail "No current job" },
    { name := "bg", run := fun _ _ => fail "No current job" },
    { name := "trap", isSpecial := true, run := trap },
    { name := "umask", run := umask },
    { name := "times", isSpecial := true
      run := fun _ _ => put "0m0.000000s 0m0.000000s\n0m0.000000s 0m0.000000s\n" },
    { name := "ulimit"
      run := fun _ words =>
        put (if words.any fun w => !w.startsWith "-" then "" else "unlimited\n") }]

end Shell
end Rehearsal
end BuildStamp
