import BuildStamp.Host.Basic
import BuildStamp.Host.IoError
import BuildStamp.Rehearsal.Octets
import BuildStamp.Rehearsal.Script.Word
import BuildStamp.Text.Reader
import BuildStamp.Text.Writing

/-!
# State — the state of a shell and its processes

* `Signal.name`, `Signal.number?` — their names and numbers;
* `Signal.wording` — what is said when a process ends by one;
* `Shell` — the state;
* `Shell.Jump`, `Shell.Action` — what changes it and may leave the place at which it is;
* `Shell.Means` — what a shell does its work with;
* `Shell.complain`, `Shell.fail` — what it says;
* `Shell.assign`, `Shell.unassign` — variables;
* `Shell.inAnyCase` — what is done in any case;
* `Shell.catchUp` — what is done for signals that came;
* `Shell.leave` — the end of a shell;
* `Shell.spawn` — a shell in a process of its own;
* `Shell.await`, `Shell.waitInterruptibly` — the ends of processes.
-/

namespace BuildStamp
namespace Rehearsal
namespace Signal

/-! ## Names of signals -/

def last : Nat := 64

/-- The name of a signal, with a name for the end of the shell at zero. -/
def name (number : Nat) : String :=
  if number = 0 then "EXIT"
  else if number = 16 || number = 32 || number = 33 then Text.decimal number
  else
    match signalName? number with
    | some name => String.ofList (name.toList.drop 3)
    | none =>
        if number = 34 then "RTMIN"
        else if number ≤ 49 then "RTMIN+" ++ Text.decimal (number - 34)
        else if number < 64 then "RTMAX-" ++ Text.decimal (64 - number)
        else "RTMAX"

/-- The signal of a number or a name, from a certain number on. -/
def number? (least : Nat) (text : String) : Option Nat :=
  let number := Text.naturalOf? text.toList
  if number.any (· ≤ last) then number
  else
    (List.range (last + 1)).find? fun n =>
      least ≤ n && (name n).toList = text.toList.map Char.toUpper

def wordings : List String :=
  ["Hangup", "Interrupt", "Quit", "Illegal instruction", "Trace/breakpoint trap", "Aborted",
    "Bus error", "Floating point exception", "Killed", "User defined signal 1",
    "Segmentation fault", "User defined signal 2", "Broken pipe", "Alarm clock", "Terminated",
    "Stack fault", "Child exited", "Continued", "Stopped (signal)", "Stopped",
    "Stopped (tty input)", "Stopped (tty output)", "Urgent I/O condition",
    "CPU time limit exceeded", "File size limit exceeded", "Virtual timer expired",
    "Profiling timer expired", "Window changed", "I/O possible", "Power failure",
    "Bad system call"]

def wording (number : Nat) : String :=
  match number with
  | 0 => "Unknown signal 0"
  | n + 1 =>
      (wordings[n]?).getD <|
        if number < 34 then "Unknown signal " ++ Text.decimal number
        else "Real-time signal " ++ Text.decimal (number - 34)

end Signal

/-! ## The state -/

namespace Shell

/-- A variable. -/
structure Variable where
  value : Option String
  isExported : Bool := false
  isFixed : Bool := false

/-- A function. -/
structure Function where
  body : Script

/-- Processes that were started together. -/
structure Job where
  number : Nat
  processes : List (Nat × Option ExitStatus)
  wasAwaited : Bool := false

end Shell

/-- The state of a shell. -/
structure Shell where
  name : String
  process : Nat
  arguments : List String := []
  bindings : List (String × Shell.Variable) := []
  hidden : List (List (String × Option Shell.Variable)) := []
  functions : List (String × Shell.Function) := []
  texts : List (Nat × Word) := []
  nextText : Nat := 0
  aliases : List (String × String) := []
  options : List Char := []
  code : Nat := 0
  -- The code that an action for a signal must leave as it is.
  kept : Option Nat := none
  -- The code of the last output that became a part of a word.
  outputCode : Nat := 0
  line : Nat := 0
  command : Option String := none
  loops : Nat := 0
  calls : Nat := 0
  jobs : List Shell.Job := []
  background : Option Nat := none
  -- What is done for signals, with zero for the end of the shell.
  traps : List (Nat × String) := []
  -- The signals that came and for which nothing has been done yet.
  pending : List Nat := []
  optionPlace : Nat × Option Nat := (1, none)
  tracked : List (String × String) := []
  mask : Nat := 18
  -- Whether it is not the first shell of its script.
  isChild : Bool := false

namespace Shell

/-- What leaves the place at which a script is. -/
inductive Jump where
  | ended
  -- The shell ends because of a failure that some commands survive.
  | failed
  | loopEnded (levels : Nat)
  | roundEnded (levels : Nat)
  | returned (code : Nat)

/-- Changes the state, and may leave the place at which it is. -/
abbrev Action := ExceptT Jump (StateT Shell Task)

/-- How a script is run. -/
structure Setting where
  isLast : Bool := false
  -- Whether it may fail even if failures end the shell.
  isTested : Bool := false

abbrev Environment := List (String × String)

/-- Becomes the program of a path with some words, or tells why that is impossible. -/
abbrev Starter := Environment → String → List String → Task IoError

/-- What a shell does its work with. -/
structure Means where
  run : Script → Setting → Action Nat
  evaluate : String → Setting → Action Nat
  start : Starter

/-! ## Requests and messages -/

def ask {α : Type} (request : Request α) : Action α :=
  fun state next => .ask request fun answer => next (.ok answer, state)

def exit {α : Type} (code : Nat) : Action α :=
  fun _ _ => .ended code

def say (text : String) : Action Unit := do
  let _ ← ask (.write 2 (Octets.ofText text))

def complain (message : String) : Action Unit := do
  let s ← get
  let command :=
    match s.command with
    | some name => name ++ ": "
    | none => ""
  say (s.name ++ ": " ++ Text.decimal s.line ++ ": " ++ command ++ message ++ "\n")

def setCode (code : Nat) : Action Unit :=
  modify fun s => { s with code }

def fail {α : Type} (message : String) : Action α := do
  complain message
  setCode 2
  throw .failed

def endWith {α : Type} (message : String) (code : Nat) : Action α := do
  complain message
  setCode code
  throw .ended

/-- Why a file cannot be used, where a missing one has words of its own. -/
def reason (missing : String) : IoError → String
  | .os 2 => missing
  | .os 20 => missing
  | .os number => IoError.describe number
  | e => e.message

/-- Writes to the output, and gives the code of the command that does. -/
def put (text : String) : Action Nat := do
  if text = "" then return 0
  match ← ask (.write 1 (Octets.ofText text)) with
  | .ok _ => return 0
  | .error _ =>
      complain ((← get).command.getD "" ++ ": I/O error")
      return 1

def number (word : String) : Action Nat := do
  match Text.naturalOf? word.toList with
  | some n => return n
  | none => fail ("Illegal number: " ++ word)

def has (s : Shell) (option : Char) : Bool :=
  s.options.contains option

def hasTraps (s : Shell) : Bool :=
  s.traps.any (·.2 ≠ "")

/-! ## In any case -/

/-- Does something, and something else behind it in any case. -/
def inAnyCase {α : Type} (body : Action α) (after : Action Unit) : Action α := do
  let result ← tryCatch (do return Except.ok (← body)) fun jump => return .error jump
  after
  match result with
  | .ok value => return value
  | .error jump => throw jump

/-- Does something, and gives what it came to or how its place was left. -/
def attempt {α : Type} (body : Action α) : Action (Except Jump α) :=
  tryCatch (do return Except.ok (← body)) fun jump => return .error jump

/-! ## Variables -/

def putPair {α : Type} (name : String) (value : α) : List (String × α) → List (String × α)
  | [] => [(name, value)]
  | (n, v) :: rest => if n = name then (n, value) :: rest else (n, v) :: putPair name value rest

def dropPair {α : Type} (name : String) (pairs : List (String × α)) : List (String × α) :=
  pairs.filter (·.1 ≠ name)

/-- The value of a variable, if it has one. -/
def valueOf? (s : Shell) (name : String) : Option String :=
  (s.bindings.lookup name).bind (·.value)

/-- The characters that separate fields, unless none are set. -/
def separators (s : Shell) : List Char :=
  match valueOf? s "IFS" with
  | some text => text.toList
  | none => [' ', '\t', '\n']

/-- Changes a variable, which need not be there. -/
def alter (name : String) (f : Variable → Variable) : Action Unit :=
  modify fun s =>
    let old := (s.bindings.lookup name).getD { value := none }
    { s with bindings := putPair name (f old) s.bindings }

def checkFree (name : String) : Action Unit := do
  if ((← get).bindings.lookup name).any (·.isFixed) then fail (name ++ ": is read only")

/-- Sets a variable, which programs know from now on if they are told. -/
def assign (name value : String) (isExported : Bool) : Action Unit := do
  checkFree name
  let isExported := isExported || (← get).options.contains 'a'
  alter name fun v => { v with value := some value, isExported := v.isExported || isExported }
  if name = "PATH" then modify fun s => { s with tracked := [] }
  if name = "OPTIND" then
    let start := (Text.naturalOf? value.toList).getD 1
    modify fun s => { s with optionPlace := (max start 1, none) }

def unassign (name : String) : Action Unit := do
  checkFree name
  modify fun s => { s with bindings := dropPair name s.bindings }

def splitAssignment (text : String) : String × Option String :=
  match text.toList.span (· ≠ '=') with
  | (name, _ :: value) => (String.ofList name, some (String.ofList value))
  | (name, []) => (String.ofList name, none)

def environment (s : Shell) : Environment :=
  s.bindings.filterMap fun (name, v) =>
    if v.isExported then v.value.map (name, ·) else none

/-- Hides a variable until the end of the innermost function or command. -/
def hide (name : String) : Action Unit :=
  modify fun s =>
    match s.hidden with
    | [] => s
    | frame :: outer => { s with hidden := ((name, s.bindings.lookup name) :: frame) :: outer }

/-- What stands for the options among the variables that are hidden. -/
def optionMark : String := "-"

/-- Hides the options until the end of the innermost function or command. -/
def hideOptions : Action Unit :=
  modify fun s =>
    match s.hidden with
    | [] => s
    | frame :: outer =>
        let options : Variable := { value := some (String.ofList s.options) }
        { s with hidden := ((optionMark, some options) :: frame) :: outer }

def bringBack (s : Shell) : String × Option Variable → Shell
  | (name, some v) =>
      if name = optionMark then { s with options := (v.value.getD "").toList }
      else { s with bindings := putPair name v s.bindings }
  | (name, none) => { s with bindings := dropPair name s.bindings }

def unhide : Action Unit :=
  modify fun s =>
    match s.hidden with
    | [] => s
    | frame :: outer => { frame.foldl bringBack s with hidden := outer }

def withHidden {α : Type} (body : Action α) : Action α := do
  modify fun s => { s with hidden := [] :: s.hidden }
  inAnyCase body unhide

/-! ## Signals -/

def fetchSignals : Action Unit := do
  if hasTraps (← get) then
    let signals ← ask .signals
    modify fun s => { s with pending := s.pending ++ signals }

def react (m : Means) (signal : Nat) : Action Unit := do
  let s ← get
  match s.traps.lookup signal with
  | none => return
  | some action =>
      let code := s.kept.getD s.code
      set { s with kept := some code }
      inAnyCase
        (do
          let _ ← m.evaluate action {}
          setCode code)
        (modify fun after => { after with kept := s.kept })

def catchUp (m : Means) : Action Unit := do
  fetchSignals
  let pending := (← get).pending
  if pending ≠ [] then
    modify fun s => { s with pending := [] }
    for signal in pending do
      react m signal

/-! ## Ends -/

/-- Ends the shell with the code of the last command, behind what is done at its end. -/
def leave (m : Means) : Action Nat := do
  let s ← get
  match s.traps.lookup 0 with
  | none => exit s.code
  | some action =>
      set { s with traps := s.traps.filter (·.1 ≠ 0), kept := some s.code, loops := 0 }
      match ← attempt (m.evaluate action {}) with
      | .error .ended => exit (← get).code
      | .error .failed => exit (← get).code
      | _ => exit s.code

def runToEnd (m : Means) (body : Action Nat) : Action Nat := do
  match ← attempt body with
  | .ok code => setCode code
  | .error (.returned code) => setCode code
  | .error _ => pure ()
  leave m

/-! ## Processes -/

def spawn (m : Means) (body : Action Nat) : Action Nat := fun state next =>
  let caught := state.traps.filter (·.2 ≠ "")
  let born : Shell :=
    { state with
      traps := state.traps.filter (·.2 = ""), jobs := [], pending := [], isChild := true }
  let child : Action Nat := do
    for (signal, _) in caught do
      if signal ≠ 0 then ask (.dispose signal .usual)
    runToEnd m body
  .fork (child born fun _ => .ended 0) fun process => next (.ok process, state)

def codeOf : ExitStatus → Nat
  | .exited code => code
  | .signaled signal _ => 128 + signal
  | _ => 0

/-- Says that a signal ended a process, unless nobody wants to know. -/
def sayEnd : ExitStatus → Action Unit
  | .signaled signal core =>
      if signal ≠ 2 && signal ≠ 13 then
        say (Signal.wording signal ++ (if core then " (core dumped)" else "") ++ "\n")
      else return
  | _ => return

def noteEnd (process : Nat) (status : ExitStatus) : Action Unit :=
  modify fun s =>
    let note (j : Job) : Job :=
      { j with
        processes := j.processes.map fun (p, ended) =>
          if p = process && ended.isNone then (p, some status) else (p, ended) }
    { s with jobs := s.jobs.map note }

/-- How a job ended, if it did: as its last process. -/
def Job.status? (j : Job) : Option ExitStatus :=
  if j.processes.all (·.2.isSome) then j.processes.getLast?.bind (·.2) else none

def job? (s : Shell) (number : Nat) : Option Job :=
  s.jobs.find? (·.number = number)

def Job.isDone (j : Job) : Bool :=
  j.wasAwaited && j.status?.isSome

def addJob (processes : List Nat) : Action Nat := do
  let jobs := (← get).jobs
  let isFree (n : Nat) : Bool := jobs.all fun j => j.number ≠ n || j.isDone
  let number := ((List.range (jobs.length + 1)).map (· + 1)).find? isFree
  let job : Job := { number := number.getD 1, processes := processes.map (·, none) }
  modify fun s => { s with jobs := job :: jobs.filter (·.number ≠ job.number) }
  return job.number

/-- Notes the end of a process, and says how it came if it belongs to a certain job. -/
def noteEndFor (number : Option Nat) (process : Nat) (status : ExitStatus) : Action Unit := do
  let isPart (j : Job) : Bool := some j.number = number && j.processes.any (·.1 = process)
  if (← get).jobs.any isPart then sayEnd status
  noteEnd process status

/-- Notes that jobs were waited for: a certain one, or all that have ended. -/
def noteAwaited (number : Option Nat) : Action Unit :=
  modify fun s =>
    let note (j : Job) : Job :=
      { j with wasAwaited := j.wasAwaited || number.elim j.status?.isSome (· = j.number) }
    { s with jobs := s.jobs.map note }

/-- Waits until a job has ended, and notes the ends of others meanwhile. -/
def waitFor (number : Nat) : Nat → Action (Option ExitStatus)
  | 0 => return none
  | bound + 1 => do
      match (job? (← get) number).bind Job.status? with
      | some status => return some status
      | none =>
          match ← ask (.await none true false) with
          | .ended process status =>
              noteEndFor (some number) process status
              waitFor number bound
          | _ => return none

def manyEnds : Nat := 2 ^ 62

/-- Waits for processes that were started together, and gives the code of the last one. -/
def await (processes : List Nat) : Action Nat := do
  let number ← addJob processes
  let status ← waitFor number manyEnds
  modify fun s => { s with jobs := s.jobs.filter (·.number ≠ number) }
  return (status.map codeOf).getD 0

/-- Waits until a job has ended, or all if none is given, unless a signal comes first. -/
def waitInterruptibly (number : Option Nat) : Nat → Action Bool
  | 0 => return true
  | bound + 1 => do
      let s ← get
      let isOver (j : Job) := j.status?.isSome
      let isDone :=
        match number with
        | some n => (job? s n).all isOver
        | none => s.jobs.all isOver
      if isDone then return true
      match ← ask (.await none true true) with
      | .ended process status =>
          noteEndFor number process status
          waitInterruptibly number bound
      | .interrupted =>
          fetchSignals
          return false
      | _ => return true

end Shell
end Rehearsal
end BuildStamp
