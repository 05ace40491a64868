import BuildStamp.Rehearsal.Script.Grammar
import BuildStamp.Rehearsal.Shell.Command
import BuildStamp.Rehearsal.Shell.Program

/-!
# Simple — where commands come from, and running one without structure

* `Shell.runText` — runs the script that a text holds;
* `Shell.runChannel` — runs the script that is read from a channel;
* `Shell.runFile` — runs the script in a file;
* `Shell.commands` — the commands that the shell carries out itself;
* `Shell.pick` — the words of a command and what they mean;
* `Shell.callFunction` — calls a function;
* `Shell.runCommand` — runs a command.
-/

namespace BuildStamp
namespace Rehearsal
namespace Shell

/-! ## Commands line by line -/

/-- Reads the next commands, given what gives more of the script. -/
def nextScript (more : Action String) : Nat → Reading → Action (Option Script × Reading)
  | 0, r => return (none, r)
  | bound + 1, r => do
      let s ← get
      let start := { r with aliases := s.aliases, nextText := s.nextText, texts := [] }
      match Script.read.run start with
      | .ok (script, r) =>
          modify fun s => { s with texts := r.texts ++ s.texts, nextText := r.nextText }
          return (script, r)
      | .error (.senseless line reason) =>
          modify fun s => { s with line }
          fail ("Syntax error: " ++ reason)
      | .error .unfinished =>
          let text ← more
          let cs := text.toList.filter (· ≠ '\x00')
          nextScript more bound { r with rest := r.rest ++ cs, isWhole := text = "" }

def isOver (r : Reading) : Bool :=
  match r.held with
  | some .scriptEnd => true
  | _ => false

/-- Runs commands up to the end of a script, and gives the code of the last one. -/
def runFrom (run : Script → Setting → Action Nat) (setting : Setting) (more : Action String) :
    Nat → Reading → Nat → Action Nat
  | 0, _, code => return code
  | bound + 1, r, code => do
      match ← nextScript more manyEnds r with
      | (none, _) => return code
      | (some .nothing, r) => runFrom run setting more bound r code
      | (some script, r) =>
          let isLast := setting.isLast && isOver r
          let code ← run script { setting with isLast }
          runFrom run setting more bound r code

def runText (run : Script → Setting → Action Nat) (text : String) (setting : Setting) :
    Action Nat :=
  runFrom run setting (return "") manyEnds { rest := text.toList, isWhole := true } 0

def sourceSize : Nat := 8192

def runChannel (run : Script → Setting → Action Nat) (channel : Nat) : Action Nat := do
  let more : Action String := do
    match ← ask (.read channel sourceSize) with
    | .ok octets => return Octets.text octets
    | .error _ => return ""
  let body := runFrom run {} more manyEnds { rest := [], isWhole := false } 0
  tryCatch body fun
    | .returned code => return code
    | jump => throw jump

/-- Opens a file with a script as a channel that programs do not inherit. -/
def openSource (path : String) : Action Nat := do
  match ← ask (.openFile path .reading) with
  | .error e => fail ("cannot open " ++ path ++ ": " ++ reason "No such file" e)
  | .ok channel =>
      let kept ← ask (.keep channel)
      ask (.close channel)
      return kept.getD channel

def sourcePath (name : String) : Action String := do
  if name.toList.contains '/' then return name
  let (files, place) ← ask .look
  match firstFile files place false (pathsOfProgram (← get) false name) with
  | .ok path => return path
  | .error _ => fail (name ++ ": not found")

def runFile (run : Script → Setting → Action Nat) (name : String) : Action Nat := do
  let path ← sourcePath name
  let channel ← openSource path
  modify fun s => { s with command := some path }
  inAnyCase (runChannel run channel) (ask (.close channel))

/-! ## Meanings -/

def evaluateWords (m : Means) (setting : Setting) (words : List String) : Action Nat :=
  if words = [] then return 0
  else m.evaluate (" ".intercalate words) { isTested := setting.isTested }

def runSource (m : Means) (words : List String) : Action Nat := do
  let (_, words) ← takeOptions "" words
  match words with
  | [] => return 0
  | name :: _ => runFile m.run name

def scriptCommands : List Command :=
  [{ name := ".", isSpecial := true, run := runSource },
    { name := "eval", isSpecial := true, run := fun m => evaluateWords m {} }]

def commands : List Command :=
  let most := printCommands ++ placeCommands ++ variableCommands ++ inputCommands ++
    processCommands ++ flowCommands ++ scriptCommands
  let names := (namingCommands []) ++ most
  namingCommands names ++ most

/-- What a command means. -/
inductive Meaning where
  | nothing
  | command (name : String) (isSpecial isAssigning : Bool)
  | function (f : Function)
  | program

/-- What a name means, where functions may not count. -/
def meaningOf (s : Shell) (allowsFunctions : Bool) (name : String) : Meaning :=
  match if allowsFunctions then s.functions.lookup name else none with
  | some f => .function f
  | none =>
      match commands.find? (·.name = name) with
      | some c => .command name c.isSpecial c.isAssigning
      | none => .program

/-! ## Words -/

/-- The words of a command and what they mean. -/
structure Picked where
  all : List String
  words : List String
  meaning : Meaning
  isSpecial : Bool := false
  isUsual : Bool := false

/-- The first fields of some words, and the words behind them. -/
def firstFields (m : Means) : List Word → Action (List String × List Word)
  | [] => return ([], [])
  | w :: rest => do
      match ← fieldsOf m w with
      | [] => firstFields m rest
      | fields => return (fields, rest)

/-- The words behind those that tell how a name is meant, with whether programs are looked for where
they usually are; none if something else is asked for.  Gives all fields that are known, too. -/
def behindCommand (m : Means) : Nat → List String → List String → List Word → Bool →
    Action (Option (List String × Bool) × List String × List Word)
  | 0, before, fields, rest, _ => return (none, before ++ fields, rest)
  | bound + 1, before, fields, rest, isUsual => do
      let (fields, rest) ← if fields = [] then firstFields m rest else pure (fields, rest)
      match fields with
      | [] => return (none, before, rest)
      | word :: others =>
          match word.toList with
          | ['-', '-'] =>
              let (others, rest) ← if others = [] then firstFields m rest else pure (others, rest)
              let named := if others = [] then none else some (others, isUsual)
              return (named, before ++ word :: others, rest)
          | '-' :: 'p' :: letters =>
              if letters.all (· = 'p') then
                behindCommand m bound (before ++ [word]) others rest true
              else return (none, before ++ fields, rest)
          | '-' :: _ :: _ => return (none, before ++ fields, rest)
          | _ => return (some (fields, isUsual), before ++ fields, rest)

def restFields (m : Means) (isAssigning : Bool) (rest : List Word) : Action (List String) := do
  let fields ← rest.mapM fun w => do
    if isAssigning && Grammar.isAssignment w then return [← textOf m .assignment w]
    else fieldsOf m w
  return fields.flatten

/-- The words of a command and what they mean, from a certain name on. -/
def pickFrom (m : Means) : Nat → Bool → Option Bool → Bool → List String → List String →
    List Word → Action Picked
  | 0, _, _, _, _, _, _ => return ⟨[], [], .nothing, false, false⟩
  | bound + 1, allowsFunctions, special, isUsual, before, words, rest => do
      let name := words.headD ""
      let meaning := meaningOf (← get) allowsFunctions name
      let special : Option Bool :=
        match meaning with
        | .command _ isSpecial _ => special.or (some isSpecial)
        | _ => special
      let isAssigning :=
        match meaning with
        | .command _ _ isAssigning => isAssigning
        | _ => false
      let closed (words : List String) (rest : List Word) : Action Picked := do
        let words := words ++ (← restFields m isAssigning rest)
        return ⟨before ++ words, words, meaning, special.getD false, isUsual⟩
      match meaning with
      | .command "command" _ _ =>
          let (named, fields, rest) ← behindCommand m manyEnds [] (words.drop 1) rest isUsual
          match named with
          | none => closed (name :: fields) rest
          | some (others, isUsual) =>
              let count := fields.length - others.length
              pickFrom m bound false special isUsual (before ++ name :: fields.take count) others
                rest
      | _ => closed words rest

def pick (m : Means) (words : List Word) : Action Picked := do
  match ← firstFields m words with
  | ([], _) => return ⟨[], [], .nothing, false, false⟩
  | (fields, rest) => pickFrom m manyEnds true none false [] fields rest

/-! ## Running -/

def maxCalls : Nat := 1000

def callFunction (m : Means) (setting : Setting) (f : Function) (arguments : List String) :
    Action Nat := do
  let old ← get
  if maxCalls ≤ old.calls then
    fail ("Maximum function recursion depth (" ++ Text.decimal maxCalls ++ ") reached")
  set { old with arguments, optionPlace := (1, none), loops := 0, calls := old.calls + 1 }
  let result ← attempt (m.run f.body { isTested := setting.isTested })
  modify fun s =>
    { s with
      arguments := old.arguments, optionPlace := old.optionPlace, loops := old.loops,
      calls := old.calls }
  match result with
  | .ok code => return code
  | .error (.returned code) => return code
  | .error jump => throw jump

def actionOf (m : Means) (setting : Setting) (name : String) (words : List String) : Action Nat :=
  if name = "eval" then evaluateWords m setting words
  else
    match commands.find? (·.name = name) with
    | some c => c.run m words
    | none => return 0

def callCommand (m : Means) (setting : Setting) (name : String) (isSpecial : Bool)
    (words : List String) : Action Nat := do
  let old := (← get).command
  modify fun s => { s with command := some name }
  let result ← attempt (actionOf m setting name (words.drop 1))
  modify fun s => { s with command := old }
  match result with
  | .ok code => return code
  | .error .failed => if isSpecial then throw .failed else return (← get).code
  | .error jump => throw jump

def runProgram (m : Means) (setting : Setting) (isUsual : Bool) (words : List String) :
    Action Nat := do
  let name := words.headD ""
  match ← locate isUsual name with
  | .error e =>
      complain (name ++ ": " ++ reason "not found" e)
      return 127
  | .ok _ =>
      if setting.isLast && !hasTraps (← get) then become m isUsual words
      else launch m isUsual words

def trace (saved : Saved) (assignments words : List String) : Action Unit := do
  let s ← get
  if s.options.contains 'x' then
    let channel := ((saved.lookup 2).bind id).getD 2
    let start := (valueOf? s "PS4").getD ""
    let line := start ++ " ".intercalate (assignments ++ words) ++ "\n"
    let _ ← ask (.write channel (Octets.ofText line))

/-- Makes the assignments in front of a command, and gives them. -/
def assignInFront (m : Means) (isLocal isExported : Bool) (assignments : List Word) :
    Action (List String) :=
  assignments.mapM fun w => do
    let text ← textOf m .assignment w
    let (name, value) := splitAssignment text
    if isLocal then hide name
    assign name (value.getD "") isExported
    return text

def commandSpan : Nat := 1000

/-- Whether a command is one that the shell carries out itself with a certain name. -/
def Meaning.isNamed (meaning : Meaning) (name : String) : Bool :=
  match meaning with
  | .command other _ _ => other = name
  | _ => false

def runCommand (m : Means) (setting : Setting) (line : Nat) (assignments words : List Word)
    (redirections : List Redirection) : Action Nat := do
  modify fun s => { s with line, outputCode := 0 }
  ask (.pause commandSpan)
  let picked ← pick m words
  let isExec := picked.meaning.isNamed "exec"
  let isLocal :=
    match picked.meaning with
    | .nothing => false
    | _ => !picked.isSpecial
  let ls ← leadings m redirections
  let (saved, refusal) ← leadAll m true [] ls
  let refused (message : String) : Action Nat := do
    complain message
    setCode 2
    if picked.isSpecial then throw .failed
    return 2
  let run : Action Nat := do
    let isExported := isLocal || (isExec && 1 < picked.words.length)
    let set ← assignInFront m isLocal isExported assignments
    trace saved set picked.all
    match picked.meaning with
    | .nothing => return (← get).outputCode
    | .command name _ _ => callCommand m setting name picked.isSpecial picked.words
    | .function f => callFunction m setting f (picked.words.drop 1)
    | .program => runProgram m setting picked.isUsual picked.words
  let whole : Action Nat :=
    match refusal with
    | some message => refused message
    | none => if isLocal then withHidden run else run
  inAnyCase whole (if isExec then forget saved else restore saved)

end Shell
end Rehearsal
end BuildStamp
