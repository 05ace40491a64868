import BuildStamp.Rehearsal.Shell.Simple

/-!
# Run — running scripts, and the shell as a program

* `Shell.runLoop`, `Shell.runEach` — loops;
* `Shell.runPipeline`, `Shell.runSeparate`, `Shell.runBackground` — processes of their own;
* `Shell.runScript` — all scripts;
* `Shell.means` — what a shell does its work with, with scripts inside of scripts up to a certain
  depth;
* `Shell.Invocation` — what the words behind its name ask for;
* `Shell.program` — the shell.
-/

namespace BuildStamp
namespace Rehearsal
namespace Shell

/-! ## Loops -/

/-- Runs a part of a loop: gives its code, with whether the loop goes on if the part was left. -/
def runInLoop (part : Action Nat) : Action (Except Bool Nat) := do
  match ← attempt part with
  | .ok code => return .ok code
  | .error (.loopEnded (levels + 2)) => throw (.loopEnded (levels + 1))
  | .error (.loopEnded _) => return .error false
  | .error (.roundEnded (levels + 2)) => throw (.roundEnded (levels + 1))
  | .error (.roundEnded _) => return .error true
  | .error jump => throw jump

def asLoop (body : Action Nat) : Action Nat := do
  modify fun s => { s with loops := s.loops + 1 }
  inAnyCase body (modify fun s => { s with loops := s.loops - 1 })

/-- Runs the rounds of a loop that a condition ends, behind a round with a certain code. -/
def rounds (m : Means) (setting : Setting) (isOpposite : Bool) (condition body : Script) :
    Nat → Nat → Action Nat
  | 0, code => return code
  | bound + 1, code => do
      match ← runInLoop (m.run condition { isTested := true }) with
      | .error true => rounds m setting isOpposite condition body bound code
      | .error false => return code
      | .ok answer =>
          if (answer = 0) == isOpposite then return code
          match ← runInLoop (m.run body { isTested := setting.isTested }) with
          | .ok code => rounds m setting isOpposite condition body bound code
          | .error true => rounds m setting isOpposite condition body bound 0
          | .error false => return 0

def runLoop (m : Means) (setting : Setting) (isOpposite : Bool) (condition body : Script) :
    Action Nat :=
  asLoop (rounds m setting isOpposite condition body manyEnds 0)

/-- Runs a body for each of some words, behind a round with a certain code. -/
def eachRound (m : Means) (setting : Setting) (name : String) (body : Script) :
    List String → Nat → Action Nat
  | [], code => return code
  | word :: rest, _ => do
      assign name word false
      match ← runInLoop (m.run body { isTested := setting.isTested }) with
      | .ok code => eachRound m setting name body rest code
      | .error true => eachRound m setting name body rest 0
      | .error false => return 0

def runEach (m : Means) (setting : Setting) (name : String) (words : List Word) (body : Script) :
    Action Nat := do
  let fields ← words.mapM (fieldsOf m)
  asLoop (eachRound m setting name body fields.flatten 0)

/-! ## Processes -/

def detach (isFirst : Bool) : Action Unit := do
  ask (.dispose 2 .ignored)
  ask (.dispose 3 .ignored)
  if isFirst then
    ask (.close 0)
    let _ ← ask (.openFile "/dev/null" .reading)

def noteBackground (processes : List Nat) : Action Nat := do
  let _ ← addJob processes
  modify fun s => { s with background := processes.getLast? }
  return 0

/-- Lets a channel lead where another one leads, which is given up. -/
def moveChannel (source target : Nat) : Action Unit := do
  if source ≠ target then
    let _ ← ask (.copy source target)
    ask (.close source)

/-- Starts the parts of a pipeline, given the channel that the first one reads. -/
def startParts (m : Means) (setting : Setting) (isBackground : Bool) :
    List Script → Option Nat → Action (List Nat)
  | [], _ => return []
  | part :: rest, input => do
      let pipe ← if rest.isEmpty then pure none else some <$> ask .pipe
      let process ← spawn m do
        if isBackground then detach input.isNone
        if let some (source, _) := pipe then ask (.close source)
        if let some channel := input then
          if 0 < channel then moveChannel channel 0
        if let some (_, sink) := pipe then
          if 1 < sink then moveChannel sink 1
        m.run part { isLast := true, isTested := setting.isTested }
      if let some channel := input then ask (.close channel)
      if let some (_, sink) := pipe then ask (.close sink)
      return process :: (← startParts m setting isBackground rest (pipe.map (·.1)))

def runPipeline (m : Means) (setting : Setting) (parts : List Script) (isBackground : Bool) :
    Action Nat := do
  let processes ← startParts m setting isBackground parts none
  if isBackground then noteBackground processes else await processes

/-- Runs a script in a process of its own, unless the shell ends with it. -/
def runSeparate (m : Means) (setting : Setting) (body : Script) (rs : List Redirection) :
    Action Nat := do
  let ls ← leadings m rs
  let inner : Action Nat := do
    redirect m ls
    m.run body { setting with isLast := true }
  if setting.isLast && !hasTraps (← get) then inner else await [← spawn m inner]

def runBackground (m : Means) (body : Script) (rs : List Redirection) : Action Nat := do
  let ls ← leadings m rs
  let process ← spawn m do
    detach true
    redirect m ls
    m.run body { isLast := true }
  noteBackground [process]

/-! ## Choices -/

def fitsAny (m : Means) (text : String) : List Word → Action Bool
  | [] => return false
  | w :: rest => do
      if (← patternOf m w).fits text.toList then return true else fitsAny m text rest

def runBranches (m : Means) (setting : Setting) (text : String) : Branches → Action Nat
  | .none => return 0
  | .branch patterns body others => do
      if ← fitsAny m text patterns then
        match body with
        | .nothing => return 0
        | body => m.run body setting
      else runBranches m setting text others

/-! ## Scripts -/

/-- Runs a script, and gives its code with whether a failure ends a shell that failures end. -/
def runParts (m : Means) (setting : Setting) : Script → Action (Nat × Bool)
  | .nothing => return (0, false)
  | .command line assignments words redirections => do
      match ← attempt (runCommand m setting line assignments words redirections) with
      | .ok code => return (code, true)
      | .error (.returned code) =>
          setCode code
          let isStrict := (← get).options.contains 'e'
          if isStrict && !setting.isTested && code ≠ 0 then throw .ended
          throw (.returned code)
      | .error jump => throw jump
  | .redirected line body rs => do
      modify fun s => { s with line }
      let ls ← leadings m rs
      let code ← redirected m ls (m.run body { isTested := setting.isTested }) (return 2)
      return (code, false)
  | .separate line body rs => do
      modify fun s => { s with line }
      return (← runSeparate m setting body rs, true)
  | .background line body rs => do
      modify fun s => { s with line }
      return (← runBackground m body rs, true)
  | .pipeline parts isBackground => do
      return (← runPipeline m setting parts isBackground, true)
  | .negated body => do
      let code ← m.run body { isTested := true }
      return (if code = 0 then 1 else 0, false)
  | .sequence first second => do
      let _ ← m.run first { isTested := setting.isTested }
      return (← m.run second setting, false)
  | .both first second => do
      let code ← m.run first { isTested := true }
      if code = 0 then return (← m.run second setting, false) else return (code, false)
  | .either first second => do
      let code ← m.run first { isTested := true }
      if code = 0 then return (code, false) else return (← m.run second setting, false)
  | .choice condition first second => do
      let code ← m.run condition { isTested := true }
      return (← m.run (if code = 0 then first else second) setting, false)
  | .loop isOpposite condition body => do
      return (← runLoop m setting isOpposite condition body, false)
  | .each line name words body => do
      modify fun s => { s with line }
      return (← runEach m setting name words body, false)
  | .fitting line word branches => do
      modify fun s => { s with line }
      let text ← textOf m .start word
      return (← runBranches m setting text branches, false)
  | .function _ name body => do
      modify fun s => { s with functions := putPair name ⟨body⟩ s.functions }
      return (0, false)

/-- Runs a script, and gives its code. -/
def runScript (m : Means) (script : Script) (setting : Setting) : Action Nat := do
  if (← get).options.contains 'n' then return 0
  catchUp m
  let (code, isChecked) ← runParts m setting script
  setCode code
  catchUp m
  if isChecked && !setting.isTested && code ≠ 0 && (← get).options.contains 'e' then throw .ended
  if setting.isLast then throw .ended
  return code

def maxDepth : Nat := 40000

def overflow : Action Nat := do
  let process ← ask .identity
  let _ ← ask (.signal process 11)
  exit 139

/-- What a shell does its work with, with scripts inside of scripts up to a certain depth. -/
def means (start : Starter) : Nat → Means
  | 0 => { run := fun _ _ => overflow, evaluate := fun _ _ => overflow, start }
  | depth + 1 =>
      { run := fun script setting => runScript (means start depth) script setting
        evaluate := fun text setting => runText (runScript (means start depth)) text setting
        start }

/-! ## The shell as a program -/

/-- What the words behind the name of a shell ask for. -/
structure Invocation where
  holdsScript : Bool := false
  rest : List String := []

/-- Takes the options of one word of letters, and gives the words behind them with whether a word
holds the script. -/
def takeLetters (isSet : Bool) : List Char → List String → Action (List String × Bool)
  | [], rest => return (rest, false)
  | 'c' :: cs, rest => do
      let (rest, _) ← takeLetters isSet cs rest
      return (rest, true)
  | 'l' :: cs, rest => takeLetters isSet cs rest
  | 'o' :: cs, rest => do
      takeLetters isSet cs (← setLetters isSet ['o'] rest)
  | c :: cs, rest => do
      setOption isSet c
      takeLetters isSet cs rest

def takeInvocation : Nat → List String → Action Invocation
  | 0, rest => return { rest }
  | _, [] => return {}
  | bound + 1, word :: rest => do
      let next (isSet : Bool) (letters : List Char) : Action Invocation := do
        let (rest, holdsScript) ← takeLetters isSet letters rest
        let others ← takeInvocation bound rest
        return { others with holdsScript := holdsScript || others.holdsScript }
      match word.toList with
      | ['-'] => return { rest }
      | ['-', '-'] => return { rest }
      | '-' :: letters => next true letters
      | '+' :: letters => next false letters
      | _ => return { rest := word :: rest }

def firstBindings (environment : Environment) (place : Place) (parent : Nat) :
    List (String × Variable) :=
  let known := environment.filter fun (name, _) => isName name
  let own := [("IFS", " \t\n"), ("OPTIND", "1"), ("PPID", Text.decimal parent), ("PS1", "# "),
    ("PS2", "> "), ("PS4", "+ ")]
  let kept := own.filter fun (name, _) => name ≠ "PS4" || (known.lookup name).isNone
  let exported := (known.filter fun (name, _) => !kept.any (·.1 = name)).foldl
    (fun all (name, value) => putPair name { value := some value, isExported := true } all) []
  let path : List (String × Variable) :=
    if exported.any (·.1 = "PATH") then [] else [("PATH", { value := some usualPath })]
  putPair "PWD" { value := some (placeText place), isExported := true } <|
    exported ++ path ++ kept.map fun (name, value) => (name, { value := some value })

/-- Runs the script of a shell, given the words behind its name. -/
def runInvocation (m : Means) (words : List String) : Action Nat := do
  let i ← takeInvocation (words.length + 1) words
  match i.holdsScript, i.rest with
  | true, [] => fail "-c requires an argument"
  | true, text :: rest =>
      modify fun s => { s with name := rest.headD s.name, arguments := rest.drop 1 }
      let isStdin := (← get).options.contains 's'
      let code ← m.evaluate text { isLast := !isStdin }
      if isStdin then runChannel m.run 0 else return code
  | false, rest =>
      if rest = [] then setOption true 's'
      if (← get).options.contains 's' then
        modify fun s => { s with arguments := rest }
        runChannel m.run 0
      else
        let file := rest.headD ""
        let channel ← openSource file
        modify fun s => { s with name := file, arguments := rest.drop 1 }
        runChannel m.run channel

def program (start : Starter) (environment : Environment) (name : String) (words : List String) :
    Task Nat := do
  let (_, place) ← Task.ask .look
  let process ← Task.ask .identity
  let parent ← Task.ask .parent
  let s : Shell := { name, process, bindings := firstBindings environment place parent }
  let m := means start maxDepth
  let (_, s) ← (runToEnd m (runInvocation m words)).run.run s
  return s.code

end Shell
end Rehearsal
end BuildStamp
