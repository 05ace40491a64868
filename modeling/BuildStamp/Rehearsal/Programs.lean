import BuildStamp.Host.Basic
import BuildStamp.Rehearsal.Condition
import BuildStamp.Rehearsal.Course
import BuildStamp.Rehearsal.Format
import BuildStamp.Rehearsal.Octets
import BuildStamp.Rehearsal.Shell.Run
import BuildStamp.Rehearsal.Tool.Files
import BuildStamp.Rehearsal.Tool.Translate

/-!
# Programs — the programs that are there, and how they are started

A path leads to an installed program or to a script, which names the path that is meant instead: a
file that begins with `#!` names the program that reads it, and one argument of that program.  Only
the beginning of the file is looked at; behind its end are zeros.  A name that may go on behind what
is looked at does not count, but an argument is cut there.

* `Tool.echo`, `Tool.printf`, `Tool.sleep` — the tools;
* `Tool.named?` — all tools by name;
* `Interpreter` — a program and its argument;
* `Interpreter.read?` — what a file names;
* `installation` — the files of the programs and the devices;
* `runnableAt` — the file that a path leads to and that may be executed;
* `follow` — the installed program that a path leads to, with its words;
* `start` — a process becomes the program of a path;
* `searched` — the path of a program that is named without one;
* `programs` — the answers of a rehearsal.
-/

namespace BuildStamp
namespace Rehearsal
namespace Tool

/-! ## Printing -/

def echo : Tool := fun name words => do
  let output ← ({} : Output).putText (echoProgram words)
  output.close name 0

def printf : Tool := fun name words => do
  match if words.head? = some "--" then words.drop 1 else words with
  | [] => misused name "missing operand"
  | format :: arguments =>
      let s := Printf.run .program format arguments
      s.complaints.forM (complain name)
      let code ← match s.refusal with
        | none => pure s.code
        | some message => do
            complain name message
            pure 1
      let output ← ({} : Output).putText s.output
      let code ← output.close name code
      if s.isLost then
        complain name "write error"
        return 1
      return code

/-! ## Waiting -/

/-- The nanoseconds of a number of seconds, minutes, hours or days. -/
def pauseOf? (text : String) : Option Nat :=
  let unit? : List Char → Option Nat
    | [] => some 1
    | ['s'] => some 1
    | ['m'] => some 60
    | ['h'] => some 3600
    | ['d'] => some 86400
    | _ => none
  match Number.real? text with
  | some (.finite false num den, rest) =>
      (unit? rest).map fun unit => (num * unit * 1000000000 + den - 1) / den
  | some (.finite true 0 _, rest) => (unit? rest).map fun _ => 0
  | some (.infinite false, rest) => (unit? rest).map fun _ => 10 ^ 40
  | _ => none

def sleep : Tool := fun name words => do
  match Choice.read [] false words with
  | .error message => misused name message
  | .ok (_, []) => misused name "missing operand"
  | .ok (_, operands) =>
      match operands.filter fun o => (pauseOf? o).isNone with
      | [] =>
          Task.ask (.pause ((operands.filterMap pauseOf?).foldl (· + ·) 0))
          return 0
      | wrong =>
          let complaint (word : String) := "invalid time interval " ++ Quoting.quoted word
          wrong.dropLast.forM fun word => complain name (complaint word)
          misused name (complaint (wrong.getLast?.getD ""))

/-! ## All tools -/

def named? : String → Option Tool
  | "cat" => some cat
  | "echo" => some echo
  | "false" => some fun _ _ => return 1
  | "head" => some head
  | "printf" => some printf
  | "sleep" => some sleep
  | "tr" => some tr
  | "true" => some fun _ _ => return 0
  | "wc" => some wc
  | _ => none

def names : List String :=
  ["cat", "echo", "false", "head", "printf", "sleep", "tr", "true", "wc"]

end Tool

/-! ## The program that the first line of a file names -/

/-- The program that reads a file, and its argument. -/
structure Interpreter where
  path : String
  argument : Option String
  deriving DecidableEq, Repr

namespace Interpreter

def window : Nat := 256

def beginning (content : ByteArray) : List UInt8 :=
  let octets := (content.extract 0 window).data.toList
  octets ++ List.replicate (window - octets.length) 0

def isBlank (b : UInt8) : Bool :=
  b = 32 || b = 9

def endsName (b : UInt8) : Bool :=
  isBlank b || b = 0

def textOf (octets : List UInt8) : String :=
  Octets.text ⟨octets.toArray⟩

def ofLine? (line : List UInt8) : Option Interpreter :=
  let line := (line.reverse.dropWhile isBlank).reverse.dropWhile isBlank
  let name := line.takeWhile (!endsName ·)
  if line = [] then none
  else
    some {
      path := textOf name
      argument :=
        match line.drop name.length with
        | [] => none
        | b :: rest =>
            if b = 0 then none
            else some (textOf ((rest.dropWhile isBlank).takeWhile (· ≠ 0))) }

/-- What the beginning of a file names, from its third byte on.  Where the line does not end, the
name must. -/
def ofBeginning? (octets : List UInt8) : Option Interpreter :=
  let line := octets.takeWhile fun b => b ≠ 10 && b ≠ 0
  if octets[line.length]? = some 10 then ofLine? line
  else if (octets.dropWhile isBlank).any endsName then ofLine? octets.dropLast
  else none

def read? (content : ByteArray) : Option Interpreter :=
  match beginning content with
  | 35 :: 33 :: octets => ofBeginning? octets
  | _ => none

end Interpreter

/-! ## Installed programs -/

def shellNames : List String :=
  ["sh", "dash", "bash"]

def programNames : List String :=
  Tool.names ++ shellNames ++ ["env", "test", "["]

def programDirectories : List Place :=
  [["bin"], ["usr", "bin"]]

def installed? (place : Place) : Option String :=
  (place.getLast?).filter fun name =>
    programDirectories.contains place.dropLast && programNames.contains name

def installation : List (Place × FileSystem.Node) :=
  let directories := programDirectories.map (·, FileSystem.Node.directory)
  let programs := programDirectories.flatMap fun directory =>
    programNames.map fun name => (directory ++ [name], FileSystem.Node.file .empty true)
  let devices := Device.all.map fun (place, _) => (place, FileSystem.Node.file .empty false)
  (Device.directory, .directory) :: directories ++ programs ++ devices

/-! ## The program of a path -/

def runnableAt (files : FileSystem) (place : Place) (path : String) :
    Except IoError (Place × ByteArray) := do
  match Octets.read? path with
  | none => throw .notFound
  | some path =>
      let target ← files.resolve place ⟨path⟩
      match files.nodeAt? target with
      | some (.file content true) => return (target, content)
      | _ => throw .denied

def longestWord : Nat := 131071

/-- How much room there is for all words and variables, each with the place where it is. -/
def roomForWords : Nat := 2 ^ 21

def fitsRoom (environment : Shell.Environment) (words : List String) : Bool :=
  let wordSizes := words.map String.length
  let variableSizes := environment.map fun (name, value) => name.length + value.length + 1
  let sizes := wordSizes ++ variableSizes
  sizes.all (· ≤ longestWord) && (sizes.map (· + 9)).foldl (· + ·) 0 ≤ roomForWords

/-- There are too many words, or they are too long. -/
def tooManyWords : IoError := .os 7

/-- How many files can stand on the way from a path to an installed program, that one included. -/
def maxForms : Nat := 6

def tooManyForms : IoError := .os 40

/-- The installed program that a path leads to, with its words.  Each of so many files on the way
names the next one. -/
def follow (files : FileSystem) (place : Place) (environment : Shell.Environment) :
    Nat → String → List String → Except IoError (String × List String)
  | 0, _, _ => .error tooManyForms
  | bound + 1, path, words => do
      let (target, content) ← runnableAt files place path
      if !fitsRoom environment words then throw tooManyWords
      match installed? target with
      | some name => return (name, words)
      | none =>
          match Interpreter.read? content with
          | none => throw .notRunnable
          | some i =>
              let before := i.path :: i.argument.toList ++ [path]
              follow files place environment bound i.path (before ++ words.drop 1)

/-! ## Starting programs -/

/-- Becomes the program that some words name, and gives the code of a failure. -/
def startNamed (start : Shell.Starter) (environment : Shell.Environment) (name : String)
    (words : List String) : Task Nat := do
  let word := words.headD ""
  let directories := (environment.lookup "PATH").getD Shell.usualPath
  let mut refusal := IoError.notFound
  for path in Shell.pathsIn directories word do
    let e ← start environment path words
    unless Shell.isAbsence e do refusal := e
  Tool.complain name (Quoting.quoted word ++ ": " ++ Tool.wording refusal)
  return if Shell.isAbsence refusal then 127 else 126

def runEnvironment (start : Shell.Starter) (environment : Shell.Environment) (name : String) :
    Nat → List String → Task Nat
  | 0, _ => return 125
  | _, [] => do
      let text := String.join (environment.map fun (name, value) => name ++ "=" ++ value ++ "\n")
      let output ← ({} : Tool.Output).putText text
      output.close name 0
  | bound + 1, word :: rest =>
      match word with
      | "-" => runEnvironment start [] name bound rest
      | "-i" => runEnvironment start [] name bound rest
      | "--" => runEnvironment start environment name bound rest
      | "-u" =>
          let others := Shell.dropPair (rest.headD "") environment
          runEnvironment start others name bound (rest.drop 1)
      | _ =>
          match Shell.splitAssignment word with
          | (other, some value) =>
              runEnvironment start (Shell.putPair other value environment) name bound rest
          | (_, none) => startNamed start environment name (word :: rest)

def runTest (name : String) (words : List String) : Task Nat := do
  let (files, place) ← Task.ask .look
  match Condition.holds ⟨files, place⟩ words with
  | .ok answer => return if answer then 0 else 1
  | .error message =>
      Tool.complain name message
      return 2

/-- Runs the installed program of a name, with words of which the first is what it is called. -/
def runInstalled (start : Shell.Starter) (environment : Shell.Environment) (name : String)
    (words : List String) : Task Nat :=
  let called := words.headD name
  let rest := words.drop 1
  if shellNames.contains name then Shell.program start environment called rest
  else
    match name with
    | "env" => runEnvironment start environment called (rest.length + 1) rest
    | "test" => runTest called rest
    | "[" => if rest.getLast? = some "]" then runTest called rest.dropLast else return 2
    | _ =>
        match Tool.named? name with
        | some tool => tool called rest
        | none => return 127

/-- How many programs a process can become, one after the other. -/
def maxStarts : Nat := 2 ^ 62

/-- Becomes the program of a path, and at most so many others after it. -/
def startWithin : Nat → Shell.Starter
  | 0 => fun _ _ _ => return .os 11
  | bound + 1 => fun environment path words => do
      let (files, place) ← Task.ask .look
      match follow files place environment maxForms path words with
      | .error e => return e
      | .ok (name, words) =>
          Task.ask .become
          Task.finish (runInstalled (startWithin bound) environment name words)

def start : Shell.Starter :=
  startWithin maxStarts

/-! ## Finding programs -/

/-- The first of some paths that leads to a program, or why none does. -/
def firstRunnable (files : FileSystem) (place : Place) (environment : Shell.Environment)
    (words : List String) : IoError → List String → Except IoError String
  | refusal, [] => .error refusal
  | refusal, path :: rest =>
      match follow files place environment maxForms path words with
      | .ok _ => .ok path
      | .error e =>
          if Shell.isAbsence e then firstRunnable files place environment words refusal rest
          else if e = .denied then firstRunnable files place environment words e rest
          else .error e

/-- The path of a program, which is looked for in the usual directories if its name is not a path
already. -/
def searched (files : FileSystem) (place : Place) (environment : Shell.Environment)
    (words : List String) : Except IoError String :=
  let name := words.headD ""
  if name = "" then .error .notFound
  else if name.toList.contains '/' then do
    let _ ← follow files place environment maxForms name words
    return name
  else
    firstRunnable files place environment words .notFound (Shell.pathsIn Shell.usualPath name)

/-! ## Answers -/

/-- The channels of the first process: no input, the output, and messages that nobody sees. -/
def firstChannels : List Channel :=
  [⟨0, 0, false⟩, ⟨1, 1, false⟩, ⟨2, 2, false⟩]

def firstOpenings : List (Nat × Opening) :=
  [(0, World.openingOf .nothing .reading), (1, World.openingOf (.sink outputPipe) .writing),
    (2, World.openingOf .nothing .writing)]

def firstWorld (files : FileSystem) (place : Place) (routine : Routine) : World :=
  { processes :=
      [{ number := firstProcess, parent := none, channels := firstChannels, place
         stage := .ready 0 routine }]
    openings := firstOpenings
    nextOpening := firstOpenings.length
    files }

/-- The answers of a rehearsal in which programs know these variables. -/
def programs (environment : List (String × String)) : Programs := fun files place command => do
  let words := (command.program :: command.arguments).map Octets.spell
  let known := ("PATH", Shell.usualPath) ::
    environment.map fun (name, value) => (name, Octets.spell value)
  let path ← searched files place known words
  let routine := start known path words fun _ => .ended 127
  let world := (firstWorld files place routine).run World.maxSteps
  return {
    ending := world.ending
    output := .ok (world.output.reverse.foldl (· ++ ·) .empty)
    closing := world.closing
    changes := world.changes.reverse }

end Rehearsal
end BuildStamp
