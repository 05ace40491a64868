import BuildStamp.Cli.Usage
import BuildStamp.Host.Path
import BuildStamp.Text.Writing

/-!
# Arguments — reading the command line

The words are read from left to right.  A switch is taken over only once the next one is looked
at, so of two faults the one of an unknown switch can come before that of a bad value.  The
switches of the tool may stand on either side of the command; behind it they count more.

* `Misuse` — what is wrong with a command line;
* `Call` — what a command line asks for;
* `Words` — what was read so far on one side of the command;
* `Call.ofArguments` — reads a command line.
-/

namespace BuildStamp
namespace Cli

/-! ## Calls -/

/-- How the build info is shown. -/
inductive Format where
  | header
  | json
  deriving DecidableEq, Repr

def Format.ofText? : String → Option Format
  | "header" => some .header
  | "json" => some .json
  | _ => none

/-- Settings that count more than those of the configuration. -/
structure Overrides where
  srcDir : Option Path := none
  version : Option String := none
  deriving DecidableEq, Repr

/-- A command with all that it needs. -/
inductive Command where
  | generate
  | hook (target : String)
  | init (force : Bool)
  | inspect (format : Format)
  deriving DecidableEq, Repr

/-- A command line that makes sense. -/
structure Invocation where
  command : Command
  config : Option Path := none
  overrides : Overrides := {}
  verbose : Bool := false
  deriving DecidableEq, Repr

/-- What is wrong with a command line. -/
inductive Misuse where
  | nothing
  | noCommand
  | unknownCommand (word : String)
  | noTarget
  | unexpected (word : String)
  | unexpectedValue (switch : Switch) (value : String)
  | noValue (switch : Switch)
  | badValue (switch : Switch) (value : String)
  | repeated (switch : Switch)
  deriving DecidableEq, Repr

/-- The wording of a misuse.  Words of the command line are shown without controls. -/
def Misuse.message : Misuse → String
  | .nothing => Topic.tool.text
  | .noCommand =>
      "error: '" ++ toolName ++ "' requires a subcommand but one was not provided\n"
  | .unknownCommand word => "error: unrecognized subcommand '" ++ Text.plain word ++ "'\n"
  | .noTarget => "error: the following required arguments were not provided:\n  <TARGET>\n"
  | .unexpected word => "error: unexpected argument '" ++ Text.plain word ++ "' found\n"
  | .unexpectedValue switch value =>
      "error: unexpected value '" ++ Text.plain value ++ "' for '" ++ switch.display ++
        "' found; no more were expected\n"
  | .noValue switch =>
      "error: a value is required for '" ++ switch.display ++ "' but none was supplied\n"
  | .badValue switch value =>
      "error: invalid value '" ++ Text.plain value ++ "' for '" ++ switch.display ++ "'\n"
  | .repeated switch =>
      "error: the argument '" ++ switch.display ++ "' cannot be used multiple times\n"

/-- What a command line asks for. -/
inductive Call where
  | perform (invocation : Invocation)
  | help (topic : Topic)
  | version
  | misuse (fault : Misuse)
  deriving DecidableEq, Repr

/-! ## Words on one side of the command -/

/-- What was read so far. -/
structure Words where
  taken : List (Switch × String) := []
  -- A switch that is still to be taken over, with its value if that has been read.
  pending : Option (Switch × Option String) := none
  target : Option String := none
  -- Whether all that follows is no switch.
  escaped : Bool := false
  deriving DecidableEq, Repr

/-- Reading ends with a call, or goes on. -/
abbrev Step := Except Call

namespace Words

def checkValue (s : Switch) (value : String) : Step Unit :=
  match s with
  | .config => if value = "" then throw (.misuse (.noValue s)) else pure ()
  | .srcDir => if value = "" then throw (.misuse (.noValue s)) else pure ()
  | .format =>
      if value = "" then throw (.misuse (.noValue s))
      else if (Format.ofText? value).isNone then throw (.misuse (.badValue s value))
      else pure ()
  | _ => pure ()

/-- Takes a switch over, with its value. -/
def take (s : Switch) (value : String) (w : Words) : Step Words := do
  if w.taken.any (·.1 = s) then throw (.misuse (.repeated s))
  checkValue s value
  return { w with taken := w.taken ++ [(s, value)] }

def settle (w : Words) : Step Words :=
  match w.pending with
  | none => return w
  | some (s, none) => throw (.misuse (.noValue s))
  | some (s, some value) => { w with pending := none }.take s value

def flag (topic : Topic) (s : Switch) (w : Words) : Step Words := do
  let w ← w.settle
  match s with
  | .help => throw (.help topic)
  | .version => throw .version
  | _ => w.take s "true"

def valued (s : Switch) (value : Option String) (w : Words) : Step Words := do
  let w ← w.settle
  match value with
  | some value => w.take s value
  | none => return { w with pending := some (s, none) }

/-! ## Switches -/

def splitEquals (cs : List Char) : String × Option String :=
  match cs.span (· ≠ '=') with
  | (name, _ :: value) => (String.ofList name, some (String.ofList value))
  | (name, []) => (String.ofList name, none)

/-- Reads a long switch, behind its two dashes. -/
def long (verb : Option Verb) (topic : Topic) (cs : List Char) (w : Words) : Step Words :=
  let (name, value) := splitEquals cs
  match (Verb.switches verb).find? (·.long = name) with
  | none => throw (.misuse (.unexpected ("--" ++ name)))
  | some s =>
      match s.value?, value with
      | some _, value => w.valued s value
      | none, some value => throw (.misuse (.unexpectedValue s value))
      | none, none => w.flag topic s

/-- Reads short switches, behind their dash.  The first one that takes a value takes all that
follows, with or without an equals sign. -/
def short (verb : Option Verb) (topic : Topic) : List Char → Words → Step Words
  | [], w => return w
  | c :: cs, w =>
      match (Verb.switches verb).find? (·.short? = some c) with
      | none => throw (.misuse (.unexpected ("-" ++ c.toString)))
      | some s =>
          match s.value?, cs with
          | some _, [] => w.valued s none
          | some _, '=' :: value => w.valued s (some (String.ofList value))
          | some _, value => w.valued s (some (String.ofList value))
          | none, cs => do
              let w ← w.flag topic s
              short verb topic cs w

/-- What a word looks like. -/
inductive Shape where
  | escape
  | long (cs : List Char)
  | short (cs : List Char)
  | plain
  deriving DecidableEq, Repr

def shapeOf (word : String) : Shape :=
  match word.toList with
  | ['-', '-'] => .escape
  | '-' :: '-' :: cs => .long cs
  | '-' :: c :: cs => .short (c :: cs)
  | _ => .plain

/-- Reads a word that is not a command.  `plain` reads one that is neither a switch nor a value of
the switch before it. -/
def read (verb : Option Verb) (topic : Topic) (plain : String → Words → Step Words)
    (word : String) (w : Words) : Step Words :=
  if w.escaped then plain word w
  else
    match shapeOf word with
    | .escape => return { w with escaped := true }
    | .long cs => w.long verb topic cs
    | .short cs => short verb topic cs w
    | .plain =>
        match w.pending with
        | some (s, none) => return { w with pending := some (s, some word) }
        | _ => plain word w

/-! ## Values -/

def value? (w : Words) (s : Switch) : Option String :=
  w.taken.lookup s

def has (w : Words) (s : Switch) : Bool :=
  (w.value? s).isSome

end Words

/-! ## Command lines -/

namespace Call

/-- Reads a target, where one is due. -/
def target (verb : Verb) (word : String) (w : Words) : Step Words :=
  if verb = .hook ∧ w.target = none then do
    return { (← w.settle) with target := some word }
  else throw (.misuse (.unexpected word))

def command (verb : Verb) (w : Words) : Step Command :=
  match verb with
  | .generate => return .generate
  | .hook =>
      match w.target with
      | some target => return .hook target
      | none => throw (.misuse .noTarget)
  | .init => return .init (w.has .force)
  | .inspect => return .inspect (((w.value? .format).bind Format.ofText?).getD .header)

/-- Reads the words behind the name of a command; `before` stand in front of it. -/
def ofVerb (before : Words) (verb : Verb) (words : List String) : Step Invocation := do
  let read := Words.read (some verb) (.verb verb) (target verb)
  let behind ← words.foldlM (fun w word => read word w) {}
  let behind ← behind.settle
  let command ← command verb behind
  let before ← before.settle
  return {
    command
    config := ((behind.value? .config).or (before.value? .config)).map Path.mk
    overrides := ⟨(behind.value? .srcDir).map Path.mk, behind.value? .buildVersion⟩
    verbose := before.has .verbose || behind.has .verbose }

/-- Reads what stands behind the word that asks for help. -/
def ofHelp : Topic → List String → Call
  | topic, [] => .help topic
  | .tool, word :: words =>
      if word = "help" then ofHelp .help words
      else
        match Verb.all.find? (·.name = word) with
        | some verb => ofHelp (.verb verb) words
        | none => .misuse (.unknownCommand word)
  | _, word :: _ => .misuse (.unknownCommand word)

/-- Refuses a word that is neither a switch nor a command.  The name of a command is none once all
that follows is no switch. -/
def stray (word : String) (_ : Words) : Step Words :=
  if word = "help" ∨ Verb.all.any (·.name = word) then throw (.misuse (.unexpected word))
  else throw (.misuse (.unknownCommand word))

/-- Whether a word is the name of a command, where one may stand. -/
def mayBeVerb (w : Words) : Bool :=
  !w.escaped && match w.pending with
    | some (_, none) => false
    | _ => true

def read (w : Words) : List String → Step Invocation
  | [] => do
      let escaped := w.pending.isNone && w.taken.isEmpty
      let _ ← w.settle
      throw (.misuse (if escaped then .nothing else .noCommand))
  | word :: words => do
      if mayBeVerb w then
        if word = "help" then throw (ofHelp .tool words)
        if let some verb := Verb.all.find? (·.name = word) then
          return ← ofVerb w verb words
      read (← Words.read none .tool stray word w) words

def ofArguments (words : List String) : Call :=
  match read {} words with
  | .ok invocation => .perform invocation
  | .error call => call

end Call
end Cli
end BuildStamp
