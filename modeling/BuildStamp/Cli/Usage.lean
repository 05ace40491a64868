import BuildStamp.Text.Writing

/-!
# Usage — what can be said on the command line, and what the tool says of itself

* `Switch` — the switches, with their spelling and what they are for;
* `Verb` — the commands, with the switches that each takes;
* `Topic.text` — the help on the tool or on a command;
* `Release` — what is known of the build of a tool;
* `Release.current` — this tool's;
* `Release.line` — one line that names the tool and its build.
-/

namespace BuildStamp
namespace Cli

/-! ## Switches -/

/-- A switch. -/
inductive Switch where
  | config
  | srcDir
  | buildVersion
  | verbose
  | force
  | format
  | help
  | version
  deriving DecidableEq, Repr

namespace Switch

/-- All switches, in the order in which the help lists them. -/
def all : List Switch :=
  [config, srcDir, buildVersion, verbose, force, format, help, version]

def long : Switch → String
  | config => "config"
  | srcDir => "src-dir"
  | buildVersion => "build-version"
  | verbose => "verbose"
  | force => "force"
  | format => "format"
  | help => "help"
  | version => "version"

def short? : Switch → Option Char
  | config => some 'c'
  | verbose => some 'v'
  | format => some 'f'
  | help => some 'h'
  | version => some 'V'
  | _ => none

/-- The name of the value, for a switch that takes one. -/
def value? : Switch → Option String
  | config => some "CONFIG"
  | srcDir => some "SRC_DIR"
  | buildVersion => some "BUILD_VERSION"
  | format => some "FORMAT"
  | _ => none

def about : Switch → String
  | config => "Configuration file (defaults to $FWSTAMP_CONFIG or ./fwstamp.toml)"
  | srcDir => "Directory the header is written into"
  | buildVersion => "Version string to stamp instead of the configured one"
  | verbose => "Enable debug logging"
  | force => "Replace an existing configuration file"
  | format => "Output format [default: header] [possible values: header, json]"
  | help => "Print help"
  | version => "Print version"

def display (s : Switch) : String :=
  "--" ++ s.long ++ (s.value?.map fun name => " <" ++ name ++ ">").getD ""

def entry (s : Switch) : String :=
  (s.short?.map fun c => "-" ++ c.toString ++ ", ").getD "    " ++ s.display

end Switch

/-! ## Commands -/

/-- A command. -/
inductive Verb where
  | generate
  | hook
  | init
  | inspect
  deriving DecidableEq, Repr

namespace Verb

def all : List Verb :=
  [generate, hook, init, inspect]

def name : Verb → String
  | generate => "generate"
  | hook => "hook"
  | init => "init"
  | inspect => "show"

def about : Verb → String
  | generate => "Write the header unconditionally"
  | hook => "Pre-action entry point; only runs for the configured target"
  | init => "Write a starter configuration file"
  | inspect => "Print the build info without writing anything"

/-- The switches of a command; without one, those of the tool. -/
def switches : Option Verb → List Switch
  | none => [.config, .verbose, .help, .version]
  | some generate => [.config, .srcDir, .buildVersion, .verbose, .help]
  | some hook => [.config, .srcDir, .buildVersion, .verbose, .help]
  | some init => [.config, .srcDir, .buildVersion, .verbose, .force, .help]
  | some inspect => [.config, .srcDir, .buildVersion, .verbose, .format, .help]

end Verb

/-! ## Help -/

/-- What help can be shown on. -/
inductive Topic where
  | tool
  | verb (verb : Verb)
  | help
  deriving DecidableEq, Repr

def toolName : String := "fwstamp"

def widest (texts : List String) : Nat :=
  (texts.map String.length).foldl max 0

def paragraph (title : String) (rows : List (String × String)) : String :=
  let width := widest (rows.map (·.1))
  let row (r : String × String) : String :=
    "  " ++ r.1 ++ String.ofList (List.replicate (width + 2 - r.1.length) ' ') ++ r.2 ++ "\n"
  "\n" ++ title ++ ":\n" ++ String.join (rows.map row)

def helpAbout : String :=
  "Print this message or the help of the given subcommand(s)"

/-- What comes first in a help: what the topic does, and the form of a call. -/
def opening (about form : String) : String :=
  about ++ "\n\nUsage: " ++ toolName ++ " " ++ form ++ "\n"

def switchRows (verb : Option Verb) : String :=
  paragraph "Options" ((Verb.switches verb).map fun s => (s.entry, s.about))

def Topic.text : Topic → String
  | .tool =>
      opening "Generate build_info.h before a firmware build" "[OPTIONS] <COMMAND>" ++
        paragraph "Commands" (Verb.all.map (fun v => (v.name, v.about)) ++ [("help", helpAbout)]) ++
        switchRows none
  | .verb .hook =>
      opening Verb.hook.about "hook [OPTIONS] <TARGET>" ++
        paragraph "Arguments"
          [("<TARGET>", "Build target the host build system is about to run")] ++
        switchRows (some .hook)
  | .verb v => opening v.about (v.name ++ " [OPTIONS]") ++ switchRows (some v)
  | .help =>
      opening helpAbout "help [COMMAND]..." ++
        paragraph "Arguments" [("[COMMAND]...", "Print help for the subcommand(s)")]

end Cli

/-! ## The tool's own build -/

/-- What is known of the build of a tool. -/
structure Release where
  version : String
  revision : String
  builtAt : String
  target : String
  deriving DecidableEq, Repr

namespace Release

/-- The build of this tool, of which only the version is recorded. -/
def current : Release :=
  ⟨"0.1.0", "unknown", "unknown", "unknown"⟩

def line (r : Release) (name : String) : String :=
  name ++ " " ++ r.version ++ " (rev " ++ r.revision ++ ", built " ++ r.builtAt ++ ", target " ++
    r.target ++ ")"

end Release
end BuildStamp
