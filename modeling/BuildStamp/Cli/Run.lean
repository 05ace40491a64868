import BuildStamp.BuildInfo
import BuildStamp.Cli.Arguments
import BuildStamp.Cli.Usage
import BuildStamp.Config
import BuildStamp.Generator
import BuildStamp.Log

/-!
# Run — the command line tool

A run is given the host, the files and the words of the command line, and leaves a report with the
files as they are after it.

* `Failure` — why a command failed, with what caused it;
* `Outcome` — what a command comes to;
* `Invocation.run` — carries a command out;
* `run` — the whole tool.
-/

namespace BuildStamp
namespace Cli

/-! ## Failures -/

/-- Why a command failed. -/
structure Failure where
  message : String
  causes : List String := []
  deriving DecidableEq, Repr

namespace Failure

def ofError (e : Error) : Failure :=
  ⟨e.message, (e.cause?.map IoError.message).toList⟩

def during (activity : String) (e : Error) : Failure :=
  let f := ofError e
  ⟨activity, f.message :: f.causes⟩

def indented (width : Nat) (text : String) : String :=
  ("\n" ++ String.ofList (List.replicate width ' ')).intercalate (text.splitToList (· = '\n'))

/-- The rows of the causes, which are numbered if there are several. -/
def rows : List String → List String
  | [cause] => ["    " ++ indented 4 cause]
  | causes => causes.zipIdx.map fun (cause, n) =>
      let number := Text.decimal n
      String.ofList (List.replicate (5 - number.length) ' ') ++ number ++ ": " ++ indented 7 cause

def text (f : Failure) : String :=
  let causes :=
    if f.causes = [] then "" else "\n\nCaused by:\n" ++ "\n".intercalate (rows f.causes)
  "Error: " ++ f.message ++ causes ++ "\n"

end Failure

/-! ## Outcomes -/

/-- How a command ends. -/
inductive Ending where
  | success
  | failed (failure : Failure)
  | broken (cause : Abort)
  deriving DecidableEq, Repr

/-- What a command comes to. -/
structure Outcome where
  files : FileSystem
  output : String := ""
  events : List Log.Event := []
  ending : Ending := .success

namespace Outcome

def failure (files : FileSystem) (f : Failure) : Outcome :=
  { files, ending := .failed f }

def broken (files : FileSystem) (cause : Abort) : Outcome :=
  { files, ending := .broken cause }

def after (events : List Log.Event) (o : Outcome) : Outcome :=
  { o with events := events ++ o.events }

end Outcome

/-! ## Commands -/

def event (level : Log.Level) (message : String) : Log.Event :=
  ⟨level, toolName, message⟩

def Overrides.apply (host : Host) (o : Overrides) (c : Config) : Config :=
  let c := match o.srcDir with
    | some srcDir => c.withSrcDir host.environment.homeDirectory srcDir
    | none => c
  match o.version with
  | some version => c.withVersion version
  | none => c

def generate (host : Host) (files : FileSystem) (c : Config) : Outcome :=
  match (Generator.ofConfig c).generate host files c.srcDir with
  | .error cause => .broken files cause
  | .ok { result := .ok path, files, events } => { files, output := path.text ++ "\n", events }
  | .ok { result := .error e, files, events } =>
      { files, events, ending := .failed (.during "pre-build step failed" e) }

/-- Whether the header of a project is written before a target, and what is reported if not. -/
def skipEvent (target : String) (c : Config) : Log.Event :=
  event .info <|
    "Skipping target " ++ Text.quoted target ++ ", header is generated for " ++
      Text.quoted c.hookTarget

/-- Writes the header of a project before one target only. -/
def hook (host : Host) (files : FileSystem) (target : String) (c : Config) : Outcome :=
  if target = c.hookTarget then generate host files c
  else { files, events := [skipEvent target c] }

def Format.print (info : BuildInfo) : Format → String
  | .header => Header.render info
  | .json => Json.render info ++ "\n"

def inspect (host : Host) (files : FileSystem) (format : Format) (c : Config) : Outcome :=
  match (Generator.ofConfig c).capture host files c.srcDir with
  | .error cause => .broken files cause
  | .ok ⟨info, files, events⟩ => { files, output := format.print info, events }

def init (host : Host) (files : FileSystem) (path : Path) (force : Bool) (c : Config) : Outcome :=
  if files.has host.workingDirectory path && !force then
    .failure files ⟨path.text ++ " already exists, pass --force to replace it", []⟩
  else
    match c.validate with
    | .error fault => .failure files (.ofError (.config fault))
    | .ok () =>
        match c.save host.workingDirectory files path with
        | .error e => .failure files (.during ("writing " ++ path.text) e)
        | .ok files =>
            { files
              output := path.text ++ "\n"
              events := [event .info ("Wrote configuration to " ++ path.text)] }

/-! ## Invocations -/

namespace Invocation

def configPath (host : Host) (i : Invocation) : Path :=
  i.config.getD host.environment.configPath

def withConfig (host : Host) (files : FileSystem) (i : Invocation) (body : Config → Outcome) :
    Outcome :=
  let path := i.configPath host
  match Config.loadOrDefault host.environment.homeDirectory host.workingDirectory files path with
  | (.error e, events) => (Outcome.failure files (.during ("loading " ++ path.text) e)).after events
  | (.ok c, events) => (body (i.overrides.apply host c)).after events

def run (host : Host) (files : FileSystem) (i : Invocation) : Outcome :=
  match i.command with
  | .generate => i.withConfig host files (generate host files)
  | .hook target => i.withConfig host files (hook host files target)
  | .init force => init host files (i.configPath host) force (i.overrides.apply host {})
  | .inspect format => i.withConfig host files (inspect host files format)

end Invocation

/-! ## The tool -/

/-- What a run of the tool leaves. -/
structure Report where
  files : FileSystem
  code : Nat
  output : String := ""
  diagnostics : String := ""

def Ending.code : Ending → Nat
  | .success => 0
  | .failed _ => 1
  | .broken _ => 101

def Ending.text : Ending → String
  | .success => ""
  | .failed f => f.text
  | .broken .deadlineBeyondClock => "overflow when adding duration to instant\n"

def startEvent : Log.Event :=
  event .debug (Release.current.line toolName)

/-- The reports that are shown, one a line. -/
def logText (filter : Log.Filter) (events : List Log.Event) : String :=
  String.join ((events.filter filter.shows).map fun e => e.line ++ "\n")

def Outcome.report (filter : Log.Filter) (o : Outcome) : Report :=
  { files := o.files
    code := o.ending.code
    output := o.output
    diagnostics := logText filter o.events ++ o.ending.text }

def misuseCode : Nat := 2

def run (host : Host) (files : FileSystem) (arguments : List String) : Report :=
  match Call.ofArguments arguments with
  | .help topic => { files, code := 0, output := topic.text }
  | .version => { files, code := 0, output := toolName ++ " " ++ Release.current.version ++ "\n" }
  | .misuse fault => { files, code := misuseCode, diagnostics := fault.message }
  | .perform i =>
      ((i.run host files).after [startEvent]).report
        (Log.Filter.choose i.verbose host.environment)

end Cli
end BuildStamp
