import BuildStamp.Error
import BuildStamp.Host.Basic
import BuildStamp.Log
import BuildStamp.Text.Character
import BuildStamp.Toml.Document
import BuildStamp.Toml.Quote

/-!
# Config — the settings of a firmware project

Every setting that a document does not give has its default, and keys that are no settings are
ignored.  The first value of the wrong type is an error; only then the settings are validated.  The
values are gone through in the order of the parsed table, which has each key where it came first and
the members of a table together.

* `GitSettings`, `Config` — the settings and their defaults;
* `Config.validate` — the settings that would fail late, in the middle of a build;
* `Config.resolvedVersion`, `Config.headerPath` — what follows from the settings;
* `Config.withSrcDir`, `Config.withVersion`, `Config.anchoredAt` — changed settings;
* `Config.decode` — the settings of a table;
* `Config.parse` — the settings of a text;
* `Config.text` — a text that gives all settings;
* `Environment.configPath` — the file in which the settings of a project are;
* `Config.load` — reads the settings of a file, which must be there;
* `Config.loadOrDefault` — the same, with the defaults for a file that is not there;
* `Config.save` — writes the settings into a file;
* `RawConfig` — settings with a directory that need not be a text, as those have that are loaded
  from below a directory which is none.
-/

namespace BuildStamp

/-! ## Settings -/

/-- How the commit is looked up. -/
structure GitSettings where
  program : String := "git"
  timeoutSeconds : Nat := 5
  deriving DecidableEq, Repr

/-- The settings of a firmware project. -/
structure Config where
  -- The version of the firmware; a blank one counts as none.
  version : Option String := none
  srcDir : Path := ⟨"src"⟩
  headerName : String := "build_info.h"
  hookTarget : String := "buildprog"
  git : GitSettings := {}
  deriving DecidableEq, Repr

def defaultVersion : String := "0.1.1"

namespace Config

/-! ## Checks -/

/-- The names that a file in a directory can have, as far as separators go. -/
def isPlainFileName (name : String) : Bool :=
  name ≠ "" && name ≠ "." && name ≠ ".." && !name.toList.any fun c => c = '/' || c = '\\'

/-- Refuses the settings that would fail late, the first of them in this order. -/
def validate (c : Config) : Except ConfigFault Unit :=
  if !isPlainFileName c.headerName then .error (.headerName c.headerName)
  else if Text.isBlankText c.hookTarget then .error .blankHookTarget
  else if c.git.timeoutSeconds = 0 then .error .zeroTimeout
  else .ok ()

/-! ## Consequences -/

def resolvedVersion (c : Config) : String :=
  match c.version with
  | some version => if Text.isBlankText version then defaultVersion else version
  | none => defaultVersion

def headerPath (c : Config) : Path :=
  c.srcDir.join ⟨c.headerName⟩

/-! ## Changes -/

/-- The settings with another directory, in which a leading tilde is the home directory. -/
def withSrcDir (home : Option String) (srcDir : Path) (c : Config) : Config :=
  { c with srcDir := srcDir.expandTilde home }

def withVersion (version : String) (c : Config) : Config :=
  { c with version := some version }

/-- The settings read from `file`, with the directory seen from where `file` is seen.  A relative
directory is one below the directory that holds the file. -/
def anchoredAt (home : Option String) (file : Path) (c : Config) : Config :=
  let srcDir := c.srcDir.expandTilde home
  match file.parent? with
  | some base =>
      if !srcDir.isAbsolute && base.text ≠ "" then { c with srcDir := base.join srcDir }
      else { c with srcDir := srcDir }
  | none => { c with srcDir := srcDir }

end Config

open Toml (Value Found Expected Mismatch Entries)

/-! ## Values of settings -/

/-- A value, as a mismatch names it. -/
def Toml.Value.found : Value → Found
  | .string text => .string text
  | .integer value => .integer value
  | .float value => .float value
  | .boolean value => .boolean value
  | .moment => .map
  | .array _ => .sequence
  | .table .. => .map
  | .tables _ => .sequence

def Toml.Value.asString (expected : Expected) : Value → Except Mismatch String
  | .string text => .ok text
  | v => .error ⟨v.found, expected⟩

def Toml.Value.asNatural : Value → Except Mismatch Nat
  | .integer value => if 0 ≤ value then .ok value.toNat else .error ⟨.integer value, .natural⟩
  | v => .error ⟨v.found, .natural⟩

namespace GitSettings

def assign (g : GitSettings) (member : String × Value) : Except Mismatch GitSettings :=
  let (key, value) := member
  if key = "program" then do
    return { g with program := ← value.asString .text }
  else if key = "timeout_secs" then do
    return { g with timeoutSeconds := ← value.asNatural }
  else .ok g

/-- Takes the members of an array over, which are the program and the timeout. -/
def ofArray (items : List Value) : Except Mismatch GitSettings := do
  let g : GitSettings := {}
  let g ← match items[0]? with
    | some value => g.assign ("program", value)
    | none => .ok g
  match items[1]? with
    | some value => g.assign ("timeout_secs", value)
    | none => .ok g

/-- The settings that a value gives: a table, an array, or a date or time that gives none. -/
def decode : Value → Except Mismatch GitSettings
  | .table _ entries => entries.foldlM assign {}
  | .array items => ofArray items
  | .tables items => ofArray (items.map (Value.table .header))
  | .moment => .ok {}
  | v => .error ⟨v.found, .toolSettings⟩

end GitSettings

namespace Config

/-! ## Reading -/

def assign (c : Config) (member : String × Value) : Except Mismatch Config :=
  let (key, value) := member
  if key = "version" then do
    return { c with version := some (← value.asString .text) }
  else if key = "src_dir" then do
    return { c with srcDir := ⟨← value.asString .path⟩ }
  else if key = "header_name" then do
    return { c with headerName := ← value.asString .text }
  else if key = "hook_target" then do
    return { c with hookTarget := ← value.asString .text }
  else if key = "git" then do
    return { c with git := ← GitSettings.decode value }
  else .ok c

def decode (entries : Entries) : Except Mismatch Config :=
  entries.foldlM assign {}

/-- The settings that a text gives, if they are valid. -/
def parse (text : String) : Except ConfigFault Config := do
  match Toml.parse? text with
  | none => throw .malformed
  | some entries =>
      let c ← (decode entries).mapError .mismatch
      c.validate
      return c

/-! ## Writing -/

def settingLine (key value : String) : String :=
  key ++ " = " ++ value ++ "\n"

/-- A text that gives all settings, of which only the version may be missing.  A timeout beyond the
integers of the format cannot be given. -/
def text (c : Config) : Except Error String :=
  match Toml.integerText? c.git.timeoutSeconds with
  | none => .error .timeoutTooLarge
  | some timeout =>
      let version :=
        match c.version with
        | some version => settingLine "version" (Toml.quote version)
        | none => ""
      .ok <|
        version ++ settingLine "src_dir" (Toml.quote c.srcDir.text) ++
          settingLine "header_name" (Toml.quote c.headerName) ++
          settingLine "hook_target" (Toml.quote c.hookTarget) ++ "\n[git]\n" ++
          settingLine "program" (Toml.quote c.git.program) ++
          settingLine "timeout_secs" timeout

end Config

/-! ## Files -/

/-- The file in which the settings of a project are, if no other is named. -/
def Environment.configPath (e : Environment) : Path :=
  if e.configFile = "" then ⟨"fwstamp.toml"⟩ else ⟨e.configFile⟩

namespace Config

/-- Reads the settings of a file.  Its directory is seen from where the file is seen. -/
def load (home : Option String) (cwd : Place) (files : FileSystem) (path : Path) :
    Except Error Config := do
  let text ← (files.readText cwd path).mapError .io
  let c ← (Config.parse text).mapError .config
  return c.anchoredAt home path

def missingEvent (path : Path) : Log.Event :=
  ⟨.debug, "fwstamp_core::config", "No config at " ++ path.text ++ ", using defaults"⟩

/-- Reads the settings of a file, or takes the defaults if nothing is there. -/
def loadOrDefault (home : Option String) (cwd : Place) (files : FileSystem) (path : Path) :
    Except Error Config × List Log.Event :=
  if files.has cwd path then (load home cwd files path, [])
  else (.ok (({} : Config).anchoredAt home path), [missingEvent path])

/-- Writes the settings into a file.  The text is made before the file is touched. -/
def save (cwd : Place) (files : FileSystem) (path : Path) (c : Config) :
    Except Error FileSystem := do
  let text ← c.text
  (files.writeText cwd path text).mapError .io

end Config

/-! ## Directories that are no texts -/

/-- The settings of a firmware project whose directory may be any path of the system. -/
structure RawConfig where
  version : Option String := none
  srcDir : RawPath := .ofPath ⟨"src"⟩
  headerName : String := "build_info.h"
  hookTarget : String := "buildprog"
  git : GitSettings := {}
  deriving DecidableEq, Repr

namespace RawConfig

def ofConfig (c : Config) : RawConfig :=
  { version := c.version, srcDir := .ofPath c.srcDir, headerName := c.headerName,
    hookTarget := c.hookTarget, git := c.git }

def toConfig? (c : RawConfig) : Option Config :=
  c.srcDir.toPath?.map fun srcDir =>
    { version := c.version, srcDir, headerName := c.headerName, hookTarget := c.hookTarget,
      git := c.git }

/-- Settings read from `file`, with the directory seen from where `file` is seen. -/
def anchoredAt (home : Option String) (file : RawPath) (c : Config) : RawConfig :=
  let srcDir := RawPath.ofPath (c.srcDir.expandTilde home)
  match file.parent? with
  | some base =>
      if !srcDir.isAbsolute && base.octets ≠ [] then
        { ofConfig c with srcDir := base.join srcDir }
      else { ofConfig c with srcDir }
  | none => { ofConfig c with srcDir }

def ofText (home : Option String) (file : RawPath) (text : String) : Except Error RawConfig := do
  let c ← (Config.parse text).mapError .config
  return anchoredAt home file c

/-- A text that gives all settings.  A directory that is no text cannot be given. -/
def text (c : RawConfig) : Except Error String :=
  match c.toConfig? with
  | some c => c.text
  | none => .error .directoryNotText

def save (cwd : Place) (files : FileSystem) (path : Path) (c : RawConfig) :
    Except Error FileSystem := do
  let text ← c.text
  (files.writeText cwd path text).mapError .io

end RawConfig
end BuildStamp
